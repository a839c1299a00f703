import NodeConsole.Json.Printer
import NodeConsole.Json.Scanner
import NodeConsole.Proofs.Text.Utf8
/-!
Strings that were written are read back, whatever stands behind them.
-/

namespace NodeConsole.Json

/-! ## Bytes of a string -/

def IsPlain (byte : UInt8) : Prop :=
  byte ≠ 0x22 ∧ byte ≠ 0x5C ∧ 0x20 ≤ byte.toNat

theorem stringBytesScan_close (done rest : List UInt8) :
    stringBytesScan done (0x22 :: rest) = .ok (done.reverse, rest) := by
  rw [stringBytesScan]

theorem stringBytesScan_escape {bytes s rest : List UInt8} (read : escapeScan s = .ok (bytes, rest))
    (done : List UInt8) :
    stringBytesScan done (0x5C :: s) = stringBytesScan (bytes.reverse ++ done) rest := by
  rw [stringBytesScan]
  split
  · next fault failed =>
    rw [read] at failed
    cases failed
  · next found after taken =>
    rw [read] at taken
    cases taken
    rfl

theorem stringBytesScan_plain {byte : UInt8} (plain : IsPlain byte) (done rest : List UInt8) :
    stringBytesScan done (byte :: rest) = stringBytesScan (byte :: done) rest := by
  have visible : ¬byte < 0x20 := by
    rw [UInt8.lt_iff_toNat_lt]
    exact Nat.not_lt_of_le plain.2.2
  rw [stringBytesScan, if_neg visible]
  · exact plain.1
  · exact plain.2.1

theorem stringBytesScan_append {bytes : List UInt8} (plain : ∀ byte ∈ bytes, IsPlain byte)
    (done rest : List UInt8) :
    stringBytesScan done (bytes ++ rest) = stringBytesScan (bytes.reverse ++ done) rest := by
  induction bytes generalizing done with
  | nil => rfl
  | cons byte more induction =>
      rw [List.cons_append, stringBytesScan_plain (plain byte (by simp)),
        induction (fun other member => plain other (List.mem_cons_of_mem _ member)), List.reverse_cons,
        List.append_assoc, List.singleton_append]

/-! ## Escapes -/

theorem escapeScan_short {byte meant : UInt8} (short : shortEscape? byte = some meant)
    (noUnit : byte ≠ 0x75) (rest : List UInt8) : escapeScan (byte :: rest) = .ok ([meant], rest) := by
  rw [escapeScan, if_neg noUnit, short]

theorem escapeScan_control {n : Nat} (control : n < 0x20) (rest : List UInt8) :
    escapeScan (0x75 :: Utf8.encode ['0', '0', hexDigit (n / 16), hexDigit (n % 16)] ++ rest) =
      .ok (Utf8.encode [Char.ofNat n], rest) := by
  have digit : ∀ d < 16, Utf8.encode [hexDigit d] = [UInt8.ofNat (hexDigit d).toNat] ∧
      hexValue? (UInt8.ofNat (hexDigit d).toNat) = some d := by decide
  rcases digit (n / 16) (by omega) with ⟨highWritten, highRead⟩
  rcases digit (n % 16) (by omega) with ⟨lowWritten, lowRead⟩
  have written : Utf8.encode ['0', '0', hexDigit (n / 16), hexDigit (n % 16)] =
      [0x30, 0x30, UInt8.ofNat (hexDigit (n / 16)).toNat, UInt8.ofNat (hexDigit (n % 16)).toNat] := by
    rw [Utf8.encode_cons, Utf8.encode_cons, Utf8.encode_cons, ← Utf8.encode_singleton (hexDigit (n / 16)),
      highWritten, lowWritten]
    rfl
  have zero : hexValue? 0x30 = some 0 := by decide
  have value : ((0 * 16 + 0) * 16 + n / 16) * 16 + n % 16 = n := by omega
  rw [written]
  simp only [escapeScan, unitScan, hexScan, List.cons_append, List.nil_append, if_true, zero, highRead,
    lowRead, value]
  rw [if_neg (by omega), if_neg (by omega)]

theorem isPlain_of_mem_utf8EncodeChar {c : Char} (quote : c ≠ '"') (slash : c ≠ '\\')
    (visible : ¬c.toNat < 0x20) : ∀ byte ∈ String.utf8EncodeChar c, IsPlain byte := by
  intro byte member
  by_cases ascii : c.toNat < 0x80
  · rw [Utf8.utf8EncodeChar_of_lt ascii, List.mem_singleton] at member
    have value : byte.toNat = c.toNat := by
      rw [member, UInt8.toNat_ofNat']
      omega
    refine ⟨?_, ?_, by omega⟩
    · rintro rfl
      exact quote (Char.toNat_inj.mp value.symm)
    · rintro rfl
      exact slash (Char.toNat_inj.mp value.symm)
  · -- No byte of a character outside of ASCII is one of the marks.
    have high := Utf8.le_of_mem_utf8EncodeChar (Nat.le_of_not_lt ascii) member
    refine ⟨?_, ?_, by omega⟩
    · rintro rfl
      exact absurd high (by decide)
    · rintro rfl
      exact absurd high (by decide)

theorem stringBytesScan_escapedChar (c : Char) (done rest : List UInt8) :
    stringBytesScan done (Utf8.encode (escapedChar c) ++ rest) =
      stringBytesScan ((Utf8.encode [c]).reverse ++ done) rest := by
  have short (letter meant : UInt8) (escape : shortEscape? letter = some meant) (noUnit : letter ≠ 0x75) :
      stringBytesScan done (0x5C :: letter :: rest) = stringBytesScan ([meant].reverse ++ done) rest :=
    stringBytesScan_escape (escapeScan_short escape noUnit rest) done
  fun_cases escapedChar c with
  | case1 =>
      subst_vars
      exact short 0x22 0x22 (by decide) (by decide)
  | case2 =>
      subst_vars
      exact short 0x5C 0x5C (by decide) (by decide)
  | case3 _ _ same => exact same ▸ short 0x62 0x08 (by decide) (by decide)
  | case4 _ _ _ same => exact same ▸ short 0x74 0x09 (by decide) (by decide)
  | case5 _ _ _ _ same => exact same ▸ short 0x6E 0x0A (by decide) (by decide)
  | case6 _ _ _ _ _ same => exact same ▸ short 0x66 0x0C (by decide) (by decide)
  | case7 _ _ _ _ _ _ same => exact same ▸ short 0x72 0x0D (by decide) (by decide)
  | case8 _ _ _ _ _ _ _ control =>
      have read := stringBytesScan_escape (escapeScan_control control rest) done
      rw [Char.ofNat_toNat] at read
      exact read
  | case9 quote slash _ _ _ _ _ visible =>
      rw [Utf8.encode_singleton]
      exact stringBytesScan_append (isPlain_of_mem_utf8EncodeChar quote slash visible) done rest

/-! ## Strings -/

theorem stringBytesScan_flatMap_escapedChar (text : List Char) (done rest : List UInt8) :
    stringBytesScan done (Utf8.encode (text.flatMap escapedChar) ++ rest) =
      stringBytesScan ((Utf8.encode text).reverse ++ done) rest := by
  induction text generalizing done with
  | nil => rfl
  | cons c text induction =>
      rw [List.flatMap_cons, Utf8.encode_append, List.append_assoc, stringBytesScan_escapedChar,
        induction, ← List.append_assoc, ← List.reverse_append, ← Utf8.encode_append,
        List.singleton_append]

theorem stringScan_written (text : String) (rest : List UInt8) :
    ∃ inside, Utf8.encode (stringChars text) = 0x22 :: inside ∧
      stringScan (inside ++ rest) = .ok (text, rest) := by
  refine ⟨Utf8.encode (text.toList.flatMap escapedChar) ++ [0x22], ?_, ?_⟩
  · rw [stringChars, List.cons_append, Utf8.encode_cons, Utf8.encode_append]
    rfl
  · rw [List.append_assoc, List.singleton_append, stringScan, stringBytesScan_flatMap_escapedChar,
      stringBytesScan_close, List.append_nil, List.reverse_reverse]
    simp only [Utf8.decode?_encode, String.ofList_toList]

end NodeConsole.Json
