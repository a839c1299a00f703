import Mathlib.Data.List.Basic
import NodeConsole.Proofs.Url.HostEnds
import NodeConsole.Proofs.Text.Utf8
import NodeConsole.Url.Parser
/-!
What an encoded text stands for. Encoding the characters of a class changes no byte that the text stands
for, also where a percent sign of the text has no digits after it and an encoded character follows.
-/

namespace NodeConsole.Url

/-- A class of characters that encoding can take without a change of meaning: it holds everything
outside of ASCII, but neither the percent sign nor a digit that could follow one. -/
structure IsEscapeClass (escaped : Char → Bool) : Prop where
  wide : ∀ c, 0x80 ≤ c.toNat → escaped c = true
  percent : escaped '%' = false
  digit : ∀ byte, percentValue? byte ≠ none → escaped (Char.ofNat byte.toNat) = false

theorem isEscapeClass_of_digits {escaped : Char → Bool}
    (wide : ∀ c, 0x80 ≤ c.toNat → escaped c = true)
    (kept : "%0123456789ABCDEFabcdef".toList.all (!escaped ·) = true) : IsEscapeClass escaped where
  wide := wide
  percent := by simpa using List.all_eq_true.mp kept '%' (by decide)
  digit := by
    have listed : ∀ n < 256, percentValue? (UInt8.ofNat n) ≠ none →
        Char.ofNat n ∈ "%0123456789ABCDEFabcdef".toList := by decide +kernel
    intro byte isDigit
    rw [← UInt8.ofNat_toNat (x := byte)] at isDigit
    simpa using List.all_eq_true.mp kept _ (listed byte.toNat byte.toNat_lt isDigit)

theorem isEscapeClass_path : IsEscapeClass escapedInPath := by
  apply isEscapeClass_of_digits
  · intro c wide
    have controls : escapedInText c = true := by
      simp only [escapedInText, Bool.or_eq_true, decide_eq_true_eq]
      omega
    simp [escapedInPath, escapedInFragment, controls]
  · decide

theorem isEscapeClass_query (scheme : List Char) :
    IsEscapeClass (if isSpecial scheme then escapedInSpecialQuery else escapedInQuery) := by
  have controls (c : Char) (wide : 0x80 ≤ c.toNat) : escapedInText c = true := by
    simp only [escapedInText, Bool.or_eq_true, decide_eq_true_eq]
    omega
  split
  · apply isEscapeClass_of_digits
    · intro c wide
      simp [escapedInSpecialQuery, escapedInQuery, controls c wide]
    · decide
  · apply isEscapeClass_of_digits
    · intro c wide
      simp [escapedInQuery, controls c wide]
    · decide

/-! ## Bytes -/

def writtenByte (escaped : Char → Bool) (byte : UInt8) : List UInt8 :=
  if 0x80 ≤ byte.toNat ∨ escaped (Char.ofNat byte.toNat) = true then Utf8.encode (percentByte byte)
  else [byte]

def digitByte (n : Nat) : UInt8 :=
  UInt8.ofNat (percentDigit n).toNat

theorem percentValue?_digitByte : ∀ n < 16, percentValue? (digitByte n) = some n := by
  decide

theorem encode_percentByte (byte : UInt8) :
    Utf8.encode (percentByte byte) =
      [0x25, digitByte (byte.toNat / 16), digitByte (byte.toNat % 16)] := by
  have digit : ∀ n < 16, String.utf8EncodeChar (percentDigit n) = [digitByte n] := by
    decide
  have mark : String.utf8EncodeChar '%' = [0x25] := by decide
  have bound := byte.toNat_lt
  rw [percentByte, Utf8.encode, List.flatMap_cons, List.flatMap_cons, List.flatMap_singleton, mark,
    digit _ (by omega), digit _ (by omega)]
  rfl

theorem percentDecode_percentByte (byte : UInt8) (rest : List UInt8) :
    percentDecode (Utf8.encode (percentByte byte) ++ rest) = byte :: percentDecode rest := by
  have bound := byte.toNat_lt
  have high := percentValue?_digitByte (byte.toNat / 16) (by omega)
  have low := percentValue?_digitByte (byte.toNat % 16) (by omega)
  rw [encode_percentByte]
  simp [percentDecode, high, low, Nat.div_add_mod']

def StartsWithPair (bytes : List UInt8) : Prop :=
  ∃ high low rest, bytes = high :: low :: rest ∧ percentValue? high ≠ none ∧ percentValue? low ≠ none

theorem percentDecode_mark {rest : List UInt8} (noPair : ¬StartsWithPair rest) :
    percentDecode (0x25 :: rest) = 0x25 :: percentDecode rest := by
  match rest with
  | [] => rfl
  | [_] => rfl
  | high :: low :: more =>
      rw [percentDecode]
      split
      · next h l isHigh isLow =>
        exact absurd ⟨high, low, more, rfl, by simp [isHigh], by simp [isLow]⟩ noPair
      · rfl

theorem writtenByte_of_digit {escaped : Char → Bool} (escapes : IsEscapeClass escaped) {byte : UInt8}
    (isDigit : percentValue? byte ≠ none) : writtenByte escaped byte = [byte] := by
  have ascii : byte.toNat < 0x80 := by
    rw [percentValue?] at isDigit
    grind
  rw [writtenByte, if_neg]
  simp [escapes.digit byte isDigit, ascii]

theorem writtenByte_mark {escaped : Char → Bool} (escapes : IsEscapeClass escaped) :
    writtenByte escaped 0x25 = [0x25] := by
  have kept := escapes.percent
  rw [writtenByte, if_neg]
  simpa using kept

theorem percentDecode_writtenByte {escaped : Char → Bool} {byte : UInt8} (noMark : byte ≠ 0x25)
    (rest : List UInt8) :
    percentDecode (writtenByte escaped byte ++ rest) = byte :: percentDecode rest := by
  rw [writtenByte]
  split
  · exact percentDecode_percentByte byte rest
  · exact percentDecode_cons_of_ne noMark rest

theorem eq_cons_of_written_digit {escaped : Char → Bool} {bytes more : List UInt8} {digit : UInt8}
    (isDigit : percentValue? digit ≠ none)
    (written : bytes.flatMap (writtenByte escaped) = digit :: more) :
    ∃ rest, bytes = digit :: rest ∧ more = rest.flatMap (writtenByte escaped) := by
  cases bytes with
  | nil => cases written
  | cons first rest =>
      rw [List.flatMap_cons, writtenByte] at written
      split at written
      · rw [encode_percentByte] at written
        have mark := (List.cons.inj written).1
        subst mark
        exact absurd (by decide) isDigit
      · rcases List.cons.inj written with ⟨rfl, same⟩
        exact ⟨rest, rfl, same.symm⟩

theorem startsWithPair_of_written {escaped : Char → Bool} {bytes : List UInt8}
    (pair : StartsWithPair (bytes.flatMap (writtenByte escaped))) : StartsWithPair bytes := by
  rcases pair with ⟨high, low, more, written, isHigh, isLow⟩
  rcases eq_cons_of_written_digit isHigh written with ⟨rest, rfl, behind⟩
  rcases eq_cons_of_written_digit isLow behind.symm with ⟨last, rfl, _⟩
  exact ⟨high, low, last, rfl, isHigh, isLow⟩

/-- Bytes that were written stand for what the bytes themselves stand for. -/
theorem percentDecode_flatMap_writtenByte {escaped : Char → Bool} (escapes : IsEscapeClass escaped)
    (bytes : List UInt8) :
    percentDecode (bytes.flatMap (writtenByte escaped)) = percentDecode bytes := by
  fun_induction percentDecode bytes with
  | case1 high low rest h l isLow isHigh induction =>
      have highKept : writtenByte escaped high = [high] :=
        writtenByte_of_digit escapes (by simp [isHigh])
      have lowKept : writtenByte escaped low = [low] :=
        writtenByte_of_digit escapes (by simp [isLow])
      rw [List.flatMap_cons, List.flatMap_cons, List.flatMap_cons, writtenByte_mark escapes, highKept,
        lowKept]
      simp [percentDecode, isHigh, isLow, induction]
  | case2 high low rest noPair induction =>
      rw [List.flatMap_cons, writtenByte_mark escapes, List.singleton_append, percentDecode_mark,
        induction]
      intro pair
      rcases startsWithPair_of_written pair with ⟨_, _, _, same, isHigh, isLow⟩
      cases same
      rcases Option.ne_none_iff_exists'.mp isHigh with ⟨h, highValue⟩
      rcases Option.ne_none_iff_exists'.mp isLow with ⟨l, lowValue⟩
      exact noPair h l highValue lowValue
  | case3 first rest notPair induction =>
      rw [List.flatMap_cons]
      by_cases isMark : first = 0x25
      · subst isMark
        rw [writtenByte_mark escapes, List.singleton_append, percentDecode_mark, induction]
        intro pair
        rcases startsWithPair_of_written pair with ⟨high, low, more, rfl, _⟩
        exact notPair high low more rfl rfl
      · rw [percentDecode_writtenByte isMark, induction]
  | case4 => rfl

/-! ## Texts -/

theorem encode_percentChar {escaped : Char → Bool} (escapes : IsEscapeClass escaped) (c : Char) :
    Utf8.encode (percentChar escaped c) = (Utf8.encode [c]).flatMap (writtenByte escaped) := by
  by_cases ascii : c.toNat < 0x80
  · have byte : (UInt8.ofNat c.toNat).toNat = c.toNat := by
      rw [UInt8.toNat_ofNat']
      omega
    have bytes : Utf8.encode [c] = [UInt8.ofNat c.toNat] := by
      rw [Utf8.encode_singleton, Utf8.utf8EncodeChar_of_lt ascii]
    have inside : ¬0x80 ≤ c.toNat := Nat.not_le_of_lt ascii
    rw [percentChar, bytes, List.flatMap_singleton, List.flatMap_singleton, writtenByte, byte,
      Char.ofNat_toNat]
    by_cases isEscaped : escaped c = true
    · rw [if_pos isEscaped, if_pos (.inr isEscaped)]
    · rw [if_neg isEscaped, if_neg (by simp [inside, isEscaped]), bytes]
  · have wide : 0x80 ≤ c.toNat := Nat.le_of_not_lt ascii
    have written : ∀ byte ∈ Utf8.encode [c], writtenByte escaped byte = Utf8.encode (percentByte byte) := by
      intro byte member
      rw [Utf8.encode_singleton] at member
      rw [writtenByte, if_pos (.inl (Utf8.le_of_mem_utf8EncodeChar wide member))]
    rw [percentChar, if_pos (escapes.wide c wide), List.flatMap_congr written]
    exact List.flatMap_assoc

theorem encode_percentEncode {escaped : Char → Bool} (escapes : IsEscapeClass escaped)
    (text : List Char) :
    Utf8.encode (percentEncode escaped text) = (Utf8.encode text).flatMap (writtenByte escaped) := by
  induction text with
  | nil => rfl
  | cons c rest induction =>
      rw [percentEncode] at induction
      rw [percentEncode, List.flatMap_cons, Utf8.encode_append, encode_percentChar escapes, induction,
        ← List.flatMap_append, Utf8.encode_singleton, ← Utf8.encode_cons]

/-- An encoded text stands for the bytes that the text itself stands for. -/
theorem percentDecode_percentEncode {escaped : Char → Bool} (escapes : IsEscapeClass escaped)
    (text : List Char) :
    percentDecode (Utf8.encode (percentEncode escaped text)) = percentDecode (Utf8.encode text) := by
  rw [encode_percentEncode escapes, percentDecode_flatMap_writtenByte escapes]

/-- Percent signs without digits, escapes of the text itself and characters that are escaped. -/
example : percentDecode (Utf8.encode (percentEncode escapedInPath "% %4 é%41".toList)) =
    Utf8.bytes "% %4 éA" := by
  decide

end NodeConsole.Url
