import NodeConsole.Proofs.Json.Numbers
import NodeConsole.Proofs.Text.Utf8
import NodeConsole.Json.Printer
/-!
Integers in decimal. A natural below `2 ^ 64` is read back from its digits, and digits alone make up a
number that is such a natural: a sign, a point, an exponent or more digits make it another one.
-/

namespace NodeConsole.Json

def decimal (n : Nat) : List UInt8 :=
  Utf8.encode (Nat.toDigits 10 n)

example : decimal 0 = [0x30] ∧ decimal 105 = [0x31, 0x30, 0x35] := by decide

/-! ## Digits -/

theorem decimal_of_lt {d : Nat} (small : d < 10) : decimal d = [UInt8.ofNat (48 + d)] := by
  have each : ∀ d < 10, decimal d = [UInt8.ofNat (48 + d)] := by decide
  exact each d small

theorem decimal_append {m d : Nat} (positive : 0 < m) (small : d < 10) :
    decimal (10 * m + d) = decimal m ++ decimal d := by
  rw [decimal, ← Nat.toDigits_append_toDigits (by decide) positive small, Utf8.encode_append]
  rfl

theorem decimal_of_le {n : Nat} (large : 10 ≤ n) :
    decimal n = decimal (n / 10) ++ [UInt8.ofNat (48 + n % 10)] := by
  have small : n % 10 < 10 := Nat.mod_lt n (by decide)
  have whole := decimal_append (m := n / 10) (by omega) small
  rwa [Nat.div_add_mod, decimal_of_lt small] at whole

theorem digitValue_ofNat {d : Nat} (small : d < 10) :
    isDigit (UInt8.ofNat (48 + d)) = true ∧ digitValue (UInt8.ofNat (48 + d)) = d := by
  have each : ∀ d < 10, isDigit (UInt8.ofNat (48 + d)) = true ∧
      digitValue (UInt8.ofNat (48 + d)) = d := by decide
  exact each d small

theorem digitValue_lt {byte : UInt8} (digit : isDigit byte = true) : digitValue byte < 10 := by
  simp only [isDigit, Bool.and_eq_true, decide_eq_true_eq, UInt8.le_iff_toNat_le] at digit
  have most : byte.toNat ≤ 57 := digit.2
  rw [digitValue]
  omega

theorem decimal_digitValue {byte : UInt8} (digit : isDigit byte = true) :
    decimal (digitValue byte) = [byte] := by
  have small := digitValue_lt digit
  simp only [isDigit, Bool.and_eq_true, decide_eq_true_eq, UInt8.le_iff_toNat_le] at digit
  have least : 48 ≤ byte.toNat := digit.1
  have value : 48 + digitValue byte = byte.toNat := by
    rw [digitValue]
    omega
  rw [decimal_of_lt small, value, UInt8.ofNat_toNat]

theorem digitValue_pos {byte : UInt8} (digit : isDigit byte = true) (noZero : byte ≠ 0x30) :
    0 < digitValue byte := by
  apply Nat.pos_of_ne_zero
  intro zero
  have single := decimal_digitValue digit
  rw [zero] at single
  exact noZero (List.cons.inj single).1.symm

theorem decimal_spec (n : Nat) :
    (∀ byte ∈ decimal n, isDigit byte = true) ∧
      ∃ first more, decimal n = first :: more ∧ (0 < n → first ≠ 0x30) := by
  -- By the number of digits: all but the last are those of a smaller natural.
  induction n using Nat.strong_induction_on with
  | _ n induction =>
      by_cases small : n < 10
      · rw [decimal_of_lt small]
        refine ⟨?_, _, [], rfl, ?_⟩
        · intro byte member
          rw [List.mem_singleton] at member
          rw [member]
          exact (digitValue_ofNat small).1
        · intro positive zero
          have value := (digitValue_ofNat small).2
          rw [zero] at value
          have none : digitValue 0x30 = 0 := rfl
          omega
      · rcases induction (n / 10) (by omega) with ⟨digits, first, more, begins, noZero⟩
        rw [decimal_of_le (Nat.le_of_not_lt small)]
        refine ⟨?_, first, more ++ [UInt8.ofNat (48 + n % 10)], ?_, fun _ => noZero (by omega)⟩
        · intro byte member
          rcases List.mem_append.mp member with early | last
          · exact digits byte early
          · rw [List.mem_singleton] at last
            rw [last]
            exact (digitValue_ofNat (Nat.mod_lt n (by decide))).1
        · rw [begins, List.cons_append]

/-! ## Significands -/

theorem gather_append {s n : Nat} {front : List UInt8} (gathered : gather s front = (n, 0))
    (back : List UInt8) : gather s (front ++ back) = gather n back := by
  induction front generalizing s with
  | nil =>
      cases gathered
      rfl
  | cons byte more induction =>
      rw [gather] at gathered
      split at gathered
      · next fits =>
        rw [List.cons_append, gather, if_pos fits, induction gathered]
      · cases gathered

theorem gather_decimal {n : Nat} (bound : n < 0x10000000000000000) : gather 0 (decimal n) = (n, 0) := by
  induction n using Nat.strong_induction_on with
  | _ n induction =>
      have last {s d : Nat} (small : d < 10) (fits : s * 10 + d < 0x10000000000000000) :
          gather s [UInt8.ofNat (48 + d)] = (s * 10 + d, 0) := by
        rw [gather, (digitValue_ofNat small).2]
        exact if_pos fits
      by_cases small : n < 10
      · have single := last (s := 0) small (by omega)
        rwa [Nat.zero_mul, Nat.zero_add, ← decimal_of_lt small] at single
      · have front := induction (n / 10) (by omega) (by omega)
        rw [decimal_of_le (Nat.le_of_not_lt small), gather_append front,
          last (Nat.mod_lt n (by decide)) (by omega), Nat.div_add_mod']

theorem of_gather_eq {s n : Nat} {digits : List UInt8} (positive : 0 < s) (bound : s < 0x10000000000000000)
    (all : ∀ byte ∈ digits, isDigit byte = true) (gathered : gather s digits = (n, 0)) :
    n < 0x10000000000000000 ∧ decimal n = decimal s ++ digits := by
  induction digits generalizing s with
  | nil =>
      cases gathered
      exact ⟨bound, (List.append_nil _).symm⟩
  | cons byte more induction =>
      have digit := all byte (by simp)
      rw [gather] at gathered
      split at gathered
      · next fits =>
        rcases induction (by omega) fits (fun other member => all other (List.mem_cons_of_mem _ member))
          gathered with ⟨within, digits⟩
        refine ⟨within, ?_⟩
        rw [digits, Nat.mul_comm, decimal_append positive (digitValue_lt digit),
          decimal_digitValue digit, List.append_assoc, List.singleton_append]
      · cases gathered

theorem of_gather_zero {n : Nat} {byte : UInt8} {more : List UInt8} (noZero : byte ≠ 0x30)
    (all : ∀ digit ∈ byte :: more, isDigit digit = true)
    (gathered : gather 0 (byte :: more) = (n, 0)) : n < 0x10000000000000000 ∧ decimal n = byte :: more := by
  have digit := all byte (by simp)
  have small := digitValue_lt digit
  have fits : 0 * 10 + digitValue byte < Nat.pow 2 64 :=
    lt_trans (by omega) (by decide : 10 < Nat.pow 2 64)
  rw [gather, if_pos fits, Nat.zero_mul, Nat.zero_add] at gathered
  have read := of_gather_eq (digitValue_pos digit noZero) (by omega)
    (fun other member => all other (List.mem_cons_of_mem _ member)) gathered
  rwa [decimal_digitValue digit, List.singleton_append] at read

/-! ## Numbers -/

section

variable {negative : Bool} {n : Nat} {s rest behind : List UInt8} {i : Int}

theorem numberScan_whole (n : Nat) (stops : ∀ byte ∈ s.head?, isDigit byte = false) :
    numberScan negative (decimal n ++ s) =
      afterWholeScan negative (gather 0 (decimal n)).1 (gather 0 (decimal n)).2 s := by
  by_cases positive : 0 < n
  · rcases decimal_spec n with ⟨all, first, more, digits, noZero⟩
    rw [digits] at all
    rw [digits]
    exact numberScan_digits (noZero positive) all stops
  · have zero : n = 0 := Nat.eq_zero_of_not_pos positive
    subst zero
    exact numberScan_zero stops

theorem numberScan_decimal (bound : n < 0x10000000000000000) (ends : EndsNumber behind) :
    numberScan negative (decimal n ++ behind) = integerScan negative n behind := by
  rw [numberScan_whole n ends.noDigit, gather_decimal bound, afterWholeScan_of_endsNumber ends, if_pos rfl]

theorem float_of_floatScan {significand : Nat} {exponent : Int} {found : Number}
    (read : floatScan negative significand exponent s = .ok (found, rest)) : ∃ x, found = .float x := by
  rw [floatScan] at read
  split at read
  · cases read
    exact ⟨_, rfl⟩
  · cases read

theorem float_of_exponentDigits {raises : Bool} {significand exponent : Nat} {start : Int}
    {found : Number}
    (read : exponentDigits negative significand start raises exponent s = .ok (found, rest)) :
    ∃ x, found = .float x := by
  induction s generalizing exponent with
  | nil => exact float_of_floatScan read
  | cons byte tail induction =>
      rw [exponentDigits] at read
      dsimp only at read
      split at read
      · split at read
        · exact induction read
        · split at read
          · cases read
          · cases read
            exact ⟨_, rfl⟩
      · exact float_of_floatScan read

theorem float_of_exponentScan {significand : Nat} {start : Int} {found : Number}
    (read : exponentScan negative significand start s = .ok (found, rest)) : ∃ x, found = .float x := by
  rcases of_exponentScan_eq_ok read with ⟨byte, tail, digit, same | ⟨sign, raises, isSign, same⟩⟩
  · rw [same, exponentScan_digit digit] at read
    exact float_of_exponentDigits read
  · rw [same, exponentScan_sign isSign digit] at read
    exact float_of_exponentDigits read

theorem float_of_fractionScan {significand : Nat} {start : Int} {found : Number}
    (read : fractionScan negative significand start s = .ok (found, rest)) : ∃ x, found = .float x := by
  rw [fractionScan] at read
  dsimp only at read
  split at read
  · cases read
  · cases read
  · exact float_of_exponentScan read
  · exact float_of_exponentScan read
  · exact float_of_floatScan read

theorem integer_of_afterWholeScan {significand left : Nat}
    (read : afterWholeScan negative significand left s = .ok (.integer i, rest)) :
    left = 0 ∧ integerScan negative significand s = .ok (.integer i, rest) := by
  have noFloat : ¬∃ x, Number.integer i = .float x := by
    intro isFloat
    rcases isFloat with ⟨x, same⟩
    cases same
  rw [afterWholeScan.eq_def] at read
  split at read
  · exact absurd (float_of_fractionScan read) noFloat
  · exact absurd (float_of_exponentScan read) noFloat
  · exact absurd (float_of_exponentScan read) noFloat
  · split at read
    · next whole => exact ⟨whole, read⟩
    · exact absurd (float_of_floatScan read) noFloat

theorem of_integerScan_false {significand : Nat}
    (read : integerScan false significand s = .ok (.integer i, rest)) : i = significand ∧ rest = s := by
  rw [integerScan, if_neg Bool.false_ne_true] at read
  cases read
  exact ⟨rfl, rfl⟩

theorem neg_of_numberScan (read : numberScan true s = .ok (.integer i, rest)) : i < 0 := by
  have ofWhole {significand left : Nat} {s : List UInt8}
      (read : afterWholeScan true significand left s = .ok (.integer i, rest)) : i < 0 := by
    have whole := (integer_of_afterWholeScan read).2
    rw [integerScan, if_pos rfl] at whole
    split at whole
    · cases whole
    · next bounds =>
      cases whole
      omega
  rcases of_numberScan_eq_ok read with ⟨_, _, _, whole⟩ | ⟨_, _, _, _, _, _, _, whole⟩
  · exact ofWhole whole
  · exact ofWhole whole

/-- An integer without a sign is a natural below `2 ^ 64`, and was read from its digits. -/
theorem of_numberScan_integer (read : numberScan false s = .ok (.integer i, rest)) :
    ∃ n : Nat, i = n ∧ n < 0x10000000000000000 ∧ s = decimal n ++ rest := by
  rcases of_numberScan_eq_ok read with
    ⟨tail, begins, _, whole⟩ | ⟨byte, more, tail, noZero, all, _, begins, whole⟩
  · rcases of_integerScan_false (integer_of_afterWholeScan whole).2 with ⟨value, same⟩
    refine ⟨0, value, by decide, ?_⟩
    rw [begins, same]
    rfl
  · rcases integer_of_afterWholeScan whole with ⟨none, integer⟩
    rcases of_integerScan_false integer with ⟨value, same⟩
    rcases of_gather_zero noZero all (Prod.ext rfl none) with ⟨bound, digits⟩
    refine ⟨_, value, bound, ?_⟩
    rw [begins, digits, same]

end

end NodeConsole.Json
