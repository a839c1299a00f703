import NodeConsole.Proofs.Json.Decimals
import NodeConsole.Proofs.Json.Grammar
import NodeConsole.Proofs.Number.Magnitudes
/-!
The numbers of the grammar: what they mean, and that they are read as that. A number has a meaning unless it
is too large for the numbers there are.
-/

namespace NodeConsole.Json.Grammar

/-! ## Digits -/

def digitBytes (digits : List Digit) : List UInt8 :=
  Utf8.encode (digitChars digits)

def Digit.byte (digit : Digit) : UInt8 :=
  UInt8.ofNat (48 + digit)

theorem encode_digitChar (digit : Digit) : Utf8.encode [Nat.digitChar digit] = [Digit.byte digit] := by
  have each : ∀ digit : Digit, Utf8.encode [Nat.digitChar digit] = [Digit.byte digit] := by decide
  exact each digit

@[simp] theorem digitBytes_nil : digitBytes [] = [] :=
  rfl

@[simp] theorem digitBytes_cons (digit : Digit) (more : List Digit) :
    digitBytes (digit :: more) = Digit.byte digit :: digitBytes more := by
  rw [digitBytes, digitChars, List.map_cons, Utf8.encode_cons, ← Utf8.encode_singleton, encode_digitChar]
  rfl

@[simp] theorem length_digitBytes (digits : List Digit) : (digitBytes digits).length = digits.length := by
  induction digits with
  | nil => rfl
  | cons digit more induction => rw [digitBytes_cons, List.length_cons, induction, List.length_cons]

theorem Digit.isDigit_byte (digit : Digit) : isDigit digit.byte = true :=
  (digitValue_ofNat digit.isLt).1

theorem Digit.digitValue_byte (digit : Digit) : digitValue digit.byte = digit :=
  (digitValue_ofNat digit.isLt).2

theorem isDigit_of_mem_digitBytes {digits : List Digit} : ∀ byte ∈ digitBytes digits, isDigit byte = true := by
  induction digits with
  | nil => simp
  | cons digit more induction =>
      rw [digitBytes_cons]
      intro byte member
      rcases List.mem_cons.mp member with rfl | later
      · exact digit.isDigit_byte
      · exact induction byte later

def numberOf (start : Nat) (digits : List Digit) : Nat :=
  digits.foldl (fun number (digit : Digit) => number * 10 + digit) start

theorem le_numberOf (start : Nat) (digits : List Digit) : start ≤ numberOf start digits := by
  induction digits generalizing start with
  | nil => exact Nat.le_refl _
  | cons digit more induction =>
      have later := induction (start * 10 + digit)
      rw [numberOf, List.foldl_cons]
      exact Nat.le_trans (by omega) later

theorem gather_lt {start : Nat} (bound : start < Nat.pow 2 64) (digits : List UInt8) :
    (gather start digits).1 < Nat.pow 2 64 := by
  induction digits generalizing start with
  | nil => exact bound
  | cons digit more induction =>
      rw [gather]
      split
      · next fits => exact induction fits
      · exact bound

/-! ## Meanings -/

def Exponent.magnitude (exponent : Exponent) : Nat :=
  numberOf exponent.first exponent.more

def Exponent.raises (exponent : Exponent) : Bool :=
  exponent.sign != some .minus

def Numeral.wholePart (numeral : Numeral) : Nat × Nat :=
  gather 0 (decimal numeral.whole)

def Numeral.gathered (numeral : Numeral) : Nat × Nat :=
  gather numeral.wholePart.1 (digitBytes numeral.fraction)

def Numeral.scale (numeral : Numeral) : Int :=
  numeral.wholePart.2 - ((numeral.fraction.length : Int) - numeral.gathered.2)

def Numeral.significand (numeral : Numeral) : Nat :=
  numeral.gathered.1

section

variable {numeral : Numeral}

theorem Numeral.significand_lt (numeral : Numeral) : numeral.significand < Nat.pow 2 64 :=
  gather_lt (gather_lt (by decide) _) _

theorem Numeral.gathered_of_no_fraction (whole : numeral.fraction = []) :
    numeral.gathered = (numeral.wholePart.1, 0) := by
  rw [gathered, whole]
  rfl

theorem Numeral.significand_of_no_fraction (whole : numeral.fraction = []) :
    numeral.significand = numeral.wholePart.1 := by
  rw [significand, gathered_of_no_fraction whole]

theorem Numeral.scale_of_no_fraction (whole : numeral.fraction = []) :
    numeral.scale = numeral.wholePart.2 := by
  rw [scale, gathered_of_no_fraction whole, whole]
  simp

end

def signed (negative : Bool) (magnitude : Binary64) : Binary64 :=
  if negative then magnitude.negate else magnitude

def float? (negative : Bool) (significand : Nat) (power : Int) : Option Number :=
  (scaleByTen (.ofNat significand) power).map fun magnitude => .float (signed negative magnitude)

def integer (negative : Bool) (significand : Nat) : Number :=
  if negative then
    if significand = 0 ∨ Nat.pow 2 63 < significand then .float (Binary64.ofNat significand).negate
    else .integer (-significand)
  else .integer significand

def applied? (negative : Bool) (significand : Nat) (scale : Int) : Option Exponent → Option Number
  | none => float? negative significand scale
  | some exponent =>
    if exponent.magnitude < Nat.pow 2 31 then
      float? negative significand
        (if exponent.raises then scale + exponent.magnitude else scale - exponent.magnitude)
    else if exponent.raises && significand != 0 then none
    else some (.float (signed negative (.ofNat 0)))

def Numeral.meaning? (numeral : Numeral) : Option Number :=
  if numeral.fraction = [] ∧ numeral.exponent = none ∧ numeral.wholePart.2 = 0 then
    some (integer numeral.negative numeral.significand)
  else applied? numeral.negative numeral.significand numeral.scale numeral.exponent

/-! ## Reading -/

section

variable {behind : List UInt8}

theorem floatScan_toOption (negative : Bool) (significand : Nat) (power : Int) (rest : List UInt8) :
    (floatScan negative significand power rest).toOption = (float? negative significand power).map (·, rest) := by
  rw [floatScan, float?]
  cases scaleByTen (.ofNat significand) power with
  | none => rfl
  | some magnitude => rfl

theorem integerScan_eq (negative : Bool) (significand : Nat) (rest : List UInt8) :
    integerScan negative significand rest = .ok (integer negative significand, rest) := by
  rw [integerScan, integer]
  by_cases minus : negative = true
  · rw [if_pos minus, if_pos minus]
    by_cases unfit : significand = 0 ∨ Nat.pow 2 63 < significand
    · rw [if_pos unfit, if_pos unfit]
    · rw [if_neg unfit, if_neg unfit]
  · rw [if_neg minus, if_neg minus]

theorem exponentDigits_toOption (negative : Bool) (significand : Nat) (start : Int) (raises : Bool)
    (ends : EndsNumber behind) (digits : List Digit) {exponent : Nat} (bound : exponent < Nat.pow 2 31) :
    (exponentDigits negative significand start raises exponent (digitBytes digits ++ behind)).toOption =
      (if numberOf exponent digits < Nat.pow 2 31 then
        float? negative significand
          (if raises then start + numberOf exponent digits else start - numberOf exponent digits)
      else if raises && significand != 0 then none
      else some (.float (signed negative (.ofNat 0)))).map (·, behind) := by
  -- By induction on the digits. The exponent before them fits; once it does not, the others are passed over.
  induction digits generalizing exponent with
  | nil =>
      have same : numberOf exponent [] = exponent := rfl
      rw [digitBytes_nil, List.nil_append, exponentDigits_of_noDigit ends.noDigit, floatScan_toOption, same,
        if_pos bound]
  | cons digit more induction =>
      have same : numberOf exponent (digit :: more) = numberOf (exponent * 10 + digit) more := rfl
      rw [digitBytes_cons, List.cons_append, exponentDigits, if_pos digit.isDigit_byte, digit.digitValue_byte,
        same]
      dsimp only
      split
      · next fits => exact induction fits
      · next large =>
        have above := le_numberOf (exponent * 10 + digit) more
        rw [if_neg fun fits => large (Nat.lt_of_le_of_lt above fits)]
        split
        · rfl
        · rw [(takeWhile_append_of_digits isDigit_of_mem_digitBytes ends.noDigit).2]
          rfl

theorem exponentScan_toOption (negative : Bool) (significand : Nat) (start : Int) (ends : EndsNumber behind)
    (exponent : Exponent) :
    ∃ letter inside, (letter = 0x65 ∨ letter = 0x45) ∧ Utf8.encode exponent.chars = letter :: inside ∧
      (exponentScan negative significand start (inside ++ behind)).toOption =
        (applied? negative significand start (some exponent)).map (·, behind) := by
  rcases exponent with ⟨capital, sign, first, more⟩
  have letter : ∃ letter, (letter = 0x65 ∨ letter = 0x45) ∧
      String.utf8EncodeChar (if capital then 'E' else 'e') = [letter] := by
    cases capital with
    | true => exact ⟨0x45, .inr rfl, by decide⟩
    | false => exact ⟨0x65, .inl rfl, by decide⟩
  rcases letter with ⟨letter, isLetter, written⟩
  have bound : (first : Nat) < Nat.pow 2 31 := Nat.lt_trans first.isLt (by decide)
  have digits (raises : Bool) := exponentDigits_toOption negative significand start raises ends more bound
  have begins : digitBytes (first :: more) ++ behind = first.byte :: (digitBytes more ++ behind) := by
    rw [digitBytes_cons, List.cons_append]
  refine ⟨letter, Utf8.encode (sign.map Sign.char).toList ++ digitBytes (first :: more), isLetter, ?_, ?_⟩
  · rw [Exponent.chars, Utf8.encode_cons, written, Utf8.encode_append]
    rfl
  · rw [List.append_assoc, begins]
    cases sign with
    | none =>
        rw [Option.map_none, Option.toList_none, Utf8.encode, List.flatMap_nil, List.nil_append,
          exponentScan_digit first.isDigit_byte, first.digitValue_byte]
        exact digits true
    | some sign =>
        cases sign with
        | plus =>
            have mark : Utf8.encode (some Sign.plus.char).toList = [0x2B] := by decide
            rw [Option.map_some, mark, List.singleton_append,
              exponentScan_sign (.inl ⟨rfl, rfl⟩) first.isDigit_byte, first.digitValue_byte]
            exact digits true
        | minus =>
            have mark : Utf8.encode (some Sign.minus.char).toList = [0x2D] := by decide
            rw [Option.map_some, mark, List.singleton_append,
              exponentScan_sign (.inr ⟨rfl, rfl⟩) first.isDigit_byte, first.digitValue_byte]
            exact digits false

theorem afterFraction_toOption (negative : Bool) (significand : Nat) (start : Int) (ends : EndsNumber behind)
    (exponent : Option Exponent) :
    (afterFraction negative significand start
        (Utf8.encode ((exponent.map Exponent.chars).getD []) ++ behind)).toOption =
      (applied? negative significand start exponent).map (·, behind) := by
  cases exponent with
  | none => exact (congrArg Except.toOption (afterFraction_of_endsNumber ends)).trans (floatScan_toOption ..)
  | some exponent =>
      rcases exponentScan_toOption negative significand start ends exponent with
        ⟨letter, inside, isLetter, written, scanned⟩
      rw [Option.map_some, Option.getD_some, written, ← scanned]
      rcases isLetter with rfl | rfl <;> rfl

theorem noDigit_exponentChars (ends : EndsNumber behind) (exponent : Option Exponent) :
    ∀ byte ∈ (Utf8.encode ((exponent.map Exponent.chars).getD []) ++ behind).head?, isDigit byte = false := by
  cases exponent with
  | none => exact ends.noDigit
  | some exponent =>
      rcases exponentScan_toOption false 0 0 ends exponent with ⟨letter, inside, isLetter, written, _⟩
      rw [Option.map_some, Option.getD_some, written]
      intro byte first
      cases first
      rcases isLetter with rfl | rfl <;> rfl

end

theorem Numeral.afterWholeScan_toOption {behind : List UInt8} (ends : EndsNumber behind) (numeral : Numeral) :
    (afterWholeScan numeral.negative numeral.wholePart.1 numeral.wholePart.2
        (Utf8.encode (numeral.fractionChars ++ numeral.exponentChars) ++ behind)).toOption =
      numeral.meaning?.map (·, behind) := by
  rw [Utf8.encode_append, List.append_assoc, fractionChars]
  by_cases whole : numeral.fraction = []
  · rw [if_pos whole, meaning?, significand_of_no_fraction whole, scale_of_no_fraction whole, exponentChars]
    cases numeral.exponent with
    | none =>
        refine (congrArg Except.toOption (afterWholeScan_of_endsNumber ends)).trans ?_
        by_cases kept : numeral.wholePart.2 = 0
        · rw [if_pos kept, if_pos ⟨whole, rfl, kept⟩, integerScan_eq]
          rfl
        · rw [if_neg kept, if_neg fun all => kept all.2.2]
          exact floatScan_toOption ..
    | some exponent =>
        rcases exponentScan_toOption numeral.negative numeral.wholePart.1 numeral.wholePart.2 ends exponent with
          ⟨letter, inside, isLetter, written, scanned⟩
        have given : ¬(numeral.fraction = [] ∧ Option.some exponent = none ∧ numeral.wholePart.2 = 0) :=
          fun all => nomatch all.2.1
        rw [if_neg given, ← scanned, Option.map_some, Option.getD_some, written]
        rcases isLetter with rfl | rfl <;> rfl
  · have nonempty : digitBytes numeral.fraction ≠ [] := by
      rcases List.exists_cons_of_ne_nil whole with ⟨first, more, same⟩
      rw [same, digitBytes_cons]
      exact List.cons_ne_nil _ _
    have point : Utf8.encode ('.' :: digitChars numeral.fraction) = 0x2E :: digitBytes numeral.fraction := by
      rw [Utf8.encode_cons]
      rfl
    rw [if_neg whole, point, List.cons_append, meaning?, if_neg fun all => whole all.1]
    have noDigit := noDigit_exponentChars ends numeral.exponent
    rw [afterWholeScan, exponentChars, fractionScan_append isDigit_of_mem_digitBytes nonempty noDigit,
      length_digitBytes]
    exact afterFraction_toOption _ _ _ ends numeral.exponent

/-- A number is read as what it means, from behind its sign on. -/
theorem Numeral.numberScan_toOption {behind : List UInt8} (ends : EndsNumber behind) (numeral : Numeral) :
    (numberScan numeral.negative (Utf8.encode numeral.magnitudeChars ++ behind)).toOption =
      numeral.meaning?.map (·, behind) := by
  have stops : ∀ byte ∈ (Utf8.encode (numeral.fractionChars ++ numeral.exponentChars) ++ behind).head?,
      isDigit byte = false := by
    rw [fractionChars]
    split
    · exact noDigit_exponentChars ends numeral.exponent
    · intro byte first
      rw [Utf8.encode_append, Utf8.encode_cons] at first
      cases first
      rfl
  rw [magnitudeChars, Utf8.encode_append, List.append_assoc, ← afterWholeScan_toOption ends]
  exact congrArg Except.toOption (numberScan_whole numeral.whole stops)

/-! ## Range -/

theorem exists_scaleByTen_of_neg (magnitude : Binary64) {power : Int} (negative : power < 0) :
    ∃ scaled, scaleByTen magnitude power = some scaled := by
  fun_induction scaleByTen magnitude power with
  | case1 => omega
  | case2 => omega
  | case3 => exact ⟨_, rfl⟩
  | case4 => exact ⟨_, rfl⟩
  | case5 => omega
  | case6 magnitude power far _ _ induction => exact induction (by omega)

/-- Whether `significand * 10 ^ power` is finite, once it is rounded. -/
def Fits (significand : Nat) (power : Int) : Prop :=
  significand = 0 ∨ power < 0 ∨
    power ≤ 308 ∧ ((Binary64.ofNat significand).times (.tenTo power.natAbs)).isFinite = true

instance (significand : Nat) (power : Int) : Decidable (Fits significand power) :=
  inferInstanceAs (Decidable (_ ∨ _ ∨ _ ∧ _))

theorem exists_scaleByTen_iff {significand : Nat} {power : Int} :
    (∃ scaled, scaleByTen (.ofNat significand) power = some scaled) ↔ Fits significand power := by
  rcases Int.lt_or_le power 0 with negative | nonneg
  · exact iff_of_true (exists_scaleByTen_of_neg _ negative) (.inr (.inl negative))
  · have zero := Binary64.isZero_ofNat_iff significand
    rw [scaleByTen, if_pos nonneg, if_pos nonneg]
    by_cases near : power.natAbs ≤ 308
    · rw [if_pos near]
      dsimp only
      by_cases finite : ((Binary64.ofNat significand).times (.tenTo power.natAbs)).isFinite = true
      · rw [if_pos finite]
        exact iff_of_true ⟨_, rfl⟩ (.inr (.inr ⟨by omega, finite⟩))
      · rw [if_neg finite]
        refine iff_of_false (fun scaled => nomatch scaled.choose_spec) ?_
        rintro (rfl | negative | fits)
        · exact finite (Binary64.isFinite_zero_times _)
        · exact absurd negative (Int.not_lt.mpr nonneg)
        · exact finite fits.2
    · rw [if_neg near]
      by_cases none : significand = 0
      · rw [if_pos (zero.mpr none)]
        exact iff_of_true ⟨_, rfl⟩ (.inl none)
      · rw [if_neg fun isZero => none (zero.mp isZero)]
        refine iff_of_false (fun scaled => nomatch scaled.choose_spec) ?_
        rintro (same | negative | fits)
        · exact none same
        · exact absurd negative (Int.not_lt.mpr nonneg)
        · omega

/-- Numbers whose last digit stands for so small a power of ten are finite. -/
theorem fits_of_le {significand : Nat} {power : Int} (bound : significand < Nat.pow 2 64)
    (small : power ≤ 287) : Fits significand power := by
  rcases Int.lt_or_le power 0 with negative | nonneg
  · exact .inr (.inl negative)
  · exact .inr (.inr ⟨by omega, Binary64.isFinite_times_tenTo bound (by omega)⟩)

/-- Whether a number is not too large. An exponent that has to be cut off may raise nothing but a zero. -/
def Numeral.InRange (numeral : Numeral) : Prop :=
  match numeral.exponent with
  | none => Fits numeral.significand numeral.scale
  | some exponent =>
    if exponent.magnitude < Nat.pow 2 31 then
      Fits numeral.significand
        (if exponent.raises then numeral.scale + exponent.magnitude else numeral.scale - exponent.magnitude)
    else exponent.raises = true → numeral.significand = 0

theorem exists_float?_iff {negative : Bool} {significand : Nat} {power : Int} :
    (∃ number, float? negative significand power = some number) ↔ Fits significand power := by
  rw [← exists_scaleByTen_iff, float?]
  cases scaleByTen (.ofNat significand) power with
  | none => exact iff_of_false (fun given => nomatch given.choose_spec) fun given => nomatch given.choose_spec
  | some magnitude => exact iff_of_true ⟨_, rfl⟩ ⟨_, rfl⟩

/-- A numeral means a number exactly if it is not too large. -/
theorem Numeral.exists_meaning_iff (numeral : Numeral) :
    (∃ number, numeral.meaning? = some number) ↔ numeral.InRange := by
  rw [meaning?, InRange]
  split
  · next whole =>
    have scale : numeral.scale = 0 := by rw [scale_of_no_fraction whole.1, whole.2.2, Int.natCast_zero]
    rw [whole.2.1]
    exact iff_of_true ⟨_, rfl⟩ (fits_of_le numeral.significand_lt (by omega))
  · cases numeral.exponent with
    | none => exact exists_float?_iff
    | some exponent =>
        rw [applied?]
        dsimp only
        split
        · exact exists_float?_iff
        · cases exponent.raises with
          | false => exact iff_of_true ⟨_, rfl⟩ nofun
          | true => simp

end NodeConsole.Json.Grammar
