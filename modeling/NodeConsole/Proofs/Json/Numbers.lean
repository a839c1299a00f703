import Mathlib.Data.List.TakeWhile
import NodeConsole.Proofs.Json.Nesting
/-!
Numbers with something behind them. A number that was read is read from the same bytes, and as the same
number, in front of anything that does not continue it.
-/

namespace NodeConsole.Json

def continuesNumber (byte : UInt8) : Bool :=
  isDigit byte || byte == 0x2E || byte == 0x65 || byte == 0x45

def EndsNumber (behind : List UInt8) : Prop :=
  ∀ byte ∈ behind.head?, continuesNumber byte = false

theorem endsNumber_cons {byte : UInt8} (stops : continuesNumber byte = false) (rest : List UInt8) :
    EndsNumber (byte :: rest) := by
  rintro _ ⟨⟩
  exact stops

theorem EndsNumber.noDigit {behind : List UInt8} (ends : EndsNumber behind) :
    ∀ byte ∈ behind.head?, isDigit byte = false := by
  intro byte first
  have stops := ends byte first
  simp only [continuesNumber, Bool.or_eq_false_iff] at stops
  exact stops.1.1.1

/-! ## Digits -/

theorem ne_of_isDigit {byte mark : UInt8} (digit : isDigit byte = true) (noDigit : isDigit mark = false) :
    byte ≠ mark := by
  intro same
  rw [same, noDigit] at digit
  cases digit

theorem takeWhile_append_of_digits {digits behind : List UInt8}
    (all : ∀ byte ∈ digits, isDigit byte = true) (stops : ∀ byte ∈ behind.head?, isDigit byte = false) :
    (digits ++ behind).takeWhile isDigit = digits ∧ (digits ++ behind).dropWhile isDigit = behind := by
  rw [List.takeWhile_append_of_pos all, List.dropWhile_append_of_pos all]
  cases behind with
  | nil => exact ⟨by rw [List.takeWhile_nil, List.append_nil], rfl⟩
  | cons byte rest =>
      have stop := stops byte rfl
      rw [List.takeWhile_cons, List.dropWhile_cons, stop]
      exact ⟨List.append_nil digits, rfl⟩

theorem head?_dropWhile_isDigit (s : List UInt8) :
    ∀ byte ∈ (s.dropWhile isDigit).head?, isDigit byte = false := by
  intro byte first
  have stops := List.head?_dropWhile_not isDigit s
  rw [Option.mem_def.mp first] at stops
  simpa using stops

/-! ## Values of numbers -/

theorem floatScan_eq_ok {negative : Bool} {significand : Nat} {exponent : Int} {s rest : List UInt8}
    {n : Number} (read : floatScan negative significand exponent s = .ok (n, rest)) :
    rest = s ∧ ∀ behind, floatScan negative significand exponent behind = .ok (n, behind) := by
  rw [floatScan] at read
  split at read
  · next x scaled =>
    cases read
    refine ⟨rfl, fun behind => ?_⟩
    rw [floatScan, scaled]
  · cases read

theorem exists_integerScan (negative : Bool) (significand : Nat) :
    ∃ n, ∀ s, integerScan negative significand s = .ok (n, s) := by
  unfold integerScan
  split
  · split
    · exact ⟨_, fun _ => rfl⟩
    · exact ⟨_, fun _ => rfl⟩
  · exact ⟨_, fun _ => rfl⟩

/-- What a scan takes for a value: these bytes, whatever stands behind them that continues no number. -/
structure Takes {α : Type} (scan : List UInt8 → Scan α) (front : List UInt8) (value : α) : Prop where
  leads : Leads .outside .outside 0 front
  reads : ∀ behind, EndsNumber behind → scan (front ++ behind) = .ok (value, behind)

theorem Takes.cons {α : Type} {scan next : List UInt8 → Scan α} {byte : UInt8} {front : List UInt8}
    {value : α} (takes : Takes next front value) (noMark : isMark byte = false)
    (passes : ∀ behind, EndsNumber behind → scan (byte :: front ++ behind) = next (front ++ behind)) :
    Takes scan (byte :: front) value where
  leads := .cons_of_not_isMark noMark takes.leads
  reads behind ends := (passes behind ends).trans (takes.reads behind ends)

theorem takes_nil {α : Type} {scan : List UInt8 → Scan α} {value : α}
    (reads : ∀ behind, EndsNumber behind → scan behind = .ok (value, behind)) : Takes scan [] value where
  leads := leads_nil _
  reads := reads

/-! ## Exponents -/

section

variable {negative raises : Bool} {significand exponent left : Nat} {start : Int} {s rest : List UInt8}
  {n : Number}

theorem exponentDigits_of_noDigit (stops : ∀ byte ∈ s.head?, isDigit byte = false) :
    exponentDigits negative significand start raises exponent s =
      floatScan negative significand (if raises then start + exponent else start - exponent) s := by
  cases s with
  | nil => rw [exponentDigits]
  | cons byte tail => rw [exponentDigits, if_neg (by simp [stops byte rfl])]

theorem exponentDigits_eq_ok
    (read : exponentDigits negative significand start raises exponent s = .ok (n, rest)) :
    ∃ front, s = front ++ rest ∧
      Takes (exponentDigits negative significand start raises exponent) front n := by
  -- Where no digit follows, the number is the one that has been gathered.
  have ended {exponent : Nat} {s rest : List UInt8} (stops : ∀ byte ∈ s.head?, isDigit byte = false)
      (read : exponentDigits negative significand start raises exponent s = .ok (n, rest)) :
      ∃ front, s = front ++ rest ∧
        Takes (exponentDigits negative significand start raises exponent) front n := by
    rw [exponentDigits_of_noDigit stops] at read
    rcases floatScan_eq_ok read with ⟨rfl, value⟩
    refine ⟨[], rfl, takes_nil fun behind ends => ?_⟩
    rw [exponentDigits_of_noDigit ends.noDigit, value]
  induction s generalizing exponent with
  | nil => exact ended (by simp) read
  | cons byte tail induction =>
      cases digit : isDigit byte with
      | false => exact ended (by simpa using digit) read
      | true =>
          rw [exponentDigits, if_pos digit] at read
          dsimp only at read
          split at read
          · next fits =>
            rcases induction read with ⟨front, rfl, takes⟩
            refine ⟨byte :: front, rfl, takes.cons (isMark_of_isDigit digit) fun behind _ => ?_⟩
            rw [List.cons_append, exponentDigits, if_pos digit]
            exact if_pos fits
          · next large =>
            -- The exponent is out of range, and the rest of its digits is passed over at once.
            split at read
            · cases read
            · next kept =>
              cases read
              have digits : ∀ other ∈ tail.takeWhile isDigit, isDigit other = true :=
                fun _ member => List.mem_takeWhile_imp member
              refine ⟨byte :: tail.takeWhile isDigit, ?_, ?_, ?_⟩
              · rw [List.cons_append, List.takeWhile_append_dropWhile]
              · apply Leads.cons_of_not_isMark (isMark_of_isDigit digit)
                exact leads_of_not_isMark fun other member => isMark_of_isDigit (digits other member)
              · intro behind ends
                rw [List.cons_append, exponentDigits, if_pos digit]
                dsimp only
                rw [if_neg large, if_neg kept, (takeWhile_append_of_digits digits ends.noDigit).2]

theorem exponentScan_digit {byte : UInt8} (digit : isDigit byte = true) (tail : List UInt8) :
    exponentScan negative significand start (byte :: tail) =
      exponentDigits negative significand start true (digitValue byte) tail := by
  have noPlus : byte ≠ 0x2B := ne_of_isDigit digit rfl
  have noMinus : byte ≠ 0x2D := ne_of_isDigit digit rfl
  simp [exponentScan, noPlus, noMinus, digit]

def IsSign (sign : UInt8) (raises : Bool) : Prop :=
  sign = 0x2B ∧ raises = true ∨ sign = 0x2D ∧ raises = false

theorem exponentScan_sign {sign byte : UInt8} (isSign : IsSign sign raises) (digit : isDigit byte = true)
    (tail : List UInt8) :
    exponentScan negative significand start (sign :: byte :: tail) =
      exponentDigits negative significand start raises (digitValue byte) tail := by
  rcases isSign with ⟨rfl, rfl⟩ | ⟨rfl, rfl⟩ <;> exact if_pos digit

theorem of_exponentScan_eq_ok {result : Number × List UInt8}
    (read : exponentScan negative significand start s = .ok result) :
    ∃ byte tail, isDigit byte = true ∧
      (s = byte :: tail ∨ ∃ sign raises, IsSign sign raises ∧ s = sign :: byte :: tail) := by
  have signed {sign : UInt8} {raises : Bool} {tail : List UInt8} (isSign : IsSign sign raises)
      (read : exponentScan negative significand start (sign :: tail) = .ok result) :
      ∃ byte more, isDigit byte = true ∧ tail = byte :: more := by
    cases tail with
    | nil => rcases isSign with ⟨rfl, _⟩ | ⟨rfl, _⟩ <;> cases read
    | cons byte more =>
        refine ⟨byte, more, ?_, rfl⟩
        by_contra noDigit
        rcases isSign with ⟨rfl, _⟩ | ⟨rfl, _⟩ <;> simp [exponentScan, noDigit] at read
  cases s with
  | nil => cases read
  | cons first tail =>
      by_cases isSign : ∃ raises, IsSign first raises
      · rcases isSign with ⟨raises, isSign⟩
        rcases signed isSign read with ⟨byte, more, digit, rfl⟩
        exact ⟨byte, more, digit, .inr ⟨first, raises, isSign, rfl⟩⟩
      · have noPlus : first ≠ 0x2B := fun plus => isSign ⟨true, .inl ⟨plus, rfl⟩⟩
        have noMinus : first ≠ 0x2D := fun minus => isSign ⟨false, .inr ⟨minus, rfl⟩⟩
        refine ⟨first, tail, ?_, .inl rfl⟩
        by_contra noDigit
        simp [exponentScan, noPlus, noMinus, noDigit] at read

theorem exponentScan_eq_ok (read : exponentScan negative significand start s = .ok (n, rest)) :
    ∃ front, s = front ++ rest ∧ Takes (exponentScan negative significand start) front n := by
  rcases of_exponentScan_eq_ok read with ⟨byte, tail, digit, rfl | ⟨sign, raises, isSign, rfl⟩⟩
  · rw [exponentScan_digit digit] at read
    rcases exponentDigits_eq_ok read with ⟨front, rfl, takes⟩
    refine ⟨byte :: front, rfl, takes.cons (isMark_of_isDigit digit) fun behind _ => ?_⟩
    exact exponentScan_digit digit _
  · -- A sign is passed together with the digit that has to follow it.
    rw [exponentScan_sign isSign digit] at read
    rcases exponentDigits_eq_ok read with ⟨front, rfl, takes⟩
    have noMark : isMark sign = false := by
      rcases isSign with ⟨rfl, _⟩ | ⟨rfl, _⟩ <;> rfl
    refine ⟨sign :: byte :: front, rfl, ?_, fun behind ends => ?_⟩
    · exact .cons_of_not_isMark noMark (.cons_of_not_isMark (isMark_of_isDigit digit) takes.leads)
    · rw [List.cons_append, List.cons_append, exponentScan_sign isSign digit]
      exact takes.reads behind ends

/-! ## Fractions -/

def afterFraction (negative : Bool) (significand : Nat) (exponent : Int) : List UInt8 → Scan Number
  | 0x65 :: after => exponentScan negative significand exponent after
  | 0x45 :: after => exponentScan negative significand exponent after
  | rest => floatScan negative significand exponent rest

theorem afterFraction_of_endsNumber (ends : EndsNumber s) :
    afterFraction negative significand start s = floatScan negative significand start s := by
  cases s with
  | nil => rfl
  | cons byte tail =>
      have stops := ends byte rfl
      simp only [continuesNumber, Bool.or_eq_false_iff, beq_eq_false_iff_ne] at stops
      simp [afterFraction, stops]

theorem afterFraction_eq_ok (read : afterFraction negative significand start s = .ok (n, rest)) :
    ∃ front, s = front ++ rest ∧ Takes (afterFraction negative significand start) front n := by
  rw [afterFraction.eq_def] at read
  split at read
  · rcases exponentScan_eq_ok read with ⟨front, rfl, takes⟩
    exact ⟨0x65 :: front, rfl, takes.cons rfl fun _ _ => rfl⟩
  · rcases exponentScan_eq_ok read with ⟨front, rfl, takes⟩
    exact ⟨0x45 :: front, rfl, takes.cons rfl fun _ _ => rfl⟩
  · rcases floatScan_eq_ok read with ⟨rfl, value⟩
    refine ⟨[], rfl, takes_nil fun behind ends => ?_⟩
    rw [afterFraction_of_endsNumber ends, value]

theorem fractionScan_append {digits : List UInt8} (all : ∀ byte ∈ digits, isDigit byte = true)
    (nonempty : digits ≠ []) (stops : ∀ byte ∈ rest.head?, isDigit byte = false) :
    fractionScan negative significand start (digits ++ rest) =
      afterFraction negative (gather significand digits).1
        (start - ((digits.length : Int) - (gather significand digits).2)) rest := by
  rcases takeWhile_append_of_digits all stops with ⟨taken, left⟩
  rcases List.exists_cons_of_ne_nil nonempty with ⟨first, more, rfl⟩
  rw [fractionScan, taken, left, afterFraction.eq_def]
  cases rest with
  | nil => rfl
  | cons byte tail =>
      by_cases small : byte = 0x65
      · subst small
        rfl
      · by_cases large : byte = 0x45
        · subst large
          rfl
        · simp [small, large]

theorem noDigit_append {front behind : List UInt8}
    (stops : ∀ byte ∈ (front ++ rest).head?, isDigit byte = false) (ends : EndsNumber behind) :
    ∀ byte ∈ (front ++ behind).head?, isDigit byte = false := by
  cases front with
  | nil => exact ends.noDigit
  | cons first more => exact stops

theorem Takes.append_digits {scan next : List UInt8 → Scan Number} {digits front : List UInt8}
    (takes : Takes next front n) (all : ∀ byte ∈ digits, isDigit byte = true)
    (passes : ∀ behind, EndsNumber behind → scan (digits ++ (front ++ behind)) = next (front ++ behind)) :
    Takes scan (digits ++ front) n where
  leads := (leads_of_not_isMark fun byte member => isMark_of_isDigit (all byte member)).append takes.leads
  reads behind ends := by
    rw [List.append_assoc, passes behind ends]
    exact takes.reads behind ends

theorem fractionScan_eq_ok (read : fractionScan negative significand start s = .ok (n, rest)) :
    ∃ front, s = front ++ rest ∧ Takes (fractionScan negative significand start) front n := by
  have all : ∀ byte ∈ s.takeWhile isDigit, isDigit byte = true := fun _ => List.mem_takeWhile_imp
  have stops := head?_dropWhile_isDigit s
  -- A point without digits behind it is a fault, whatever follows.
  have nonempty : s.takeWhile isDigit ≠ [] := by
    intro none
    rw [fractionScan, none] at read
    dsimp only at read
    cases left : s.dropWhile isDigit <;> rw [left] at read <;> cases read
  rw [← List.takeWhile_append_dropWhile (p := isDigit) (l := s), fractionScan_append all nonempty stops]
    at read
  rcases afterFraction_eq_ok read with ⟨front, left, takes⟩
  refine ⟨s.takeWhile isDigit ++ front, ?_, takes.append_digits all fun behind ends => ?_⟩
  · rw [List.append_assoc, ← left, List.takeWhile_append_dropWhile]
  · exact fractionScan_append all nonempty (noDigit_append (left ▸ stops) ends)

/-! ## Whole numbers -/

theorem afterWholeScan_of_endsNumber (ends : EndsNumber s) :
    afterWholeScan negative significand left s =
      if left = 0 then integerScan negative significand s
      else floatScan negative significand left s := by
  cases s with
  | nil => rfl
  | cons byte tail =>
      have stops := ends byte rfl
      simp only [continuesNumber, Bool.or_eq_false_iff, beq_eq_false_iff_ne] at stops
      simp [afterWholeScan, stops]

theorem afterWholeScan_eq_ok (read : afterWholeScan negative significand left s = .ok (n, rest)) :
    ∃ front, s = front ++ rest ∧ Takes (afterWholeScan negative significand left) front n := by
  rw [afterWholeScan.eq_def] at read
  split at read
  · rcases fractionScan_eq_ok read with ⟨front, rfl, takes⟩
    exact ⟨0x2E :: front, rfl, takes.cons rfl fun _ _ => rfl⟩
  · rcases exponentScan_eq_ok read with ⟨front, rfl, takes⟩
    exact ⟨0x65 :: front, rfl, takes.cons rfl fun _ _ => rfl⟩
  · rcases exponentScan_eq_ok read with ⟨front, rfl, takes⟩
    exact ⟨0x45 :: front, rfl, takes.cons rfl fun _ _ => rfl⟩
  · split at read
    · next whole =>
      rcases exists_integerScan negative significand with ⟨value, reads⟩
      rw [reads] at read
      cases read
      refine ⟨[], rfl, takes_nil fun behind ends => ?_⟩
      rw [afterWholeScan_of_endsNumber ends, if_pos whole, reads]
    · next long =>
      rcases floatScan_eq_ok read with ⟨rfl, value⟩
      refine ⟨[], rfl, takes_nil fun behind ends => ?_⟩
      rw [afterWholeScan_of_endsNumber ends, if_neg long, value]

theorem numberScan_zero (stops : ∀ byte ∈ rest.head?, isDigit byte = false) :
    numberScan negative (0x30 :: rest) = afterWholeScan negative 0 0 rest := by
  cases rest with
  | nil => rfl
  | cons byte tail => exact if_neg (by simp [stops byte rfl])

theorem numberScan_digits {byte : UInt8} {more : List UInt8} (noZero : byte ≠ 0x30)
    (all : ∀ digit ∈ byte :: more, isDigit digit = true)
    (stops : ∀ byte ∈ rest.head?, isDigit byte = false) :
    numberScan negative (byte :: more ++ rest) =
      afterWholeScan negative (gather 0 (byte :: more)).1 (gather 0 (byte :: more)).2 rest := by
  rcases takeWhile_append_of_digits all stops with ⟨taken, left⟩
  rw [List.cons_append] at taken left ⊢
  rw [numberScan, if_pos (all byte (by simp)), taken, left]
  exact noZero

theorem of_numberScan_eq_ok {result : Number × List UInt8} (read : numberScan negative s = .ok result) :
    (∃ tail, s = 0x30 :: tail ∧ (∀ byte ∈ tail.head?, isDigit byte = false) ∧
        afterWholeScan negative 0 0 tail = .ok result) ∨
      ∃ byte more tail, byte ≠ 0x30 ∧ (∀ digit ∈ byte :: more, isDigit digit = true) ∧
        (∀ byte ∈ tail.head?, isDigit byte = false) ∧ s = byte :: more ++ tail ∧
        afterWholeScan negative (gather 0 (byte :: more)).1 (gather 0 (byte :: more)).2 tail =
          .ok result := by
  cases s with
  | nil => cases read
  | cons byte tail =>
      by_cases zero : byte = 0x30
      · subst zero
        -- A zero in front of a digit is refused.
        have stops : ∀ byte ∈ tail.head?, isDigit byte = false := by
          intro other first
          apply Bool.eq_false_iff.mpr
          intro digit
          cases tail with
          | nil => cases first
          | cons _ more =>
              cases first
              simp [numberScan, digit] at read
        rw [numberScan_zero stops] at read
        exact .inl ⟨tail, rfl, stops, read⟩
      · have digit : isDigit byte = true := by
          by_contra noDigit
          simp [numberScan, noDigit] at read
        have all : ∀ other ∈ byte :: tail.takeWhile isDigit, isDigit other = true := by
          intro other member
          rcases List.mem_cons.mp member with rfl | later
          · exact digit
          · exact List.mem_takeWhile_imp later
        have stops := head?_dropWhile_isDigit tail
        have whole : byte :: tail = byte :: tail.takeWhile isDigit ++ tail.dropWhile isDigit := by
          rw [List.cons_append, List.takeWhile_append_dropWhile]
        rw [whole, numberScan_digits zero all stops] at read
        exact .inr ⟨byte, _, _, zero, all, stops, whole, read⟩

/-- A number that was read is read as the same number in front of anything that does not continue it. -/
theorem numberScan_eq_ok (read : numberScan negative s = .ok (n, rest)) :
    ∃ front, s = front ++ rest ∧ Takes (numberScan negative) front n := by
  rcases of_numberScan_eq_ok read with
    ⟨tail, rfl, stops, whole⟩ | ⟨byte, more, tail, noZero, all, stops, rfl, whole⟩
  · rcases afterWholeScan_eq_ok whole with ⟨front, rfl, takes⟩
    refine ⟨0x30 :: front, rfl, takes.cons rfl fun behind ends => ?_⟩
    exact numberScan_zero (noDigit_append stops ends)
  · rcases afterWholeScan_eq_ok whole with ⟨front, rfl, takes⟩
    refine ⟨byte :: more ++ front, (List.append_assoc ..).symm,
      takes.append_digits all fun behind ends => ?_⟩
    exact numberScan_digits noZero all (noDigit_append stops ends)

end

end NodeConsole.Json
