import NodeConsole.Json.Skip
import NodeConsole.Proofs.Json.Values
/-!
What is read can be skipped. Skipping looks at less than reading does, so it passes over every value that
can be read, and stops behind the same byte.
-/

namespace NodeConsole.Json

/-! ## Strings -/

section

variable {s rest bytes : List UInt8}

theorem skipString_unit {n : Nat} (hex : hexScan s = .ok (n, rest)) :
    skipString (0x5C :: 0x75 :: s) = skipString rest := by
  rw [skipString, if_pos rfl]
  split
  · next failed => cases hex.symm.trans failed
  · next found =>
    cases hex.symm.trans found
    rfl

theorem skipString_short {byte meant : UInt8} (noUnit : byte ≠ 0x75) (short : shortEscape? byte = some meant)
    (rest : List UInt8) : skipString (0x5C :: byte :: rest) = skipString rest := by
  rw [skipString, if_neg noUnit, short]
  exact if_pos rfl

theorem skipString_plain {byte : UInt8} (plain : IsPlain byte) (rest : List UInt8) :
    skipString (byte :: rest) = skipString rest := by
  have visible : ¬byte < 0x20 := by
    rw [UInt8.lt_iff_toNat_lt]
    exact Nat.not_lt_of_le plain.2.2
  rw [skipString, if_neg visible]
  · exact plain.1
  · exact plain.2.1

theorem skipString_trailingUnit {leading : Nat} (read : trailingUnitScan leading s = .ok (bytes, rest)) :
    skipString s = skipString rest := by
  rw [trailingUnitScan.eq_def] at read
  split at read
  · cases read
  · cases read
  · split at read
    · cases read
    · next unit after hex =>
      split at read
      · rw [Except.ok.injEq, Prod.mk.injEq] at read
        rw [skipString_unit hex, read.2]
      · cases read
  · cases read
  · cases read

theorem skipString_escape (read : escapeScan s = .ok (bytes, rest)) :
    skipString (0x5C :: s) = skipString rest := by
  cases s with
  | nil => cases read
  | cons byte tail =>
      rw [escapeScan] at read
      split at read
      · next isUnit =>
        subst isUnit
        rw [unitScan] at read
        split at read
        · cases read
        · next unit after hex =>
          rw [skipString_unit hex]
          split at read
          · cases read
          · split at read
            · exact skipString_trailingUnit read
            · cases read
              rfl
      · next noUnit =>
        split at read
        · next meant short =>
          cases read
          exact skipString_short noUnit short rest
        · cases read

theorem skipString_of_read {done : List UInt8} (read : stringBytesScan done s = .ok (bytes, rest)) :
    skipString s = .ok rest := by
  fun_induction stringBytesScan done s with
  | case1 => cases read
  | case2 done rest =>
      cases read
      rw [skipString]
  | case3 => cases read
  | case4 done tail meant after escape induction => rw [skipString_escape escape, induction read]
  | case5 => cases read
  | case6 done byte tail noQuote noSlash visible induction =>
      rw [UInt8.lt_iff_toNat_lt] at visible
      rw [skipString_plain ⟨noQuote, noSlash, Nat.le_of_not_lt visible⟩, induction read]

theorem skipString_of_stringScan {text : String} (read : stringScan s = .ok (text, rest)) :
    skipString s = .ok rest := by
  rw [stringScan] at read
  split at read
  · cases read
  · next bytes after inside =>
    split at read
    · cases read
      exact skipString_of_read inside
    · cases read

end

/-! ## Numbers -/

section

variable {negative raises : Bool} {significand exponent left : Nat} {start : Int} {s rest : List UInt8}
  {n : Number}

theorem rest_of_exponentDigits
    (read : exponentDigits negative significand start raises exponent s = .ok (n, rest)) :
    rest = s.dropWhile isDigit := by
  induction s generalizing exponent with
  | nil => exact (floatScan_eq_ok read).1
  | cons byte tail induction =>
      rw [exponentDigits] at read
      dsimp only at read
      rw [List.dropWhile_cons]
      split at read
      · next digit =>
        rw [if_pos digit]
        split at read
        · exact induction read
        · split at read
          · cases read
          · cases read
            rfl
      · next noDigit =>
        rw [if_neg noDigit]
        exact (floatScan_eq_ok read).1

theorem skipExponent_of_read (read : exponentScan negative significand start s = .ok (n, rest)) :
    skipExponent s = .ok rest := by
  rcases of_exponentScan_eq_ok read with ⟨byte, tail, digit, same | ⟨sign, raises, isSign, same⟩⟩
  · rw [same, exponentScan_digit digit] at read
    have noPlus : byte ≠ 0x2B := ne_of_isDigit digit rfl
    have noMinus : byte ≠ 0x2D := ne_of_isDigit digit rfl
    rw [same, rest_of_exponentDigits read]
    simp [skipExponent, noPlus, noMinus, digit]
  · rw [same, exponentScan_sign isSign digit] at read
    rw [same, rest_of_exponentDigits read]
    rcases isSign with ⟨plus, _⟩ | ⟨minus, _⟩
    · rw [plus]
      exact if_pos digit
    · rw [minus]
      exact if_pos digit

theorem skipFraction_of_read (read : afterWholeScan negative significand left s = .ok (n, rest)) :
    skipFraction s = .ok rest := by
  rw [afterWholeScan.eq_def] at read
  split at read
  · next fraction =>
    rw [fractionScan] at read
    dsimp only at read
    cases fraction with
    | nil => cases read
    | cons byte tail =>
        cases digit : isDigit byte with
        | false =>
            rw [List.takeWhile_cons, List.dropWhile_cons, digit] at read
            cases read
        | true =>
            rw [List.takeWhile_cons, List.dropWhile_cons, digit, if_pos rfl, if_pos rfl] at read
            rw [skipFraction, if_pos digit]
            split at read
            · next none _ => cases none
            · next none _ => cases none
            · next after =>
              rw [after]
              exact skipExponent_of_read read
            · next after =>
              rw [after]
              exact skipExponent_of_read read
            · next noSmall noLarge =>
              rw [(floatScan_eq_ok read).1]
              split
              · next after => exact (noSmall _ after).elim
              · next after => exact (noLarge _ after).elim
              · rfl
  · exact skipExponent_of_read read
  · exact skipExponent_of_read read
  · next noPoint noSmall noLarge =>
    have same : rest = s := by
      split at read
      · exact length_integerScan read
      · exact (floatScan_eq_ok read).1
    rw [same, skipFraction.eq_def]
    split
    · exact absurd rfl (noPoint _)
    · exact absurd rfl (noSmall _)
    · exact absurd rfl (noLarge _)
    · rfl

theorem skipNumber_of_read (read : numberScan negative s = .ok (n, rest)) : skipNumber s = .ok rest := by
  rcases of_numberScan_eq_ok read with
    ⟨tail, begins, stops, whole⟩ | ⟨byte, more, tail, noZero, all, stops, begins, whole⟩
  · have fraction := skipFraction_of_read whole
    rw [begins]
    cases tail with
    | nil =>
        rw [skipNumber]
        exact fraction
    | cons byte more =>
        rw [skipNumber, stops byte rfl, if_neg Bool.false_ne_true]
        exact fraction
  · have more : (more ++ tail).dropWhile isDigit = tail :=
      (takeWhile_append_of_digits (fun other member => all other (List.mem_cons_of_mem _ member)) stops).2
    rw [begins, List.cons_append, skipNumber, if_pos (all byte (by simp)), more]
    · exact skipFraction_of_read whole
    · exact noZero

end

/-! ## Values -/

theorem skipScalar_of_read {byte : UInt8} {s rest : List UInt8} {value : Json}
    (read : scalarScan byte s = .ok (value, rest)) : skipScalar byte s = .ok rest := by
  rcases scalarScan_cases read with ⟨letters, listed, taken⟩ | ⟨quote, text, _, inside⟩ |
    ⟨minus, n, _, inside⟩ | ⟨digit, n, _, inside⟩
  · have skips : skipScalar byte s = word letters s := by
      simp only [literals, List.mem_cons, List.not_mem_nil, or_false, Prod.mk.injEq] at listed
      rcases listed with ⟨rfl, rfl, _⟩ | ⟨rfl, rfl, _⟩ | ⟨rfl, rfl, _⟩ <;> rfl
    rw [skips, taken]
  · rw [quote]
    exact skipString_of_stringScan inside
  · rw [minus]
    exact skipNumber_of_read inside
  · have other {mark : UInt8} (noDigit : isDigit mark = false) : byte ≠ mark := ne_of_isDigit digit noDigit
    rw [skipScalar, if_neg (other rfl), if_neg (other rfl), if_neg (other rfl), if_neg (other rfl),
      if_neg (other rfl), if_pos digit]
    exact skipNumber_of_read inside

section

variable {frames : List Frame} {frame : Frame} {blanks s rest : List UInt8}

theorem skipFrom_scalar (blank : Blank blanks) {byte : UInt8} (starts : StartsScalar byte)
    (skips : skipScalar byte s = .ok rest) :
    skipFrom .value frames (blanks ++ byte :: s) = skipFrom .closed frames rest := by
  have skipped := skipBlank_eq_cons blank starts.1 s
  rw [skipFrom]
  split
  · next none => cases skipped.symm.trans none
  · next found =>
    cases skipped.symm.trans found
    rw [if_neg starts.2.1, if_neg starts.2.2]
    split
    · next failed => cases skips.symm.trans failed
    · next taken =>
      cases skips.symm.trans taken
      rfl

theorem skipFrom_array (blank : Blank blanks) (s : List UInt8) :
    skipFrom .value frames (blanks ++ 0x5B :: s) = skipFrom .opened (.array :: frames) s := by
  have skipped : skipBlank (blanks ++ 0x5B :: s) = 0x5B :: s := skipBlank_eq_cons blank rfl s
  rw [skipFrom]
  split
  · next none => cases skipped.symm.trans none
  · next found =>
    cases skipped.symm.trans found
    rfl

theorem skipFrom_object (blank : Blank blanks) (s : List UInt8) :
    skipFrom .value frames (blanks ++ 0x7B :: s) = skipFrom .opened (.object :: frames) s := by
  have skipped : skipBlank (blanks ++ 0x7B :: s) = 0x7B :: s := skipBlank_eq_cons blank rfl s
  rw [skipFrom]
  split
  · next none => cases skipped.symm.trans none
  · next found =>
    cases skipped.symm.trans found
    rfl

theorem skipFrom_close {stand : Stand} (noValue : stand = .value → False)
    (skipped : skipBlank s = frame.closing :: rest) :
    skipFrom stand (frame :: frames) s = skipFrom .closed frames rest := by
  rw [skipFrom.eq_3 _ _ _ _ noValue]
  split
  · next none => cases skipped.symm.trans none
  · next found =>
    cases skipped.symm.trans found
    rw [if_pos rfl]

theorem skipFrom_opened {byte : UInt8} {more : List UInt8} (skipped : skipBlank s = byte :: more)
    (noEnd : byte ≠ frame.closing) (passed : skipToValue frame (byte :: more) = .ok rest) :
    skipFrom .opened (frame :: frames) s = skipFrom .value (frame :: frames) rest := by
  rw [skipFrom.eq_3 _ _ _ _ (by decide)]
  split
  · next none => cases skipped.symm.trans none
  · next found =>
    cases skipped.symm.trans found
    rw [if_neg noEnd, if_pos rfl]
    split
    · next failed => cases passed.symm.trans failed
    · next taken =>
      cases passed.symm.trans taken
      rfl

theorem skipFrom_comma {more : List UInt8} (skipped : skipBlank s = 0x2C :: more)
    (passed : skipToValue frame more = .ok rest) :
    skipFrom .closed (frame :: frames) s = skipFrom .value (frame :: frames) rest := by
  have noEnd : (0x2C : UInt8) ≠ frame.closing := by
    cases frame <;> decide
  rw [skipFrom.eq_3 _ _ _ _ (by decide)]
  split
  · next none => cases skipped.symm.trans none
  · next found =>
    cases skipped.symm.trans found
    rw [if_neg noEnd, if_neg (by decide), if_pos rfl]
    split
    · next failed => cases passed.symm.trans failed
    · next taken =>
      cases passed.symm.trans taken
      rfl

def Stand.before (first : Bool) : Stand :=
  if first then .opened else .closed

theorem Stand.before_ne_value (first : Bool) : Stand.before first ≠ .value := by
  cases first <;> decide

theorem skipFrom_gap (frame : Frame) (frames : List Frame) {first : Bool} {gap : List UInt8}
    (isGap : IsGap first gap) {byte : UInt8} (visible : isBlank byte = false) (noEnd : byte ≠ frame.closing)
    (s : List UInt8) :
    ∃ blanks, Blank blanks ∧ ∀ rest, skipToValue frame (blanks ++ byte :: s) = .ok rest →
      skipFrom (.before first) (frame :: frames) (gap ++ byte :: s) =
        skipFrom .value (frame :: frames) rest := by
  cases first with
  | true =>
      refine ⟨[], blank_nil, fun rest passed => ?_⟩
      exact skipFrom_opened (skipBlank_eq_cons isGap visible s) noEnd passed
  | false =>
      rcases isGap with ⟨before, after, blankBefore, blankAfter, rfl⟩
      refine ⟨after, blankAfter, fun rest passed => ?_⟩
      rw [List.append_assoc, List.cons_append]
      exact skipFrom_comma (skipBlank_eq_cons blankBefore rfl _) passed

end

def Skips (limit : Nat) : Prop :=
  ∀ s value rest, (valueReader limit).read s = .ok (value, rest) →
    ∀ frames, skipFrom .value frames s = skipFrom .closed frames rest

section

variable {limit : Nat} {first : Bool} {s rest : List UInt8}

theorem Skips.lists (skips : Skips limit) {values : List Json}
    (lists : Lists (valueReader limit) first s values rest) (frames : List Frame) :
    skipFrom (.before first) (.array :: frames) s = skipFrom .closed frames rest := by
  induction lists with
  | done blank rest =>
      exact skipFrom_close (Stand.before_ne_value _) (skipBlank_eq_cons blank rfl rest)
  | @item first gap more after rest byte value values isGap visible noEnd read later induction =>
      rcases skipFrom_gap .array frames isGap visible noEnd more with ⟨blanks, blank, passes⟩
      rw [← read_blank_append limit blank] at read
      rw [passes _ rfl, skips _ _ _ read]
      exact induction

theorem Skips.names (skips : Skips limit) {entries : List (String × Json)}
    (names : Names (valueReader limit) first s entries rest) (frames : List Frame) :
    skipFrom (.before first) (.object :: frames) s = skipFrom .closed frames rest := by
  induction names with
  | done blank rest =>
      exact skipFrom_close (Stand.before_ne_value _) (skipBlank_eq_cons blank rfl rest)
  | @member first gap inside blanks valueText after rest name found entries isGap nameRead blank read later
      induction =>
      have noEnd : (0x22 : UInt8) ≠ Frame.object.closing := by decide
      rcases skipFrom_gap .object frames isGap rfl noEnd inside with ⟨before, blankBefore, passes⟩
      have passed : skipToValue .object (before ++ 0x22 :: inside) = .ok valueText := by
        rw [skipToValue, skipName, skipBlank_eq_cons blankBefore rfl]
        dsimp only
        rw [if_pos rfl, skipString_of_stringScan nameRead]
        exact colon_append blank valueText
      rw [passes _ passed, skips _ _ _ read]
      exact induction

end

theorem skips (limit : Nat) : Skips limit := by
  induction limit with
  | zero =>
      intro s value rest read frames
      rcases read_cases read with ⟨blanks, blank, ⟨byte, tail, starts, rfl, scalar⟩ | ⟨_, none, _⟩⟩
      · exact skipFrom_scalar blank starts (skipScalar_of_read scalar)
      · cases none
  | succ below induction =>
      intro s value rest read frames
      rcases read_cases read with ⟨blanks, blank, ⟨byte, tail, starts, rfl, scalar⟩ | ⟨_, same, inner⟩⟩
      · exact skipFrom_scalar blank starts (skipScalar_of_read scalar)
      · cases same
        rcases inner with ⟨values, tail, rfl, lists, _⟩ | ⟨entries, tail, rfl, names, _⟩
        · rw [skipFrom_array blank]
          exact induction.lists lists frames
        · rw [skipFrom_object blank]
          exact induction.names names frames

/-- Every value that can be read can be skipped, up to the same place. -/
theorem skipReader_of_read {limit : Nat} {s rest : List UInt8} {value : Json}
    (read : (valueReader limit).read s = .ok (value, rest)) : skipReader.read s = .ok ((), rest) := by
  have skipped : skipFrom .value [] s = .ok rest := by
    rw [skips limit s value rest read, skipFrom.eq_2 _ _ (by decide)]
  rw [skipReader]
  dsimp only
  rw [skipped]

end NodeConsole.Json
