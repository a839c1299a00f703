import NodeConsole.Json.Reader
/-!
Skipping values that nothing asks for. A value is skipped by its form alone: its strings need not be
valid text, its numbers may be of any size, and its nesting has no limit.
-/

namespace NodeConsole.Json

inductive Frame where
  | array
  | object
deriving DecidableEq, Repr

def skipString (s : List UInt8) : Except Fault (List UInt8) :=
  match s with
  | [] => .error ⟨.endInString, []⟩
  | 0x22 :: rest => .ok rest
  | 0x5C :: rest =>
    match rest with
    | [] => .error ⟨.endInString, []⟩
    | byte :: tail =>
      if byte = 0x75 then
        match _hex : hexScan tail with
        | .error fault => .error fault
        | .ok (_, after) => skipString after
      else if (shortEscape? byte).isSome then skipString tail
      else .error ⟨.badEscape, tail⟩
  | byte :: rest =>
    if byte < 0x20 then .error ⟨.controlInString, byte :: rest⟩ else skipString rest
termination_by s.length
decreasing_by
  · have := length_hexScan_lt _hex; simp only [List.length_cons]; omega
  · simp only [List.length_cons]; omega
  · simp only [List.length_cons]; omega

theorem length_skipString_lt {s rest : List UInt8} (skip : skipString s = .ok rest) :
    rest.length < s.length := by
  fun_induction skipString s with
  | case1 => cases skip
  | case2 => cases skip; simp
  | case3 => cases skip
  | case4 => cases skip
  | case5 _ _ _ hex induction =>
    have := length_hexScan_lt hex
    have := induction skip
    simp only [List.length_cons]; omega
  | case6 _ _ _ _ induction => have := induction skip; simp only [List.length_cons]; omega
  | case7 => cases skip
  | case8 => cases skip
  | case9 _ _ _ _ _ induction => have := induction skip; simp only [List.length_cons]; omega

def skipExponent (s : List UInt8) : Except Fault (List UInt8) :=
  let digits := match s with
    | 0x2B :: rest => rest
    | 0x2D :: rest => rest
    | _ => s
  match digits with
  | [] => .error ⟨.badNumber, []⟩
  | byte :: rest => if isDigit byte then .ok (rest.dropWhile isDigit) else .error ⟨.badNumber, rest⟩

def skipFraction (s : List UInt8) : Except Fault (List UInt8) :=
  match s with
  | 0x2E :: rest =>
    match rest with
    | [] => .error ⟨.badNumber, []⟩
    | byte :: tail =>
      if isDigit byte then
        match tail.dropWhile isDigit with
        | 0x65 :: after => skipExponent after
        | 0x45 :: after => skipExponent after
        | after => .ok after
      else .error ⟨.badNumber, tail⟩
  | 0x65 :: rest => skipExponent rest
  | 0x45 :: rest => skipExponent rest
  | _ => .ok s

def skipNumber (s : List UInt8) : Except Fault (List UInt8) :=
  match s with
  | [] => .error ⟨.badNumber, []⟩
  | 0x30 :: rest =>
    match rest with
    | byte :: tail => if isDigit byte then .error ⟨.badNumber, tail⟩ else skipFraction rest
    | [] => .ok []
  | byte :: rest =>
    if isDigit byte then skipFraction (rest.dropWhile isDigit) else .error ⟨.badNumber, rest⟩

theorem length_skipExponent_le {s rest : List UInt8} (skip : skipExponent s = .ok rest) :
    rest.length ≤ s.length := by
  unfold skipExponent at skip
  simp only at skip
  split at skip
  · cases skip
  · rename_i byte tail digits
    split at skip
    · cases skip
      have := (List.dropWhile_suffix (l := tail) isDigit).length_le
      split at digits <;> simp_all only [List.length_cons] <;> omega
    · cases skip

theorem length_skipFraction_le {s rest : List UInt8} (skip : skipFraction s = .ok rest) :
    rest.length ≤ s.length := by
  unfold skipFraction at skip
  split at skip
  · split at skip
    · cases skip
    · rename_i byte tail
      have dropped := (List.dropWhile_suffix (l := tail) isDigit).length_le
      split at skip
      · split at skip
        · rename_i after; rw [after, List.length_cons] at dropped
          have := length_skipExponent_le skip
          simp only [List.length_cons]; omega
        · rename_i after; rw [after, List.length_cons] at dropped
          have := length_skipExponent_le skip
          simp only [List.length_cons]; omega
        · cases skip; simp only [List.length_cons]; omega
      · cases skip
  · have := length_skipExponent_le skip; simp only [List.length_cons]; omega
  · have := length_skipExponent_le skip; simp only [List.length_cons]; omega
  · cases skip; exact Nat.le_refl _

theorem length_skipNumber_lt {s rest : List UInt8} (skip : skipNumber s = .ok rest) :
    rest.length < s.length := by
  unfold skipNumber at skip
  split at skip
  · cases skip
  · split at skip
    · split at skip
      · cases skip
      · have := length_skipFraction_le skip; simp only [List.length_cons] at *; omega
    · cases skip; simp
  · rename_i byte tail _
    split at skip
    · have := length_skipFraction_le skip
      have := (List.dropWhile_suffix (l := tail) isDigit).length_le
      simp only [List.length_cons]; omega
    · cases skip

def skipScalar (byte : UInt8) (rest : List UInt8) : Except Fault (List UInt8) :=
  if byte = 0x6E then word [0x75, 0x6C, 0x6C] rest
  else if byte = 0x74 then word [0x72, 0x75, 0x65] rest
  else if byte = 0x66 then word [0x61, 0x6C, 0x73, 0x65] rest
  else if byte = 0x22 then skipString rest
  else if byte = 0x2D then skipNumber rest
  else if isDigit byte then skipNumber (byte :: rest)
  else .error ⟨.expectedValue, rest⟩

theorem length_skipScalar_le {byte : UInt8} {s rest : List UInt8}
    (skip : skipScalar byte s = .ok rest) : rest.length ≤ s.length := by
  unfold skipScalar at skip
  split at skip
  · exact length_word_le skip
  split at skip
  · exact length_word_le skip
  split at skip
  · exact length_word_le skip
  split at skip
  · exact Nat.le_of_lt (length_skipString_lt skip)
  split at skip
  · exact Nat.le_of_lt (length_skipNumber_lt skip)
  split at skip
  · exact Nat.le_of_lt_succ (length_skipNumber_lt skip)
  · cases skip

def skipName (s : List UInt8) : Except Fault (List UInt8) :=
  match skipBlank s with
  | [] => .error ⟨.endInObject, []⟩
  | byte :: rest =>
    if byte = 0x22 then
      match skipString rest with
      | .error fault => .error fault
      | .ok rest => colon rest
    else .error ⟨.nameNotString, rest⟩

theorem length_skipName_le {s rest : List UInt8} (skip : skipName s = .ok rest) :
    rest.length ≤ s.length := by
  have blank := length_skipBlank_le s
  unfold skipName at skip
  split at skip
  · cases skip
  · rename_i skipped
    rw [skipped, List.length_cons] at blank
    split at skip
    · split at skip
      · cases skip
      · rename_i string
        have := length_skipString_lt string
        have := length_colon_lt skip
        omega
    · cases skip

def skipToValue : Frame → List UInt8 → Except Fault (List UInt8)
  | .array, s => .ok s
  | .object, s => skipName s

theorem length_skipToValue_le {frame : Frame} {s rest : List UInt8}
    (skip : skipToValue frame s = .ok rest) : rest.length ≤ s.length := by
  cases frame with
  | array => cases skip; exact Nat.le_refl _
  | object => exact length_skipName_le skip

inductive Stand where
  | value
  | opened
  | closed
deriving DecidableEq, Repr

def Frame.separatorCause : Frame → Cause
  | .array => .expectedCommaOrBracket
  | .object => .expectedCommaOrBrace

def Frame.endCause : Frame → Cause
  | .array => .endInArray
  | .object => .endInObject

def Frame.closing : Frame → UInt8
  | .array => 0x5D
  | .object => 0x7D

def skipFrom (stand : Stand) (frames : List Frame) (s : List UInt8) : Except Fault (List UInt8) :=
  match stand, frames with
  | .value, frames =>
    match _skipped : skipBlank s with
    | [] => .error ⟨.endInValue, []⟩
    | byte :: rest =>
      if byte = 0x5B then skipFrom .opened (.array :: frames) rest
      else if byte = 0x7B then skipFrom .opened (.object :: frames) rest
      else
        match _scalar : skipScalar byte rest with
        | .error fault => .error fault
        | .ok rest => skipFrom .closed frames rest
  | _, [] => .ok s
  | stand, frame :: frames =>
    match _skipped : skipBlank s with
    | [] => .error ⟨frame.endCause, []⟩
    | byte :: rest =>
      if byte = frame.closing then skipFrom .closed frames rest
      else if stand = .opened then
        match _ahead : skipToValue frame (byte :: rest) with
        | .error fault => .error fault
        | .ok rest => skipFrom .value (frame :: frames) rest
      else if byte = 0x2C then
        match _ahead : skipToValue frame rest with
        | .error fault => .error fault
        | .ok rest => skipFrom .value (frame :: frames) rest
      else .error ⟨frame.separatorCause, rest⟩
termination_by 2 * s.length + (if stand = .value then 0 else 1)
decreasing_by
  all_goals
    have blank := length_skipBlank_le s
    rw [_skipped, List.length_cons] at blank
  · simp only [if_true, if_false]; omega
  · simp only [if_true, if_false]; omega
  · have := length_skipScalar_le _scalar
    simp only [if_true, if_false]; omega
  · split <;> split <;> omega
  · have := length_skipToValue_le _ahead
    simp_all only [List.length_cons, if_true, reduceCtorEq, if_false]; omega
  · have := length_skipToValue_le _ahead
    simp only [if_true]; split <;> omega

theorem length_skipFrom {stand : Stand} {frames : List Frame} {s rest : List UInt8}
    (skip : skipFrom stand frames s = .ok rest) :
    rest.length + (if stand = .value then 1 else 0) ≤ s.length := by
  have ends {s tail : List UInt8} {byte : UInt8} (skipped : skipBlank s = byte :: tail) :
      tail.length + 1 ≤ s.length := by
    have blank := length_skipBlank_le s
    rwa [skipped, List.length_cons] at blank
  fun_induction skipFrom stand frames s with
  | case1 => cases skip
  | case2 _ _ _ skipped induction =>
    have := ends skipped
    have := induction skip
    rw [if_pos rfl]; omega
  | case3 _ _ _ skipped _ induction =>
    have := ends skipped
    have := induction skip
    rw [if_pos rfl]; omega
  | case4 => cases skip
  | case5 _ _ _ _ skipped _ _ _ scalar induction =>
    have := ends skipped
    have := length_skipScalar_le scalar
    have := induction skip
    rw [if_pos rfl]; omega
  | case6 _ _ notValue => cases skip; rw [if_neg notValue]; exact Nat.le_refl _
  | case7 => cases skip
  | case8 _ _ _ _ notValue _ skipped induction =>
    have := ends skipped
    have := induction skip
    rw [if_neg notValue]; omega
  | case9 => cases skip
  | case10 _ _ _ _ _ skipped _ _ ahead notValue induction =>
    have := ends skipped
    have := length_skipToValue_le ahead
    have := induction skip
    rw [if_pos rfl] at this
    rw [if_neg notValue]
    rw [List.length_cons] at *; omega
  | case11 => cases skip
  | case12 _ _ _ _ notValue _ _ _ ahead skipped _ induction =>
    have := ends skipped
    have := length_skipToValue_le ahead
    have := induction skip
    rw [if_pos rfl] at this
    rw [if_neg notValue]; omega
  | case13 => cases skip

def skipReader : Reader Unit where
  read s :=
    match skipFrom .value [] s with
    | .error fault => .error fault
    | .ok rest => .ok ((), rest)
  consumes := by
    intro s rest value read
    split at read
    · cases read
    · rename_i skip
      cases read
      have := length_skipFrom skip
      rw [if_pos rfl] at this; omega

end NodeConsole.Json
