import NodeConsole.Json.Scanner
/-!
Reading values from text. A `Reader` is a function on the bytes still to be read that takes at least
one of them, so the loops over items and members end. Arrays and objects may be nested 127 deep.
-/

namespace NodeConsole.Json

structure Reader (α : Type) where
  read : List UInt8 → Scan α
  consumes : ∀ {s rest : List UInt8} {value : α}, read s = .ok (value, rest) → rest.length < s.length

/-! ## Items and members -/

inductive Next where
  | done (rest : List UInt8)
  | item (rest : List UInt8)
deriving DecidableEq, Repr

def nextItem (first : Bool) (s : List UInt8) : Except Fault Next :=
  match skipBlank s with
  | [] => .error ⟨.endInArray, []⟩
  | byte :: rest =>
    if byte = 0x5D then .ok (.done rest)
    else if first then .ok (.item (byte :: rest))
    else if byte = 0x2C then
      match skipBlank rest with
      | [] => .error ⟨.endInValue, []⟩
      | byte :: rest =>
        if byte = 0x5D then .error ⟨.trailingComma, rest⟩ else .ok (.item (byte :: rest))
    else .error ⟨.expectedCommaOrBracket, rest⟩

theorem length_nextItem_done {first : Bool} {s rest : List UInt8}
    (next : nextItem first s = .ok (.done rest)) : rest.length < s.length := by
  have blank := length_skipBlank_le s
  unfold nextItem at next
  split at next
  · cases next
  · rename_i skipped
    rw [skipped, List.length_cons] at blank
    split at next
    · cases next; omega
    · split at next
      · cases next
      · split at next
        · split at next
          · cases next
          · split at next <;> cases next
        · cases next

theorem length_nextItem_item {first : Bool} {s rest : List UInt8}
    (next : nextItem first s = .ok (.item rest)) : rest.length ≤ s.length := by
  have blank := length_skipBlank_le s
  unfold nextItem at next
  split at next
  · cases next
  · rename_i skipped
    rw [skipped, List.length_cons] at blank
    split at next
    · cases next
    · split at next
      · cases next; simp only [List.length_cons]; omega
      · split at next
        · rename_i tail _ _ _
          have inner := length_skipBlank_le tail
          split at next
          · cases next
          · rename_i again
            rw [again, List.length_cons] at inner
            split at next
            · cases next
            · cases next; simp only [List.length_cons]; omega
        · cases next

def items {α : Type} (item : Reader α) (first : Bool) (done : List α) (s : List UInt8) :
    Scan (List α) :=
  match _next : nextItem first s with
  | .error fault => .error fault
  | .ok (.done rest) => .ok (done.reverse, rest)
  | .ok (.item rest) =>
    match _read : item.read rest with
    | .error fault => .error fault
    | .ok (value, after) => items item false (value :: done) after
termination_by s.length
decreasing_by
  have := length_nextItem_item _next
  have := item.consumes _read
  omega

theorem length_items_lt {α : Type} {item : Reader α} {first : Bool} {done values : List α}
    {s rest : List UInt8} (read : items item first done s = .ok (values, rest)) :
    rest.length < s.length := by
  fun_induction items item first done s with
  | case1 => cases read
  | case2 _ _ _ _ next => cases read; exact length_nextItem_done next
  | case3 => cases read
  | case4 _ _ _ _ next _ _ item_read induction =>
    have := length_nextItem_item next
    have := item.consumes item_read
    have := induction read
    omega

def nextName (first : Bool) (s : List UInt8) : Scan (Option String) :=
  match skipBlank s with
  | [] => .error ⟨.endInObject, []⟩
  | byte :: rest =>
    if byte = 0x7D then .ok (none, rest)
    else if first then
      if byte = 0x22 then
        match stringScan rest with
        | .error fault => .error fault
        | .ok (name, rest) => .ok (some name, rest)
      else .error ⟨.nameNotString, rest⟩
    else if byte = 0x2C then
      match skipBlank rest with
      | [] => .error ⟨.endInValue, []⟩
      | byte :: rest =>
        if byte = 0x22 then
          match stringScan rest with
          | .error fault => .error fault
          | .ok (name, rest) => .ok (some name, rest)
        else if byte = 0x7D then .error ⟨.trailingComma, rest⟩
        else .error ⟨.nameNotString, rest⟩
    else .error ⟨.expectedCommaOrBrace, rest⟩

theorem length_nextName_lt {first : Bool} {s rest : List UInt8} {name : Option String}
    (next : nextName first s = .ok (name, rest)) : rest.length < s.length := by
  have blank := length_skipBlank_le s
  unfold nextName at next
  split at next
  · cases next
  · rename_i skipped
    rw [skipped, List.length_cons] at blank
    split at next
    · cases next; omega
    · split at next
      · split at next
        · split at next
          · cases next
          · rename_i read
            cases next
            have := length_stringScan_lt read
            omega
        · cases next
      · split at next
        · rename_i tail _ _ _
          have inner := length_skipBlank_le tail
          split at next
          · cases next
          · rename_i again
            rw [again, List.length_cons] at inner
            split at next
            · split at next
              · cases next
              · rename_i read
                cases next
                have := length_stringScan_lt read
                omega
            · split at next <;> cases next
        · cases next

def colon (s : List UInt8) : Except Fault (List UInt8) :=
  match skipBlank s with
  | [] => .error ⟨.endInObject, []⟩
  | byte :: rest => if byte = 0x3A then .ok rest else .error ⟨.expectedColon, rest⟩

theorem length_colon_lt {s rest : List UInt8} (read : colon s = .ok rest) :
    rest.length < s.length := by
  have blank := length_skipBlank_le s
  unfold colon at read
  split at read
  · cases read
  · rename_i skipped
    rw [skipped, List.length_cons] at blank
    split at read
    · cases read; omega
    · cases read

def members {α : Type} (value : Reader α) (first : Bool) (done : List (String × α))
    (s : List UInt8) : Scan (List (String × α)) :=
  match _next : nextName first s with
  | .error fault => .error fault
  | .ok (none, rest) => .ok (done.reverse, rest)
  | .ok (some name, rest) =>
    match _separator : colon rest with
    | .error fault => .error fault
    | .ok rest =>
      match _read : value.read rest with
      | .error fault => .error fault
      | .ok (found, after) => members value false ((name, found) :: done) after
termination_by s.length
decreasing_by
  have := length_nextName_lt _next
  have := length_colon_lt _separator
  have := value.consumes _read
  omega

theorem length_members_lt {α : Type} {value : Reader α} {first : Bool}
    {done entries : List (String × α)} {s rest : List UInt8}
    (read : members value first done s = .ok (entries, rest)) : rest.length < s.length := by
  fun_induction members value first done s with
  | case1 => cases read
  | case2 _ _ _ _ next => cases read; exact length_nextName_lt next
  | case3 => cases read
  | case4 => cases read
  | case5 _ _ _ _ _ next _ separator _ _ value_read induction =>
    have := length_nextName_lt next
    have := length_colon_lt separator
    have := value.consumes value_read
    have := induction read
    omega

/-! ## Values -/

def scalarScan (byte : UInt8) (rest : List UInt8) : Scan Json :=
  if byte = 0x6E then
    match word [0x75, 0x6C, 0x6C] rest with
    | .error fault => .error fault
    | .ok rest => .ok (.null, rest)
  else if byte = 0x74 then
    match word [0x72, 0x75, 0x65] rest with
    | .error fault => .error fault
    | .ok rest => .ok (.bool true, rest)
  else if byte = 0x66 then
    match word [0x61, 0x6C, 0x73, 0x65] rest with
    | .error fault => .error fault
    | .ok rest => .ok (.bool false, rest)
  else if byte = 0x22 then
    match stringScan rest with
    | .error fault => .error fault
    | .ok (text, rest) => .ok (.string text, rest)
  else if byte = 0x2D then
    match numberScan true rest with
    | .error fault => .error fault
    | .ok (n, rest) => .ok (.number n, rest)
  else if isDigit byte then
    match numberScan false (byte :: rest) with
    | .error fault => .error fault
    | .ok (n, rest) => .ok (.number n, rest)
  else .error ⟨.expectedValue, rest⟩

theorem length_scalarScan_le {byte : UInt8} {s rest : List UInt8} {value : Json}
    (read : scalarScan byte s = .ok (value, rest)) : rest.length ≤ s.length := by
  unfold scalarScan at read
  split at read
  · split at read
    · cases read
    · rename_i inner; cases read; exact length_word_le inner
  split at read
  · split at read
    · cases read
    · rename_i inner; cases read; exact length_word_le inner
  split at read
  · split at read
    · cases read
    · rename_i inner; cases read; exact length_word_le inner
  split at read
  · split at read
    · cases read
    · rename_i inner; cases read; exact Nat.le_of_lt (length_stringScan_lt inner)
  split at read
  · split at read
    · cases read
    · rename_i inner; cases read; exact Nat.le_of_lt (length_numberScan_lt inner)
  split at read
  · split at read
    · cases read
    · rename_i inner; cases read; exact Nat.le_of_lt_succ (length_numberScan_lt inner)
  · cases read

def valueScan (inner : Option (Reader Json)) (s : List UInt8) : Scan Json :=
  match skipBlank s with
  | [] => .error ⟨.endInValue, []⟩
  | byte :: rest =>
    if byte = 0x5B then
      match inner with
      | none => .error ⟨.nestedTooDeep, rest⟩
      | some inner =>
        match items inner true [] rest with
        | .error fault => .error fault
        | .ok (values, rest) => .ok (.array values, rest)
    else if byte = 0x7B then
      match inner with
      | none => .error ⟨.nestedTooDeep, rest⟩
      | some inner =>
        match members inner true [] rest with
        | .error fault => .error fault
        | .ok (entries, rest) => .ok (ofEntries entries, rest)
    else scalarScan byte rest

theorem length_valueScan_lt {inner : Option (Reader Json)} {s rest : List UInt8} {value : Json}
    (read : valueScan inner s = .ok (value, rest)) : rest.length < s.length := by
  have blank := length_skipBlank_le s
  unfold valueScan at read
  split at read
  · cases read
  · rename_i skipped
    rw [skipped, List.length_cons] at blank
    split at read
    · split at read
      · cases read
      · split at read
        · cases read
        · rename_i inner_read; cases read; have := length_items_lt inner_read; omega
    · split at read
      · split at read
        · cases read
        · split at read
          · cases read
          · rename_i inner_read; cases read; have := length_members_lt inner_read; omega
      · have := length_scalarScan_le read; omega

def valueReader : Nat → Reader Json
  | 0 => ⟨valueScan none, length_valueScan_lt⟩
  | depth + 1 => ⟨valueScan (some (valueReader depth)), length_valueScan_lt⟩

def depthLimit : Nat :=
  127

/-! ## Documents -/

def Fault.located (fault : Fault) (text : List UInt8) : Error :=
  ⟨fault.cause, some (.after (text.take (text.length - fault.rest.length)))⟩

def documentOf {α : Type} (scan : List UInt8 → Scan α) (text : List UInt8) : Except Error α :=
  match scan text with
  | .error fault => .error (fault.located text)
  | .ok (value, rest) =>
    match skipBlank rest with
    | [] => .ok value
    | _ :: after => .error (Fault.located ⟨.trailingText, after⟩ text)

def ofBytes (text : List UInt8) : Except Error Json :=
  documentOf (valueReader depthLimit).read text

def ofText (text : String) : Except Error Json :=
  ofBytes (Utf8.bytes text)

end NodeConsole.Json
