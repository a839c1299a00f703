import NodeConsole.Json.Skip
/-!
Records read from JSON. A record may be given by an object, with its fields by name in any order and
other members skipped, or by an array, with its fields in the order of their declaration. A field
left out keeps its initial value. A record can be read from a text directly or from a value.
-/

namespace NodeConsole.Json

def found : Json → Found
  | .null => .null
  | .bool value => .bool value
  | .number n => .number n
  | .string text => .string text
  | .array _ => .array
  | .object _ => .object

/-- Refuse the value at the start of a text. A scalar is read first, so that it can be named and a
fault in it comes first; arrays and objects are not looked into. -/
def unexpected {α : Type} (expected : Expected) (byte : UInt8) (rest : List UInt8) : Scan α :=
  if byte = 0x5B then .error ⟨.wrongType .array expected, byte :: rest⟩
  else if byte = 0x7B then .error ⟨.wrongType .object expected, byte :: rest⟩
  else
    match scalarScan byte rest with
    | .error fault => .error fault
    | .ok (value, rest) => .error ⟨.wrongType (found value) expected, rest⟩

theorem unexpected_ne_ok {α : Type} {expected : Expected} {byte : UInt8} {s : List UInt8}
    {result : α × List UInt8} : unexpected expected byte s ≠ .ok result := by
  unfold unexpected
  intro read
  split at read
  · cases read
  split at read
  · cases read
  split at read <;> cases read

/-! ## Fields -/

structure Slot (α : Type) where
  reader : Reader α
  ofValue : Json → Except Cause α

def scalarReader {α : Type} (expected : Expected) (accept : Json → Option (Except Cause α)) :
    Reader α where
  read s :=
    match skipBlank s with
    | [] => .error ⟨.endInValue, []⟩
    | byte :: rest =>
      if byte = 0x5B ∨ byte = 0x7B then unexpected expected byte rest
      else
        match scalarScan byte rest with
        | .error fault => .error fault
        | .ok (value, rest) =>
          match accept value with
          | some (.ok a) => .ok (a, rest)
          | some (.error cause) => .error ⟨cause, rest⟩
          | none => .error ⟨.wrongType (found value) expected, rest⟩
  consumes := by
    intro s rest value read
    have blank := length_skipBlank_le s
    split at read
    · cases read
    · rename_i skipped
      rw [skipped, List.length_cons] at blank
      split at read
      · exact absurd read unexpected_ne_ok
      · split at read
        · cases read
        · rename_i scalar
          have := length_scalarScan_le scalar
          split at read
          · cases read; omega
          · cases read
          · cases read

def scalarSlot {α : Type} (expected : Expected) (accept : Json → Option (Except Cause α)) :
    Slot α where
  reader := scalarReader expected accept
  ofValue value :=
    match accept value with
    | some result => result
    | none => .error (.wrongType (found value) expected)

def boolSlot : Slot Bool :=
  scalarSlot .boolean fun
    | .bool value => some (.ok value)
    | _ => none

def stringSlot : Slot String :=
  scalarSlot .string fun
    | .string text => some (.ok text)
    | _ => none

def natural64Slot : Slot UInt64 :=
  scalarSlot .natural64 fun
    | .number (.integer n) =>
      some (if 0 ≤ n then .ok (UInt64.ofNat n.toNat)
        else .error (.wrongValue (.number (.integer n)) .natural64))
    | _ => none

structure Field (ρ : Type) where
  {α : Type}
  name : String
  slot : Slot α
  set : α → ρ → ρ

structure Shape (ρ : Type) where
  name : String
  initial : ρ
  fields : List (Field ρ)

variable {ρ : Type}

def Field.scan (field : Field ρ) (record : ρ) (s : List UInt8) : Scan ρ :=
  match field.slot.reader.read s with
  | .error fault => .error fault
  | .ok (value, rest) => .ok (field.set value record, rest)

theorem Field.length_scan_lt {field : Field ρ} {record record' : ρ} {s rest : List UInt8}
    (read : field.scan record s = .ok (record', rest)) : rest.length < s.length := by
  unfold Field.scan at read
  split at read
  · cases read
  · rename_i inner; cases read; exact field.slot.reader.consumes inner

def Shape.field? (shape : Shape ρ) (name : String) : Option (Field ρ) :=
  shape.fields.find? (·.name == name)

/-! ## From a text -/

def arrayEnd (s : List UInt8) : Except Fault (List UInt8) :=
  match skipBlank s with
  | [] => .error ⟨.endInArray, []⟩
  | byte :: rest =>
    if byte = 0x5D then .ok rest
    else if byte = 0x2C then
      match skipBlank rest with
      | [] => .error ⟨.trailingText, []⟩
      | byte :: rest =>
        if byte = 0x5D then .error ⟨.trailingComma, rest⟩ else .error ⟨.trailingText, rest⟩
    else .error ⟨.trailingText, rest⟩

def positionalScan (record : ρ) (first : Bool) : List (Field ρ) → List UInt8 → Scan ρ
  | [], s =>
    match arrayEnd s with
    | .error fault => .error fault
    | .ok rest => .ok (record, rest)
  | field :: fields, s =>
    match nextItem first s with
    | .error fault => .error fault
    | .ok (.done rest) => .ok (record, rest)
    | .ok (.item rest) =>
      match field.scan record rest with
      | .error fault => .error fault
      | .ok (record, rest) => positionalScan record false fields rest

/-- Where a repeated field is reported: at the end of its name, past blanks and past a closing brace
that stands there. -/
def afterName (s : List UInt8) : List UInt8 :=
  match skipBlank s with
  | 0x7D :: rest => rest
  | rest => rest

def skipInto (record : ρ) (s : List UInt8) : Scan ρ :=
  match skipReader.read s with
  | .error fault => .error fault
  | .ok ((), rest) => .ok (record, rest)

def Shape.memberScan (shape : Shape ρ) (name : String) (record : ρ) (s : List UInt8) : Scan ρ :=
  match shape.field? name with
  | some field => field.scan record s
  | none => skipInto record s

theorem Shape.length_memberScan_lt {shape : Shape ρ} {name : String} {record record' : ρ}
    {s rest : List UInt8} (read : shape.memberScan name record s = .ok (record', rest)) :
    rest.length < s.length := by
  unfold Shape.memberScan at read
  split at read
  · exact Field.length_scan_lt read
  · unfold skipInto at read
    split at read
    · cases read
    · rename_i skip; cases read; exact skipReader.consumes skip

/-- Read members by name, up to the closing brace of the object. A field may be given once; `seen`
holds the names of those given. -/
def Shape.namedScan (shape : Shape ρ) (record : ρ) (first : Bool) (seen : List String)
    (s : List UInt8) : Scan ρ :=
  match _next : nextName first s with
  | .error fault => .error fault
  | .ok (none, rest) => .ok (record, rest)
  | .ok (some name, rest) =>
    if (shape.field? name).isSome && seen.contains name then
      .error ⟨.repeatedField name, afterName rest⟩
    else
      match _separator : colon rest with
      | .error fault => .error fault
      | .ok rest =>
        match _member : shape.memberScan name record rest with
        | .error fault => .error fault
        | .ok (record, rest) => shape.namedScan record false (name :: seen) rest
termination_by s.length
decreasing_by
  have := length_nextName_lt _next
  have := length_colon_lt _separator
  have := Shape.length_memberScan_lt _member
  omega

def Shape.scan (shape : Shape ρ) (s : List UInt8) : Scan ρ :=
  match skipBlank s with
  | [] => .error ⟨.endInValue, []⟩
  | byte :: rest =>
    if byte = 0x5B then positionalScan shape.initial true shape.fields rest
    else if byte = 0x7B then shape.namedScan shape.initial true [] rest
    else unexpected (.record shape.name) byte rest

def Shape.ofText (shape : Shape ρ) (text : String) : Except Error ρ :=
  documentOf shape.scan (Utf8.bytes text)

/-! ## From a value -/

def positionalOf (record : ρ) : List (Field ρ) → List Json → Except Cause (ρ × List Json)
  | field :: fields, item :: items =>
    match field.slot.ofValue item with
    | .error cause => .error cause
    | .ok value => positionalOf (field.set value record) fields items
  | _, items => .ok (record, items)

def Shape.namedOf (shape : Shape ρ) (record : ρ) : List (String × Json) → Except Cause ρ
  | [] => .ok record
  | (name, value) :: members =>
    match shape.field? name with
    | none => shape.namedOf record members
    | some field =>
      match field.slot.ofValue value with
      | .error cause => .error cause
      | .ok value => shape.namedOf (field.set value record) members

def Shape.ofValue (shape : Shape ρ) : Json → Except Cause ρ
  | .array items =>
    match positionalOf shape.initial shape.fields items with
    | .error cause => .error cause
    | .ok (record, []) => .ok record
    | .ok (_, _ :: _) => .error (.tooManyItems items.length)
  | .object members => shape.namedOf shape.initial members
  | value => .error (.wrongType (found value) (.record shape.name))

end NodeConsole.Json
