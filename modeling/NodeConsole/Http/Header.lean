/-!
Header lists. A name may occur more than once, and the order of the values of one name matters.
-/

namespace NodeConsole.Http

abbrev Header :=
  String × List UInt8

abbrev Headers :=
  List Header

namespace Headers

def values (headers : Headers) (name : String) : List (List UInt8) :=
  (headers.filter (·.1 == name)).map (·.2)

def has (headers : Headers) (name : String) : Bool :=
  headers.any (·.1 == name)

def without (headers : Headers) (name : String) : Headers :=
  headers.filter (·.1 != name)

def withoutAll (headers : Headers) (names : List String) : Headers :=
  headers.filter fun header => !names.contains header.1

def put (headers : Headers) (name : String) (value : List UInt8) : Headers :=
  headers.without name ++ [(name, value)]

def putNew (headers : Headers) (name : String) (value : List UInt8) : Headers :=
  if headers.has name then headers else headers ++ [(name, value)]

@[simp] theorem values_without_self (headers : Headers) (name : String) :
    (headers.without name).values name = [] := by
  simp only [values, without, List.filter_filter, List.map_eq_nil_iff, List.filter_eq_nil_iff]
  intro header _
  by_cases same : header.1 = name <;> simp [same]

theorem values_without_other {name other : String} (different : other ≠ name) (headers : Headers) :
    (headers.without name).values other = headers.values other := by
  simp only [values, without, List.filter_filter]
  congr 1
  apply List.filter_congr
  intro header _
  by_cases same : header.1 = other <;> simp [same, different]

theorem values_append (left right : Headers) (name : String) :
    values (left ++ right) name = left.values name ++ right.values name := by
  simp [values]

theorem values_eq_nil_iff {headers : Headers} {name : String} :
    headers.values name = [] ↔ name ∉ headers.map (·.1) := by
  simp only [values, List.map_eq_nil_iff, List.filter_eq_nil_iff, List.mem_map, not_exists, not_and,
    beq_iff_eq]

theorem has_eq_false_iff {headers : Headers} {name : String} :
    headers.has name = false ↔ headers.values name = [] := by
  simp [has, values]

theorem values_withoutAll_of_mem {names : List String} {name : String} (listed : name ∈ names)
    (headers : Headers) : (headers.withoutAll names).values name = [] := by
  simp only [values, withoutAll, List.filter_filter, List.map_eq_nil_iff, List.filter_eq_nil_iff]
  intro header _
  by_cases same : header.1 = name <;> simp [same, listed]

theorem values_withoutAll_of_not_mem {names : List String} {name : String} (unlisted : name ∉ names)
    (headers : Headers) : (headers.withoutAll names).values name = headers.values name := by
  simp only [values, withoutAll, List.filter_filter]
  congr 1
  apply List.filter_congr
  intro header _
  by_cases same : header.1 = name <;> simp [same, unlisted]

theorem values_putNew_self (headers : Headers) (name : String) (value : List UInt8) :
    (headers.putNew name value).values name =
      if headers.values name = [] then [value] else headers.values name := by
  cases present : headers.has name with
  | false =>
    have absent := has_eq_false_iff.mp present
    rw [putNew, if_neg (by simp [present]), values_append, if_pos absent, absent]
    simp [values]
  | true =>
    have given : headers.values name ≠ [] := fun absent => by
      simp [has_eq_false_iff.mpr absent] at present
    rw [putNew, if_pos present, if_neg given]

theorem values_putNew_other {name other : String} (different : other ≠ name) (headers : Headers)
    (value : List UInt8) : (headers.putNew name value).values other = headers.values other := by
  have none : values [(name, value)] other = [] := by simp [values, Ne.symm different]
  rw [putNew]
  split
  · rfl
  · rw [values_append, none, List.append_nil]

example : values [("a", [1]), ("b", [2]), ("a", [3])] "a" = [[1], [3]] := by decide

end Headers

def isValueByte (byte : UInt8) : Bool :=
  byte == 0x09 || (0x20 ≤ byte.toNat && byte != 0x7F)

def isTokenByte (byte : UInt8) : Bool :=
  let b := byte.toNat
  (0x30 ≤ b && b ≤ 0x39) || (0x41 ≤ b && b ≤ 0x5A) || (0x5E ≤ b && b ≤ 0x7A) || b == 0x21 ||
    (0x23 ≤ b && b ≤ 0x27) || b == 0x2A || b == 0x2B || b == 0x2D || b == 0x2E || b == 0x7C || b == 0x7E

end NodeConsole.Http
