import NodeConsole.Proofs.Json.Meanings
/-!
Which texts of the grammar are read. There are three reasons why one is not: it is nested too deep, a number in
it is too large, or a string in it has half a character. What is read is a value of the kind that was written.
-/

namespace NodeConsole.Json.Grammar

/-! ## What is in a value -/

mutual

def Value.depth : Value → Nat
  | .array _ items => items.depth + 1
  | .object _ entries => entries.depth + 1
  | _ => 0

def Items.depth : Items → Nat
  | .nil => 0
  | .cons _ item _ more => max item.depth more.depth

def Entries.depth : Entries → Nat
  | .nil => 0
  | .cons _ _ _ _ value _ more => max value.depth more.depth

end

mutual

def Value.numerals : Value → List Numeral
  | .number numeral => [numeral]
  | .array _ items => items.numerals
  | .object _ entries => entries.numerals
  | _ => []

def Items.numerals : Items → List Numeral
  | .nil => []
  | .cons _ item _ more => item.numerals ++ more.numerals

def Entries.numerals : Entries → List Numeral
  | .nil => []
  | .cons _ _ _ _ value _ more => value.numerals ++ more.numerals

end

mutual

def Value.strings : Value → List (List Piece)
  | .string pieces => [pieces]
  | .array _ items => items.strings
  | .object _ entries => entries.strings
  | _ => []

def Items.strings : Items → List (List Piece)
  | .nil => []
  | .cons _ item _ more => item.strings ++ more.strings

def Entries.strings : Entries → List (List Piece)
  | .nil => []
  | .cons _ name _ _ value _ more => name :: (value.strings ++ more.strings)

end

structure Readable (limit depth : Nat) (numerals : List Numeral) (strings : List (List Piece)) : Prop where
  shallow : depth ≤ limit
  inRange : ∀ numeral ∈ numerals, numeral.InRange
  paired : ∀ pieces ∈ strings, Paired pieces

section

variable {limit depth depthBehind : Nat} {numerals numeralsBehind : List Numeral}
  {strings stringsBehind : List (List Piece)}

theorem readable_nil (limit : Nat) : Readable limit 0 [] [] :=
  ⟨Nat.zero_le _, nofun, nofun⟩

theorem readable_append_iff :
    Readable limit (max depth depthBehind) (numerals ++ numeralsBehind) (strings ++ stringsBehind) ↔
      Readable limit depth numerals strings ∧ Readable limit depthBehind numeralsBehind stringsBehind := by
  constructor
  · intro readable
    rcases Nat.max_le.mp readable.shallow with ⟨shallow, shallowBehind⟩
    rcases List.forall_mem_append.mp readable.inRange with ⟨inRange, inRangeBehind⟩
    rcases List.forall_mem_append.mp readable.paired with ⟨paired, pairedBehind⟩
    exact ⟨⟨shallow, inRange, paired⟩, ⟨shallowBehind, inRangeBehind, pairedBehind⟩⟩
  · intro both
    exact ⟨Nat.max_le.mpr ⟨both.1.shallow, both.2.shallow⟩,
      List.forall_mem_append.mpr ⟨both.1.inRange, both.2.inRange⟩,
      List.forall_mem_append.mpr ⟨both.1.paired, both.2.paired⟩⟩

theorem readable_cons_iff {pieces : List Piece} :
    Readable limit depth numerals (pieces :: strings) ↔ Paired pieces ∧ Readable limit depth numerals strings := by
  constructor
  · intro readable
    rcases List.forall_mem_cons.mp readable.paired with ⟨first, later⟩
    exact ⟨first, readable.shallow, readable.inRange, later⟩
  · intro both
    exact ⟨both.2.shallow, both.2.inRange, List.forall_mem_cons.mpr ⟨both.1, both.2.paired⟩⟩

theorem readable_succ_iff :
    Readable (limit + 1) (depth + 1) numerals strings ↔ Readable limit depth numerals strings := by
  constructor
  · exact fun readable => ⟨Nat.le_of_succ_le_succ readable.shallow, readable.inRange, readable.paired⟩
  · exact fun readable => ⟨Nat.succ_le_succ readable.shallow, readable.inRange, readable.paired⟩

theorem not_readable_zero : ¬Readable 0 (depth + 1) numerals strings :=
  fun readable => absurd readable.shallow (Nat.not_succ_le_zero depth)

theorem readable_numeral_iff {numeral : Numeral} : Readable limit 0 [numeral] [] ↔ numeral.InRange := by
  constructor
  · exact fun readable => readable.inRange numeral (List.mem_singleton_self _)
  · intro inRange
    refine ⟨Nat.zero_le _, fun other member => ?_, nofun⟩
    rw [List.mem_singleton.mp member]
    exact inRange

end

mutual

/-- A value has a meaning exactly if it is not nested too deep, its numbers are not too large, and the halves
of characters in its strings stand in pairs. -/
theorem Value.exists_meaning_iff (limit : Nat) (value : Value) :
    (∃ found, value.meaning? limit = some found) ↔
      Readable limit value.depth value.numerals value.strings := by
  cases value with
  | null => exact iff_of_true ⟨_, rfl⟩ (readable_nil limit)
  | bool value => exact iff_of_true ⟨_, rfl⟩ (readable_nil limit)
  | number numeral =>
      rw [Value.meaning?, exists_map_iff, numeral.exists_meaning_iff]
      exact readable_numeral_iff.symm
  | string pieces =>
      rw [Value.meaning?, exists_map_iff, exists_textOf?_iff]
      exact (readable_cons_iff.trans (and_iff_left (readable_nil limit))).symm
  | array blanks items =>
      cases limit with
      | zero => exact iff_of_false (fun none => nomatch none.choose_spec) not_readable_zero
      | succ below =>
          rw [Value.meaning?, exists_map_iff, items.exists_meaning_iff below]
          exact readable_succ_iff.symm
  | object blanks entries =>
      cases limit with
      | zero => exact iff_of_false (fun none => nomatch none.choose_spec) not_readable_zero
      | succ below =>
          rw [Value.meaning?, exists_map_iff, entries.exists_meaning_iff below]
          exact readable_succ_iff.symm

theorem Items.exists_meaning_iff (limit : Nat) (items : Items) :
    (∃ found, items.meaning? limit = some found) ↔
      Readable limit items.depth items.numerals items.strings := by
  cases items with
  | nil => exact iff_of_true ⟨_, rfl⟩ (readable_nil limit)
  | cons before item after more =>
      rw [Items.meaning?, exists_bind_map_iff, item.exists_meaning_iff limit, more.exists_meaning_iff limit]
      exact readable_append_iff.symm

theorem Entries.exists_meaning_iff (limit : Nat) (entries : Entries) :
    (∃ found, entries.meaning? limit = some found) ↔
      Readable limit entries.depth entries.numerals entries.strings := by
  cases entries with
  | nil => exact iff_of_true ⟨_, rfl⟩ (readable_nil limit)
  | cons before name afterName beforeValue value after more =>
      have parts : (∃ found, (Entries.cons before name afterName beforeValue value after more).meaning? limit =
          some found) ↔ (∃ text, textOf? name = some text) ∧
            (∃ found, value.meaning? limit = some found) ∧ ∃ found, more.meaning? limit = some found := by
        rw [Entries.meaning?, ← exists_bind_map_iff (f := fun found later => (found, later))]
        cases textOf? name with
        | none => simp
        | some text => simp [exists_bind_map_iff]
      rw [parts, exists_textOf?_iff, value.exists_meaning_iff limit, more.exists_meaning_iff limit,
        ← readable_append_iff]
      exact readable_cons_iff.symm

end

/-! ## Kinds -/

inductive Kind where
  | null
  | bool
  | number
  | string
  | array
  | object
deriving DecidableEq

def Value.kind : Value → Kind
  | .null => .null
  | .bool _ => .bool
  | .number _ => .number
  | .string _ => .string
  | .array _ _ => .array
  | .object _ _ => .object

def kindOf : Json → Kind
  | .null => .null
  | .bool _ => .bool
  | .number _ => .number
  | .string _ => .string
  | .array _ => .array
  | .object _ => .object

theorem Value.kindOf_meaning {limit : Nat} {value : Value} {found : Json}
    (means : value.meaning? limit = some found) : kindOf found = value.kind := by
  cases value with
  | null =>
      cases means
      rfl
  | bool value =>
      cases means
      rfl
  | number numeral =>
      rcases Option.map_eq_some_iff.mp means with ⟨number, _, rfl⟩
      rfl
  | string pieces =>
      rcases Option.map_eq_some_iff.mp means with ⟨text, _, rfl⟩
      rfl
  | array blanks items =>
      cases limit with
      | zero => cases means
      | succ below =>
          rcases Option.map_eq_some_iff.mp means with ⟨values, _, rfl⟩
          rfl
  | object blanks entries =>
      cases limit with
      | zero => cases means
      | succ below =>
          rcases Option.map_eq_some_iff.mp means with ⟨members, _, rfl⟩
          rfl

/-! ## Documents -/

/-- A document is read as what it means. -/
theorem Document.ofText_toOption (document : Document) :
    (ofText document.text).toOption = document.value.meaning? depthLimit := by
  have blankAfter := blank_spaceChars document.after
  have ends : EndsNumber (Utf8.encode (spaceChars document.after)) := by
    have atEnd : EndsNumber [] := nofun
    have behind := blankAfter.endsNumber atEnd
    rwa [List.append_nil] at behind
  have bytes : Utf8.bytes document.text = Utf8.encode (spaceChars document.before) ++
      (Utf8.encode document.value.chars ++ Utf8.encode (spaceChars document.after)) := by
    rw [Utf8.bytes, Document.text, String.toList_ofList, Utf8.encode_append, Utf8.encode_append]
  have read := document.value.read_toOption depthLimit ends
  rw [← read_blank_append depthLimit (blank_spaceChars document.before), ← bytes] at read
  rw [ofText, ofBytes, documentOf]
  cases means : document.value.meaning? depthLimit with
  | none =>
      rw [means] at read
      rcases exists_error_of_toOption read with ⟨fault, failed⟩
      rw [failed]
      rfl
  | some value =>
      have skipped : skipBlank (Utf8.encode (spaceChars document.after)) = [] :=
        List.dropWhile_eq_nil_iff.mpr blankAfter
      rw [means] at read
      rw [toOption_eq_some_iff.mp read]
      dsimp only
      rw [skipped]
      rfl

theorem Document.meaning_ne_text {document : Document} {limit : Nat} {found : Json}
    (means : document.value.meaning? limit = some found) : found ≠ .string document.text := by
  intro same
  subst same
  have kind := Value.kindOf_meaning means
  cases written : document.value with
  | string pieces =>
      rw [written] at means
      rcases Option.map_eq_some_iff.mp means with ⟨text, meansText, same⟩
      have bound := length_le_of_textOf? meansText
      have length := congrArg String.length (Json.string.inj same)
      rw [Document.text, String.length_ofList, String.length_ofList, written, Value.chars, stringChars] at length
      simp only [List.length_append, List.length_cons] at length
      omega
  | _ =>
      rw [written] at kind
      cases kind

end NodeConsole.Json.Grammar
