import Mathlib.Data.List.Forall2
import NodeConsole.Console.Report
import NodeConsole.Proofs.Json.Members
import NodeConsole.Proofs.Json.OneLine
import NodeConsole.Proofs.Text.ByteOrder
import NodeConsole.Proofs.Text.Utf8
/-!
Tables of settings. There is one where all keys fit into a column. Its values start in one column, behind
whole keys, so that keys without blanks and all that is shown of the values can be told from the text again.
-/

namespace NodeConsole.Console

variable {key value other shown line left right : String} {start width : Nat}
  {members others : List (String × Json)}

/-! ## Rows -/

/-- A line is a key with blanks as far as the column that its value starts in; at least two of them. -/
structure IsRow (start : Nat) (key value line : String) : Prop where
  fits : key.toList.length + 2 ≤ start
  front : line.toList.take start = key.toList ++ List.replicate (start - key.toList.length) ' '
  back : line.toList.drop start = value.toList

theorem isRow_row (fits : key.toList.length ≤ width) : IsRow (width + 2) key value (row width key value) := by
  have padding : List.replicate (width + 2 - key.toList.length) ' ' =
      List.replicate (width - key.toList.length) ' ' ++ [' ', ' '] := by
    rw [Nat.sub_add_comm fits, ← List.replicate_append_replicate]
    rfl
  have parted : (row width key value).toList =
      (key.toList ++ List.replicate (width + 2 - key.toList.length) ' ') ++ value.toList := by
    rw [row, String.toList_ofList, padding]
    simp
  have length : (key.toList ++ List.replicate (width + 2 - key.toList.length) ' ').length = width + 2 := by
    rw [List.length_append, List.length_replicate]
    omega
  exact ⟨by omega, by rw [parted, List.take_left' length], by rw [parted, List.drop_left' length]⟩

theorem takeWhile_front (noBlank : ' ' ∉ key.toList) (n : Nat) :
    (key.toList ++ List.replicate n ' ').takeWhile (· != ' ') = key.toList := by
  have passes : ∀ c ∈ key.toList, (c != ' ') = true := by
    intro c member
    rw [bne_iff_ne]
    rintro rfl
    exact noBlank member
  rw [List.takeWhile_append_of_pos passes]
  cases n <;> simp [List.replicate_succ]

/-- What a line is a row of can be read from it. -/
theorem IsRow.unique (isRow : IsRow start key value line) (isOther : IsRow start other shown line)
    (noBlank : ' ' ∉ key.toList) (noBlankOther : ' ' ∉ other.toList) : key = other ∧ value = shown := by
  constructor
  · apply String.toList_injective
    rw [← takeWhile_front noBlank, ← isRow.front, isOther.front, takeWhile_front noBlankOther]
  · apply String.toList_injective
    rw [← isRow.back, isOther.back]

theorem IsRow.lineFeed_not_mem (isRow : IsRow start key value line) (inKey : '\n' ∉ key.toList)
    (inValue : '\n' ∉ value.toList) : '\n' ∉ line.toList := by
  rw [← List.take_append_drop start line.toList, isRow.front, isRow.back]
  simp [inKey, inValue]

/-! ## Columns -/

theorem keyWidth_le_iff {limit : Nat} :
    keyWidth members ≤ limit ↔ 3 ≤ limit ∧ ∀ member ∈ members, (Utf8.bytes member.1).length ≤ limit := by
  have folded (least : Nat) (members : List (String × Json)) :
      members.foldl (fun width member => max width (Utf8.bytes member.1).length) least ≤ limit ↔
        least ≤ limit ∧ ∀ member ∈ members, (Utf8.bytes member.1).length ≤ limit := by
    induction members generalizing least with
    | nil => simp
    | cons first rest induction =>
        rw [List.foldl_cons, induction, Nat.max_le, List.forall_mem_cons, and_assoc]
  exact folded 3 members

theorem le_keyWidth : 3 ≤ keyWidth members ∧
    ∀ member ∈ members, (Utf8.bytes member.1).length ≤ keyWidth members :=
  keyWidth_le_iff.mp (Nat.le_refl _)

/-! ## Tables -/

def entriesOf (members : List (String × Json)) : List (String × String) :=
  ("KEY", "VALUE") :: members.map fun member => (member.1, cell member.2)

/-- A text is a table: the titles and one line for each member in the order of the bytes of the keys, with
all values in one column. -/
structure IsTable (members : List (String × Json)) (width : Nat) (text : String) : Prop where
  ascending : members.Pairwise fun earlier later => Utf8.bytes earlier.1 < Utf8.bytes later.1
  least : 3 ≤ width
  fits : ∀ member ∈ members, member.1.toList.length ≤ width
  lines : ∃ lines, text = "\n".intercalate lines ∧
    List.Forall₂ (fun entry line => IsRow (width + 2) entry.1 entry.2 line) (entriesOf members) lines

structure Legible (members : List (String × Json)) : Prop where
  keys : ∀ member ∈ members, ' ' ∉ member.1.toList ∧ '\n' ∉ member.1.toList
  texts : ∀ member ∈ members, ∀ text, member.2 = .string text → '\n' ∉ text.toList

def Narrow (members : List (String × Json)) : Prop :=
  ∀ member ∈ members, (Utf8.bytes member.1).length ≤ 65535

theorem report_eq_some_iff (nonempty : members ≠ []) {text : String} :
    report (.object members) .table = some text ↔ Narrow members ∧ text = "\n".intercalate (rows members) := by
  have wide : keyWidth members ≤ widestColumn ↔ Narrow members := by
    rw [keyWidth_le_iff]
    exact and_iff_right (by decide)
  rcases List.exists_cons_of_ne_nil nonempty with ⟨first, rest, rfl⟩
  rw [← wide]
  show (if keyWidth (first :: rest) ≤ widestColumn then some ("\n".intercalate (rows (first :: rest))) else none) =
    some text ↔ _
  split
  · next fits => simp [fits, eq_comm]
  · next tooWide => simp [tooWide]

/-- There is a table exactly if all keys fit. -/
theorem exists_report_iff (nonempty : members ≠ []) :
    (∃ text, report (.object members) .table = some text) ↔ Narrow members := by
  simp [report_eq_some_iff nonempty]

theorem isTable_report (ordered : Members.Ascending members) (nonempty : members ≠ []) {text : String}
    (shown : report (.object members) .table = some text) : IsTable members (keyWidth members) text where
  ascending := ordered.imp Utf8.bytes_lt
  least := le_keyWidth.1
  fits member inside := Nat.le_trans (Utf8.length_le_length_bytes member.1) (le_keyWidth.2 member inside)
  lines := by
    refine ⟨rows members, ((report_eq_some_iff nonempty).mp shown).2, .cons (isRow_row le_keyWidth.1) ?_⟩
    rw [List.forall₂_map_left_iff, List.forall₂_map_right_iff, List.forall₂_same]
    intro member inside
    exact isRow_row (Nat.le_trans (Utf8.length_le_length_bytes member.1) (le_keyWidth.2 member inside))

/-! ## Reading tables -/

theorem lineFeed_not_mem_cell {value : Json} (texts : ∀ text, value = .string text → '\n' ∉ text.toList) :
    '\n' ∉ (cell value).toList := by
  rw [cell.eq_def]
  split
  · next text => exact texts text rfl
  · exact Json.lineFeed_not_mem_compact value

theorem Legible.entries (legible : Legible members) {entry : String × String} (shown : entry ∈ entriesOf members) :
    ' ' ∉ entry.1.toList ∧ '\n' ∉ entry.1.toList ∧ '\n' ∉ entry.2.toList := by
  rw [entriesOf] at shown
  rcases List.mem_cons.mp shown with rfl | later
  · decide
  · rcases List.mem_map.mp later with ⟨member, inside, rfl⟩
    rcases legible.keys member inside with ⟨noBlank, noFeed⟩
    exact ⟨noBlank, noFeed, lineFeed_not_mem_cell (legible.texts member inside)⟩

theorem not_mem_of_forall₂ {entries : List (String × String)} {lines : List String}
    (rows : List.Forall₂ (fun entry line => IsRow start entry.1 entry.2 line) entries lines)
    (clear : ∀ entry ∈ entries, '\n' ∉ entry.1.toList ∧ '\n' ∉ entry.2.toList) :
    ∀ line ∈ lines.map String.toList, '\n' ∉ line := by
  induction rows with
  | nil => simp
  | cons isRow _ induction =>
      rw [List.map_cons, List.forall_mem_cons]
      rcases clear _ List.mem_cons_self with ⟨inKey, inValue⟩
      exact ⟨isRow.lineFeed_not_mem inKey inValue,
        induction fun entry member => clear entry (List.mem_cons_of_mem _ member)⟩

theorem entries_unique {entries others : List (String × String)} {lines : List String}
    (rows : List.Forall₂ (fun entry line => IsRow start entry.1 entry.2 line) entries lines)
    (rowsOther : List.Forall₂ (fun entry line => IsRow start entry.1 entry.2 line) others lines)
    (noBlank : ∀ entry ∈ entries, ' ' ∉ entry.1.toList)
    (noBlankOther : ∀ entry ∈ others, ' ' ∉ entry.1.toList) : entries = others := by
  induction rows generalizing others with
  | nil =>
      cases rowsOther
      rfl
  | cons isRow _ induction =>
      cases rowsOther with
      | cons isOther later =>
          rcases isRow.unique isOther (noBlank _ List.mem_cons_self) (noBlankOther _ List.mem_cons_self)
            with ⟨sameKey, sameValue⟩
          rw [Prod.ext sameKey sameValue,
            induction later (fun entry member => noBlank entry (List.mem_cons_of_mem _ member))
              fun entry member => noBlankOther entry (List.mem_cons_of_mem _ member)]

/-- The titles tell the column of the values. -/
theorem width_unique {other : Nat} {line : String} (least : 3 ≤ width) (leastOther : 3 ≤ other)
    (titles : IsRow (width + 2) "KEY" "VALUE" line) (titlesOther : IsRow (other + 2) "KEY" "VALUE" line) :
    width = other := by
  have length {width : Nat} (least : 3 ≤ width) (titles : IsRow (width + 2) "KEY" "VALUE" line) :
      line.toList.length = width + 2 + 5 := by
    rw [← List.take_append_drop (width + 2) line.toList, titles.front, titles.back]
    simp
    omega
  have same := (length least titles).symm.trans (length leastOther titlesOther)
  omega

/-- Tables that are the same show the same entries. -/
theorem IsTable.entries_eq {text : String} {other : Nat} (isTable : IsTable members width text)
    (isOther : IsTable others other text) (legible : Legible members) (legibleOther : Legible others) :
    members.map (fun member => (member.1, cell member.2)) =
      others.map fun member => (member.1, cell member.2) := by
  rcases isTable.lines with ⟨lines, joined, rows⟩
  rcases isOther.lines with ⟨linesOther, joinedOther, rowsOther⟩
  have parted {members : List (String × Json)} {width : Nat} {lines : List String}
      (legible : Legible members) (joined : text = "\n".intercalate lines)
      (rows : List.Forall₂ (fun entry line => IsRow (width + 2) entry.1 entry.2 line) (entriesOf members) lines) :
      text.toList.splitOn '\n' = lines.map String.toList := by
    have clear := not_mem_of_forall₂ rows fun entry shown => (legible.entries shown).2
    have nonempty : lines.map String.toList ≠ [] := by
      cases rows
      simp
    rw [joined, String.toList_intercalate]
    exact List.splitOn_intercalate '\n' clear nonempty
  have sameLines : lines = linesOther := by
    have same := (parted legible joined rows).symm.trans (parted legibleOther joinedOther rowsOther)
    exact List.map_injective_iff.mpr (fun _ _ equal => String.toList_injective equal) same
  subst sameLines
  have sameWidth : width = other := by
    cases rows with
    | cons titles _ =>
        cases rowsOther with
        | cons titlesOther _ => exact width_unique isTable.least isOther.least titles titlesOther
  subst sameWidth
  have same := entries_unique rows rowsOther (fun entry shown => (legible.entries shown).1)
    fun entry shown => (legibleOther.entries shown).1
  exact (List.cons.inj same).2

/-- Settings are shown as a table exactly if all keys fit. It has all values in one column, and they can be
read back from it: where the keys and the values are legible, the same table shows the same keys with the
same values. -/
theorem table_of_entries {entries others : List (String × Json)} (nonempty : entries ≠ [])
    (nonemptyOther : others ≠ []) :
    ((∃ text, report (.ofEntries entries) .table = some text) ↔ Narrow (Members.ofEntries entries)) ∧
      (∀ text, report (.ofEntries entries) .table = some text →
        ∃ width, IsTable (Members.ofEntries entries) width text) ∧
      (Legible (Members.ofEntries entries) → Legible (Members.ofEntries others) →
        ∀ text, report (.ofEntries entries) .table = some text →
          report (.ofEntries others) .table = some text →
          (Members.ofEntries entries).map (fun member => (member.1, cell member.2)) =
            (Members.ofEntries others).map fun member => (member.1, cell member.2)) := by
  have some := Members.ofEntries_ne_nil nonempty
  have ordered := Members.ascending_ofEntries entries
  refine ⟨exists_report_iff some, fun text shown => ⟨_, isTable_report ordered some shown⟩, ?_⟩
  intro legible legibleOther text shown shownOther
  have isTable := isTable_report ordered some shown
  have isOther := isTable_report (Members.ascending_ofEntries others)
    (Members.ofEntries_ne_nil nonemptyOther) shownOther
  exact isTable.entries_eq isOther legible legibleOther

def wideEntries : List (String × Json) :=
  [("né", .array [.string "\n"]), ("", .string "a  b"), ("né", .null), ("gpü.vram", .number (.integer 8))]

theorem table_of_wideEntries :
    ∃ text, report (.ofEntries wideEntries) .table = some text ∧
      (∃ width, IsTable (Members.ofEntries wideEntries) width text) ∧
      Legible (Members.ofEntries wideEntries) ∧
      report (.ofEntries wideEntries.tail) .table = some text ∧
      (Members.ofEntries wideEntries).map (fun member => (member.1, cell member.2)) =
        (Members.ofEntries wideEntries.tail).map fun member => (member.1, cell member.2) := by
  have members : Members.ofEntries wideEntries =
      [("", .string "a  b"), ("gpü.vram", .number (.integer 8)), ("né", .null)] := by rfl
  have same : Members.ofEntries wideEntries.tail = Members.ofEntries wideEntries := by rfl
  have legible : Legible (Members.ofEntries wideEntries) := by
    rw [members]
    constructor
    · decide
    · intro member inside text isText
      simp only [List.mem_cons, List.not_mem_nil, or_false] at inside
      rcases inside with rfl | rfl | rfl
      · cases isText
        decide
      · cases isText
      · cases isText
  have narrow : Narrow (Members.ofEntries wideEntries) := by
    rw [members, Narrow]
    decide
  have nonempty : wideEntries ≠ [] := by decide
  have nonemptyTail : wideEntries.tail ≠ [] := by decide
  rcases table_of_entries nonempty nonemptyTail with ⟨exists_iff, isTable, readBack⟩
  rcases exists_iff.mpr narrow with ⟨text, shown⟩
  have shownTail : report (.ofEntries wideEntries.tail) .table = some text := by
    rw [Json.ofEntries, same, ← Json.ofEntries]
    exact shown
  exact ⟨text, shown, isTable text shown, legible, shownTail,
    readBack legible (same ▸ legible) text shown shownTail⟩

def wideSetting : List (String × Json) :=
  [(String.ofList (List.replicate 65536 'a'), .number (.integer 1))]

/-- One such setting is enough that there is no table. -/
theorem no_table_of_wideSetting : wideSetting ≠ [] ∧ report (.object wideSetting) .table = none := by
  have nonempty : wideSetting ≠ [] := List.cons_ne_nil _ _
  refine ⟨nonempty, ?_⟩
  rw [Option.eq_none_iff_forall_ne_some]
  intro text shown
  have narrow := (exists_report_iff nonempty).mp ⟨text, shown⟩ _ List.mem_cons_self
  have characters := Utf8.length_le_length_bytes (String.ofList (List.replicate 65536 'a'))
  rw [String.toList_ofList, List.length_replicate] at characters
  exact absurd (Nat.le_trans characters narrow) (by decide)

end NodeConsole.Console
