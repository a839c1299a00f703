import Mathlib.Algebra.GroupWithZero.Nat
import NodeConsole.Proofs.Console.Tables
/-!
The lines of tables. A table has a line for its titles and one for each setting, unless a key or a value that
is a text has line feeds of its own: these are shown as they are, and each of them breaks its row in two.
-/

namespace NodeConsole.Console

variable {key value : String} {width : Nat} {members : List (String × Json)}

def linesOf (text : String) : List (List Char) :=
  text.toList.splitOn '\n'

def feeds (text : String) : Nat :=
  text.toList.count '\n'

theorem length_linesOf (text : String) : (linesOf text).length = feeds text + 1 := by
  have counted (chars : List Char) : (chars.splitOn '\n').length = chars.count '\n' + 1 := by
    induction chars with
    | nil => rfl
    | cons c rest induction =>
        rw [List.splitOn] at induction
        rw [List.splitOn, List.splitOnP_cons_eq_if_modifyHead, List.count_cons]
        split
        · rw [List.length_cons, induction]
        · rw [List.length_modifyHead, induction, Nat.add_zero]
  exact counted text.toList

theorem feeds_intercalate {lines : List String} (nonempty : lines ≠ []) :
    feeds ("\n".intercalate lines) + 1 = lines.length + (lines.map feeds).sum := by
  induction lines with
  | nil => exact absurd rfl nonempty
  | cons line rest induction =>
      cases rest with
      | nil => simp [feeds, Nat.add_comm]
      | cons next rest =>
          have later := induction (List.cons_ne_nil next rest)
          have parted : "\n".intercalate (line :: next :: rest) =
              line ++ "\n" ++ "\n".intercalate (next :: rest) := by
            apply String.toList_injective
            simp [String.toList_intercalate, List.intercalate]
          have counted : feeds (line ++ "\n" ++ "\n".intercalate (next :: rest)) =
              feeds line + 1 + feeds ("\n".intercalate (next :: rest)) := by
            simp [feeds]
            omega
          rw [parted, counted, List.map_cons, List.sum_cons, List.length_cons]
          omega

/-! ## Rows -/

theorem feeds_row : feeds (row width key value) = feeds key + feeds value := by
  have blanks (n : Nat) : (List.replicate n ' ').count '\n' = 0 :=
    List.count_eq_zero.mpr fun feed => absurd (List.eq_of_mem_replicate feed) (by decide)
  simp [feeds, row, blanks]

def breaks (member : String × Json) : Nat :=
  feeds member.1 + feeds (cell member.2)

structure OnLine (member : String × Json) : Prop where
  key : '\n' ∉ member.1.toList
  text : ∀ text, member.2 = .string text → '\n' ∉ text.toList

theorem breaks_eq_zero_iff {member : String × Json} : breaks member = 0 ↔ OnLine member := by
  rw [breaks, Nat.add_eq_zero_iff, feeds, feeds, List.count_eq_zero, List.count_eq_zero]
  constructor
  · rintro ⟨inKey, inCell⟩
    refine ⟨inKey, fun text isText => ?_⟩
    rw [isText] at inCell
    exact inCell
  · intro onLine
    exact ⟨onLine.key, lineFeed_not_mem_cell onLine.text⟩

/-! ## Tables -/

/-- A table has as many lines as titles and members make up, and one more for every line feed in a key or in
a value that is a text. -/
theorem length_linesOf_rows (members : List (String × Json)) :
    (linesOf ("\n".intercalate (rows members))).length = members.length + 1 + (members.map breaks).sum := by
  have rowsNonempty : rows members ≠ [] := List.cons_ne_nil _ _
  have titles (width : Nat) : feeds (row width "KEY" "VALUE") = 0 := feeds_row
  have each : (members.map fun member => row (keyWidth members) member.1 (cell member.2)).map feeds =
      members.map breaks := by
    rw [List.map_map]
    exact List.map_congr_left fun member _ => feeds_row
  have counted := feeds_intercalate rowsNonempty
  rw [rows, List.map_cons, List.sum_cons, titles, each, List.length_cons, List.length_map, Nat.zero_add] at counted
  rw [length_linesOf, rows, counted]

theorem length_linesOf_rows_iff :
    (linesOf ("\n".intercalate (rows members))).length = members.length + 1 ↔
      ∀ member ∈ members, OnLine member := by
  rw [length_linesOf_rows, Nat.add_eq_left, List.sum_eq_zero_iff_forall_eq_nat, List.forall_mem_map]
  exact forall₂_congr fun _ _ => breaks_eq_zero_iff

theorem linesOf_rows (onLine : ∀ member ∈ members, OnLine member) :
    linesOf ("\n".intercalate (rows members)) = (rows members).map String.toList := by
  have clear : ∀ line ∈ (rows members).map String.toList, '\n' ∉ line := by
    intro line isLine
    rcases List.mem_map.mp isLine with ⟨text, isRow, rfl⟩
    rw [← List.count_eq_zero]
    rcases List.mem_cons.mp isRow with rfl | later
    · exact feeds_row
    · rcases List.mem_map.mp later with ⟨member, inside, rfl⟩
      exact feeds_row.trans (breaks_eq_zero_iff.mpr (onLine member inside))
  have rowsNonempty : (rows members).map String.toList ≠ [] := by
    simp [rows]
  rw [linesOf, String.toList_intercalate]
  exact List.splitOn_intercalate '\n' clear rowsNonempty

/-- There is a table with a line for its titles and one for each setting exactly if all keys fit into a
column and no key and no value that is a text has a line feed. Of the tables that there are, those without
such line feeds are the ones with so many lines, and their lines are their rows. -/
theorem length_linesOf_report_iff (nonempty : members ≠ []) :
    ((∃ text, report (.object members) .table = some text ∧ (linesOf text).length = members.length + 1) ↔
        Narrow members ∧ ∀ member ∈ members, OnLine member) ∧
      ∀ text, report (.object members) .table = some text →
        ((linesOf text).length = members.length + 1 ↔ ∀ member ∈ members, OnLine member) ∧
        ((∀ member ∈ members, OnLine member) → linesOf text = (rows members).map String.toList) := by
  constructor
  · constructor
    · intro exact
      rcases exact with ⟨text, shown, length⟩
      rcases (report_eq_some_iff nonempty).mp shown with ⟨narrow, rfl⟩
      exact ⟨narrow, length_linesOf_rows_iff.mp length⟩
    · intro fits
      exact ⟨_, (report_eq_some_iff nonempty).mpr ⟨fits.1, rfl⟩, length_linesOf_rows_iff.mpr fits.2⟩
  · intro text shown
    rcases (report_eq_some_iff nonempty).mp shown with ⟨_, rfl⟩
    exact ⟨length_linesOf_rows_iff, linesOf_rows⟩

def forging : List (String × Json) :=
  [("a", .string "1\nb    2")]

theorem row_forged :
    (∃ text, report (.object forging) .table = some text ∧ (linesOf text).length ≠ forging.length + 1) ∧
      report (.object forging) .table = report (.object [("a", .string "1"), ("b", .string "2")]) .table ∧
      ((report (.object [("a\nb", .null)]) .table).map fun text => (linesOf text).length) = some 3 := by
  refine ⟨⟨"KEY  VALUE\na    1\nb    2", ?_, ?_⟩, ?_, ?_⟩ <;> decide +kernel

theorem length_linesOf_report_iff_of_nested :
    (∃ text, report (.object [("k", .array [.string "\n"]), ("l", .string "a\r b")]) .table = some text ∧
        (linesOf text).length = 3) ∧
      ∀ text, report (.object [("k", .string "\n")]) .table = some text → (linesOf text).length ≠ 2 := by
  have narrow : Narrow [("k", Json.array [.string "\n"]), ("l", Json.string "a\r b")] := by
    rw [Narrow]
    decide
  have onLine : ∀ member ∈ [("k", Json.array [.string "\n"]), ("l", Json.string "a\r b")], OnLine member := by
    intro member inside
    rcases List.mem_cons.mp inside with rfl | later
    · exact ⟨by decide, fun text isText => by cases isText⟩
    · cases List.mem_singleton.mp later
      refine ⟨by decide, fun text isText => ?_⟩
      cases isText
      decide
  refine ⟨(length_linesOf_report_iff (List.cons_ne_nil _ _)).1.mpr ⟨narrow, onLine⟩, fun text shown same => ?_⟩
  have broken := ((length_linesOf_report_iff (List.cons_ne_nil _ _)).2 text shown).1.mp same
  exact (broken _ List.mem_cons_self).text _ rfl (by decide)

end NodeConsole.Console
