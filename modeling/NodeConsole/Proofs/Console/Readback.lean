import NodeConsole.Console.Report
import NodeConsole.Proofs.Json.Indentation
/-!
Documents shown as JSON. Nothing is lost in the text: where numbers are integers and the nesting is not
deeper than what is read, it is read as the document again.
-/

namespace NodeConsole.Console

def ShownAsJson (document : Json) : Prop :=
  document ≠ .null ∧ ∀ members, document ≠ .object members

theorem report_table_eq {document : Json} (shownAsJson : ShownAsJson document) :
    report document .table = some document.indented := by
  cases document with
  | null => exact absurd rfl shownAsJson.1
  | object members => exact absurd rfl (shownAsJson.2 members)
  | _ => rfl

/-- A document is shown as JSON and read back from that, and in a table whatever is neither an object nor
null is shown in the same way. -/
theorem ofText_report (document : Json) :
    ∃ text, report document .json = some text ∧
      (Json.Integral Json.depthLimit document → Json.ofText text = .ok document) ∧
      (ShownAsJson document → report document .table = some text) :=
  ⟨document.indented, rfl, Json.ofText_indented, report_table_eq⟩

def wrapped : Nat → Json → Json
  | 0, value => value
  | n + 1, value => .array [wrapped n value]

theorem integral_wrapped {limit : Nat} {value : Json} (integral : Json.Integral limit value) (n : Nat) :
    Json.Integral (limit + n) (wrapped n value) := by
  induction n with
  | zero => exact integral
  | succ n induction => exact .array (List.forall_mem_singleton.mpr induction)

def mixedObject : Json :=
  .object [("", .number (.integer (-0x8000000000000000))), ("\n", .string "é\"\\\u0001"),
    ("k", .number (.integer 0xFFFFFFFFFFFFFFFF)), ("l", .array [])]

theorem ofText_report_of_deepest :
    ∃ text, report (wrapped 125 mixedObject) .json = some text ∧
      Json.ofText text = .ok (wrapped 125 mixedObject) ∧
      report (wrapped 125 mixedObject) .table = some text := by
  have inside : Json.Integral 2 mixedObject := by
    refine .object (by decide) fun member isMember => ?_
    simp only [List.mem_cons, List.not_mem_nil, or_false] at isMember
    rcases isMember with rfl | rfl | rfl | rfl
    · exact .integer _ (by decide) (by decide)
    · exact .string _ _
    · exact .integer _ (by decide) (by decide)
    · exact .array (List.forall_mem_nil _)
  have shownAsJson : ShownAsJson (wrapped 125 mixedObject) :=
    ⟨fun same => (by cases same), fun members same => by cases same⟩
  rcases ofText_report (wrapped 125 mixedObject) with ⟨text, shown, readBack, inTable⟩
  exact ⟨text, shown, readBack (integral_wrapped inside 125), inTable shownAsJson⟩

end NodeConsole.Console
