import NodeConsole.Json.Reader
/-!
How deep brackets are nested in a JSON text. It is a matter of the bytes alone: brackets count where they
stand outside of strings, whatever they enclose and whether or not it is kept.
-/

namespace NodeConsole.Json

inductive Zone where
  | outside
  | inString
  | afterBackslash
deriving DecidableEq, Repr

structure Nesting where
  zone : Zone
  level : Nat
  deepest : Nat
deriving DecidableEq, Repr

def Nesting.step (nesting : Nesting) (byte : UInt8) : Nesting :=
  match nesting.zone with
  | .outside =>
    if byte = 0x22 then { nesting with zone := .inString }
    else if byte = 0x5B ∨ byte = 0x7B then
      ⟨.outside, nesting.level + 1, max nesting.deepest (nesting.level + 1)⟩
    else if byte = 0x5D ∨ byte = 0x7D then { nesting with level := nesting.level - 1 }
    else nesting
  | .inString =>
    if byte = 0x22 then { nesting with zone := .outside }
    else if byte = 0x5C then { nesting with zone := .afterBackslash }
    else nesting
  | .afterBackslash => { nesting with zone := .inString }

def nestingOf (text : List UInt8) : Nat :=
  (text.foldl Nesting.step ⟨.outside, 0, 0⟩).deepest

/-! ## Pieces of a text -/

/-- A piece of a text leads from one zone to another, back to the level it starts at, and on its way at
most so many levels further down. -/
def Leads (first last : Zone) (depth : Nat) (piece : List UInt8) : Prop :=
  ∀ level deepest, level ≤ deepest →
    piece.foldl Nesting.step ⟨first, level, deepest⟩ = ⟨last, level, max deepest (level + depth)⟩

theorem leads_nil (zone : Zone) : Leads zone zone 0 [] := by
  intro level deepest bound
  rw [List.foldl_nil, Nat.add_zero, Nat.max_eq_left bound]

theorem Leads.append {first middle last : Zone} {left right : Nat} {front back : List UInt8}
    (leads : Leads first middle left front) (leadsOn : Leads middle last right back) :
    Leads first last (max left right) (front ++ back) := by
  intro level deepest bound
  rw [List.foldl_append, leads level deepest bound, leadsOn level _ (by omega)]
  have same : max (max deepest (level + left)) (level + right) = max deepest (level + max left right) := by
    omega
  rw [same]

theorem Leads.cons {first middle last : Zone} {depth : Nat} {byte : UInt8} {rest : List UInt8}
    (moves : ∀ level deepest, Nesting.step ⟨first, level, deepest⟩ byte = ⟨middle, level, deepest⟩)
    (leads : Leads middle last depth rest) : Leads first last depth (byte :: rest) := by
  intro level deepest bound
  rw [List.foldl_cons, moves, leads level deepest bound]

/-- Brackets around a piece put it one level down. -/
theorem Leads.enclose {opening closing : UInt8} {depth : Nat} {inside : List UInt8}
    (opens : opening = 0x5B ∨ opening = 0x7B) (closes : closing = 0x5D ∨ closing = 0x7D)
    (leads : Leads .outside .outside depth inside) :
    Leads .outside .outside (depth + 1) (opening :: inside ++ [closing]) := by
  intro level deepest bound
  have down : Nesting.step ⟨.outside, level, deepest⟩ opening =
      ⟨.outside, level + 1, max deepest (level + 1)⟩ := by
    rcases opens with rfl | rfl <;> rfl
  have up (deepest : Nat) : Nesting.step ⟨.outside, level + 1, deepest⟩ closing =
      ⟨.outside, level, deepest⟩ := by
    rcases closes with rfl | rfl <;> rfl
  have same : max (max deepest (level + 1)) (level + 1 + depth) = max deepest (level + (depth + 1)) := by
    omega
  rw [List.cons_append, List.foldl_cons, down, List.foldl_append, leads _ _ (by omega), List.foldl_cons,
    List.foldl_nil, up, same]

theorem nestingOf_of_leads {depth : Nat} {text : List UInt8} (leads : Leads .outside .outside depth text) :
    nestingOf text = depth := by
  rw [nestingOf, leads 0 0 (Nat.le_refl 0), Nat.zero_add, Nat.zero_max]

/-! ## Bytes that are no marks -/

def isMark (byte : UInt8) : Bool :=
  byte == 0x22 || byte == 0x5B || byte == 0x7B || byte == 0x5D || byte == 0x7D

theorem step_of_not_isMark {byte : UInt8} (noMark : isMark byte = false) (level deepest : Nat) :
    Nesting.step ⟨.outside, level, deepest⟩ byte = ⟨.outside, level, deepest⟩ := by
  simp only [isMark, Bool.or_eq_false_iff, beq_eq_false_iff_ne] at noMark
  simp [Nesting.step, noMark]

theorem Leads.cons_of_not_isMark {last : Zone} {depth : Nat} {byte : UInt8} {rest : List UInt8}
    (noMark : isMark byte = false) (leads : Leads .outside last depth rest) :
    Leads .outside last depth (byte :: rest) :=
  .cons (step_of_not_isMark noMark) leads

theorem leads_of_not_isMark {piece : List UInt8} (noMark : ∀ byte ∈ piece, isMark byte = false) :
    Leads .outside .outside 0 piece := by
  induction piece with
  | nil => exact leads_nil _
  | cons byte rest induction =>
      exact .cons_of_not_isMark (noMark byte (by simp))
        (induction fun other member => noMark other (List.mem_cons_of_mem _ member))

theorem isMark_of_isBlank {byte : UInt8} (blank : isBlank byte = true) : isMark byte = false := by
  simp only [isBlank, Bool.or_eq_true, beq_iff_eq] at blank
  rcases blank with ((rfl | rfl) | rfl) | rfl <;> rfl

theorem isMark_of_isDigit {byte : UInt8} (digit : isDigit byte = true) : isMark byte = false := by
  apply Bool.eq_false_iff.mpr
  intro mark
  simp only [isMark, Bool.or_eq_true, beq_iff_eq] at mark
  rcases mark with (((rfl | rfl) | rfl) | rfl) | rfl <;> exact absurd digit (by decide)

/-- Brackets in strings do not count, and quotation marks behind backslashes end no string. -/
example : nestingOf (Utf8.bytes "[\"[\\\"[\", \x7b\"a\": []\x7d]") = 3 := by decide

end NodeConsole.Json
