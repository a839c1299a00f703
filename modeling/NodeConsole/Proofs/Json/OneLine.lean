import NodeConsole.Json.Printer
/-!
Compact texts stay on one line. Whatever the value is, its text has no control characters: those of its
strings are escaped, and nothing else puts any in.
-/

namespace NodeConsole

def AllVisible (chars : List Char) : Prop :=
  ∀ c ∈ chars, 0x20 ≤ c.toNat

@[simp] theorem allVisible_nil : AllVisible [] := by
  intro c none
  cases none

@[simp] theorem allVisible_cons_iff {c : Char} {rest : List Char} :
    AllVisible (c :: rest) ↔ 0x20 ≤ c.toNat ∧ AllVisible rest :=
  List.forall_mem_cons

@[simp] theorem allVisible_append_iff {front back : List Char} :
    AllVisible (front ++ back) ↔ AllVisible front ∧ AllVisible back :=
  List.forall_mem_append

theorem AllVisible.of_subset {chars part : List Char} (visible : AllVisible chars) (within : part ⊆ chars) :
    AllVisible part :=
  fun c member => visible c (within member)

theorem AllVisible.lineFeed_not_mem {chars : List Char} (visible : AllVisible chars) : '\n' ∉ chars := by
  intro feed
  exact absurd (visible _ feed) (by decide)

/-! ## Numbers -/

@[simp] theorem allVisible_toDigits (n : Nat) : AllVisible (Nat.toDigits 10 n) := by
  intro c member
  have digit := Nat.isDigit_of_mem_toDigits (by decide) (by decide) member
  rw [Char.isDigit, Bool.and_eq_true, decide_eq_true_iff] at digit
  have least : 48 ≤ c.toNat := digit.1
  exact Nat.le_trans (by decide) least

theorem allVisible_zeros (n : Nat) : AllVisible (List.replicate n '0') := by
  intro c member
  rw [List.eq_of_mem_replicate member]
  decide

namespace Layout

theorem allVisible_positional {digits : List Char} (visible : AllVisible digits) (exponent : Int) :
    AllVisible (positional digits exponent) := by
  rw [positional]
  split
  · rw [allVisible_append_iff, allVisible_append_iff]
    exact ⟨⟨visible, allVisible_zeros _⟩, by simp⟩
  · split
    · rw [allVisible_append_iff, allVisible_cons_iff]
      exact ⟨visible.of_subset (List.take_subset _ _), by decide, visible.of_subset (List.drop_subset _ _)⟩
    · rw [List.cons_append, allVisible_cons_iff, List.cons_append, allVisible_cons_iff, allVisible_append_iff]
      exact ⟨by decide, by decide, allVisible_zeros _, visible⟩

theorem allVisible_scientific {digits : List Char} (visible : AllVisible digits) (exponent : Int) :
    AllVisible (scientific digits exponent) := by
  have power : AllVisible
      ('e' :: (if (digits.length : Int) + exponent - 1 < 0 then '-' else '+') ::
        Nat.toDigits 10 ((digits.length : Int) + exponent - 1).natAbs) := by
    split <;> simp
  rw [scientific.eq_def]
  apply allVisible_append_iff.mpr
  refine ⟨?_, power⟩
  cases digits with
  | nil => exact visible
  | cons first more =>
      cases more with
      | nil => exact visible
      | cons second more => simpa using visible

theorem allVisible_chars (layout : Layout) (x : Binary64) : AllVisible (layout.chars x) := by
  have digits := allVisible_toDigits (Decimal.shortest x).digits
  have places := allVisible_positional digits (Decimal.shortest x).exponent
  have powers := allVisible_scientific digits (Decimal.shortest x).exponent
  rw [chars]
  split
  · rw [allVisible_cons_iff]
    refine ⟨by decide, ?_⟩
    split
    · exact places
    · exact powers
  · split
    · exact places
    · exact powers

end Layout

namespace Json

@[simp] theorem Number.allVisible_chars (n : Number) : AllVisible n.chars := by
  cases n with
  | integer n =>
      rw [chars, integerChars]
      split <;> simp
  | float x => exact Layout.allVisible_chars _ x

/-! ## Strings -/

theorem isVisible_hexDigit {n : Nat} (small : n < 16) : 0x20 ≤ (hexDigit n).toNat := by
  have each : ∀ n < 16, 0x20 ≤ (hexDigit n).toNat := by decide
  exact each n small

theorem allVisible_escapedChar (c : Char) : AllVisible (escapedChar c) := by
  fun_cases escapedChar c with
  | case8 _ _ _ _ _ _ _ control =>
      have high := isVisible_hexDigit (n := c.toNat / 16) (by omega)
      have low := isVisible_hexDigit (n := c.toNat % 16) (by omega)
      simp [high, low]
  | case9 _ _ _ _ _ _ _ visible => simpa using visible
  | _ => simp

@[simp] theorem allVisible_stringChars (text : String) : AllVisible (stringChars text) := by
  have inside : AllVisible (text.toList.flatMap escapedChar) := by
    intro c member
    rcases List.mem_flatMap.mp member with ⟨original, _, written⟩
    exact allVisible_escapedChar original c written
  simp [stringChars, inside]

/-! ## Values -/

theorem allVisible_compactChars (value : Json) : AllVisible (compactChars value) := by
  -- By the recursion of the printer, with the items and the members behind the first alongside.
  induction value using compactChars.induct _ (fun members => AllVisible (compactMembers members))
      (fun items => AllVisible (compactItems items)) with
  | case7 item items first behind => simp [compactChars, first, behind]
  | case9 name value members first behind => simp [compactChars, first, behind]
  | case11 item items first behind => simp [compactItems, first, behind]
  | case13 name value members first behind => simp [compactMembers, first, behind]
  | _ => simp [compactChars, compactItems, compactMembers]

theorem lineFeed_not_mem_compact (value : Json) : '\n' ∉ value.compact.toList := by
  rw [compact, String.toList_ofList]
  exact (allVisible_compactChars value).lineFeed_not_mem

end Json

end NodeConsole
