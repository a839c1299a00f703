import Mathlib.Data.List.DropRight
import Mathlib.Tactic.ByContra
import NodeConsole.Url.Parser
/-!
What counts of a text that is read as a URL, where a path is put behind it. What ended the text stands
inside of the new one: blanks there have a meaning now, and slashes are left out.
-/

namespace NodeConsole.Url

theorem eq_false_of_all {p : Char → Bool} {text : List Char} (none : text.all (!p ·) = true) :
    ∀ c ∈ text, p c = false :=
  fun c member => (Bool.not_eq_true' _).mp (List.all_eq_true.mp none c member)

def below (text path : List Char) : List Char :=
  (text.reverse.dropWhile (· == '/')).reverse ++ path

def blankEnd (text : List Char) : List Char :=
  withoutIgnored (text.reverse.takeWhile isMargin).reverse

theorem withoutIgnored_append (front back : List Char) :
    withoutIgnored (front ++ back) = withoutIgnored front ++ withoutIgnored back :=
  List.filter_append ..

theorem of_mem_blankEnd {text : List Char} {c : Char} (member : c ∈ blankEnd text) :
    isMargin c = true ∧ isIgnored c = false := by
  rw [blankEnd, withoutIgnored, List.mem_filter, List.mem_reverse] at member
  exact ⟨List.mem_takeWhile_imp member.1, by simpa using member.2⟩

theorem dropWhile_append_of_head {p : Char → Bool} {front back : List Char} {c : Char}
    (head : back.head? = some c) (stops : p c = false) :
    (front ++ back).dropWhile p = front.dropWhile p ++ back := by
  rw [List.dropWhile_append]
  split
  · next gone =>
    rcases List.head?_eq_some_iff.mp head with ⟨rest, rfl⟩
    rw [List.isEmpty_iff.mp gone, List.nil_append, List.dropWhile_cons_of_neg (by simp [stops])]
  · rfl

theorem withoutIgnored_eq_self {text : List Char} (plain : ∀ c ∈ text, isIgnored c = false) :
    withoutIgnored text = text :=
  List.filter_eq_self.mpr fun c member => by simp [plain c member]

theorem isIgnored_of_apart {p : Char → Bool} {c : Char} (apart : p c = false)
    (marks : ['\t', '\n', '\r'].all p = true) : isIgnored c = false := by
  by_contra ignored
  simp only [isIgnored, Bool.not_eq_false, Bool.or_eq_true, beq_iff_eq] at ignored
  rcases ignored with (rfl | rfl) | rfl <;> simp [apart] at marks

theorem isIgnored_of_not_margin {c : Char} (counts : isMargin c = false) : isIgnored c = false :=
  isIgnored_of_apart counts (by decide)

theorem endsPath_of_apart {p : Char → Bool} {c : Char} (apart : p c = false)
    (marks : ['?', '#'].all p = true) : endsPath c = false := by
  by_contra ends
  simp only [endsPath, Bool.not_eq_false, Bool.or_eq_true, beq_iff_eq] at ends
  rcases ends with rfl | rfl <;> simp [apart] at marks

/-- Where a slash starts what stands behind a text, and no blank ends it, all of that counts. -/
theorem significant_append {front back : List Char} (starts : back.head? = some '/')
    (ends : ∀ c, back.getLast? = some c → isMargin c = false) :
    significant (front ++ back) =
      withoutIgnored (front.dropWhile isMargin) ++ withoutIgnored back := by
  have present : back ≠ [] := by
    rintro rfl
    cases starts
  have kept : ((front.dropWhile isMargin ++ back).rdropWhile isMargin) =
      front.dropWhile isMargin ++ back := by
    rw [List.rdropWhile_eq_self_iff]
    intro _ blank
    rw [List.getLast_append_of_ne_nil _ present] at blank
    rw [ends _ (List.getLast?_eq_some_getLast present)] at blank
    cases blank
  rw [significant, dropWhile_append_of_head starts (by decide)]
  exact (congrArg withoutIgnored kept).trans (withoutIgnored_append _ _)

theorem significant_append_blankEnd {text : List Char} (present : significant text ≠ []) :
    significant text ++ blankEnd text = withoutIgnored (text.dropWhile isMargin) := by
  have halves := List.takeWhile_append_dropWhile (p := isMargin) (l := text)
  have sameEnd : text.reverse.takeWhile isMargin =
      (text.dropWhile isMargin).reverse.takeWhile isMargin := by
    cases inside : text.dropWhile isMargin with
    | nil => exact absurd (by rw [significant, inside]; rfl) present
    | cons c rest =>
        have counts : ¬isMargin c = true := by
          have first := List.head?_dropWhile_not isMargin text
          simpa [inside] using first
        rw [inside] at halves
        rw [← halves, List.reverse_append, List.takeWhile_append, if_neg]
        intro long
        have all := (List.takeWhile_prefix isMargin).eq_of_length long
        exact counts (List.takeWhile_eq_self_iff.mp all c (by simp))
  rw [blankEnd, sameEnd, significant, ← withoutIgnored_append]
  exact congrArg withoutIgnored List.rdropWhile_append_rtakeWhile

theorem blankEnd_append_slash (text : List Char) : blankEnd (text ++ ['/']) = [] := by
  rw [blankEnd, List.reverse_append, List.reverse_singleton, List.singleton_append,
    List.takeWhile_cons_of_neg (by decide)]
  rfl

/-- A text and the one with a path behind it have a start in common. Slashes follow it in the first
and blanks in the second, but never both. -/
theorem significant_below {text path : List Char} (starts : path.head? = some '/')
    (plain : ∀ c ∈ path, isMargin c = false) (present : significant text ≠ []) :
    ∃ core slashes, significant text = core ++ slashes ∧
      significant (below text path) = core ++ blankEnd text ++ path ∧
      (∀ c ∈ slashes, c = '/') ∧ (slashes = [] ∨ blankEnd text = []) := by
  have parts := List.rdropWhile_append_rtakeWhile (p := (· == '/')) (l := text)
  have onlySlashes : ∀ c ∈ text.rtakeWhile (· == '/'), c = '/' := fun c member => by
    simpa using List.mem_rtakeWhile_imp member
  have extended : significant (below text path) =
      withoutIgnored ((text.rdropWhile (· == '/')).dropWhile isMargin) ++ path := by
    have appended := @significant_append (text.rdropWhile (· == '/')) path starts
      fun c ends => plain c (List.mem_of_getLast? ends)
    rwa [withoutIgnored_eq_self fun c member => isIgnored_of_not_margin (plain c member)] at appended
  rcases List.eq_nil_or_concat (text.rtakeWhile (· == '/')) with noSlash | ⟨init, last, slashes⟩
  · rw [noSlash, List.append_nil] at parts
    refine ⟨significant text, [], (List.append_nil _).symm, ?_, by simp, .inl rfl⟩
    rw [extended, parts, significant_append_blankEnd present]
  · have allKept : withoutIgnored (text.rtakeWhile (· == '/')) = text.rtakeWhile (· == '/') :=
      List.filter_eq_self.mpr fun c member => by
        rw [onlySlashes c member]
        rfl
    have firstSlash : (text.rtakeWhile (· == '/')).head? = some '/' := by
      cases front : text.rtakeWhile (· == '/') with
      | nil => simp [front] at slashes
      | cons c rest => exact congrArg some (onlySlashes c (by simp [front]))
    have lastSlash : last = '/' := onlySlashes last (by simp [slashes])
    have whole := @significant_append (text.rdropWhile (· == '/')) _ firstSlash
      fun c ends => by
        rw [onlySlashes c (List.mem_of_getLast? ends)]
        decide
    have unended : blankEnd text = [] := by
      rw [← parts, slashes, lastSlash, List.concat_eq_append, ← List.append_assoc]
      exact blankEnd_append_slash _
    rw [parts, allKept] at whole
    refine ⟨_, _, whole, ?_, onlySlashes, .inr unended⟩
    rw [extended, unended, List.append_nil]

end NodeConsole.Url
