import Mathlib.Data.List.DropRight
import NodeConsole.Proofs.Url.PlainPaths
/-!
Segments that lead up past their root. By themselves they stop there; behind other segments they lead
on into those. How often that happens can be counted beforehand, and it is all that the other segments
lose.
-/

namespace NodeConsole.Url

/-! ## Counting -/

def climbs : Nat → List (List Char) → Nat
  | _, [] => 0
  | depth, segment :: rest =>
    if isDoubleDot segment then 1 - depth + climbs (depth - 1) rest
    else if isSingleDot segment then climbs depth rest
    else climbs (depth + 1) rest

theorem leave_eq_tail (done : List (List Char)) : leave false done = done.tail := by
  cases done with
  | nil => rfl
  | cons last above => cases above <;> rfl

theorem tail_append_eq (done below : List (List Char)) :
    (done ++ below).tail = done.tail ++ below.drop (1 - done.length) := by
  cases done with
  | nil => simp
  | cons last above => simp

/-- A stack with more below it: what the segments leave of that stands in front of what they leave of
the stack by itself. -/
theorem resolveFrom_append (done below segments : List (List Char)) :
    resolveFrom false (done ++ below) segments =
      (below.drop (climbs done.length segments)).reverse ++ resolveFrom false done segments := by
  -- A climb above the stack shortens what is below it, so the induction is over every `below`.
  fun_induction resolveFrom false done segments generalizing below with
  | case1 done => simp [resolveFrom, climbs]
  | case2 done last double =>
      simp [resolveFrom, climbs, double, leave_eq_tail, tail_append_eq]
  | case3 done last notDouble single => simp [resolveFrom, climbs, notDouble, single]
  | case4 done last notDouble notSingle => simp [resolveFrom, climbs, notDouble, notSingle]
  | case5 done first next rest double induction =>
      rw [leave_eq_tail] at induction
      rw [resolveFrom, if_pos double, climbs, if_pos double, leave_eq_tail, leave_eq_tail,
        tail_append_eq, induction, List.drop_drop, List.length_tail]
  | case6 done first next rest notDouble single induction =>
      rw [resolveFrom, if_neg notDouble, if_pos single, climbs, if_neg notDouble, if_pos single]
      exact induction below
  | case7 done first next rest notDouble notSingle induction =>
      rw [resolveFrom, if_neg notDouble, if_neg notSingle, climbs, if_neg notDouble, if_neg notSingle]
      exact induction below

/-! ## Segments in front -/

/-- Behind segments without dots, what leads up past the root leads into those; what is left behind
them is the same as without them. -/
theorem resolve_append {front : List (List Char)} (plain : ∀ segment ∈ front, ¬IsDotSegment segment)
    (rest : List (List Char)) :
    resolve (front ++ rest) = front.rdrop (climbs 0 rest) ++ resolve rest := by
  have led := resolveFrom_append [] front.reverse rest
  rw [List.nil_append, List.length_nil, ← List.rdrop_eq_reverse_drop_reverse] at led
  rw [resolve, resolveFrom_append_of_plain plain, List.append_nil, led, resolve]

/-! ## Paths -/

def writtenSegments (path : List Char) : List (List Char) :=
  (piecesAt (isSlash true)
    (match withoutIgnored path with
      | [] => []
      | c :: rest => if isSlash true c then rest else c :: rest)).map (percentEncode escapedInPath)

def settled (path : List Char) : List Char :=
  joinSegments (resolve (writtenSegments path))

def climbsOf (path : List Char) : Nat :=
  climbs 0 (writtenSegments path)

theorem joinSegments_append (front rest : List (List Char)) :
    joinSegments (front ++ rest) = joinSegments front ++ joinSegments rest :=
  List.flatMap_append

end NodeConsole.Url
