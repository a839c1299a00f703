/-!
Labels with characters outside ASCII, written in ASCII. The ASCII characters come first, followed by
a hyphen if there are any; then, for the other characters in ascending order, how far the place of
each lies behind the one before, in digits of base 36 whose thresholds adapt to the distances seen.
-/

namespace NodeConsole.Url.Domain

/-! ## Digits -/

def labelDigit (n : Nat) : Char :=
  if n < 26 then Char.ofNat (97 + n) else Char.ofNat (22 + n)

def labelDigit? (c : Char) : Option Nat :=
  if 'a' ≤ c ∧ c ≤ 'z' then some (c.toNat - 97)
  else if '0' ≤ c ∧ c ≤ '9' then some (c.toNat - 22)
  else none

/-- A digit below the threshold ends its number; `weight` counts the digits in steps of 36. -/
def threshold (weight bias : Nat) : Nat :=
  if weight ≤ bias then 1 else if bias + 26 ≤ weight then 26 else weight - bias

theorem threshold_pos (weight bias : Nat) : 1 ≤ threshold weight bias := by
  unfold threshold; split
  · omega
  · split <;> omega

theorem threshold_le (weight bias : Nat) : threshold weight bias ≤ 26 := by
  unfold threshold; split
  · omega
  · split <;> omega

def scaledBias (distance : Nat) : Nat :=
  if 455 < distance then scaledBias (distance / 35) + 36 else 36 * distance / (distance + 38)
termination_by distance

def nextBias (distance count : Nat) (first : Bool) : Nat :=
  let distance := if first then distance / 700 else distance / 2
  scaledBias (distance + distance / count)

def distanceDigits (bias weight distance : Nat) : List Char :=
  let t := threshold weight bias
  if distance < t then [labelDigit distance]
  else
    labelDigit (t + (distance - t) % (36 - t)) ::
      distanceDigits bias (weight + 36) ((distance - t) / (36 - t))
termination_by distance
decreasing_by
  have := threshold_pos weight bias
  have := threshold_le weight bias
  have := Nat.div_le_self (distance - threshold weight bias) (36 - threshold weight bias)
  omega

/-! ## Writing -/

/-- A label being written: the least code point not yet placed, the distance since the last one
placed, the bias, how many characters have been placed, how many of them were ASCII, and the digits
so far, the last first. -/
structure Placing where
  next : Nat
  distance : Nat
  bias : Nat
  placed : Nat
  basic : Nat
  digits : List Char
deriving Repr

def Placing.pass (placing : Placing) (n : Nat) : Placing :=
  if n < placing.next then { placing with distance := placing.distance + 1 }
  else if n = placing.next then
    { placing with
      digits := (distanceDigits placing.bias 36 placing.distance).reverse ++ placing.digits
      bias := nextBias placing.distance (placing.placed + 1) (placing.placed == placing.basic)
      distance := 0
      placed := placing.placed + 1 }
  else placing

def Placing.place (label : List Nat) (placing : Placing) (n : Nat) : Placing :=
  let ready := { placing with
    distance := placing.distance + (n - placing.next) * (placing.placed + 1), next := n }
  let done := label.foldl Placing.pass ready
  { done with distance := done.distance + 1, next := n + 1 }

def extendedPoints (label : List Nat) : List Nat :=
  ((label.filter (128 ≤ ·)).mergeSort (· ≤ ·)).eraseDups

def punycode (label : List Char) : List Char :=
  let basic := label.filter (·.toNat < 128)
  let points := label.map Char.toNat
  let start : Placing := ⟨128, 0, 72, basic.length, basic.length, []⟩
  let done := (extendedPoints points).foldl (Placing.place points) start
  basic ++ (if basic = [] then [] else ['-']) ++ done.digits.reverse

/-! ## Reading -/

structure Unplacing where
  label : List Nat
  next : Nat
  place : Nat
  bias : Nat
  distance : Nat
  weight : Nat
  scale : Nat
deriving Repr

def Unplacing.step (unplacing : Unplacing) (c : Char) : Option Unplacing :=
  (labelDigit? c).bind fun digit =>
    let distance := unplacing.distance + digit * unplacing.scale
    let t := threshold unplacing.weight unplacing.bias
    if digit < t then
      let count := unplacing.label.length + 1
      let place := unplacing.place + distance
      let next := unplacing.next + place / count
      if next.isValidChar then
        some {
          label := unplacing.label.insertIdx (place % count) next
          next := next
          place := place % count + 1
          bias := nextBias distance count (unplacing.place == 0)
          distance := 0
          weight := 36
          scale := 1 }
      else none
    else
      some { unplacing with
        distance := distance, weight := unplacing.weight + 36,
        scale := unplacing.scale * (36 - t) }

/-- The part of a label before its last hyphen, if it has one that is not its first character. -/
def basicPart (label : List Char) : List Char :=
  (label.reverse.dropWhile (· != '-')).tail.reverse

def unpunycode? (text : List Char) : Option (List Char) :=
  let basic := basicPart text
  let digits := if basic = [] then text else text.drop (basic.length + 1)
  let start : Unplacing := ⟨basic.map Char.toNat, 128, 0, 72, 0, 36, 1⟩
  (digits.foldlM Unplacing.step start).bind fun done =>
    if done.weight = 36 then some (done.label.map Char.ofNat) else none

example : punycode "münchen".toList = "mnchen-3ya".toList := by decide +kernel
example : unpunycode? "r8jz45g".toList = some "例え".toList := by decide +kernel

end NodeConsole.Url.Domain
