import NodeConsole.Number.Binary64
/-!
The decimal that stands for a binary64 number: of all decimals that round to the number, one with
the fewest digits, and of those the one nearest to the number.
-/

namespace NodeConsole

structure Decimal where
  digits : Nat
  exponent : Int
deriving DecidableEq, Repr

namespace Decimal

def compareScaled (a : Nat) (i : Int) (b : Nat) (j : Int) : Ordering :=
  compare (a * Nat.pow 10 i.toNat * Nat.pow 2 (-j).toNat) (b * Nat.pow 2 j.toNat * Nat.pow 10 (-i).toNat)

/-- Whether a decimal rounds to the magnitude with these parts. The reals that do so lie between
the midpoints to both neighbours, and the midpoints belong to the even significand. -/
def roundsTo (d : Decimal) (p : Binary64.Parts) : Bool :=
  let lower := if p.narrowBelow then 4 * p.significand - 1 else 4 * p.significand - 2
  let upper := 4 * p.significand + 2
  let fromBelow := compareScaled d.digits d.exponent lower (p.exponent - 2)
  let fromAbove := compareScaled d.digits d.exponent upper (p.exponent - 2)
  let ends := p.significand % 2 == 0
  (fromBelow == .gt || (ends && fromBelow == .eq)) && (fromAbove == .lt || (ends && fromAbove == .eq))

/-- The least `k` with `num / den < 10 ^ k`. The estimate from the binary exponent is never too
large and at most two too small. -/
def decimalScale (num den : Nat) : Int :=
  let estimate := (Binary64.binaryExponent num den * 30103).fdiv 100000
  let below (k : Int) : Bool := num * Nat.pow 10 (-k).toNat < den * Nat.pow 10 k.toNat
  if below estimate then estimate
  else if below (estimate + 1) then estimate + 1
  else estimate + 2

def withDigits? (p : Binary64.Parts) (num den : Nat) (scale : Int) (count : Nat) : Option Decimal :=
  let exponent := scale - count
  let numerator := num * Nat.pow 10 (-exponent).toNat
  let denominator := den * Nat.pow 10 exponent.toNat
  let low : Decimal := ⟨numerator / denominator, exponent⟩
  let high : Decimal := ⟨numerator / denominator + 1, exponent⟩
  match low.roundsTo p, high.roundsTo p with
  | true, true =>
    some (if roundedQuotient numerator denominator = low.digits then low else high)
  | true, false => some low
  | false, true => some high
  | false, false => none

def stripZeros : Nat → Decimal → Decimal
  | 0, d => d
  | limit + 1, d =>
    if d.digits % 10 = 0 ∧ d.digits ≠ 0 then stripZeros limit ⟨d.digits / 10, d.exponent + 1⟩ else d

/-- The shortest decimal for the magnitude of a finite number. Seventeen digits always suffice. -/
def shortest (x : Binary64) : Decimal :=
  if x.isZero then ⟨0, 0⟩
  else
    let (num, den) := x.ratio
    let scale := decimalScale num den
    let found := (List.range 17).findSome? fun n => withDigits? x.parts num den scale (n + 1)
    stripZeros 20 (found.getD ⟨num * Nat.pow 10 1074 / den, -1074⟩)

example : shortest (.ofRatio 1 10) = ⟨1, -1⟩ := by decide +kernel
example : shortest (.ofNat (10 ^ 23)) = ⟨1, 23⟩ := by decide +kernel
example : shortest ⟨1⟩ = ⟨5, -324⟩ := by decide +kernel
example : shortest (.ofRatio 1 (2 ^ 25)) = ⟨29802322387695312, -24⟩ := by decide +kernel

end Decimal

end NodeConsole
