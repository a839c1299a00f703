/-!
Binary64 numbers as bits, and the one rounding that every operation on them needs: `ofRatio` takes
an exact quotient of naturals to the nearest number, ties to the even one. Products and quotients
are formed exactly and rounded once.
-/

namespace NodeConsole

structure Binary64 where
  bits : UInt64
deriving DecidableEq, Repr

def roundedQuotient (num den : Nat) : Nat :=
  let quotient := num / den
  let twice := 2 * (num % den)
  if twice < den then quotient
  else if den < twice then quotient + 1
  else if quotient % 2 = 0 then quotient else quotient + 1

namespace Binary64

def infinityBits : Nat := 0x7FF * Nat.pow 2 52

/-- The greatest `e` with `2 ^ e ≤ num / den`, for `num` and `den` above zero. -/
def binaryExponent (num den : Nat) : Int :=
  let estimate : Int := (num.log2 : Int) - den.log2
  if den * Nat.pow 2 estimate.toNat ≤ num * Nat.pow 2 (-estimate).toNat then estimate else estimate - 1

/-- The bits of the number nearest to `num / den`. The spacing of the numbers around a value is
`2 ^ (e - 52)` for values from `2 ^ e` on, and never finer than `2 ^ (-1074)`. -/
def ratioBits (num den : Nat) : Nat :=
  if num = 0 ∨ den = 0 then 0
  else
    let spacing := max (binaryExponent num den - 52) (-1074)
    let steps := roundedQuotient (num * Nat.pow 2 (-spacing).toNat) (den * Nat.pow 2 spacing.toNat)
    min infinityBits ((spacing + 1074).toNat * Nat.pow 2 52 + steps)

def ofRatio (num den : Nat) : Binary64 :=
  ⟨UInt64.ofNat (ratioBits num den)⟩

def ofNat (n : Nat) : Binary64 :=
  ofRatio n 1

def isNegative (x : Binary64) : Bool :=
  0x8000000000000000 ≤ x.bits

def magnitude (x : Binary64) : Binary64 :=
  if x.isNegative then ⟨x.bits - 0x8000000000000000⟩ else x

def negate (x : Binary64) : Binary64 :=
  if x.isNegative then x.magnitude else ⟨x.bits + 0x8000000000000000⟩

def isZero (x : Binary64) : Bool :=
  x.magnitude.bits == 0

def isFinite (x : Binary64) : Bool :=
  x.magnitude.bits.toNat < infinityBits

/-- A finite magnitude, `significand * 2 ^ exponent`. The gap to the number below is half the gap
to the number above when `narrowBelow`. -/
structure Parts where
  significand : Nat
  exponent : Int
  narrowBelow : Bool
deriving DecidableEq, Repr

def parts (x : Binary64) : Parts :=
  let bits := x.magnitude.bits.toNat
  let field : Nat := bits / Nat.pow 2 52
  let fraction : Nat := bits % Nat.pow 2 52
  if field = 0 then ⟨fraction, -1074, false⟩
  else ⟨Nat.pow 2 52 + fraction, (field : Int) - 1075, fraction == 0 && 1 < field⟩

def ratio (x : Binary64) : Nat × Nat :=
  let p := x.parts
  (p.significand * Nat.pow 2 p.exponent.toNat, Nat.pow 2 (-p.exponent).toNat)

def times (x y : Binary64) : Binary64 :=
  ofRatio (x.ratio.1 * y.ratio.1) (x.ratio.2 * y.ratio.2)

def quotient (x y : Binary64) : Binary64 :=
  ofRatio (x.ratio.1 * y.ratio.2) (x.ratio.2 * y.ratio.1)

def tenTo (k : Nat) : Binary64 :=
  ofRatio (Nat.pow 10 k) 1

example : ofRatio 1 10 = ⟨0x3FB999999999999A⟩ := by decide +kernel
example : ofRatio 1 (2 ^ 1075) = ⟨0⟩ := by decide +kernel
example : ofRatio 3 (2 ^ 1075) = ⟨2⟩ := by decide +kernel
example : (tenTo 309).isFinite = false := by decide +kernel

end Binary64

end NodeConsole
