import NodeConsole.Number.Shortest
/-!
How a binary64 number is written: which exponents are spelled out positionally and how the others
are marked. The digits come from `Decimal.shortest`.
-/

namespace NodeConsole

structure Layout where
  plainFrom : Int
  plainThrough : Int
deriving DecidableEq, Repr

namespace Layout

private def zeros (n : Nat) : List Char :=
  List.replicate n '0'

private def decimalDigits (n : Nat) : List Char :=
  Nat.toDigits 10 n

def positional (digits : List Char) (exponent : Int) : List Char :=
  let whole := (digits.length : Int) + exponent
  if 0 ≤ exponent then digits ++ zeros exponent.toNat ++ ['.', '0']
  else if 0 < whole then digits.take whole.toNat ++ '.' :: digits.drop whole.toNat
  else '0' :: '.' :: zeros (-whole).toNat ++ digits

def scientific (digits : List Char) (exponent : Int) : List Char :=
  let lead := (digits.length : Int) + exponent - 1
  let mantissa := match digits with
    | [] => []
    | [d] => [d]
    | d :: more => d :: '.' :: more
  let sign := if lead < 0 then '-' else '+'
  mantissa ++ 'e' :: sign :: decimalDigits lead.natAbs

def chars (layout : Layout) (x : Binary64) : List Char :=
  let shortest := Decimal.shortest x
  let digits := decimalDigits shortest.digits
  let lead := (digits.length : Int) + shortest.exponent - 1
  let body :=
    if layout.plainFrom ≤ lead ∧ lead ≤ layout.plainThrough then
      positional digits shortest.exponent
    else scientific digits shortest.exponent
  if x.isNegative then '-' :: body else body

def text (layout : Layout) (x : Binary64) : String :=
  String.ofList (layout.chars x)

end Layout

end NodeConsole
