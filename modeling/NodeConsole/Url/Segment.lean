/-!
Path segments. A segment that is one dot or two dots, each written plainly or percent-encoded, names
the segment it stands in or the one above; `resolve` works such segments out from left to right and
never climbs above the root.
-/

namespace NodeConsole.Url

def piecesAt (separates : Char → Bool) : List Char → List (List Char)
  | [] => [[]]
  | c :: rest =>
    match piecesAt separates rest with
    | [] => [[c]]
    | piece :: pieces => if separates c then [] :: piece :: pieces else (c :: piece) :: pieces

def dotCount? : List Char → Option Nat
  | [] => some 0
  | '.' :: rest => (dotCount? rest).map (· + 1)
  | '%' :: '2' :: 'e' :: rest => (dotCount? rest).map (· + 1)
  | '%' :: '2' :: 'E' :: rest => (dotCount? rest).map (· + 1)
  | _ :: _ => none

def isSingleDot (segment : List Char) : Bool :=
  dotCount? segment == some 1

def isDoubleDot (segment : List Char) : Bool :=
  dotCount? segment == some 2

def isDrive : List Char → Bool
  | [letter, mark] => letter.isAlpha && (mark == ':' || mark == '|')
  | _ => false

/-- Leave the last segment; `done` holds the segments so far, the last first. With `keepsDrive` a
drive at the root is not left. -/
def leave (keepsDrive : Bool) : List (List Char) → List (List Char)
  | [] => []
  | [root] => if keepsDrive && isDrive root then [root] else []
  | _ :: above => above

/-- Work out dot segments after those in `done`, the last first. A dot segment at the end leaves an
empty segment, so that the path still ends in a slash. -/
def resolveFrom (keepsDrive : Bool) (done : List (List Char)) : List (List Char) → List (List Char)
  | [] => done.reverse
  | [last] =>
    if isDoubleDot last then ([] :: leave keepsDrive done).reverse
    else if isSingleDot last then ([] :: done).reverse
    else (last :: done).reverse
  | segment :: next :: rest =>
    if isDoubleDot segment then resolveFrom keepsDrive (leave keepsDrive done) (next :: rest)
    else if isSingleDot segment then resolveFrom keepsDrive done (next :: rest)
    else resolveFrom keepsDrive (segment :: done) (next :: rest)

def resolve (segments : List (List Char)) : List (List Char) :=
  resolveFrom false [] segments

def joinSegments (segments : List (List Char)) : List Char :=
  segments.flatMap ('/' :: ·)

example : dotCount? "%2e.".toList = some 2 := by decide +kernel
example : resolve ["a".toList, "%2E%2e".toList, "..".toList, "b".toList, ".".toList] =
    ["b".toList, []] := by decide +kernel

end NodeConsole.Url
