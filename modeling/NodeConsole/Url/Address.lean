import NodeConsole.Url.Error
import NodeConsole.Url.Segment
/-!
Numeric hosts. An address of four bytes is written with up to four numbers, decimal, octal after a
zero or hexadecimal after `0x`, the last of which fills all bytes left. An address of eight pieces
is written in hexadecimal with at most one gap of zeros, and may end in four decimal bytes.
-/

namespace NodeConsole.Url

/-! ## Addresses of four bytes -/

def digitIn? (base : Nat) (c : Char) : Option Nat :=
  let value :=
    if '0' ≤ c ∧ c ≤ '9' then c.toNat - 48
    else if 'a' ≤ c ∧ c ≤ 'f' then c.toNat - 87
    else if 'A' ≤ c ∧ c ≤ 'F' then c.toNat - 55
    else 16
  if value < base then some value else none

def naturalIn? (base : Nat) (digits : List Char) : Option Nat :=
  digits.foldl (fun total c => total.bind fun n => (digitIn? base c).map (n * base + ·)) (some 0)

def hostNumber? : List Char → Option Nat
  | [] => none
  | '0' :: 'x' :: digits => naturalIn? 16 digits
  | '0' :: 'X' :: digits => naturalIn? 16 digits
  | ['0'] => some 0
  | '0' :: digits => naturalIn? 8 digits
  | digits => naturalIn? 10 digits

def labelsOf (name : List Char) : List (List Char) :=
  let labels := piecesAt (· == '.') name
  if labels.getLast? = some [] then labels.dropLast else labels

/-- Whether a name has to be read as an address of four bytes: its last label is a number. -/
def endsInNumber (name : List Char) : Bool :=
  match (labelsOf name).getLast? with
  | none => false
  | some last => (last != [] && last.all Char.isDigit) || (hostNumber? last).isSome

def address4Of? : Nat → List Nat → Option Nat
  | _, [] => none
  | bytes, [last] => if last < Nat.pow 256 bytes then some last else none
  | bytes + 1, n :: rest =>
    if n < 256 then (address4Of? bytes rest).map (n * Nat.pow 256 bytes + ·) else none
  | 0, _ :: _ => none

def address4? (name : List Char) : Option Nat :=
  let labels := labelsOf name
  if labels.length ≤ 4 then (labels.mapM hostNumber?).bind (address4Of? 4) else none

def decimalChars (n : Nat) : List Char :=
  Nat.toDigits 10 n

def address4Chars (address : Nat) : List Char :=
  decimalChars (address / Nat.pow 256 3 % 256) ++ '.' :: decimalChars (address / Nat.pow 256 2 % 256) ++
    '.' :: decimalChars (address / 256 % 256) ++ '.' :: decimalChars (address % 256)

/-! ## Addresses of eight pieces -/

def decimalByte? (s : List Char) : Option (Nat × List Char) :=
  let digits := s.takeWhile Char.isDigit
  if digits = [] ∨ (digits.head? = some '0' ∧ digits ≠ ['0']) then none
  else
    match naturalIn? 10 digits with
    | some n => if n < 256 then some (n, s.dropWhile Char.isDigit) else none
    | none => none

def decimalBytes? : Nat → List Char → Option (List Nat)
  | 0, _ => none
  | left + 1, s =>
    match decimalByte? s with
    | none => none
    | some (n, rest) =>
      match left, rest with
      | 0, [] => some [n]
      | 0, _ :: _ => none
      | _ + 1, '.' :: rest => (decimalBytes? left rest).map (n :: ·)
      | _ + 1, _ => none

/-- Pieces read so far, the last first, and where the gap of zeros is among them. -/
structure Pieces where
  done : List Nat
  gap : Option Nat
deriving DecidableEq, Repr

def Pieces.filled? (pieces : Pieces) : Option (List Nat) :=
  let read := pieces.done.reverse
  match pieces.gap with
  | none => if read.length = 8 then some read else none
  | some gap =>
    if read.length < 8 then
      some (read.take gap ++ List.replicate (8 - read.length) 0 ++ read.drop gap)
    else none

def Pieces.places (pieces : Pieces) : Nat :=
  pieces.done.length + if pieces.gap.isSome then 1 else 0

def readPieces? : Nat → Pieces → List Char → Option (List Nat)
  | _, pieces, [] => pieces.filled?
  | 0, _, _ :: _ => none
  | limit + 1, pieces, s =>
    if pieces.places = 8 then none
    else
      match s with
      | ':' :: rest =>
        if pieces.gap.isSome then none
        else readPieces? limit { pieces with gap := some pieces.done.length } rest
      | _ =>
        let digits := (s.take 4).takeWhile fun c => (digitIn? 16 c).isSome
        let rest := s.drop digits.length
        match rest, naturalIn? 16 digits with
        | _, none => none
        | [], some n => readPieces? limit { pieces with done := n :: pieces.done } []
        | '.' :: _, some _ =>
          if digits = [] ∨ 6 < pieces.places then none
          else
            match decimalBytes? 4 s with
            | some [a, b, c, d] =>
              Pieces.filled? { pieces with done := (c * 256 + d) :: (a * 256 + b) :: pieces.done }
            | _ => none
        | [':'], some _ => none
        | ':' :: rest, some n => readPieces? limit { pieces with done := n :: pieces.done } rest
        | _, some _ => none

def address6? (s : List Char) : Option (List Nat) :=
  if s.length < 2 then none
  else
    match s with
    | ':' :: ':' :: rest => readPieces? 9 ⟨[], some 0⟩ rest
    | ':' :: _ => none
    | _ => readPieces? 9 ⟨[], none⟩ s

def zeroRun : List Nat → Nat
  | 0 :: rest => zeroRun rest + 1
  | _ => 0

/-- Where the first of the longest runs of at least two zeros starts, and its length. -/
def longestZeros (pieces : List Nat) : Option (Nat × Nat) :=
  (List.range pieces.length).foldl
    (fun best start =>
      let run := zeroRun (pieces.drop start)
      if max 1 (best.elim 0 (·.2)) < run then some (start, run) else best)
    none

def hexChars (n : Nat) : List Char :=
  Nat.toDigits 16 n

def pieceChars : List Nat → List Char
  | [] => []
  | [n] => hexChars n
  | n :: rest => hexChars n ++ ':' :: pieceChars rest

def address6Chars (pieces : List Nat) : List Char :=
  match longestZeros pieces with
  | none => pieceChars pieces
  | some (start, run) =>
    pieceChars (pieces.take start) ++ ':' :: ':' :: pieceChars (pieces.drop (start + run))

example : address4? "127.1".toList = some 0x7F000001 := by decide +kernel
example : (address6? "1::1.2.3.4".toList).map (String.ofList ∘ address6Chars) = some "1::102:304" := by
  decide +kernel

end NodeConsole.Url
