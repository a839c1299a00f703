/-!
Random identifiers: 16 bytes in hexadecimal digits, in five groups, with the marks of a random
identifier in two of the bytes.
-/

namespace NodeConsole.Text

def hexDigit (n : Nat) : Char :=
  if n < 10 then Char.ofNat ('0'.toNat + n) else Char.ofNat ('a'.toNat + (n - 10))

def hexByte (b : UInt8) : List Char :=
  [hexDigit (b.toNat / 16), hexDigit (b.toNat % 16)]

def markedByte (place : Nat) (b : UInt8) : UInt8 :=
  if place = 6 then b % 16 + 0x40
  else if place = 8 then b % 64 + 0x80
  else b

def identifierByte (entry : UInt8 × Nat) : List Char :=
  let digits := hexByte (markedByte entry.2 entry.1)
  if [4, 6, 8, 10].contains entry.2 then '-' :: digits else digits

def identifier (bytes : List UInt8) : String :=
  String.ofList ((bytes.take 16).zipIdx.flatMap identifierByte)

example : identifier (List.replicate 16 0xff) = "ffffffff-ffff-4fff-bfff-ffffffffffff" := by
  decide +kernel

end NodeConsole.Text
