import NodeConsole.Text.Utf8
/-!
Percent-encoding. Each part of a URL has a class of ASCII characters that may not stand for
themselves in it; these, and every character outside ASCII, are written as the bytes of their UTF-8
encoding, two hexadecimal digits each.
-/

namespace NodeConsole.Url

/-! ## Classes of characters -/

def escapedInText (c : Char) : Bool :=
  c.toNat < 0x20 || 0x7F ≤ c.toNat

def escapedInFragment (c : Char) : Bool :=
  escapedInText c || " \"<>`".toList.contains c

def escapedInPath (c : Char) : Bool :=
  escapedInFragment c || "#?\x7b\x7d".toList.contains c

def escapedInUserInfo (c : Char) : Bool :=
  escapedInPath c || "/:;=@[\\]^|".toList.contains c

def escapedInQuery (c : Char) : Bool :=
  escapedInText c || " \"#<>".toList.contains c

def escapedInSpecialQuery (c : Char) : Bool :=
  escapedInQuery c || c == '\''

/-! ## Encoding -/

def percentDigit (n : Nat) : Char :=
  if n < 10 then Char.ofNat (48 + n) else Char.ofNat (55 + n)

def percentByte (byte : UInt8) : List Char :=
  ['%', percentDigit (byte.toNat / 16), percentDigit (byte.toNat % 16)]

def percentChar (escaped : Char → Bool) (c : Char) : List Char :=
  if escaped c then (Utf8.encode [c]).flatMap percentByte else [c]

/-- A text with the characters of a class encoded. A percent sign stays as it is. -/
def percentEncode (escaped : Char → Bool) (text : List Char) : List Char :=
  text.flatMap (percentChar escaped)

/-! ## Decoding -/

def percentValue? (byte : UInt8) : Option Nat :=
  let b := byte.toNat
  if 0x30 ≤ b ∧ b ≤ 0x39 then some (b - 0x30)
  else if 0x41 ≤ b ∧ b ≤ 0x46 then some (b - 0x37)
  else if 0x61 ≤ b ∧ b ≤ 0x66 then some (b - 0x57)
  else none

/-- The bytes that an encoded text stands for. A percent sign without two digits after it stands
for itself. -/
def percentDecode : List UInt8 → List UInt8
  | 0x25 :: high :: low :: rest =>
    match percentValue? high, percentValue? low with
    | some h, some l => UInt8.ofNat (h * 16 + l) :: percentDecode rest
    | _, _ => 0x25 :: percentDecode (high :: low :: rest)
  | byte :: rest => byte :: percentDecode rest
  | [] => []

example : String.ofList (percentEncode escapedInPath "a b/é".toList) = "a%20b/%C3%A9" := by
  decide +kernel
example : percentDecode (Utf8.bytes "%41%zz%4") = Utf8.bytes "A%zz%4" := by decide +kernel

end NodeConsole.Url
