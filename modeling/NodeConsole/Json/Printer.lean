import NodeConsole.Json.Basic
import NodeConsole.Number.Layout
/-!
JSON values as text, compact or indented. Characters outside ASCII are written as they are; of the
others only the quotation mark, the backslash and the controls below the space are escaped.
-/

namespace NodeConsole.Json

/-- Numbers that are not integers have a point or a signed exponent: positional for leading
exponents from -5 through 15. -/
def numberLayout : Layout where
  plainFrom := -5
  plainThrough := 15

def integerChars (n : Int) : List Char :=
  if n < 0 then '-' :: Nat.toDigits 10 n.natAbs else Nat.toDigits 10 n.natAbs

def Number.chars : Number → List Char
  | .integer n => integerChars n
  | .float x => numberLayout.chars x

def Number.text (n : Number) : String :=
  String.ofList n.chars

def hexDigit (n : Nat) : Char :=
  if n < 10 then Char.ofNat (48 + n) else Char.ofNat (87 + n)

def escapedChar (c : Char) : List Char :=
  if c = '"' then ['\\', '"']
  else if c = '\\' then ['\\', '\\']
  else if c = '\x08' then ['\\', 'b']
  else if c = '\t' then ['\\', 't']
  else if c = '\n' then ['\\', 'n']
  else if c = '\x0c' then ['\\', 'f']
  else if c = '\r' then ['\\', 'r']
  else if c.toNat < 0x20 then ['\\', 'u', '0', '0', hexDigit (c.toNat / 16), hexDigit (c.toNat % 16)]
  else [c]

def stringChars (text : String) : List Char :=
  '"' :: text.toList.flatMap escapedChar ++ ['"']

mutual

def compactChars : Json → List Char
  | .null => ['n', 'u', 'l', 'l']
  | .bool true => ['t', 'r', 'u', 'e']
  | .bool false => ['f', 'a', 'l', 's', 'e']
  | .number n => n.chars
  | .string text => stringChars text
  | .array [] => ['[', ']']
  | .array (item :: items) => '[' :: compactChars item ++ compactItems items
  | .object [] => ['\x7b', '\x7d']
  | .object ((name, value) :: members) =>
    '\x7b' :: stringChars name ++ ':' :: compactChars value ++ compactMembers members

def compactItems : List Json → List Char
  | [] => [']']
  | item :: items => ',' :: compactChars item ++ compactItems items

def compactMembers : List (String × Json) → List Char
  | [] => ['\x7d']
  | (name, value) :: members =>
    ',' :: stringChars name ++ ':' :: compactChars value ++ compactMembers members

end

def lineBreak (level : Nat) : List Char :=
  '\n' :: List.replicate (2 * level) ' '

mutual

def indentedChars (level : Nat) : Json → List Char
  | .null => ['n', 'u', 'l', 'l']
  | .bool true => ['t', 'r', 'u', 'e']
  | .bool false => ['f', 'a', 'l', 's', 'e']
  | .number n => n.chars
  | .string text => stringChars text
  | .array [] => ['[', ']']
  | .array (item :: items) =>
    '[' :: lineBreak (level + 1) ++ indentedChars (level + 1) item ++ indentedItems level items
  | .object [] => ['\x7b', '\x7d']
  | .object ((name, value) :: members) =>
    '\x7b' :: lineBreak (level + 1) ++ stringChars name ++ ':' :: ' ' ::
      indentedChars (level + 1) value ++ indentedMembers level members

def indentedItems (level : Nat) : List Json → List Char
  | [] => lineBreak level ++ [']']
  | item :: items =>
    ',' :: lineBreak (level + 1) ++ indentedChars (level + 1) item ++ indentedItems level items

def indentedMembers (level : Nat) : List (String × Json) → List Char
  | [] => lineBreak level ++ ['\x7d']
  | (name, value) :: members =>
    ',' :: lineBreak (level + 1) ++ stringChars name ++ ':' :: ' ' ::
      indentedChars (level + 1) value ++ indentedMembers level members

end

def compact (value : Json) : String :=
  String.ofList (compactChars value)

def indented (value : Json) : String :=
  String.ofList (indentedChars 0 value)

example : compact (.array [.null, .string "a\n"]) = "[null,\"a\\n\"]" := by decide +kernel
example : indented (.array [.bool true, .array []]) = "[\n  true,\n  []\n]" := by decide +kernel

end NodeConsole.Json
