/-!
Blank characters. A text is trimmed of every character with the Unicode property White_Space
(version 16); the narrower ASCII class is used where only bytes are at hand.
-/

namespace NodeConsole.Text

def blankRanges : List (Nat × Nat) :=
  [(0x09, 0x0D), (0x20, 0x20), (0x85, 0x85), (0xA0, 0xA0), (0x1680, 0x1680), (0x2000, 0x200A),
   (0x2028, 0x2029), (0x202F, 0x202F), (0x205F, 0x205F), (0x3000, 0x3000)]

def isBlank (c : Char) : Bool :=
  blankRanges.any fun range => range.1 ≤ c.toNat && c.toNat ≤ range.2

example : (blankRanges.map fun range => range.2 + 1 - range.1).sum = 25 := by decide
example : isBlank '\u200b' = false := by decide

def trimChars (chars : List Char) : List Char :=
  ((chars.dropWhile isBlank).reverse.dropWhile isBlank).reverse

def trim (text : String) : String :=
  String.ofList (trimChars text.toList)

example : trim " a b\u3000" = "a b" := by decide +kernel

def isBlankByte (byte : UInt8) : Bool :=
  byte == 0x09 || byte == 0x0A || byte == 0x0C || byte == 0x0D || byte == 0x20

end NodeConsole.Text
