import NodeConsole.Json.Reader
/-!
The grammar of JSON, as trees. Each text that the grammar admits is the text of a tree. What a tree means is
told by itself, apart from how its text is read; a tree whose numbers are too large, whose strings have half a
character or that is nested too deep has no meaning here, though the grammar admits it.
-/

namespace NodeConsole.Json.Grammar

/-! ## Blanks and digits -/

inductive Space where
  | space
  | tab
  | lineFeed
  | carriageReturn
deriving DecidableEq

def Space.char : Space → Char
  | .space => ' '
  | .tab => '\t'
  | .lineFeed => '\n'
  | .carriageReturn => '\r'

def spaceChars (spaces : List Space) : List Char :=
  spaces.map Space.char

abbrev Digit := Fin 10

def digitChars (digits : List Digit) : List Char :=
  digits.map fun digit : Digit => Nat.digitChar digit

/-! ## Numbers -/

inductive Sign where
  | plus
  | minus
deriving DecidableEq

def Sign.char : Sign → Char
  | .plus => '+'
  | .minus => '-'

structure Exponent where
  capital : Bool
  sign : Option Sign
  first : Digit
  more : List Digit

def Exponent.chars (exponent : Exponent) : List Char :=
  (if exponent.capital then 'E' else 'e') ::
    ((exponent.sign.map Sign.char).toList ++ digitChars (exponent.first :: exponent.more))

structure Numeral where
  negative : Bool
  whole : Nat
  fraction : List Digit
  exponent : Option Exponent

def Numeral.fractionChars (numeral : Numeral) : List Char :=
  if numeral.fraction = [] then [] else '.' :: digitChars numeral.fraction

def Numeral.exponentChars (numeral : Numeral) : List Char :=
  (numeral.exponent.map Exponent.chars).getD []

def Numeral.magnitudeChars (numeral : Numeral) : List Char :=
  Nat.toDigits 10 numeral.whole ++ (numeral.fractionChars ++ numeral.exponentChars)

def Numeral.chars (numeral : Numeral) : List Char :=
  if numeral.negative then '-' :: numeral.magnitudeChars else numeral.magnitudeChars

/-! ## Strings -/

structure HexDigit where
  value : Fin 16
  capital : Bool
deriving DecidableEq

def HexDigit.char (digit : HexDigit) : Char :=
  if digit.capital then (Nat.digitChar digit.value).toUpper else Nat.digitChar digit.value

inductive Escape where
  | quotationMark
  | backslash
  | slash
  | backspace
  | formFeed
  | lineFeed
  | carriageReturn
  | tab
deriving DecidableEq

def Escape.letter : Escape → Char
  | .quotationMark => '"'
  | .backslash => '\\'
  | .slash => '/'
  | .backspace => 'b'
  | .formFeed => 'f'
  | .lineFeed => 'n'
  | .carriageReturn => 'r'
  | .tab => 't'

def Escape.meaning : Escape → Char
  | .quotationMark => '"'
  | .backslash => '\\'
  | .slash => '/'
  | .backspace => '\x08'
  | .formFeed => '\x0C'
  | .lineFeed => '\n'
  | .carriageReturn => '\r'
  | .tab => '\t'

inductive Piece where
  | plain (c : Char) (noQuote : c ≠ '"') (noSlash : c ≠ '\\') (visible : 0x20 ≤ c.toNat)
  | short (escape : Escape)
  | unit (a b c d : HexDigit)

def Piece.chars : Piece → List Char
  | .plain c _ _ _ => [c]
  | .short escape => ['\\', escape.letter]
  | .unit a b c d => ['\\', 'u', a.char, b.char, c.char, d.char]

def pieceChars (pieces : List Piece) : List Char :=
  pieces.flatMap Piece.chars

def stringChars (pieces : List Piece) : List Char :=
  '"' :: (pieceChars pieces ++ ['"'])

/-! ## Values -/

mutual

/-- A value. In an array or an object, the blanks stand behind the bracket that opens it. -/
inductive Value where
  | null
  | bool (value : Bool)
  | number (numeral : Numeral)
  | string (pieces : List Piece)
  | array (blanks : List Space) (items : Items)
  | object (blanks : List Space) (entries : Entries)

inductive Items where
  | nil
  | cons (before : List Space) (item : Value) (after : List Space) (more : Items)

inductive Entries where
  | nil
  | cons (before : List Space) (name : List Piece) (afterName beforeValue : List Space) (value : Value)
      (after : List Space) (more : Entries)

end

def comma (first : Bool) : List Char :=
  if first then [] else [',']

mutual

def Value.chars : Value → List Char
  | .null => ['n', 'u', 'l', 'l']
  | .bool true => ['t', 'r', 'u', 'e']
  | .bool false => ['f', 'a', 'l', 's', 'e']
  | .number numeral => numeral.chars
  | .string pieces => stringChars pieces
  | .array blanks items => '[' :: (spaceChars blanks ++ (items.chars true ++ [']']))
  | .object blanks entries => '\x7b' :: (spaceChars blanks ++ (entries.chars true ++ ['\x7d']))

def Items.chars (first : Bool) : Items → List Char
  | .nil => []
  | .cons before item after more =>
      comma first ++ (spaceChars before ++ (item.chars ++ (spaceChars after ++ more.chars false)))

def Entries.chars (first : Bool) : Entries → List Char
  | .nil => []
  | .cons before name afterName beforeValue value after more =>
      comma first ++ (spaceChars before ++ (stringChars name ++ (spaceChars afterName ++ ':' ::
        (spaceChars beforeValue ++ (value.chars ++ (spaceChars after ++ more.chars false))))))

end

structure Document where
  before : List Space
  value : Value
  after : List Space

def Document.text (document : Document) : String :=
  String.ofList (spaceChars document.before ++ (document.value.chars ++ spaceChars document.after))

end NodeConsole.Json.Grammar
