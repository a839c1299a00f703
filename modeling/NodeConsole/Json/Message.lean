import NodeConsole.Json.Fault
import NodeConsole.Json.Printer
import NodeConsole.Text.Quoted
/-!
The wording of refusals. Each cause has one text; a refused text is followed by the place.
-/

namespace NodeConsole.Json

def Found.message : Found → String
  | .null => "null"
  | .bool true => "boolean `true`"
  | .bool false => "boolean `false`"
  | .number (.integer n) => s!"integer `{(Number.integer n).text}`"
  | .number (.float x) => s!"floating point `{(Number.float x).text}`"
  | .string text => s!"string {Text.quoted text}"
  | .array => "sequence"
  | .object => "map"

def Expected.message : Expected → String
  | .boolean => "a boolean"
  | .string => "a string"
  | .natural64 => "u64"
  | .record name => s!"struct {name}"

def Cause.message : Cause → String
  | .endInArray => "EOF while parsing a list"
  | .endInObject => "EOF while parsing an object"
  | .endInString => "EOF while parsing a string"
  | .endInValue => "EOF while parsing a value"
  | .expectedColon => "expected `:`"
  | .expectedCommaOrBracket => "expected `,` or `]`"
  | .expectedCommaOrBrace => "expected `,` or `\x7d`"
  | .expectedWord => "expected ident"
  | .expectedValue => "expected value"
  | .badEscape => "invalid escape"
  | .badNumber => "invalid number"
  | .numberOutOfRange => "number out of range"
  | .badUnicode => "invalid unicode code point"
  | .controlInString => "control character (\\u0000-\\u001F) found while parsing a string"
  | .nameNotString => "key must be a string"
  | .loneSurrogate => "lone leading surrogate in hex escape"
  | .unfinishedSurrogate => "unexpected end of hex escape"
  | .trailingComma => "trailing comma"
  | .trailingText => "trailing characters"
  | .nestedTooDeep => "recursion limit exceeded"
  | .wrongType found expected => s!"invalid type: {found.message}, expected {expected.message}"
  | .wrongValue found expected => s!"invalid value: {found.message}, expected {expected.message}"
  | .repeatedField name => s!"duplicate field `{name}`"
  | .tooManyItems count => s!"invalid length {count}, expected fewer elements in array"

def Error.message (error : Error) : String :=
  match error.place with
  | none => error.cause.message
  | some place => s!"{error.cause.message} at line {place.line} column {place.column}"

example : (Error.mk .expectedValue (some ⟨1, 2⟩)).message = "expected value at line 1 column 2" := by
  decide +kernel

end NodeConsole.Json
