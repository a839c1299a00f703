import NodeConsole.Json.Printer
import NodeConsole.Logging.Severity
import NodeConsole.Text.Quoted
/-!
Records of what a program does, and the two forms that they are written in: a line of text, or a
JSON object.
-/

namespace NodeConsole.Logging

inductive Format where
  | pretty
  | json
deriving DecidableEq, Repr

def Format.usual : Format :=
  .pretty

inductive Detail where
  | quoted (text : String)
  | bare (text : String)
  | number (n : Nat)
deriving DecidableEq, Repr

structure Span where
  name : String
  target : String
  severity : Severity := .info
deriving DecidableEq, Repr

structure Record where
  severity : Severity
  target : String
  spans : List Span := []
  message : String
  details : List (String × Detail) := []
deriving DecidableEq, Repr

inductive Line where
  | text (line : String)
  | document (object : Json)
deriving BEq, Repr

/-! ## Lines of text -/

def escapedChar (c : Char) : List Char :=
  if c = '\x1b' then "\\x1b".toList
  else if c = '\x07' then "\\x07".toList
  else if c = '\x08' then "\\x08".toList
  else if c = '\x0c' then "\\x0c".toList
  else if c = '\x7f' then "\\x7f".toList
  else if '\x80' ≤ c ∧ c ≤ '\x9f' then
    "\\u\x7b".toList ++ Nat.toDigits 16 c.toNat ++ ['\x7d']
  else [c]

def escaped (message : String) : String :=
  String.ofList (message.toList.flatMap escapedChar)

example : escaped "a\x7fb\x85" = "a\\x7fb\\u\x7b85\x7d" := by decide +kernel

def Detail.text : Detail → String
  | .quoted text => Text.quoted text
  | .bare text => text
  | .number n => toString n

def detailText (detail : String × Detail) : String :=
  s!" {detail.1}={detail.2.text}"

def spansText (spans : List Span) : String :=
  match spans with
  | [] => ""
  | spans => String.join (spans.map fun span => span.name ++ ":") ++ " "

def Record.line (record : Record) : String :=
  s!"{record.severity.column} {spansText record.spans}{escaped record.message}" ++
    String.join (record.details.map detailText)

/-! ## JSON objects -/

def Detail.value : Detail → Json
  | .quoted text => .string text
  | .bare text => .string text
  | .number n => .number (.integer n)

def spanObject (span : Span) : Json :=
  .ofEntries [("name", .string span.name)]

def spanMembers (spans : List Span) : List (String × Json) :=
  match spans.getLast? with
  | none => []
  | some span => [("span", spanObject span), ("spans", .array (spans.map spanObject))]

def Record.object (record : Record) : Json :=
  .ofEntries <|
    [("level", .string record.severity.name),
     ("fields", .ofEntries (("message", .string record.message) ::
        record.details.map fun detail => (detail.1, detail.2.value)))] ++
      spanMembers record.spans

def Record.written (record : Record) : Format → Line
  | .pretty => .text record.line
  | .json => .document record.object

example : (Record.line
    { severity := .info, target := "app", message := "started",
      details := [("version", .quoted "1"), ("workers", .number 4)] }) =
    " INFO started version=\"1\" workers=4" := by decide +kernel

end NodeConsole.Logging
