import NodeConsole.Logging.Severity
import NodeConsole.Text.Blank
/-!
Directives of a log filter. A directive names a threshold, and what it is for: everything, one
target and what lies below it, or what happens inside of a span. The form is

    target[span{field=value}]=threshold

where each part can be left out. A lone word is a threshold if it can be one, and a target
otherwise; without a threshold, everything is kept.
-/

namespace NodeConsole.Logging

structure FieldPattern where
  name : String
  value : Option String
deriving DecidableEq, Repr

structure Directive where
  target : Option String := none
  span : Option String := none
  fields : List FieldPattern := []
  threshold : Threshold := .upTo .trace
deriving DecidableEq, Repr

inductive Directive.Error where
  | malformed
  | unknownThreshold
deriving DecidableEq, Repr

namespace Directive

def Error.message : Error → String
  | .malformed => "invalid filter directive"
  | .unknownThreshold =>
    "error parsing level filter: expected one of \"off\", \"error\", \"warn\", \"info\", \"debug\", \"trace\", or a number 0-5"

def startsTarget (c : Char) : Bool :=
  c.isAlphanum || c = '-' || c = ':' || c = '_' || '\x7f' < c

def readThreshold (text : List Char) : Except Error Threshold :=
  if text = [] then .ok (.upTo .trace)
  else
    match Threshold.parse? (String.ofList text) with
    | some threshold => .ok threshold
    | none => .error .unknownThreshold

def readTail (directive : Directive) : List Char → Except Error Directive
  | [] => .ok directive
  | '=' :: text => do .ok { directive with threshold := ← readThreshold text }
  | _ :: _ => .error .malformed

def readField (text : List Char) : FieldPattern where
  name := String.ofList (text.takeWhile (· ≠ '='))
  value :=
    match text.dropWhile (· ≠ '=') with
    | [] => none
    | _ :: value => some (String.ofList (value.takeWhile (· ≠ '=')))

def readFields (directive : Directive) (text : List Char) : Except Error Directive :=
  let field := text.takeWhile (· ≠ '}')
  match text.dropWhile (· ≠ '}') with
  | '}' :: ']' :: rest =>
    if field = [] then .error .malformed
    else { directive with fields := [readField field] }.readTail rest
  | _ => .error .malformed

def readSpan (directive : Directive) (text : List Char) : Except Error Directive :=
  let name := text.takeWhile fun c => c ≠ ']' && c ≠ '{'
  match text.dropWhile fun c => c ≠ ']' && c ≠ '{' with
  | [] => .error .malformed
  | c :: rest =>
    if c = ']' then { directive with span := some (String.ofList name) }.readTail rest
    else
      { directive with span := if name = [] then none else some (String.ofList name) }.readFields
        rest

def ofWord (word : String) : Directive :=
  match Threshold.parse? word with
  | some threshold => { threshold }
  | none => { target := some word }

def ofChars (text : List Char) : Except Error Directive :=
  match text with
  | [] => .error .malformed
  | '[' :: rest => readSpan {} rest
  | c :: _ =>
    if !startsTarget c then .error .malformed
    else
      let word := String.ofList (text.takeWhile fun c => c ≠ '=' && c ≠ '[')
      match text.dropWhile fun c => c ≠ '=' && c ≠ '[' with
      | [] => .ok (ofWord word)
      | '=' :: rest => do .ok { target := some word, threshold := ← readThreshold rest }
      | _ :: rest => readSpan { target := some word } rest

def parse (text : String) : Except Error Directive :=
  ofChars (Text.trimChars text.toList)

example : (parse "app=off").toOption = some { target := some "app", threshold := .off } := by
  decide +kernel

example : (parse "app::db[query]").toOption =
    some { target := some "app::db", span := some "query" } := by decide +kernel

/-- Directives about spans follow what a program does; the others can be judged by the record
alone. -/
def isAboutSpans (directive : Directive) : Bool :=
  directive.span.isSome || !directive.fields.isEmpty

def isAboutRecords (directive : Directive) : Bool :=
  directive.span.isNone && directive.fields.all fun field => field.value.isNone

end Directive

end NodeConsole.Logging
