/-!
How grave a record is, and how grave it must be to be kept.
-/

namespace NodeConsole.Logging

inductive Severity where
  | error
  | warn
  | info
  | debug
  | trace
deriving DecidableEq, Repr

namespace Severity

def name : Severity → String
  | .error => "ERROR"
  | .warn => "WARN"
  | .info => "INFO"
  | .debug => "DEBUG"
  | .trace => "TRACE"

def column (severity : Severity) : String :=
  String.ofList (List.replicate (5 - severity.name.length) ' ' ++ severity.name.toList)

example : Severity.warn.column = " WARN" := by decide +kernel

def rank : Severity → Nat
  | .error => 1
  | .warn => 2
  | .info => 3
  | .debug => 4
  | .trace => 5

end Severity

inductive Threshold where
  | off
  | upTo (severity : Severity)
deriving DecidableEq, Repr

namespace Threshold

def rank : Threshold → Nat
  | .off => 0
  | .upTo severity => severity.rank

def admits (threshold : Threshold) (severity : Severity) : Bool :=
  severity.rank ≤ threshold.rank

def ofRank? : Nat → Option Threshold
  | 0 => some .off
  | 1 => some (.upTo .error)
  | 2 => some (.upTo .warn)
  | 3 => some (.upTo .info)
  | 4 => some (.upTo .debug)
  | 5 => some (.upTo .trace)
  | _ => none

def rankOf? (digits : List Char) : Option Nat :=
  if digits ≠ [] ∧ digits.all Char.isDigit then
    some (digits.foldl (fun n c => 10 * n + (c.toNat - '0'.toNat)) 0)
  else none

def ofDigits? : List Char → Option Threshold
  | '+' :: digits => (rankOf? digits).bind ofRank?
  | digits => (rankOf? digits).bind ofRank?

def ofName? (name : String) : Option Threshold :=
  match name with
  | "off" => some .off
  | "error" => some (.upTo .error)
  | "warn" => some (.upTo .warn)
  | "info" => some (.upTo .info)
  | "debug" => some (.upTo .debug)
  | "trace" => some (.upTo .trace)
  | _ => none

def parse? (text : String) : Option Threshold :=
  match ofDigits? text.toList with
  | some threshold => some threshold
  | none => ofName? (text.map Char.toLower)

example : parse? "Warn" = some (.upTo .warn) ∧ parse? "03" = some (.upTo .info) ∧
    parse? "6" = none := by decide +kernel

end Threshold

end NodeConsole.Logging
