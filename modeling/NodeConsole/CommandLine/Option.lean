import NodeConsole.Console.Report
import NodeConsole.Gateway.Config
import NodeConsole.Logging.Record
import NodeConsole.Settings.Assignment
/-!
The options of the program: how they are written, what their values are, and what is said about
them. Every option takes one value. The type of the value depends on the option.
-/

namespace NodeConsole.CommandLine

inductive Opt where
  | baseUrl
  | config
  | timeout
  | output
  | logLevel
  | logFormat
  | file
  | assign
  | listen
  | target
  | area
deriving DecidableEq, Repr

inductive Misfit where
  | nothing
  | noChoice
  | malformed (reason : String)
deriving DecidableEq, Repr

/-! ## Numbers -/

def addDigit (n : Except String Nat) (c : Char) : Except String Nat :=
  match n with
  | .error reason => .error reason
  | .ok n =>
    if !c.isDigit then .error "invalid digit found in string"
    else if Nat.pow 2 64 ≤ 10 * n + (c.toNat - '0'.toNat) then
      .error "number too large to fit in target type"
    else .ok (10 * n + (c.toNat - '0'.toNat))

def digitsOf : List Char → List Char
  | '+' :: c :: rest => c :: rest
  | text => text

def readSeconds (text : String) : Except Misfit UInt64 :=
  if text = "" then .error (.malformed "cannot parse integer from empty string")
  else
    match (digitsOf text.toList).foldl addDigit (.ok 0) with
    | .error reason => .error (.malformed reason)
    | .ok n => .ok n.toUInt64

example : (readSeconds "+007").toOption = some 7 := by decide +kernel

namespace Opt

/-! ## Values -/

@[reducible] def Value : Opt → Type
  | .timeout => UInt64
  | .output => Console.Layout
  | .logFormat => Logging.Format
  | .assign => List Settings.Assignment
  | .listen => Gateway.Listen
  | _ => String

def choices : Opt → List String
  | .output => ["table", "json"]
  | .logFormat => ["pretty", "json"]
  | _ => []

def readPath (text : String) : Except Misfit String :=
  if text = "" then .error .nothing else .ok text

def readLayout (text : String) : Except Misfit Console.Layout :=
  match text with
  | "" => .error .nothing
  | "table" => .ok .table
  | "json" => .ok .json
  | _ => .error .noChoice

def readFormat (text : String) : Except Misfit Logging.Format :=
  match text with
  | "" => .error .nothing
  | "pretty" => .ok .pretty
  | "json" => .ok .json
  | _ => .error .noChoice

def readAssignment (text : String) : Except Misfit (List Settings.Assignment) :=
  match Settings.Assignment.parse text with
  | .ok assignment => .ok [assignment]
  | .error error => .error (.malformed error.message)

def readListen (text : String) : Except Misfit Gateway.Listen :=
  match Gateway.Listen.parse? text with
  | some address => .ok address
  | none => .error (.malformed "invalid socket address syntax")

def read : (option : Opt) → String → Except Misfit option.Value
  | .baseUrl, text => .ok text
  | .config, text => readPath text
  | .timeout, text => readSeconds text
  | .output, text => readLayout text
  | .logLevel, text => .ok text
  | .logFormat, text => readFormat text
  | .file, text => readPath text
  | .assign, text => readAssignment text
  | .listen, text => readListen text
  | .target, text => .ok text
  | .area, text => .ok text

def default? : (option : Opt) → Option option.Value
  | .baseUrl => none
  | .config => none
  | .timeout => none
  | .output => some .table
  | .logLevel => none
  | .logFormat => none
  | .file => none
  | .assign => none
  | .listen => some Gateway.usualListen
  | .target => some Gateway.defaultTarget
  | .area => some Gateway.defaultArea

def isRepeatable (option : Opt) : Bool :=
  option = .assign

def join : (option : Opt) → option.Value → option.Value → option.Value
  | .assign, earlier, later => earlier ++ later
  | .baseUrl, _, later => later
  | .config, _, later => later
  | .timeout, _, later => later
  | .output, _, later => later
  | .logLevel, _, later => later
  | .logFormat, _, later => later
  | .file, _, later => later
  | .listen, _, later => later
  | .target, _, later => later
  | .area, _, later => later

/-! ## Names -/

def name : Opt → String
  | .baseUrl => "base-url"
  | .config => "config"
  | .timeout => "timeout"
  | .output => "output"
  | .logLevel => "log-level"
  | .logFormat => "log-format"
  | .file => "file"
  | .assign => "set"
  | .listen => "listen"
  | .target => "target"
  | .area => "prefix"

def otherNames : Opt → List String
  | .output => ["format"]
  | _ => []

def isNamed (option : Opt) (name : String) : Bool :=
  option.name = name || option.otherNames.contains name

def placeholder : Opt → String
  | .baseUrl => "BASE_URL"
  | .config => "CONFIG"
  | .timeout => "TIMEOUT"
  | .output => "OUTPUT"
  | .logLevel => "LOG_LEVEL"
  | .logFormat => "LOG_FORMAT"
  | .file => "FILE"
  | .assign => "KEY=VALUE"
  | .listen => "LISTEN"
  | .target => "TARGET"
  | .area => "PREFIX"

def shown (option : Opt) : String :=
  s!"--{option.name} <{option.placeholder}>"

def envName? : Opt → Option String
  | .baseUrl => some "CRYNUX_WEBUI_BASE_URL"
  | .config => some "CRYNUX_WEBUI_CONFIG"
  | .timeout => some "CRYNUX_HTTP_TIMEOUT_SECS"
  | .logFormat => some "CRYNUX_LOG_FORMAT"
  | .target => some Gateway.targetVariable
  | _ => none

def about : Opt → String
  | .baseUrl => "API base URL; overrides `base_url` from `--config`"
  | .config => "Web UI `config.json` to read `base_url` from"
  | .timeout => "Request timeout in seconds"
  | .output => "Select output format for commands that render structured data"
  | .logLevel => "Log filter used when `RUST_LOG` is unset"
  | .logFormat =>
    "Log output format; defaults to pretty in debug builds and JSON in release builds"
  | .file => "JSON file holding the settings document"
  | .assign => "Individual `key=value` entries; values are parsed as JSON when possible"
  | .listen => "Address to listen on"
  | .target => "Backend origin requests are forwarded to"
  | .area => "Path prefix to forward"

def defaultText? : Opt → Option String
  | .output => some "table"
  | .listen => some Gateway.defaultListen
  | .target => some Gateway.defaultTarget
  | .area => some Gateway.defaultArea
  | _ => none

def globals : List Opt :=
  [.baseUrl, .config, .timeout, .output, .logLevel, .logFormat]

end Opt

end NodeConsole.CommandLine
