import NodeConsole.CommandLine.Answers
import NodeConsole.CommandLine.Help
/-!
Reading the words that belong to one command. A value is checked only when the words show that it
is complete, and so at the next option or at the end; until then it is pending.
-/

namespace NodeConsole.CommandLine

inductive Stop where
  | fault (fault : Fault)
  | bare (verb : Verb)
  | help (topic : Topic)
  | version
deriving DecidableEq, Repr

structure Environment where
  entries : List (String × String) := []
deriving DecidableEq, Repr

def Environment.get? (environment : Environment) (name : String) : Option String :=
  (environment.entries.find? fun entry => entry.1 = name).map (·.2)

namespace Stop

def hint : String :=
  "\n\nFor more information, try '--help'.\n"

def text (environment : Environment) : Stop → String
  | .fault found => found.message ++ hint
  | .bare verb => (Topic.ofVerb verb).text environment.get?
  | .help topic => topic.text environment.get?
  | .version => versionText

def isAnswer : Stop → Bool
  | .help _ => true
  | .version => true
  | _ => false

def exitCode (stop : Stop) : Nat :=
  if stop.isAnswer then 0 else 2

end Stop

structure Pending where
  option : Opt
  value : Option String
deriving DecidableEq, Repr

structure Level where
  answers : Answers := .empty
  pending : Option Pending := none
  /-- Whether the words have come to the two dashes behind which there are no options. -/
  trailing : Bool := false

namespace Level

/-! ## Values -/

def give (answers : Answers) (option : Opt) (text : String) : Except Fault Answers :=
  if answers.isMentioned option && !option.isRepeatable then .error (.repeated option)
  else
    match option.read text with
    | .error misfit => .error (.ofMisfit option text misfit)
    | .ok value => .ok (answers.add option value)

def settled (level : Level) : Except Fault Answers :=
  match level.pending with
  | none => .ok level.answers
  | some ⟨option, none⟩ => .error (.noValue option)
  | some ⟨option, some text⟩ => give level.answers option text

def awaitsValue (level : Level) : Bool :=
  match level.pending with
  | some ⟨_, none⟩ => true
  | _ => false

/-! ## Words -/

inductive Next where
  | stop (stop : Stop)
  | here (level : Level)
  | below (verb : Verb)
  | explain

def strange (verb : Verb) (level : Level) (word : String) : Fault :=
  if level.trailing && verb.isChildName word then .unexpected word
  else if verb.isGroup then .unknownCommand word
  else .unexpected word

def informed (level : Level) (stop : Stop) : Next :=
  match level.settled with
  | .error fault => .stop (.fault fault)
  | .ok _ => .stop stop

def mention (level : Level) (option : Opt) (attached : Option String) : Next :=
  match level.settled with
  | .error fault => .stop (.fault fault)
  | .ok answers =>
    match attached with
    | none => .here { level with answers, pending := some ⟨option, none⟩ }
    | some text =>
      match give answers option text with
      | .error fault => .stop (.fault fault)
      | .ok answers => .here { level with answers, pending := none }

def information? (verb : Verb) (name : String) : Option Stop :=
  if name = "help" then some (.help (.ofVerb verb))
  else if name = "version" ∧ verb = .main then some .version
  else none

def long (verb : Verb) (level : Level) (name : String) (attached : Option String) : Next :=
  match information? verb name, attached with
  | some stop, none => level.informed stop
  | some _, some value => .stop (.fault (.unexpectedValue ("--" ++ name) value))
  | none, attached =>
    match verb.option? name with
    | none => .stop (.fault (.unexpected ("--" ++ name)))
    | some option => level.mention option attached

def short (verb : Verb) (level : Level) (letter : Char) : Next :=
  if letter = 'h' then level.informed (.help (.ofVerb verb))
  else if letter = 'V' ∧ verb = .main then level.informed .version
  else .stop (.fault (.unexpected (String.ofList ['-', letter])))

def plain (verb : Verb) (level : Level) (word : String) : Next :=
  match level.pending with
  | some ⟨option, none⟩ => .here { level with pending := some ⟨option, some word⟩ }
  | _ => .stop (.fault (level.strange verb word))

def attachedValue? (text : List Char) : Option String :=
  match text.dropWhile (· ≠ '=') with
  | [] => none
  | _ :: value => some (String.ofList value)

def other (verb : Verb) (level : Level) (word : String) : Next :=
  match word.toList with
  | ['-', '-'] => .here { level with trailing := true }
  | '-' :: '-' :: text =>
    level.long verb (String.ofList (text.takeWhile (· ≠ '='))) (attachedValue? text)
  | '-' :: letter :: _ => level.short verb letter
  | _ => level.plain verb word

def next (verb : Verb) (level : Level) (word : String) : Next :=
  if level.trailing then .stop (.fault (level.strange verb word))
  else if level.awaitsValue then level.other verb word
  else if word = helpName ∧ verb.isGroup then .explain
  else
    match verb.child? word with
    | some child => .below child
    | none => level.other verb word

/-! ## The end of the words -/

def askEnvironment (environment : Environment) (answers : Answers) (option : Opt) :
    Except Fault Answers :=
  match answers.given? option, option.envName?.bind environment.get? with
  | some _, _ => .ok answers
  | none, none => .ok answers
  | none, some text =>
    match option.read text with
    | .error misfit => .error (.ofMisfit option text misfit)
    | .ok value => .ok (answers.set option ⟨value, .environment⟩)

def takeUsual (answers : Answers) (option : Opt) : Answers :=
  match answers.given? option, option.default? with
  | none, some value => answers.set option ⟨value, .usual⟩
  | _, _ => answers

def complete (environment : Environment) (verb : Verb) (level : Level) : Except Fault Answers := do
  let answers ← level.settled
  let answers ← verb.options.foldlM (askEnvironment environment) answers
  .ok (verb.options.foldl takeUsual answers)

end Level

end NodeConsole.CommandLine
