import NodeConsole.CommandLine.Level
import NodeConsole.Console.Payload
/-!
Reading a whole command line: the words lead from one command to the next, and the last one says
what is to be done.
-/

namespace NodeConsole.CommandLine

def topicOf : Verb → List String → Except Fault Topic
  | verb, [] => .ok (.ofVerb verb)
  | verb, name :: rest =>
    if name = helpName ∧ verb.isGroup then
      match rest with
      | [] => .ok (.ofHelp verb)
      | further :: _ => .error (.unknownCommand further)
    else
      match verb.child? name with
      | some child => topicOf child rest
      | none => .error (.unknownCommand name)

inductive Action where
  | get
  | set (source : Console.Source)
  | proxy (listen : Gateway.Listen) (target : Given .target) (area : String)

namespace Action

def ofSet (answers : Answers) : Except Stop Action :=
  match answers.value? .file, answers.value? .assign with
  | some _, some _ =>
    if answers.mentioned.idxOf .file < answers.mentioned.idxOf .assign then
      .error (.fault (.conflict .file .assign))
    else .error (.fault (.conflict .assign .file))
  | none, none => .error (.fault (.missing .file))
  | file, assignments => .ok (.set ⟨file, assignments.getD []⟩)

def ofProxy (answers : Answers) : Action :=
  .proxy ((answers.value? .listen).getD Gateway.usualListen)
    ((answers.given? .target).getD ⟨Gateway.defaultTarget, .usual⟩)
    ((answers.value? .area).getD Gateway.defaultArea)

/-- What a command is to do with its answers. A command that cannot be run itself does nothing:
where somebody gave it a value, a command is missing. -/
def ofAnswers (answers : Answers) : Verb → Except Stop Action
  | .get => .ok .get
  | .set => ofSet answers
  | .proxy => .ok (ofProxy answers)
  | verb =>
    if verb.options.any answers.isExplicit then .error (.fault (.noCommand verb))
    else .error (.bare verb)

end Action

/-- Read the words of a command: the answers to it and to the commands below it, and what the last
of them is to do. Faults below come first. -/
def readLevels (environment : Environment) :
    Verb → Level → List String → Except Stop (List Answers × Action)
  | verb, level, [] => do
    let answers ← (level.complete environment verb).mapError .fault
    .ok ([answers], ← Action.ofAnswers answers verb)
  | verb, level, word :: rest =>
    match level.next verb word with
    | .stop stop => .error stop
    | .here level => readLevels environment verb level rest
    | .explain =>
      match topicOf verb rest with
      | .ok topic => .error (.help topic)
      | .error fault => .error (.fault fault)
    | .below child => do
      let (levels, action) ← readLevels environment child {} rest
      let answers ← (level.complete environment verb).mapError .fault
      .ok (answers :: levels, action)

structure Invocation where
  globals : Answers
  action : Action

def parse (environment : Environment) (words : List String) : Except Stop Invocation := do
  let (levels, action) ← readLevels environment .main {} words
  .ok ⟨.merge levels, action⟩

end NodeConsole.CommandLine
