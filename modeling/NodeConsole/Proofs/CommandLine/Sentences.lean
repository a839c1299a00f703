import NodeConsole.Proofs.CommandLine.Words
/-!
Command lines as sentences. A command line that is accepted is a row of commands, each with the options that
are mentioned to it, and the values of these make up what is to be done; no other command line is accepted.
-/

namespace NodeConsole.CommandLine

/-! ## Sentences -/

structure Mention where
  option : Opt
  text : String
deriving DecidableEq, Repr

structure Stretch where
  verb : Verb
  mentions : List Mention
deriving DecidableEq, Repr

inductive Sentence : Verb → List String → List Stretch → Prop where
  | done (verb : Verb) : Sentence verb [] [⟨verb, []⟩]
  | closed (verb : Verb) : Sentence verb ["--"] [⟨verb, []⟩]
  | attached {verb : Verb} {word name text : String} {option : Opt} {rest : List String}
      {mentions : List Mention} {stretches : List Stretch} (dashed : dashed? word = some (name, some text))
      (named : verb.option? name = some option) (later : Sentence verb rest (⟨verb, mentions⟩ :: stretches)) :
      Sentence verb (word :: rest) (⟨verb, ⟨option, text⟩ :: mentions⟩ :: stretches)
  | separate {verb : Verb} {word name text : String} {option : Opt} {rest : List String}
      {mentions : List Mention} {stretches : List Stretch} (dashed : dashed? word = some (name, none))
      (named : verb.option? name = some option) (isValue : IsValue text)
      (later : Sentence verb rest (⟨verb, mentions⟩ :: stretches)) :
      Sentence verb (word :: text :: rest) (⟨verb, ⟨option, text⟩ :: mentions⟩ :: stretches)
  | child {verb child : Verb} {word : String} {rest : List String} {stretches : List Stretch}
      (named : verb.child? word = some child) (later : Sentence child rest stretches) :
      Sentence verb (word :: rest) (⟨verb, []⟩ :: stretches)

theorem Sentence.exists_cons {verb : Verb} {words : List String} {stretches : List Stretch}
    (sentence : Sentence verb words stretches) :
    ∃ mentions later, stretches = ⟨verb, mentions⟩ :: later := by
  cases sentence <;> exact ⟨_, _, rfl⟩

/-! ## What sentences say -/

def Mention.tell (said : Answers) (mention : Mention) : Except Fault Answers :=
  Level.give said mention.option mention.text

def Verb.finish (environment : Environment) (verb : Verb) (said : Answers) : Except Fault Answers := do
  let asked ← verb.options.foldlM (Level.askEnvironment environment) said
  .ok (verb.options.foldl Level.takeUsual asked)

def Stretch.answers (environment : Environment) (said : Answers) (stretch : Stretch) :
    Except Fault Answers := do
  stretch.verb.finish environment (← stretch.mentions.foldlM Mention.tell said)

/-- The answers to commands, to the first of which something was said before, and what the last of them is to
do. -/
inductive Carries (environment : Environment) :
    Answers → List Stretch → List Answers → Action → Prop where
  | last {said answers : Answers} {stretch : Stretch} {action : Action}
      (answered : stretch.answers environment said = .ok answers)
      (acts : Action.ofAnswers answers stretch.verb = .ok action) :
      Carries environment said [stretch] [answers] action
  | further {said answers : Answers} {stretch : Stretch} {stretches : List Stretch} {levels : List Answers}
      {action : Action} (answered : stretch.answers environment said = .ok answers)
      (later : Carries environment .empty stretches levels action) :
      Carries environment said (stretch :: stretches) (answers :: levels) action

section

variable {environment : Environment} {verb : Verb} {level after : Level} {word : String}
  {rest words : List String} {said told : Answers} {mention : Mention} {mentions : List Mention}
  {stretches : List Stretch} {levels : List Answers} {action : Action}

theorem Level.complete_eq (settled : level.settled = .ok said) :
    level.complete environment verb = verb.finish environment said := by
  rw [Level.complete, settled]
  rfl

theorem Stretch.answers_cons (tells : mention.tell said = .ok told) :
    Stretch.answers environment said ⟨verb, mention :: mentions⟩ =
      Stretch.answers environment told ⟨verb, mentions⟩ := by
  rw [answers, List.foldlM_cons, tells]
  rfl

/-- What is told first is told before what follows. -/
theorem Carries.cons_iff :
    Carries environment said (⟨verb, mention :: mentions⟩ :: stretches) levels action ↔
      ∃ told, mention.tell said = .ok told ∧
        Carries environment told (⟨verb, mentions⟩ :: stretches) levels action := by
  constructor
  · intro carries
    have tells {answers : Answers}
        (answered : Stretch.answers environment said ⟨verb, mention :: mentions⟩ = .ok answers) :
        ∃ told, mention.tell said = .ok told ∧
          Stretch.answers environment told ⟨verb, mentions⟩ = .ok answers := by
      rcases bind_eq_ok answered with ⟨all, folded, _⟩
      rw [List.foldlM_cons] at folded
      rcases bind_eq_ok folded with ⟨told, tells, _⟩
      rw [Stretch.answers_cons tells] at answered
      exact ⟨told, tells, answered⟩
    cases carries with
    | last answered acts =>
        rcases tells answered with ⟨told, first, others⟩
        exact ⟨told, first, .last others acts⟩
    | further answered later =>
        rcases tells answered with ⟨told, first, others⟩
        exact ⟨told, first, .further others later⟩
  · rintro ⟨told, tells, carries⟩
    cases carries with
    | last answered acts => exact .last ((Stretch.answers_cons tells).trans answered) acts
    | further answered later => exact .further ((Stretch.answers_cons tells).trans answered) later

/-! ## From command lines to sentences -/

/-- What is left of a command line where a command has come to some state: a sentence, the value of the option
before it and a sentence, or nothing behind the two dashes. -/
inductive Resumes (verb : Verb) : Level → List String → Answers → List Stretch → Prop where
  | ready {level : Level} {words : List String} {said : Answers} {stretches : List Stretch}
      (isOpen : level.trailing = false) (settled : level.settled = .ok said)
      (sentence : Sentence verb words stretches) : Resumes verb level words said stretches
  | awaiting {level : Level} {option : Opt} {text : String} {rest : List String} {mentions : List Mention}
      {stretches : List Stretch} (isOpen : level.trailing = false)
      (awaits : level.pending = some ⟨option, none⟩) (isValue : IsValue text)
      (sentence : Sentence verb rest (⟨verb, mentions⟩ :: stretches)) :
      Resumes verb level (text :: rest) level.answers (⟨verb, ⟨option, text⟩ :: mentions⟩ :: stretches)
  | closed {level : Level} {said : Answers} (isClosed : level.trailing = true)
      (settled : level.settled = .ok said) : Resumes verb level [] said [⟨verb, []⟩]

theorem settled_awaiting {option : Opt} (awaits : level.pending = some ⟨option, none⟩) :
    level.settled ≠ .ok said := by
  rw [Level.settled, awaits]
  exact fun same => by cases same

theorem Resumes.step (isOpen : level.trailing = false) (goes : Level.Goes verb level word after)
    (resumes : Resumes verb after rest said stretches)
    (carries : Carries environment said stretches levels action) :
    ∃ said stretches, Resumes verb level (word :: rest) said stretches ∧
      Carries environment said stretches levels action := by
  cases goes with
  | closing =>
      cases resumes with
      | ready isOpen => cases isOpen
      | awaiting isOpen => cases isOpen
      | closed _ settled => exact ⟨_, _, .ready isOpen settled (.closed verb), carries⟩
  | attached dashed named settled given =>
      cases resumes with
      | ready _ nothing sentence =>
          cases nothing
          rcases sentence.exists_cons with ⟨mentions, later, rfl⟩
          exact ⟨_, _, .ready isOpen settled (.attached dashed named sentence),
            Carries.cons_iff.mpr ⟨_, given, carries⟩⟩
      | awaiting _ awaits => cases awaits
      | closed isClosed => exact absurd (isOpen.symm.trans isClosed) Bool.false_ne_true
  | bare dashed named settled =>
      cases resumes with
      | ready _ none => exact absurd none (settled_awaiting rfl)
      | awaiting _ awaits isValue sentence =>
          cases awaits
          exact ⟨_, _, .ready isOpen settled (.separate dashed named isValue sentence), carries⟩
      | closed isClosed => exact absurd (isOpen.symm.trans isClosed) Bool.false_ne_true
  | value awaits isValue =>
      cases resumes with
      | ready _ settled sentence =>
          rcases sentence.exists_cons with ⟨mentions, later, rfl⟩
          exact ⟨_, _, .awaiting isOpen awaits isValue sentence, Carries.cons_iff.mpr ⟨_, settled, carries⟩⟩
      | awaiting _ awaits => cases awaits
      | closed isClosed => exact absurd (isOpen.symm.trans isClosed) Bool.false_ne_true

theorem of_complete_eq_ok {answers : Answers} (completed : level.complete environment verb = .ok answers) :
    ∃ said, level.settled = .ok said ∧ Stretch.answers environment said ⟨verb, []⟩ = .ok answers := by
  have settles := completed
  rw [Level.complete] at settles
  rcases bind_eq_ok settles with ⟨said, settled, _⟩
  rw [Level.complete_eq settled] at completed
  exact ⟨said, settled, completed⟩

theorem exists_resumes (read : readLevels environment verb level words = .ok (levels, action)) :
    ∃ said stretches, Resumes verb level words said stretches ∧
      Carries environment said stretches levels action := by
  -- By the recursion over the words: each of them either leads on or to a command below.
  fun_induction readLevels environment verb level words generalizing levels action with
  | case1 verb level =>
      rcases bind_eq_ok read with ⟨answers, completed, behind⟩
      rcases bind_eq_ok behind with ⟨made, acts, same⟩
      cases same
      rcases of_complete_eq_ok (of_mapError_eq_ok completed) with ⟨said, settled, answered⟩
      cases trailing : level.trailing with
      | false => exact ⟨said, _, .ready trailing settled (.done verb), .last answered acts⟩
      | true => exact ⟨said, _, .closed trailing settled, .last answered acts⟩
  | case2 => cases read
  | case3 verb level word rest after goesOn induction =>
      rcases Level.of_next_eq_here goesOn with ⟨isOpen, goes⟩
      rcases induction read with ⟨said, stretches, resumes, carries⟩
      exact resumes.step isOpen goes carries
  | case4 => cases read
  | case5 => cases read
  | case6 verb level word rest child below induction =>
      rcases bind_eq_ok read with ⟨⟨found, made⟩, readBelow, behind⟩
      rcases bind_eq_ok behind with ⟨answers, completed, same⟩
      cases same
      rcases Level.of_next_eq_below below with ⟨isOpen, _, named⟩
      rcases of_complete_eq_ok (of_mapError_eq_ok completed) with ⟨said, settled, answered⟩
      rcases induction readBelow with ⟨first, stretches, resumes, carries⟩
      cases resumes with
      | ready _ nothing sentence =>
          cases nothing
          exact ⟨said, _, .ready isOpen settled (.child named sentence), .further answered carries⟩
      | awaiting _ awaits => cases awaits
      | closed isClosed => cases isClosed

/-! ## From sentences to command lines -/

theorem readLevels_of_goes (isOpen : level.trailing = false) (goes : Level.Goes verb level word after) :
    readLevels environment verb level (word :: rest) = readLevels environment verb after rest := by
  rw [readLevels, goes.next isOpen]

theorem readLevels_done (settled : level.settled = .ok said)
    (carries : Carries environment said [⟨verb, []⟩] levels action) :
    readLevels environment verb level [] = .ok (levels, action) := by
  cases carries with
  | @last _ answers _ _ answered acts =>
      have completed : level.complete environment verb = .ok answers := (Level.complete_eq settled).trans answered
      have acts : Action.ofAnswers answers verb = .ok action := acts
      rw [readLevels, completed]
      change (Action.ofAnswers answers verb >>= fun made => .ok ([answers], made)) = .ok ([answers], action)
      rw [acts]
      rfl
  | further _ later => cases later

/-- A sentence is read wherever a command can go on with it. -/
theorem Sentence.read (sentence : Sentence verb words stretches)
    (carries : Carries environment said stretches levels action) (isOpen : level.trailing = false)
    (ready : level.awaitsValue = false) (settled : level.settled = .ok said) :
    readLevels environment verb level words = .ok (levels, action) := by
  induction sentence generalizing level said levels with
  | done => exact readLevels_done settled carries
  | closed =>
      rw [readLevels_of_goes isOpen .closing]
      exact readLevels_done settled carries
  | attached dashed named later induction =>
      rcases Carries.cons_iff.mp carries with ⟨told, tells, carries⟩
      rw [readLevels_of_goes isOpen (.attached dashed named settled tells)]
      exact induction carries isOpen rfl rfl
  | @separate verb _ _ text option _ _ _ dashed named isValue later induction =>
      rcases Carries.cons_iff.mp carries with ⟨told, tells, carries⟩
      have waits : Level.Goes verb { level with answers := said, pending := some ⟨option, none⟩ } text
          { level with answers := said, pending := some ⟨option, some text⟩ } := .value rfl isValue
      rw [readLevels_of_goes isOpen (.bare dashed named settled), readLevels_of_goes (by exact isOpen) waits]
      exact induction carries isOpen rfl tells
  | @child _ child _ rest _ named later induction =>
      cases carries with
      | last => cases later
      | @further _ _ _ _ below _ answered carries =>
          have completed := (Level.complete_eq settled).trans answered
          have readBelow : readLevels environment child {} rest = .ok (below, action) :=
            induction carries rfl rfl rfl
          rw [readLevels, Level.next_of_child isOpen ready named]
          dsimp only
          rw [readBelow, completed]
          rfl

/-- The command lines that are accepted are the sentences that carry something out. -/
theorem parse_eq_ok_iff {invocation : Invocation} :
    parse environment words = .ok invocation ↔
      ∃ stretches levels, Sentence .main words stretches ∧
        Carries environment .empty stretches levels invocation.action ∧ invocation.globals = .merge levels := by
  constructor
  · intro parsed
    rw [parse] at parsed
    rcases bind_eq_ok parsed with ⟨⟨levels, action⟩, read, same⟩
    cases same
    rcases exists_resumes read with ⟨said, stretches, resumes, carries⟩
    cases resumes with
    | ready _ nothing sentence =>
        cases nothing
        exact ⟨stretches, levels, sentence, carries, rfl⟩
    | awaiting _ awaits => cases awaits
    | closed isClosed => cases isClosed
  · rintro ⟨stretches, levels, sentence, carries, merged⟩
    have start : readLevels environment .main {} words = .ok (levels, invocation.action) :=
      sentence.read carries rfl rfl rfl
    have same : invocation = ⟨.merge levels, invocation.action⟩ := by rw [← merged]
    rw [parse, start]
    exact congrArg Except.ok same.symm

end

end NodeConsole.CommandLine
