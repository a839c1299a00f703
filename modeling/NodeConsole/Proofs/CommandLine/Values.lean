import NodeConsole.CommandLine.Invocation
import NodeConsole.Proofs.Results
/-!
The values that options can have. A value is read from a text, is the usual one, or is joined from
values of the same option; what holds of all of these holds of every value of a command line that was
read.
-/

namespace NodeConsole.CommandLine

structure Inherited (Holds : (option : Opt) → option.Value → Prop) : Prop where
  read : ∀ option text value, option.read text = .ok value → Holds option value
  usual : ∀ option value, option.default? = some value → Holds option value
  join : ∀ option earlier later, Holds option earlier → Holds option later →
    Holds option (option.join earlier later)

variable {Holds : (option : Opt) → option.Value → Prop}

/-! ## Answers -/

def Answers.Keep (Holds : (option : Opt) → option.Value → Prop) (answers : Answers) : Prop :=
  ∀ option given, answers.given? option = some given → Holds option given.value

namespace Answers.Keep

theorem empty : Answers.empty.Keep Holds := by
  intro option given found
  cases found

theorem set {answers : Answers} (keep : answers.Keep Holds) {option : Opt} {given : Given option}
    (holds : Holds option given.value) : (answers.set option given).Keep Holds := by
  intro other found same
  by_cases equal : option = other
  · subst equal
    rw [given?_set_same, Option.some.injEq] at same
    exact same ▸ holds
  · rw [given?_set_other _ _ _ _ equal] at same
    exact keep other found same

theorem add (inherited : Inherited Holds) {answers : Answers} (keep : answers.Keep Holds)
    {option : Opt} {value : option.Value} (holds : Holds option value) :
    (answers.add option value).Keep Holds := by
  rw [Answers.add]
  split
  · next earlier found => exact keep.set (inherited.join _ _ _ (keep option _ found) holds)
  · exact keep.set holds

theorem value? {answers : Answers} (keep : answers.Keep Holds) {option : Opt}
    {value : option.Value} (found : answers.value? option = some value) : Holds option value := by
  rcases Option.map_eq_some_iff.mp found with ⟨given, present, rfl⟩
  exact keep option given present

end Answers.Keep

/-! ## One command -/

namespace Level

theorem keep_give (inherited : Inherited Holds) {answers result : Answers} {option : Opt}
    {text : String} (keep : answers.Keep Holds) (given : give answers option text = .ok result) :
    result.Keep Holds := by
  rw [give] at given
  split at given
  · cases given
  · split at given
    · cases given
    · next value read =>
      cases given
      exact keep.add inherited (inherited.read _ _ _ read)

theorem keep_settled (inherited : Inherited Holds) {level : Level} {result : Answers}
    (keep : level.answers.Keep Holds) (settled : level.settled = .ok result) :
    result.Keep Holds := by
  rw [Level.settled] at settled
  split at settled
  · cases settled
    exact keep
  · cases settled
  · exact keep_give inherited keep settled

theorem informed_ne_here {level after : Level} {stop : Stop} : level.informed stop ≠ .here after := by
  rw [informed]
  split <;> exact fun same => by cases same

theorem keep_mention (inherited : Inherited Holds) {level after : Level} {option : Opt}
    {attached : Option String} (keep : level.answers.Keep Holds)
    (goesOn : level.mention option attached = .here after) : after.answers.Keep Holds := by
  rw [mention] at goesOn
  split at goesOn
  · cases goesOn
  · next answers settled =>
    have kept := keep_settled inherited keep settled
    split at goesOn
    · cases goesOn
      exact kept
    · split at goesOn
      · cases goesOn
      · next given =>
        cases goesOn
        exact keep_give inherited kept given

theorem keep_long (inherited : Inherited Holds) {verb : Verb} {level after : Level}
    {name : String} {attached : Option String} (keep : level.answers.Keep Holds)
    (goesOn : level.long verb name attached = .here after) : after.answers.Keep Holds := by
  rw [long.eq_def] at goesOn
  cases asksFor : information? verb name with
  | some stop =>
      cases attached with
      | none =>
          rw [asksFor] at goesOn
          exact absurd goesOn informed_ne_here
      | some value =>
          rw [asksFor] at goesOn
          cases goesOn
  | none =>
      rw [asksFor] at goesOn
      dsimp only at goesOn
      split at goesOn
      · cases goesOn
      · exact keep_mention inherited keep goesOn

theorem short_ne_here {verb : Verb} {level after : Level} {letter : Char} :
    level.short verb letter ≠ .here after := by
  rw [short]
  split
  · exact informed_ne_here
  · split
    · exact informed_ne_here
    · exact fun same => by cases same

theorem keep_plain {verb : Verb} {level after : Level} {word : String}
    (keep : level.answers.Keep Holds) (goesOn : level.plain verb word = .here after) :
    after.answers.Keep Holds := by
  rw [plain] at goesOn
  split at goesOn
  · cases goesOn
    exact keep
  · cases goesOn

theorem keep_other (inherited : Inherited Holds) {verb : Verb} {level after : Level}
    {word : String} (keep : level.answers.Keep Holds)
    (goesOn : level.other verb word = .here after) : after.answers.Keep Holds := by
  rw [other] at goesOn
  split at goesOn
  · cases goesOn
    exact keep
  · exact keep_long inherited keep goesOn
  · exact absurd goesOn short_ne_here
  · exact keep_plain keep goesOn

theorem keep_next (inherited : Inherited Holds) {verb : Verb} {level after : Level} {word : String}
    (keep : level.answers.Keep Holds) (goesOn : level.next verb word = .here after) :
    after.answers.Keep Holds := by
  rw [next] at goesOn
  split at goesOn
  · cases goesOn
  · split at goesOn
    · exact keep_other inherited keep goesOn
    · split at goesOn
      · cases goesOn
      · split at goesOn
        · cases goesOn
        · exact keep_other inherited keep goesOn

theorem keep_askEnvironment (inherited : Inherited Holds) {environment : Environment}
    {answers result : Answers} {option : Opt} (keep : answers.Keep Holds)
    (asked : askEnvironment environment answers option = .ok result) : result.Keep Holds := by
  rw [askEnvironment] at asked
  split at asked
  · cases asked
    exact keep
  · cases asked
    exact keep
  · split at asked
    · cases asked
    · next value read =>
      cases asked
      exact keep.set (inherited.read _ _ _ read)

theorem keep_foldlM_askEnvironment (inherited : Inherited Holds) {environment : Environment}
    {options : List Opt} {answers result : Answers} (keep : answers.Keep Holds)
    (asked : options.foldlM (askEnvironment environment) answers = .ok result) :
    result.Keep Holds := by
  induction options generalizing answers with
  | nil =>
      cases asked
      exact keep
  | cons option rest induction =>
      rw [List.foldlM_cons] at asked
      rcases bind_eq_ok asked with ⟨between, first, others⟩
      exact induction (keep_askEnvironment inherited keep first) others

theorem keep_takeUsual (inherited : Inherited Holds) {answers : Answers} {option : Opt}
    (keep : answers.Keep Holds) : (takeUsual answers option).Keep Holds := by
  rw [takeUsual]
  split
  · next usual => exact keep.set (inherited.usual _ _ usual)
  · exact keep

theorem keep_foldl_takeUsual (inherited : Inherited Holds) (options : List Opt)
    {answers : Answers} (keep : answers.Keep Holds) :
    (options.foldl takeUsual answers).Keep Holds := by
  induction options generalizing answers with
  | nil => exact keep
  | cons option rest induction => exact induction (keep_takeUsual inherited keep)

theorem keep_complete (inherited : Inherited Holds) {environment : Environment} {verb : Verb}
    {level : Level} {result : Answers} (keep : level.answers.Keep Holds)
    (completed : level.complete environment verb = .ok result) : result.Keep Holds := by
  rw [complete] at completed
  rcases bind_eq_ok completed with ⟨said, settled, behind⟩
  rcases bind_eq_ok behind with ⟨asked, environmentAsked, same⟩
  cases same
  exact keep_foldl_takeUsual inherited _
    (keep_foldlM_askEnvironment inherited (keep_settled inherited keep settled) environmentAsked)

end Level

/-! ## Whole command lines -/

theorem keep_readLevels (inherited : Inherited Holds) {environment : Environment} {verb : Verb}
    {level : Level} {words : List String} {levels : List Answers} {action : Action}
    (keep : level.answers.Keep Holds)
    (read : readLevels environment verb level words = .ok (levels, action)) :
    ∃ answers last, answers.Keep Holds ∧ Action.ofAnswers answers last = .ok action := by
  -- The words lead on inside of a command or to one below it; only the last command acts.
  fun_induction readLevels environment verb level words generalizing levels action with
  | case1 verb level =>
      rcases bind_eq_ok read with ⟨answers, completed, behind⟩
      rcases bind_eq_ok behind with ⟨made, acted, same⟩
      cases same
      exact ⟨answers, verb, Level.keep_complete inherited keep (of_mapError_eq_ok completed), acted⟩
  | case2 => cases read
  | case3 verb level word rest after goesOn induction =>
      exact induction (Level.keep_next inherited keep goesOn) read
  | case4 => cases read
  | case5 => cases read
  | case6 verb level word rest child below induction =>
      rcases bind_eq_ok read with ⟨⟨found, made⟩, readBelow, behind⟩
      rcases bind_eq_ok behind with ⟨answers, _, same⟩
      cases same
      exact induction .empty readBelow

def AssignsSome : (option : Opt) → option.Value → Prop
  | .assign, assignments => assignments ≠ []
  | _, _ => True

theorem inherited_assignsSome : Inherited AssignsSome where
  read := by
    intro option text value read
    cases option with
    | assign =>
        rw [Opt.read, Opt.readAssignment] at read
        split at read
        · cases read
          exact List.cons_ne_nil _ _
        · cases read
    | _ => trivial
  usual := by
    intro option value usual
    cases option with
    | assign => cases usual
    | _ => trivial
  join := by
    intro option earlier later some _
    cases option with
    | assign => exact List.append_ne_nil_of_left_ne_nil some later
    | _ => trivial

theorem ofSet_of_ofAnswers {answers : Answers} {verb : Verb} {source : Console.Source}
    (made : Action.ofAnswers answers verb = .ok (.set source)) :
    Action.ofSet answers = .ok (.set source) := by
  rw [Action.ofAnswers.eq_def] at made
  split at made
  · cases made
  · exact made
  · cases made
  · split at made <;> cases made

/-- A document that is to be stored comes from a file or from assignments, and never from both. -/
theorem source_of_parse {environment : Environment} {words : List String}
    {invocation : Invocation} {source : Console.Source}
    (parsed : parse environment words = .ok invocation) (stores : invocation.action = .set source) :
    (∃ path, source = ⟨some path, []⟩) ∨
      ∃ assignments, source = ⟨none, assignments⟩ ∧ assignments ≠ [] := by
  rw [parse] at parsed
  rcases bind_eq_ok parsed with ⟨⟨levels, action⟩, read, same⟩
  cases same
  rcases keep_readLevels inherited_assignsSome .empty read with ⟨answers, last, keep, made⟩
  dsimp only at stores
  rw [stores] at made
  have fromSet := ofSet_of_ofAnswers made
  rw [Action.ofSet] at fromSet
  cases file : answers.value? .file with
  | none =>
      cases assignments : answers.value? .assign with
      | none =>
          rw [file, assignments] at fromSet
          cases fromSet
      | some assignments' =>
          rw [file, assignments] at fromSet
          cases fromSet
          exact .inr ⟨_, rfl, keep.value? assignments⟩
  | some path =>
      cases assignments : answers.value? .assign with
      | none =>
          rw [file, assignments] at fromSet
          cases fromSet
          exact .inl ⟨path, rfl⟩
      | some assignments' =>
          rw [file, assignments] at fromSet
          dsimp only at fromSet
          split at fromSet <;> cases fromSet

end NodeConsole.CommandLine
