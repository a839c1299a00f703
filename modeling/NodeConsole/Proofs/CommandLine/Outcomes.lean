import NodeConsole.Proofs.CommandLine.Sentences
/-!
Options one at a time. What comes out for an option depends on the texts that are given to it and on nothing
that is said about the others, so a command is answered exactly if something comes out for every option.
-/

namespace NodeConsole.CommandLine

/-! ## Steps that change one option -/

/-- Steps from answers to answers that change what there is for one option each, in a way that depends on
nothing else, as long as the answers have some property. -/
structure Local {ι : Type} (option : ι → Opt) (Holds : Answers → Prop)
    (step : Answers → ι → Except Fault Answers)
    (change : (option : Opt) → Option (Given option) → ι → Except Fault (Option (Given option))) : Prop where
  keeps : ∀ {before after item}, Holds before → step before item = .ok after → Holds after
  changes : ∀ {before after item}, Holds before → step before item = .ok after →
    change (option item) (before.given? (option item)) item = .ok (after.given? (option item))
  leaves : ∀ {before after item other}, Holds before → step before item = .ok after → option item ≠ other →
    after.given? other = before.given? other
  possible : ∀ {before item given}, Holds before →
    change (option item) (before.given? (option item)) item = .ok given → ∃ after, step before item = .ok after

namespace Local

variable {ι : Type} {option : ι → Opt} {Holds : Answers → Prop} {step : Answers → ι → Except Fault Answers}
  {change : (option : Opt) → Option (Given option) → ι → Except Fault (Option (Given option))}
  {before after : Answers}

/-- What a run of steps does to an option is done by those of them that are about it. -/
theorem foldlM_eq_ok (steps : Local option Holds step change) {items : List ι} (holds : Holds before)
    (run : items.foldlM step before = .ok after) :
    Holds after ∧ ∀ other, (items.filter (option · = other)).foldlM (change other) (before.given? other) =
      .ok (after.given? other) := by
  induction items generalizing before with
  | nil =>
      cases run
      exact ⟨holds, fun _ => rfl⟩
  | cons item rest induction =>
      rw [List.foldlM_cons] at run
      rcases bind_eq_ok run with ⟨between, stepped, others⟩
      rcases induction (steps.keeps holds stepped) others with ⟨held, each⟩
      refine ⟨held, fun other => ?_⟩
      by_cases same : option item = other
      · subst same
        rw [List.filter_cons_of_pos (by simp), List.foldlM_cons, steps.changes holds stepped]
        exact each (option item)
      · rw [List.filter_cons_of_neg (by simpa using same), ← steps.leaves holds stepped same]
        exact each other

theorem exists_foldlM (steps : Local option Holds step change) {items : List ι} (holds : Holds before)
    (each : ∀ other, ∃ given,
      (items.filter (option · = other)).foldlM (change other) (before.given? other) = .ok given) :
    ∃ after, items.foldlM step before = .ok after := by
  induction items generalizing before with
  | nil => exact ⟨before, rfl⟩
  | cons item rest induction =>
      rcases each (option item) with ⟨given, ran⟩
      rw [List.filter_cons_of_pos (by simp), List.foldlM_cons] at ran
      rcases bind_eq_ok ran with ⟨changed, first, later⟩
      rcases steps.possible holds first with ⟨between, stepped⟩
      have reached := first.symm.trans (steps.changes holds stepped)
      cases reached
      rw [List.foldlM_cons, stepped]
      apply induction (steps.keeps holds stepped)
      intro other
      by_cases same : option item = other
      · subst same
        exact ⟨given, later⟩
      · rcases each other with ⟨found, ran⟩
        rw [List.filter_cons_of_neg (by simpa using same), ← steps.leaves holds stepped same] at ran
        exact ⟨found, ran⟩

end Local

/-! ## What is said about an option -/

namespace Opt

def hear (option : Opt) (given : Option (Given option)) (text : String) :
    Except Fault (Option (Given option)) :=
  if given.isSome && !option.isRepeatable then .error (.repeated option)
  else
    match option.read text with
    | .error misfit => .error (.ofMisfit option text misfit)
    | .ok value =>
      match given with
      | some ⟨earlier, _⟩ => .ok (some ⟨option.join earlier value, .words⟩)
      | none => .ok (some ⟨value, .words⟩)

def ask (environment : Environment) (option : Opt) (given : Option (Given option)) :
    Except Fault (Option (Given option)) :=
  match given, option.envName?.bind environment.get? with
  | some given, _ => .ok (some given)
  | none, none => .ok none
  | none, some text =>
    match option.read text with
    | .error misfit => .error (.ofMisfit option text misfit)
    | .ok value => .ok (some ⟨value, .environment⟩)

def orUsual (option : Opt) (given : Option (Given option)) : Option (Given option) :=
  given.or (option.default?.map (⟨·, .usual⟩))

def within (option : Opt) (verb : Verb)
    (change : Option (Given option) → Except Fault (Option (Given option))) (given : Option (Given option)) :
    Except Fault (Option (Given option)) :=
  if option ∈ verb.options then change given else .ok given

def settle (option : Opt) (environment : Environment) (verb : Verb) (given : Option (Given option)) :
    Except Fault (Option (Given option)) := do
  let asked ← option.within verb (option.ask environment) given
  option.within verb (fun given => .ok (option.orUsual given)) asked

def outcome (option : Opt) (environment : Environment) (verb : Verb) (texts : List String) :
    Except Fault (Option (Given option)) := do
  option.settle environment verb (← texts.foldlM option.hear none)

end Opt

theorem Opt.settle_eq {option : Opt} {environment : Environment} {verb : Verb} (given : Option (Given option)) :
    option.settle environment verb given =
      if option ∈ verb.options then (option.ask environment given).map option.orUsual else .ok given := by
  simp only [settle, within]
  split
  · cases option.ask environment given <;> rfl
  · rfl

structure Spoken (answers : Answers) : Prop where
  mentioned : ∀ option, answers.isMentioned option = (answers.given? option).isSome
  words : ∀ option given, answers.given? option = some given → given.origin = .words

theorem spoken_empty : Spoken .empty where
  mentioned _ := rfl
  words _ _ none := by cases none

theorem Spoken.set {answers : Answers} (spoken : Spoken answers) (option : Opt) (value : option.Value) :
    Spoken (answers.set option ⟨value, .words⟩) where
  mentioned other := by
    have before := spoken.mentioned other
    rw [Answers.isMentioned] at before ⊢
    by_cases same : option = other
    · subst same
      rw [Answers.given?_set_same, Answers.set]
      by_cases listed : option ∈ answers.mentioned <;> simp [listed]
    · rw [Answers.given?_set_other _ _ _ _ same, ← before, Answers.set]
      by_cases listed : option ∈ answers.mentioned <;> simp [listed, Ne.symm same]
  words other given found := by
    by_cases same : option = other
    · subst same
      rw [Answers.given?_set_same] at found
      cases found
      rfl
    · rw [Answers.given?_set_other _ _ _ _ same] at found
      exact spoken.words other given found

section

variable {environment : Environment} {answers after : Answers} {option : Opt} {text : String}

theorem Opt.of_hear_eq_ok {before given : Option (Given option)} (heard : option.hear before text = .ok given) :
    ∃ value, given = some ⟨value, .words⟩ := by
  rw [hear] at heard
  split at heard
  · cases heard
  · split at heard
    · cases heard
    · split at heard <;>
      · cases heard
        exact ⟨_, rfl⟩

/-- Giving an option a value puts in place what is heard of it. -/
theorem Spoken.give_eq (spoken : Spoken answers) :
    Level.give answers option text =
      (option.hear (answers.given? option) text).map fun given => given.elim answers (answers.set option) := by
  rw [Level.give, Opt.hear, spoken.mentioned]
  split
  · rfl
  · cases read : option.read text with
    | error misfit => rfl
    | ok value =>
        dsimp only
        rw [Answers.add]
        cases found : answers.given? option with
        | none => rfl
        | some given =>
            rcases given with ⟨earlier, origin⟩
            have isWords : origin = .words := spoken.words option _ found
            subst isWords
            rfl

theorem Spoken.of_give_eq_ok (spoken : Spoken answers) (given : Level.give answers option text = .ok after) :
    ∃ value, option.hear (answers.given? option) text = .ok (some ⟨value, .words⟩) ∧
      after = answers.set option ⟨value, .words⟩ := by
  rw [spoken.give_eq] at given
  rcases of_map_eq_ok given with ⟨heard, hears, same⟩
  rcases Opt.of_hear_eq_ok hears with ⟨value, rfl⟩
  exact ⟨value, hears, same⟩

theorem local_tell : Local Mention.option Spoken Mention.tell fun option given mention =>
    option.hear given mention.text where
  keeps spoken told := by
    rcases spoken.of_give_eq_ok told with ⟨value, _, rfl⟩
    exact spoken.set _ value
  changes spoken told := by
    rcases spoken.of_give_eq_ok told with ⟨value, hears, rfl⟩
    rw [hears, Answers.given?_set_same]
  leaves spoken told different := by
    rcases spoken.of_give_eq_ok told with ⟨value, _, rfl⟩
    exact Answers.given?_set_other _ _ _ _ different
  possible spoken hears := by
    rw [Mention.tell, spoken.give_eq, hears]
    exact ⟨_, rfl⟩

theorem of_askEnvironment_eq_ok (asked : Level.askEnvironment environment answers option = .ok after) :
    option.ask environment (answers.given? option) = .ok (after.given? option) ∧
      ∀ other, option ≠ other → after.given? other = answers.given? other := by
  rw [Level.askEnvironment] at asked
  split at asked
  · next found =>
    cases asked
    rw [found]
    exact ⟨rfl, fun _ _ => rfl⟩
  · next found silent =>
    cases asked
    rw [Opt.ask.eq_def, found, silent]
    exact ⟨rfl, fun _ _ => rfl⟩
  · next text found told =>
    split at asked
    · cases asked
    · next value read =>
      cases asked
      rw [Opt.ask.eq_def, found, told]
      simp only [read, Answers.given?_set_same, true_and]
      exact fun other different => Answers.given?_set_other _ _ _ _ different

theorem exists_askEnvironment {given : Option (Given option)}
    (asked : option.ask environment (answers.given? option) = .ok given) :
    ∃ after, Level.askEnvironment environment answers option = .ok after := by
  rw [Level.askEnvironment]
  split
  · exact ⟨_, rfl⟩
  · exact ⟨_, rfl⟩
  · next text found told =>
    split
    · next misread =>
      rw [Opt.ask.eq_def, found, told] at asked
      simp only [misread] at asked
      cases asked
    · exact ⟨_, rfl⟩

theorem local_askEnvironment (environment : Environment) :
    Local id (fun _ => True) (Level.askEnvironment environment) fun option given _ =>
      option.ask environment given where
  keeps _ _ := trivial
  changes _ asked := (of_askEnvironment_eq_ok asked).1
  leaves _ asked different := (of_askEnvironment_eq_ok asked).2 _ different
  possible _ asked := exists_askEnvironment asked

theorem local_takeUsual :
    Local id (fun _ => True) (fun answers option => .ok (Level.takeUsual answers option)) fun option given _ =>
      .ok (option.orUsual given) where
  keeps _ _ := trivial
  changes := by
    rintro before _ option - ⟨⟩
    rw [Level.takeUsual, Opt.orUsual, id]
    split
    · next value found usual =>
      rw [found, usual, Answers.given?_set_same]
      rfl
    · next unusual =>
      cases found : before.given? option with
      | some given => rfl
      | none =>
          cases usual : option.default? with
          | none => rfl
          | some value => exact absurd usual (unusual value found)
  leaves := by
    rintro before _ option other - ⟨⟩ different
    rw [Level.takeUsual]
    split
    · exact Answers.given?_set_other _ _ _ _ different
    · rfl
  possible _ _ := ⟨_, rfl⟩

/-! ## What comes out for an option -/

def textsOf (option : Opt) (mentions : List Mention) : List String :=
  (mentions.filter (·.option = option)).map Mention.text

theorem foldlM_hear_textsOf (mentions : List Mention) (given : Option (Given option)) :
    (textsOf option mentions).foldlM option.hear given =
      (mentions.filter (·.option = option)).foldlM (fun given mention => option.hear given mention.text) given := by
  rw [textsOf, List.foldlM_map]

theorem Verb.nodup_options (verb : Verb) : verb.options.Nodup := by
  cases verb <;> decide

theorem Verb.filter_options (verb : Verb) (option : Opt) :
    verb.options.filter (id · = option) = if option ∈ verb.options then [option] else [] := by
  have counted : verb.options.filter (id · = option) = List.replicate (verb.options.count option) option :=
    List.filter_eq option
  rw [counted, verb.nodup_options.count]
  split <;> rfl

theorem Opt.foldlM_within {verb : Verb} {change : Option (Given option) → Except Fault (Option (Given option))}
    (given : Option (Given option)) :
    (verb.options.filter (id · = option)).foldlM (fun given _ => change given) given =
      option.within verb change given := by
  rw [Verb.filter_options, within]
  split
  · exact bind_pure _
  · rfl

theorem Verb.finish_eq (verb : Verb) (said : Answers) :
    verb.finish environment said = (verb.options.foldlM (Level.askEnvironment environment) said >>= fun asked =>
      verb.options.foldlM (fun answers option => .ok (Level.takeUsual answers option)) asked) := by
  have usual (asked : Answers) :
      verb.options.foldlM (fun answers option => .ok (Level.takeUsual answers option)) asked =
        (Except.ok (verb.options.foldl Level.takeUsual asked) : Except Fault Answers) := List.foldlM_pure
  simp only [Verb.finish, usual]

theorem Verb.of_finish_eq_ok {verb : Verb} {said answers : Answers}
    (finished : verb.finish environment said = .ok answers) (option : Opt) :
    option.settle environment verb (said.given? option) = .ok (answers.given? option) := by
  rw [Verb.finish_eq] at finished
  rcases bind_eq_ok finished with ⟨asked, asks, takes⟩
  have asks := ((local_askEnvironment environment).foldlM_eq_ok trivial asks).2 option
  have takes := (local_takeUsual.foldlM_eq_ok trivial takes).2 option
  rw [Opt.foldlM_within] at asks takes
  rw [Opt.settle, asks]
  exact takes

theorem Verb.exists_finish {verb : Verb} {said : Answers}
    (settles : ∀ option : Opt, ∃ given, option.settle environment verb (said.given? option) = .ok given) :
    ∃ answers, verb.finish environment said = .ok answers := by
  have asks : ∃ asked, verb.options.foldlM (Level.askEnvironment environment) said = .ok asked := by
    refine (local_askEnvironment environment).exists_foldlM trivial fun option => ?_
    rcases settles option with ⟨given, settled⟩
    rcases bind_eq_ok settled with ⟨asked, asks, _⟩
    rw [Opt.foldlM_within]
    exact ⟨asked, asks⟩
  rcases asks with ⟨asked, asks⟩
  exact ⟨_, by rw [Verb.finish, asks]; rfl⟩

namespace Stretch

variable {stretch : Stretch}

/-- What a command is answered about an option depends on what is given to this option. -/
theorem outcome_eq (answered : stretch.answers environment .empty = .ok answers) (option : Opt) :
    option.outcome environment stretch.verb (textsOf option stretch.mentions) = .ok (answers.given? option) := by
  rcases bind_eq_ok answered with ⟨said, tells, finished⟩
  have heard := (local_tell.foldlM_eq_ok spoken_empty tells).2 option
  rw [Opt.outcome, foldlM_hear_textsOf]
  simp only [Answers.empty] at heard
  rw [heard]
  exact Verb.of_finish_eq_ok finished option

/-- A command is answered if something comes out for every option. -/
theorem exists_answers
    (each : ∀ option : Opt, ∃ given,
      option.outcome environment stretch.verb (textsOf option stretch.mentions) = .ok given) :
    ∃ answers, stretch.answers environment .empty = .ok answers := by
  have tells : ∃ said, stretch.mentions.foldlM Mention.tell .empty = .ok said := by
    refine local_tell.exists_foldlM spoken_empty fun option => ?_
    rcases each option with ⟨given, comes⟩
    rcases bind_eq_ok comes with ⟨heard, hears, _⟩
    rw [foldlM_hear_textsOf] at hears
    exact ⟨heard, hears⟩
  rcases tells with ⟨said, tells⟩
  have finishes : ∃ answers, stretch.verb.finish environment said = .ok answers := by
    refine Verb.exists_finish fun option => ?_
    rcases each option with ⟨given, comes⟩
    rcases bind_eq_ok comes with ⟨heard, hears, settles⟩
    have told := (local_tell.foldlM_eq_ok spoken_empty tells).2 option
    rw [foldlM_hear_textsOf] at hears
    have same := hears.symm.trans told
    cases same
    exact ⟨given, settles⟩
  rcases finishes with ⟨answers, finished⟩
  refine ⟨answers, ?_⟩
  rw [Stretch.answers, tells]
  exact finished

end Stretch

end

end NodeConsole.CommandLine
