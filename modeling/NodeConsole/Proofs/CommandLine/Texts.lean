import Mathlib.Data.List.Forall2
import NodeConsole.Proofs.CommandLine.Outcomes
/-!
The texts that a command line gives to an option. They stand in the words, attached to the name of the option
or right behind it, and no command of an accepted command line hears anything else.
-/

namespace NodeConsole.CommandLine

/-! ## Names -/

theorem Verb.isNamed_of_option? {verb : Verb} {option : Opt} {name : String}
    (named : verb.option? name = some option) : option.isNamed name = true := by
  rw [option?] at named
  exact List.find?_some (p := fun option : Opt => option.isNamed name) named

namespace Opt

def ofName? (name : String) : Option Opt :=
  (Verb.set.own ++ Verb.proxy.own ++ globals).find? (·.isNamed name)

theorem ofName?_of_isNamed {option : Opt} {name : String} (named : option.isNamed name = true) :
    ofName? name = some option := by
  have listed : name = option.name ∨ name ∈ option.otherNames := by
    rw [isNamed, Bool.or_eq_true, decide_eq_true_iff, List.contains_iff_mem] at named
    exact named.imp_left Eq.symm
  rcases listed with rfl | other
  · cases option <;> decide
  · cases option with
    | output =>
        cases List.mem_singleton.mp other
        decide
    | _ => cases other

/-- No two options have a name in common. -/
theorem isNamed_iff {option other : Opt} {name : String} (named : option.isNamed name = true) :
    other.isNamed name = true ↔ option = other := by
  constructor
  · intro also
    exact Option.some.inj ((ofName?_of_isNamed named).symm.trans (ofName?_of_isNamed also))
  · rintro rfl
    exact named

/-! ## Words -/

def isNamedBy (option : Opt) (word : String) : Bool :=
  (dashed? word).any fun parts => option.isNamed parts.1

def textsIn (option : Opt) : List String → List String
  | [] => []
  | word :: rest =>
    match dashed? word with
    | some (name, attached) =>
      if option.isNamed name then (attached.or rest.head?).toList ++ option.textsIn rest else option.textsIn rest
    | none => option.textsIn rest

example : assign.textsIn ["settings", "--output=json", "set", "--set", "a=1", "--set=b==2"] = ["a=1", "b==2"] := by
  decide +kernel

section

variable {option other : Opt} {verb : Verb} {word name text : String} {rest : List String}

theorem textsIn_of_undashed (undashed : dashed? word = none) :
    option.textsIn (word :: rest) = option.textsIn rest := by
  rw [textsIn, undashed]

theorem textsIn_of_dashed {attached : Option String} (dashed : dashed? word = some (name, attached))
    (named : verb.option? name = some other) :
    option.textsIn (word :: rest) =
      if other = option then (attached.or rest.head?).toList ++ option.textsIn rest else option.textsIn rest := by
  rw [textsIn, dashed]
  simp only [isNamed_iff (Verb.isNamed_of_option? named)]

end

end Opt

theorem IsValue.undashed {word : String} (isValue : IsValue word) : dashed? word = none := by
  cases dashed : dashed? word with
  | none => rfl
  | some parts =>
      rcases exists_dash_of_dashed? dashed with ⟨c, more, starts⟩
      exact absurd starts (isValue _ _)

theorem undashed_of_child? {verb child : Verb} {word : String} (named : verb.child? word = some child) :
    dashed? word = none := by
  cases dashed : dashed? word with
  | none => rfl
  | some parts =>
      rcases exists_dash_of_dashed? dashed with ⟨c, more, starts⟩
      rw [child?_eq_none_of_dash starts] at named
      cases named

namespace Sentence

variable {verb : Verb} {words : List String} {stretches : List Stretch}

theorem textsOf_cons (option : Opt) (mention : Mention) (mentions : List Mention) :
    textsOf option (mention :: mentions) =
      if mention.option = option then mention.text :: textsOf option mentions else textsOf option mentions := by
  rw [textsOf, List.filter_cons]
  simp only [decide_eq_true_eq]
  split <;> rfl

/-- What the words give to an option is mentioned to their commands. -/
theorem textsIn_eq (sentence : Sentence verb words stretches) (option : Opt) :
    option.textsIn words = stretches.flatMap fun stretch => textsOf option stretch.mentions := by
  induction sentence with
  | done => rfl
  | closed => rfl
  | attached dashed named later induction =>
      rw [List.flatMap_cons] at induction ⊢
      rw [Opt.textsIn_of_dashed dashed named, textsOf_cons, induction]
      split <;> rfl
  | separate dashed named isValue later induction =>
      rw [List.flatMap_cons] at induction ⊢
      rw [Opt.textsIn_of_dashed dashed named, textsOf_cons, Opt.textsIn_of_undashed isValue.undashed, induction]
      split <;> rfl
  | child named later induction =>
      rw [Opt.textsIn_of_undashed (undashed_of_child? named), induction]
      rfl

theorem mem_options (sentence : Sentence verb words stretches) :
    ∀ stretch ∈ stretches, ∀ mention ∈ stretch.mentions, mention.option ∈ stretch.verb.options := by
  induction sentence with
  | done => simp
  | closed => simp
  | attached _ named later induction =>
      rw [List.forall_mem_cons] at induction ⊢
      exact ⟨List.forall_mem_cons.mpr ⟨List.mem_of_find?_eq_some named, induction.1⟩, induction.2⟩
  | separate _ named _ later induction =>
      rw [List.forall_mem_cons] at induction ⊢
      exact ⟨List.forall_mem_cons.mpr ⟨List.mem_of_find?_eq_some named, induction.1⟩, induction.2⟩
  | child named later induction => exact List.forall_mem_cons.mpr ⟨by simp, induction⟩

theorem isGroup_of_mem_dropLast (sentence : Sentence verb words stretches) :
    ∀ stretch ∈ stretches.dropLast, stretch.verb.isGroup = true := by
  induction sentence with
  | done => simp
  | closed => simp
  | @attached _ _ _ _ _ _ _ stretches _ _ later induction =>
      cases stretches with
      | nil => simp
      | cons => simpa using induction
  | @separate _ _ _ _ _ _ _ stretches _ _ _ later induction =>
      cases stretches with
      | nil => simp
      | cons => simpa using induction
  | @child verb child _ _ _ named later induction =>
      rcases later.exists_cons with ⟨mentions, others, rfl⟩
      rw [List.dropLast_cons_of_ne_nil (List.cons_ne_nil _ _), List.forall_mem_cons]
      refine ⟨?_, induction⟩
      cases verb with
      | main => rfl
      | settings => rfl
      | _ => cases named

end Sentence

/-! ## Answers to commands -/

namespace Carries

variable {environment : Environment} {stretches earlier : List Stretch} {last : Stretch} {levels : List Answers}
  {action : Action}

def Answered (environment : Environment) (stretch : Stretch) (answers : Answers) : Prop :=
  stretch.answers environment .empty = .ok answers

theorem concat_iff :
    Carries environment .empty (earlier ++ [last]) levels action ↔
      ∃ before answers, levels = before ++ [answers] ∧ List.Forall₂ (Answered environment) earlier before ∧
        Answered environment last answers ∧ Action.ofAnswers answers last.verb = .ok action := by
  induction earlier generalizing levels with
  | nil =>
      constructor
      · intro carries
        cases carries with
        | last answered acts => exact ⟨[], _, rfl, .nil, answered, acts⟩
        | further _ later => cases later
      · rintro ⟨before, answers, rfl, each, answered, acts⟩
        cases each
        exact .last answered acts
  | cons first earlier induction =>
      constructor
      · intro carries
        cases more : earlier ++ [last] with
        | nil => simp at more
        | cons second others =>
            rw [List.cons_append, more] at carries
            cases carries with
            | further firstAnswered later =>
                rw [← more] at later
                rcases induction.mp later with ⟨before, answers, rfl, each, answered, acts⟩
                exact ⟨_ :: before, answers, rfl, .cons firstAnswered each, answered, acts⟩
      · rintro ⟨before, answers, rfl, each, answered, acts⟩
        cases each with
        | cons firstAnswered each =>
            exact .further firstAnswered (induction.mpr ⟨_, _, rfl, each, answered, acts⟩)

theorem exists_concat {said : Answers} (carries : Carries environment said stretches levels action) :
    ∃ earlier last, stretches = earlier ++ [last] := by
  rcases List.eq_nil_or_concat' stretches with rfl | parted
  · cases carries
  · exact parted

theorem exists_answered {said : Answers} (carries : Carries environment said stretches levels action)
    (nothing : said = .empty) : ∀ stretch ∈ stretches, ∃ answers, Answered environment stretch answers := by
  induction carries with
  | last answered => exact List.forall_mem_singleton.mpr ⟨_, nothing ▸ answered⟩
  | further answered _ induction => exact List.forall_mem_cons.mpr ⟨⟨_, nothing ▸ answered⟩, induction rfl⟩

end Carries

theorem isGroup_of_ofAnswers_eq_ok {answers : Answers} {verb : Verb} {action : Action}
    (acts : Action.ofAnswers answers verb = .ok action) : verb.isGroup = false := by
  rw [Action.ofAnswers.eq_def] at acts
  split at acts
  · rfl
  · rfl
  · rfl
  · split at acts <;> cases acts

end NodeConsole.CommandLine
