import Mathlib.Data.List.Chain
import NodeConsole.Proofs.CommandLine.Texts
/-!
Where options stand among the words. Global options with their values attached can be taken out of a command
line, and they can be put in wherever no value is awaited; what is said besides them stays the same.
-/

namespace NodeConsole.CommandLine

/-! ## Words that name options -/

def namesOneOf (options : List Opt) (word : String) : Bool :=
  options.any (·.isNamedBy word)

def isBare (word : String) : Bool :=
  (dashed? word).any fun parts => parts.2.isNone

def Attached (options : List Opt) (words : List String) : Prop :=
  ∀ word ∈ words, namesOneOf options word = true → isBare word = false

structure Placed (options : List Opt) (words : List String) : Prop where
  apart : words.IsChain fun earlier word => isBare earlier = true → namesOneOf options word = false
  before : words.Pairwise fun earlier word => earlier = "--" → namesOneOf options word = false

section

variable {options : List Opt} {option : Opt} {verb : Verb} {word name : String} {attached : Option String}

theorem namesOneOf_of_undashed (undashed : dashed? word = none) : namesOneOf options word = false := by
  simp [namesOneOf, Opt.isNamedBy, undashed]

theorem namesOneOf_of_dashed (dashed : dashed? word = some (name, attached))
    (named : verb.option? name = some option) : namesOneOf options word = true ↔ option ∈ options := by
  simp [namesOneOf, Opt.isNamedBy, dashed, Opt.isNamed_iff (Verb.isNamed_of_option? named)]

theorem not_mem_of_dashed (dashed : dashed? word = some (name, attached))
    (named : verb.option? name = some option) (names : namesOneOf options word = false) : option ∉ options := by
  intro member
  rw [(namesOneOf_of_dashed dashed named).mpr member] at names
  cases names

theorem isBare_of_dashed (dashed : dashed? word = some (name, none)) : isBare word = true := by
  rw [isBare, dashed]
  rfl

theorem Verb.option?_of_global (isGlobal : option ∈ Opt.globals) (isNamed : option.isNamed name = true)
    (verb : Verb) : verb.option? name = some option := by
  cases found : verb.option? name with
  | none =>
      rw [Verb.option?, List.find?_eq_none] at found
      exact absurd isNamed (found option (List.mem_append_right _ isGlobal))
  | some other => rw [(Opt.isNamed_iff isNamed).mp (isNamed_of_option? found)]

theorem exists_mention_of_namesOneOf (globals : ∀ option ∈ options, option ∈ Opt.globals)
    (names : namesOneOf options word = true) (notBare : isBare word = false) :
    ∃ name text, ∃ option ∈ options, dashed? word = some (name, some text) ∧
      ∀ verb : Verb, verb.option? name = some option := by
  rw [namesOneOf, List.any_eq_true] at names
  rcases names with ⟨option, member, named⟩
  rw [Opt.isNamedBy] at named
  rw [isBare] at notBare
  cases dashed : dashed? word with
  | none =>
      rw [dashed] at named
      cases named
  | some parts =>
      rcases parts with ⟨name, attached⟩
      rw [dashed] at named notBare
      cases attached with
      | none => cases notBare
      | some text =>
          exact ⟨name, text, option, member, rfl, Verb.option?_of_global (globals option member) named⟩

end

/-! ## Without options -/

def Stretch.without (options : List Opt) (stretch : Stretch) : Stretch :=
  ⟨stretch.verb, stretch.mentions.filter fun mention => mention.option ∉ options⟩

def wordsWithout (options : List Opt) (words : List String) : List String :=
  words.filter fun word => !namesOneOf options word

section

variable {options : List Opt} {verb : Verb} {words : List String} {stretches : List Stretch}

theorem Attached.tail {word : String} (attached : Attached options (word :: words)) : Attached options words :=
  fun later member => attached later (List.mem_cons_of_mem _ member)

theorem Attached.of_mem {option : Opt} (attached : Attached options words) (member : option ∈ options) :
    Attached [option] words := by
  intro word among names
  rw [namesOneOf, List.any_cons, List.any_nil, Bool.or_false] at names
  exact attached word among (List.any_eq_true.mpr ⟨option, member, names⟩)

theorem Placed.tail {word : String} (placed : Placed options (word :: words)) : Placed options words where
  apart := (List.isChain_cons.mp placed.apart).2
  before := (List.pairwise_cons.mp placed.before).2

theorem wordsWithout_cons_of_names {word : String} (names : namesOneOf options word = true) :
    wordsWithout options (word :: words) = wordsWithout options words :=
  List.filter_cons_of_neg (by simp [names])

theorem wordsWithout_cons {word : String} (namesNone : namesOneOf options word = false) :
    wordsWithout options (word :: words) = word :: wordsWithout options words :=
  List.filter_cons_of_pos (by simp [namesNone])

theorem Sentence.without (sentence : Sentence verb words stretches) (attached : Attached options words) :
    Sentence verb (wordsWithout options words) (stretches.map (·.without options)) := by
  induction sentence with
  | done verb => exact .done verb
  | closed verb =>
      rw [wordsWithout_cons (namesOneOf_of_undashed rfl)]
      exact .closed verb
  | @attached _ word _ _ option _ _ _ dashed named later induction =>
      have shorter := induction attached.tail
      cases names : namesOneOf options word with
      | true =>
          have member := (namesOneOf_of_dashed dashed named).mp names
          rw [wordsWithout_cons_of_names names]
          simpa [Stretch.without, member] using shorter
      | false =>
          have foreign := not_mem_of_dashed dashed named names
          rw [wordsWithout_cons names]
          simpa [Stretch.without, foreign] using shorter.attached dashed named
  | @separate _ word _ _ option _ _ _ dashed named isValue later induction =>
      have shorter := induction attached.tail.tail
      have silent : namesOneOf options word = false := by
        cases names : namesOneOf options word with
        | false => rfl
        | true => exact (isBare_of_dashed dashed).symm.trans (attached word List.mem_cons_self names)
      have foreign := not_mem_of_dashed dashed named silent
      rw [wordsWithout_cons silent, wordsWithout_cons (namesOneOf_of_undashed isValue.undashed)]
      simpa [Stretch.without, foreign] using shorter.separate dashed named isValue
  | child named later induction =>
      rw [wordsWithout_cons (namesOneOf_of_undashed (undashed_of_child? named))]
      exact .child named (induction attached.tail)

def SaysBesides (options : List Opt) (verb : Verb) (words : List String) (stretches : List Stretch) : Prop :=
  ∃ fuller, Sentence verb words fuller ∧ fuller.map (·.without options) = stretches

namespace SaysBesides

variable {word name text : String} {option : Opt} {rest : List String} {mentions : List Mention}

theorem inserted (dashed : dashed? word = some (name, some text)) (named : verb.option? name = some option)
    (member : option ∈ options) (said : SaysBesides options verb rest stretches) :
    SaysBesides options verb (word :: rest) stretches := by
  rcases said with ⟨fuller, found, rfl⟩
  rcases found.exists_cons with ⟨mentions, others, rfl⟩
  refine ⟨_, found.attached dashed named, ?_⟩
  simp [Stretch.without, member]

theorem attached (dashed : dashed? word = some (name, some text)) (named : verb.option? name = some option)
    (foreign : option ∉ options) (said : SaysBesides options verb rest (⟨verb, mentions⟩ :: stretches)) :
    SaysBesides options verb (word :: rest) (⟨verb, ⟨option, text⟩ :: mentions⟩ :: stretches) := by
  rcases said with ⟨fuller, found, same⟩
  rcases found.exists_cons with ⟨others, later, rfl⟩
  refine ⟨_, found.attached dashed named, ?_⟩
  simpa [Stretch.without, foreign] using same

theorem separate (dashed : dashed? word = some (name, none)) (named : verb.option? name = some option)
    (isValue : IsValue text) (foreign : option ∉ options)
    (said : SaysBesides options verb rest (⟨verb, mentions⟩ :: stretches)) :
    SaysBesides options verb (word :: text :: rest) (⟨verb, ⟨option, text⟩ :: mentions⟩ :: stretches) := by
  rcases said with ⟨fuller, found, same⟩
  rcases found.exists_cons with ⟨others, later, rfl⟩
  refine ⟨_, found.separate dashed named isValue, ?_⟩
  simpa [Stretch.without, foreign] using same

theorem child {child : Verb} (named : verb.child? word = some child)
    (said : SaysBesides options child rest stretches) :
    SaysBesides options verb (word :: rest) (⟨verb, []⟩ :: stretches) := by
  rcases said with ⟨fuller, found, same⟩
  exact ⟨_, .child named found, congrArg (_ :: ·) same⟩

end SaysBesides

/-- Options that stand where they can be understood are said besides what is said without them. -/
theorem Sentence.besides (globals : ∀ option ∈ options, option ∈ Opt.globals) (attached : Attached options words)
    (placed : Placed options words) (sentence : Sentence verb (wordsWithout options words) stretches) :
    SaysBesides options verb words stretches := by
  -- By the length of the words, since an option with its value behind it takes two of them at once.
  induction size : words.length using Nat.strong_induction_on generalizing verb words stretches with
  | _ length induction =>
  cases words with
  | nil =>
      cases sentence
      exact ⟨_, .done verb, rfl⟩
  | cons word rest =>
      have shorter : rest.length < length := size ▸ Nat.lt_succ_self _
      cases names : namesOneOf options word with
      | true =>
          rw [wordsWithout_cons_of_names names] at sentence
          rcases exists_mention_of_namesOneOf globals names (attached word List.mem_cons_self names) with
            ⟨name, text, option, member, dashed, named⟩
          exact .inserted dashed (named verb) member (induction _ shorter attached.tail placed.tail sentence rfl)
      | false =>
          rw [wordsWithout_cons names] at sentence
          generalize behind : wordsWithout options rest = remaining at sentence
          cases sentence with
          | closed =>
              -- What is left out behind the two dashes would name the options, which do not stand there.
              cases rest with
              | nil => exact ⟨_, .closed verb, rfl⟩
              | cons second more =>
                  have silent := (List.pairwise_cons.mp placed.before).1 second List.mem_cons_self rfl
                  rw [wordsWithout_cons silent] at behind
                  cases behind
          | attached dashed named later =>
              subst behind
              exact .attached dashed named (not_mem_of_dashed dashed named names)
                (induction _ shorter attached.tail placed.tail later rfl)
          | separate dashed named isValue later =>
              cases rest with
              | nil => cases behind
              | cons second more =>
                  have silent := (List.isChain_cons.mp placed.apart).1 second rfl (isBare_of_dashed dashed)
                  rw [wordsWithout_cons silent] at behind
                  cases behind
                  have shortest : more.length < length := Nat.lt_trans (Nat.lt_succ_self _) shorter
                  exact .separate dashed named isValue (not_mem_of_dashed dashed named names)
                    (induction _ shortest attached.tail.tail placed.tail.tail later rfl)
          | child named later =>
              subst behind
              exact .child named (induction _ shorter attached.tail placed.tail later rfl)

end

/-! ## What the words say about the options -/

theorem eq_nil_of_few {α : Type} {item : α} {more : List α} (few : (item :: more).length ≤ 1) : more = [] :=
  List.length_eq_zero_iff.mp (Nat.le_zero.mp (Nat.le_of_succ_le_succ few))

namespace Opt

def attachedText? (option : Opt) (word : String) : Option String :=
  (dashed? word).bind fun parts => if option.isNamed parts.1 then parts.2 else none

theorem textsIn_of_attached {option : Opt} {words : List String} (attached : Attached [option] words) :
    option.textsIn words = words.filterMap option.attachedText? := by
  induction words with
  | nil => rfl
  | cons word rest induction =>
      have notBare := attached word List.mem_cons_self
      rw [namesOneOf, List.any_cons, List.any_nil, Bool.or_false, isNamedBy, isBare] at notBare
      rw [textsIn, List.filterMap_cons, attachedText?, induction attached.tail]
      cases dashed : dashed? word with
      | none => rfl
      | some parts =>
          rcases parts with ⟨name, text⟩
          rw [dashed] at notBare
          dsimp only [Option.bind_some]
          split
          · next named =>
            cases text with
            | none => cases notBare named
            | some text => rfl
          · rfl

theorem textsIn_of_perm {option : Opt} {words others : List String} (attached : Attached [option] words)
    (once : words.countP option.isNamedBy ≤ 1) (perm : others.Perm words) :
    option.textsIn others = option.textsIn words ∧ (option.textsIn words).length ≤ 1 := by
  have attachedOthers : Attached [option] others := fun word member => attached word (perm.mem_iff.mp member)
  have same : (option.textsIn others).Perm (option.textsIn words) := by
    rw [textsIn_of_attached attachedOthers, textsIn_of_attached attached]
    exact perm.filterMap _
  have few : (option.textsIn words).length ≤ 1 := by
    rw [textsIn_of_attached attached, List.length_filterMap_eq_countP]
    refine Nat.le_trans (List.countP_mono_left fun word _ given => ?_) once
    rw [attachedText?, Option.isSome_bind, Option.any_eq_true] at given
    rcases given with ⟨parts, dashed, given⟩
    rw [isNamedBy, dashed]
    split at given
    · next named => exact named
    · cases given
  refine ⟨?_, few⟩
  cases texts : option.textsIn words with
  | nil => exact (texts ▸ same).eq_nil
  | cons text more =>
      rw [texts] at few
      cases eq_nil_of_few few
      exact List.perm_singleton.mp (texts ▸ same)

end Opt

end NodeConsole.CommandLine
