import NodeConsole.Proofs.CommandLine.Placement
/-!
Command lines with their options in other places. Every command passes on what it is told about the global
options, so it makes no difference to which of the commands on the way a global option is mentioned.
-/

namespace NodeConsole.CommandLine

/-! ## The values of one option at all commands -/

namespace Opt

variable {option : Opt} {environment : Environment} {verb other : Verb} {texts : List String} {text : String}

def found (option : Opt) (environment : Environment) (verb : Verb) (texts : List String) :
    Option (Given option) :=
  (option.outcome environment verb texts).toOption.join

theorem settle_some (given : Given option) : option.settle environment verb (some given) = .ok (some given) := by
  rw [settle_eq]
  split <;> rfl

theorem outcome_of_global (isGlobal : option ∈ globals) (verb : Verb) :
    option.outcome environment verb texts = option.outcome environment .main texts := by
  have known (verb : Verb) : option ∈ verb.options := List.mem_append_right _ isGlobal
  simp only [outcome, settle_eq, if_pos (known _)]

/-- Where no text is given, nothing was said on the command line. -/
theorem origin_of_outcome_nil {given : Given option}
    (comes : option.outcome environment verb [] = .ok (some given)) : given.origin ≠ .words := by
  have settles : option.settle environment verb none = .ok (some given) := comes
  rw [settle_eq] at settles
  split at settles
  · rcases of_map_eq_ok settles with ⟨asked, asks, same⟩
    rw [ask.eq_def] at asks
    split at asks
    · next none => cases none
    · cases asks
      rcases Option.map_eq_some_iff.mp same.symm with ⟨usual, _, rfl⟩
      exact fun same => by cases same
    · split at asks
      · cases asks
      · cases asks
        cases same
        exact fun same => by cases same
  · cases settles

theorem origin_of_outcome_singleton {found : Option (Given option)}
    (comes : option.outcome environment verb [text] = .ok found) :
    ∃ value, found = some ⟨value, .words⟩ := by
  rcases bind_eq_ok comes with ⟨heard, hears, settles⟩
  rw [List.foldlM_cons] at hears
  rcases bind_eq_ok hears with ⟨given, first, same⟩
  rcases of_hear_eq_ok first with ⟨value, rfl⟩
  cases same
  rw [settle_some] at settles
  cases settles
  exact ⟨value, rfl⟩

theorem outcome_of_mem_found {given : Given option} (member : given ∈ option.found environment verb texts) :
    option.outcome environment verb texts = .ok (some given) := by
  rw [found] at member
  cases comes : option.outcome environment verb texts with
  | error fault =>
      rw [comes] at member
      cases member
  | ok result =>
      rw [comes] at member
      exact congrArg Except.ok member

end Opt

namespace Answers

def Apart {option : Opt} (first second : Option (Given option)) : Prop :=
  first = second ∨ ∀ one ∈ first, ∀ two ∈ second, one.origin.rank ≠ two.origin.rank

theorem stronger_none {option : Opt} (outer : Option (Given option)) : stronger option outer none = outer := by
  cases outer <;> rfl

theorem stronger_right_comm {option : Opt} {first second : Option (Given option)} (apart : Apart first second)
    (outer : Option (Given option)) :
    stronger option (stronger option outer first) second =
      stronger option (stronger option outer second) first := by
  rcases apart with rfl | different
  · rfl
  · cases first with
    | none => rw [stronger_none, stronger_none]
    | some one =>
        cases second with
        | none => rw [stronger_none, stronger_none]
        | some two =>
            have ranks : one.origin.rank ≠ two.origin.rank := different one rfl two rfl
            cases outer with
            | none => grind [stronger]
            | some given => grind [stronger]

theorem apart_found {option : Opt} {environment : Environment} {verb other : Verb} {text : String} :
    Apart (option.found environment verb [text]) (option.found environment other []) := by
  refine .inr fun one given two usual ranks => ?_
  rcases Opt.origin_of_outcome_singleton (Opt.outcome_of_mem_found given) with ⟨value, same⟩
  cases same
  have weaker := Opt.origin_of_outcome_nil (Opt.outcome_of_mem_found usual)
  cases origin : two.origin with
  | words => exact weaker origin
  | _ =>
      rw [origin] at ranks
      cases ranks

theorem Apart.symm {option : Opt} {first second : Option (Given option)} (apart : Apart first second) :
    Apart second first := by
  rcases apart with rfl | different
  · exact .inl rfl
  · exact .inr fun two second one first => (different one first two second).symm

theorem merge_eq {levels others : List Answers}
    (same : ∀ option, (levels.map (·.given? option)).foldl (stronger option) none =
      (others.map (·.given? option)).foldl (stronger option) none) : merge levels = merge others := by
  simp only [List.foldl_map] at same
  rw [merge, merge, Answers.mk.injEq]
  exact ⟨funext same, rfl⟩

end Answers

/-! ## One text among many commands -/

theorem perm_of_flatten {α : Type} {pieces : List (List α)} {item : α} (whole : pieces.flatten = [item]) :
    ∃ empty, pieces.length = empty + 1 ∧ pieces.Perm ([item] :: List.replicate empty []) := by
  induction pieces with
  | nil => cases whole
  | cons piece rest induction =>
      rw [List.flatten_cons, List.append_eq_singleton_iff] at whole
      rcases whole with ⟨rfl, later⟩ | ⟨rfl, nothing⟩
      · rcases induction later with ⟨empty, length, perm⟩
        exact ⟨empty + 1, by rw [List.length_cons, length], (perm.cons []).trans (.swap _ _ _)⟩
      · have none := List.eq_replicate_of_mem (List.flatten_eq_nil_iff.mp nothing)
        exact ⟨rest.length, rfl, none ▸ .refl _⟩

/-- Where there is one item at most, it makes no difference but for the order in which of the pieces it is. -/
theorem perm_of_flatten_eq {α : Type} {pieces others : List (List α)} (same : others.flatten = pieces.flatten)
    (few : pieces.flatten.length ≤ 1) (length : others.length = pieces.length) : others.Perm pieces := by
  cases whole : pieces.flatten with
  | nil =>
      rw [whole] at same
      rw [List.flatten_eq_nil_iff] at same whole
      rw [List.eq_replicate_of_mem same, List.eq_replicate_of_mem whole, length]
  | cons item more =>
      rw [whole] at same few
      cases eq_nil_of_few few
      rcases perm_of_flatten same with ⟨empty, otherLength, otherPerm⟩
      rcases perm_of_flatten whole with ⟨count, pieceLength, piecePerm⟩
      have counts : empty = count := by omega
      exact otherPerm.trans (counts ▸ piecePerm.symm)

theorem pieces_of_flatten {α : Type} {pieces : List (List α)} {first second : List α}
    (few : pieces.flatten.length ≤ 1) (one : first ∈ pieces) (two : second ∈ pieces) :
    first = second ∨ (∃ item, first = [item] ∧ second = []) ∨ ∃ item, first = [] ∧ second = [item] := by
  cases whole : pieces.flatten with
  | nil =>
      rw [List.flatten_eq_nil_iff] at whole
      exact .inl ((whole first one).trans (whole second two).symm)
  | cons item more =>
      rw [whole] at few
      cases eq_nil_of_few few
      rcases perm_of_flatten whole with ⟨empty, _, perm⟩
      have kinds {piece : List α} (member : piece ∈ pieces) : piece = [item] ∨ piece = [] := by
        rcases List.mem_cons.mp (perm.mem_iff.mp member) with same | none
        · exact .inl same
        · exact .inr (List.eq_of_mem_replicate none)
      rcases kinds one with rfl | rfl <;> rcases kinds two with rfl | rfl
      · exact .inl rfl
      · exact .inr (.inl ⟨item, rfl, rfl⟩)
      · exact .inr (.inr ⟨item, rfl, rfl⟩)
      · exact .inl rfl

/-! ## Commands that say the same -/

@[simp] theorem without_verb (options : List Opt) (stretch : Stretch) :
    (stretch.without options).verb = stretch.verb :=
  rfl

theorem textsOf_without {options : List Opt} {option : Opt} (foreign : option ∉ options) (stretch : Stretch) :
    textsOf option (stretch.without options).mentions = textsOf option stretch.mentions := by
  rw [textsOf, textsOf, Stretch.without, List.filter_filter]
  congr 1
  apply List.filter_congr
  intro mention _
  by_cases same : mention.option = option
  · simp [same, foreign]
  · simp [same]

/-- What a command says besides some options decides what comes out for any other one. -/
theorem outcome_of_without {options : List Opt} {option : Opt} {stretch other : Stretch} (foreign : option ∉ options)
    (same : other.without options = stretch.without options) (environment : Environment) :
    option.outcome environment other.verb (textsOf option other.mentions) =
      option.outcome environment stretch.verb (textsOf option stretch.mentions) := by
  have verbs := congrArg Stretch.verb same
  rw [without_verb, without_verb] at verbs
  rw [← textsOf_without foreign other, ← textsOf_without foreign stretch, same, verbs]

structure Alike (options : List Opt) (stretches others : List Stretch) : Prop where
  globals : ∀ option ∈ options, option ∈ Opt.globals
  besides : others.map (·.without options) = stretches.map (·.without options)
  whole : ∀ option ∈ options, (others.flatMap fun stretch => textsOf option stretch.mentions) =
    stretches.flatMap fun stretch => textsOf option stretch.mentions
  few : ∀ option ∈ options, (stretches.flatMap fun stretch => textsOf option stretch.mentions).length ≤ 1

namespace Alike

variable {options : List Opt} {option : Opt} {stretches others : List Stretch} {environment : Environment}

theorem perm (alike : Alike options stretches others) (member : option ∈ options) :
    (others.map fun stretch => textsOf option stretch.mentions).Perm
      (stretches.map fun stretch => textsOf option stretch.mentions) := by
  have whole := alike.whole option member
  have few := alike.few option member
  have length := congrArg List.length alike.besides
  rw [List.flatMap_def, List.flatMap_def] at whole
  rw [List.flatMap_def] at few
  rw [List.length_map, List.length_map] at length
  exact perm_of_flatten_eq whole few (by rw [List.length_map, List.length_map, length])

/-- Each command is like one on the other side, as far as one option is concerned. -/
theorem exists_like (alike : Alike options stretches others) (environment : Environment) (option : Opt)
    {other : Stretch} (member : other ∈ others) :
    ∃ stretch ∈ stretches, option.outcome environment other.verb (textsOf option other.mentions) =
      option.outcome environment stretch.verb (textsOf option stretch.mentions) := by
  by_cases moved : option ∈ options
  · have among := (alike.perm moved).mem_iff.mp (List.mem_map_of_mem member)
    rcases List.mem_map.mp among with ⟨stretch, found, same⟩
    refine ⟨stretch, found, ?_⟩
    have isGlobal := alike.globals option moved
    rw [Opt.outcome_of_global isGlobal, Opt.outcome_of_global isGlobal stretch.verb, same]
  · have among : other.without options ∈ stretches.map (·.without options) :=
      alike.besides ▸ List.mem_map_of_mem member
    rcases List.mem_map.mp among with ⟨stretch, found, same⟩
    exact ⟨stretch, found, outcome_of_without moved same.symm environment⟩

theorem exists_answered (alike : Alike options stretches others)
    (answered : ∀ stretch ∈ stretches, ∃ answers, Carries.Answered environment stretch answers) :
    ∀ other ∈ others, ∃ answers, Carries.Answered environment other answers := by
  intro other member
  refine Stretch.exists_answers fun option => ?_
  rcases alike.exists_like environment option member with ⟨stretch, found, same⟩
  rcases answered stretch found with ⟨answers, answered⟩
  exact ⟨_, same.trans (Stretch.outcome_eq answered option)⟩

end Alike

theorem exists_forall₂ {α β : Type} {Related : α → β → Prop} {items : List α}
    (each : ∀ item ∈ items, ∃ value, Related item value) : ∃ values, List.Forall₂ Related items values := by
  induction items with
  | nil => exact ⟨[], .nil⟩
  | cons item rest induction =>
      rw [List.forall_mem_cons] at each
      rcases each.1 with ⟨value, related⟩
      rcases induction each.2 with ⟨values, others⟩
      exact ⟨value :: values, .cons related others⟩

theorem found_eq {environment : Environment} {stretch : Stretch} {answers : Answers}
    (answered : Carries.Answered environment stretch answers) (option : Opt) :
    answers.given? option = option.found environment stretch.verb (textsOf option stretch.mentions) := by
  rw [Opt.found, Stretch.outcome_eq answered]
  rfl

def column (option : Opt) (environment : Environment) (stretches : List Stretch) : List (Option (Given option)) :=
  stretches.map fun stretch => option.found environment stretch.verb (textsOf option stretch.mentions)

theorem column_eq {environment : Environment} {stretches : List Stretch} {levels : List Answers}
    (each : List.Forall₂ (Carries.Answered environment) stretches levels) (option : Opt) :
    levels.map (·.given? option) = column option environment stretches := by
  induction each with
  | nil => rfl
  | cons answered _ induction =>
      rw [List.map_cons, induction, found_eq answered]
      rfl

namespace Alike

variable {options : List Opt} {option : Opt} {stretches others : List Stretch} {environment : Environment}
  {levels otherLevels : List Answers}

theorem column_eq_of_not_mem (alike : Alike options stretches others) (foreign : option ∉ options) :
    column option environment others = column option environment stretches := by
  have same := congrArg (column option environment) alike.besides
  simpa [column, Function.comp_def, textsOf_without foreign] using same

theorem column_perm (alike : Alike options stretches others) (member : option ∈ options) :
    (column option environment others).Perm (column option environment stretches) := by
  have isGlobal := alike.globals option member
  have moved := (alike.perm member).map (option.found environment .main)
  simpa only [column, List.map_map, Function.comp_def, Opt.found, Opt.outcome_of_global isGlobal] using moved

/-- Of the values of an option that is mentioned once at most, no two are equally strong unless they are equal. -/
theorem apart (alike : Alike options stretches others) (member : option ∈ options) :
    ∀ first ∈ column option environment stretches, ∀ second ∈ column option environment stretches,
      Answers.Apart first second := by
  have isGlobal := alike.globals option member
  have few := alike.few option member
  have verbs (verb : Verb) (texts : List String) :
      option.found environment verb texts = option.found environment .main texts := by
    rw [Opt.found, Opt.found, Opt.outcome_of_global isGlobal]
  intro first one second two
  rcases List.mem_map.mp one with ⟨stretch, among, rfl⟩
  rcases List.mem_map.mp two with ⟨other, alsoAmong, rfl⟩
  rcases pieces_of_flatten few (List.mem_map_of_mem among) (List.mem_map_of_mem alsoAmong) with
    same | ⟨text, given, silent⟩ | ⟨text, silent, given⟩
  · rw [verbs, verbs other.verb, same]
    exact .inl rfl
  · rw [given, silent]
    exact Answers.apart_found
  · rw [given, silent]
    exact Answers.apart_found.symm

/-- The global options come out the same. -/
theorem merge_eq (alike : Alike options stretches others)
    (each : List.Forall₂ (Carries.Answered environment) stretches levels)
    (eachOther : List.Forall₂ (Carries.Answered environment) others otherLevels) :
    Answers.merge otherLevels = Answers.merge levels := by
  refine Answers.merge_eq fun option => ?_
  rw [column_eq each, column_eq eachOther]
  by_cases member : option ∈ options
  · refine ((alike.column_perm member).symm.foldl_eq' (fun first one second two outer => ?_) none).symm
    exact Answers.stronger_right_comm (alike.apart member first one second two) outer
  · rw [alike.column_eq_of_not_mem member]

end Alike

/-! ## What is to be done -/

theorem ofAnswers_congr {answers others : Answers} {verb : Verb} {action : Action}
    (same : ∀ option, option ∉ Opt.globals → others.given? option = answers.given? option)
    (acts : Action.ofAnswers answers verb = .ok action) : Action.ofAnswers others verb = .ok action := by
  cases verb with
  | main => cases isGroup_of_ofAnswers_eq_ok acts
  | settings => cases isGroup_of_ofAnswers_eq_ok acts
  | get => exact acts
  | set =>
      have file : others.value? .file = answers.value? .file := by
        rw [Answers.value?, Answers.value?, same .file (by decide)]
      have assign : others.value? .assign = answers.value? .assign := by
        rw [Answers.value?, Answers.value?, same .assign (by decide)]
      rw [Action.ofAnswers, Action.ofSet] at acts ⊢
      rw [file, assign]
      split at acts
      · split at acts <;> cases acts
      · cases acts
      · exact acts
  | proxy =>
      rw [Action.ofAnswers, Action.ofProxy] at acts ⊢
      rw [Answers.value?, Answers.value?, same .listen (by decide), same .target (by decide),
        same .area (by decide)]
      exact acts

theorem Alike.carries {options : List Opt} {stretches others : List Stretch} {environment : Environment}
    {levels : List Answers} {action : Action} (alike : Alike options stretches others)
    (carries : Carries environment .empty stretches levels action) :
    ∃ otherLevels, Carries environment .empty others otherLevels action ∧
      Answers.merge otherLevels = Answers.merge levels := by
  have answered := alike.exists_answered (carries.exists_answered rfl)
  rcases carries.exists_concat with ⟨earlier, last, rfl⟩
  rcases Carries.concat_iff.mp carries with ⟨before, answers, rfl, each, lastAnswered, acts⟩
  have besides := alike.besides
  rw [List.map_append, List.map_singleton] at besides
  rcases List.map_eq_append_iff.mp besides with ⟨otherEarlier, final, rfl, _, final⟩
  rcases List.map_eq_singleton_iff.mp final with ⟨otherLast, rfl, sameLast⟩
  rw [List.forall_mem_append, List.forall_mem_singleton] at answered
  rcases exists_forall₂ answered.1 with ⟨otherBefore, eachOther⟩
  rcases answered.2 with ⟨otherAnswers, otherAnswered⟩
  have wholeEach := List.rel_append each (.cons lastAnswered .nil)
  have wholeOther := List.rel_append eachOther (.cons otherAnswered .nil)
  refine ⟨_, Carries.concat_iff.mpr ⟨_, _, rfl, eachOther, otherAnswered, ?_⟩, alike.merge_eq wholeEach wholeOther⟩
  have sameVerb := congrArg Stretch.verb sameLast
  rw [without_verb, without_verb] at sameVerb
  rw [sameVerb]
  refine ofAnswers_congr (fun option own => ?_) acts
  have foreign : option ∉ options := fun member => own (alike.globals option member)
  rw [found_eq otherAnswered, found_eq lastAnswered, Opt.found, Opt.found, outcome_of_without foreign sameLast]

/-! ## Options in other places -/

/-- A command line with these options in other places: the same words, of which those that do not name the
options stand in the same order, and the options where they can be understood. Each of them is a global one
that stands once at most, with its value attached. -/
structure Rearranged (options : List Opt) (words others : List String) : Prop where
  globals : ∀ option ∈ options, option ∈ Opt.globals
  attached : Attached options words
  once : ∀ option ∈ options, words.countP option.isNamedBy ≤ 1
  perm : others.Perm words
  rest : wordsWithout options others = wordsWithout options words
  placed : Placed options others

/-- Global options can stand anywhere. A command line that is accepted is accepted with the same meaning when
they stand in other places. -/
theorem parse_of_rearranged {options : List Opt} {words others : List String} {environment : Environment}
    {invocation : Invocation} (rearranged : Rearranged options words others)
    (parsed : parse environment words = .ok invocation) : parse environment others = .ok invocation := by
  rcases parse_eq_ok_iff.mp parsed with ⟨stretches, levels, sentence, carries, merged⟩
  have attachedOthers : Attached options others := fun word member =>
    rearranged.attached word (rearranged.perm.mem_iff.mp member)
  have silent := sentence.without rearranged.attached
  rw [← rearranged.rest] at silent
  rcases silent.besides rearranged.globals attachedOthers rearranged.placed with ⟨fuller, found, besides⟩
  have texts (option : Opt) (member : option ∈ options) :=
    Opt.textsIn_of_perm (rearranged.attached.of_mem member) (rearranged.once option member) rearranged.perm
  have alike : Alike options stretches fuller := by
    refine ⟨rearranged.globals, besides, fun option member => ?_, fun option member => ?_⟩
    · rw [← found.textsIn_eq, ← sentence.textsIn_eq]
      exact (texts option member).1
    · rw [← sentence.textsIn_eq]
      exact (texts option member).2
  rcases alike.carries carries with ⟨otherLevels, otherCarries, same⟩
  exact parse_eq_ok_iff.mpr ⟨fuller, otherLevels, found, otherCarries, merged.trans same.symm⟩

def spreadWords : List String :=
  ["--format=json", "settings", "--timeout=5", "set", "--set", "a=1", "--log-level=info", "--set=b==x"]

def regroupedWords : List String :=
  ["--log-level=info", "settings", "set", "--timeout=5", "--set", "a=1", "--set=b==x", "--format=json"]

theorem parse_of_rearranged_of_regrouped :
    ∃ invocation, parse ⟨[("CRYNUX_HTTP_TIMEOUT_SECS", "9")]⟩ spreadWords = .ok invocation ∧
      parse ⟨[("CRYNUX_HTTP_TIMEOUT_SECS", "9")]⟩ regroupedWords = .ok invocation ∧
      invocation.globals.value? .output = some .json ∧ invocation.globals.value? .timeout = some 5 := by
  have rearranged : Rearranged Opt.globals spreadWords regroupedWords :=
    { globals := fun _ member => member
      attached := by
        rw [Attached]
        decide +kernel
      once := by decide +kernel
      perm := by decide +kernel
      rest := by decide +kernel
      placed := ⟨by decide +kernel, by decide +kernel⟩ }
  have values : ((parse ⟨[("CRYNUX_HTTP_TIMEOUT_SECS", "9")]⟩ spreadWords).toOption.map fun invocation =>
      (invocation.globals.value? .output, invocation.globals.value? .timeout)) = some (some .json, some 5) := by
    decide +kernel
  cases parsed : parse ⟨[("CRYNUX_HTTP_TIMEOUT_SECS", "9")]⟩ spreadWords with
  | error stop =>
      rw [parsed] at values
      cases values
  | ok invocation =>
      rw [parsed] at values
      have values := Prod.mk.inj (Option.some.inj values)
      exact ⟨invocation, rfl, parse_of_rearranged rearranged parsed, values.1, values.2⟩

end NodeConsole.CommandLine
