import NodeConsole.Proofs.CommandLine.Texts
import NodeConsole.Proofs.Json.Members
/-!
Where the settings that a command line stores come from: from the file or from the assignments in its words,
and from all of these.
-/

namespace NodeConsole.CommandLine

open Settings (Assignment)

variable {environment : Environment} {words texts : List String} {text : String} {stretches : List Stretch}
  {levels : List Answers} {answers : Answers} {source : Console.Source} {action : Action}

/-! ## What is heard -/

namespace Opt

theorem of_foldlM_hear_once {option : Opt} {heard : Option (Given option)} (once : option.isRepeatable = false)
    (hears : texts.foldlM option.hear none = .ok heard) :
    texts = [] ∧ heard = none ∨
      ∃ text value, texts = [text] ∧ option.read text = .ok value ∧ heard = some ⟨value, .words⟩ := by
  cases texts with
  | nil =>
      cases hears
      exact .inl ⟨rfl, rfl⟩
  | cons text rest =>
      rw [List.foldlM_cons] at hears
      rcases bind_eq_ok hears with ⟨given, first, others⟩
      rw [hear] at first
      cases read : option.read text with
      | error misfit =>
          rw [read] at first
          cases first
      | ok value =>
          rw [read] at first
          cases first
          cases rest with
          | nil =>
              cases others
              exact .inr ⟨text, value, rfl, read, rfl⟩
          | cons further rest =>
              rw [List.foldlM_cons, hear, once] at others
              cases others

theorem eq_of_readPath {path : String} (read : readPath text = .ok path) : path = text := by
  rw [readPath] at read
  split at read
  · cases read
  · cases read
    rfl

def assignmentsOf (given : Option (Given .assign)) : List Assignment :=
  (given.map Given.value).getD []

theorem of_hear_assign {given heard : Option (Given .assign)} (hears : assign.hear given text = .ok heard) :
    ∃ assignment, Assignment.parse text = .ok assignment ∧
      assignmentsOf heard = assignmentsOf given ++ [assignment] := by
  rw [hear] at hears
  have repeatable : (given.isSome && !assign.isRepeatable) = false := Bool.and_false _
  rw [repeatable, if_neg Bool.false_ne_true, read, readAssignment] at hears
  cases parsed : Assignment.parse text with
  | error error =>
      rw [parsed] at hears
      cases hears
  | ok assignment =>
      rw [parsed] at hears
      refine ⟨assignment, rfl, ?_⟩
      cases given <;>
      · cases hears
        rfl

theorem of_foldlM_hear_assign {given heard : Option (Given .assign)}
    (hears : texts.foldlM assign.hear given = .ok heard) :
    ∃ assignments, texts.map Assignment.parse = assignments.map .ok ∧
      assignmentsOf heard = assignmentsOf given ++ assignments := by
  induction texts generalizing given with
  | nil =>
      cases hears
      exact ⟨[], rfl, (List.append_nil _).symm⟩
  | cons text rest induction =>
      rw [List.foldlM_cons] at hears
      rcases bind_eq_ok hears with ⟨between, first, others⟩
      rcases of_hear_assign first with ⟨assignment, parsed, same⟩
      rcases induction others with ⟨assignments, each, whole⟩
      refine ⟨assignment :: assignments, ?_, ?_⟩
      · rw [List.map_cons, parsed, each, List.map_cons]
      · rw [whole, same, List.append_assoc, List.singleton_append]

theorem outcome_of_plain {option : Opt} (verb : Verb) (noVariable : option.envName? = none)
    (unusual : option.default? = none) :
    option.outcome environment verb texts = texts.foldlM option.hear none := by
  have asks (given : Option (Given option)) : option.ask environment given = .ok given := by
    rw [ask.eq_def, noVariable]
    cases given <;> rfl
  have usual (given : Option (Given option)) : option.orUsual given = given := by
    rw [orUsual, unusual]
    exact Option.or_none
  have settles (given : Option (Given option)) : option.settle environment verb given = .ok given := by
    rw [settle_eq, asks]
    split
    · exact congrArg Except.ok (usual given)
    · rfl
  rw [outcome]
  simp only [settles]
  exact bind_pure _

end Opt

/-! ## The command that stores -/

theorem Verb.options_of_isGroup {verb : Verb} (group : verb.isGroup = true) : verb.options = Opt.globals := by
  cases verb with
  | main => rfl
  | settings => rfl
  | _ => cases group

namespace Sentence

variable {verb : Verb} {earlier : List Stretch} {last : Stretch} {option : Opt}

theorem textsIn_eq_of_last (sentence : Sentence verb words (earlier ++ [last])) (own : option ∉ Opt.globals) :
    option.textsIn words = textsOf option last.mentions := by
  have none : earlier.flatMap (fun stretch => textsOf option stretch.mentions) = [] := by
    rw [List.flatMap_eq_nil_iff]
    intro stretch member
    have group : stretch.verb.isGroup = true :=
      sentence.isGroup_of_mem_dropLast stretch (by rwa [List.dropLast_concat])
    rw [textsOf, List.map_eq_nil_iff, List.filter_eq_nil_iff]
    intro mention mentioned
    have known := sentence.mem_options stretch (List.mem_append_left _ member) mention mentioned
    rw [Verb.options_of_isGroup group] at known
    rw [decide_eq_true_iff]
    rintro rfl
    exact own known
  rw [sentence.textsIn_eq, List.flatMap_append, none]
  exact List.append_nil _

end Sentence

theorem eq_set_of_ofAnswers {verb : Verb} (acts : Action.ofAnswers answers verb = .ok (.set source)) :
    verb = .set := by
  rw [Action.ofAnswers.eq_def] at acts
  split at acts
  · cases acts
  · rfl
  · cases acts
  · split at acts <;> cases acts

theorem exists_last_of_set (carries : Carries environment .empty stretches levels (.set source)) :
    ∃ earlier mentions answers, stretches = earlier ++ [⟨.set, mentions⟩] ∧
      Carries.Answered environment ⟨.set, mentions⟩ answers ∧ Action.ofSet answers = .ok (.set source) := by
  rcases carries.exists_concat with ⟨earlier, ⟨verb, mentions⟩, rfl⟩
  rcases Carries.concat_iff.mp carries with ⟨before, answers, _, _, answered, acts⟩
  have isSet : verb = .set := eq_set_of_ofAnswers acts
  subst isSet
  exact ⟨earlier, mentions, answers, rfl, answered, acts⟩

theorem Action.of_ofSet_eq_ok (made : ofSet answers = .ok (.set source)) :
    source = ⟨answers.value? .file, (answers.value? .assign).getD []⟩ := by
  rw [ofSet] at made
  split at made
  · split at made <;> cases made
  · cases made
  · cases made
    rfl

/-! ## Where settings come from -/

structure ComesFrom (words : List String) (source : Console.Source) : Prop where
  file : source.file.toList = Opt.file.textsIn words
  assignments : source.assignments.map .ok = (Opt.assign.textsIn words).map Assignment.parse
  either : source.assignments ≠ [] ↔ source.file = none

theorem comesFrom_of_parse {invocation : Invocation} (parsed : parse environment words = .ok invocation)
    (stores : invocation.action = .set source) : ComesFrom words source := by
  have apart := source_of_parse parsed stores
  rcases parse_eq_ok_iff.mp parsed with ⟨stretches, levels, sentence, carries, _⟩
  rw [stores] at carries
  rcases exists_last_of_set carries with ⟨earlier, mentions, answers, rfl, answered, made⟩
  cases Action.of_ofSet_eq_ok made
  have files := Stretch.outcome_eq answered .file
  have assigns := Stretch.outcome_eq answered .assign
  rw [Opt.outcome_of_plain _ rfl rfl, ← sentence.textsIn_eq_of_last (by decide)] at files assigns
  refine ⟨?_, ?_, ?_⟩
  · dsimp only
    rw [Answers.value?]
    rcases Opt.of_foldlM_hear_once rfl files with ⟨texts, given⟩ | ⟨text, value, texts, read, given⟩
    · rw [texts, given]
      rfl
    · rw [texts, given, Opt.eq_of_readPath read]
      rfl
  · rcases Opt.of_foldlM_hear_assign assigns with ⟨assignments, each, whole⟩
    exact each.symm ▸ congrArg (List.map Except.ok) whole
  · rcases apart with ⟨path, same⟩ | ⟨assignments, same, nonempty⟩
    · rw [same]
      simp
    · rw [same]
      simpa using nonempty

theorem parse_of_mem_textsIn {invocation : Invocation} (parsed : parse environment words = .ok invocation)
    (member : text ∈ Opt.assign.textsIn words) : ∃ assignment, Assignment.parse text = .ok assignment := by
  rcases parse_eq_ok_iff.mp parsed with ⟨stretches, levels, sentence, carries, _⟩
  rw [sentence.textsIn_eq, List.mem_flatMap] at member
  rcases member with ⟨stretch, among, heard⟩
  rcases carries.exists_answered rfl stretch among with ⟨answers, answered⟩
  have assigns := Stretch.outcome_eq answered .assign
  rw [Opt.outcome_of_plain _ rfl rfl] at assigns
  rcases Opt.of_foldlM_hear_assign assigns with ⟨assignments, each, _⟩
  have among := List.mem_map_of_mem (f := Assignment.parse) heard
  rw [each, List.mem_map] at among
  rcases among with ⟨assignment, _, same⟩
  exact ⟨assignment, same.symm⟩

/-! ## What is stored -/

theorem documentOfFile_ne_nothing (files : Files) (path : String) :
    Console.documentOfFile files path ≠ .error (.rejected "no settings provided") := by
  rw [Console.documentOfFile]
  split
  · exact fun same => by cases same
  · split
    · next reason _ =>
      intro same
      injection same with same
      injection same with same
      have texts : "settings file is not valid JSON: " ++ reason.message = "no settings provided" := same
      have starts := congrArg (·.toList.head?) texts
      simp at starts
    · exact fun same => by cases same

def memberOf (assignment : Assignment) : String × Json :=
  (assignment.key, assignment.value)

def IsLast (assignments : List Assignment) (key : String) (value : Json) : Prop :=
  ∃ earlier later, assignments = earlier ++ ⟨key, value⟩ :: later ∧ ∀ other ∈ later, other.key ≠ key

/-- The document of assignments has the last value of each key, and no other members. -/
theorem exists_document (assigned : source.assignments ≠ []) (noFile : source.file = none) (files : Files) :
    ∃ members, source.document files = .ok (.object members) ∧ Members.Ascending members ∧
      ∀ key value, (key, value) ∈ members ↔ IsLast source.assignments key value := by
  have ordered := Members.ascending_ofEntries (source.assignments.map memberOf)
  refine ⟨Members.ofEntries (source.assignments.map memberOf), ?_, ordered, fun key value => ?_⟩
  · rw [Console.Source.document, noFile]
    simp only [List.isEmpty_eq_false_iff.mpr assigned, Bool.false_eq_true, if_false]
    rfl
  · rw [← Members.find?_eq_some_iff_mem ordered, Members.find?_ofEntries_eq_some_iff]
    constructor
    · rintro ⟨earlier, later, parted, others⟩
      rcases List.map_eq_append_iff.mp parted with ⟨before, behind, whole, rfl, rest⟩
      rcases List.map_eq_cons_iff.mp rest with ⟨assignment, after, rfl, same, rfl⟩
      cases same
      exact ⟨before, after, whole, fun other member => others _ (List.mem_map_of_mem member)⟩
    · rintro ⟨earlier, later, parted, others⟩
      have whole : source.assignments.map memberOf = earlier.map memberOf ++ (key, value) :: later.map memberOf := by
        rw [parted, List.map_append]
        rfl
      exact ⟨_, _, whole, List.forall_mem_map.mpr others⟩

/-- What a command line stores comes from its words: from the file that they give or from all assignments that
they give, and never from nothing. A command line with a text for an assignment that is none is not accepted. -/
theorem settings_of_words (environment : Environment) (words : List String) :
    (∀ invocation source, parse environment words = .ok invocation → invocation.action = .set source →
      ComesFrom words source ∧
        ∀ files, source.document files ≠ .error (.rejected "no settings provided") ∧
          (source.assignments ≠ [] →
            ∃ members, source.document files = .ok (.object members) ∧ Members.Ascending members ∧
              ∀ key value, (key, value) ∈ members ↔ IsLast source.assignments key value)) ∧
    ∀ text ∈ Opt.assign.textsIn words, ∀ error, Assignment.parse text = .error error →
      ∀ invocation, parse environment words ≠ .ok invocation := by
  constructor
  · intro invocation source parsed stores
    have comes := comesFrom_of_parse parsed stores
    refine ⟨comes, fun files => ⟨?_, fun assigned => exists_document assigned (comes.either.mp assigned) files⟩⟩
    cases given : source.file with
    | some path =>
        rw [Console.Source.document, given]
        exact documentOfFile_ne_nothing files path
    | none =>
        rcases exists_document (comes.either.mpr given) given files with ⟨members, made, _⟩
        rw [made]
        exact fun same => by cases same
  · intro text member error refused invocation parsed
    rcases parse_of_mem_textsIn parsed member with ⟨assignment, assigned⟩
    rw [refused] at assigned
    cases assigned

def scatteredWords : List String :=
  ["--output=json", "settings", "--timeout", "5", "set", "--set", "a=1", "--log-level=info", "--set=b==x",
    "--set=a=true"]

def Action.stored? : Action → Option Console.Source
  | .set source => some source
  | _ => none

theorem settings_of_words_of_scattered :
    (∃ invocation source members, parse {} scatteredWords = .ok invocation ∧ invocation.action = .set source ∧
      source.document [] = .ok (.object members) ∧ ("a", .bool true) ∈ members) ∧
    ∀ invocation, parse {} (scatteredWords ++ ["--set", "x"]) ≠ .ok invocation := by
  refine ⟨?_, (settings_of_words {} _).2 "x" (by decide +kernel) (.noMark "x") rfl⟩
  have stores : ((parse {} scatteredWords).toOption.map fun invocation => invocation.action.stored?.isSome) =
      some true := by decide +kernel
  cases parsed : parse {} scatteredWords with
  | error stop =>
      rw [parsed] at stores
      cases stores
  | ok invocation =>
      rw [parsed] at stores
      rcases invocation with ⟨globals, action⟩
      cases action with
      | set source =>
          rcases (settings_of_words {} scatteredWords).1 _ source parsed rfl with ⟨comes, provided⟩
          have texts : Opt.assign.textsIn scatteredWords = ["a=1", "b==x"] ++ ["a=true"] := by decide +kernel
          have each := comes.assignments
          rw [texts, List.map_append] at each
          rcases List.map_eq_append_iff.mp each with ⟨earlier, rest, whole, _, final⟩
          rcases List.map_eq_cons_iff.mp final with ⟨last, none, rfl, same, nil⟩
          rw [List.map_eq_nil_iff.mp nil] at whole
          have assigned : Assignment.parse "a=true" = .ok ⟨"a", .bool true⟩ := rfl
          cases same.trans assigned
          rcases (provided []).2 (by simp [whole]) with ⟨members, made, _, named⟩
          exact ⟨_, source, members, rfl, rfl, made, (named _ _).mpr ⟨earlier, [], whole, by simp⟩⟩
      | _ => cases stores

end NodeConsole.CommandLine
