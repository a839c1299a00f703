import NodeConsole.Logging.Journal
import NodeConsole.Proofs.Results
/-!
Attempts to install a journal, one after another. The first of them settles which build a process is of and
where its records go, also where it fails; the later ones fail and change neither.
-/

namespace NodeConsole.Logging

structure Attempt where
  setting : Option String
  setup : Setup
deriving DecidableEq, Repr

theorem filterFor_of_parse {text : String} {filter : Filter} (read : Filter.parse text = .ok filter)
    (level : String) : filterFor (some text) level = (filter, []) := by
  rw [filterFor, read]

namespace Journal

def attemptAll (journal : Journal) : List Attempt → List (Bool × Journal)
  | [] => []
  | attempt :: later =>
    let outcome := journal.install attempt.setting attempt.setup
    outcome :: outcome.2.attemptAll later

theorem attemptAll_cons (journal : Journal) (attempt : Attempt) (later : List Attempt) :
    journal.attemptAll (attempt :: later) =
      journal.install attempt.setting attempt.setup ::
        (journal.install attempt.setting attempt.setup).2.attemptAll later :=
  rfl

/-! ## Single attempts -/

section

variable {journal : Journal} (setting : Option String) (setup : Setup)

theorem install_of_absent (absent : journal.sink = .absent) :
    journal.install setting setup =
      (true, ⟨some (journal.build?.getD setup.build),
        .installed (filterFor setting setup.level).1 setup.format⟩) := by
  rw [← build?_install setting setup journal, install, absent]

/-- Where records go somewhere already, an attempt fails; at most it names the build. -/
theorem install_of_placed (placed : journal.sink ≠ .absent) :
    journal.install setting setup =
      (false, ⟨some (journal.build?.getD setup.build), journal.sink⟩) := by
  rw [← build?_install setting setup journal, install]
  cases sink : journal.sink with
  | absent => exact absurd sink placed
  | foreign => rfl
  | installed filter format => rfl

end

/-! ## Settled journals -/

structure IsSettled (journal : Journal) : Prop where
  named : journal.build?.isSome
  placed : journal.sink ≠ .absent

theorem isSettled_install (setting : Option String) (setup : Setup) (journal : Journal) :
    (journal.install setting setup).2.IsSettled where
  named := by
    rw [build?_install]
    rfl
  placed := sink_install_ne_absent setting setup journal

/-- An attempt on a settled journal fails and leaves it as it is. -/
theorem IsSettled.install_eq {journal : Journal} (settled : journal.IsSettled)
    (setting : Option String) (setup : Setup) :
    journal.install setting setup = (false, journal) := by
  obtain ⟨build, named⟩ := Option.isSome_iff_exists.mp settled.named
  rw [install_of_placed setting setup settled.placed, named, Option.getD_some, ← named]

theorem IsSettled.attemptAll_eq {journal : Journal} (settled : journal.IsSettled)
    (attempts : List Attempt) :
    journal.attemptAll attempts = List.replicate attempts.length (false, journal) := by
  induction attempts with
  | nil => rfl
  | cons attempt later induction =>
      rw [attemptAll_cons, settled.install_eq, induction, List.length_cons, List.replicate_succ]

/-! ## Runs of attempts -/

def unnamed (sink : Sink) : Journal :=
  { sink }

theorem attemptAll_eq (journal : Journal) (first : Attempt) (later : List Attempt) :
    journal.attemptAll (first :: later) =
      journal.install first.setting first.setup ::
        List.replicate later.length (false, (journal.install first.setting first.setup).2) := by
  rw [attemptAll_cons, (isSettled_install first.setting first.setup journal).attemptAll_eq]

theorem snd_of_mem_attemptAll {journal : Journal} {first : Attempt} {later : List Attempt}
    {outcome : Bool × Journal} (member : outcome ∈ journal.attemptAll (first :: later)) :
    outcome.2 = (journal.install first.setting first.setup).2 := by
  rw [attemptAll_eq] at member
  cases List.mem_cons.mp member with
  | inl same => rw [same]
  | inr afterwards => rw [List.eq_of_mem_replicate afterwards]

theorem sink_install (setting : Option String) (setup : Setup) (journal : Journal) :
    (journal.install setting setup).2.sink =
      if journal.sink = .absent then .installed (filterFor setting setup.level).1 setup.format
      else journal.sink := by
  by_cases absent : journal.sink = .absent
  · rw [install_of_absent setting setup absent, if_pos absent]
  · rw [install_of_placed setting setup absent, if_neg absent]

theorem installs_iff (setting : Option String) (setup : Setup) (journal : Journal) :
    (journal.install setting setup).1 = true ↔ journal.sink = .absent := by
  by_cases absent : journal.sink = .absent
  · simp only [install_of_absent setting setup absent, absent]
  · simp only [install_of_placed setting setup absent, absent, Bool.false_eq_true]

/-- The first attempt of a process settles everything. Before it the build is `dev`; behind it and behind
each later one the build is the one that the first names, also where it fails. It installs a journal exactly
if records go nowhere before, and no later attempt installs one; filter and form are those of the first
attempt and stay. Where the environment has a filter that can be read, that is the one, and nothing depends
on the level. -/
theorem settled_by_first (sink : Sink) (first : Attempt) (later : List Attempt) :
    (unnamed sink).build = "dev" ∧
      ((unnamed sink).attemptAll (first :: later)).length = (first :: later).length ∧
      (∀ outcome ∈ (unnamed sink).attemptAll (first :: later),
        outcome.2.build = first.setup.build) ∧
      (∀ place outcome, ((unnamed sink).attemptAll (first :: later))[place]? = some outcome →
        (outcome.1 = true ↔ place = 0 ∧ sink = .absent)) ∧
      (∀ outcome ∈ (unnamed sink).attemptAll (first :: later),
        outcome.2.sink =
          if sink = .absent then
            .installed (filterFor first.setting first.setup.level).1 first.setup.format
          else sink) ∧
      ∀ text filter, first.setting = some text → Filter.parse text = .ok filter →
        (filterFor first.setting first.setup.level).1 = filter ∧
          ∀ level, (unnamed sink).attemptAll
              ({ first with setup := { first.setup with level } } :: later) =
            (unnamed sink).attemptAll (first :: later) := by
  refine ⟨rfl, ?_, ?_, ?_, ?_, ?_⟩
  · rw [attemptAll_eq, List.length_cons, List.length_replicate, List.length_cons]
  · intro outcome member
    rw [snd_of_mem_attemptAll member, build, build?_install]
    rfl
  · intro place outcome found
    rw [attemptAll_eq] at found
    cases place with
    | zero =>
        cases found
        rw [installs_iff]
        simp only [unnamed, true_and]
    | succ place =>
        rw [List.getElem?_cons_succ] at found
        rw [List.eq_of_mem_replicate (List.mem_of_getElem? found)]
        simp
  · intro outcome member
    rw [snd_of_mem_attemptAll member, sink_install]
    rfl
  · intro text filter named read
    constructor
    · rw [named, filterFor_of_parse read]
    · intro level
      have same : (unnamed sink).install first.setting { first.setup with level } =
          (unnamed sink).install first.setting first.setup := by
        simp only [install, named, filterFor_of_parse read]
      rw [attemptAll_eq, attemptAll_eq, same]

def informedAttempt : Attempt :=
  ⟨some "app=debug,warn", ⟨"info", .json, "abc123"⟩⟩

def lateAttempt : Attempt :=
  ⟨none, ⟨"trace", .pretty, "def456"⟩⟩

def environmentFilter : Filter :=
  ⟨[{ target := some "app", threshold := .upTo .debug }, { threshold := .upTo .warn }]⟩

theorem settled_by_first_of_informed :
    Filter.parse "app=debug,warn" = .ok environmentFilter ∧
      (∀ outcome ∈ (unnamed .absent).attemptAll [informedAttempt, lateAttempt],
        outcome.2.build = "abc123" ∧ outcome.2.sink = .installed environmentFilter .json) ∧
      (unnamed .absent).attemptAll [⟨some "app=debug,warn", ⟨"off", .json, "abc123"⟩⟩, lateAttempt] =
        (unnamed .absent).attemptAll [informedAttempt, lateAttempt] ∧
      ∀ outcome ∈ (unnamed .foreign).attemptAll [informedAttempt, lateAttempt],
        outcome.2.build = "abc123" ∧ outcome.2.sink = .foreign := by
  have read : Filter.parse "app=debug,warn" = .ok environmentFilter :=
    toOption_eq_some_iff.mp (by decide +kernel)
  obtain ⟨_, _, builds, _, sinks, levels⟩ :=
    settled_by_first .absent informedAttempt [lateAttempt]
  obtain ⟨sameFilter, sameRun⟩ := levels "app=debug,warn" environmentFilter rfl read
  obtain ⟨_, _, foreignBuilds, _, foreignSinks, _⟩ :=
    settled_by_first .foreign informedAttempt [lateAttempt]
  refine ⟨read, fun outcome member => ⟨builds outcome member, ?_⟩, sameRun "off",
    fun outcome member => ⟨foreignBuilds outcome member, foreignSinks outcome member⟩⟩
  rw [sinks outcome member, sameFilter]
  rfl

end Journal

end NodeConsole.Logging
