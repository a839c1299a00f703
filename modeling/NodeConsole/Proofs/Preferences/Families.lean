import Mathlib.Data.List.Induction
import Mathlib.Logic.Relation
import NodeConsole.Preferences.Store
/-!
Families of handles over whole runs. Which family a handle was created in never changes, and two
handles were created in the same family exactly if a chain of clonings connects them, whether the
handles on the way were dropped or not.
-/

namespace NodeConsole.Preferences

namespace Store

/-! ## What one operation does -/

def Starts (store : Store) (operation : Operation) (seed : Preferences) : Prop :=
  operation = .create seed ∨ ∃ source, operation = .reseed source ∧ store.view? source = some seed

def Writes (store : Store) (operation : Operation) (family : Nat) (flag : Flag) (value : Bool) : Prop :=
  ∃ writer, operation = .set writer flag value ∧ store.family? writer = some family

theorem family?_eq_some_iff {store : Store} {handle family : Nat} :
    store.family? handle = some family ↔ store.handles[handle]? = some (some family) := by
  rw [family?, Option.join_eq_some_iff]

theorem lt_of_family? {store : Store} {handle family : Nat}
    (found : store.family? handle = some family) : handle < store.handles.length :=
  (List.getElem?_eq_some_iff.mp (family?_eq_some_iff.mp found)).1

theorem family?_append (store : Store) (families : List Preferences) (new handle family : Nat) :
    family? ⟨families, store.handles ++ [some new]⟩ handle = some family ↔
      store.family? handle = some family ∨ (handle = store.handles.length ∧ family = new) := by
  rw [family?_eq_some_iff, family?_eq_some_iff]
  rcases Nat.lt_trichotomy handle store.handles.length with earlier | same | later
  · rw [List.getElem?_append_left earlier]
    simp [Nat.ne_of_lt earlier]
  · subst same
    simp [eq_comm]
  · rw [List.getElem?_append_right (Nat.le_of_lt later), List.getElem?_eq_none (Nat.le_of_lt later)]
    have beyond : handle - store.handles.length ≠ 0 := by omega
    simp [beyond, Nat.ne_of_gt later]

theorem family?_release {store : Store} {dropped handle family : Nat} :
    (store.release dropped).family? handle = some family ↔
      store.family? handle = some family ∧ handle ≠ dropped := by
  rw [family?_eq_some_iff, family?_eq_some_iff, release, List.getElem?_set]
  by_cases same : dropped = handle
  · subst same
    simp
  · simp [same, Ne.symm same]

/-- A handle of a family was one before the operation and was not dropped by it, or is the new one of an
operation that starts the family or clones one of its handles. -/
theorem family?_step {store : Store} {operation : Operation} {handle family : Nat} :
    (store.step operation).1.family? handle = some family ↔
      (store.family? handle = some family ∧ operation ≠ .drop handle) ∨
        (handle = store.handles.length ∧
          ((∃ seed, store.Starts operation seed ∧ family = store.families.length) ∨
            ∃ old, operation = .clone old ∧ store.family? old = some family)) := by
  cases operation with
  | create seed =>
      rw [step, create, family?_append]
      simp [Starts]
  | reseed source =>
      rw [step]
      cases seen : store.view? source with
      | none => simp [Starts, seen]
      | some state =>
          dsimp only
          rw [create, family?_append]
          simp [Starts, seen]
  | clone old =>
      rw [step]
      cases found : store.family? old with
      | none => simp [Starts, found]
      | some present =>
          dsimp only
          rw [join, family?_append]
          simp [Starts, found, eq_comm]
  | set writer flag value =>
      rw [step]
      cases found : store.family? writer <;> simp [Starts, write, family?]
  | get reader flag =>
      rw [step]
      cases seen : store.view? reader <;> simp [Starts]
  | snapshot reader =>
      rw [step]
      cases seen : store.view? reader <;> simp [Starts]
  | drop dropped =>
      rw [step]
      cases found : store.family? dropped with
      | none =>
          have kept : store.family? handle = some family → dropped ≠ handle := by
            rintro present rfl
            rw [found] at present
            cases present
          simpa [Starts] using kept
      | some present =>
          dsimp only
          rw [family?_release]
          simp [Starts, eq_comm]

theorem length_families_step (store : Store) (operation : Operation) :
    store.families.length ≤ (store.step operation).1.families.length := by
  fun_cases step store operation <;> simp [create, join, write, release]

theorem length_handles_step (store : Store) (operation : Operation) :
    store.handles.length ≤ (store.step operation).1.handles.length := by
  fun_cases step store operation <;> simp [create, join, write, release]

theorem step_of_starts {store : Store} {operation : Operation} {seed : Preferences}
    (starts : store.Starts operation seed) : (store.step operation).1 = store.create seed := by
  rcases starts with rfl | ⟨source, rfl, seen⟩
  · rfl
  · rw [step, seen]

/-! ## Runs -/

def after (operations : List Operation) : Store :=
  run {} operations

theorem after_concat (operations : List Operation) (operation : Operation) :
    after (operations ++ [operation]) = ((after operations).step operation).1 := by
  simp [after, run]

end Store

open Store (after after_concat)

theorem concat_eq_append_cons_iff {α : Type} {items before later : List α} {last item : α} :
    items ++ [last] = before ++ item :: later ↔
      (before = items ∧ item = last ∧ later = []) ∨
        ∃ earlier, later = earlier ++ [last] ∧ items = before ++ item :: earlier := by
  constructor
  · intro cut
    rcases List.eq_nil_or_concat later with rfl | ⟨earlier, final, rfl⟩
    · rcases List.append_inj' cut rfl with ⟨same, final⟩
      exact .inl ⟨same.symm, (List.cons.inj final).1.symm, rfl⟩
    · rw [List.concat_eq_append, ← List.cons_append, ← List.append_assoc] at cut
      rcases List.append_inj' cut rfl with ⟨same, last⟩
      refine .inr ⟨earlier, ?_, same⟩
      rw [List.concat_eq_append, (List.cons.inj last).1]
  · rintro (⟨rfl, rfl, rfl⟩ | ⟨earlier, rfl, rfl⟩)
    · rfl
    · simp

def Live (operations : List Operation) (handle : Nat) : Prop :=
  ∃ family, (after operations).family? handle = some family

def Clones (operations : List Operation) (old new : Nat) : Prop :=
  ∃ before later, operations = before ++ .clone old :: later ∧ Live before old ∧
    new = (after before).handles.length

def Related (operations : List Operation) : Nat → Nat → Prop :=
  Relation.EqvGen (Clones operations)

def Born (operations : List Operation) (handle family : Nat) : Prop :=
  ∃ before operation later, operations = before ++ operation :: later ∧
    handle = (after before).handles.length ∧
    (after (before ++ [operation])).family? handle = some family

theorem clones_concat {operations : List Operation} {operation : Operation} {old new : Nat} :
    Clones (operations ++ [operation]) old new ↔
      Clones operations old new ∨
        (operation = .clone old ∧ Live operations old ∧ new = (after operations).handles.length) := by
  constructor
  · rintro ⟨before, later, cut, live, rfl⟩
    rcases concat_eq_append_cons_iff.mp cut with ⟨rfl, same, rfl⟩ | ⟨earlier, rfl, rfl⟩
    · exact .inr ⟨same.symm, live, rfl⟩
    · exact .inl ⟨before, earlier, rfl, live, rfl⟩
  · rintro (⟨before, later, rfl, live, rfl⟩ | ⟨rfl, live, rfl⟩)
    · exact ⟨before, later ++ [operation], by simp, live, rfl⟩
    · exact ⟨operations, [], rfl, live, rfl⟩

theorem born_concat {operations : List Operation} {operation : Operation} {handle family : Nat} :
    Born (operations ++ [operation]) handle family ↔
      Born operations handle family ∨
        (handle = (after operations).handles.length ∧
          (after (operations ++ [operation])).family? handle = some family) := by
  constructor
  · rintro ⟨before, other, later, cut, rfl, found⟩
    rcases concat_eq_append_cons_iff.mp cut with ⟨rfl, rfl, rfl⟩ | ⟨earlier, rfl, rfl⟩
    · exact .inr ⟨rfl, found⟩
    · exact .inl ⟨before, other, earlier, rfl, rfl, found⟩
  · rintro (⟨before, other, later, rfl, rfl, found⟩ | ⟨rfl, found⟩)
    · exact ⟨before, other, later ++ [operation], by simp, rfl, found⟩
    · exact ⟨operations, operation, [], rfl, rfl, found⟩

theorem not_born_nil {handle family : Nat} : ¬Born [] handle family := by
  rintro ⟨before, operation, later, cut, _⟩
  simp at cut

theorem Related.concat {operations : List Operation} {left right : Nat}
    (related : Related operations left right) (operation : Operation) :
    Related (operations ++ [operation]) left right := by
  have kept : Clones operations ≤ Clones (operations ++ [operation]) := by
    intro old new clones
    exact clones_concat.mpr (.inl clones)
  exact Relation.EqvGen.mono kept _ _ related

/-! ## Families -/

theorem born_of_family? {operations : List Operation} {handle family : Nat}
    (found : (after operations).family? handle = some family) : Born operations handle family := by
  induction operations using List.reverseRecOn with
  | nil => cases found
  | append_singleton operations operation induction =>
      apply born_concat.mpr
      have stepped := found
      rw [after_concat, Store.family?_step] at stepped
      rcases stepped with ⟨earlier, _⟩ | ⟨new, _⟩
      · exact .inl (induction earlier)
      · exact .inr ⟨new, found⟩

theorem Born.lt {operations : List Operation} {handle family : Nat}
    (born : Born operations handle family) :
    handle < (after operations).handles.length ∧ family < (after operations).families.length := by
  induction operations using List.reverseRecOn generalizing handle with
  | nil => exact absurd born not_born_nil
  | append_singleton operations operation induction =>
      rcases born_concat.mp born with earlier | ⟨new, found⟩
      · rcases induction earlier with ⟨handles, families⟩
        rw [after_concat]
        exact ⟨Nat.lt_of_lt_of_le handles (Store.length_handles_step ..),
          Nat.lt_of_lt_of_le families (Store.length_families_step ..)⟩
      · refine ⟨Store.lt_of_family? found, ?_⟩
        rw [after_concat] at found ⊢
        rcases Store.family?_step.mp found with ⟨earlier, _⟩ | ⟨_, ⟨seed, starts, rfl⟩ | ⟨old, _, source⟩⟩
        · exact Nat.lt_of_lt_of_le (induction (born_of_family? earlier)).2
            (Store.length_families_step ..)
        · rw [Store.step_of_starts starts, Store.create, List.length_append]
          exact Nat.lt_succ_self _
        · exact Nat.lt_of_lt_of_le (induction (born_of_family? source)).2
            (Store.length_families_step ..)

theorem Born.unique {operations : List Operation} {handle left right : Nat}
    (first : Born operations handle left) (second : Born operations handle right) : left = right := by
  induction operations using List.reverseRecOn with
  | nil => exact absurd first not_born_nil
  | append_singleton operations operation induction =>
      rcases born_concat.mp first with firstEarlier | ⟨firstNew, firstFound⟩
      · rcases born_concat.mp second with secondEarlier | ⟨secondNew, _⟩
        · exact induction firstEarlier secondEarlier
        · exact absurd firstEarlier.lt.1 (by omega)
      · rcases born_concat.mp second with secondEarlier | ⟨_, secondFound⟩
        · exact absurd secondEarlier.lt.1 (by omega)
        · exact Option.some.inj (firstFound.symm.trans secondFound)

theorem Born.append {before : List Operation} {handle family : Nat}
    (born : Born before handle family) (later : List Operation) :
    Born (before ++ later) handle family := by
  rcases born with ⟨earlier, operation, rest, rfl, new, found⟩
  exact ⟨earlier, operation, rest ++ later, by simp, new, found⟩

theorem Clones.born_iff {operations : List Operation} {old new family : Nat}
    (clones : Clones operations old new) :
    Born operations old family ↔ Born operations new family := by
  rcases clones with ⟨before, later, rfl, ⟨shared, found⟩, rfl⟩
  have source : Born (before ++ .clone old :: later) old shared :=
    (born_of_family? found).append _
  have copy : Born (before ++ .clone old :: later) (after before).handles.length shared := by
    refine ⟨before, .clone old, later, rfl, rfl, ?_⟩
    rw [after_concat, Store.family?_step]
    exact .inr ⟨rfl, .inr ⟨old, rfl, found⟩⟩
  constructor
  · intro born
    exact source.unique born ▸ copy
  · intro born
    exact copy.unique born ▸ source

theorem Related.born_iff {operations : List Operation} {left right family : Nat}
    (related : Related operations left right) :
    Born operations left family ↔ Born operations right family := by
  induction related with
  | rel left right clones => exact clones.born_iff
  | refl handle => rfl
  | symm left right _ induction => exact induction.symm
  | trans left middle right _ _ first second => exact first.trans second

theorem clone_of_new {operations : List Operation} {operation : Operation} {family : Nat}
    (found : (after (operations ++ [operation])).family? (after operations).handles.length = some family)
    (known : family < (after operations).families.length) :
    ∃ old, operation = .clone old ∧ (after operations).family? old = some family := by
  rw [after_concat] at found
  rcases Store.family?_step.mp found with ⟨present, _⟩ | ⟨_, ⟨seed, _, rfl⟩ | cloned⟩
  · exact absurd (Store.lt_of_family? present) (Nat.lt_irrefl _)
  · exact absurd known (Nat.lt_irrefl _)
  · exact cloned

theorem related_of_new {operations : List Operation} {operation : Operation} {handle family : Nat}
    (earlier : Born operations handle family)
    (connected : ∀ other, Born operations other family → Related operations handle other)
    (found : (after (operations ++ [operation])).family? (after operations).handles.length = some family) :
    Related (operations ++ [operation]) handle (after operations).handles.length := by
  rcases clone_of_new found earlier.lt.2 with ⟨old, rfl, source⟩
  have clones : Clones (operations ++ [.clone old]) old (after operations).handles.length :=
    clones_concat.mpr (.inr ⟨rfl, ⟨family, source⟩, rfl⟩)
  have linked : Related operations handle old := connected old (born_of_family? source)
  exact (linked.concat _).trans _ _ _ (.rel _ _ clones)

/-- Handles created in one family are connected by clonings. -/
theorem Born.related {operations : List Operation} {left right family : Nat}
    (first : Born operations left family) (second : Born operations right family) :
    Related operations left right := by
  induction operations using List.reverseRecOn generalizing left right with
  | nil => exact absurd first not_born_nil
  | append_singleton operations operation induction =>
      rcases born_concat.mp first with firstEarlier | ⟨rfl, firstFound⟩
      · rcases born_concat.mp second with secondEarlier | ⟨rfl, secondFound⟩
        · exact (induction firstEarlier secondEarlier).concat operation
        · exact related_of_new firstEarlier (fun _ => induction firstEarlier) secondFound
      · rcases born_concat.mp second with secondEarlier | ⟨rfl, _⟩
        · have linked := related_of_new secondEarlier (fun _ => induction secondEarlier) firstFound
          exact linked.symm
        · exact .refl _

/-- Handles are related exactly if they were created in the same family. -/
theorem Born.related_iff {operations : List Operation} {handle other family : Nat}
    (born : Born operations handle family) :
    Related operations other handle ↔ Born operations other family := by
  constructor
  · intro related
    exact related.born_iff.mpr born
  · intro same
    exact same.related born

end NodeConsole.Preferences
