import NodeConsole.Proofs.Preferences.Families
/-!
What is read through a handle after any run: the value of the latest setter of the flag in the handle's
family, or, where there was none, the value that the family was started with.
-/

namespace NodeConsole.Preferences

namespace Store

/-! ## What one operation writes -/

theorem getElem?_families_step_of_not_writes {store : Store} {operation : Operation} {family : Nat}
    (known : family < store.families.length)
    (silent : ∀ flag value, ¬store.Writes operation family flag value) :
    (store.step operation).1.families[family]? = store.families[family]? := by
  have appended (seed : Preferences) :
      (store.families ++ [seed])[family]? = store.families[family]? :=
    List.getElem?_append_left known
  fun_cases step store operation with
  | case1 seed => exact appended seed
  | case2 source seed seen => exact appended seed
  | case6 writer flag value other found =>
      have elsewhere : other ≠ family := by
        rintro rfl
        exact silent flag value ⟨writer, rfl, found⟩
      simp [write, elsewhere]
  | _ => rfl

theorem writes_set_iff {store : Store} {writer family : Nat} {flag other : Flag} {value seen : Bool}
    (found : store.family? writer = some family) :
    store.Writes (.set writer flag value) family other seen ↔ flag = other ∧ value = seen := by
  constructor
  · rintro ⟨_, same, _⟩
    cases same
    exact ⟨rfl, rfl⟩
  · rintro ⟨rfl, rfl⟩
    exact ⟨writer, rfl, found⟩

/-- A flag of a family is afterwards what the operation wrote to it, if it wrote to it at all. -/
theorem getElem?_families_step {store : Store} {operation : Operation} {family : Nat}
    {old : Preferences} (present : store.families[family]? = some old) :
    ∃ new, (store.step operation).1.families[family]? = some new ∧
      ∀ flag value, new.get flag = value ↔
        store.Writes operation family flag value ∨
          ((¬∃ written, store.Writes operation family flag written) ∧ old.get flag = value) := by
  have known : family < store.families.length := (List.getElem?_eq_some_iff.mp present).1
  by_cases silent : ∀ flag value, ¬store.Writes operation family flag value
  · refine ⟨old, (getElem?_families_step_of_not_writes known silent).trans present, ?_⟩
    intro flag value
    simp [silent]
  · simp only [not_forall, not_not] at silent
    rcases silent with ⟨flag, value, writer, rfl, found⟩
    refine ⟨old.set flag value, ?_, ?_⟩
    · rw [step, found]
      simp [write, present]
    · intro other seen
      simp only [writes_set_iff found]
      by_cases same : other = flag
      · subst same
        simp
      · simp [get_set_other same, Ne.symm same]

theorem length_families_step_of_not_starts {store : Store} {operation : Operation}
    (idle : ∀ seed, ¬store.Starts operation seed) :
    (store.step operation).1.families.length = store.families.length := by
  fun_cases step store operation with
  | case1 seed => exact absurd (.inl rfl) (idle seed)
  | case2 source seed seen => exact absurd (.inr ⟨source, rfl, seen⟩) (idle seed)
  | _ => simp [join, write, release]

theorem starts_of_getElem?_families_step {store : Store} {operation : Operation} {family : Nat}
    {state : Preferences} (present : (store.step operation).1.families[family]? = some state)
    (unknown : store.families.length ≤ family) :
    store.Starts operation state ∧ family = store.families.length := by
  have bound := (List.getElem?_eq_some_iff.mp present).1
  by_cases idle : ∀ seed, ¬store.Starts operation seed
  · rw [length_families_step_of_not_starts idle] at bound
    omega
  · simp only [not_forall, not_not] at idle
    rcases idle with ⟨seed, starts⟩
    rw [step_of_starts starts, create] at present bound
    dsimp only at present bound
    rw [List.length_append, List.length_singleton] at bound
    have last : family = store.families.length := by omega
    subst last
    rw [List.getElem?_concat_length] at present
    cases present
    exact ⟨starts, rfl⟩

end Store

open Store (after after_concat)

/-! ## What a run writes -/

def WroteTo (operations : List Operation) (family : Nat) (flag : Flag) (value : Bool)
    (later : List Operation) : Prop :=
  ∃ before operation, operations = before ++ operation :: later ∧
    (after before).Writes operation family flag value

def Began (operations : List Operation) (family : Nat) (seed : Preferences) : Prop :=
  ∃ before operation later, operations = before ++ operation :: later ∧
    (after before).Starts operation seed ∧ family = (after before).families.length

def Settled (operations : List Operation) (family : Nat) (flag : Flag) (value : Bool) : Prop :=
  (∃ later, WroteTo operations family flag value later ∧
      ∀ other rest, WroteTo operations family flag other rest → later.length ≤ rest.length) ∨
    (∀ other rest, ¬WroteTo operations family flag other rest) ∧
      ∃ seed, Began operations family seed ∧ seed.get flag = value

theorem wroteTo_concat {operations later : List Operation} {operation : Operation} {family : Nat}
    {flag : Flag} {value : Bool} :
    WroteTo (operations ++ [operation]) family flag value later ↔
      (later = [] ∧ (after operations).Writes operation family flag value) ∨
        ∃ earlier, later = earlier ++ [operation] ∧ WroteTo operations family flag value earlier := by
  constructor
  · rintro ⟨before, other, cut, writes⟩
    rcases concat_eq_append_cons_iff.mp cut with ⟨rfl, rfl, rfl⟩ | ⟨earlier, rfl, rfl⟩
    · exact .inl ⟨rfl, writes⟩
    · exact .inr ⟨earlier, rfl, before, other, rfl, writes⟩
  · rintro (⟨rfl, writes⟩ | ⟨earlier, rfl, before, other, rfl, writes⟩)
    · exact ⟨operations, operation, rfl, writes⟩
    · exact ⟨before, other, by simp, writes⟩

theorem began_concat {operations : List Operation} {operation : Operation} {family : Nat}
    {seed : Preferences} :
    Began (operations ++ [operation]) family seed ↔
      Began operations family seed ∨
        ((after operations).Starts operation seed ∧ family = (after operations).families.length) := by
  constructor
  · rintro ⟨before, other, later, cut, starts, new⟩
    rcases concat_eq_append_cons_iff.mp cut with ⟨rfl, rfl, rfl⟩ | ⟨earlier, rfl, rfl⟩
    · exact .inr ⟨starts, new⟩
    · exact .inl ⟨before, other, earlier, rfl, starts, new⟩
  · rintro (⟨before, other, later, rfl, starts, new⟩ | ⟨starts, new⟩)
    · exact ⟨before, other, later ++ [operation], by simp, starts, new⟩
    · exact ⟨operations, operation, [], rfl, starts, new⟩

theorem Began.lt {operations : List Operation} {family : Nat} {seed : Preferences}
    (began : Began operations family seed) : family < (after operations).families.length := by
  induction operations using List.reverseRecOn with
  | nil =>
      rcases began with ⟨before, operation, later, cut, _⟩
      simp at cut
  | append_singleton operations operation induction =>
      rw [after_concat]
      rcases began_concat.mp began with earlier | ⟨starts, rfl⟩
      · exact Nat.lt_of_lt_of_le (induction earlier) (Store.length_families_step ..)
      · rw [Store.step_of_starts starts, Store.create, List.length_append]
        exact Nat.lt_succ_self _

theorem WroteTo.lt {operations later : List Operation} {family : Nat} {flag : Flag} {value : Bool}
    (wrote : WroteTo operations family flag value later) :
    family < (after operations).families.length := by
  rcases wrote with ⟨before, _, rfl, writer, rfl, found⟩
  exact ((born_of_family? found).append _).lt.2

/-- One more operation: what it writes is settled, and all else stays. -/
theorem settled_concat {operations : List Operation} {operation : Operation} {family : Nat}
    {flag : Flag} {value : Bool} (known : family < (after operations).families.length) :
    Settled (operations ++ [operation]) family flag value ↔
      (after operations).Writes operation family flag value ∨
        ((¬∃ written, (after operations).Writes operation family flag written) ∧
          Settled operations family flag value) := by
  have begun (seed : Preferences) :
      Began (operations ++ [operation]) family seed ↔ Began operations family seed := by
    rw [began_concat]
    have old : family ≠ (after operations).families.length := Nat.ne_of_lt known
    simp [old]
  by_cases writes : ∃ written, (after operations).Writes operation family flag written
  · rcases writes with ⟨written, now⟩
    have latest : WroteTo (operations ++ [operation]) family flag written [] :=
      wroteTo_concat.mpr (.inl ⟨rfl, now⟩)
    constructor
    · rintro (⟨later, wrote, last⟩ | ⟨never, _⟩)
      · have none : later = [] := List.length_eq_zero_iff.mp (Nat.le_zero.mp (last _ _ latest))
        subst none
        rcases wroteTo_concat.mp wrote with ⟨_, same⟩ | ⟨earlier, cut, _⟩
        · exact .inl same
        · simp at cut
      · exact absurd latest (never _ _)
    · rintro (same | ⟨silent, _⟩)
      · exact .inl ⟨[], wroteTo_concat.mpr (.inl ⟨rfl, same⟩), fun _ _ _ => Nat.zero_le _⟩
      · exact absurd ⟨written, now⟩ silent
  · have silent (v : Bool) : ¬(after operations).Writes operation family flag v :=
      fun now => writes ⟨v, now⟩
    have wrote (v : Bool) (later : List Operation) :
        WroteTo (operations ++ [operation]) family flag v later ↔
          ∃ earlier, later = earlier ++ [operation] ∧ WroteTo operations family flag v earlier := by
      rw [wroteTo_concat]
      simp [silent]
    simp only [Settled, wrote, begun, silent, exists_false, not_false_eq_true, true_and, false_or]
    constructor
    · rintro (⟨_, ⟨earlier, rfl, before⟩, last⟩ | ⟨never, seeded⟩)
      · refine .inl ⟨earlier, before, ?_⟩
        intro other rest present
        simpa using last other _ ⟨rest, rfl, present⟩
      · refine .inr ⟨?_, seeded⟩
        intro other rest present
        exact never other _ ⟨rest, rfl, present⟩
    · rintro (⟨earlier, before, last⟩ | ⟨never, seeded⟩)
      · refine .inl ⟨_, ⟨earlier, rfl, before⟩, ?_⟩
        rintro other _ ⟨rest, rfl, present⟩
        simpa using last other rest present
      · refine .inr ⟨?_, seeded⟩
        rintro other _ ⟨rest, _, present⟩
        exact never other rest present

theorem settled_of_starts {operations : List Operation} {operation : Operation} {flag : Flag}
    {value : Bool} {seed : Preferences} (starts : (after operations).Starts operation seed)
    (unique : ∀ other, (after operations).Starts operation other → other = seed) :
    Settled (operations ++ [operation]) (after operations).families.length flag value ↔
      seed.get flag = value := by
  have untouched (v : Bool) (later : List Operation) :
      ¬WroteTo (operations ++ [operation]) (after operations).families.length flag v later := by
    intro wrote
    rcases wroteTo_concat.mp wrote with ⟨_, writer, _, found⟩ | ⟨earlier, _, before⟩
    · exact absurd (born_of_family? found).lt.2 (Nat.lt_irrefl _)
    · exact absurd before.lt (Nat.lt_irrefl _)
  have begun (other : Preferences) :
      Began (operations ++ [operation]) (after operations).families.length other ↔
        (after operations).Starts operation other := by
    rw [began_concat]
    have fresh : ¬Began operations (after operations).families.length other :=
      fun began => absurd began.lt (Nat.lt_irrefl _)
    simp [fresh]
  simp only [Settled, untouched, begun, false_and, exists_false, false_or, not_false_eq_true,
    implies_true, true_and]
  constructor
  · rintro ⟨other, present, rfl⟩
    rw [unique other present]
  · intro same
    exact ⟨seed, starts, same⟩

theorem Store.Starts.unique {store : Store} {operation : Operation} {left right : Preferences}
    (first : store.Starts operation left) (second : store.Starts operation right) : right = left := by
  have same : (store.create left).families = (store.create right).families := by
    rw [← step_of_starts first, ← step_of_starts second]
  simpa [create, eq_comm] using same

/-- The state of a family is what the operations tell. -/
theorem get_eq_iff_settled {operations : List Operation} {family : Nat} {state : Preferences}
    (present : (after operations).families[family]? = some state) (flag : Flag) (value : Bool) :
    state.get flag = value ↔ Settled operations family flag value := by
  induction operations using List.reverseRecOn generalizing state value with
  | nil => cases present
  | append_singleton operations operation induction =>
      rw [after_concat] at present
      by_cases known : family < (after operations).families.length
      · rcases @Store.getElem?_families_step _ operation _ _
          (List.getElem?_eq_getElem known) with ⟨new, found, told⟩
        cases Option.some.inj (present.symm.trans found)
        rw [told, settled_concat known, induction (List.getElem?_eq_getElem known)]
      · rcases Store.starts_of_getElem?_families_step present (Nat.le_of_not_lt known) with
          ⟨starts, rfl⟩
        rw [settled_of_starts starts fun _ other => starts.unique other]

/-! ## What is read -/

def Operation.handle? : Operation → Option Nat
  | .create _ => none
  | .reseed handle | .clone handle | .set handle _ _ | .get handle _ | .snapshot handle
  | .drop handle => some handle

def Reads (operations : List Operation) (handle : Nat) (flag : Flag) (value : Bool) : Prop :=
  ((after operations).step (.get handle flag)).2 = .flag value

def Sets (operations : List Operation) (handle : Nat) (flag : Flag) (value : Bool)
    (later : List Operation) : Prop :=
  ∃ before writer, operations = before ++ .set writer flag value :: later ∧ Live before writer ∧
    Related operations writer handle

/-- The family of a handle was started with these preferences: its first handle is related. -/
def Seeded (operations : List Operation) (handle : Nat) (seed : Preferences) : Prop :=
  ∃ before operation later, operations = before ++ operation :: later ∧
    (after before).Starts operation seed ∧ Related operations (after before).handles.length handle

theorem Born.sets_iff {operations later : List Operation} {handle family : Nat} {flag : Flag}
    {value : Bool} (born : Born operations handle family) :
    Sets operations handle flag value later ↔ WroteTo operations family flag value later := by
  constructor
  · rintro ⟨before, writer, rfl, ⟨other, found⟩, related⟩
    have same := ((born_of_family? found).append _).unique (born.related_iff.mp related)
    exact ⟨before, _, rfl, writer, rfl, same ▸ found⟩
  · rintro ⟨before, _, rfl, writer, rfl, found⟩
    exact ⟨before, writer, rfl, ⟨family, found⟩,
      born.related_iff.mpr ((born_of_family? found).append _)⟩

theorem born_of_starts {before : List Operation} {operation : Operation} {seed : Preferences}
    (starts : (after before).Starts operation seed) (later : List Operation) :
    Born (before ++ operation :: later) (after before).handles.length
      (after before).families.length := by
  refine ⟨before, operation, later, rfl, rfl, ?_⟩
  rw [after_concat, Store.family?_step]
  exact .inr ⟨rfl, .inl ⟨seed, starts, rfl⟩⟩

theorem Born.seeded_iff {operations : List Operation} {handle family : Nat} {seed : Preferences}
    (born : Born operations handle family) :
    Seeded operations handle seed ↔ Began operations family seed := by
  constructor
  · rintro ⟨before, operation, later, rfl, starts, related⟩
    have same := (born_of_starts starts later).unique (born.related_iff.mp related)
    exact ⟨before, operation, later, rfl, starts, same.symm⟩
  · rintro ⟨before, operation, later, rfl, starts, rfl⟩
    exact ⟨before, operation, later, rfl, starts,
      born.related_iff.mpr (born_of_starts starts later)⟩

theorem exists_view? {operations : List Operation} {handle family : Nat}
    (found : (after operations).family? handle = some family) :
    ∃ state, (after operations).families[family]? = some state ∧
      (after operations).view? handle = some state := by
  have present := List.getElem?_eq_getElem (born_of_family? found).lt.2
  refine ⟨_, present, ?_⟩
  rw [Store.view?, found]
  exact present

theorem reads_iff_get {operations : List Operation} {handle : Nat} {state : Preferences}
    (seen : (after operations).view? handle = some state) (flag : Flag) (value : Bool) :
    Reads operations handle flag value ↔ state.get flag = value := by
  rw [Reads, Store.step, seen]
  simp

theorem reads_iff_settled {operations : List Operation} {handle family : Nat}
    (found : (after operations).family? handle = some family) (flag : Flag) (value : Bool) :
    Reads operations handle flag value ↔ Settled operations family flag value := by
  rcases exists_view? found with ⟨state, present, seen⟩
  rw [reads_iff_get seen, get_eq_iff_settled present]

/-- Only a setter of the flag in the handle's family changes what is read. -/
theorem reads_concat_iff {operations : List Operation} {operation : Operation} {handle family : Nat}
    {flag : Flag} (found : (after operations).family? handle = some family)
    (kept : operation ≠ .drop handle)
    (silent : ∀ value, ¬(after operations).Writes operation family flag value) (value : Bool) :
    Reads (operations ++ [operation]) handle flag value ↔ Reads operations handle flag value := by
  have still : (after (operations ++ [operation])).family? handle = some family := by
    rw [after_concat, Store.family?_step]
    exact .inl ⟨found, kept⟩
  rw [reads_iff_settled still, reads_iff_settled found,
    settled_concat (born_of_family? found).lt.2]
  simp [silent]

/-- Every run is last write wins, flag by flag and family by family. Through a live handle a flag reads
as its latest setter in the family left it, or as the family was started where there is none; a snapshot
shows the same. So nothing done through unrelated handles is seen, setters leave the other flags alone,
and dropping a handle is not seen through the rest. -/
theorem reads_latest {operations : List Operation} {handle : Nat} (live : Live operations handle) :
    (∀ flag value, Reads operations handle flag value ↔
      (∃ later, Sets operations handle flag value later ∧
          ∀ other rest, Sets operations handle flag other rest → later.length ≤ rest.length) ∨
        (∀ other rest, ¬Sets operations handle flag other rest) ∧
          ∃ seed, Seeded operations handle seed ∧ seed.get flag = value) ∧
      (∃ copy, ((after operations).step (.snapshot handle)).2 = .preferences copy ∧
        ∀ flag, Reads operations handle flag (copy.get flag)) ∧
      (∀ operation, (∀ other, operation.handle? = some other → ¬Related operations other handle) →
        ∀ flag value,
          Reads (operations ++ [operation]) handle flag value ↔ Reads operations handle flag value) ∧
      (∀ writer flag value other, other ≠ flag → ∀ seen,
        Reads (operations ++ [.set writer flag value]) handle other seen ↔
          Reads operations handle other seen) ∧
      ∀ dropped, dropped ≠ handle → ∀ flag value,
        Reads (operations ++ [.drop dropped]) handle flag value ↔
          Reads operations handle flag value := by
  rcases live with ⟨family, found⟩
  have born := born_of_family? found
  refine ⟨?_, ?_, ?_, ?_, ?_⟩
  · intro flag value
    simp only [born.sets_iff, born.seeded_iff]
    exact reads_iff_settled found flag value
  · rcases exists_view? found with ⟨state, _, seen⟩
    refine ⟨state, ?_, ?_⟩
    · rw [Store.step, seen]
    · intro flag
      exact (reads_iff_get seen flag _).mpr rfl
  · intro operation unrelated flag
    apply reads_concat_iff found
    · rintro rfl
      exact unrelated handle rfl (.refl handle)
    · rintro value ⟨writer, rfl, there⟩
      exact unrelated writer rfl (born.related_iff.mpr (born_of_family? there))
  · intro writer flag value other different
    apply reads_concat_iff found
    · exact Operation.noConfusion
    · rintro seen ⟨_, same, _⟩
      cases same
      exact different rfl
  · intro dropped different flag
    apply reads_concat_iff found
    · rintro same
      cases same
      exact different rfl
    · rintro value ⟨writer, same, _⟩
      cases same

def sharedRun : List Operation :=
  [.create {}, .clone 0, .reseed 1, .set 1 .waveBackground false, .drop 1, .set 2 .waveBackground true]

theorem reads_latest_of_sharedRun :
    Live sharedRun 0 ∧ Reads sharedRun 0 .waveBackground false ∧
      ∃ later, Sets sharedRun 0 .waveBackground false later ∧
        ∀ other rest, Sets sharedRun 0 .waveBackground other rest → later.length ≤ rest.length := by
  have live : Live sharedRun 0 := ⟨0, by decide⟩
  have read : Reads sharedRun 0 .waveBackground false := by
    rw [Reads]
    decide
  have cloned : Clones sharedRun 0 1 := ⟨[.create {}], _, rfl, ⟨0, by decide⟩, by decide⟩
  have set : Sets sharedRun 0 .waveBackground false [.drop 1, .set 2 .waveBackground true] :=
    ⟨[.create {}, .clone 0, .reseed 1], 1, rfl, ⟨0, by decide⟩, .symm _ _ (.rel _ _ cloned)⟩
  rcases ((reads_latest live).1 .waveBackground false).mp read with latest | ⟨never, _⟩
  · exact ⟨live, read, latest⟩
  · exact absurd set (never _ _)

end NodeConsole.Preferences
