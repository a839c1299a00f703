import NodeConsole.Json.Basic
/-!
What the members of an object are: under each name, the last of the entries with that name.
-/

namespace NodeConsole.Members

variable {α : Type}

theorem find?_insert (name other : String) (value : α) (members : Members α) :
    find? other (insert name value members) =
      if other = name then some value else find? other members := by
  fun_induction insert name value members with
  | case1 => rfl
  | case2 => rfl
  | case3 kept rest _ =>
      simp only [find?]
      split <;> rfl
  | case4 earlier kept rest _ different induction =>
      simp only [find?, induction]
      by_cases same : other = earlier
      · subst same
        rw [if_pos rfl, if_neg (Ne.symm different), if_pos rfl]
      · rw [if_neg same, if_neg same]

/-- Of entries with one name the last is the one that is found. -/
theorem find?_ofEntries (name : String) (entries : List (String × α)) :
    find? name (ofEntries entries) =
      (entries.reverse.find? fun entry => name = entry.1).map (·.2) := by
  have folded (members : Members α) :
      find? name (entries.foldl (fun members entry => insert entry.1 entry.2 members) members) =
        ((entries.reverse.find? fun entry => name = entry.1).map (·.2)).or (find? name members) := by
    induction entries generalizing members with
    | nil => rfl
    | cons entry rest induction =>
        rw [List.foldl_cons, induction, find?_insert, List.reverse_cons, List.find?_append]
        cases rest.reverse.find? fun entry => name = entry.1 with
        | some later => rfl
        | none =>
            by_cases same : name = entry.1
            · simp [same]
            · simp [same]
  rw [ofEntries, folded, find?, Option.or_none]

theorem find?_ofEntries_eq_some_iff {name : String} {value : α} {entries : List (String × α)} :
    find? name (ofEntries entries) = some value ↔
      ∃ earlier later, entries = earlier ++ (name, value) :: later ∧ ∀ entry ∈ later, entry.1 ≠ name := by
  rw [find?_ofEntries, Option.map_eq_some_iff]
  constructor
  · rintro ⟨⟨found, _⟩, last, rfl⟩
    rw [List.find?_eq_some_iff_append, decide_eq_true_iff] at last
    rcases last with ⟨rfl, behind, front, reversed, others⟩
    refine ⟨front.reverse, behind.reverse, ?_, fun entry member same => ?_⟩
    · rw [← List.reverse_reverse entries, reversed]
      simp
    · have other := others entry (List.mem_reverse.mp member)
      simp [same] at other
  · rintro ⟨earlier, later, rfl, others⟩
    refine ⟨(name, value), ?_, rfl⟩
    rw [List.find?_eq_some_iff_append]
    refine ⟨decide_eq_true rfl, later.reverse, earlier.reverse, by simp, fun entry member => ?_⟩
    simpa using (others entry (List.mem_reverse.mp member)).symm

theorem mem_of_find? {name : String} {value : α} {members : Members α}
    (found : find? name members = some value) : (name, value) ∈ members := by
  induction members with
  | nil => cases found
  | cons entry rest induction =>
      rw [find?] at found
      split at found
      · next same =>
        subst same
        cases found
        exact List.mem_cons_self
      · exact List.mem_cons_of_mem _ (induction found)

theorem find?_zip {names : List String} (distinct : names.Nodup) {place : Nat} {name : String}
    (named : names[place]? = some name) (values : List α) : find? name (names.zip values) = values[place]? := by
  induction names generalizing place values with
  | nil => cases named
  | cons first names induction =>
      rw [List.nodup_cons] at distinct
      cases values with
      | nil => rfl
      | cons value values =>
          rw [List.zip_cons_cons, find?]
          cases place with
          | zero =>
              cases named
              exact if_pos rfl
          | succ place =>
              have later : name ≠ first := by
                intro same
                subst same
                exact distinct.1 (List.mem_of_getElem? named)
              rw [if_neg later]
              exact induction distinct.2 named values

/-! ## Entries in order -/

theorem insert_last {name : String} {members : Members α} (last : ∀ entry ∈ members, entry.1 < name)
    (value : α) : insert name value members = members ++ [(name, value)] := by
  induction members with
  | nil => rfl
  | cons entry rest induction =>
      have earlier := last entry (by simp)
      have noBefore : ¬name < entry.1 := String.lt_asymm earlier
      have different : name ≠ entry.1 := by
        intro same
        rw [same] at earlier
        exact String.lt_irrefl _ earlier
      rw [insert, if_neg noBefore, if_neg different,
        induction fun other member => last other (List.mem_cons_of_mem _ member), List.cons_append]

theorem ofEntries_of_pairwise {entries : List (String × α)}
    (ordered : entries.Pairwise fun earlier later => earlier.1 < later.1) :
    ofEntries entries = entries := by
  have folded (members : Members α)
      (whole : (members ++ entries).Pairwise fun earlier later => earlier.1 < later.1) :
      entries.foldl (fun members entry => insert entry.1 entry.2 members) members =
        members ++ entries := by
    induction entries generalizing members with
    | nil => rw [List.foldl_nil, List.append_nil]
    | cons entry rest induction =>
        have last : ∀ earlier ∈ members, earlier.1 < entry.1 := by
          intro earlier member
          exact (List.pairwise_append.mp whole).2.2 earlier member entry (by simp)
        rw [List.append_cons] at whole
        rw [List.foldl_cons, insert_last last, induction (List.pairwise_cons.mp ordered).2 _ whole,
          List.append_assoc, List.singleton_append]
  exact folded [] ordered

def Ascending (entries : List (String × α)) : Prop :=
  entries.Pairwise fun earlier later => earlier.1 < later.1

theorem mem_insert {name : String} {value : α} {members : Members α} {entry : String × α}
    (member : entry ∈ insert name value members) : entry = (name, value) ∨ entry ∈ members := by
  fun_induction insert name value members with
  | case1 => exact .inl (List.mem_singleton.mp member)
  | case2 => exact List.mem_cons.mp member
  | case3 kept rest _ =>
      rcases List.mem_cons.mp member with same | later
      · exact .inl same
      · exact .inr (List.mem_cons_of_mem _ later)
  | case4 other kept rest _ _ induction =>
      rcases List.mem_cons.mp member with same | later
      · exact .inr (same ▸ List.mem_cons_self)
      · rcases induction later with same | behind
        · exact .inl same
        · exact .inr (List.mem_cons_of_mem _ behind)

theorem ascending_insert (name : String) (value : α) {members : Members α} (ordered : Ascending members) :
    Ascending (insert name value members) := by
  fun_induction insert name value members with
  | case1 => exact List.pairwise_singleton _ _
  | case2 other kept rest before =>
      refine List.pairwise_cons.mpr ⟨fun entry member => ?_, ordered⟩
      rcases List.mem_cons.mp member with rfl | later
      · exact before
      · exact String.lt_trans before ((List.pairwise_cons.mp ordered).1 entry later)
  | case3 kept rest _ =>
      rw [Ascending, List.pairwise_cons] at ordered
      exact List.pairwise_cons.mpr ordered
  | case4 other kept rest notBefore different induction =>
      rw [Ascending, List.pairwise_cons] at ordered
      refine List.pairwise_cons.mpr ⟨fun entry member => ?_, induction ordered.2⟩
      rcases mem_insert member with rfl | later
      · exact Std.lt_of_le_of_ne (String.not_lt.mp notBefore) (Ne.symm different)
      · exact ordered.1 entry later

theorem ascending_ofEntries (entries : List (String × α)) : Ascending (ofEntries entries) := by
  have folded (members : Members α) (ordered : Ascending members) :
      Ascending (entries.foldl (fun members entry => insert entry.1 entry.2 members) members) := by
    induction entries generalizing members with
    | nil => exact ordered
    | cons entry rest induction => exact induction _ (ascending_insert entry.1 entry.2 ordered)
  exact folded [] List.Pairwise.nil

theorem find?_eq_some_iff_mem {name : String} {value : α} {members : Members α} (ordered : Ascending members) :
    find? name members = some value ↔ (name, value) ∈ members := by
  refine ⟨mem_of_find?, fun member => ?_⟩
  induction members with
  | nil => cases member
  | cons entry rest induction =>
      rw [Ascending, List.pairwise_cons] at ordered
      rw [find?]
      rcases List.mem_cons.mp member with same | later
      · subst same
        exact if_pos rfl
      · have different : name ≠ entry.1 := (Std.ne_of_lt (ordered.1 _ later)).symm
        rw [if_neg different]
        exact induction ordered.2 later

theorem ofEntries_ne_nil {entries : List (String × α)} (nonempty : entries ≠ []) :
    ofEntries entries ≠ [] := by
  rcases List.exists_cons_of_ne_nil nonempty with ⟨first, rest, rfl⟩
  intro none
  have found := find?_ofEntries first.1 (first :: rest)
  rw [none, find?, eq_comm, Option.map_eq_none_iff, List.find?_eq_none] at found
  exact found first (by simp) (by simp)

end NodeConsole.Members
