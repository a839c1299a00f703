import NodeConsole.Proofs.Json.Sequences
/-!
Arrays and objects as sequences of steps. What is read from a place inside of an array or an object on is
told by a relation: an end behind blanks, or a gap with one more item or member and the rest behind it.
-/

namespace NodeConsole.Json

variable {α : Type}

inductive Lists (item : Reader α) : Bool → List UInt8 → List α → List UInt8 → Prop where
  | done {first : Bool} {blanks : List UInt8} (blank : Blank blanks) (rest : List UInt8) :
      Lists item first (blanks ++ 0x5D :: rest) [] rest
  | item {first : Bool} {gap more after rest : List UInt8} {byte : UInt8} {value : α} {values : List α}
      (isGap : IsGap first gap) (visible : isBlank byte = false) (noEnd : byte ≠ 0x5D)
      (read : item.read (byte :: more) = .ok (value, after))
      (later : Lists item false after values rest) :
      Lists item first (gap ++ byte :: more) (value :: values) rest

inductive Names (value : Reader α) : Bool → List UInt8 → List (String × α) → List UInt8 → Prop where
  | done {first : Bool} {blanks : List UInt8} (blank : Blank blanks) (rest : List UInt8) :
      Names value first (blanks ++ 0x7D :: rest) [] rest
  | member {first : Bool} {gap inside blanks valueText after rest : List UInt8} {name : String}
      {found : α} {entries : List (String × α)} (isGap : IsGap first gap)
      (nameRead : stringScan inside = .ok (name, blanks ++ 0x3A :: valueText)) (blank : Blank blanks)
      (read : value.read valueText = .ok (found, after)) (later : Names value false after entries rest) :
      Names value first (gap ++ 0x22 :: inside) ((name, found) :: entries) rest

section

variable {item : Reader α} {first : Bool} {done found : List α} {s rest : List UInt8}

theorem Lists.read {values : List α} (lists : Lists item first s values rest) (done : List α) :
    items item first done s = .ok (done.reverse ++ values, rest) := by
  induction lists generalizing done with
  | done blank rest => rw [items_done (nextItem_close _ blank rest), List.append_nil]
  | item isGap visible noEnd read _ induction =>
      rw [items_item (nextItem_gap isGap visible noEnd _) read, induction, List.reverse_cons,
        List.append_assoc, List.singleton_append]

theorem exists_lists (read : items item first done s = .ok (found, rest)) :
    ∃ values, found = done.reverse ++ values ∧ Lists item first s values rest := by
  fun_induction items item first done s with
  | case1 => cases read
  | case2 first done s rest next =>
      cases read
      rcases of_nextItem_eq_ok next with ⟨blanks, _, blank, begins, same⟩ | ⟨_, _, _, _, _, _, _, same⟩
      · cases same
        subst begins
        exact ⟨[], (List.append_nil _).symm, .done blank _⟩
      · cases same
  | case3 => cases read
  | case4 first done s rest next value after itemRead induction =>
      rcases of_nextItem_eq_ok next with
        ⟨_, _, _, _, same⟩ | ⟨gap, byte, more, isGap, visible, noEnd, begins, same⟩
      · cases same
      · cases same
        subst begins
        rcases induction read with ⟨values, same, later⟩
        refine ⟨value :: values, ?_, .item isGap visible noEnd itemRead later⟩
        rw [same, List.reverse_cons, List.append_assoc, List.singleton_append]

end

section

variable {value : Reader α} {first : Bool} {done found : List (String × α)} {s rest : List UInt8}

theorem Names.read {entries : List (String × α)} (names : Names value first s entries rest)
    (done : List (String × α)) :
    members value first done s = .ok (done.reverse ++ entries, rest) := by
  induction names generalizing done with
  | done blank rest => rw [members_done (nextName_close _ blank rest), List.append_nil]
  | member isGap nameRead blank read _ induction =>
      rw [members_member (nextName_gap isGap nameRead) (colon_append blank _) read, induction,
        List.reverse_cons, List.append_assoc, List.singleton_append]

theorem Names.written {gap valueText after : List UInt8} {found : α} {entries : List (String × α)}
    (later : Names value false after entries rest) (name : String) (isGap : IsGap first gap)
    (read : value.read valueText = .ok (found, after)) :
    Names value first (gap ++ (Utf8.encode (stringChars name) ++ 0x3A :: valueText))
      ((name, found) :: entries) rest := by
  rcases stringScan_written name (0x3A :: valueText) with ⟨inside, same, nameRead⟩
  rw [same, List.cons_append]
  exact .member isGap nameRead blank_nil read later

theorem exists_names (read : members value first done s = .ok (found, rest)) :
    ∃ entries, found = done.reverse ++ entries ∧ Names value first s entries rest := by
  fun_induction members value first done s with
  | case1 => cases read
  | case2 first done s rest next =>
      cases read
      rcases of_nextName_eq_ok next with ⟨blanks, blank, begins, _⟩ | ⟨_, _, _, _, _, _, same⟩
      · subst begins
        exact ⟨[], (List.append_nil _).symm, .done blank _⟩
      · cases same
  | case3 => cases read
  | case4 => cases read
  | case5 first done s name afterName next valueText separator member after valueRead induction =>
      rcases of_nextName_eq_ok next with
        ⟨_, _, _, same⟩ | ⟨gap, text, inside, isGap, nameRead, begins, same⟩
      · cases same
      · cases same
        rcases of_colon_eq_ok separator with ⟨blanks, blank, behind⟩
        subst begins behind
        rcases induction read with ⟨entries, same, later⟩
        refine ⟨(name, member) :: entries, ?_, .member isGap nameRead blank valueRead later⟩
        rw [same, List.reverse_cons, List.append_assoc, List.singleton_append]

end

end NodeConsole.Json
