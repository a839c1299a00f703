import NodeConsole.Proofs.Json.RoundTrip
/-!
The members of an object as they are written: in the order of the text, repeated names included, and each
value with the bytes that it was read from.
-/

namespace NodeConsole.Json

structure Spelled where
  bytes : List UInt8
  value : Json

def Reader.spelled (reader : Reader Json) : Reader Spelled where
  read s :=
    match reader.read s with
    | .error fault => .error fault
    | .ok (value, rest) => .ok (⟨(skipBlank s).take ((skipBlank s).length - rest.length), value⟩, rest)
  consumes := by
    intro s rest spelled read
    split at read
    · cases read
    · next value rest inner =>
      cases read
      exact reader.consumes inner

def entries? (text : String) : Option (List (String × Spelled)) :=
  match skipBlank (Utf8.bytes text) with
  | [] => none
  | byte :: inside =>
    if byte = 0x7B then
      match members (valueReader (depthLimit - 1)).spelled true [] inside with
      | .ok (entries, rest) => if skipBlank rest = [] then some entries else none
      | .error _ => none
    else none

def valuesOf (entries : List (String × Spelled)) : List (String × Json) :=
  entries.map fun entry => (entry.1, entry.2.value)

theorem find?_valuesOf (name : String) (entries : List (String × Spelled)) :
    Members.find? name (valuesOf entries) = (Members.find? name entries).map Spelled.value := by
  induction entries with
  | nil => rfl
  | cons entry rest induction =>
      rw [valuesOf, List.map_cons, Members.find?, Members.find?]
      split
      · rfl
      · exact induction

/-! ## Values and their bytes -/

structure Spelled.WasRead (limit : Nat) (spelled : Spelled) : Prop where
  visible : skipBlank spelled.bytes = spelled.bytes
  reads : ∃ behind, EndsNumber behind ∧
    (valueReader limit).read (spelled.bytes ++ behind) = .ok (spelled.value, behind)

section

variable {limit : Nat} {first : Bool} {s rest : List UInt8}

theorem read_skipBlank (limit : Nat) (s : List UInt8) :
    (valueReader limit).read (skipBlank s) = (valueReader limit).read s := by
  rcases exists_blank_append s with ⟨blanks, blank, whole⟩
  rw [← read_blank_append limit blank, ← whole]

theorem spelled_read {value : Json} (read : (valueReader limit).read s = .ok (value, rest)) :
    ∃ front, skipBlank s = front ++ rest ∧
      (valueReader limit).spelled.read s = .ok (⟨front, value⟩, rest) := by
  rcases regular limit _ value rest ((read_skipBlank limit s).trans read) with ⟨_, front, whole, _⟩
  refine ⟨front, whole, ?_⟩
  have taken : (skipBlank s).take ((skipBlank s).length - rest.length) = front := by
    rw [whole, List.length_append, Nat.add_sub_cancel, List.take_left]
  rw [Reader.spelled]
  dsimp only
  rw [read]
  dsimp only
  rw [taken]

theorem of_spelled_read {spelled : Spelled}
    (read : (valueReader limit).spelled.read s = .ok (spelled, rest)) :
    skipBlank s = spelled.bytes ++ rest ∧ (valueReader limit).read s = .ok (spelled.value, rest) := by
  cases inner : (valueReader limit).read s with
  | error fault =>
      rw [Reader.spelled] at read
      dsimp only at read
      rw [inner] at read
      cases read
  | ok result =>
      rcases result with ⟨value, after⟩
      rcases spelled_read inner with ⟨front, whole, again⟩
      cases again.symm.trans read
      exact ⟨whole, rfl⟩

theorem wasRead_of_spelled_read {spelled : Spelled}
    (read : (valueReader limit).spelled.read s = .ok (spelled, rest)) (ends : EndsNumber rest) :
    spelled.WasRead limit := by
  rcases of_spelled_read read with ⟨whole, inner⟩
  rw [← read_skipBlank, whole] at inner
  refine ⟨?_, rest, ends, inner⟩
  cases bytes : spelled.bytes with
  | nil => rfl
  | cons byte more =>
      rw [bytes, List.cons_append] at whole
      exact skipBlank_cons (of_skipBlank_eq_cons whole).1 more

theorem Names.endsNumber {α : Type} {value : Reader α} {entries : List (String × α)}
    (names : Names value false s entries rest) : EndsNumber s := by
  cases names with
  | done blank => exact blank.endsNumber (endsNumber_cons (by decide) _)
  | member isGap => exact isGap.endsNumber _

theorem Names.spelled {entries : List (String × Json)}
    (names : Names (valueReader limit) first s entries rest) :
    ∃ spelled, Names (valueReader limit).spelled first s spelled rest ∧ valuesOf spelled = entries := by
  induction names with
  | done blank rest => exact ⟨[], .done blank rest, rfl⟩
  | @member first gap inside blanks valueText after rest name found entries isGap nameRead blank read later
      induction =>
      rcases spelled_read read with ⟨front, _, again⟩
      rcases induction with ⟨spelled, listed, same⟩
      refine ⟨(name, ⟨front, found⟩) :: spelled, .member isGap nameRead blank again listed, ?_⟩
      rw [valuesOf, List.map_cons, ← same]
      rfl

theorem Names.values {entries : List (String × Spelled)}
    (names : Names (valueReader limit).spelled first s entries rest) :
    Names (valueReader limit) first s (valuesOf entries) rest ∧
      ∀ entry ∈ entries, entry.2.WasRead limit := by
  induction names with
  | done blank rest =>
      refine ⟨.done blank rest, fun entry none => ?_⟩
      cases none
  | @member first gap inside blanks valueText after rest name found entries isGap nameRead blank read later
      induction =>
      refine ⟨.member isGap nameRead blank (of_spelled_read read).2 induction.1, fun entry member => ?_⟩
      rcases List.mem_cons.mp member with same | behind
      · rw [same]
        exact wasRead_of_spelled_read read later.endsNumber
      · exact induction.2 entry behind

end

/-- A value is a natural below `2 ^ 64` where its text consists of the digits of one: without a sign, a
point or an exponent. -/
theorem Spelled.WasRead.natural_iff {limit : Nat} {spelled : Spelled} (wasRead : spelled.WasRead limit)
    (n : Nat) :
    spelled.value = .number (.integer n) ↔ spelled.bytes = decimal n ∧ n < 0x10000000000000000 := by
  rcases wasRead with ⟨unblanked, behind, ends, read⟩
  constructor
  · intro natural
    rcases read_cases read with ⟨blanks, blank, ⟨byte, tail, starts, begins, scalar⟩ | ⟨_, _, inner⟩⟩
    · have digits : n < 0x10000000000000000 ∧ byte :: tail = decimal n ++ behind := by
        rw [natural] at scalar
        rcases scalarScan_cases scalar with ⟨letters, listed, _⟩ | ⟨_, _, same, _⟩ |
          ⟨_, found, same, inside⟩ | ⟨_, found, same, inside⟩
        · simp [literals] at listed
        · cases same
        · cases same
          have negative := neg_of_numberScan inside
          omega
        · cases same
          rcases of_numberScan_integer inside with ⟨m, value, bound, digits⟩
          rw [Int.natCast_inj.mp value]
          exact ⟨bound, digits⟩
      rw [digits.2, ← List.append_assoc] at begins
      have bytes := List.append_cancel_right begins
      rcases decimal_spec n with ⟨all, first, more, written, _⟩
      have visible := (startsScalar_of_isDigit (all first (by simp [written]))).1.1
      rw [bytes, written, skipBlank_eq_cons blank visible] at unblanked
      rw [bytes, written]
      exact ⟨unblanked.symm, digits.1⟩
    · rcases inner with ⟨values, tail, _, _, none⟩ | ⟨entries, tail, _, _, none⟩
      · cases natural.symm.trans none
      · cases natural.symm.trans none
  · intro digits
    rcases digits with ⟨written, bound⟩
    have spells := spells_integer limit (n := n) (by omega) (by omega)
    rw [encode_integerChars_of_nonneg (Int.natCast_nonneg n), Int.natAbs_natCast] at spells
    rw [written, spells.reads behind ends, Except.ok.injEq, Prod.mk.injEq] at read
    exact read.1.symm

/-! ## Texts of objects -/

theorem entries?_eq_some {text : String} {entries : List (String × Spelled)}
    (listed : entries? text = some entries) :
    ∃ inside rest, skipBlank (Utf8.bytes text) = 0x7B :: inside ∧
      Names (valueReader 126).spelled true inside entries rest ∧ skipBlank rest = [] := by
  rw [entries?] at listed
  split at listed
  · cases listed
  · next byte inside begins =>
    split at listed
    · next brace =>
      subst brace
      split at listed
      · next found rest read =>
        split at listed
        · next ended =>
          cases listed
          rcases exists_names read with ⟨_, same, names⟩
          rw [List.reverse_nil, List.nil_append] at same
          exact ⟨inside, rest, begins, same ▸ names, ended⟩
        · cases listed
      · cases listed
    · cases listed

theorem entries?_of_names {text : String} {entries : List (String × Spelled)} {inside rest : List UInt8}
    (begins : skipBlank (Utf8.bytes text) = 0x7B :: inside)
    (names : Names (valueReader 126).spelled true inside entries rest) (ended : skipBlank rest = []) :
    entries? text = some entries := by
  have under : depthLimit - 1 = 126 := rfl
  have whole := names.read []
  rw [List.reverse_nil, List.nil_append] at whole
  rw [entries?, begins, under]
  dsimp only
  rw [if_pos rfl, whole]
  exact if_pos ended

/-- A text with members is read as the object that they make up. -/
theorem ofText_of_entries? {text : String} {entries : List (String × Spelled)}
    (listed : entries? text = some entries) :
    ofText text = .ok (.object (Members.ofEntries (valuesOf entries))) := by
  rcases entries?_eq_some listed with ⟨inside, rest, begins, names, ended⟩
  have read := valueScan_object blank_nil (names.values.1.read [])
  rw [List.nil_append, List.reverse_nil, List.nil_append, ← begins, ← read_succ, read_skipBlank] at read
  have limit : depthLimit = 126 + 1 := rfl
  rw [ofText, ofBytes, documentOf, limit, read]
  dsimp only
  rw [ended]
  rfl

/-- A text that is read as an object has members, and they make up that object. -/
theorem exists_entries {text : String} {document : List (String × Json)}
    (read : ofText text = .ok (.object document)) :
    ∃ entries, entries? text = some entries ∧ document = Members.ofEntries (valuesOf entries) := by
  rw [ofText, ofBytes, documentOf] at read
  split at read
  · cases read
  · next value rest valueRead =>
    split at read
    · next ended =>
      cases read
      have limit : depthLimit = 126 + 1 := rfl
      rw [limit] at valueRead
      rcases read_cases valueRead with
        ⟨blanks, blank, ⟨byte, tail, starts, begins, scalar⟩ | ⟨below, same, inner⟩⟩
      · exact absurd scalar scalarScan_ne_object
      · have depth : below = 126 := by omega
        subst depth
        rcases inner with ⟨values, tail, _, _, none⟩ | ⟨entries, tail, begins, names, found⟩
        · cases none
        · rcases names.spelled with ⟨spelled, listed, same⟩
          have skipped : skipBlank (Utf8.bytes text) = 0x7B :: tail := by
            rw [begins]
            exact skipBlank_eq_cons blank rfl tail
          cases found
          exact ⟨spelled, entries?_of_names skipped listed ended, by rw [same]⟩
    · cases read

end NodeConsole.Json
