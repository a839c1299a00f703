import NodeConsole.Proofs.Json.Records
/-!
Records from texts and from values. A document is read into a record the same way from its text and from the
value of that text. An array is read as the object that its items make up under the names of the fields.
-/

namespace NodeConsole.Json

variable {ρ : Type} {shape : Shape ρ} {fields : List (Field ρ)}

/-! ## Items by position -/

def wholly (count : Nat) (filled : Except Cause (ρ × List Json)) : Except Cause ρ :=
  match filled with
  | .error cause => .error cause
  | .ok (record, []) => .ok record
  | .ok (_, _ :: _) => .error (.tooManyItems count)

theorem Shape.ofValue_array (items : List Json) :
    shape.ofValue (.array items) = wholly items.length (positionalOf shape.initial shape.fields items) := by
  rw [ofValue]
  rcases positionalOf shape.initial shape.fields items with cause | ⟨record, left⟩
  · rfl
  · cases left <;> rfl

/-- An array fills a record as the object of its items under the names of the fields does, if there are no
more items than fields. -/
theorem positionalOf_toOption (distinct : fields.Pairwise fun earlier later => earlier.name ≠ later.name)
    (items : List Json) (record : ρ) (count : Nat) :
    (wholly count (positionalOf record fields items)).toOption =
      if items.length ≤ fields.length then
        fill? (Members.find? · ((fields.map Field.name).zip items)) record fields
      else none := by
  induction fields generalizing items record with
  | nil =>
      cases items with
      | nil => rfl
      | cons item items => exact (if_neg (Nat.not_succ_le_zero _)).symm
  | cons field fields induction =>
      cases items with
      | nil =>
          rw [List.length_nil, if_pos (Nat.zero_le _)]
          exact (fill?_of_absent (fun _ _ => by rw [List.zip_nil_right]; rfl) record).symm
      | cons item items =>
          rw [List.pairwise_cons] at distinct
          have elsewhere : ∀ later ∈ fields,
              Members.find? later.name ((field.name, item) :: (fields.map Field.name).zip items) =
                Members.find? later.name ((fields.map Field.name).zip items) := by
            intro later inside
            rw [Members.find?, if_neg (Ne.symm (distinct.1 later inside))]
          rw [positionalOf, List.map_cons, List.zip_cons_cons, fill?, Field.fill?, Members.find?, if_pos rfl,
            List.length_cons, List.length_cons]
          dsimp only
          cases field.slot.ofValue item with
          | error cause => simp [wholly, Except.toOption]
          | ok found =>
              dsimp only
              rw [induction distinct.2]
              simp only [Except.toOption, Option.map_some, Option.bind_some, Nat.add_le_add_iff_right]
              split
              · exact (fill?_congr elsewhere _).symm
              · rfl

theorem exists_arrayEnd_error {first : Bool} {gap : List UInt8} (isGap : IsGap first gap) {byte : UInt8}
    (visible : isBlank byte = false) (noEnd : byte ≠ 0x5D) (rest : List UInt8) :
    ∃ fault, arrayEnd (gap ++ byte :: rest) = .error fault := by
  cases first with
  | true =>
      rw [arrayEnd, skipBlank_eq_cons isGap visible]
      dsimp only
      rw [if_neg noEnd]
      split
      · split
        · exact ⟨_, rfl⟩
        · split <;> exact ⟨_, rfl⟩
      · exact ⟨_, rfl⟩
  | false =>
      rcases isGap with ⟨before, after, blank, blankAfter, rfl⟩
      rw [arrayEnd, List.append_assoc, List.cons_append, skipBlank_eq_cons blank (by decide)]
      dsimp only
      rw [if_neg (by decide), if_pos rfl, skipBlank_eq_cons blankAfter visible]
      dsimp only
      rw [if_neg noEnd]
      exact ⟨_, rfl⟩

theorem Lists.agrees (faithful : ∀ field ∈ fields, field.slot.Faithful) {limit : Nat} {first : Bool}
    {s rest : List UInt8} {values : List Json} (lists : Lists (valueReader limit) first s values rest)
    (record : ρ) (count : Nat) :
    Agrees (positionalScan record first fields s) (wholly count (positionalOf record fields values)) rest := by
  -- By induction on the items; each of them takes a field, and none may be left when the fields are used up.
  induction lists generalizing record fields with
  | @done first blanks blank rest =>
      cases fields with
      | nil =>
          have ended : arrayEnd (blanks ++ 0x5D :: rest) = .ok rest := by
            rw [arrayEnd, skipBlank_eq_cons blank (by decide)]
            rfl
          exact agrees_ok (by rw [positionalScan, ended])
      | cons field fields =>
          exact agrees_ok (by rw [positionalScan, nextItem_close _ blank rest])
  | @item first gap more after rest byte value values isGap visible noEnd read later induction =>
      cases fields with
      | nil =>
          rcases exists_arrayEnd_error isGap visible noEnd more with ⟨fault, notClosed⟩
          have failed : positionalScan record first [] (gap ++ byte :: more) = .error fault := by
            rw [positionalScan, notClosed]
          exact agrees_error failed _
      | cons field fields =>
          have agrees := Field.scan_agrees (faithful field (by simp)) read record
          rw [positionalScan, nextItem_gap isGap visible noEnd, positionalOf]
          dsimp only
          cases made : field.slot.ofValue value with
          | error cause =>
              rcases agrees.error cause (by rw [made]; rfl) with ⟨fault, failed⟩
              rw [failed]
              exact agrees_error rfl cause
          | ok found =>
              rw [agrees.ok (field.set found record) (by rw [made]; rfl)]
              exact induction (fun other member => faithful other (List.mem_cons_of_mem _ member)) _

/-! ## Documents -/

theorem documentOf_toOption {α : Type} {scan : List UInt8 → Scan α} {outcome : Except Cause α}
    {text rest : List UInt8} (agrees : Agrees (scan text) outcome rest) (ended : skipBlank rest = []) :
    (documentOf scan text).toOption = outcome.toOption := by
  rw [documentOf]
  cases outcome with
  | error cause =>
      rcases agrees.error cause rfl with ⟨fault, failed⟩
      rw [failed]
      rfl
  | ok value =>
      rw [agrees.ok value rfl]
      dsimp only
      rw [ended]
      rfl

theorem scalarScan_ne_array {byte : UInt8} {s rest : List UInt8} {items : List Json} :
    scalarScan byte s ≠ .ok (.array items, rest) := by
  intro read
  rcases scalarScan_cases read with ⟨_, listed, _⟩ | ⟨_, _, same, _⟩ | ⟨_, _, same, _⟩ | ⟨_, _, same, _⟩
  · simp [literals] at listed
  · cases same
  · cases same
  · cases same

theorem Shape.scan_agrees_scalar {blanks : List UInt8} (blank : Blank blanks) {byte : UInt8}
    (starts : StartsScalar byte) {s rest : List UInt8} {value : Json}
    (read : scalarScan byte s = .ok (value, rest)) :
    Agrees (shape.scan (blanks ++ byte :: s)) (shape.ofValue value) rest := by
  have failed : ∃ fault, shape.scan (blanks ++ byte :: s) = .error fault := by
    rw [scan, skipBlank_eq_cons blank starts.1]
    dsimp only
    rw [if_neg starts.2.1, if_neg starts.2.2, unexpected, if_neg starts.2.1, if_neg starts.2.2, read]
    exact ⟨_, rfl⟩
  rcases failed with ⟨fault, failed⟩
  cases value with
  | array items => exact absurd read scalarScan_ne_array
  | object members => exact absurd read scalarScan_ne_object
  | _ => exact agrees_error failed _

theorem timesNamed_of_ascending {α : Type} {entries : List (String × α)} (ordered : Members.Ascending entries)
    (name : String) : timesNamed name entries ≤ 1 := by
  apply List.nodup_iff_count.mp
  rw [List.Nodup, List.pairwise_map]
  apply ordered.imp
  intro earlier later before same
  rw [same] at before
  exact String.lt_irrefl _ before

/-- Under a name that is given once, an object has the value that is given. -/
theorem find?_ofEntries_of_once {α : Type} {name : String} {entries : List (String × α)}
    (once : timesNamed name entries ≤ 1) :
    Members.find? name (Members.ofEntries entries) = Members.find? name entries := by
  have first (entries : List (String × α)) :
      Members.find? name entries = (entries.find? fun entry => name = entry.1).map (·.2) := by
    induction entries with
    | nil => rfl
    | cons entry rest induction =>
        rw [Members.find?, List.find?_cons]
        by_cases same : name = entry.1
        · simp [same]
        · simp [same, induction]
  rw [Members.find?_ofEntries, ← first]
  exact (find?_perm (List.reverse_perm entries).symm once).symm

/-- A text that is read as a value, with no field given again, makes the record that its value makes. -/
theorem Shape.ofText_toOption_eq_ofValue (faithful : shape.Faithful) (independent : shape.Independent)
    {text : String} {value : Json} (accepted : Json.ofText text = .ok value)
    (once : ∀ entries, entries? text = some entries →
      ∀ field ∈ shape.fields, timesNamed field.name entries ≤ 1) :
    (shape.ofText text).toOption = (shape.ofValue value).toOption := by
  have document := accepted
  rw [Json.ofText, ofBytes, documentOf] at accepted
  split at accepted
  · cases accepted
  · next found rest read =>
    split at accepted
    · next ended =>
      cases accepted
      rcases read_cases read with
        ⟨blanks, blank, ⟨byte, tail, starts, begins, scalar⟩ | ⟨below, _, inner⟩⟩
      · rw [ofText, begins]
        exact documentOf_toOption (scan_agrees_scalar blank starts scalar) ended
      · rcases inner with ⟨values, tail, begins, lists, rfl⟩ | ⟨_, _, _, _, rfl⟩
        · have agrees := lists.agrees faithful shape.initial values.length
          have scanned : shape.scan (Utf8.bytes text) =
              positionalScan shape.initial true shape.fields tail := by
            rw [scan, begins, skipBlank_eq_cons blank (by decide)]
            rfl
          rw [ofValue_array, ofText]
          rw [← scanned] at agrees
          exact documentOf_toOption agrees ended
        · rcases exists_entries document with ⟨entries, listed, same⟩
          have onceListed := once entries listed
          have onceOf : ∀ field ∈ shape.fields,
              timesNamed field.name (Members.ofEntries (valuesOf entries)) ≤ 1 :=
            fun field _ => timesNamed_of_ascending (Members.ascending_ofEntries _) field.name
          rw [ofText_toOption faithful independent listed onceListed, Json.ofEntries, same, ofValue,
            namedOf_toOption independent onceOf]
          apply fill?_congr
          intro field isField
          rw [find?_ofEntries_of_once, find?_valuesOf]
          rw [timesNamed_valuesOf]
          exact onceListed field isField
    · cases accepted

end NodeConsole.Json
