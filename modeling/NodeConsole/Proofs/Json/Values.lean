import NodeConsole.Proofs.Json.Listings
/-!
Values with something behind them. A value that was read is read from the same bytes in front of anything
that continues no number, by every reader that goes as deep as the value is nested.
-/

namespace NodeConsole.Json

/-- What readers take for a value: these bytes, which are nested so deep, whatever stands behind them that
continues no number. -/
structure TakesValue (depth : Nat) (front : List UInt8) (value : Json) : Prop where
  leads : Leads .outside .outside depth front
  reads : ∀ limit, depth ≤ limit → ∀ behind, EndsNumber behind →
    (valueReader limit).read (front ++ behind) = .ok (value, behind)

def Regular (limit : Nat) : Prop :=
  ∀ s value rest, (valueReader limit).read s = .ok (value, rest) →
    ∃ depth front, s = front ++ rest ∧ TakesValue depth front value

theorem Regular.cons {limit : Nat} (regular : Regular limit) {byte : UInt8} {more rest : List UInt8}
    {value : Json} (read : (valueReader limit).read (byte :: more) = .ok (value, rest)) :
    ∃ depth front, more = front ++ rest ∧ TakesValue depth (byte :: front) value := by
  rcases regular _ _ _ read with ⟨depth, front, whole, takes⟩
  cases front with
  | nil =>
      have shorter := (valueReader limit).consumes read
      rw [whole, List.nil_append] at shorter
      exact absurd shorter (Nat.lt_irrefl _)
  | cons first front =>
      rw [List.cons_append] at whole
      rcases List.cons.inj whole with ⟨rfl, rfl⟩
      exact ⟨depth, front, rfl, takes⟩

/-! ## Items and members -/

/-- What readers take for the inside of an array or an object, up to the bracket that closes it. Unless
it stands first, it starts with something that ends a number before it. -/
structure TakesInside {α : Type} (closing : UInt8) (first : Bool) (scan : Nat → List UInt8 → Scan α)
    (depth : Nat) (inside : List UInt8) (found : α) : Prop where
  leads : Leads .outside .outside depth inside
  ends : first = false → ∀ behind, EndsNumber (inside ++ closing :: behind)
  reads : ∀ limit, depth ≤ limit → ∀ behind,
    scan limit (inside ++ closing :: behind) = .ok (found, behind)

theorem takesInside_blanks {α : Type} {closing : UInt8} {first : Bool} {scan : Nat → List UInt8 → Scan α}
    {blanks : List UInt8} {found : α} (blank : Blank blanks) (stops : continuesNumber closing = false)
    (reads : ∀ limit behind, scan limit (blanks ++ closing :: behind) = .ok (found, behind)) :
    TakesInside closing first scan 0 blanks found where
  leads := blank.leads
  ends _ behind := blank.endsNumber (endsNumber_cons stops behind)
  reads limit _ behind := reads limit behind

theorem TakesInside.cons {α : Type} {closing : UInt8} {first : Bool}
    {scan later : Nat → List UInt8 → Scan α} {gap piece inside : List UInt8} {depth depthBehind : Nat}
    {found : α} (takes : TakesInside closing false later depthBehind inside found) (isGap : IsGap first gap)
    (leads : Leads .outside .outside depth piece)
    (passes : ∀ limit, depth ≤ limit → ∀ behind, EndsNumber (inside ++ closing :: behind) →
      scan limit (gap ++ (piece ++ (inside ++ closing :: behind))) =
        later limit (inside ++ closing :: behind)) :
    TakesInside closing first scan (max depth depthBehind) (gap ++ (piece ++ inside)) found where
  leads := by
    have whole := isGap.leads.append (leads.append takes.leads)
    rwa [Nat.zero_max] at whole
  ends := by
    rintro rfl behind
    rw [List.append_assoc]
    exact isGap.endsNumber _
  reads limit bound behind := by
    rw [List.append_assoc, List.append_assoc,
      passes limit (le_trans (Nat.le_max_left ..) bound) behind (takes.ends rfl behind)]
    exact takes.reads limit (le_trans (Nat.le_max_right ..) bound) behind

theorem Lists.takesInside {limit : Nat} (regular : Regular limit) {first : Bool} {values : List Json}
    {s rest : List UInt8} (lists : Lists (valueReader limit) first s values rest) (done : List Json) :
    ∃ depth inside, s = inside ++ 0x5D :: rest ∧
      TakesInside 0x5D first (fun limit => items (valueReader limit) first done) depth inside
        (done.reverse ++ values) := by
  -- By the steps of the list: behind each item stands what ends the array or the next gap.
  induction lists generalizing done with
  | @done first blanks blank rest =>
      refine ⟨0, blanks, rfl, takesInside_blanks blank (by decide) fun limit behind => ?_⟩
      exact (Lists.done blank behind).read done
  | @item first gap more after rest byte value values isGap visible noEnd read later induction =>
      rcases regular.cons read with ⟨depth, front, rfl, takes⟩
      rcases induction (value :: done) with ⟨depthBehind, inside, rfl, takesBehind⟩
      rw [List.reverse_cons, List.append_assoc, List.singleton_append] at takesBehind
      refine ⟨_, gap ++ (byte :: front ++ inside), by simp, takesBehind.cons isGap takes.leads ?_⟩
      intro deeper bound behind ends
      exact items_item (nextItem_gap isGap visible noEnd _) (takes.reads deeper bound _ ends)

theorem Names.takesInside {limit : Nat} (regular : Regular limit) {first : Bool}
    {entries : List (String × Json)} {s rest : List UInt8}
    (names : Names (valueReader limit) first s entries rest) (done : List (String × Json)) :
    ∃ depth inside, s = inside ++ 0x7D :: rest ∧
      TakesInside 0x7D first (fun limit => members (valueReader limit) first done) depth inside
        (done.reverse ++ entries) := by
  induction names generalizing done with
  | @done first blanks blank rest =>
      refine ⟨0, blanks, rfl, takesInside_blanks blank (by decide) fun limit behind => ?_⟩
      exact (Names.done blank behind).read done
  | @member first gap inString blanks valueText after rest name value entries isGap nameRead blank read
      later induction =>
      rcases stringScan_eq_ok nameRead with ⟨written, rfl, takesName⟩
      rcases regular _ _ _ read with ⟨depth, front, rfl, takes⟩
      rcases induction ((name, value) :: done) with ⟨depthBehind, inside, rfl, takesBehind⟩
      rw [List.reverse_cons, List.append_assoc, List.singleton_append] at takesBehind
      -- The piece of a member is its name, its colon and its value; only the value goes down.
      have nameLeads : Leads .outside .outside 0 (0x22 :: written) :=
        .cons (fun _ _ => rfl) takesName.leads
      have colonLeads : Leads .outside .outside 0 (blanks ++ [0x3A]) :=
        blank.leads.append (.cons_of_not_isMark rfl (leads_nil _))
      have leads := nameLeads.append (colonLeads.append takes.leads)
      simp only [Nat.zero_max] at leads
      refine ⟨_, _, ?_, takesBehind.cons isGap leads ?_⟩
      · simp
      · intro deeper bound behind ends
        have nameAgain := takesName.reads (blanks ++ 0x3A :: (front ++ (inside ++ 0x7D :: behind)))
        have taken := takes.reads deeper bound _ ends
        simp only [List.append_assoc, List.cons_append, List.nil_append]
        exact members_member (nextName_gap isGap nameAgain) (colon_append blank _) taken

/-! ## Values -/

section

variable {inner : Reader Json} {blanks s rest : List UInt8}

theorem valueScan_array {values : List Json} (blank : Blank blanks)
    (read : items inner true [] s = .ok (values, rest)) :
    valueScan (some inner) (blanks ++ 0x5B :: s) = .ok (.array values, rest) := by
  rw [valueScan, skipBlank_eq_cons blank (by decide)]
  dsimp only
  rw [if_pos rfl, read]

theorem valueScan_object {entries : List (String × Json)} (blank : Blank blanks)
    (read : members inner true [] s = .ok (entries, rest)) :
    valueScan (some inner) (blanks ++ 0x7B :: s) = .ok (ofEntries entries, rest) := by
  rw [valueScan, skipBlank_eq_cons blank (by decide)]
  dsimp only
  rw [if_neg (by decide), if_pos rfl, read]

end

def StartsScalar (byte : UInt8) : Prop :=
  isBlank byte = false ∧ byte ≠ 0x5B ∧ byte ≠ 0x7B

theorem valueScan_scalar {inner : Option (Reader Json)} {blanks : List UInt8} (blank : Blank blanks)
    {byte : UInt8} (starts : StartsScalar byte) (s : List UInt8) :
    valueScan inner (blanks ++ byte :: s) = scalarScan byte s := by
  rw [valueScan, skipBlank_eq_cons blank starts.1]
  dsimp only
  rw [if_neg starts.2.1, if_neg starts.2.2]

/-- What a value is: a scalar, or an array or an object, behind blanks. -/
theorem of_valueScan_eq_ok {inner : Option (Reader Json)} {s rest : List UInt8} {value : Json}
    (read : valueScan inner s = .ok (value, rest)) :
    ∃ blanks, Blank blanks ∧
      ((∃ reader values tail, inner = some reader ∧ s = blanks ++ 0x5B :: tail ∧
          items reader true [] tail = .ok (values, rest) ∧ value = .array values) ∨
        (∃ reader entries tail, inner = some reader ∧ s = blanks ++ 0x7B :: tail ∧
          members reader true [] tail = .ok (entries, rest) ∧ value = ofEntries entries) ∨
        ∃ byte tail, StartsScalar byte ∧ s = blanks ++ byte :: tail ∧
          scalarScan byte tail = .ok (value, rest)) := by
  rw [valueScan] at read
  split at read
  · cases read
  · next byte tail skipped =>
    rcases of_skipBlank_eq_cons skipped with ⟨visible, blanks, blank, rfl⟩
    refine ⟨blanks, blank, ?_⟩
    split at read
    · next bracket =>
      subst bracket
      split at read
      · cases read
      · next reader =>
        split at read
        · cases read
        · next values _ itemsRead =>
          cases read
          exact .inl ⟨reader, values, tail, rfl, rfl, itemsRead, rfl⟩
    · next noArray =>
      split at read
      · next brace =>
        subst brace
        split at read
        · cases read
        · next reader =>
          split at read
          · cases read
          · next entries _ membersRead =>
            cases read
            exact .inr (.inl ⟨reader, entries, tail, rfl, rfl, membersRead, rfl⟩)
      · next noObject => exact .inr (.inr ⟨byte, tail, ⟨visible, noArray, noObject⟩, rfl, read⟩)

theorem read_zero (s : List UInt8) : (valueReader 0).read s = valueScan none s :=
  rfl

theorem read_succ (below : Nat) (s : List UInt8) :
    (valueReader (below + 1)).read s = valueScan (some (valueReader below)) s :=
  rfl

theorem read_cases {limit : Nat} {s rest : List UInt8} {value : Json}
    (read : (valueReader limit).read s = .ok (value, rest)) :
    ∃ blanks, Blank blanks ∧
      ((∃ byte tail, StartsScalar byte ∧ s = blanks ++ byte :: tail ∧
          scalarScan byte tail = .ok (value, rest)) ∨
        ∃ below, limit = below + 1 ∧
          ((∃ values tail, s = blanks ++ 0x5B :: tail ∧
              Lists (valueReader below) true tail values rest ∧ value = .array values) ∨
            ∃ entries tail, s = blanks ++ 0x7B :: tail ∧
              Names (valueReader below) true tail entries rest ∧ value = ofEntries entries)) := by
  cases limit with
  | zero =>
      rw [read_zero] at read
      rcases of_valueScan_eq_ok read with ⟨blanks, blank, array | object | scalar⟩
      · rcases array with ⟨_, _, _, none, _⟩
        cases none
      · rcases object with ⟨_, _, _, none, _⟩
        cases none
      · exact ⟨blanks, blank, .inl scalar⟩
  | succ below =>
      rw [read_succ] at read
      rcases of_valueScan_eq_ok read with ⟨blanks, blank, array | object | scalar⟩
      · rcases array with ⟨_, _, tail, same, begins, inside, found⟩
        cases same
        rcases exists_lists inside with ⟨values, whole, lists⟩
        subst whole
        exact ⟨blanks, blank, .inr ⟨below, rfl, .inl ⟨_, tail, begins, lists, found⟩⟩⟩
      · rcases object with ⟨_, _, tail, same, begins, inside, found⟩
        cases same
        rcases exists_names inside with ⟨entries, whole, names⟩
        subst whole
        exact ⟨blanks, blank, .inr ⟨below, rfl, .inr ⟨_, tail, begins, names, found⟩⟩⟩
      · exact ⟨blanks, blank, .inl scalar⟩

theorem read_blank_append (limit : Nat) {blanks : List UInt8} (blank : Blank blanks) (s : List UInt8) :
    (valueReader limit).read (blanks ++ s) = (valueReader limit).read s := by
  cases limit with
  | zero => rw [read_zero, read_zero, valueScan, valueScan, skipBlank_append blank]
  | succ below => rw [read_succ, read_succ, valueScan, valueScan, skipBlank_append blank]

theorem read_scalar (limit : Nat) {blanks : List UInt8} (blank : Blank blanks) {byte : UInt8}
    (starts : StartsScalar byte) (s : List UInt8) :
    (valueReader limit).read (blanks ++ byte :: s) = scalarScan byte s := by
  cases limit with
  | zero => rw [read_zero, valueScan_scalar blank starts]
  | succ below => rw [read_succ, valueScan_scalar blank starts]

theorem takesValue_scalar {blanks : List UInt8} (blank : Blank blanks) {byte : UInt8}
    (starts : StartsScalar byte) {s rest : List UInt8} {value : Json}
    (read : scalarScan byte s = .ok (value, rest)) :
    ∃ front, s = front ++ rest ∧ TakesValue 0 (blanks ++ byte :: front) value := by
  rcases scalarScan_eq_ok read with ⟨front, rfl, leads, reads⟩
  refine ⟨front, rfl, blank.leads.append leads, fun limit _ behind ends => ?_⟩
  rw [List.append_assoc, List.cons_append, read_scalar limit blank starts, reads behind ends]

/-- Brackets around what is read with one level less. -/
theorem takesValue_enclosed {opening closing : UInt8} (opens : opening = 0x5B ∨ opening = 0x7B)
    (closes : closing = 0x5D ∨ closing = 0x7D) {blanks inside : List UInt8} (blank : Blank blanks)
    {α : Type} {scan : Nat → List UInt8 → Scan α} {depth : Nat} {found : α}
    (takes : TakesInside closing true scan depth inside found) {value : Json}
    (makes : ∀ limit s behind, scan limit s = .ok (found, behind) →
      valueScan (some (valueReader limit)) (blanks ++ opening :: s) = .ok (value, behind)) :
    TakesValue (depth + 1) (blanks ++ (opening :: inside ++ [closing])) value where
  leads := by
    have whole := blank.leads.append (takes.leads.enclose opens closes)
    rwa [Nat.zero_max] at whole
  reads limit bound behind _ := by
    cases limit with
    | zero => exact absurd bound (Nat.not_succ_le_zero depth)
    | succ below =>
        simp only [List.append_assoc, List.cons_append, List.nil_append]
        exact makes below _ behind (takes.reads below (Nat.le_of_succ_le_succ bound) behind)

theorem regular (limit : Nat) : Regular limit := by
  -- By induction on the levels that are left; without any, there are only scalars.
  induction limit with
  | zero =>
      intro s value rest read
      rcases read_cases read with ⟨blanks, blank, ⟨byte, tail, starts, rfl, scalar⟩ | ⟨_, none, _⟩⟩
      · rcases takesValue_scalar blank starts scalar with ⟨front, rfl, takes⟩
        exact ⟨0, _, by simp, takes⟩
      · cases none
  | succ below induction =>
      intro s value rest read
      rcases read_cases read with ⟨blanks, blank, ⟨byte, tail, starts, rfl, scalar⟩ | ⟨_, same, inner⟩⟩
      · rcases takesValue_scalar blank starts scalar with ⟨front, rfl, takes⟩
        exact ⟨0, _, by simp, takes⟩
      · cases same
        rcases inner with ⟨values, tail, rfl, lists, rfl⟩ | ⟨entries, tail, rfl, names, rfl⟩
        · rcases lists.takesInside induction [] with ⟨depth, front, rfl, takes⟩
          refine ⟨depth + 1, blanks ++ (0x5B :: front ++ [0x5D]), by simp, ?_⟩
          apply takesValue_enclosed (.inl rfl) (.inl rfl) blank takes
          intro limit s behind again
          exact valueScan_array blank again
        · rcases names.takesInside induction [] with ⟨depth, front, rfl, takes⟩
          refine ⟨depth + 1, blanks ++ (0x7B :: front ++ [0x7D]), by simp, ?_⟩
          apply takesValue_enclosed (.inr rfl) (.inr rfl) blank takes
          intro limit s behind again
          exact valueScan_object blank again

/-! ## Documents -/

/-- A document that was read is read as a part of another text, with blanks behind it, wherever as many
levels are left as it is nested. -/
theorem read_of_ofText {text : String} {value : Json} (read : ofText text = .ok value) {limit : Nat}
    (shallow : nestingOf (Utf8.bytes text) ≤ limit) {behind : List UInt8} (ends : EndsNumber behind) :
    ∃ blanks, Blank blanks ∧
      (valueReader limit).read (Utf8.bytes text ++ behind) = .ok (value, blanks ++ behind) := by
  rw [ofText, ofBytes, documentOf] at read
  split at read
  · cases read
  · next found rest valueRead =>
    rcases regular depthLimit _ _ _ valueRead with ⟨depth, front, whole, takes⟩
    split at read
    · next skipped =>
      cases read
      have blank := blank_of_skipBlank_eq_nil skipped
      have leads := takes.leads.append blank.leads
      rw [← whole] at leads
      rw [nestingOf_of_leads leads, Nat.max_zero] at shallow
      refine ⟨rest, blank, ?_⟩
      rw [whole, List.append_assoc]
      exact takes.reads limit shallow _ (blank.endsNumber ends)
    · cases read

end NodeConsole.Json
