import NodeConsole.Proofs.Json.Scalars
/-!
The parts of arrays and objects: blanks, the gaps between items or members, names, and the marks that
end them. For each part there is what the reader does with it, and what it must have found.
-/

namespace NodeConsole.Json

/-! ## Blanks -/

def Blank (piece : List UInt8) : Prop :=
  ∀ byte ∈ piece, isBlank byte = true

instance (piece : List UInt8) : Decidable (Blank piece) :=
  decidable_of_iff (piece.all isBlank = true) List.all_eq_true

theorem blank_nil : Blank [] := by
  intro byte none
  cases none

theorem Blank.leads {piece : List UInt8} (blank : Blank piece) : Leads .outside .outside 0 piece :=
  leads_of_not_isMark fun byte member => isMark_of_isBlank (blank byte member)

theorem Blank.endsNumber {piece : List UInt8} (blank : Blank piece) {behind : List UInt8}
    (ends : EndsNumber behind) : EndsNumber (piece ++ behind) := by
  cases piece with
  | nil => exact ends
  | cons byte more =>
      have first := blank byte (by simp)
      simp only [isBlank, Bool.or_eq_true, beq_iff_eq] at first
      rcases first with ((rfl | rfl) | rfl) | rfl <;> exact endsNumber_cons (by decide) _

theorem skipBlank_append {blanks : List UInt8} (blank : Blank blanks) (rest : List UInt8) :
    skipBlank (blanks ++ rest) = skipBlank rest :=
  List.dropWhile_append_of_pos blank

theorem skipBlank_cons {byte : UInt8} (visible : isBlank byte = false) (rest : List UInt8) :
    skipBlank (byte :: rest) = byte :: rest := by
  rw [skipBlank, List.dropWhile_cons, visible]
  rfl

theorem exists_blank_append (s : List UInt8) : ∃ blanks, Blank blanks ∧ s = blanks ++ skipBlank s :=
  ⟨s.takeWhile isBlank, fun _ => List.mem_takeWhile_imp, List.takeWhile_append_dropWhile.symm⟩

theorem blank_of_skipBlank_eq_nil {s : List UInt8} (skipped : skipBlank s = []) : Blank s := by
  rcases exists_blank_append s with ⟨blanks, blank, whole⟩
  rw [skipped, List.append_nil] at whole
  exact whole ▸ blank

theorem of_skipBlank_eq_cons {s rest : List UInt8} {byte : UInt8} (skipped : skipBlank s = byte :: rest) :
    isBlank byte = false ∧ ∃ blanks, Blank blanks ∧ s = blanks ++ byte :: rest := by
  rcases exists_blank_append s with ⟨blanks, blank, whole⟩
  rw [skipped] at whole
  refine ⟨?_, blanks, blank, whole⟩
  have stops := List.head?_dropWhile_not isBlank s
  rw [← skipBlank, skipped] at stops
  simpa using stops

theorem skipBlank_eq_cons {blanks : List UInt8} (blank : Blank blanks) {byte : UInt8}
    (visible : isBlank byte = false) (rest : List UInt8) :
    skipBlank (blanks ++ byte :: rest) = byte :: rest := by
  rw [skipBlank_append blank, skipBlank_cons visible]

/-! ## Gaps -/

def IsGap (first : Bool) (piece : List UInt8) : Prop :=
  match first with
  | true => Blank piece
  | false => ∃ before after, Blank before ∧ Blank after ∧ piece = before ++ 0x2C :: after

theorem IsGap.leads {first : Bool} {piece : List UInt8} (gap : IsGap first piece) :
    Leads .outside .outside 0 piece := by
  cases first with
  | true => exact Blank.leads gap
  | false =>
      rcases gap with ⟨before, after, blank, blankAfter, rfl⟩
      exact blank.leads.append (.cons_of_not_isMark rfl blankAfter.leads)

theorem IsGap.endsNumber {piece : List UInt8} (gap : IsGap false piece) (behind : List UInt8) :
    EndsNumber (piece ++ behind) := by
  rcases gap with ⟨before, after, blank, _, rfl⟩
  rw [List.append_assoc]
  exact blank.endsNumber (endsNumber_cons (by decide) _)

/-! ## Items -/

theorem nextItem_gap {first : Bool} {gap : List UInt8} (isGap : IsGap first gap) {byte : UInt8}
    (visible : isBlank byte = false) (noEnd : byte ≠ 0x5D) (rest : List UInt8) :
    nextItem first (gap ++ byte :: rest) = .ok (.item (byte :: rest)) := by
  cases first with
  | true =>
      rw [nextItem, skipBlank_eq_cons isGap visible]
      dsimp only
      rw [if_neg noEnd, if_pos rfl]
  | false =>
      rcases isGap with ⟨before, after, blank, blankAfter, rfl⟩
      rw [nextItem, List.append_assoc, List.cons_append, skipBlank_eq_cons blank (by decide)]
      dsimp only
      rw [if_neg (by decide), if_neg Bool.false_ne_true, if_pos rfl, skipBlank_eq_cons blankAfter visible]
      dsimp only
      rw [if_neg noEnd]

theorem nextItem_close (first : Bool) {blanks : List UInt8} (blank : Blank blanks) (rest : List UInt8) :
    nextItem first (blanks ++ 0x5D :: rest) = .ok (.done rest) := by
  rw [nextItem, skipBlank_eq_cons blank (by decide)]
  exact if_pos rfl

theorem of_nextItem_eq_ok {first : Bool} {s : List UInt8} {next : Next}
    (found : nextItem first s = .ok next) :
    (∃ blanks rest, Blank blanks ∧ s = blanks ++ 0x5D :: rest ∧ next = .done rest) ∨
      ∃ gap byte rest, IsGap first gap ∧ isBlank byte = false ∧ byte ≠ 0x5D ∧
        s = gap ++ byte :: rest ∧ next = .item (byte :: rest) := by
  rw [nextItem] at found
  split at found
  · cases found
  · next byte rest skipped =>
    rcases of_skipBlank_eq_cons skipped with ⟨visible, blanks, blank, rfl⟩
    split at found
    · next ends =>
      cases found
      exact .inl ⟨blanks, rest, blank, ends ▸ rfl, rfl⟩
    · next noEnd =>
      right
      split at found
      · next isFirst =>
        cases found
        subst isFirst
        exact ⟨blanks, byte, rest, blank, visible, noEnd, rfl, rfl⟩
      · next later =>
        rw [Bool.not_eq_true] at later
        subst later
        split at found
        · next comma =>
          subst comma
          split at found
          · cases found
          · next item more skippedAfter =>
            rcases of_skipBlank_eq_cons skippedAfter with ⟨visibleItem, after, blankAfter, rfl⟩
            split at found
            · cases found
            · next noEndAfter =>
              cases found
              refine ⟨blanks ++ 0x2C :: after, item, more, ?_, visibleItem, noEndAfter, ?_, rfl⟩
              · exact ⟨blanks, after, blank, blankAfter, rfl⟩
              · rw [List.append_assoc, List.cons_append]
        · cases found

section

variable {α : Type} {item : Reader α} {first : Bool} {done : List α} {s rest after : List UInt8} {value : α}

theorem items_done (next : nextItem first s = .ok (.done rest)) :
    items item first done s = .ok (done.reverse, rest) := by
  rw [items]
  split
  · next failed => cases next.symm.trans failed
  · next found =>
    cases next.symm.trans found
    rfl
  · next found => cases next.symm.trans found

theorem items_item (next : nextItem first s = .ok (.item rest))
    (read : item.read rest = .ok (value, after)) :
    items item first done s = items item false (value :: done) after := by
  rw [items]
  split
  · next failed => cases next.symm.trans failed
  · next found => cases next.symm.trans found
  · next found =>
    cases next.symm.trans found
    split
    · next failed => cases read.symm.trans failed
    · next taken =>
      cases read.symm.trans taken
      rfl

end

/-! ## Members -/

/-- Behind a gap and a quotation mark there is a name, as far as it can be read. -/
theorem nextName_quote {first : Bool} {gap : List UInt8} (isGap : IsGap first gap) (s : List UInt8) :
    nextName first (gap ++ 0x22 :: s) = (stringScan s).map fun read => (some read.1, read.2) := by
  cases first with
  | true =>
      rw [nextName, skipBlank_eq_cons isGap (by decide)]
      dsimp only
      rw [if_neg (by decide), if_pos rfl, if_pos rfl]
      cases stringScan s <;> rfl
  | false =>
      rcases isGap with ⟨before, after, blank, blankAfter, rfl⟩
      rw [nextName, List.append_assoc, List.cons_append, skipBlank_eq_cons blank (by decide)]
      dsimp only
      rw [if_neg (by decide), if_neg Bool.false_ne_true, if_pos rfl,
        skipBlank_eq_cons blankAfter (by decide)]
      dsimp only
      rw [if_pos rfl]
      cases stringScan s <;> rfl

theorem nextName_gap {first : Bool} {gap : List UInt8} (isGap : IsGap first gap) {s rest : List UInt8}
    {name : String} (read : stringScan s = .ok (name, rest)) :
    nextName first (gap ++ 0x22 :: s) = .ok (some name, rest) := by
  rw [nextName_quote isGap, read]
  rfl

theorem nextName_close (first : Bool) {blanks : List UInt8} (blank : Blank blanks) (rest : List UInt8) :
    nextName first (blanks ++ 0x7D :: rest) = .ok (none, rest) := by
  rw [nextName, skipBlank_eq_cons blank (by decide)]
  exact if_pos rfl

theorem of_nextName_eq_ok {first : Bool} {s rest : List UInt8} {name : Option String}
    (found : nextName first s = .ok (name, rest)) :
    (∃ blanks, Blank blanks ∧ s = blanks ++ 0x7D :: rest ∧ name = none) ∨
      ∃ gap text inside, IsGap first gap ∧ stringScan inside = .ok (text, rest) ∧
        s = gap ++ 0x22 :: inside ∧ name = some text := by
  rw [nextName] at found
  split at found
  · cases found
  · next byte tail skipped =>
    rcases of_skipBlank_eq_cons skipped with ⟨_, blanks, blank, rfl⟩
    split at found
    · next ends =>
      cases found
      exact .inl ⟨blanks, blank, ends ▸ rfl, rfl⟩
    · right
      split at found
      · next isFirst =>
        subst isFirst
        split at found
        · next quote =>
          subst quote
          split at found
          · cases found
          · next text after read =>
            cases found
            exact ⟨blanks, text, tail, blank, read, rfl, rfl⟩
        · cases found
      · next later =>
        rw [Bool.not_eq_true] at later
        subst later
        split at found
        · next comma =>
          subst comma
          split at found
          · cases found
          · next opening more skippedAfter =>
            rcases of_skipBlank_eq_cons skippedAfter with ⟨_, after, blankAfter, rfl⟩
            split at found
            · next quote =>
              subst quote
              split at found
              · cases found
              · next text behind read =>
                cases found
                refine ⟨blanks ++ 0x2C :: after, text, more, ?_, read, ?_, rfl⟩
                · exact ⟨blanks, after, blank, blankAfter, rfl⟩
                · rw [List.append_assoc, List.cons_append]
            · split at found <;> cases found
        · cases found

theorem colon_append {blanks : List UInt8} (blank : Blank blanks) (rest : List UInt8) :
    colon (blanks ++ 0x3A :: rest) = .ok rest := by
  rw [colon, skipBlank_eq_cons blank (by decide)]
  exact if_pos rfl

theorem of_colon_eq_ok {s rest : List UInt8} (read : colon s = .ok rest) :
    ∃ blanks, Blank blanks ∧ s = blanks ++ 0x3A :: rest := by
  rw [colon] at read
  split at read
  · cases read
  · next byte tail skipped =>
    rcases of_skipBlank_eq_cons skipped with ⟨_, blanks, blank, rfl⟩
    split at read
    · next mark =>
      cases read
      exact ⟨blanks, blank, mark ▸ rfl⟩
    · cases read

section

variable {α : Type} {reader : Reader α} {first : Bool} {done : List (String × α)} {name : String}
  {s rest valueText after : List UInt8} {value : α}

theorem members_done (next : nextName first s = .ok (none, rest)) :
    members reader first done s = .ok (done.reverse, rest) := by
  rw [members]
  split
  · next failed => cases next.symm.trans failed
  · next found =>
    cases next.symm.trans found
    rfl
  · next found => cases next.symm.trans found

theorem members_member (next : nextName first s = .ok (some name, rest))
    (separator : colon rest = .ok valueText) (read : reader.read valueText = .ok (value, after)) :
    members reader first done s = members reader false ((name, value) :: done) after := by
  rw [members]
  split
  · next failed => cases next.symm.trans failed
  · next found => cases next.symm.trans found
  · next found =>
    cases next.symm.trans found
    split
    · next failed => cases separator.symm.trans failed
    · next passed =>
      cases separator.symm.trans passed
      split
      · next failed => cases read.symm.trans failed
      · next taken =>
        cases read.symm.trans taken
        rfl

end

end NodeConsole.Json
