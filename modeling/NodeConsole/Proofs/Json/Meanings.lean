import NodeConsole.Proofs.Json.Numerals
import NodeConsole.Proofs.Json.Pieces
import NodeConsole.Proofs.Json.RoundTrip
/-!
What the texts of the grammar are read as. A text is read as what its tree means, and it is refused if its tree
has no meaning: if a number in it is too large, if half a character stands alone, or if it is nested too deep.
-/

namespace NodeConsole.Json

/-! ## Readers that fail -/

section

variable {α : Type} {item : Reader α} {first : Bool} {s rest : List UInt8}

theorem items_toOption (next : nextItem first s = .ok (.item rest)) (done : List α) :
    (items item first done s).toOption =
      (item.read rest).toOption.bind fun read => (items item false (read.1 :: done) read.2).toOption := by
  cases read : item.read rest with
  | ok found =>
      rw [items_item next read]
      rfl
  | error fault =>
      rw [items]
      split
      · next failed => cases next.symm.trans failed
      · next found => cases next.symm.trans found
      · next found =>
        cases next.symm.trans found
        split
        · rfl
        · next taken => cases read.symm.trans taken

theorem members_of_nextName_error {fault : Fault} (next : nextName first s = .error fault)
    (done : List (String × α)) : members item first done s = .error fault := by
  rw [members]
  split
  · next failed =>
    cases next.symm.trans failed
    rfl
  · next found => cases next.symm.trans found
  · next found => cases next.symm.trans found

theorem members_toOption {name : String} {valueText : List UInt8} (next : nextName first s = .ok (some name, rest))
    (separator : colon rest = .ok valueText) (done : List (String × α)) :
    (members item first done s).toOption =
      (item.read valueText).toOption.bind fun read =>
        (members item false ((name, read.1) :: done) read.2).toOption := by
  cases read : item.read valueText with
  | ok found =>
      rw [members_member next separator read]
      rfl
  | error fault =>
      rw [members]
      split
      · next failed => cases next.symm.trans failed
      · next found => cases next.symm.trans found
      · next found =>
        cases next.symm.trans found
        split
        · next failed => cases separator.symm.trans failed
        · next passed =>
          cases separator.symm.trans passed
          split
          · rfl
          · next taken => cases read.symm.trans taken

end

namespace Grammar

/-! ## Meanings -/

mutual

def Value.meaning? (limit : Nat) : Value → Option Json
  | .null => some .null
  | .bool value => some (.bool value)
  | .number numeral => numeral.meaning?.map .number
  | .string pieces => (textOf? pieces).map fun text => .string (String.ofList text)
  | .array _ items =>
    match limit with
    | 0 => none
    | below + 1 => (items.meaning? below).map .array
  | .object _ entries =>
    match limit with
    | 0 => none
    | below + 1 => (entries.meaning? below).map ofEntries

def Items.meaning? (limit : Nat) : Items → Option (List Json)
  | .nil => some []
  | .cons _ item _ more =>
    (item.meaning? limit).bind fun value => (more.meaning? limit).map (value :: ·)

def Entries.meaning? (limit : Nat) : Entries → Option (List (String × Json))
  | .nil => some []
  | .cons _ name _ _ value _ more =>
    (textOf? name).bind fun text =>
      (value.meaning? limit).bind fun found => (more.meaning? limit).map ((String.ofList text, found) :: ·)

end

/-! ## Blanks and gaps -/

theorem blank_spaceChars (spaces : List Space) : Blank (Utf8.encode (spaceChars spaces)) := by
  have each (blank : Space) : Blank (Utf8.encode [blank.char]) := by
    cases blank <;> decide
  intro byte member
  rw [spaceChars, Utf8.encode, List.mem_flatMap] at member
  rcases member with ⟨c, isSpace, written⟩
  rcases List.mem_map.mp isSpace with ⟨blank, _, rfl⟩
  rw [← Utf8.encode_singleton] at written
  exact each blank byte written

theorem encode_comma : Utf8.encode (comma true) = [] ∧ Utf8.encode (comma false) = [0x2C] := by
  decide

theorem isGap_comma_spaces (first : Bool) {spaces : List UInt8} (blank : Blank spaces) (before : List Space) :
    IsGap first (spaces ++ (Utf8.encode (comma first) ++ Utf8.encode (spaceChars before))) := by
  cases first with
  | true =>
      rw [encode_comma.1, List.nil_append]
      exact List.forall_mem_append.mpr ⟨blank, blank_spaceChars before⟩
  | false =>
      rw [encode_comma.2, List.singleton_append]
      exact ⟨spaces, _, blank, blank_spaceChars before, rfl⟩

theorem endsNumber_items (more : Items) (behind : List UInt8) :
    EndsNumber (Utf8.encode (more.chars false) ++ 0x5D :: behind) := by
  cases more with
  | nil => exact endsNumber_cons (by decide) behind
  | cons before item after more =>
      rw [Items.chars, Utf8.encode_append, encode_comma.2]
      exact endsNumber_cons (by decide) _

theorem endsNumber_entries (more : Entries) (behind : List UInt8) :
    EndsNumber (Utf8.encode (more.chars false) ++ 0x7D :: behind) := by
  cases more with
  | nil => exact endsNumber_cons (by decide) behind
  | cons before name afterName beforeValue value after more =>
      rw [Entries.chars, Utf8.encode_append, encode_comma.2]
      exact endsNumber_cons (by decide) _

/-! ## First bytes -/

theorem Numeral.exists_digit (numeral : Numeral) :
    ∃ digit more, Utf8.encode numeral.magnitudeChars = digit :: more ∧ isDigit digit = true := by
  rcases decimal_spec numeral.whole with ⟨all, first, more, digits, _⟩
  refine ⟨first, more ++ Utf8.encode (numeral.fractionChars ++ numeral.exponentChars), ?_, all first (by simp [digits])⟩
  rw [magnitudeChars, Utf8.encode_append, ← decimal, digits, List.cons_append]

theorem encode_stringChars (pieces : List Piece) :
    Utf8.encode (stringChars pieces) = 0x22 :: (Utf8.encode (pieceChars pieces) ++ [0x22]) := by
  rw [stringChars, Utf8.encode_cons, Utf8.encode_append]
  rfl

theorem Value.exists_byte (value : Value) :
    ∃ byte more, Utf8.encode value.chars = byte :: more ∧ isBlank byte = false ∧ byte ≠ 0x5D := by
  cases value with
  | null => exact ⟨_, _, rfl, by decide⟩
  | bool value => cases value <;> exact ⟨_, _, rfl, by decide⟩
  | number numeral =>
      rw [Value.chars, Numeral.chars]
      split
      · exact ⟨0x2D, _, Utf8.encode_cons .., by decide⟩
      · rcases numeral.exists_digit with ⟨digit, more, written, isDigit⟩
        have starts := startsScalar_of_isDigit isDigit
        exact ⟨digit, more, written, starts.1.1, starts.2⟩
  | string pieces => exact ⟨0x22, _, encode_stringChars pieces, by decide⟩
  | array blanks items =>
      rw [Value.chars]
      exact ⟨0x5B, _, Utf8.encode_cons .., by decide⟩
  | object blanks entries =>
      rw [Value.chars]
      exact ⟨0x7B, _, Utf8.encode_cons .., by decide⟩

/-! ## Scalars -/

section

variable (limit : Nat) {behind : List UInt8}

theorem read_scalar_cons {byte : UInt8} (starts : StartsScalar byte) (s : List UInt8) :
    (valueReader limit).read (byte :: s) = scalarScan byte s :=
  read_scalar limit blank_nil starts s

theorem Numeral.read_toOption (numeral : Numeral) (ends : EndsNumber behind) :
    ((valueReader limit).read (Utf8.encode numeral.chars ++ behind)).toOption =
      (numeral.meaning?.map Json.number).map (·, behind) := by
  have scanned := numeral.numberScan_toOption ends
  rw [Numeral.chars]
  cases minus : numeral.negative with
  | true =>
      have starts : StartsScalar 0x2D := ⟨rfl, by decide, by decide⟩
      have begins : Utf8.encode ('-' :: numeral.magnitudeChars) = 0x2D :: Utf8.encode numeral.magnitudeChars :=
        Utf8.encode_cons ..
      rw [minus] at scanned
      rw [if_pos rfl, begins, List.cons_append, read_scalar_cons limit starts, scalarScan_minus, toOption_map,
        scanned, Option.map_map, Option.map_map]
      rfl
  | false =>
      rcases numeral.exists_digit with ⟨digit, more, written, isDigit⟩
      have starts : StartsScalar digit := (startsScalar_of_isDigit isDigit).1
      rw [minus, written] at scanned
      rw [if_neg Bool.false_ne_true, written, List.cons_append, read_scalar_cons limit starts,
        scalarScan_digit isDigit, toOption_map, ← List.cons_append, scanned, Option.map_map, Option.map_map]
      rfl

theorem string_read_toOption (pieces : List Piece) :
    ((valueReader limit).read (Utf8.encode (stringChars pieces) ++ behind)).toOption =
      ((textOf? pieces).map fun text => Json.string (String.ofList text)).map (·, behind) := by
  have starts : StartsScalar 0x22 := ⟨rfl, by decide, by decide⟩
  rw [encode_stringChars, List.cons_append, List.append_assoc, List.singleton_append,
    read_scalar_cons limit starts, scalarScan_string, toOption_map, stringScan_toOption, Option.map_map,
    Option.map_map]
  rfl

theorem null_read_toOption :
    ((valueReader limit).read (Utf8.encode Value.null.chars ++ behind)).toOption = some (.null, behind) := by
  have starts : StartsScalar 0x6E := ⟨rfl, by decide, by decide⟩
  exact congrArg Except.toOption (read_scalar_cons limit starts (0x75 :: 0x6C :: 0x6C :: behind))

theorem bool_read_toOption (value : Bool) :
    ((valueReader limit).read (Utf8.encode (Value.bool value).chars ++ behind)).toOption =
      some (.bool value, behind) := by
  cases value with
  | true =>
      have starts : StartsScalar 0x74 := ⟨rfl, by decide, by decide⟩
      exact congrArg Except.toOption (read_scalar_cons limit starts (0x72 :: 0x75 :: 0x65 :: behind))
  | false =>
      have starts : StartsScalar 0x66 := ⟨rfl, by decide, by decide⟩
      exact congrArg Except.toOption (read_scalar_cons limit starts (0x61 :: 0x6C :: 0x73 :: 0x65 :: behind))

end

/-! ## Arrays and objects -/

theorem encode_items_cons (before : List Space) (item : Value) (after : List Space) (more : Items) (first : Bool)
    (behind : List UInt8) :
    Utf8.encode ((Items.cons before item after more).chars first) ++ behind =
      Utf8.encode (comma first) ++ (Utf8.encode (spaceChars before) ++ (Utf8.encode item.chars ++
        (Utf8.encode (spaceChars after) ++ (Utf8.encode (more.chars false) ++ behind)))) := by
  rw [Items.chars]
  simp only [Utf8.encode_append, List.append_assoc]

theorem encode_entries_cons (before : List Space) (name : List Piece) (afterName beforeValue : List Space)
    (value : Value) (after : List Space) (more : Entries) (first : Bool) (behind : List UInt8) :
    Utf8.encode ((Entries.cons before name afterName beforeValue value after more).chars first) ++ behind =
      Utf8.encode (comma first) ++ (Utf8.encode (spaceChars before) ++ 0x22 ::
        (Utf8.encode (pieceChars name) ++ 0x22 :: (Utf8.encode (spaceChars afterName) ++ 0x3A ::
          (Utf8.encode (spaceChars beforeValue) ++ (Utf8.encode value.chars ++
            (Utf8.encode (spaceChars after) ++ (Utf8.encode (more.chars false) ++ behind))))))) := by
  have mark (more : List Char) : Utf8.encode (':' :: more) = 0x3A :: Utf8.encode more := Utf8.encode_cons ..
  rw [Entries.chars]
  simp only [Utf8.encode_append, encode_stringChars, mark, List.append_assoc, List.cons_append, List.nil_append]

theorem nextName_toOption {first : Bool} {gap : List UInt8} (isGap : IsGap first gap) (name : List Piece)
    (behind : List UInt8) :
    (nextName first (gap ++ 0x22 :: (Utf8.encode (pieceChars name) ++ 0x22 :: behind))).toOption =
      (textOf? name).map fun text => (some (String.ofList text), behind) := by
  rw [nextName_quote isGap, toOption_map, stringScan_toOption, Option.map_map]
  rfl

theorem valueScan_bracket_toOption (inner : Reader Json) (s : List UInt8) :
    (valueScan (some inner) (0x5B :: s)).toOption =
      (items inner true [] s).toOption.map fun read => (.array read.1, read.2) := by
  cases read : items inner true [] s with
  | ok found => exact congrArg Except.toOption (valueScan_array blank_nil read)
  | error fault =>
      rw [valueScan, skipBlank_cons (by decide)]
      dsimp only
      rw [if_pos rfl, read]
      rfl

theorem valueScan_brace_toOption (inner : Reader Json) (s : List UInt8) :
    (valueScan (some inner) (0x7B :: s)).toOption =
      (members inner true [] s).toOption.map fun read => (ofEntries read.1, read.2) := by
  cases read : members inner true [] s with
  | ok found => exact congrArg Except.toOption (valueScan_object blank_nil read)
  | error fault =>
      rw [valueScan, skipBlank_cons (by decide)]
      dsimp only
      rw [if_neg (by decide), if_pos rfl, read]
      rfl

mutual

/-- A value is read as what it means, in front of anything that continues no number. -/
theorem Value.read_toOption (limit : Nat) (value : Value) {behind : List UInt8} (ends : EndsNumber behind) :
    ((valueReader limit).read (Utf8.encode value.chars ++ behind)).toOption =
      (value.meaning? limit).map (·, behind) := by
  cases value with
  | null => exact null_read_toOption limit
  | bool value => exact bool_read_toOption limit value
  | number numeral => exact numeral.read_toOption limit ends
  | string pieces => exact string_read_toOption limit pieces
  | array blanks items =>
      have begins : Utf8.encode (Value.array blanks items).chars ++ behind =
          0x5B :: (Utf8.encode (spaceChars blanks) ++ (Utf8.encode (items.chars true) ++ 0x5D :: behind)) := by
        rw [Value.chars, Utf8.encode_cons, Utf8.encode_append, Utf8.encode_append]
        simp only [List.append_assoc]
        rfl
      rw [begins]
      cases limit with
      | zero => rfl
      | succ below =>
          rw [read_succ, valueScan_bracket_toOption, Items.items_toOption below items (blank_spaceChars blanks),
            Value.meaning?, Option.map_map, Option.map_map]
          rfl
  | object blanks entries =>
      have begins : Utf8.encode (Value.object blanks entries).chars ++ behind =
          0x7B :: (Utf8.encode (spaceChars blanks) ++ (Utf8.encode (entries.chars true) ++ 0x7D :: behind)) := by
        rw [Value.chars, Utf8.encode_cons, Utf8.encode_append, Utf8.encode_append]
        simp only [List.append_assoc]
        rfl
      rw [begins]
      cases limit with
      | zero => rfl
      | succ below =>
          rw [read_succ, valueScan_brace_toOption,
            Entries.members_toOption below entries (blank_spaceChars blanks), Value.meaning?, Option.map_map,
            Option.map_map]
          rfl

theorem Items.items_toOption (limit : Nat) (items : Items) {first : Bool} {spaces : List UInt8}
    (blank : Blank spaces) (done : List Json) (behind : List UInt8) :
    (Json.items (valueReader limit) first done
        (spaces ++ (Utf8.encode (items.chars first) ++ 0x5D :: behind))).toOption =
      (items.meaning? limit).map fun values => (done.reverse ++ values, behind) := by
  cases items with
  | nil =>
      rw [Items.chars, Items.meaning?, Option.map_some, List.append_nil]
      exact congrArg Except.toOption (items_done (nextItem_close first blank behind))
  | cons before item after more =>
      rcases item.exists_byte with ⟨byte, rest, written, visible, noEnd⟩
      have ends := (blank_spaceChars after).endsNumber (endsNumber_items more behind)
      have next := nextItem_gap (isGap_comma_spaces first blank before) visible noEnd
        (rest ++ (Utf8.encode (spaceChars after) ++ (Utf8.encode (more.chars false) ++ 0x5D :: behind)))
      rw [← List.cons_append, ← written, List.append_assoc, List.append_assoc, ← encode_items_cons] at next
      rw [Json.items_toOption next, item.read_toOption limit ends, Items.meaning?]
      cases item.meaning? limit with
      | none => rfl
      | some value =>
          rw [Option.map_some, Option.bind_some, Items.items_toOption limit more (blank_spaceChars after),
            Option.bind_some, Option.map_map, List.reverse_cons]
          congr 1
          funext values
          simp

theorem Entries.members_toOption (limit : Nat) (entries : Entries) {first : Bool} {spaces : List UInt8}
    (blank : Blank spaces) (done : List (String × Json)) (behind : List UInt8) :
    (members (valueReader limit) first done
        (spaces ++ (Utf8.encode (entries.chars first) ++ 0x7D :: behind))).toOption =
      (entries.meaning? limit).map fun found => (done.reverse ++ found, behind) := by
  cases entries with
  | nil =>
      rw [Entries.chars, Entries.meaning?, Option.map_some, List.append_nil]
      exact congrArg Except.toOption (members_done (nextName_close first blank behind))
  | cons before name afterName beforeValue value after more =>
      have ends := (blank_spaceChars after).endsNumber (endsNumber_entries more behind)
      have named := nextName_toOption (isGap_comma_spaces first blank before) name
        (Utf8.encode (spaceChars afterName) ++ 0x3A :: (Utf8.encode (spaceChars beforeValue) ++
          (Utf8.encode value.chars ++ (Utf8.encode (spaceChars after) ++
            (Utf8.encode (more.chars false) ++ 0x7D :: behind)))))
      rw [List.append_assoc, List.append_assoc, ← encode_entries_cons] at named
      rw [Entries.meaning?]
      cases means : textOf? name with
      | none =>
          -- The name is refused before there is a value.
          rw [means] at named
          rcases exists_error_of_toOption named with ⟨fault, failed⟩
          rw [members_of_nextName_error failed]
          rfl
      | some text =>
          rw [means] at named
          have next := toOption_eq_some_iff.mp named
          rw [members_toOption next (colon_append (blank_spaceChars afterName) _),
            read_blank_append limit (blank_spaceChars beforeValue), value.read_toOption limit ends, Option.bind_some]
          cases value.meaning? limit with
          | none => rfl
          | some found =>
              rw [Option.map_some, Option.bind_some, Option.bind_some,
                Entries.members_toOption limit more (blank_spaceChars after), Option.map_map, List.reverse_cons]
              congr 1
              funext found
              simp

end

end Grammar

end NodeConsole.Json
