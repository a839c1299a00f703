import NodeConsole.Proofs.Json.Grammar
import NodeConsole.Proofs.Json.Strings
import NodeConsole.Proofs.Results
/-!
The strings of the grammar: what they mean, and that they are read as that. A string has a meaning unless it
has one half of a character without the other.
-/

namespace NodeConsole.Json.Grammar

/-! ## Meanings -/

def unitOf (a b c d : HexDigit) : Nat :=
  ((a.value * 16 + b.value) * 16 + c.value) * 16 + d.value

def IsLeading (unit : Nat) : Prop :=
  0xD800 ≤ unit ∧ unit ≤ 0xDBFF

def IsTrailing (unit : Nat) : Prop :=
  0xDC00 ≤ unit ∧ unit ≤ 0xDFFF

instance (unit : Nat) : Decidable (IsLeading unit) :=
  inferInstanceAs (Decidable (_ ∧ _))

instance (unit : Nat) : Decidable (IsTrailing unit) :=
  inferInstanceAs (Decidable (_ ∧ _))

def wholeOf (leading trailing : Nat) : Char :=
  Char.ofNat (0x10000 + (leading - 0xD800) * 0x400 + (trailing - 0xDC00))

def textOf? : List Piece → Option (List Char)
  | [] => some []
  | .plain c _ _ _ :: rest => (textOf? rest).map (c :: ·)
  | .short escape :: rest => (textOf? rest).map (escape.meaning :: ·)
  | .unit a b c d :: rest =>
    if IsTrailing (unitOf a b c d) then none
    else if IsLeading (unitOf a b c d) then
      match rest with
      | .unit e f g h :: behind =>
        if IsTrailing (unitOf e f g h) then
          (textOf? behind).map (wholeOf (unitOf a b c d) (unitOf e f g h) :: ·)
        else none
      | _ => none
    else (textOf? rest).map (Char.ofNat (unitOf a b c d) :: ·)

def Piece.unit? : Piece → Option Nat
  | .unit a b c d => some (unitOf a b c d)
  | _ => none

inductive Paired : List Piece → Prop where
  | nil : Paired []
  | whole {piece : Piece} {rest : List Piece}
      (noHalf : ∀ unit, piece.unit? = some unit → ¬IsLeading unit ∧ ¬IsTrailing unit) (later : Paired rest) :
      Paired (piece :: rest)
  | pair {first second : Piece} {rest : List Piece} {leading trailing : Nat}
      (isFirst : first.unit? = some leading) (leads : IsLeading leading)
      (isSecond : second.unit? = some trailing) (trails : IsTrailing trailing) (later : Paired rest) :
      Paired (first :: second :: rest)

theorem not_isTrailing_of_isLeading {unit : Nat} (leads : IsLeading unit) : ¬IsTrailing unit := by
  intro trails
  have most := leads.2
  have least := trails.1
  omega

theorem paired_cons_iff {piece : Piece} {rest : List Piece}
    (noHalf : ∀ unit, piece.unit? = some unit → ¬IsLeading unit ∧ ¬IsTrailing unit) :
    Paired (piece :: rest) ↔ Paired rest := by
  constructor
  · intro paired
    cases paired with
    | whole _ later => exact later
    | pair isFirst leads => exact absurd leads (noHalf _ isFirst).1
  · exact .whole noHalf

/-- The first half of a character has the second half behind it. -/
theorem paired_of_leading_iff {piece : Piece} {leading : Nat} {rest : List Piece}
    (isUnit : piece.unit? = some leading) (leads : IsLeading leading) :
    Paired (piece :: rest) ↔ ∃ second behind trailing, rest = second :: behind ∧
      second.unit? = some trailing ∧ IsTrailing trailing ∧ Paired behind := by
  constructor
  · intro paired
    cases paired with
    | whole noHalf => exact absurd leads (noHalf _ isUnit).1
    | pair isFirst _ isSecond trails later => exact ⟨_, _, _, rfl, isSecond, trails, later⟩
  · rintro ⟨second, behind, trailing, rfl, isSecond, trails, later⟩
    exact .pair isUnit leads isSecond trails later

/-- A string has a meaning exactly if the halves of its characters stand in pairs. -/
theorem exists_textOf?_iff (pieces : List Piece) : (∃ text, textOf? pieces = some text) ↔ Paired pieces := by
  fun_induction textOf? pieces with
  | case1 => exact iff_of_true ⟨[], rfl⟩ .nil
  | case2 c noQuote noSlash visible rest induction =>
      rw [exists_map_iff, induction]
      exact (paired_cons_iff fun _ none => by cases none).symm
  | case3 escape rest induction =>
      rw [exists_map_iff, induction]
      exact (paired_cons_iff fun _ none => by cases none).symm
  | case4 a b c d rest trails =>
      refine iff_of_false (fun none => nomatch none.choose_spec) fun paired => ?_
      cases paired with
      | whole noHalf => exact (noHalf _ rfl).2 trails
      | pair isFirst leads =>
          cases isFirst
          exact not_isTrailing_of_isLeading leads trails
  | case5 a b c d _ leads e f g h behind trails induction =>
      rw [exists_map_iff, induction, paired_of_leading_iff rfl leads]
      constructor
      · exact fun later => ⟨_, behind, _, rfl, rfl, trails, later⟩
      · rintro ⟨second, rest, trailing, same, _, _, later⟩
        cases same
        exact later
  | case6 a b c d _ leads e f g h behind noTrail =>
      refine iff_of_false (fun none => nomatch none.choose_spec) fun paired => ?_
      rcases (paired_of_leading_iff rfl leads).mp paired with ⟨second, rest, trailing, same, isSecond, trails, _⟩
      cases same
      cases isSecond
      exact noTrail trails
  | case7 a b c d rest _ leads noUnit =>
      refine iff_of_false (fun none => nomatch none.choose_spec) fun paired => ?_
      rcases (paired_of_leading_iff rfl leads).mp paired with ⟨second, behind, trailing, same, isSecond, _⟩
      cases second with
      | unit e f g h => exact noUnit e f g h behind same
      | plain => cases isSecond
      | short => cases isSecond
  | case8 a b c d rest noTrail noLead induction =>
      rw [exists_map_iff, induction]
      exact (paired_cons_iff fun unit same => by cases same; exact ⟨noLead, noTrail⟩).symm

/-! ## Reading -/

theorem HexDigit.exists_byte (digit : HexDigit) :
    ∃ byte, Utf8.encode [digit.char] = [byte] ∧ hexValue? byte = some digit.value.val := by
  have each : ∀ value : Fin 16, ∀ capital : Bool,
      Utf8.encode [HexDigit.char ⟨value, capital⟩] = [UInt8.ofNat (HexDigit.char ⟨value, capital⟩).toNat] ∧
        hexValue? (UInt8.ofNat (HexDigit.char ⟨value, capital⟩).toNat) = some value.val := by decide
  exact ⟨_, each digit.value digit.capital⟩

theorem hexScan_digits (a b c d : HexDigit) (rest : List UInt8) :
    hexScan (Utf8.encode [a.char, b.char, c.char, d.char] ++ rest) = .ok (unitOf a b c d, rest) := by
  rcases a.exists_byte with ⟨byteA, writtenA, valueA⟩
  rcases b.exists_byte with ⟨byteB, writtenB, valueB⟩
  rcases c.exists_byte with ⟨byteC, writtenC, valueC⟩
  rcases d.exists_byte with ⟨byteD, writtenD, valueD⟩
  have written : Utf8.encode [a.char, b.char, c.char, d.char] = [byteA, byteB, byteC, byteD] := by
    rw [Utf8.encode_singleton] at writtenA writtenB writtenC
    rw [Utf8.encode_cons, Utf8.encode_cons, Utf8.encode_cons, writtenA, writtenB, writtenC, writtenD]
    rfl
  rw [written]
  simp only [List.cons_append, List.nil_append, hexScan, valueA, valueB, valueC, valueD, unitOf]

theorem encode_pieceChars_cons (piece : Piece) (rest : List Piece) :
    Utf8.encode (pieceChars (piece :: rest)) = Utf8.encode piece.chars ++ Utf8.encode (pieceChars rest) := by
  rw [pieceChars, List.flatMap_cons, Utf8.encode_append]
  rfl

theorem encode_unit_append (a b c d : HexDigit) (rest : List Piece) (behind : List UInt8) :
    Utf8.encode (pieceChars (.unit a b c d :: rest)) ++ behind =
      0x5C :: 0x75 :: (Utf8.encode [a.char, b.char, c.char, d.char] ++
        (Utf8.encode (pieceChars rest) ++ behind)) := by
  rw [encode_pieceChars_cons, List.append_assoc, Piece.chars, Utf8.encode_cons, Utf8.encode_cons]
  rfl

theorem Escape.spec (escape : Escape) :
    ∃ letter meant, Utf8.encode (Piece.short escape).chars = [0x5C, letter] ∧ letter ≠ 0x75 ∧
      shortEscape? letter = some meant ∧ Utf8.encode [escape.meaning] = [meant] := by
  cases escape with
  | quotationMark => exact ⟨0x22, 0x22, by decide⟩
  | backslash => exact ⟨0x5C, 0x5C, by decide⟩
  | slash => exact ⟨0x2F, 0x2F, by decide⟩
  | backspace => exact ⟨0x62, 0x08, by decide⟩
  | formFeed => exact ⟨0x66, 0x0C, by decide⟩
  | lineFeed => exact ⟨0x6E, 0x0A, by decide⟩
  | carriageReturn => exact ⟨0x72, 0x0D, by decide⟩
  | tab => exact ⟨0x74, 0x09, by decide⟩

/-- What stands behind the first half of a character is no second half, if it is no unit. -/
theorem trailingUnitScan_of_no_unit {rest : List Piece}
    (noUnit : ∀ a b c d behind, rest ≠ .unit a b c d :: behind) (leading : Nat) (behind : List UInt8) :
    ∃ fault, trailingUnitScan leading (Utf8.encode (pieceChars rest) ++ 0x22 :: behind) = .error fault := by
  cases rest with
  | nil => exact ⟨_, rfl⟩
  | cons piece more =>
      rw [encode_pieceChars_cons, List.append_assoc]
      generalize Utf8.encode (pieceChars more) ++ 0x22 :: behind = after
      cases piece with
      | unit a b c d => exact absurd rfl (noUnit a b c d more)
      | short escape =>
          rcases escape.spec with ⟨letter, _, written, noMark, _⟩
          rw [written]
          simp [trailingUnitScan]
      | plain c noQuote noSlash visible =>
          have plain := isPlain_of_mem_utf8EncodeChar noQuote noSlash (Nat.not_lt_of_le visible)
          rw [Piece.chars, Utf8.encode_singleton]
          rcases List.exists_cons_of_ne_nil (String.utf8EncodeChar_ne_nil (c := c)) with ⟨first, more, written⟩
          have noEscape : first ≠ 0x5C := (plain first (by simp [written])).2.1
          rw [written, List.cons_append]
          simp [trailingUnitScan, noEscape]

section

variable {a b c d : HexDigit}

theorem escapeScan_unit (a b c d : HexDigit) (rest : List UInt8) :
    escapeScan (0x75 :: (Utf8.encode [a.char, b.char, c.char, d.char] ++ rest)) =
      if IsTrailing (unitOf a b c d) then .error ⟨.loneSurrogate, rest⟩
      else if IsLeading (unitOf a b c d) then trailingUnitScan (unitOf a b c d) rest
      else .ok (Utf8.encode [Char.ofNat (unitOf a b c d)], rest) := by
  rw [escapeScan, if_pos rfl, unitScan, hexScan_digits]
  rfl

theorem escapeScan_leading (leads : IsLeading (unitOf a b c d)) (rest : List UInt8) :
    escapeScan (0x75 :: (Utf8.encode [a.char, b.char, c.char, d.char] ++ rest)) =
      trailingUnitScan (unitOf a b c d) rest := by
  rw [escapeScan_unit, if_neg (not_isTrailing_of_isLeading leads), if_pos leads]

theorem escapeScan_pair (leads : IsLeading (unitOf a b c d)) (e f g h : HexDigit) (rest : List UInt8) :
    escapeScan (0x75 :: (Utf8.encode [a.char, b.char, c.char, d.char] ++
        0x5C :: 0x75 :: (Utf8.encode [e.char, f.char, g.char, h.char] ++ rest))) =
      if IsTrailing (unitOf e f g h) then
        .ok (Utf8.encode [wholeOf (unitOf a b c d) (unitOf e f g h)], rest)
      else .error ⟨.loneSurrogate, rest⟩ := by
  rw [escapeScan_leading leads, trailingUnitScan, hexScan_digits]
  rfl

end

theorem stringBytesScan_escape_error {s : List UInt8} {fault : Fault} (failed : escapeScan s = .error fault)
    (done : List UInt8) : stringBytesScan done (0x5C :: s) = .error fault := by
  rw [stringBytesScan]
  split
  · next found =>
    cases failed.symm.trans found
    rfl
  · next found => cases failed.symm.trans found

/-- What is inside of a string is read as a text, if there is one, behind whatever was read before. -/
def ReadsAs (inside : List UInt8) (text : Option (List Char)) (behind : List UInt8) : Prop :=
  ∀ done, (stringBytesScan done inside).toOption =
    text.map fun text => (done.reverse ++ Utf8.encode text, behind)

section

variable {inside rest behind : List UInt8} {text : Option (List Char)} {c : Char}

theorem readsAs_close (behind : List UInt8) : ReadsAs (0x22 :: behind) (some []) behind := by
  intro done
  rw [stringBytesScan_close]
  simp [Except.toOption, Utf8.encode]

theorem ReadsAs.cons (later : ReadsAs rest text behind)
    (read : ∀ done, stringBytesScan done inside = stringBytesScan ((Utf8.encode [c]).reverse ++ done) rest) :
    ReadsAs inside (text.map (c :: ·)) behind := by
  intro done
  rw [read, later, Option.map_map]
  congr 1
  funext text
  rw [Function.comp_apply, List.reverse_append, List.reverse_reverse, List.append_assoc, ← Utf8.encode_append,
    List.singleton_append]

theorem ReadsAs.escape (later : ReadsAs rest text behind) (read : escapeScan inside = .ok (Utf8.encode [c], rest)) :
    ReadsAs (0x5C :: inside) (text.map (c :: ·)) behind :=
  later.cons (stringBytesScan_escape read)

theorem readsAs_none {fault : Fault} (failed : escapeScan inside = .error fault) (behind : List UInt8) :
    ReadsAs (0x5C :: inside) none behind := by
  intro done
  rw [stringBytesScan_escape_error failed]
  rfl

end

/-- The pieces of a string are read as what they mean, up to the mark that closes it. -/
theorem readsAs_pieces (pieces : List Piece) (behind : List UInt8) :
    ReadsAs (Utf8.encode (pieceChars pieces) ++ 0x22 :: behind) (textOf? pieces) behind := by
  -- By the cases of the meaning: units that are halves stand in the cases 4 to 7, a pair of them in case 5.
  fun_induction textOf? pieces with
  | case1 => exact readsAs_close behind
  | case2 c noQuote noSlash visible rest induction =>
      have plain := isPlain_of_mem_utf8EncodeChar noQuote noSlash (Nat.not_lt_of_le visible)
      rw [encode_pieceChars_cons, List.append_assoc]
      refine induction.cons fun done => ?_
      rw [Piece.chars, Utf8.encode_singleton]
      exact stringBytesScan_append plain done _
  | case3 escape rest induction =>
      rcases escape.spec with ⟨letter, meant, written, noMark, short, means⟩
      rw [encode_pieceChars_cons, List.append_assoc, written]
      have read := escapeScan_short short noMark (Utf8.encode (pieceChars rest) ++ 0x22 :: behind)
      rw [← means] at read
      exact induction.escape read
  | case4 a b c d rest trails =>
      rw [encode_unit_append]
      exact readsAs_none ((escapeScan_unit a b c d _).trans (if_pos trails)) behind
  | case5 a b c d _ leads e f g h rest trails induction =>
      rw [encode_unit_append, encode_unit_append]
      exact induction.escape ((escapeScan_pair leads e f g h _).trans (if_pos trails))
  | case6 a b c d _ leads e f g h rest noTrail =>
      rw [encode_unit_append, encode_unit_append]
      exact readsAs_none ((escapeScan_pair leads e f g h _).trans (if_neg noTrail)) behind
  | case7 a b c d rest _ leads noUnit =>
      rcases trailingUnitScan_of_no_unit noUnit (unitOf a b c d) behind with ⟨fault, failed⟩
      rw [encode_unit_append]
      exact readsAs_none ((escapeScan_leading leads _).trans failed) behind
  | case8 a b c d rest noTrail noLead induction =>
      rw [encode_unit_append]
      have read := escapeScan_unit a b c d (Utf8.encode (pieceChars rest) ++ 0x22 :: behind)
      rw [if_neg noTrail, if_neg noLead] at read
      exact induction.escape read

theorem stringScan_toOption (pieces : List Piece) (behind : List UInt8) :
    (stringScan (Utf8.encode (pieceChars pieces) ++ 0x22 :: behind)).toOption =
      (textOf? pieces).map fun text => (String.ofList text, behind) := by
  have bytes := readsAs_pieces pieces behind []
  rw [stringScan]
  cases meaning : textOf? pieces with
  | none =>
      rw [meaning] at bytes
      rcases exists_error_of_toOption bytes with ⟨fault, failed⟩
      rw [failed]
      rfl
  | some text =>
      rw [meaning] at bytes
      rw [toOption_eq_some_iff.mp bytes]
      dsimp only
      rw [List.reverse_nil, List.nil_append, Utf8.decode?_encode]
      rfl

/-! ## Lengths -/

theorem length_le_of_textOf? {pieces : List Piece} {text : List Char} (means : textOf? pieces = some text) :
    text.length ≤ (pieceChars pieces).length := by
  have cons (piece : Piece) (rest : List Piece) :
      (pieceChars (piece :: rest)).length = piece.chars.length + (pieceChars rest).length := by
    rw [pieceChars, List.flatMap_cons, List.length_append]
    rfl
  fun_induction textOf? pieces generalizing text with
  | case1 =>
      cases means
      exact Nat.zero_le _
  | case2 c noQuote noSlash visible rest induction =>
      rcases Option.map_eq_some_iff.mp means with ⟨later, meansLater, rfl⟩
      have bound := induction meansLater
      rw [cons, List.length_cons]
      have one : (Piece.plain c noQuote noSlash visible).chars.length = 1 := rfl
      omega
  | case3 escape rest induction =>
      rcases Option.map_eq_some_iff.mp means with ⟨later, meansLater, rfl⟩
      have bound := induction meansLater
      have two : (Piece.short escape).chars.length = 2 := rfl
      rw [cons, List.length_cons]
      omega
  | case4 => cases means
  | case5 a b c d _ _ e f g h rest _ induction =>
      rcases Option.map_eq_some_iff.mp means with ⟨later, meansLater, rfl⟩
      have bound := induction meansLater
      have six : (Piece.unit a b c d).chars.length = 6 := rfl
      rw [cons, cons, List.length_cons]
      omega
  | case6 => cases means
  | case7 => cases means
  | case8 a b c d rest _ _ induction =>
      rcases Option.map_eq_some_iff.mp means with ⟨later, meansLater, rfl⟩
      have bound := induction meansLater
      have six : (Piece.unit a b c d).chars.length = 6 := rfl
      rw [cons, List.length_cons]
      omega

end NodeConsole.Json.Grammar
