import NodeConsole.Proofs.Json.Skipped
import NodeConsole.Proofs.Text.Validity
/-!
What is read is text. Readers look at bytes, and only strings are decoded; still no character is broken off
in a document that is read, since everything outside of its strings is ASCII.
-/

namespace NodeConsole.Json

open Utf8 (Reads Pending)

def PassesAscii (s rest : List UInt8) : Prop :=
  ∃ front, s = front ++ rest ∧ ∀ byte ∈ front, byte.toNat < 0x80

section

variable {s after rest : List UInt8} {byte : UInt8}

theorem passesAscii_refl (s : List UInt8) : PassesAscii s s :=
  ⟨[], rfl, fun _ none => by cases none⟩

theorem PassesAscii.cons (ascii : byte.toNat < 0x80) (passes : PassesAscii s rest) :
    PassesAscii (byte :: s) rest := by
  rcases passes with ⟨front, rfl, all⟩
  refine ⟨byte :: front, rfl, fun other member => ?_⟩
  rcases List.mem_cons.mp member with same | later
  · rw [same]
    exact ascii
  · exact all other later

theorem PassesAscii.trans (passes : PassesAscii s after) (more : PassesAscii after rest) :
    PassesAscii s rest := by
  rcases passes with ⟨front, rfl, all⟩
  rcases more with ⟨back, rfl, allBack⟩
  refine ⟨front ++ back, (List.append_assoc ..).symm, fun byte member => ?_⟩
  rcases List.mem_append.mp member with inFront | inBack
  · exact all byte inFront
  · exact allBack byte inBack

/-! ## Numbers -/

theorem ascii_of_isDigit (digit : isDigit byte = true) : byte.toNat < 0x80 := by
  rw [isDigit, Bool.and_eq_true, decide_eq_true_iff, decide_eq_true_iff, UInt8.le_iff_toNat_le,
    UInt8.le_iff_toNat_le] at digit
  exact Nat.lt_of_le_of_lt digit.2 (by decide)

theorem passesAscii_dropWhile (s : List UInt8) : PassesAscii s (s.dropWhile isDigit) :=
  ⟨s.takeWhile isDigit, List.takeWhile_append_dropWhile.symm,
    fun _ member => ascii_of_isDigit (List.mem_takeWhile_imp member)⟩

theorem passesAscii_of_skipExponent (skip : skipExponent s = .ok rest) : PassesAscii s rest := by
  rw [skipExponent.eq_def] at skip
  dsimp only at skip
  split at skip
  · cases skip
  · next byte tail digits =>
    split at skip
    · next digit =>
      cases skip
      have passes := (passesAscii_dropWhile tail).cons (ascii_of_isDigit digit)
      rw [← digits] at passes
      split at passes
      · exact passes.cons (by decide)
      · exact passes.cons (by decide)
      · exact passes
    · cases skip

theorem passesAscii_of_skipFraction (skip : skipFraction s = .ok rest) : PassesAscii s rest := by
  rw [skipFraction.eq_def] at skip
  split at skip
  · split at skip
    · cases skip
    · next byte tail =>
      split at skip
      · next digit =>
        have passes : PassesAscii (0x2E :: byte :: tail) (tail.dropWhile isDigit) :=
          ((passesAscii_dropWhile tail).cons (ascii_of_isDigit digit)).cons (by decide)
        apply passes.trans
        split at skip
        · next after marked =>
          rw [marked]
          exact (passesAscii_of_skipExponent skip).cons (by decide)
        · next after marked =>
          rw [marked]
          exact (passesAscii_of_skipExponent skip).cons (by decide)
        · cases skip
          exact passesAscii_refl _
      · cases skip
  · exact (passesAscii_of_skipExponent skip).cons (by decide)
  · exact (passesAscii_of_skipExponent skip).cons (by decide)
  · cases skip
    exact passesAscii_refl _

theorem passesAscii_of_skipNumber (skip : skipNumber s = .ok rest) : PassesAscii s rest := by
  rw [skipNumber.eq_def] at skip
  split at skip
  · cases skip
  · split at skip
    · split at skip
      · cases skip
      · exact (passesAscii_of_skipFraction skip).cons (by decide)
    · cases skip
      exact (passesAscii_refl []).cons (by decide)
  · next byte tail _ =>
    split at skip
    · next digit =>
      exact ((passesAscii_dropWhile tail).trans (passesAscii_of_skipFraction skip)).cons
        (ascii_of_isDigit digit)
    · cases skip

/-! ## Strings -/

theorem ascii_of_hexValue? {n : Nat} (value : hexValue? byte = some n) : byte.toNat < 0x80 := by
  rw [hexValue?] at value
  grind

theorem passesAscii_of_hexScan {n : Nat} (read : hexScan s = .ok (n, rest)) : PassesAscii s rest := by
  rw [hexScan.eq_def] at read
  split at read
  · split at read
    · next isA isB isC isD =>
      cases read
      apply PassesAscii.cons (ascii_of_hexValue? isA)
      apply PassesAscii.cons (ascii_of_hexValue? isB)
      apply PassesAscii.cons (ascii_of_hexValue? isC)
      exact (passesAscii_refl _).cons (ascii_of_hexValue? isD)
    · cases read
  · cases read

def Escapes (s rest bytes : List UInt8) : Prop :=
  PassesAscii s rest ∧ ∃ c, bytes = Utf8.encode [c]

theorem escapes_of_trailingUnitScan {leading : Nat} {bytes : List UInt8}
    (read : trailingUnitScan leading s = .ok (bytes, rest)) : Escapes s rest bytes := by
  rw [trailingUnitScan.eq_def] at read
  split at read
  · cases read
  · cases read
  · split at read
    · cases read
    · next unit after hex =>
      split at read
      · rw [Except.ok.injEq, Prod.mk.injEq] at read
        rw [← read.2]
        exact ⟨((passesAscii_of_hexScan hex).cons (by decide)).cons (by decide), _, read.1.symm⟩
      · cases read
  · cases read
  · cases read

theorem escapes_of_unitScan {bytes : List UInt8} (read : unitScan s = .ok (bytes, rest)) :
    Escapes s rest bytes := by
  rw [unitScan] at read
  split at read
  · cases read
  · next unit after hex =>
    split at read
    · cases read
    · split at read
      · rcases escapes_of_trailingUnitScan read with ⟨passes, single⟩
        exact ⟨(passesAscii_of_hexScan hex).trans passes, single⟩
      · cases read
        exact ⟨passesAscii_of_hexScan hex, _, rfl⟩

theorem ascii_of_shortEscape? {meant : UInt8} (short : shortEscape? byte = some meant) :
    byte.toNat < 0x80 ∧ meant.toNat < 0x80 := by
  have low : byte < 0x80 ∧ meant < 0x80 := by
    rw [shortEscape?] at short
    grind
  exact ⟨UInt8.lt_iff_toNat_lt.mp low.1, UInt8.lt_iff_toNat_lt.mp low.2⟩

theorem escapes_of_escapeScan {bytes : List UInt8} (read : escapeScan s = .ok (bytes, rest)) :
    Escapes s rest bytes := by
  cases s with
  | nil => cases read
  | cons byte tail =>
      rw [escapeScan] at read
      split at read
      · next isUnit =>
        rcases escapes_of_unitScan read with ⟨passes, single⟩
        rw [isUnit]
        exact ⟨passes.cons (by decide), single⟩
      · split at read
        · next meant short =>
          cases read
          rcases ascii_of_shortEscape? short with ⟨ascii, meantAscii⟩
          have value : (Char.ofNat meant.toNat).toNat = meant.toNat := by
            rw [Char.ofNat, dif_pos (.inl (by omega))]
            rfl
          have single : (Char.ofNat meant.toNat).toNat < 0x80 := by
            rw [value]
            exact meantAscii
          refine ⟨(passesAscii_refl _).cons ascii, Char.ofNat meant.toNat, ?_⟩
          rw [Utf8.encode_singleton, Utf8.utf8EncodeChar_of_lt single, value, UInt8.ofNat_toNat]
        · cases read

/-- A string that reads on well once its escapes are replaced reads on well before. -/
theorem reads_of_stringBytesScan {done bytes : List UInt8}
    (read : stringBytesScan done s = .ok (bytes, rest)) :
    ∃ raw more, s = raw ++ rest ∧ bytes = done.reverse ++ more ∧
      ∀ pending : Option Pending, (∀ inside ∈ pending, inside.Continues) → Reads pending more →
        Reads pending raw := by
  fun_induction stringBytesScan done s with
  | case1 => cases read
  | case2 done rest =>
      cases read
      refine ⟨[0x22], [], rfl, (List.append_nil _).symm, fun pending _ reads => ?_⟩
      cases reads
      exact Utf8.reads_of_ascii (by simp)
  | case3 => cases read
  | case4 done tail meant after escape induction =>
      rcases induction read with ⟨raw, more, rfl, same, reads⟩
      rcases escapes_of_escapeScan escape with ⟨⟨front, rfl, ascii⟩, c, rfl⟩
      refine ⟨0x5C :: front ++ raw, Utf8.encode [c] ++ more, by simp, by simp [same], ?_⟩
      intro pending continues whole
      rcases whole.of_encode_append continues with ⟨rfl, behind⟩
      have inner := reads none (fun _ none => by cases none) behind
      apply Reads.append (Utf8.reads_of_ascii ?_) inner
      intro byte member
      rcases List.mem_cons.mp member with same | inFront
      · rw [same]
        decide
      · exact ascii byte inFront
  | case5 => cases read
  | case6 done byte tail _ _ _ induction =>
      rcases induction read with ⟨raw, more, rfl, same, reads⟩
      refine ⟨byte :: raw, byte :: more, rfl, by simp [same], fun pending _ whole => ?_⟩
      rw [Utf8.reads_cons_iff] at whole ⊢
      exact ⟨whole.1, reads _ (Utf8.continues_step _ byte) whole.2⟩

theorem reads_of_stringScan {text : String} (read : stringScan s = .ok (text, rest)) :
    ∃ raw, s = raw ++ rest ∧ Reads none raw := by
  rw [stringScan] at read
  split at read
  · cases read
  · next bytes after inside =>
    split at read
    · next chars decoded =>
      cases read
      rcases reads_of_stringBytesScan inside with ⟨raw, more, whole, same, reads⟩
      refine ⟨raw, whole, reads none (fun _ none => by cases none) ?_⟩
      rw [List.reverse_nil, List.nil_append] at same
      apply Classical.byContradiction
      intro broken
      rw [same, Utf8.decode?_eq_none_iff.mpr broken] at decoded
      cases decoded
    · cases read

end

/-! ## Values -/

def PassesText (s rest : List UInt8) : Prop :=
  ∃ front, s = front ++ rest ∧ Reads none front

section

variable {s after rest : List UInt8}

theorem PassesAscii.text (passes : PassesAscii s rest) : PassesText s rest := by
  rcases passes with ⟨front, whole, ascii⟩
  exact ⟨front, whole, Utf8.reads_of_ascii ascii⟩

theorem PassesText.trans (passes : PassesText s after) (more : PassesText after rest) :
    PassesText s rest := by
  rcases passes with ⟨front, rfl, reads⟩
  rcases more with ⟨back, rfl, readsBack⟩
  exact ⟨front ++ back, (List.append_assoc ..).symm, reads.append readsBack⟩

theorem PassesText.cons {byte : UInt8} (ascii : byte.toNat < 0x80) (passes : PassesText s rest) :
    PassesText (byte :: s) rest :=
  ((passesAscii_refl s).cons ascii).text.trans passes

theorem Blank.passesText {blanks : List UInt8} (blank : Blank blanks) (s : List UInt8) :
    PassesText (blanks ++ s) s := by
  refine ⟨blanks, rfl, Utf8.reads_of_ascii fun byte member => ?_⟩
  have isBlank := blank byte member
  simp only [Json.isBlank, Bool.or_eq_true, beq_iff_eq] at isBlank
  rcases isBlank with ((rfl | rfl) | rfl) | rfl <;> decide

theorem IsGap.passesText {first : Bool} {gap : List UInt8} (isGap : IsGap first gap) (s : List UInt8) :
    PassesText (gap ++ s) s := by
  cases first with
  | true =>
      have blank : Blank gap := isGap
      exact blank.passesText s
  | false =>
      rcases isGap with ⟨before, behind, blankBefore, blankBehind, rfl⟩
      rw [List.append_assoc, List.cons_append]
      exact (blankBefore.passesText _).trans ((blankBehind.passesText s).cons (by decide))

theorem passesText_of_scalarScan {byte : UInt8} {value : Json} (read : scalarScan byte s = .ok (value, rest)) :
    PassesText (byte :: s) rest := by
  rcases scalarScan_cases read with ⟨letters, listed, taken⟩ | ⟨rfl, text, _, inside⟩ |
    ⟨rfl, n, _, inside⟩ | ⟨digit, n, _, inside⟩
  · have plain : (literals.all fun listed => (listed.1 :: listed.2.1).all (·.toNat < 0x80)) = true := by decide
    have ascii : ∀ letter ∈ byte :: letters, letter.toNat < 0x80 := by
      simpa using List.all_eq_true.mp plain _ listed
    exact ⟨byte :: letters, congrArg _ (word_eq_ok taken), Utf8.reads_of_ascii ascii⟩
  · exact PassesText.cons (by decide) (reads_of_stringScan inside)
  · exact ((passesAscii_of_skipNumber (skipNumber_of_read inside)).cons (by decide)).text
  · exact (passesAscii_of_skipNumber (skipNumber_of_read inside)).text

def ReadsText (limit : Nat) : Prop :=
  ∀ s value rest, (valueReader limit).read s = .ok (value, rest) → PassesText s rest

variable {limit : Nat} {first : Bool}

theorem ReadsText.lists (reads : ReadsText limit) {values : List Json}
    (lists : Lists (valueReader limit) first s values rest) : PassesText s rest := by
  induction lists with
  | done blank rest =>
      exact (blank.passesText _).trans ((passesAscii_refl rest).cons (by decide)).text
  | item isGap _ _ read _ induction =>
      exact (isGap.passesText _).trans ((reads _ _ _ read).trans induction)

theorem ReadsText.names (reads : ReadsText limit) {entries : List (String × Json)}
    (names : Names (valueReader limit) first s entries rest) : PassesText s rest := by
  induction names with
  | done blank rest =>
      exact (blank.passesText _).trans ((passesAscii_refl rest).cons (by decide)).text
  | member isGap nameRead blank read _ induction =>
      apply (isGap.passesText _).trans
      apply PassesText.cons (by decide)
      apply PassesText.trans (reads_of_stringScan nameRead)
      apply (blank.passesText _).trans
      exact ((reads _ _ _ read).trans induction).cons (by decide)

theorem readsText (limit : Nat) : ReadsText limit := by
  induction limit with
  | zero =>
      intro s value rest read
      rcases read_cases read with ⟨blanks, blank, ⟨byte, tail, _, rfl, scalar⟩ | ⟨_, none, _⟩⟩
      · exact (blank.passesText _).trans (passesText_of_scalarScan scalar)
      · cases none
  | succ below induction =>
      intro s value rest read
      rcases read_cases read with ⟨blanks, blank, ⟨byte, tail, _, rfl, scalar⟩ | ⟨_, same, inner⟩⟩
      · exact (blank.passesText _).trans (passesText_of_scalarScan scalar)
      · cases same
        rcases inner with ⟨values, tail, rfl, lists, _⟩ | ⟨entries, tail, rfl, names, _⟩
        · exact (blank.passesText _).trans ((induction.lists lists).cons (by decide))
        · exact (blank.passesText _).trans ((induction.names names).cons (by decide))

theorem ofBytes_of_decode?_eq_none {text : List UInt8} (broken : Utf8.decode? text = none) :
    ∃ reason, ofBytes text = .error reason := by
  cases read : ofBytes text with
  | error reason => exact ⟨reason, rfl⟩
  | ok value =>
      rw [ofBytes, documentOf] at read
      split at read
      · cases read
      · next found rest valueRead =>
        split at read
        · next ended =>
          have behind := (blank_of_skipBlank_eq_nil ended).passesText []
          rw [List.append_nil] at behind
          rcases (readsText depthLimit _ _ _ valueRead).trans behind with ⟨front, whole, reads⟩
          rw [List.append_nil] at whole
          rw [whole] at broken
          exact absurd reads (Utf8.decode?_eq_none_iff.mp broken)
        · cases read

end

end NodeConsole.Json
