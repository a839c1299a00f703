import NodeConsole.Proofs.Json.Numbers
import NodeConsole.Proofs.Json.Strings
/-!
Scalars with something behind them: words, strings and numbers are read from the same bytes, and as the
same values, in front of anything that does not continue a number.
-/

namespace NodeConsole.Json

/-! ## Words -/

structure TakesTo (first last : Zone) {α : Type} (scan : List UInt8 → Scan α) (front : List UInt8)
    (value : α) : Prop where
  leads : Leads first last 0 front
  reads : ∀ behind, scan (front ++ behind) = .ok (value, behind)

theorem word_eq_ok {letters s rest : List UInt8} (read : word letters s = .ok rest) :
    s = letters ++ rest := by
  fun_induction word letters s with
  | case1 s =>
      cases read
      rfl
  | case2 => cases read
  | case3 letters byte tail induction => rw [induction read, List.cons_append]
  | case4 => cases read

theorem word_append (letters behind : List UInt8) : word letters (letters ++ behind) = .ok behind := by
  induction letters with
  | nil => rfl
  | cons letter letters induction => rw [List.cons_append, word, if_pos rfl, induction]

/-! ## Strings -/

theorem leads_inString {piece : List UInt8} (inside : ∀ byte ∈ piece, byte ≠ 0x22 ∧ byte ≠ 0x5C) :
    Leads .inString .inString 0 piece := by
  induction piece with
  | nil => exact leads_nil _
  | cons byte rest induction =>
      have here := inside byte (by simp)
      have stays (level deepest : Nat) :
          Nesting.step ⟨.inString, level, deepest⟩ byte = ⟨.inString, level, deepest⟩ := by
        simp [Nesting.step, here]
      exact .cons stays (induction fun other member => inside other (List.mem_cons_of_mem _ member))

theorem leads_backslash {last : Zone} {depth : Nat} {rest : List UInt8}
    (leads : Leads .afterBackslash last depth rest) : Leads .inString last depth (0x5C :: rest) :=
  .cons (fun _ _ => rfl) leads

theorem leads_escaped {last : Zone} {depth : Nat} {rest : List UInt8} (byte : UInt8)
    (leads : Leads .inString last depth rest) : Leads .afterBackslash last depth (byte :: rest) :=
  .cons (fun _ _ => rfl) leads

theorem ne_of_hexValue? {byte : UInt8} {n : Nat} (value : hexValue? byte = some n) :
    byte ≠ 0x22 ∧ byte ≠ 0x5C := by
  constructor
  · rintro rfl
    cases value
  · rintro rfl
    cases value

theorem hexScan_eq_ok {s rest : List UInt8} {n : Nat} (read : hexScan s = .ok (n, rest)) :
    ∃ front, s = front ++ rest ∧ TakesTo .inString .inString hexScan front n := by
  rw [hexScan.eq_def] at read
  split at read
  · next a b c d after =>
    split at read
    · next _ _ _ _ isA isB isC isD =>
      cases read
      refine ⟨[a, b, c, d], rfl, leads_inString ?_, fun behind => ?_⟩
      · intro byte member
        simp only [List.mem_cons, List.not_mem_nil, or_false] at member
        rcases member with rfl | rfl | rfl | rfl
        · exact ne_of_hexValue? isA
        · exact ne_of_hexValue? isB
        · exact ne_of_hexValue? isC
        · exact ne_of_hexValue? isD
      · simp only [hexScan, List.cons_append, List.nil_append, isA, isB, isC, isD]
    · cases read
  · cases read

theorem trailingUnitScan_eq_ok {leading : Nat} {s rest bytes : List UInt8}
    (read : trailingUnitScan leading s = .ok (bytes, rest)) :
    ∃ front, s = front ++ rest ∧ TakesTo .inString .inString (trailingUnitScan leading) front bytes := by
  rw [trailingUnitScan.eq_def] at read
  split at read
  · cases read
  · cases read
  · split at read
    · cases read
    · next unit after hex =>
      rcases hexScan_eq_ok hex with ⟨front, rfl, takes⟩
      split at read
      · next trails =>
        -- Taking the equality apart by cases would compute the character.
        rw [Except.ok.injEq, Prod.mk.injEq] at read
        rcases read with ⟨rfl, rfl⟩
        refine ⟨0x5C :: 0x75 :: front, rfl, leads_backslash (leads_escaped _ takes.leads), ?_⟩
        intro behind
        simp only [List.cons_append, trailingUnitScan, takes.reads behind, if_pos trails]
      · cases read
  · cases read
  · cases read

theorem unitScan_eq_ok {s rest bytes : List UInt8} (read : unitScan s = .ok (bytes, rest)) :
    ∃ front, s = front ++ rest ∧ TakesTo .inString .inString unitScan front bytes := by
  rw [unitScan] at read
  split at read
  · cases read
  · next unit after hex =>
    rcases hexScan_eq_ok hex with ⟨front, rfl, takes⟩
    split at read
    · cases read
    · next noTrail =>
      split at read
      · next leads =>
        rcases trailingUnitScan_eq_ok read with ⟨more, rfl, takesMore⟩
        refine ⟨front ++ more, (List.append_assoc ..).symm, takes.leads.append takesMore.leads, ?_⟩
        intro behind
        rw [List.append_assoc, unitScan, takes.reads]
        dsimp only
        rw [if_neg noTrail, if_pos leads, takesMore.reads]
      · next single =>
        cases read
        refine ⟨front, rfl, takes.leads, fun behind => ?_⟩
        rw [unitScan, takes.reads]
        dsimp only
        rw [if_neg noTrail, if_neg single]

theorem escapeScan_eq_ok {s rest bytes : List UInt8} (read : escapeScan s = .ok (bytes, rest)) :
    ∃ front, s = front ++ rest ∧ TakesTo .afterBackslash .inString escapeScan front bytes := by
  cases s with
  | nil => cases read
  | cons byte tail =>
      rw [escapeScan] at read
      split at read
      · next isUnit =>
        rcases unitScan_eq_ok read with ⟨front, rfl, takes⟩
        refine ⟨byte :: front, rfl, leads_escaped byte takes.leads, fun behind => ?_⟩
        rw [List.cons_append, escapeScan, if_pos isUnit, takes.reads]
      · next noUnit =>
        split at read
        · next meant short =>
          cases read
          refine ⟨[byte], rfl, leads_escaped byte (leads_nil _), fun behind => ?_⟩
          rw [List.singleton_append, escapeScan, if_neg noUnit, short]
        · cases read

theorem stringBytesScan_eq_ok {done s rest bytes : List UInt8}
    (read : stringBytesScan done s = .ok (bytes, rest)) :
    ∃ front, s = front ++ rest ∧ TakesTo .inString .outside (stringBytesScan done) front bytes := by
  -- By the recursion of the scan: an escape is taken as a whole, every other byte by itself.
  fun_induction stringBytesScan done s with
  | case1 => cases read
  | case2 done rest =>
      cases read
      refine ⟨[0x22], rfl, .cons (fun _ _ => rfl) (leads_nil _), fun behind => ?_⟩
      exact stringBytesScan_close done behind
  | case3 => cases read
  | case4 done tail meant after escape induction =>
      rcases escapeScan_eq_ok escape with ⟨front, rfl, takes⟩
      rcases induction read with ⟨more, rfl, takesMore⟩
      refine ⟨0x5C :: front ++ more, by simp, leads_backslash (takes.leads.append takesMore.leads), ?_⟩
      intro behind
      rw [List.append_assoc, List.cons_append, stringBytesScan_escape (takes.reads _), takesMore.reads]
  | case5 => cases read
  | case6 done byte tail noQuote noSlash visible induction =>
      rcases induction read with ⟨front, rfl, takes⟩
      have plain : IsPlain byte := by
        refine ⟨noQuote, noSlash, ?_⟩
        rw [UInt8.lt_iff_toNat_lt] at visible
        exact Nat.le_of_not_lt visible
      refine ⟨byte :: front, rfl, ?_, fun behind => ?_⟩
      · have one : Leads .inString .inString 0 [byte] :=
          leads_inString (by simpa using ⟨noQuote, noSlash⟩)
        exact one.append takes.leads
      · rw [List.cons_append, stringBytesScan_plain plain, takes.reads]

theorem stringScan_eq_ok {s rest : List UInt8} {text : String} (read : stringScan s = .ok (text, rest)) :
    ∃ front, s = front ++ rest ∧ TakesTo .inString .outside stringScan front text := by
  rw [stringScan] at read
  split at read
  · cases read
  · next bytes after inside =>
    rcases stringBytesScan_eq_ok inside with ⟨front, rfl, takes⟩
    split at read
    · next chars decoded =>
      cases read
      refine ⟨front, rfl, takes.leads, fun behind => ?_⟩
      rw [stringScan, takes.reads]
      dsimp only
      rw [decoded]
    · cases read

/-! ## Scalars -/

def literals : List (UInt8 × List UInt8 × Json) :=
  [(0x6E, [0x75, 0x6C, 0x6C], .null), (0x74, [0x72, 0x75, 0x65], .bool true),
    (0x66, [0x61, 0x6C, 0x73, 0x65], .bool false)]

theorem scalarScan_literal {byte : UInt8} {letters : List UInt8} {literal : Json}
    (listed : (byte, letters, literal) ∈ literals) (s : List UInt8) :
    scalarScan byte s = (word letters s).map fun rest => (literal, rest) := by
  simp only [literals, List.mem_cons, List.not_mem_nil, or_false, Prod.mk.injEq] at listed
  rcases listed with ⟨rfl, rfl, rfl⟩ | ⟨rfl, rfl, rfl⟩ | ⟨rfl, rfl, rfl⟩
  · rw [scalarScan]
    cases word [0x75, 0x6C, 0x6C] s <;> rfl
  · rw [scalarScan]
    cases word [0x72, 0x75, 0x65] s <;> rfl
  · rw [scalarScan]
    cases word [0x61, 0x6C, 0x73, 0x65] s <;> rfl

theorem scalarScan_string (s : List UInt8) :
    scalarScan 0x22 s = (stringScan s).map fun read => (.string read.1, read.2) := by
  rw [scalarScan]
  cases stringScan s <;> rfl

theorem scalarScan_minus (s : List UInt8) :
    scalarScan 0x2D s = (numberScan true s).map fun read => (.number read.1, read.2) := by
  rw [scalarScan]
  cases numberScan true s <;> rfl

theorem scalarScan_digit {byte : UInt8} (digit : isDigit byte = true) (s : List UInt8) :
    scalarScan byte s = (numberScan false (byte :: s)).map fun read => (.number read.1, read.2) := by
  have other {mark : UInt8} (noDigit : isDigit mark = false) : byte ≠ mark := ne_of_isDigit digit noDigit
  rw [scalarScan, if_neg (other rfl), if_neg (other rfl), if_neg (other rfl), if_neg (other rfl),
    if_neg (other rfl), if_pos digit]
  cases numberScan false (byte :: s) <;> rfl

theorem of_scalarScan_eq_ok {byte : UInt8} {s : List UInt8} {result : Json × List UInt8}
    (read : scalarScan byte s = .ok result) :
    (∃ letters literal, (byte, letters, literal) ∈ literals) ∨ byte = 0x22 ∨ byte = 0x2D ∨
      isDigit byte = true := by
  by_cases listed : byte = 0x6E ∨ byte = 0x74 ∨ byte = 0x66
  · left
    rcases listed with rfl | rfl | rfl
    · exact ⟨_, _, .head _⟩
    · exact ⟨_, _, .tail _ (.head _)⟩
    · exact ⟨_, _, .tail _ (.tail _ (.head _))⟩
  · right
    simp only [not_or] at listed
    rw [scalarScan, if_neg listed.1, if_neg listed.2.1, if_neg listed.2.2] at read
    by_contra none
    simp only [not_or] at none
    rw [if_neg none.1, if_neg none.2.1, if_neg none.2.2] at read
    cases read

theorem of_map_scan {α β : Type} {scan : Scan α} {make : α → β} {value : β} {rest : List UInt8}
    (read : scan.map (fun read => (make read.1, read.2)) = .ok (value, rest)) :
    ∃ inner, scan = .ok (inner, rest) ∧ value = make inner := by
  cases scan with
  | error fault => cases read
  | ok result =>
      cases read
      exact ⟨result.1, rfl, rfl⟩

/-- What a scalar is: a word, a string, or a number with or without a sign. -/
theorem scalarScan_cases {byte : UInt8} {s rest : List UInt8} {value : Json}
    (read : scalarScan byte s = .ok (value, rest)) :
    (∃ letters, (byte, letters, value) ∈ literals ∧ word letters s = .ok rest) ∨
      (byte = 0x22 ∧ ∃ text, value = .string text ∧ stringScan s = .ok (text, rest)) ∨
      (byte = 0x2D ∧ ∃ n, value = .number n ∧ numberScan true s = .ok (n, rest)) ∨
      (isDigit byte = true ∧ ∃ n, value = .number n ∧ numberScan false (byte :: s) = .ok (n, rest)) := by
  rcases of_scalarScan_eq_ok read with ⟨letters, literal, listed⟩ | rfl | rfl | digit
  · left
    rw [scalarScan_literal listed] at read
    cases taken : word letters s with
    | error fault =>
        rw [taken] at read
        cases read
    | ok after =>
        rw [taken] at read
        cases read
        exact ⟨letters, listed, taken⟩
  · rw [scalarScan_string] at read
    rcases of_map_scan read with ⟨text, inside, same⟩
    exact .inr (.inl ⟨rfl, text, same, inside⟩)
  · rw [scalarScan_minus] at read
    rcases of_map_scan read with ⟨n, inside, same⟩
    exact .inr (.inr (.inl ⟨rfl, n, same, inside⟩))
  · rw [scalarScan_digit digit] at read
    rcases of_map_scan read with ⟨n, inside, same⟩
    exact .inr (.inr (.inr ⟨digit, n, same, inside⟩))

theorem scalarScan_ne_object {byte : UInt8} {s rest : List UInt8} {members : List (String × Json)} :
    scalarScan byte s ≠ .ok (.object members, rest) := by
  intro read
  rcases scalarScan_cases read with ⟨_, listed, _⟩ | ⟨_, _, same, _⟩ | ⟨_, _, same, _⟩ | ⟨_, _, same, _⟩
  · simp [literals] at listed
  · cases same
  · cases same
  · cases same

theorem scalarScan_eq_ok {byte : UInt8} {s rest : List UInt8} {value : Json}
    (read : scalarScan byte s = .ok (value, rest)) :
    ∃ front, s = front ++ rest ∧ Leads .outside .outside 0 (byte :: front) ∧
      ∀ behind, EndsNumber behind → scalarScan byte (front ++ behind) = .ok (value, behind) := by
  rcases scalarScan_cases read with ⟨letters, listed, taken⟩ | ⟨rfl, text, rfl, inside⟩ |
    ⟨rfl, n, rfl, inside⟩ | ⟨digit, n, rfl, inside⟩
  · have plain : (literals.all fun listed => (listed.1 :: listed.2.1).all (!isMark ·)) = true := by decide
    have noMark : ∀ letter ∈ byte :: letters, isMark letter = false := by
      simpa using List.all_eq_true.mp plain _ listed
    refine ⟨letters, word_eq_ok taken, leads_of_not_isMark noMark, fun behind _ => ?_⟩
    rw [scalarScan_literal listed, word_append]
    rfl
  · rcases stringScan_eq_ok inside with ⟨front, rfl, takes⟩
    refine ⟨front, rfl, .cons (fun _ _ => rfl) takes.leads, fun behind _ => ?_⟩
    rw [scalarScan_string, takes.reads]
    rfl
  · rcases numberScan_eq_ok inside with ⟨front, rfl, takes⟩
    refine ⟨front, rfl, .cons_of_not_isMark rfl takes.leads, fun behind ends => ?_⟩
    rw [scalarScan_minus, takes.reads behind ends]
    rfl
  · rcases numberScan_eq_ok inside with ⟨front, whole, takes⟩
    cases front with
    | nil =>
        have shorter := length_numberScan_lt inside
        rw [whole, List.nil_append] at shorter
        exact absurd shorter (Nat.lt_irrefl _)
    | cons first front =>
        rw [List.cons_append] at whole
        rcases List.cons.inj whole with ⟨rfl, rfl⟩
        refine ⟨front, rfl, takes.leads, fun behind ends => ?_⟩
        have again := takes.reads behind ends
        rw [List.cons_append] at again
        rw [scalarScan_digit digit, again]
        rfl

end NodeConsole.Json
