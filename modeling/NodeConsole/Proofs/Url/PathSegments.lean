import NodeConsole.Url.Edit
/-!
Paths that were put into a URL. Cut at its slashes, such a path gives back its segments, and no
segment of it is a dot segment in any spelling.
-/

namespace NodeConsole.Url

/-! ## Spellings of dots -/

def dotSpellings : List (List Char) :=
  [".".toList, "%2e".toList, "%2E".toList]

/-- Whether a segment is one dot or two, each in any spelling. -/
def IsDotSegment (segment : List Char) : Prop :=
  segment ∈ dotSpellings ∨
    ∃ first ∈ dotSpellings, ∃ second ∈ dotSpellings, segment = first ++ second

theorem dotCount?_eq_zero_iff {segment : List Char} : dotCount? segment = some 0 ↔ segment = [] := by
  fun_cases dotCount? segment <;> simp_all

theorem dotCount?_eq_succ_iff {segment : List Char} {count : Nat} :
    dotCount? segment = some (count + 1) ↔
      ∃ dot ∈ dotSpellings, ∃ rest, segment = dot ++ rest ∧ dotCount? rest = some count := by
  constructor
  · intro counted
    fun_cases dotCount? segment with
    | case1 => simp [dotCount?] at counted
    | case2 rest =>
        refine ⟨".".toList, by simp [dotSpellings], rest, rfl, ?_⟩
        simpa [dotCount?] using counted
    | case3 rest =>
        refine ⟨"%2e".toList, by simp [dotSpellings], rest, rfl, ?_⟩
        simpa [dotCount?] using counted
    | case4 rest =>
        refine ⟨"%2E".toList, by simp [dotSpellings], rest, rfl, ?_⟩
        simpa [dotCount?] using counted
    | case5 => simp_all [dotCount?]
  · rintro ⟨dot, spelling, rest, rfl, counted⟩
    simp only [dotSpellings, List.mem_cons, List.not_mem_nil, or_false] at spelling
    rcases spelling with rfl | rfl | rfl <;> simp [dotCount?, counted]

/-- The dot count recognises exactly the spellings of a single dot. -/
theorem isSingleDot_iff {segment : List Char} :
    isSingleDot segment = true ↔ segment ∈ dotSpellings := by
  rw [isSingleDot, beq_iff_eq, dotCount?_eq_succ_iff]
  constructor
  · rintro ⟨dot, spelling, rest, rfl, counted⟩
    rw [dotCount?_eq_zero_iff.mp counted, List.append_nil]
    exact spelling
  · intro spelling
    exact ⟨segment, spelling, [], (List.append_nil segment).symm, rfl⟩

theorem isDoubleDot_iff {segment : List Char} :
    isDoubleDot segment = true ↔
      ∃ first ∈ dotSpellings, ∃ second ∈ dotSpellings, segment = first ++ second := by
  rw [isDoubleDot, beq_iff_eq, dotCount?_eq_succ_iff]
  constructor
  · rintro ⟨first, spelling, rest, rfl, counted⟩
    exact ⟨first, spelling, rest, isSingleDot_iff.mp (by simp [isSingleDot, counted]), rfl⟩
  · rintro ⟨first, firstSpelling, second, secondSpelling, rfl⟩
    have counted : isSingleDot second = true := isSingleDot_iff.mpr secondSpelling
    exact ⟨first, firstSpelling, second, rfl, by simpa [isSingleDot] using counted⟩

theorem isDotSegment_iff {segment : List Char} :
    IsDotSegment segment ↔ isSingleDot segment = true ∨ isDoubleDot segment = true := by
  rw [IsDotSegment, isSingleDot_iff, isDoubleDot_iff]

/-! ## Working out dot segments -/

theorem mem_of_mem_leave {keepsDrive : Bool} {done : List (List Char)} {segment : List Char}
    (member : segment ∈ leave keepsDrive done) : segment ∈ done := by
  fun_cases leave keepsDrive done with
  | case1 => simp [leave] at member
  | case2 root => simp_all [leave]
  | case3 root => simp_all [leave]
  | case4 last above => exact List.mem_cons_of_mem _ (by simpa [leave] using member)

/-- A resolved segment was done already, or is an empty one that marks a final slash, or is one of
the others and no dot segment. -/
theorem mem_resolveFrom {keepsDrive : Bool} {segments done : List (List Char)} {segment : List Char}
    (member : segment ∈ resolveFrom keepsDrive done segments) :
    segment ∈ done ∨ segment = [] ∨ (segment ∈ segments ∧ ¬IsDotSegment segment) := by
  fun_induction resolveFrom keepsDrive done segments with
  | case1 done => exact .inl (by simpa using member)
  | case2 done last double =>
      rcases List.mem_cons.mp (List.mem_reverse.mp member) with empty | left
      · exact .inr (.inl empty)
      · exact .inl (mem_of_mem_leave left)
  | case3 done last notDouble single =>
      rcases List.mem_cons.mp (List.mem_reverse.mp member) with empty | earlier
      · exact .inr (.inl empty)
      · exact .inl earlier
  | case4 done last notDouble notSingle =>
      rcases List.mem_cons.mp (List.mem_reverse.mp member) with same | earlier
      · subst same
        refine .inr (.inr ⟨by simp, ?_⟩)
        simp [isDotSegment_iff, notDouble, notSingle]
      · exact .inl earlier
  | case5 done first next rest double induction =>
      rcases induction member with earlier | empty | ⟨later, plain⟩
      · exact .inl (mem_of_mem_leave earlier)
      · exact .inr (.inl empty)
      · exact .inr (.inr ⟨List.mem_cons_of_mem _ later, plain⟩)
  | case6 done first next rest notDouble single induction =>
      rcases induction member with earlier | empty | ⟨later, plain⟩
      · exact .inl earlier
      · exact .inr (.inl empty)
      · exact .inr (.inr ⟨List.mem_cons_of_mem _ later, plain⟩)
  | case7 done first next rest notDouble notSingle induction =>
      rcases induction member with earlier | empty | ⟨later, plain⟩
      · rcases List.mem_cons.mp earlier with same | earlier
        · subst same
          refine .inr (.inr ⟨by simp, ?_⟩)
          simp [isDotSegment_iff, notDouble, notSingle]
        · exact .inl earlier
      · exact .inr (.inl empty)
      · exact .inr (.inr ⟨List.mem_cons_of_mem _ later, plain⟩)

theorem not_isDotSegment_nil : ¬IsDotSegment [] := by
  simp [isDotSegment_iff, isSingleDot, isDoubleDot, dotCount?]

theorem head?_of_isDotSegment {segment : List Char} (dots : IsDotSegment segment) :
    segment.head? = some '.' ∨ segment.head? = some '%' := by
  have spelled : ∀ spelling ∈ dotSpellings, spelling.head? = some '.' ∨ spelling.head? = some '%' := by
    decide
  rcases dots with single | ⟨first, isFirst, second, _, rfl⟩
  · exact spelled segment single
  · rw [List.head?_append]
    rcases spelled first isFirst with dot | percent
    · rw [dot]
      exact .inl rfl
    · rw [percent]
      exact .inr rfl

theorem not_isDotSegment_of_mem_resolve {segments : List (List Char)} {segment : List Char}
    (member : segment ∈ resolve segments) : ¬IsDotSegment segment := by
  rcases mem_resolveFrom member with none | rfl | ⟨_, plain⟩
  · cases none
  · exact not_isDotSegment_nil
  · exact plain

/-! ## Encoded characters -/

def percentMarks : List Char :=
  "%0123456789ABCDEF".toList

theorem mem_percentMarks_of_mem_percentByte {byte : UInt8} {c : Char}
    (member : c ∈ percentByte byte) : c ∈ percentMarks := by
  have digit : ∀ n < 16, percentDigit n ∈ percentMarks := by decide
  have bound := byte.toNat_lt
  rw [percentByte, List.mem_cons, List.mem_cons, List.mem_singleton] at member
  rcases member with rfl | rfl | rfl
  · decide
  · exact digit _ (by omega)
  · exact digit _ (by omega)

theorem mem_percentEncode {escaped : Char → Bool} {text : List Char} {c : Char}
    (member : c ∈ percentEncode escaped text) :
    (c ∈ text ∧ escaped c = false) ∨ c ∈ percentMarks := by
  rcases List.mem_flatMap.mp member with ⟨original, inText, written⟩
  rw [percentChar] at written
  split at written
  · rcases List.mem_flatMap.mp written with ⟨byte, _, inByte⟩
    exact .inr (mem_percentMarks_of_mem_percentByte inByte)
  · next plain =>
    rw [List.mem_singleton] at written
    subst written
    exact .inl ⟨inText, Bool.eq_false_iff.mpr plain⟩

/-! ## Slashes -/

theorem piecesAt_eq_splitOnP (separates : Char → Bool) (text : List Char) :
    piecesAt separates text = text.splitOnP separates := by
  induction text with
  | nil => rw [piecesAt, List.splitOnP_nil]
  | cons head rest induction =>
      rcases List.exists_cons_of_ne_nil (List.splitOnP_ne_nil separates rest) with
        ⟨first, others, cut⟩
      rw [piecesAt, induction, List.splitOnP_cons_eq_if_modifyHead, cut]
      rfl

theorem piecesAt_append_cons {separates : Char → Bool} (front rest : List Char) {c : Char}
    (divides : separates c = true) :
    piecesAt separates (front ++ c :: rest) = piecesAt separates front ++ piecesAt separates rest := by
  rw [piecesAt_eq_splitOnP, piecesAt_eq_splitOnP, piecesAt_eq_splitOnP,
    List.splitOnP_append_cons _ _ divides]

theorem separates_eq_false_of_mem_piecesAt {separates : Char → Bool} {text piece : List Char}
    {c : Char} (member : piece ∈ piecesAt separates text) (inside : c ∈ piece) :
    separates c = false := by
  rw [piecesAt_eq_splitOnP] at member
  induction text generalizing piece with
  | nil =>
      rw [List.splitOnP_nil, List.mem_singleton] at member
      cases member ▸ inside
  | cons head rest induction =>
      rcases List.exists_cons_of_ne_nil (List.splitOnP_ne_nil separates rest) with
        ⟨first, others, cut⟩
      rw [List.splitOnP_cons_eq_if_modifyHead, cut] at member
      rw [cut] at induction
      split at member
      · rcases List.mem_cons.mp member with rfl | later
        · cases inside
        · exact induction later inside
      · next continues =>
        rcases List.mem_cons.mp member with rfl | later
        · rcases List.mem_cons.mp inside with rfl | deeper
          · exact Bool.eq_false_iff.mpr continues
          · exact induction (List.mem_cons_self ..) deeper
        · exact induction (List.mem_cons_of_mem _ later) inside

theorem slash_notMem_percentEncode {escaped : Char → Bool} {text : List Char}
    (noSlash : '/' ∉ text) : '/' ∉ percentEncode escaped text := by
  intro member
  rcases mem_percentEncode member with ⟨inText, _⟩ | written
  · exact noSlash inText
  · exact absurd written (by decide)

/-- Segments that hold no slash are what lies between the slashes of a path, behind whatever stands
before its first slash. -/
theorem splitOn_append_joinSegments {front : List Char} {segments : List (List Char)}
    (frontNoSlash : '/' ∉ front) (noSlash : ∀ segment ∈ segments, '/' ∉ segment) :
    (front ++ joinSegments segments).splitOn '/' = front :: segments := by
  induction segments generalizing front with
  | nil =>
      rw [joinSegments, List.flatMap_nil, List.append_nil]
      exact List.splitOn_eq_singleton frontNoSlash
  | cons segment rest induction =>
      have path : joinSegments (segment :: rest) = '/' :: (segment ++ joinSegments rest) := by
        simp [joinSegments]
      rw [path, List.splitOn_append_cons_self_of_not_mem frontNoSlash]
      rw [induction (noSlash segment (by simp)) fun other member =>
        noSlash other (List.mem_cons_of_mem _ member)]

/-! ## Paths of URLs -/

theorem of_mem_readSegments {special : Bool} {text segment : List Char}
    (member : segment ∈ readSegments special text) : '/' ∉ segment ∧ ¬IsDotSegment segment := by
  refine ⟨?_, not_isDotSegment_of_mem_resolve member⟩
  rcases mem_resolveFrom member with none | rfl | ⟨encoded, _⟩
  · cases none
  · exact List.not_mem_nil
  · rcases List.mem_map.mp encoded with ⟨piece, cut, rfl⟩
    apply slash_notMem_percentEncode
    intro inside
    have divides := separates_eq_false_of_mem_piecesAt cut inside
    simp [isSlash] at divides

theorem splitOn_joinSegments_readSegments (special : Bool) (text : List Char) :
    (joinSegments (readSegments special text)).splitOn '/' = [] :: readSegments special text :=
  splitOn_append_joinSegments List.not_mem_nil fun _ read => (of_mem_readSegments read).1

theorem escapedInPath_of_mem_readSegments {special : Bool} {text segment : List Char} {c : Char}
    (member : segment ∈ readSegments special text) (inside : c ∈ segment) :
    escapedInPath c = false := by
  rcases mem_resolveFrom member with none | rfl | ⟨encoded, _⟩
  · cases none
  · cases inside
  · rcases List.mem_map.mp encoded with ⟨piece, _, rfl⟩
    rcases mem_percentEncode inside with ⟨_, plain⟩ | written
    · exact plain
    · have plain : percentMarks.all (!escapedInPath ·) = true := by decide +kernel
      simpa using List.all_eq_true.mp plain c written

theorem escapedInPath_of_mem_joinSegments {special : Bool} {text : List Char} {c : Char}
    (member : c ∈ joinSegments (readSegments special text)) : escapedInPath c = false := by
  rcases List.mem_flatMap.mp member with ⟨segment, read, inside⟩
  rcases List.mem_cons.mp inside with rfl | deeper
  · decide
  · exact escapedInPath_of_mem_readSegments read deeper

/-- Every character of a path that was put into a URL may stand in a path. -/
theorem escapedInPath_of_mem_withPath {url : Url} {path : List Char} {c : Char}
    (member : c ∈ (url.withPath path).path.chars) : escapedInPath c = false :=
  escapedInPath_of_mem_joinSegments member

/-- A path that was put into a URL holds no dot segment between its slashes. -/
theorem not_isDotSegment_of_mem_withPath {url : Url} {path segment : List Char}
    (member : segment ∈ (url.withPath path).path.chars.splitOn '/') : ¬IsDotSegment segment := by
  rw [withPath, Path.chars, splitOn_joinSegments_readSegments] at member
  rcases List.mem_cons.mp member with rfl | read
  · exact not_isDotSegment_nil
  · exact (of_mem_readSegments read).2

/-! ## Queries -/

theorem escapedInSpecialQuery_of_mem {scheme asked : List Char} {c : Char}
    (special : isSpecial scheme = true) (member : c ∈ encodeQuery scheme asked) :
    escapedInSpecialQuery c = false := by
  rw [encodeQuery, if_pos special] at member
  rcases mem_percentEncode member with ⟨_, plain⟩ | written
  · exact plain
  · have plain : percentMarks.all (!escapedInSpecialQuery ·) = true := by decide +kernel
    simpa using List.all_eq_true.mp plain c written

end NodeConsole.Url
