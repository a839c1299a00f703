import NodeConsole.Proofs.Url.Below
import NodeConsole.Proofs.Url.PathSegments
import NodeConsole.Proofs.Url.PercentCoding
/-!
Paths without dot segments. Putting such a path into a URL only encodes its characters: no segment is
resolved, none becomes a dot segment by being encoded, and the slashes stay where they are.
-/

namespace NodeConsole.Url

instance (segment : List Char) : Decidable (IsDotSegment segment) :=
  decidable_of_iff _ isDotSegment_iff.symm

/-! ## Encoded segments -/

theorem percentEncode_append (escaped : Char → Bool) (left right : List Char) :
    percentEncode escaped (left ++ right) = percentEncode escaped left ++ percentEncode escaped right :=
  List.flatMap_append

theorem percentEncode_cons_of_plain {escaped : Char → Bool} {c : Char} (plain : escaped c = false)
    (rest : List Char) : percentEncode escaped (c :: rest) = c :: percentEncode escaped rest := by
  rw [percentEncode, List.flatMap_cons, percentChar, plain]
  rfl

theorem percentEncode_eq_self {escaped : Char → Bool} {text : List Char}
    (plain : ∀ c ∈ text, escaped c = false) : percentEncode escaped text = text := by
  induction text with
  | nil => rfl
  | cons c rest induction =>
      rw [percentEncode_cons_of_plain (plain c (by simp)),
        induction fun other member => plain other (List.mem_cons_of_mem _ member)]

theorem percentChar_of_escaped {escaped : Char → Bool} {c : Char} (isEscaped : escaped c = true)
    (noDot : c ≠ '.') :
    ∃ byte more, percentChar escaped c = percentByte byte ++ more ∧ byte.toNat ≠ 0x2E := by
  rw [percentChar, if_pos isEscaped, Utf8.encode_singleton]
  by_cases ascii : c.toNat < 0x80
  · rw [Utf8.utf8EncodeChar_of_lt ascii]
    refine ⟨_, [], rfl, ?_⟩
    rw [UInt8.toNat_ofNat']
    intro same
    apply noDot
    apply Char.toNat_inj.mp
    have dot : '.'.toNat = 0x2E := by decide
    omega
  · have wide := Nat.le_of_not_lt ascii
    cases bytes : String.utf8EncodeChar c with
    | nil =>
        have none := congrArg List.length bytes
        rw [String.length_utf8EncodeChar] at none
        exact absurd none (Nat.pos_iff_ne_zero.mp c.utf8Size_pos)
    | cons byte rest =>
        have high := Utf8.le_of_mem_utf8EncodeChar wide (bytes ▸ List.mem_cons_self (a := byte))
        exact ⟨byte, _, List.flatMap_cons, by omega⟩

theorem percentEncode_eq_cons {escaped : Char → Bool} (dot : escaped '.' = false) {text more : List Char}
    {c : Char} (encoded : percentEncode escaped text = c :: more) :
    (∃ rest, text = c :: rest ∧ more = percentEncode escaped rest) ∨
      ∃ byte tail, c :: more = percentByte byte ++ tail ∧ byte.toNat ≠ 0x2E := by
  cases text with
  | nil => cases encoded
  | cons first rest =>
      cases isEscaped : escaped first with
      | false =>
          rw [percentEncode_cons_of_plain isEscaped] at encoded
          rcases List.cons.inj encoded with ⟨rfl, same⟩
          exact .inl ⟨rest, rfl, same.symm⟩
      | true =>
          have noDot : first ≠ '.' := by
            rintro rfl
            rw [dot] at isEscaped
            cases isEscaped
          rcases percentChar_of_escaped isEscaped noDot with ⟨byte, behind, written, other⟩
          rw [percentEncode, List.flatMap_cons, written, List.append_assoc] at encoded
          exact .inr ⟨byte, _, encoded.symm, other⟩

theorem percentEncode_eq_cons_of_ne {escaped : Char → Bool} (dot : escaped '.' = false)
    {text more : List Char} {c : Char} (noMark : c ≠ '%')
    (encoded : percentEncode escaped text = c :: more) :
    ∃ rest, text = c :: rest ∧ more = percentEncode escaped rest := by
  rcases percentEncode_eq_cons dot encoded with kept | ⟨byte, tail, written, _⟩
  · exact kept
  · exact absurd (List.cons.inj written).1 noMark

theorem ne_percentByte_append {byte : UInt8} (other : byte.toNat ≠ 0x2E) {digit : Char}
    (isE : digit = 'e' ∨ digit = 'E') (more tail : List Char) :
    '%' :: '2' :: digit :: more ≠ percentByte byte ++ tail := by
  have two : ∀ n < 16, percentDigit n = '2' → n = 2 := by decide
  have small : ∀ n < 16, percentDigit n ≠ 'e' := by decide
  have large : ∀ n < 16, percentDigit n = 'E' → n = 14 := by decide
  intro written
  have bound := byte.toNat_lt
  rw [percentByte] at written
  injection written with _ written
  injection written with high written
  injection written with low _
  have isTwo := two _ (by omega) high.symm
  rcases isE with rfl | rfl
  · exact small _ (by omega) low.symm
  · have isFourteen := large _ (by omega) low.symm
    omega

theorem eq_cons_of_encoded_dot {escaped : Char → Bool} (dot : escaped '.' = false) {digit : Char}
    (isE : digit = 'e' ∨ digit = 'E') {text more : List Char}
    (encoded : percentEncode escaped text = '%' :: '2' :: digit :: more) :
    ∃ rest, text = '%' :: '2' :: digit :: rest ∧ more = percentEncode escaped rest := by
  have noMark : digit ≠ '%' := by
    rcases isE with rfl | rfl <;> decide
  rcases percentEncode_eq_cons dot encoded with ⟨first, rfl, behind⟩ | ⟨byte, tail, written, other⟩
  · rcases percentEncode_eq_cons_of_ne dot (by decide) behind.symm with ⟨second, rfl, behindTwo⟩
    rcases percentEncode_eq_cons_of_ne dot noMark behindTwo.symm with ⟨third, rfl, behindDigit⟩
    exact ⟨third, rfl, behindDigit⟩
  · exact absurd written (ne_percentByte_append other isE more tail)

/-- A dot at the start of an encoded text, in any spelling, stands at the start of the text. -/
theorem eq_append_of_dot {escaped : Char → Bool} (plain : escaped '.' = false)
    {dot text more : List Char} (spelling : dot ∈ dotSpellings)
    (encoded : percentEncode escaped text = dot ++ more) :
    ∃ rest, text = dot ++ rest ∧ more = percentEncode escaped rest := by
  have spellings : dotSpellings = [['.'], ['%', '2', 'e'], ['%', '2', 'E']] := by decide
  simp only [spellings, List.mem_cons, List.not_mem_nil, or_false] at spelling
  rcases spelling with rfl | rfl | rfl
  · exact percentEncode_eq_cons_of_ne plain (by decide) encoded
  · exact eq_cons_of_encoded_dot plain (.inl rfl) encoded
  · exact eq_cons_of_encoded_dot plain (.inr rfl) encoded

/-- No segment becomes a dot segment by being encoded. -/
theorem isDotSegment_of_percentEncode {escaped : Char → Bool} (dot : escaped '.' = false)
    {segment : List Char} (isDot : IsDotSegment (percentEncode escaped segment)) :
    IsDotSegment segment := by
  have single {text : List Char} (spelling : percentEncode escaped text ∈ dotSpellings) :
      text = percentEncode escaped text := by
    rcases eq_append_of_dot dot spelling (List.append_nil _).symm with ⟨rest, same, none⟩
    rw [percentEncode_eq_nil_iff.mp none.symm, List.append_nil] at same
    exact same
  rcases isDot with one | ⟨first, firstSpelling, second, secondSpelling, two⟩
  · exact .inl (single one ▸ one)
  · rcases eq_append_of_dot dot firstSpelling two with ⟨rest, rfl, behind⟩
    rw [behind] at secondSpelling
    exact .inr ⟨first, firstSpelling, rest, single secondSpelling ▸ secondSpelling, rfl⟩

/-! ## Segments that are not resolved -/

theorem resolveFrom_cons_of_plain {keepsDrive : Bool} {done : List (List Char)} {segment : List Char}
    (plain : ¬IsDotSegment segment) (rest : List (List Char)) :
    resolveFrom keepsDrive done (segment :: rest) = resolveFrom keepsDrive (segment :: done) rest := by
  rw [isDotSegment_iff, not_or] at plain
  cases rest <;> simp [resolveFrom, plain]

theorem resolveFrom_append_of_plain {keepsDrive : Bool} {front : List (List Char)}
    (plain : ∀ segment ∈ front, ¬IsDotSegment segment) (done rest : List (List Char)) :
    resolveFrom keepsDrive done (front ++ rest) =
      resolveFrom keepsDrive (front.reverse ++ done) rest := by
  induction front generalizing done with
  | nil => rfl
  | cons segment more induction =>
      rw [List.cons_append, resolveFrom_cons_of_plain (plain segment (by simp)),
        induction (fun other member => plain other (List.mem_cons_of_mem _ member)),
        List.reverse_cons, List.append_assoc, List.singleton_append]

theorem resolve_eq_self {segments : List (List Char)}
    (plain : ∀ segment ∈ segments, ¬IsDotSegment segment) : resolve segments = segments := by
  have done : resolveFrom false [] (segments ++ []) = _ := resolveFrom_append_of_plain plain [] []
  rw [List.append_nil, List.append_nil, resolveFrom, List.reverse_reverse] at done
  exact done

/-! ## Slashes -/

theorem joinSegments_cons (segment : List Char) (rest : List (List Char)) :
    joinSegments (segment :: rest) = '/' :: segment ++ joinSegments rest := by
  rw [joinSegments, List.flatMap_cons]
  rfl

theorem splitOn_cons_slash (rest : List Char) : ('/' :: rest).splitOn '/' = [] :: rest.splitOn '/' :=
  List.splitOn_append_cons_self_of_not_mem List.not_mem_nil rest

theorem joinSegments_splitOn (path : List Char) : joinSegments (path.splitOn '/') = '/' :: path := by
  have joined (segments : List (List Char)) (some : segments ≠ []) :
      joinSegments segments = '/' :: ['/'].intercalate segments := by
    induction segments with
    | nil => exact absurd rfl some
    | cons segment rest induction =>
        cases rest with
        | nil => simp [joinSegments]
        | cons next rest =>
            rw [joinSegments_cons, induction (by simp)]
            simp [List.intercalate]
  rw [joined _ (List.splitOn_ne_nil '/' path), List.intercalate_splitOn]

theorem splitOnP_congr {left right : Char → Bool} {text : List Char}
    (same : ∀ c ∈ text, left c = right c) : text.splitOnP left = text.splitOnP right := by
  induction text with
  | nil => rw [List.splitOnP_nil, List.splitOnP_nil]
  | cons c rest induction =>
      rw [List.splitOnP_cons_eq_if_modifyHead, List.splitOnP_cons_eq_if_modifyHead, same c (by simp),
        induction fun other member => same other (List.mem_cons_of_mem _ member)]

theorem piecesAt_isSlash {special : Bool} {text : List Char} (noBackslash : '\\' ∉ text) :
    piecesAt (isSlash special) text = text.splitOn '/' := by
  rw [piecesAt_eq_splitOnP, List.splitOn]
  apply splitOnP_congr
  intro c member
  have other : c ≠ '\\' := by
    rintro rfl
    exact noBackslash member
  simp [isSlash, other]

theorem splitOn_append_slash (front rest : List Char) :
    (front ++ '/' :: rest).splitOn '/' = front.splitOn '/' ++ rest.splitOn '/' :=
  List.splitOnP_append_cons front rest (beq_self_eq_true '/')

theorem percentEncode_joinSegments {escaped : Char → Bool} (slash : escaped '/' = false)
    (segments : List (List Char)) :
    joinSegments (segments.map (percentEncode escaped)) =
      percentEncode escaped (joinSegments segments) := by
  induction segments with
  | nil => rfl
  | cons segment rest induction =>
      rw [List.map_cons, joinSegments_cons, joinSegments_cons, List.cons_append, List.cons_append,
        percentEncode_cons_of_plain slash, percentEncode_append, induction]

theorem slash_notMem_of_mem_splitOn {path segment : List Char} (member : segment ∈ path.splitOn '/') :
    '/' ∉ segment := by
  intro inside
  rw [List.splitOn, ← piecesAt_eq_splitOnP] at member
  have divides := separates_eq_false_of_mem_piecesAt member inside
  simp at divides

theorem splitOn_percentEncode {escaped : Char → Bool} (slash : escaped '/' = false) (path : List Char) :
    (percentEncode escaped path).splitOn '/' = (path.splitOn '/').map (percentEncode escaped) := by
  have noSlash : ∀ segment ∈ path.splitOn '/', '/' ∉ percentEncode escaped segment :=
    fun segment member => slash_notMem_percentEncode (slash_notMem_of_mem_splitOn member)
  have joined := percentEncode_joinSegments slash (path.splitOn '/')
  rw [joinSegments_splitOn, percentEncode_cons_of_plain slash] at joined
  rcases List.exists_cons_of_ne_nil (List.splitOn_ne_nil '/' path) with ⟨first, rest, cut⟩
  rw [cut] at joined noSlash ⊢
  rw [List.map_cons, joinSegments_cons, List.cons_append] at joined
  rw [← (List.cons.inj joined).2, List.map_cons]
  apply splitOn_append_joinSegments
  · exact noSlash first (by simp)
  · intro segment member
    rcases List.mem_map.mp member with ⟨original, inPath, rfl⟩
    exact noSlash original (List.mem_cons_of_mem _ inPath)

/-! ## Paths of URLs -/

/-- A path without dot segments is only encoded. -/
theorem joinSegments_readSegments {path : List Char} (noBackslash : '\\' ∉ path)
    (plain : ∀ segment ∈ path.splitOn '/', ¬IsDotSegment segment) (rooted : path.head? = some '/') :
    joinSegments (readSegments true path) = percentEncode escapedInPath path := by
  cases path with
  | nil => cases rooted
  | cons c rest =>
      rw [List.head?_cons, Option.some.injEq] at rooted
      subst rooted
      rw [splitOn_cons_slash] at plain
      have noRest : '\\' ∉ rest := fun member => noBackslash (List.mem_cons_of_mem _ member)
      have slash : isSlash true '/' = true := by decide
      have kept : ∀ segment ∈ (rest.splitOn '/').map (percentEncode escapedInPath),
          ¬IsDotSegment segment := by
        intro segment member isDot
        rcases List.mem_map.mp member with ⟨original, inPath, rfl⟩
        exact plain original (List.mem_cons_of_mem _ inPath)
          (isDotSegment_of_percentEncode (by decide) isDot)
      rw [readSegments, encodeSegments, slash, if_pos rfl, piecesAt_isSlash noRest,
        resolve_eq_self kept, percentEncode_joinSegments (by decide), joinSegments_splitOn]

theorem path_withPath (url : Url) {path : List Char} (clean : ∀ c ∈ path, isIgnored c = false)
    (noBackslash : '\\' ∉ path) (plain : ∀ segment ∈ path.splitOn '/', ¬IsDotSegment segment)
    (rooted : path.head? = some '/') :
    (url.withPath path).path.chars = percentEncode escapedInPath path := by
  rw [withPath, Path.chars, withoutIgnored_eq_self clean]
  exact joinSegments_readSegments noBackslash plain rooted

/-! ## Last segments -/

theorem getLast?_resolveFrom {keepsDrive : Bool} {last : List Char} (plain : ¬IsDotSegment last)
    (done front : List (List Char)) :
    (resolveFrom keepsDrive done (front ++ [last])).getLast? = some last := by
  induction front generalizing done with
  | nil =>
      rw [List.nil_append, resolveFrom_cons_of_plain plain, resolveFrom, List.reverse_cons,
        List.getLast?_concat]
  | cons segment more induction =>
      rcases List.exists_cons_of_ne_nil (List.append_ne_nil_of_right_ne_nil more
        (List.cons_ne_nil last [])) with ⟨next, rest, behind⟩
      rw [behind] at induction
      rw [List.cons_append, behind, resolveFrom]
      split
      · exact induction _
      · split
        · exact induction _
        · exact induction _

theorem getLast?_readSegments {name : List Char} (single : ∀ c ∈ name, isSlash true c = false)
    (plain : ¬IsDotSegment name) (front : List Char) :
    (readSegments true (front ++ '/' :: name)).getLast? =
      some (percentEncode escapedInPath name) := by
  have last (pieces : List (List Char)) :
      (encodeSegments (pieces ++ [name])).getLast? = some (percentEncode escapedInPath name) := by
    rw [encodeSegments, resolve, List.map_append]
    apply getLast?_resolveFrom
    exact fun isDot => plain (isDotSegment_of_percentEncode (by decide) isDot)
  have whole : piecesAt (isSlash true) name = [name] := by
    rw [piecesAt_eq_splitOnP]
    exact List.splitOnP_eq_singleton fun c member => by simp [single c member]
  have slash : isSlash true '/' = true := by decide
  cases front with
  | nil =>
      rw [List.nil_append, readSegments, if_pos slash, whole]
      exact last []
  | cons c more =>
      rw [List.cons_append, readSegments]
      split
      · rw [piecesAt_append_cons _ _ slash, whole]
        exact last _
      · rw [← List.cons_append, piecesAt_append_cons _ _ slash, whole]
        exact last _

/-! ## Paths that were read -/

theorem path_ofChars {text : List Char} {url : Url} (read : ofChars text = .ok url)
    (web : (isSpecial url.scheme && !isFileScheme url.scheme) = true) :
    ∃ path, url.path = .segments (readSegments true path) := by
  rcases exists_ofChars_iff.mp ⟨url, read⟩ with ⟨scheme, rest, split, _⟩
  rw [ofChars_scheme split read, Bool.and_eq_true, Bool.not_eq_true'] at web
  rw [ofChars, split] at read
  dsimp only at read
  rw [if_neg (by simp [web.2]), if_pos web.1] at read
  rcases of_map_eq_ok read with ⟨authority, _, rfl⟩
  refine ⟨(splitPath authority.rest).1, ?_⟩
  rw [readAfterAuthority, withTail_path]
  simp [web.1]

theorem backslash_notMem_readSegments {text segment : List Char}
    (member : segment ∈ readSegments true text) : '\\' ∉ segment := by
  intro inside
  rcases mem_resolveFrom member with none | rfl | ⟨encoded, _⟩
  · cases none
  · cases inside
  · rcases List.mem_map.mp encoded with ⟨piece, cut, rfl⟩
    rcases mem_percentEncode inside with ⟨inPiece, _⟩ | written
    · have divides := separates_eq_false_of_mem_piecesAt cut inPiece
      simp [isSlash] at divides
    · exact absurd written (by decide)

theorem isIgnored_of_plain {c : Char} (plain : escapedInPath c = false) : isIgnored c = false :=
  isIgnored_of_apart plain (by decide)

end NodeConsole.Url
