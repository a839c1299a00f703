import NodeConsole.Proofs.Url.WebTexts
/-!
Paths joined to the texts of URLs. A path behind a text that is written plainly, without query,
fragment and dots, becomes a path behind that of the URL. Behind a query or a fragment it becomes a
part of those.
-/

namespace NodeConsole.Url

/-! ## Slashes at the end -/

theorem below_append {front slashes : List Char} (onlySlashes : ∀ c ∈ slashes, c = '/')
    (ends : ∀ c, front.getLast? = some c → c ≠ '/') (path : List Char) :
    below (front ++ slashes) path = front ++ path := by
  have stops : ∀ c, front.reverse.head? = some c → (c == '/') = false := by
    intro c head
    rw [List.head?_reverse] at head
    simpa using ends c head
  rw [below, List.reverse_append, List.dropWhile_append_of_pos
    fun c member => by simpa using onlySlashes c (List.mem_reverse.mp member),
    dropWhile_eq_self_of_head stops, List.reverse_reverse]

theorem exists_slashes (text : List Char) :
    ∃ core slashes, text = core ++ slashes ∧ (∀ c ∈ slashes, c = '/') ∧
      ∀ c, core.getLast? = some c → c ≠ '/' := by
  refine ⟨_, _, (List.rdropWhile_append_rtakeWhile (p := (· == '/'))).symm, ?_, ?_⟩
  · intro c member
    simpa using List.mem_rtakeWhile_imp member
  · intro c last
    have present : text.rdropWhile (· == '/') ≠ [] := by
      intro none
      rw [none] at last
      cases last
    have stops := List.rdropWhile_last_not (· == '/') text present
    rw [List.getLast?_eq_some_getLast present, Option.some.injEq] at last
    simpa [last] using stops

/-! ## Schemes -/

theorem reverse_dropWhile_append_cons {p : Char → Bool} {c : Char} (stops : p c = false)
    (front more : List Char) :
    ((front ++ c :: more).reverse.dropWhile p).reverse =
      front ++ c :: (more.reverse.dropWhile p).reverse := by
  have head : (c :: front.reverse).head? = some c := rfl
  have backwards : (front ++ c :: more).reverse = more.reverse ++ c :: front.reverse := by simp
  rw [backwards, dropWhile_append_of_head head stops]
  simp

theorem below_append_cons {c : Char} (noSlash : c ≠ '/') (front more path : List Char) :
    below (front ++ c :: more) path = front ++ c :: below more path := by
  rw [below, below, reverse_dropWhile_append_cons (by simpa using noSlash), List.append_assoc,
    List.cons_append]

/-- A scheme is read off the start of a text, up to a colon; what stands behind that has no influence
on it. -/
theorem exists_scheme_front {text scheme rest : List Char}
    (split : splitScheme? (significant text) = some (scheme, rest)) :
    ∃ front more, text = front ++ ':' :: more ∧
      ∀ other, ∃ rest, splitScheme? (significant (front ++ ':' :: other)) = some (scheme, rest) := by
  rcases splitScheme?_eq_some_iff.mp split with ⟨name, parts, schemeChars, alpha, lower⟩
  have inner := List.rdropWhile_append_rtakeWhile (p := isMargin) (l := text.dropWhile isMargin)
  rcases List.filter_eq_append_iff.mp parts with ⟨first, second, kept, inFirst, inSecond⟩
  rcases List.filter_eq_cons_iff.mp inSecond with ⟨ignored, more, behind, allIgnored, _, _⟩
  -- Up to its colon the text holds the name of the scheme and what is ignored.
  have named : withoutIgnored (first ++ ignored) = name := by
    have none : withoutIgnored ignored = [] := List.filter_eq_nil_iff.mpr allIgnored
    rw [withoutIgnored_append, none, List.append_nil]
    exact inFirst
  have whole : text.dropWhile isMargin =
      first ++ ignored ++ ':' :: (more ++ (text.dropWhile isMargin).rtakeWhile isMargin) := by
    rw [List.rdropWhile, kept, behind] at inner
    exact inner.symm.trans (by simp)
  have starts : ∀ other c, (first ++ ignored ++ ':' :: other).head? = some c →
      isMargin c = false := by
    intro other c head
    have stops := List.head?_dropWhile_not isMargin text
    rw [whole] at stops
    cases front : first ++ ignored with
    | nil =>
        rw [front] at head
        cases head
        decide
    | cons d rest =>
        rw [front] at head stops
        cases head
        simpa using stops
  refine ⟨text.takeWhile isMargin ++ (first ++ ignored),
    more ++ (text.dropWhile isMargin).rtakeWhile isMargin, ?_, fun other =>
      ⟨withoutIgnored (other.reverse.dropWhile isMargin).reverse,
        splitScheme?_eq_some_iff.mpr ⟨name, ?_, schemeChars, alpha, lower⟩⟩⟩
  · rw [List.append_assoc, ← whole, List.takeWhile_append_dropWhile]
  · have blank : ∀ c ∈ text.takeWhile isMargin, isMargin c = true := fun c member =>
      List.mem_takeWhile_imp member
    rw [significant, List.append_assoc, List.dropWhile_append_of_pos blank,
      dropWhile_eq_self_of_head (starts other), reverse_dropWhile_append_cons (by decide),
      withoutIgnored_append, named]
    rfl

theorem scheme_below {text path : List Char} {base url : Url} (read : ofChars text = .ok base)
    (readBelow : ofChars (below text path) = .ok url) : url.scheme = base.scheme := by
  rcases exists_ofChars_iff.mp ⟨base, read⟩ with ⟨scheme, rest, split, _⟩
  rcases exists_scheme_front split with ⟨front, more, rfl, again⟩
  rw [ofChars_scheme split read]
  rw [below_append_cons (by decide)] at readBelow
  rcases again (below more path) with ⟨rest', split'⟩
  exact ofChars_scheme split' readBelow

/-! ## Plain texts -/

def pathPart (text : List Char) : List Char :=
  (((text.dropWhile (· != ':')).tail).dropWhile (· == '/')).dropWhile (· != '/')

example : pathPart "http://u:p@node:80/a//b/".toList = "/a//b/".toList := by decide +kernel

/-- A text of a URL that ends with its path, and stands for itself in every character. -/
structure IsPlainText (text : List Char) : Prop where
  unmarked : ∀ c ∈ text, c ∉ ['?', '#', '\\', '\t', '\n', '\r']
  starts : ∀ c, text.head? = some c → isMargin c = false
  ends : ∀ c, text.getLast? = some c → isMargin c = false
  undotted : ∀ segment ∈ (pathPart text).splitOn '/', ¬IsDotSegment segment

instance (text : List Char) : Decidable (IsPlainText text) :=
  decidable_of_iff
    (text.all (· ∉ ['?', '#', '\\', '\t', '\n', '\r']) = true ∧ text.head?.all (!isMargin ·) = true ∧
      text.getLast?.all (!isMargin ·) = true ∧
      ∀ segment ∈ (pathPart text).splitOn '/', ¬IsDotSegment segment) <| by
    simp only [List.all_eq_true, Option.all_eq_true, decide_eq_true_eq, Bool.not_eq_true']
    constructor
    · intro parts
      exact ⟨parts.1, parts.2.1, parts.2.2.1, parts.2.2.2⟩
    · intro plain
      exact ⟨plain.unmarked, plain.starts, plain.ends, plain.undotted⟩

structure IsPlainPath (path : List Char) : Prop where
  rooted : path.head? = some '/'
  unescaped : ∀ c ∈ path, escapedInPath c = false
  noBackslash : '\\' ∉ path
  undotted : ∀ segment ∈ path.splitOn '/', ¬IsDotSegment segment

theorem isMargin_of_unescaped {c : Char} (unescaped : escapedInPath c = false) :
    isMargin c = false := by
  simp only [escapedInPath, escapedInFragment, escapedInText, Bool.or_eq_false_iff,
    decide_eq_false_iff_not] at unescaped
  by_contra blank
  simp only [isMargin, Bool.not_eq_false, decide_eq_true_eq] at blank
  have space : c = ' ' := by
    apply Char.toNat_inj.mp
    have code : ' '.toNat = 0x20 := by decide
    omega
  simp [space] at unescaped

namespace IsPlainText

theorem contains_eq_false {text : List Char} (plain : IsPlainText text) {c : Char}
    (member : c ∈ text) : ['?', '#', '\\', '\t', '\n', '\r'].contains c = false := by
  simpa using plain.unmarked c member

theorem isIgnored_eq_false {text : List Char} (plain : IsPlainText text) {c : Char}
    (member : c ∈ text) : isIgnored c = false :=
  isIgnored_of_apart (plain.contains_eq_false member) (by decide)

theorem endsPath_eq_false {text : List Char} (plain : IsPlainText text) {c : Char}
    (member : c ∈ text) : endsPath c = false :=
  endsPath_of_apart (plain.contains_eq_false member) (by decide)

theorem backslash_notMem {text : List Char} (plain : IsPlainText text) : '\\' ∉ text :=
  fun member => by simpa using plain.unmarked _ member

theorem significant_eq_self {text : List Char} (plain : IsPlainText text) :
    significant text = text := by
  have back : (text.reverse.dropWhile isMargin) = text.reverse := by
    apply dropWhile_eq_self_of_head
    intro c head
    rw [List.head?_reverse] at head
    exact plain.ends c head
  rw [significant, dropWhile_eq_self_of_head plain.starts, back, List.reverse_reverse]
  exact withoutIgnored_eq_self fun c member => plain.isIgnored_eq_false member

end IsPlainText

namespace WebText

theorem head?_after (text : WebText) (noBackslash : '\\' ∉ text.after)
    (unended : ∀ c ∈ text.after, endsPath c = false) {c : Char} (head : text.after.head? = some c) :
    c = '/' := by
  have closes := text.closes c head
  have member := List.mem_of_head? head
  have other : c ≠ '\\' := by
    intro same
    exact noBackslash (same ▸ member)
  simpa [endsAuthority, isSlash, unended c member, other] using closes

theorem pathPart_chars (text : WebText) (noBackslash : '\\' ∉ text.chars)
    (unended : ∀ c ∈ text.after, endsPath c = false) : pathPart text.chars = text.after := by
  have parts : text.chars = text.name ++ ':' :: (text.slashes ++ (text.authority ++ text.after)) := by
    simp [chars, front]
  have inName : ∀ c ∈ text.name, (c != ':') = true := by
    intro c member
    have ofScheme := text.schemeChars c member
    rw [bne_iff_ne]
    intro same
    cases same ▸ ofScheme
  have inSlashes : ∀ c ∈ text.slashes, (c == '/') = true := by
    intro c member
    have slash := text.allSlashes c member
    have other : c ≠ '\\' := by
      intro same
      rw [same] at member
      exact noBackslash (by simp [parts, member])
    simpa [isSlash, other] using slash
  have inAuthority : ∀ c ∈ text.authority, c ≠ '/' := by
    intro c member same
    have stays := text.openAuthority c member
    rw [text.special] at stays
    cases same ▸ stays
  have stops : ∀ c, (text.authority ++ text.after).head? = some c → (c == '/') = false := by
    intro c head
    rw [List.head?_append_of_ne_nil _ text.present] at head
    simpa using inAuthority c (List.mem_of_head? head)
  have noAfter : '\\' ∉ text.after := fun member => noBackslash (by simp [parts, member])
  rw [pathPart, parts, List.dropWhile_append_of_pos inName, List.dropWhile_cons_of_neg (by simp),
    List.tail_cons, List.dropWhile_append_of_pos inSlashes, dropWhile_eq_self_of_head stops,
    List.dropWhile_append_of_pos fun c member => by simpa using inAuthority c member]
  apply dropWhile_eq_self_of_head
  intro c head
  simp [head?_after text noAfter unended head]

end WebText

/-! ## Joining -/

theorem getLast?_percentEncode {escaped : Char → Bool} {text : List Char}
    (ends : ∀ c, text.getLast? = some c → c ≠ '/') {c : Char}
    (last : (percentEncode escaped text).getLast? = some c) : c ≠ '/' := by
  rcases List.eq_nil_or_concat text with rfl | ⟨init, final, cut⟩
  · cases last
  · rw [List.concat_eq_append] at cut
    subst cut
    have noSlash : '/' ∉ [final] := by
      rw [List.mem_singleton]
      exact (ends final List.getLast?_concat).symm
    have written : percentEncode escaped [final] ≠ [] := by
      rw [Ne, percentEncode_eq_nil_iff]
      exact List.cons_ne_nil _ _
    rw [percentEncode_append, List.getLast?_append_of_ne_nil _ written] at last
    intro same
    rw [same] at last
    exact slash_notMem_percentEncode noSlash (List.mem_of_getLast? last)

theorem mem_splitOn_append {text slashes segment : List Char} (onlySlashes : ∀ c ∈ slashes, c = '/')
    (member : segment ∈ text.splitOn '/') : segment ∈ (text ++ slashes).splitOn '/' := by
  cases slashes with
  | nil => rwa [List.append_nil]
  | cons c more =>
      rw [onlySlashes c (by simp), splitOn_append_slash]
      exact List.mem_append_left _ member

theorem splitPath_eq {text : List Char} (unended : ∀ c ∈ text, endsPath c = false) :
    splitPath text = (text, []) := by
  have all : ∀ c ∈ text, (!endsPath c) = true := fun c member => by simp [unended c member]
  rw [splitPath, List.takeWhile_eq_self_iff.mpr all, List.dropWhile_eq_nil_iff.mpr all]

namespace IsPlainPath

theorem endsPath_eq_false {path : List Char} (plain : IsPlainPath path) {c : Char}
    (member : c ∈ path) : endsPath c = false :=
  endsPath_of_apart (plain.unescaped c member) (by decide)

theorem undotted_append {path front : List Char} (plain : IsPlainPath path)
    (undotted : ∀ segment ∈ front.splitOn '/', ¬IsDotSegment segment) :
    ∀ segment ∈ (front ++ path).splitOn '/', ¬IsDotSegment segment := by
  have behind := plain.undotted
  rcases List.head?_eq_some_iff.mp plain.rooted with ⟨rest, rfl⟩
  intro segment member
  rw [splitOn_append_slash, List.mem_append] at member
  rcases member with inFront | inRest
  · exact undotted segment inFront
  · rw [splitOn_cons_slash] at behind
    exact behind segment (List.mem_cons_of_mem _ inRest)

end IsPlainPath

/-- The path of a URL whose text ends with its path, below which another one comes. -/
theorem below_joinSegments {after slashes : List Char} (onlySlashes : ∀ c ∈ slashes, c = '/')
    (ends : ∀ c, after.getLast? = some c → c ≠ '/')
    (starts : ∀ c, (after ++ slashes).head? = some c → c = '/') (noBackslash : '\\' ∉ after ++ slashes)
    (undotted : ∀ segment ∈ (after ++ slashes).splitOn '/', ¬IsDotSegment segment)
    (path : List Char) :
    below (joinSegments (readSegments true (after ++ slashes))) path =
      percentEncode escapedInPath after ++ path := by
  cases whole : after ++ slashes with
  | nil =>
      have none : after = [] := (List.append_eq_nil_iff.mp whole).1
      have root : joinSegments (readSegments true []) = [] ++ ['/'] := by decide
      rw [root, none]
      exact below_append (by simp) (by simp) path
  | cons c more =>
      have rooted : (after ++ slashes).head? = some '/' := by
        rw [whole, List.head?_cons, starts c (by rw [whole, List.head?_cons])]
      have written : percentEncode escapedInPath slashes = slashes := by
        apply percentEncode_eq_self
        intro c member
        rw [onlySlashes c member]
        decide
      rw [← whole, joinSegments_readSegments noBackslash undotted rooted, percentEncode_append, written]
      exact below_append onlySlashes (fun _ last => getLast?_percentEncode ends last) path

structure WebText.IsPlain (text : WebText) : Prop where
  unended : ∀ c ∈ text.after, endsPath c = false
  noBackslash : '\\' ∉ text.after
  undotted : ∀ segment ∈ text.after.splitOn '/', ¬IsDotSegment segment

theorem IsPlainText.isPlain {text : WebText} (plain : IsPlainText text.chars) : text.IsPlain := by
  have inText {c : Char} (member : c ∈ text.after) : c ∈ text.chars :=
    List.mem_append_right _ member
  have unended : ∀ c ∈ text.after, endsPath c = false := fun c member =>
    plain.endsPath_eq_false (inText member)
  refine ⟨unended, fun member => plain.backslash_notMem (inText member), ?_⟩
  rw [← text.pathPart_chars plain.backslash_notMem unended]
  exact plain.undotted

theorem WebText.IsPlain.below_path {text : WebText} (plain : text.IsPlain) {whole : List Char}
    {base : Url} (same : significant whole = text.chars) (read : ofChars whole = .ok base)
    {after slashes : List Char} (cut : text.after = after ++ slashes)
    (onlySlashes : ∀ c ∈ slashes, c = '/') (ends : ∀ c, after.getLast? = some c → c ≠ '/')
    (path : List Char) : below base.path.chars path = percentEncode escapedInPath after ++ path := by
  have noBackslash := plain.noBackslash
  have undotted := plain.undotted
  have starts : ∀ c, text.after.head? = some c → c = '/' := fun c head =>
    text.head?_after plain.noBackslash plain.unended head
  rw [text.path_eq same read, splitPath_eq plain.unended, Path.chars]
  rw [cut] at noBackslash undotted starts ⊢
  exact below_joinSegments onlySlashes ends starts noBackslash undotted path

theorem WebText.IsPlain.ofChars_joined {text : WebText} (plain : text.IsPlain)
    {whole whole' path : List Char} {base : Url} (plainPath : IsPlainPath path)
    (same : significant whole = text.chars) (read : ofChars whole = .ok base)
    {after slashes : List Char} (cut : text.after = after ++ slashes)
    (onlySlashes : ∀ c ∈ slashes, c = '/')
    (same' : significant whole' = text.front ++ (after ++ path)) :
    ∃ joined : Path, joined.chars = percentEncode escapedInPath after ++ path ∧
      ofChars whole' = .ok { base with path := joined, query := none, fragment := none } := by
  have inAfter {c : Char} (member : c ∈ after) : c ∈ text.after := by
    rw [cut]
    exact List.mem_append_left _ member
  have unended : ∀ c ∈ after ++ path, endsPath c = false := by
    intro c member
    rcases List.mem_append.mp member with first | second
    · exact plain.unended c (inAfter first)
    · exact plainPath.endsPath_eq_false second
  have noBackslash : '\\' ∉ after ++ path := by
    intro member
    rcases List.mem_append.mp member with first | second
    · exact plain.noBackslash (inAfter first)
    · exact plainPath.noBackslash second
  have undotted : ∀ segment ∈ (after ++ path).splitOn '/', ¬IsDotSegment segment := by
    apply plainPath.undotted_append
    intro segment member
    apply plain.undotted
    rw [cut]
    exact mem_splitOn_append onlySlashes member
  have rooted : (after ++ path).head? = some '/' := by
    cases first : after.head? with
    | none => rw [List.head?_append, first, plainPath.rooted, Option.none_or]
    | some c =>
        have head : text.after.head? = some c := by rw [cut, List.head?_append, first, Option.some_or]
        rw [List.head?_append, first, Option.some_or,
          text.head?_after plain.noBackslash plain.unended head]
  have closes := text.closes_append cut fun _ => plainPath.rooted
  refine ⟨.segments (readSegments true (after ++ path)), ?_, ?_⟩
  · rw [Path.chars, joinSegments_readSegments noBackslash undotted rooted, percentEncode_append,
      percentEncode_eq_self plainPath.unescaped]
  · rw [text.ofChars_continued closes same same' read, splitPath_eq unended]
    rfl

theorem ofChars_below_of_plain {text path : List Char} {base : Url} (plain : IsPlainText text)
    (plainPath : IsPlainPath path) (read : ofChars text = .ok base)
    (web : (isSpecial base.scheme && !isFileScheme base.scheme) = true) :
    ∃ joined : Path, joined.chars = below base.path.chars path ∧
      ∀ slashes, ofChars (below (text ++ List.replicate slashes '/') path) =
        .ok { base with path := joined, query := none, fragment := none } := by
  rcases exists_webText read web with ⟨parts, same, _⟩
  rcases exists_slashes text with ⟨core, ends, cut, onlySlashes, lastOfCore⟩
  have whole : text = parts.chars := by rw [← same, plain.significant_eq_self]
  have isPlain : parts.IsPlain := (whole ▸ plain : IsPlainText parts.chars).isPlain
  rcases parts.exists_after onlySlashes (whole ▸ cut) with ⟨after, behind, rfl⟩
  have lastOfAfter : ∀ c, after.getLast? = some c → c ≠ '/' := by
    intro c last
    apply lastOfCore
    rw [List.getLast?_append, last, Option.some_or]
  -- The new text starts where the old one does, and ends in the path: all of it counts.
  have same' : significant (parts.front ++ after ++ path) = parts.front ++ (after ++ path) := by
    have lastOfPath : ∀ c, path.getLast? = some c → isMargin c = false := fun c last =>
      isMargin_of_unescaped (plainPath.unescaped c (List.mem_of_getLast? last))
    have starts : ∀ c, (parts.front ++ after).head? = some c → isMargin c = false := by
      intro c head
      apply plain.starts
      rw [cut, List.head?_append, head, Option.some_or]
    rw [significant_append plainPath.rooted lastOfPath, dropWhile_eq_self_of_head starts,
      withoutIgnored_eq_self, withoutIgnored_eq_self, List.append_assoc]
    · exact fun c member => isIgnored_of_plain (plainPath.unescaped c member)
    · intro c member
      apply plain.isIgnored_eq_false
      rw [cut]
      exact List.mem_append_left _ member
  rcases isPlain.ofChars_joined plainPath same read behind onlySlashes same' with
    ⟨joined, chars, joinedRead⟩
  refine ⟨joined, ?_, fun slashes => ?_⟩
  · rw [chars, isPlain.below_path same read behind onlySlashes lastOfAfter]
  · have allSlashes : ∀ c ∈ ends ++ List.replicate slashes '/', c = '/' := by
      intro c member
      rcases List.mem_append.mp member with first | second
      · exact onlySlashes c first
      · exact List.eq_of_mem_replicate second
    rw [cut, List.append_assoc, below_append allSlashes lastOfCore]
    exact joinedRead

/-! ## Queries and fragments -/

theorem mem_dropWhile_iff {p : Char → Bool} {text : List Char} {c : Char} (counts : p c = false) :
    c ∈ text.dropWhile p ↔ c ∈ text := by
  have taken : c ∉ text.takeWhile p := by
    intro member
    rw [List.mem_takeWhile_imp member] at counts
    cases counts
  have halves := congrArg (c ∈ ·) (List.takeWhile_append_dropWhile (p := p) (l := text))
  simp only [List.mem_append, taken, false_or, eq_iff_iff] at halves
  exact halves

theorem mem_significant_iff {text : List Char} {c : Char} (counts : isMargin c = false) :
    c ∈ significant text ↔ c ∈ text := by
  have notIgnored := isIgnored_of_not_margin counts
  rw [significant, withoutIgnored, List.mem_filter, List.mem_reverse, mem_dropWhile_iff counts,
    List.mem_reverse, mem_dropWhile_iff counts]
  simp [notIgnored]

theorem isMargin_of_endsPath {c : Char} (ends : endsPath c = true) : isMargin c = false := by
  simp only [endsPath, Bool.or_eq_true, beq_iff_eq] at ends
  rcases ends with rfl | rfl <;> decide

theorem WebText.exists_mark_iff (parts : WebText) {text after slashes : List Char}
    (same : significant text = parts.chars) (cut : parts.after = after ++ slashes)
    (onlySlashes : ∀ c ∈ slashes, c = '/') :
    (∃ c ∈ text, endsPath c = true) ↔ ∃ c ∈ after, endsPath c = true := by
  constructor
  · intro marked
    rcases marked with ⟨c, member, ends⟩
    refine ⟨c, ?_, ends⟩
    rw [← mem_significant_iff (isMargin_of_endsPath ends), same, chars, cut, List.mem_append,
      List.mem_append] at member
    rcases member with inFront | inAfter | inSlashes
    · rw [parts.endsPath_of_mem_front inFront] at ends
      cases ends
    · exact inAfter
    · rw [onlySlashes c inSlashes] at ends
      cases ends
  · intro marked
    rcases marked with ⟨c, member, ends⟩
    refine ⟨c, ?_, ends⟩
    rw [← mem_significant_iff (isMargin_of_endsPath ends), same, chars, cut]
    exact List.mem_append_right _ (List.mem_append_left _ member)

/-- Behind the mark of a query or of a fragment nothing belongs to a path. -/
theorem splitPath_append {text : List Char} {c : Char} (member : c ∈ text) (ends : endsPath c = true)
    (more : List Char) : (splitPath (text ++ more)).1 = (splitPath text).1 := by
  rw [splitPath, splitPath, List.takeWhile_append, if_neg]
  intro long
  have all := (List.takeWhile_prefix fun c => !endsPath c).eq_of_length long
  have stays := List.takeWhile_eq_self_iff.mp all c member
  simp [ends] at stays

theorem WebText.blankEnd_eq_nil (parts : WebText) {text : List Char}
    (same : significant text = parts.chars) (fits : ¬Dangles text) (ended : parts.after = []) :
    blankEnd text = [] := by
  have split := parts.splitScheme?_chars
  rw [← same] at split
  rw [dangles_iff split] at fits
  by_contra blanks
  apply fits
  refine ⟨parts.authority, ?_, parts.openAuthority, .inr ⟨blanks, ?_⟩⟩
  · rw [authorityIn?, if_pos parts.web, parts.dropWhile_slashes, ended, List.append_nil]
  · intro takes
    rw [TakesBlanks, parts.special] at takes
    cases takes.1

structure IsSegment (name : List Char) : Prop where
  unended : ∀ c ∈ name, endsPath c = false
  single : ∀ c ∈ name, isSlash true c = false
  undotted : ¬IsDotSegment name

theorem exists_webText_below {text name : List Char} {base url : Url} (place : IsPlace name)
    (read : ofChars text = .ok base)
    (web : (isSpecial base.scheme && !isFileScheme base.scheme) = true)
    (readBelow : ofChars (below text ('/' :: name)) = .ok url) :
    ∃ (parts : WebText) (after slashes : List Char), significant text = parts.chars ∧
      parts.after = after ++ slashes ∧ (∀ c ∈ slashes, c = '/') ∧
      Closes parts.scheme (after ++ (blankEnd text ++ '/' :: name)) ∧
      significant (below text ('/' :: name)) =
        parts.front ++ (after ++ (blankEnd text ++ '/' :: name)) := by
  rcases exists_webText read web with ⟨parts, same, _⟩
  have present : significant text ≠ [] := by
    rw [same]
    simp [WebText.chars, WebText.front]
  have counts : ∀ c ∈ '/' :: name, isMargin c = false := by
    intro c member
    rcases List.mem_cons.mp member with rfl | member
    · rfl
    · exact place.counts c member
  rcases significant_below rfl counts present with ⟨core, slashes, whole, longer, onlySlashes, either⟩
  rw [same] at whole
  rcases parts.exists_after onlySlashes whole with ⟨after, cut, rfl⟩
  rw [List.append_assoc, List.append_assoc] at longer
  refine ⟨parts, after, slashes, same, cut, onlySlashes, ?_, longer⟩
  apply parts.closes_append cut
  intro ended
  have noBlanks : blankEnd text = [] := by
    rcases either with none | none
    · apply parts.blankEnd_eq_nil same ((exists_ofChars_below_iff place read).mp ⟨url, readBelow⟩)
      rw [cut, ended, none, List.append_nil]
    · exact none
  rw [noBlanks]
  rfl

/-- A place below a URL of the web is the last segment of a path, unless the text of the URL has a query
or a fragment: then the path is the same. -/
theorem path_below {text name : List Char} {base url : Url} (place : IsPlace name)
    (segment : IsSegment name) (read : ofChars text = .ok base)
    (web : (isSpecial base.scheme && !isFileScheme base.scheme) = true)
    (readBelow : ofChars (below text ('/' :: name)) = .ok url) :
    ((∃ c ∈ text, endsPath c = true) → url.path = base.path) ∧
      ((∀ c ∈ text, endsPath c = false) →
        (url.path.chars.splitOn '/').getLast? = some (percentEncode escapedInPath name)) := by
  rcases exists_webText_below place read web readBelow with
    ⟨parts, after, slashes, same, cut, onlySlashes, closes, longer⟩
  have placed := parts.ofChars_continued closes same longer read
  rw [readBelow, Except.ok.injEq] at placed
  have path := congrArg Url.path placed
  rw [withTail_path] at path
  have marks := parts.exists_mark_iff same cut onlySlashes
  refine ⟨fun marked => ?_, fun unmarked => ?_⟩
  · rcases marks.mp marked with ⟨c, member, ends⟩
    rw [path, parts.path_eq same read, cut, splitPath_append member ends, splitPath_append member ends]
  · have unended : ∀ c ∈ after ++ (blankEnd text ++ '/' :: name), endsPath c = false := by
      intro c member
      rw [List.mem_append, List.mem_append, List.mem_cons] at member
      rcases member with inAfter | blank | rfl | inName
      · by_contra ends
        rcases marks.mpr ⟨c, inAfter, by simpa using ends⟩ with ⟨mark, inText, marksEnd⟩
        rw [unmarked mark inText] at marksEnd
        cases marksEnd
      · have isBlank : isMargin c = true := (of_mem_blankEnd blank).1
        exact endsPath_of_apart (p := (!isMargin ·)) (by simp [isBlank]) (by decide)
      · rfl
      · exact segment.unended c inName
    rw [path, splitPath_eq unended, Path.chars, splitOn_joinSegments_readSegments,
      List.getLast?_cons, ← List.append_assoc, getLast?_readSegments segment.single segment.undotted]
    rfl

end NodeConsole.Url
