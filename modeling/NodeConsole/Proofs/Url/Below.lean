import NodeConsole.Proofs.Url.Readable
import NodeConsole.Proofs.Url.TextEnds
/-!
Places below a URL. A path put behind the text of a URL ends the authority that the text ended in, and
makes the blanks behind it a part of it; nothing else can keep the new text from being a URL. Where it
is one, it has the same authority.
-/

namespace NodeConsole.Url

def openAuthority? (text : List Char) : Option (List Char × List Char) :=
  (splitScheme? text).bind fun (scheme, rest) =>
    ((authorityIn? scheme rest).filter fun inside =>
      inside.all fun c => !endsAuthority (isSpecial scheme) c).map fun inside => (scheme, inside)

/-- Whether a text ends in an authority that can only stand at an end: it is a lone `@`, or blanks
follow it that its host does not take. -/
def Dangles (text : List Char) : Prop :=
  ∃ scheme authority, openAuthority? (significant text) = some (scheme, authority) ∧
    (authority = ['@'] ∧ blankEnd text = [] ∨
      blankEnd text ≠ [] ∧ ¬TakesBlanks scheme (hostPart authority) (blankEnd text))

instance decidableDangles (text : List Char) : Decidable (Dangles text) :=
  match found : openAuthority? (significant text) with
  | none => .isFalse (by
      rintro ⟨_, _, same, _⟩
      rw [found] at same
      cases same)
  | some (scheme, authority) =>
    decidable_of_iff
      (authority = ['@'] ∧ blankEnd text = [] ∨
        blankEnd text ≠ [] ∧ ¬TakesBlanks scheme (hostPart authority) (blankEnd text))
      ⟨fun unfit => ⟨scheme, authority, found, unfit⟩, by
        rintro ⟨_, _, same, unfit⟩
        rw [found] at same
        cases same
        exact unfit⟩

example : Dangles "http://node ".toList ∧ ¬Dangles "http://node/ ".toList := by decide +kernel

/-- A name that can stand below any URL: all of it counts, it is no path of several segments, and it is
a host where a slash makes it one. -/
structure IsPlace (name : List Char) : Prop where
  counts : ∀ c ∈ name, isMargin c = false
  single : ∀ c, name.head? = some c → isSlash true c = false
  host : ∀ scheme, IsReadable scheme name

inductive Extends (scheme blanks path : List Char) : Option (List Char) → Option (List Char) → Prop
  where
  /-- The authority had ended before. -/
  | closed {authority after after' : List Char} (openText : IsOpen scheme authority)
      (closes : Closes scheme after) (closes' : Closes scheme after') (ends : after ≠ [])
      (ends' : after' ≠ []) :
      Extends scheme blanks path (some (authority ++ after)) (some (authority ++ after'))
  /-- The authority is ended by the path. -/
  | opened {authority : List Char} (openText : IsOpen scheme authority) :
      Extends scheme blanks path (some authority) (some (authority ++ blanks ++ path))
  /-- There was none, or no more of it than slashes. -/
  | outside {before after : Option (List Char)}
      (noWeb : (isSpecial scheme && !isFileScheme scheme) = false)
      (slashes : ∀ inside, before = some inside → blanks = [] ∧ '@' ∉ inside)
      (place : ∀ inside, after = some inside → inside = path.tail) :
      Extends scheme blanks path before after

theorem closes_slash {text : List Char} (starts : text.head? = some '/') (scheme : List Char) :
    Closes scheme text := by
  intro c head
  rw [starts, Option.some.injEq] at head
  subst head
  rfl

theorem extends_of_front {scheme blanks path slashes : List Char} (front : List Char)
    (onlySlashes : ∀ c ∈ slashes, c = '/') (either : slashes = [] ∨ blanks = [])
    (starts : path.head? = some '/') :
    Extends scheme blanks path (some (front ++ slashes)) (some (front ++ blanks ++ path)) := by
  have parts := List.takeWhile_append_dropWhile
    (p := fun c => !endsAuthority (isSpecial scheme) c) (l := front)
  have openText : IsOpen scheme
      (front.takeWhile fun c => !endsAuthority (isSpecial scheme) c) :=
    fun _ member => by simpa using List.mem_takeWhile_imp member
  have hasPath : path ≠ [] := by
    rintro rfl
    cases starts
  cases left : front.dropWhile fun c => !endsAuthority (isSpecial scheme) c with
  | cons c after =>
      have ends : endsAuthority (isSpecial scheme) c = true := by
        have first := List.head?_dropWhile_not (fun c => !endsAuthority (isSpecial scheme) c) front
        simpa [left] using first
      have closes (more : List Char) : Closes scheme (c :: more) := by
        intro c head
        cases head
        exact ends
      rw [← parts, left]
      simp only [List.append_assoc, List.cons_append]
      exact .closed openText (closes _) (closes _) (List.cons_ne_nil _ _) (List.cons_ne_nil _ _)
  | nil =>
      rw [left, List.append_nil] at parts
      rw [parts] at openText
      cases slashes with
      | nil =>
          rw [List.append_nil]
          exact .opened openText
      | cons c more =>
          have first : (c :: more).head? = some '/' := congrArg some (onlySlashes c (by simp))
          rw [either.resolve_left (List.cons_ne_nil c more), List.append_nil]
          exact .closed openText (closes_slash first scheme) (closes_slash starts scheme)
            (List.cons_ne_nil c more) hasPath

theorem not_isReadable_nil {scheme : List Char} (special : isSpecial scheme = true)
    (noFile : isFileScheme scheme = false) : ¬IsReadable scheme [] := by
  simp [IsReadable, noFile, readAuthority, splitCredentials?, readHost, splitHost, special, bind,
    Except.bind]

theorem isSlash_of_isMargin {c : Char} (blank : isMargin c = true) (special : Bool) :
    isSlash special c = false := by
  by_contra slash
  simp only [isSlash, Bool.not_eq_false, Bool.or_eq_true, Bool.and_eq_true, beq_iff_eq] at slash
  rcases slash with rfl | ⟨_, rfl⟩ <;> cases blank

theorem eq_nil_or_singleton {front : List Char} (short : front.tail = []) :
    front = [] ∨ ∃ c, front = [c] := by
  cases front with
  | nil => exact .inl rfl
  | cons c more => exact .inr ⟨c, congrArg (c :: ·) short⟩

/-- Behind at most one character, two slashes and what follows them are slashes of the end. -/
theorem of_behindSlashes?_slashes {special : Bool} {front slashes inside : List Char}
    (short : front.tail = []) (onlySlashes : ∀ c ∈ slashes, c = '/')
    (found : behindSlashes? special (front ++ slashes) = some inside) :
    slashes ≠ [] ∧ '@' ∉ inside := by
  rcases behindSlashes?_eq_some_iff.mp found with ⟨first, second, whole, _, _⟩
  constructor
  · rintro rfl
    have length := congrArg List.length whole
    rcases eq_nil_or_singleton short with rfl | ⟨c, rfl⟩ <;> cases length
  · intro member
    have inSlashes : '@' ∈ slashes := by
      rcases eq_nil_or_singleton short with rfl | ⟨c, rfl⟩
      · rw [List.nil_append] at whole
        simp [whole, member]
      · rw [List.singleton_append, List.cons.injEq] at whole
        simp [whole.2, member]
    exact absurd (onlySlashes _ inSlashes) (by decide)

theorem eq_of_behindSlashes?_path {special : Bool} {front blanks name inside : List Char}
    (short : front.tail = []) (blank : ∀ c ∈ blanks, isMargin c = true)
    (single : ∀ c, name.head? = some c → isSlash true c = false)
    (found : behindSlashes? special (front ++ blanks ++ '/' :: name) = some inside) :
    inside = name := by
  have noBlank {c : Char} (member : c ∈ blanks) (slash : isSlash special c = true) : False := by
    rw [isSlash_of_isMargin (blank c member)] at slash
    cases slash
  rcases behindSlashes?_eq_some_iff.mp found with ⟨first, second, whole, isFirst, isSecond⟩
  rcases eq_nil_or_singleton short with rfl | ⟨c, rfl⟩
  · cases blanks with
    | nil =>
        rw [List.nil_append, List.nil_append, List.cons.injEq] at whole
        -- The second slash would be the first character of the name.
        have noSlash := single second (by rw [whole.2, List.head?_cons])
        simp only [isSlash, Bool.or_eq_true, Bool.and_eq_true, Bool.or_eq_false_iff,
          Bool.and_eq_false_iff] at noSlash isSecond
        grind
    | cons b more =>
        have same : b = first := (List.cons.inj whole).1
        exact (noBlank (by simp) (same ▸ isFirst)).elim
  · cases blanks with
    | nil =>
        cases whole
        rfl
    | cons b more =>
        have same : b = second := (List.cons.inj (List.cons.inj whole).2).1
        exact (noBlank (by simp) (same ▸ isSecond)).elim

theorem extends_of_short {scheme front slashes blanks name : List Char}
    (noWeb : (isSpecial scheme && !isFileScheme scheme) = false) (short : front.tail = [])
    (onlySlashes : ∀ c ∈ slashes, c = '/') (either : slashes = [] ∨ blanks = [])
    (blank : ∀ c ∈ blanks, isMargin c = true)
    (single : ∀ c, name.head? = some c → isSlash true c = false) :
    Extends scheme blanks ('/' :: name) (authorityIn? scheme (front ++ slashes))
      (authorityIn? scheme (front ++ blanks ++ '/' :: name)) := by
  have behind (rest : List Char) : authorityIn? scheme rest = behindSlashes? (isSpecial scheme) rest := by
    rw [authorityIn?, noWeb]
    rfl
  rw [behind, behind]
  refine .outside noWeb (fun inside found => ?_) fun inside found => ?_
  · rcases of_behindSlashes?_slashes short onlySlashes found with ⟨hasSlashes, noMark⟩
    exact ⟨either.resolve_left hasSlashes, noMark⟩
  · exact eq_of_behindSlashes?_path short blank single found

theorem extends_authorityIn? {scheme front slashes blanks name : List Char}
    (onlySlashes : ∀ c ∈ slashes, c = '/') (either : slashes = [] ∨ blanks = [])
    (blank : ∀ c ∈ blanks, isMargin c = true)
    (single : ∀ c, name.head? = some c → isSlash true c = false)
    (readable : ∀ inside, authorityIn? scheme (front ++ slashes) = some inside →
      IsReadable scheme inside) :
    Extends scheme blanks ('/' :: name) (authorityIn? scheme (front ++ slashes))
      (authorityIn? scheme (front ++ blanks ++ '/' :: name)) := by
  cases web : isSpecial scheme && !isFileScheme scheme with
  | true =>
      have cut (rest : List Char) : authorityIn? scheme rest = some (rest.dropWhile (isSlash true)) := by
        rw [authorityIn?, web]
        rfl
      simp only [Bool.and_eq_true, Bool.not_eq_true'] at web
      -- On the web slashes alone are no authority, so what was read had more in front of them.
      have left : front.dropWhile (isSlash true) ≠ [] := by
        intro gone
        have nothing : slashes.dropWhile (isSlash true) = [] :=
          List.dropWhile_eq_nil_iff.mpr fun c member => by
            rw [onlySlashes c member]
            rfl
        refine not_isReadable_nil web.1 web.2 (readable [] ?_)
        rw [cut, List.dropWhile_append, gone, nothing]
        rfl
      have kept (more : List Char) : (front ++ more).dropWhile (isSlash true) =
          front.dropWhile (isSlash true) ++ more := by
        rw [List.dropWhile_append, if_neg (by simpa using left)]
      rw [cut, cut, List.append_assoc, kept, kept, ← List.append_assoc]
      exact extends_of_front _ onlySlashes either rfl
  | false =>
      rcases front with _ | ⟨first, _ | ⟨second, front⟩⟩
      · exact extends_of_short web rfl onlySlashes either blank single
      · exact extends_of_short web rfl onlySlashes either blank single
      · simp only [authorityIn?, web, Bool.false_eq_true, if_false, List.cons_append,
          behindSlashes?]
        split
        · exact extends_of_front front onlySlashes either rfl
        · exact .outside web (by simp) (by simp)

theorem openAuthority?_eq_some_iff {text scheme authority : List Char} :
    openAuthority? text = some (scheme, authority) ↔
      ∃ rest, splitScheme? text = some (scheme, rest) ∧
        authorityIn? scheme rest = some authority ∧ IsOpen scheme authority := by
  simp only [openAuthority?, Option.bind_eq_some_iff, Option.map_eq_some_iff,
    Option.filter_eq_some_iff, List.all_eq_true, Bool.not_eq_true', Prod.mk.injEq, IsOpen]
  constructor
  · rintro ⟨⟨_, rest⟩, split, _, ⟨found, openText⟩, rfl, rfl⟩
    exact ⟨rest, split, found, openText⟩
  · rintro ⟨rest, split, found, openText⟩
    exact ⟨(scheme, rest), split, authority, ⟨found, openText⟩, rfl, rfl⟩

theorem extends_below {text name scheme rest : List Char} (place : IsPlace name)
    (split : splitScheme? (significant text) = some (scheme, rest))
    (readable : ∀ inside, authorityIn? scheme rest = some inside → IsReadable scheme inside) :
    ∃ rest', splitScheme? (significant (below text ('/' :: name))) = some (scheme, rest') ∧
      Extends scheme (blankEnd text) ('/' :: name) (authorityIn? scheme rest)
        (authorityIn? scheme rest') := by
  have present : significant text ≠ [] := by
    intro nothing
    rw [nothing] at split
    cases split
  have plain : ∀ c ∈ '/' :: name, isMargin c = false := by
    intro c member
    rcases List.mem_cons.mp member with rfl | member
    · rfl
    · exact place.counts c member
  rcases significant_below rfl plain present with ⟨core, slashes, whole, longer, onlySlashes, either⟩
  rw [whole] at split
  rcases splitScheme?_append onlySlashes split with ⟨front, rfl, again⟩
  refine ⟨front ++ blankEnd text ++ '/' :: name, ?_, ?_⟩
  · rw [longer, List.append_assoc, again, List.append_assoc]
  · exact extends_authorityIn? onlySlashes either (fun c member => (of_mem_blankEnd member).1)
      place.single readable

theorem dangles_iff {text scheme rest : List Char}
    (split : splitScheme? (significant text) = some (scheme, rest)) :
    Dangles text ↔ ∃ authority, authorityIn? scheme rest = some authority ∧
      IsOpen scheme authority ∧ (authority = ['@'] ∧ blankEnd text = [] ∨
        blankEnd text ≠ [] ∧ ¬TakesBlanks scheme (hostPart authority) (blankEnd text)) := by
  constructor
  · rintro ⟨scheme', authority, found, unfit⟩
    rcases openAuthority?_eq_some_iff.mp found with ⟨rest', split', found, openText⟩
    rw [split, Option.some.injEq, Prod.mk.injEq] at split'
    rcases split' with ⟨rfl, rfl⟩
    exact ⟨authority, found, openText, unfit⟩
  · rintro ⟨authority, found, openText, unfit⟩
    exact ⟨scheme, authority, openAuthority?_eq_some_iff.mpr ⟨rest, split, found, openText⟩, unfit⟩

/-- What is read below something readable can be read too, unless an authority is left open that is
a lone mark or does not take the blanks behind it. -/
theorem Extends.readable_iff {scheme blanks name : List Char} {before after : Option (List Char)}
    (extended : Extends scheme blanks ('/' :: name) before after) (host : IsReadable scheme name)
    (blank : ∀ c ∈ blanks, isMargin c = true)
    (readable : ∀ inside, before = some inside → IsReadable scheme inside) :
    (∀ inside, after = some inside → IsReadable scheme inside) ↔
      ¬∃ authority, before = some authority ∧ IsOpen scheme authority ∧
        (authority = ['@'] ∧ blanks = [] ∨
          blanks ≠ [] ∧ ¬TakesBlanks scheme (hostPart authority) blanks) := by
  cases extended with
  | @closed authority after after' openText closes closes' ends ends' =>
      rcases (isReadable_append_iff openText closes).mp (readable _ rfl) with ⟨alone, notLone⟩
      refine iff_of_true ?_ ?_
      · rintro _ ⟨⟩
        exact (isReadable_append_iff openText closes').mpr
          ⟨alone, fun lone => notLone ⟨lone.1, ends⟩⟩
      · rintro ⟨_, ⟨⟩, openBoth, _⟩
        rcases List.exists_cons_of_ne_nil ends with ⟨c, more, rfl⟩
        have stays := openBoth c (by simp)
        rw [closes c rfl] at stays
        cases stays
  | @opened authority openText =>
      have openBoth : IsOpen scheme (authority ++ blanks) :=
        isOpen_append.mpr ⟨openText, isOpen_of_margin blank scheme⟩
      simp only [Option.some.injEq, forall_eq', exists_eq_left', openText, true_and]
      rw [isReadable_append_iff openBoth (closes_slash rfl scheme)]
      by_cases none : blanks = []
      · simp [none, readable authority rfl]
      · rw [isReadable_append_blanks_iff openText (readable _ rfl) none blank]
        have notLone : authority ++ blanks ≠ ['@'] := by
          intro lone
          rcases List.append_eq_singleton_iff.mp lone with ⟨_, mark⟩ | ⟨_, same⟩
          · exact absurd (blank '@' (by simp [mark])) (by decide)
          · exact none same
        simp [none, notLone]
  | outside noWeb slashes placed =>
      refine iff_of_true ?_ ?_
      · intro inside found
        rw [placed inside found]
        exact host
      · rintro ⟨authority, found, _, ⟨lone, _⟩ | ⟨some, _⟩⟩
        · exact (slashes authority found).2 (by simp [lone])
        · exact some (slashes authority found).1

/-- A place below a URL can be read unless the text of the URL dangles. -/
theorem exists_ofChars_below_iff {text name : List Char} {base : Url} (place : IsPlace name)
    (read : ofChars text = .ok base) :
    (∃ url, ofChars (below text ('/' :: name)) = .ok url) ↔ ¬Dangles text := by
  rcases exists_ofChars_iff.mp ⟨base, read⟩ with ⟨scheme, rest, split, readable⟩
  rcases extends_below place split readable with ⟨rest', split', extended⟩
  have reads : (∃ url, ofChars (below text ('/' :: name)) = .ok url) ↔
      ∀ inside, authorityIn? scheme rest' = some inside → IsReadable scheme inside := by
    rw [exists_ofChars_iff, split']
    simp
  rw [reads, dangles_iff split]
  exact extended.readable_iff (place.host scheme) (fun c member => (of_mem_blankEnd member).1) readable

/-! ## The host of a place below -/

theorem readFile_scheme {scheme text : List Char} {url : Url}
    (read : readFile scheme text = .ok url) : url.scheme = scheme := by
  have ofPath {host : Host} {text : List Char}
      (read : readFile.ofPath scheme host text = .ok url) : url.scheme = scheme := by
    rw [readFile.ofPath] at read
    cases read
    exact withTail_scheme _ _
  rw [readFile.eq_def] at read
  split at read
  · dsimp only at read
    split at read
    · split at read
      · exact ofPath read
      · rcases bind_eq_ok read with ⟨host, _, placed⟩
        split at placed
        · exact ofPath placed
        · exact ofPath placed
    · exact ofPath read
  · exact ofPath read

theorem ofChars_scheme {text scheme rest : List Char} {url : Url}
    (split : splitScheme? (significant text) = some (scheme, rest))
    (read : ofChars text = .ok url) : url.scheme = scheme := by
  rw [ofChars, split] at read
  dsimp only at read
  split at read
  · exact readFile_scheme read
  · split at read
    · rcases of_map_eq_ok read with ⟨authority, _, rfl⟩
      exact withTail_scheme _ _
    · rw [readOther.eq_def] at read
      split at read
      · rcases of_map_eq_ok read with ⟨authority, _, rfl⟩
        exact withTail_scheme _ _
      · cases read
        exact withTail_scheme _ _
      · cases read
        exact withTail_scheme _ _

/-- The authority of a URL of the web is the one in its text. -/
theorem ofChars_authority {text scheme rest inside : List Char} {url : Url}
    (split : splitScheme? (significant text) = some (scheme, rest))
    (found : authorityIn? scheme rest = some inside)
    (web : (isSpecial scheme && !isFileScheme scheme) = true) (read : ofChars text = .ok url) :
    ∃ authority, readAuthority scheme inside = .ok authority ∧ url.username = authority.username ∧
      url.password = authority.password ∧ url.host = some authority.host ∧
      url.port = authority.port := by
  rw [authorityIn?, if_pos web, Option.some.injEq] at found
  simp only [Bool.and_eq_true, Bool.not_eq_true'] at web
  rw [ofChars, split] at read
  dsimp only at read
  rw [if_neg (by simp [web.2]), if_pos web.1, found] at read
  rcases of_map_eq_ok read with ⟨authority, authorityRead, rfl⟩
  exact ⟨authority, authorityRead, withTail_authority _ _⟩

/-- A place below a URL of the web, where it can be read, is on the same host. -/
theorem ofChars_below_authority {text name : List Char} {base url : Url} (place : IsPlace name)
    (read : ofChars text = .ok base)
    (web : (isSpecial base.scheme && !isFileScheme base.scheme) = true)
    (readBelow : ofChars (below text ('/' :: name)) = .ok url) :
    url.scheme = base.scheme ∧ url.username = base.username ∧ url.password = base.password ∧
      url.host = base.host ∧ url.port = base.port := by
  rcases exists_ofChars_iff.mp ⟨base, read⟩ with ⟨scheme, rest, split, readable⟩
  rcases extends_below place split readable with ⟨rest', split', extended⟩
  have isScheme := ofChars_scheme split read
  rw [isScheme] at web ⊢
  refine ⟨ofChars_scheme split' readBelow, ?_⟩
  have fromBase := fun inside found => @ofChars_authority _ _ _ inside _ split found web read
  have fromBelow := fun inside found => @ofChars_authority _ _ _ inside _ split' found web readBelow
  generalize authorityIn? scheme rest = before at extended fromBase
  generalize authorityIn? scheme rest' = after at extended fromBelow
  cases extended with
  | closed openText closes closes' ends ends' =>
      rcases fromBase _ rfl with ⟨_, authorityRead, username, password, host, port⟩
      rcases fromBelow _ rfl with ⟨_, authorityRead', username', password', host', port'⟩
      rcases of_readAuthority_append openText closes authorityRead with ⟨told, toldRead, rfl⟩
      rcases of_readAuthority_append openText closes' authorityRead' with ⟨told', toldRead', rfl⟩
      rw [toldRead, Except.ok.injEq] at toldRead'
      subst toldRead'
      simp [username, password, host, port, username', password', host', port', Authority.followedBy]
  | opened openText =>
      have blank : ∀ c ∈ blankEnd text, isMargin c = true := fun c member => (of_mem_blankEnd member).1
      have openBoth := isOpen_append.mpr ⟨openText, isOpen_of_margin blank scheme⟩
      rcases fromBase _ rfl with ⟨_, authorityRead, username, password, host, port⟩
      rcases fromBelow _ rfl with ⟨_, authorityRead', username', password', host', port'⟩
      rcases of_readAuthority_append openBoth (closes_slash rfl scheme) authorityRead' with
        ⟨told, toldRead, rfl⟩
      have noBlanks : blankEnd text = [] := by
        by_contra blanks
        have takes := (readAuthority_append_blanks openText authorityRead blanks blank).mp ⟨_, toldRead⟩
        simp [takes.1] at web
      rw [noBlanks, List.append_nil, authorityRead, Except.ok.injEq] at toldRead
      subst toldRead
      simp [username, password, host, port, username', password', host', port', Authority.followedBy]
  | outside noWeb slashes placed => simp [noWeb] at web

end NodeConsole.Url
