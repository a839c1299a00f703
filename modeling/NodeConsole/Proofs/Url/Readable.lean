import NodeConsole.Proofs.Url.Authority
/-!
Which texts are URLs. Behind its scheme a text has an authority or none; it can be read exactly if its
authority can, and no path, query or fragment behind that is at fault.
-/

namespace NodeConsole.Url

/-! ## Schemes -/

theorem splitScheme?_eq_some_iff {text scheme rest : List Char} :
    splitScheme? text = some (scheme, rest) ↔
      ∃ name, text = name ++ ':' :: rest ∧ (∀ c ∈ name, isSchemeChar c = true) ∧
        name.head?.any Char.isAlpha = true ∧ scheme = name.map Char.toLower := by
  constructor
  · intro split
    have parts := List.takeWhile_append_dropWhile (p := isSchemeChar) (l := text)
    rw [splitScheme?] at split
    split at split
    · next rest' left =>
      split at split
      · next alpha =>
        cases split
        rw [left] at parts
        refine ⟨_, parts.symm, fun _ member => List.mem_takeWhile_imp member, ?_, rfl⟩
        cases name : text.takeWhile isSchemeChar with
        | nil =>
            rw [← parts, name] at alpha
            cases alpha
        | cons c more =>
            rw [← parts, name] at alpha
            exact alpha
      · cases split
    · cases split
  · rintro ⟨name, rfl, schemeChars, alpha, rfl⟩
    have left : (name ++ ':' :: rest).dropWhile isSchemeChar = ':' :: rest := by
      rw [List.dropWhile_append_of_pos schemeChars, List.dropWhile_cons_of_neg (by decide)]
    have taken : (name ++ ':' :: rest).takeWhile isSchemeChar = name := by
      rw [List.takeWhile_append_of_pos schemeChars, List.takeWhile_cons_of_neg (by decide),
        List.append_nil]
    have starts : (name ++ ':' :: rest).head?.any Char.isAlpha = true := by
      cases name with
      | nil => cases alpha
      | cons c more => exact alpha
    rw [splitScheme?, left, taken]
    exact if_pos starts

theorem splitScheme?_append {core slashes scheme rest : List Char}
    (onlySlashes : ∀ c ∈ slashes, c = '/')
    (split : splitScheme? (core ++ slashes) = some (scheme, rest)) :
    ∃ front, rest = front ++ slashes ∧
      ∀ more, splitScheme? (core ++ more) = some (scheme, front ++ more) := by
  rcases splitScheme?_eq_some_iff.mp split with ⟨name, whole, schemeChars, alpha, lower⟩
  have noColon : ':' ∉ slashes := fun member => absurd (onlySlashes _ member) (by decide)
  rcases List.append_eq_append_iff.mp whole with ⟨inside, rfl, after⟩ | ⟨front, rfl, after⟩
  · exact absurd (by simp [after]) noColon
  · cases front with
    | nil => exact absurd (by rw [List.nil_append] at after; simp [← after]) noColon
    | cons colon front =>
        rw [List.cons_append, List.cons.injEq] at after
        rcases after with ⟨rfl, rfl⟩
        refine ⟨front, rfl, fun more => splitScheme?_eq_some_iff.mpr ⟨name, ?_, schemeChars, alpha, lower⟩⟩
        simp

/-! ## Where an authority starts -/

def behindSlashes? (special : Bool) : List Char → Option (List Char)
  | first :: second :: inside =>
    if isSlash special first && isSlash special second then some inside else none
  | _ => none

theorem behindSlashes?_eq_some_iff {special : Bool} {text inside : List Char} :
    behindSlashes? special text = some inside ↔
      ∃ first second, text = first :: second :: inside ∧ isSlash special first = true ∧
        isSlash special second = true := by
  match text with
  | [] => simp [behindSlashes?]
  | [_] => simp [behindSlashes?]
  | first :: second :: rest =>
      simp only [behindSlashes?, Bool.and_eq_true, Option.ite_none_right_eq_some,
        Option.some.injEq, List.cons.injEq]
      grind

def authorityIn? (scheme rest : List Char) : Option (List Char) :=
  if isSpecial scheme && !isFileScheme scheme then some (rest.dropWhile (isSlash true))
  else behindSlashes? (isSpecial scheme) rest

def IsReadable (scheme inside : List Char) : Prop :=
  if isFileScheme scheme then
    let host := inside.takeWhile fun c => !endsAuthority (isSpecial scheme) c
    isDrive host = true ∨ host = [] ∨ ∃ read, Host.ofSpecial host = .ok read
  else ∃ authority, readAuthority scheme inside = .ok authority

theorem isSpecial_of_isFileScheme {scheme : List Char} (file : isFileScheme scheme = true) :
    isSpecial scheme = true := by
  rw [isSpecial, file, Bool.or_true]

theorem isWeb_of_isHttp {url : Url} (http : url.isHttp = true) :
    (isSpecial url.scheme && !isFileScheme url.scheme) = true := by
  rw [isHttp, Bool.or_eq_true, beq_iff_eq, beq_iff_eq] at http
  rcases http with plain | encrypted
  · rw [plain]
    decide
  · rw [encrypted]
    decide

theorem isSpecial_of_isHttp {url : Url} (http : url.isHttp = true) :
    isSpecial url.scheme = true :=
  (Bool.and_eq_true_iff.mp (isWeb_of_isHttp http)).1

/-- A file can be read if what stands in its authority can. -/
theorem exists_readFile_iff {scheme : List Char} (file : isFileScheme scheme = true)
    (rest : List Char) :
    (∃ url, readFile scheme rest = .ok url) ↔
      ∀ inside, authorityIn? scheme rest = some inside → IsReadable scheme inside := by
  have special := isSpecial_of_isFileScheme file
  simp only [authorityIn?, IsReadable, file, special, Bool.not_true, Bool.and_false,
    Bool.false_eq_true, if_false, if_true]
  match rest with
  | [] => exact iff_of_true ⟨_, rfl⟩ (by simp [behindSlashes?])
  | [_] => exact iff_of_true ⟨_, rfl⟩ (by simp [behindSlashes?])
  | first :: second :: inside =>
      rw [readFile, behindSlashes?]
      by_cases slashes : (isSlash true first && isSlash true second) = true
      · rw [if_pos slashes, if_pos slashes]
        simp only [Option.some.injEq, forall_eq']
        by_cases bare : (isDrive (inside.takeWhile fun c => !endsAuthority true c) ||
            (inside.takeWhile fun c => !endsAuthority true c).isEmpty) = true
        · rw [if_pos bare]
          rw [Bool.or_eq_true, List.isEmpty_iff] at bare
          exact iff_of_true ⟨_, rfl⟩ (bare.imp_right .inl)
        · rw [if_neg bare]
          rw [Bool.or_eq_true, List.isEmpty_iff, not_or] at bare
          cases Host.ofSpecial (inside.takeWhile fun c => !endsAuthority true c) with
          | error error => simp [bare, bind, Except.bind]
          | ok host =>
              simp only [bind, Except.bind]
              refine iff_of_true ?_ (.inr (.inr ⟨host, rfl⟩))
              split <;> exact ⟨_, rfl⟩
      · rw [if_neg slashes, if_neg slashes]
        exact iff_of_true ⟨_, rfl⟩ (by simp)

theorem exists_readOther_iff {scheme : List Char} (other : isSpecial scheme = false)
    (noFile : isFileScheme scheme = false) (rest : List Char) :
    (∃ url, readOther scheme rest = .ok url) ↔
      ∀ inside, authorityIn? scheme rest = some inside → IsReadable scheme inside := by
  simp only [authorityIn?, IsReadable, noFile, other, Bool.false_and, Bool.false_eq_true, if_false]
  rw [readOther.eq_def]
  split
  · rw [exists_map_ok_iff]
    simp [behindSlashes?, isSlash]
  · next noSecond =>
    refine iff_of_true ⟨_, rfl⟩ fun inside behind => ?_
    rcases behindSlashes?_eq_some_iff.mp behind with ⟨first, second, same, _, slash⟩
    cases same
    exact (noSecond inside (by simpa [isSlash] using slash)).elim
  · next noFirst =>
    refine iff_of_true ⟨_, rfl⟩ fun inside behind => ?_
    rcases behindSlashes?_eq_some_iff.mp behind with ⟨first, second, rfl, slash, _⟩
    have isMark : first = '/' := by simpa [isSlash] using slash
    exact (noFirst (second :: inside) (by rw [isMark])).elim

/-- A text can be read exactly if it has a scheme and what stands in its authority can. -/
theorem exists_ofChars_iff {text : List Char} :
    (∃ url, ofChars text = .ok url) ↔
      ∃ scheme rest, splitScheme? (significant text) = some (scheme, rest) ∧
        ∀ inside, authorityIn? scheme rest = some inside → IsReadable scheme inside := by
  rw [ofChars]
  cases split : splitScheme? (significant text) with
  | none => simp
  | some parts =>
      rcases parts with ⟨scheme, rest⟩
      have same : (∃ scheme' rest', some (scheme, rest) = some (scheme', rest') ∧
          ∀ inside, authorityIn? scheme' rest' = some inside → IsReadable scheme' inside) ↔
            ∀ inside, authorityIn? scheme rest = some inside → IsReadable scheme inside := by
        constructor
        · rintro ⟨_, _, ⟨⟩, readable⟩
          exact readable
        · exact fun readable => ⟨_, _, rfl, readable⟩
      rw [same]
      dsimp only
      cases file : isFileScheme scheme with
      | true => exact exists_readFile_iff file rest
      | false =>
          cases special : isSpecial scheme with
          | true =>
              have inWeb : authorityIn? scheme rest = some (rest.dropWhile (isSlash true)) := by
                simp [authorityIn?, special, file]
              rw [inWeb, if_neg Bool.false_ne_true, if_pos rfl, exists_map_ok_iff]
              simp [IsReadable, file]
          | false => exact exists_readOther_iff special file rest

/-! ## Reading on from an authority -/

theorem isReadable_file_iff {scheme text after : List Char} (file : isFileScheme scheme = true)
    (openText : IsOpen scheme text) (closes : Closes scheme after) :
    IsReadable scheme (text ++ after) ↔
      isDrive text = true ∨ text = [] ∨ ∃ read, Host.ofSpecial text = .ok read := by
  rw [IsReadable, if_pos file]
  dsimp only
  rw [takeWhile_append_closes openText closes]

theorem not_isReadable_file {scheme text : List Char} {c : Char}
    (file : isFileScheme scheme = true) (openText : IsOpen scheme (text ++ [c]))
    (forbidden : Domain.isForbidden c = true) (noMark : c ∉ [':', '|', ']']) :
    ¬IsReadable scheme (text ++ [c]) := by
  rw [← List.append_nil (text ++ [c]), isReadable_file_iff file openText (closes_nil scheme)]
  rintro (drive | empty | ⟨host, read⟩)
  · rw [isDrive.eq_def] at drive
    split at drive
    · next letter mark same =>
      have last := congrArg List.getLast? same
      simp only [List.getLast?_concat, List.getLast?_cons_cons, List.getLast?_singleton,
        Option.some.injEq] at last
      simp [last] at noMark
      simp [noMark] at drive
    · cases drive
  · simp at empty
  · rcases Host.ofSpecial_append_forbidden text forbidden (fun same => noMark (by simp [same])) with
      ⟨error, failed⟩
    rw [failed] at read
    cases read

/-- Whatever follows an authority, it can be read if that can, and is no lone mark. -/
theorem isReadable_append_iff {scheme text after : List Char} (openText : IsOpen scheme text)
    (closes : Closes scheme after) :
    IsReadable scheme (text ++ after) ↔ IsReadable scheme text ∧ ¬(text = ['@'] ∧ after ≠ []) := by
  cases file : isFileScheme scheme with
  | true =>
      have same : IsReadable scheme (text ++ after) ↔ IsReadable scheme text := by
        have alone := isReadable_file_iff file openText (closes_nil scheme)
        rw [List.append_nil] at alone
        rw [isReadable_file_iff file openText closes, alone]
      rw [same]
      refine (and_iff_left_of_imp ?_).symm
      rintro readable ⟨rfl, _⟩
      exact @not_isReadable_file scheme [] '@' file openText (by decide) (by decide) readable
  | false =>
      simp only [IsReadable, file, Bool.false_eq_true, if_false]
      rw [readAuthority_append openText closes]
      split
      · next lone => simp [lone]
      · next fine => rw [exists_map_ok_iff]; exact (and_iff_left fine).symm

theorem isReadable_append_blanks_iff {scheme text blanks : List Char}
    (openText : IsOpen scheme text) (readable : IsReadable scheme text) (present : blanks ≠ [])
    (blank : ∀ c ∈ blanks, isMargin c = true) :
    IsReadable scheme (text ++ blanks) ↔ TakesBlanks scheme (hostPart text) blanks := by
  cases file : isFileScheme scheme with
  | true =>
      have special := isSpecial_of_isFileScheme file
      refine iff_of_false ?_ fun takes => by simp [takes.1] at special
      have openBoth := isOpen_append.mpr ⟨openText, isOpen_of_margin blank scheme⟩
      rcases List.eq_nil_or_concat blanks with none | ⟨init, last, ends⟩
      · exact absurd none present
      rw [List.concat_eq_append] at ends
      have low : isMargin last = true := blank last (by simp [ends])
      rw [ends, ← List.append_assoc] at openBoth ⊢
      refine not_isReadable_file file openBoth ?_ ?_
      · simp only [isMargin, decide_eq_true_eq] at low
        simp [Domain.isForbidden, low]
      · intro mark
        simp only [List.mem_cons, List.not_mem_nil, or_false] at mark
        rcases mark with rfl | rfl | rfl <;> cases low
  | false =>
      simp only [IsReadable, file, Bool.false_eq_true, if_false] at readable ⊢
      rcases readable with ⟨authority, read⟩
      exact readAuthority_append_blanks openText read present blank

end NodeConsole.Url
