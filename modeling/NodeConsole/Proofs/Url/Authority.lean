import Mathlib.Data.List.TakeWhile
import Mathlib.Tactic.ByContra
import NodeConsole.Proofs.Url.HostEnds
import NodeConsole.Proofs.Url.ImpliedPort
/-!
Authorities with more text behind. A mark that ends an authority changes nothing about it, unless it is
a lone `@`. Blanks become a part of its host or of its port, and no host of the web can have them.
-/

namespace NodeConsole.Url

/-! ## Where an authority ends -/

def IsOpen (scheme text : List Char) : Prop :=
  ∀ c ∈ text, endsAuthority (isSpecial scheme) c = false

def Closes (scheme text : List Char) : Prop :=
  ∀ c, text.head? = some c → endsAuthority (isSpecial scheme) c = true

theorem takeWhile_eq_nil_of_head {p : Char → Bool} {text : List Char}
    (stops : ∀ c, text.head? = some c → p c = false) : text.takeWhile p = [] := by
  cases text with
  | nil => rfl
  | cons c rest => exact List.takeWhile_cons_of_neg (by simp [stops c rfl])

theorem dropWhile_eq_self_of_head {p : Char → Bool} {text : List Char}
    (stops : ∀ c, text.head? = some c → p c = false) : text.dropWhile p = text := by
  cases text with
  | nil => rfl
  | cons c rest => exact List.dropWhile_cons_of_neg (by simp [stops c rfl])

theorem closes_nil (scheme : List Char) : Closes scheme [] := by
  intro c head
  cases head

theorem takeWhile_append_closes {scheme text after : List Char} (openText : IsOpen scheme text)
    (closes : Closes scheme after) :
    (text ++ after).takeWhile (fun c => !endsAuthority (isSpecial scheme) c) = text := by
  rw [List.takeWhile_append_of_pos fun c member => by simp [openText c member],
    takeWhile_eq_nil_of_head fun c head => by simp [closes c head], List.append_nil]

theorem dropWhile_append_closes {scheme text after : List Char} (openText : IsOpen scheme text)
    (closes : Closes scheme after) :
    (text ++ after).dropWhile (fun c => !endsAuthority (isSpecial scheme) c) = after := by
  rw [List.dropWhile_append_of_pos fun c member => by simp [openText c member],
    dropWhile_eq_self_of_head fun c head => by simp [closes c head]]

/-! ## Credentials -/

theorem splitCredentials?_of_not_mem {text : List Char} (unmarked : '@' ∉ text) :
    splitCredentials? text = none := by
  simp [splitCredentials?, unmarked]

theorem splitCredentials?_append {host : List Char} (unmarked : '@' ∉ host)
    (credentials : List Char) :
    splitCredentials? (credentials ++ '@' :: host) = some (credentials, host) := by
  have stays : ∀ c ∈ host.reverse, (c != '@') = true := by
    intro c member
    rw [List.mem_reverse] at member
    simp only [bne_iff_ne, ne_eq]
    rintro rfl
    exact unmarked member
  have after : ((credentials ++ '@' :: host).reverse.takeWhile (· != '@')).reverse = host := by
    rw [List.reverse_append, List.reverse_cons, List.append_assoc,
      List.takeWhile_append_of_pos stays]
    simp
  rw [splitCredentials?, if_pos (by simp)]
  dsimp only
  have size : (credentials ++ '@' :: host).length - host.length - 1 = credentials.length := by
    rw [List.length_append, List.length_cons]
    omega
  rw [after, size, List.take_left]

theorem splitCredentials?_cases (text : List Char) :
    (splitCredentials? text = none ∧ '@' ∉ text) ∨
      ∃ credentials host, splitCredentials? text = some (credentials, host) ∧
        text = credentials ++ '@' :: host ∧ '@' ∉ host := by
  by_cases marked : '@' ∈ text
  · rcases List.eq_append_cons_of_mem (List.mem_reverse.mpr marked) with ⟨back, front, parts, unmarked⟩
    have whole : text = front.reverse ++ '@' :: back.reverse := by
      have reversed := congrArg List.reverse parts
      simpa using reversed
    have unmarked : '@' ∉ back.reverse := by simpa using unmarked
    refine .inr ⟨front.reverse, back.reverse, ?_, whole, unmarked⟩
    rw [whole, splitCredentials?_append unmarked]
  · exact .inl ⟨splitCredentials?_of_not_mem marked, marked⟩

/-- What is put behind an authority is put behind its host. -/
theorem splitCredentials?_append_host {more : List Char} (unmarked : '@' ∉ more)
    (text : List Char) :
    splitCredentials? (text ++ more) =
      (splitCredentials? text).map fun parts => (parts.1, parts.2 ++ more) := by
  rcases splitCredentials?_cases text with ⟨none, noMark⟩ | ⟨credentials, host, split, whole, noMark⟩
  · rw [none]
    exact splitCredentials?_of_not_mem (by simp [noMark, unmarked])
  · rw [split, whole, List.append_assoc, List.cons_append]
    exact splitCredentials?_append (by simp [noMark, unmarked]) credentials

/-! ## What follows an authority -/

def Authority.followedBy (authority : Authority) (after : List Char) : Authority :=
  { authority with rest := authority.rest ++ after }

/-- What follows an authority changes nothing about it, unless it is a lone mark of credentials. -/
theorem readAuthority_append {scheme text after : List Char} (openText : IsOpen scheme text)
    (closes : Closes scheme after) :
    readAuthority scheme (text ++ after) =
      if text = ['@'] ∧ after ≠ [] then .error .emptyHost
      else (readAuthority scheme text).map (·.followedBy after) := by
  have taken := takeWhile_append_closes openText closes
  have dropped := dropWhile_append_closes openText closes
  have alone := takeWhile_append_closes openText (closes_nil scheme)
  have nothing := dropWhile_append_closes openText (closes_nil scheme)
  rw [List.append_nil] at alone nothing
  rw [readAuthority, readAuthority]
  dsimp only
  rw [taken, dropped, alone, nothing]
  rcases splitCredentials?_cases text with ⟨noCredentials, unmarked⟩ | ⟨credentials, host, split, whole, _⟩
  · have notLone : text ≠ ['@'] := by
      rintro rfl
      simp at unmarked
    rw [noCredentials, if_neg (fun lone => notLone lone.1)]
    dsimp only
    cases readHost scheme text with
    | error error => rfl
    | ok read => simp [Except.map, Authority.followedBy, bind, Except.bind]
  · have lone : text = ['@'] ↔ credentials = [] ∧ host = [] := by
      rw [whole, List.append_eq_singleton_iff]
      simp
    rw [split]
    dsimp only
    by_cases dropsHost : text = ['@'] ∧ after ≠ []
    · rcases lone.mp dropsHost.1 with ⟨rfl, rfl⟩
      simp [dropsHost]
    · have kept : (credentials.isEmpty && host.isEmpty && !after.isEmpty) = false := by
        rw [lone] at dropsHost
        simpa [and_assoc] using dropsHost
      rw [kept, if_neg dropsHost]
      simp only [List.isEmpty_nil, Bool.not_true, Bool.and_false, Bool.false_eq_true, if_false]
      cases readHost scheme host with
      | error error => rfl
      | ok read =>
          simp only [bind, Except.bind]
          split
          · rfl
          · simp [Except.map, Authority.followedBy]

theorem of_readAuthority_append {scheme text after : List Char} {authority : Authority}
    (openText : IsOpen scheme text) (closes : Closes scheme after)
    (read : readAuthority scheme (text ++ after) = .ok authority) :
    ∃ told, readAuthority scheme text = .ok told ∧ authority = told.followedBy after := by
  rw [readAuthority_append openText closes] at read
  split at read
  · cases read
  · exact of_map_eq_ok read

/-! ## Hosts with blanks behind -/

theorem splitHost_append {more : List Char} (noPort : ':' ∉ more) (inBrackets : Bool)
    (text : List Char) :
    splitHost inBrackets (text ++ more) =
      if (splitHost inBrackets text).2 = [] then (text ++ more, [])
      else ((splitHost inBrackets text).1, (splitHost inBrackets text).2 ++ more) := by
  induction text generalizing inBrackets with
  | nil =>
      induction more generalizing inBrackets with
      | nil => rfl
      | cons c rest induction =>
          have notMark : (c == ':' && !inBrackets) = false := by
            have different : c ≠ ':' := fun same => noPort (by simp [same])
            simp [different]
          simp only [List.nil_append, splitHost, if_true] at induction ⊢
          rw [notMark, induction (fun member => noPort (List.mem_cons_of_mem _ member))]
          rfl
  | cons c rest induction =>
      rw [List.cons_append, splitHost, splitHost]
      split
      · simp
      · dsimp only
        rw [induction]
        split <;> simp_all

theorem splitHost_parts (inBrackets : Bool) (text : List Char) :
    (splitHost inBrackets text).1 ++ (splitHost inBrackets text).2 = text := by
  induction text generalizing inBrackets with
  | nil => rfl
  | cons c rest induction =>
      rw [splitHost]
      split
      · rfl
      · exact congrArg (c :: ·) (induction _)

theorem head?_splitHost (inBrackets : Bool) (text : List Char) {c : Char}
    (head : (splitHost inBrackets text).2.head? = some c) : c = ':' := by
  induction text generalizing inBrackets with
  | nil => cases head
  | cons first rest induction =>
      rw [splitHost] at head
      split at head
      · next mark =>
        simp only [Bool.and_eq_true, beq_iff_eq] at mark
        cases head
        exact mark.1
      · exact induction _ head

theorem readPort_eq_error {scheme text : List Char} {c : Char} (member : c ∈ text)
    (noDigit : c.isDigit = false) (noBackslash : '\\' ∉ text) :
    readPort scheme text = .error .badPort := by
  have more : text.dropWhile Char.isDigit ≠ [] := by
    intro gone
    rw [List.dropWhile_eq_nil_iff.mp gone c member] at noDigit
    cases noDigit
  have head : (text.dropWhile Char.isDigit).head? ≠ some '\\' := by
    intro backslash
    exact noBackslash ((List.dropWhile_sublist _).mem (List.mem_of_mem_head? backslash))
  rw [readPort]
  cases naturalIn? 10 (text.takeWhile Char.isDigit) with
  | none => rfl
  | some port => simp [more, head]

/-- The port before a backslash does not depend on what follows that. -/
theorem readPort_backslash {digits : List Char} (allDigits : ∀ c ∈ digits, c.isDigit = true)
    (scheme after : List Char) :
    readPort scheme (digits ++ '\\' :: after) =
      (readPort scheme digits).map fun read => (read.1, '\\' :: after) := by
  have taken : (digits ++ '\\' :: after).takeWhile Char.isDigit = digits := by
    rw [List.takeWhile_append_of_pos allDigits, List.takeWhile_cons_of_neg (by decide),
      List.append_nil]
  have dropped : (digits ++ '\\' :: after).dropWhile Char.isDigit = '\\' :: after := by
    rw [List.dropWhile_append_of_pos allDigits, List.dropWhile_cons_of_neg (by decide)]
  have alone : digits.takeWhile Char.isDigit = digits := List.takeWhile_eq_self_iff.mpr allDigits
  have nothing : digits.dropWhile Char.isDigit = [] := List.dropWhile_eq_nil_iff.mpr allDigits
  rw [readPort, readPort, taken, dropped, alone, nothing]
  cases naturalIn? 10 digits with
  | none => rfl
  | some port =>
      have length : ('\\' :: after).length = (digits ++ '\\' :: after).length ↔
          ([] : List Char).length = digits.length := by
        rw [List.length_append, List.length_nil]
        omega
      have ends : ('\\' :: after).isEmpty || ('\\' :: after).head? == some '\\' := by simp
      by_cases high : 65535 < port
      · simp [high, Except.map]
      · simp only [ends, length, high, decide_false, Bool.not_true, Bool.or_self,
          Bool.false_eq_true, if_false]
        split <;> rfl

theorem readPort_parts {scheme text : List Char} {read : Option Nat × List Char}
    (portRead : readPort scheme text = .ok read) :
    (∀ c ∈ text, c.isDigit = true) ∨
      ∃ digits after, text = digits ++ '\\' :: after ∧ ∀ c ∈ digits, c.isDigit = true := by
  have parts := List.takeWhile_append_dropWhile (p := Char.isDigit) (l := text)
  have digits : ∀ c ∈ text.takeWhile Char.isDigit, c.isDigit = true :=
    fun _ member => List.mem_takeWhile_imp member
  rw [readPort] at portRead
  cases left : text.dropWhile Char.isDigit with
  | nil => exact .inl (List.dropWhile_eq_nil_iff.mp left)
  | cons c after =>
      rw [left] at portRead parts
      have isBackslash : c = '\\' := by
        by_cases same : c = '\\'
        · exact same
        · cases number : naturalIn? 10 (text.takeWhile Char.isDigit) <;>
            simp [number, same] at portRead
      exact .inr ⟨_, after, by rw [← isBackslash, parts], digits⟩

theorem isDigit_of_isMargin {c : Char} (blank : isMargin c = true) : c.isDigit = false := by
  simp only [isMargin, decide_eq_true_eq] at blank
  simp only [Char.isDigit, Bool.and_eq_false_iff, decide_eq_false_iff_not, UInt32.not_le]
  exact .inl (UInt32.lt_iff_toNat_lt.mpr (by simpa using Nat.lt_of_le_of_lt blank (by decide)))

theorem readPort_append_blanks {text blanks : List Char} (present : blanks ≠ [])
    (blank : ∀ c ∈ blanks, isMargin c = true) (noBackslash : '\\' ∉ text) (scheme : List Char) :
    readPort scheme (text ++ blanks) = .error .badPort := by
  rcases List.exists_mem_of_ne_nil blanks present with ⟨last, member⟩
  refine readPort_eq_error (List.mem_append_right text member)
    (isDigit_of_isMargin (blank last member)) fun backslash => ?_
  rcases List.mem_append.mp backslash with inText | inBlanks
  · exact noBackslash inText
  · cases blank _ inBlanks

theorem readPort_append {scheme text rest : List Char} {port : Option Nat}
    (read : readPort scheme text = .ok (port, rest)) (backslash : '\\' ∈ text) (more : List Char) :
    ∃ rest, readPort scheme (text ++ more) = .ok (port, rest) := by
  rcases readPort_parts read with digits | ⟨digits, after, rfl, allDigits⟩
  · exact absurd (digits _ backslash) (by decide)
  · rw [readPort_backslash allDigits] at read
    rw [List.append_assoc, List.cons_append, readPort_backslash allDigits]
    cases told : readPort scheme digits with
    | error error =>
        rw [told] at read
        cases read
    | ok read' =>
        rw [told] at read
        cases read
        exact ⟨_, rfl⟩

theorem readHost_eq (scheme text : List Char) :
    readHost scheme text =
      if (splitHost false text).1.isEmpty && isSpecial scheme then .error .emptyHost
      else
        (if isSpecial scheme then Host.ofSpecial (splitHost false text).1
          else Host.ofText (splitHost false text).1) >>= fun host =>
        match (splitHost false text).2 with
        | [] => .ok (host, none, [])
        | _ :: after =>
          if (splitHost false text).1.isEmpty then .error .emptyHost
          else readPort scheme after >>= fun read => .ok (host, read.1, read.2) := by
  rw [readHost]
  cases isSpecial scheme <;> rfl

/-! ### Blanks -/

/-- Whether blanks behind a host can be part of it: not on the web, and elsewhere either behind the
backslash that ends its port or in a name of which no character is forbidden. -/
def TakesBlanks (scheme host blanks : List Char) : Prop :=
  isSpecial scheme = false ∧
    ('\\' ∈ (splitHost false host).2 ∨ ∀ c ∈ host ++ blanks, Host.isForbidden c = false)

instance (scheme host blanks : List Char) : Decidable (TakesBlanks scheme host blanks) :=
  inferInstanceAs (Decidable (_ ∧ _))

theorem splitHost_port {text after : List Char} {c : Char}
    (left : (splitHost false text).2 = c :: after) : c = ':' ∧ ':' ∈ text := by
  have mark : c = ':' := head?_splitHost false text (by rw [left, List.head?_cons])
  refine ⟨mark, ?_⟩
  rw [← splitHost_parts false text, left, mark]
  simp

theorem TakesBlanks.backslash {scheme text blanks after : List Char} {c : Char}
    (takes : TakesBlanks scheme text blanks) (left : (splitHost false text).2 = c :: after) :
    '\\' ∈ after := by
  rcases splitHost_port left with ⟨mark, port⟩
  rcases takes.2 with backslash | allowed
  · rw [left, List.mem_cons, mark] at backslash
    exact backslash.resolve_left (by decide)
  · exact absurd (allowed ':' (List.mem_append_left _ port)) (by decide)

theorem readHost_append {scheme text rest blanks : List Char} {host : Host} {port : Option Nat}
    (read : readHost scheme text = .ok (host, port, rest)) (present : blanks ≠ [])
    (blank : ∀ c ∈ blanks, isMargin c = true) (takes : TakesBlanks scheme text blanks) :
    ∃ host' port rest, readHost scheme (text ++ blanks) = .ok (host', port, rest) ∧
      (host' = .named [] → host = .named []) := by
  have noPort : ':' ∉ blanks := fun member => absurd (blank _ member) (by decide)
  have other : isSpecial scheme = false := takes.1
  rw [readHost_eq] at read ⊢
  rw [splitHost_append noPort]
  simp only [other, Bool.and_false, Bool.false_eq_true, if_false] at read ⊢
  cases left : (splitHost false text).2 with
  | nil =>
      have allowed : ∀ c ∈ text ++ blanks, Host.isForbidden c = false := by
        rcases takes.2 with backslash | allowed
        · rw [left] at backslash
          cases backslash
        · exact allowed
      rw [if_pos rfl, Host.ofText_of_allowed allowed]
      refine ⟨_, _, _, rfl, ?_⟩
      intro empty
      rw [Host.named.injEq, percentEncode_eq_nil_iff] at empty
      exact absurd (List.append_eq_nil_iff.mp empty).2 present
  | cons c after =>
      rw [left] at read
      rw [if_neg (List.cons_ne_nil c after)]
      rcases bind_eq_ok read with ⟨readHost, hostRead, behind⟩
      dsimp only at behind ⊢
      rw [hostRead]
      split at behind
      · cases behind
      · next named =>
        rcases bind_eq_ok behind with ⟨⟨told, more⟩, portRead, same⟩
        rcases readPort_append portRead (takes.backslash left) blanks with ⟨more', portRead⟩
        cases same
        refine ⟨host, told, more', ?_, id⟩
        simp [named, portRead, bind, Except.bind]

theorem ofText_append_eq_error {scheme text blanks : List Char} (present : blanks ≠ [])
    (blank : ∀ c ∈ blanks, isMargin c = true) (refuses : ¬TakesBlanks scheme text blanks) :
    ∃ error, (if isSpecial scheme then Host.ofSpecial (text ++ blanks)
      else Host.ofText (text ++ blanks)) = .error error := by
  rcases List.eq_nil_or_concat blanks with none | ⟨init, last, ends⟩
  · exact absurd none present
  rw [List.concat_eq_append] at ends
  have lastBlank : isMargin last = true := blank last (by simp [ends])
  have notClosing : last ≠ ']' := by
    rintro rfl
    cases lastBlank
  rw [ends, ← List.append_assoc]
  cases special : isSpecial scheme with
  | true =>
      refine Host.ofSpecial_append_forbidden _ ?_ notClosing
      simp only [isMargin, decide_eq_true_eq] at lastBlank
      simp [Domain.isForbidden, lastBlank]
  | false =>
      have forbidden : ∃ c ∈ text ++ blanks, Host.isForbidden c = true := by
        by_cases allowed : ∀ c ∈ text ++ blanks, Host.isForbidden c = false
        · exact absurd ⟨special, .inr allowed⟩ refuses
        · simpa only [not_forall, Bool.not_eq_false, exists_prop] using allowed
      rcases forbidden with ⟨c, member, forbidden⟩
      rw [ends, ← List.append_assoc] at member
      exact Host.ofText_append_of_forbidden notClosing member forbidden

theorem readHost_append_eq_error {scheme text blanks : List Char} (openText : IsOpen scheme text)
    (present : blanks ≠ []) (blank : ∀ c ∈ blanks, isMargin c = true)
    (refuses : ¬TakesBlanks scheme text blanks) :
    ∃ error, readHost scheme (text ++ blanks) = .error error := by
  have noPort : ':' ∉ blanks := fun member => absurd (blank _ member) (by decide)
  rw [readHost_eq, splitHost_append noPort]
  cases left : (splitHost false text).2 with
  | nil =>
      rcases ofText_append_eq_error present blank refuses with ⟨error, failed⟩
      refine ⟨error, ?_⟩
      rw [if_pos rfl, if_neg (by simp [present]), failed]
      rfl
  | cons c after =>
      have inPort : ∀ c ∈ after, c ∈ text := by
        intro c member
        rw [← splitHost_parts false text, left]
        simp [member]
      have noBackslash : '\\' ∉ after := by
        intro member
        cases special : isSpecial scheme with
        | true =>
            have ends := openText _ (inPort _ member)
            rw [special] at ends
            cases ends
        | false => exact refuses ⟨special, .inl (by simp [left, member])⟩
      have badPort := readPort_append_blanks present blank noBackslash scheme
      rw [if_neg (List.cons_ne_nil c after)]
      dsimp only
      split
      · exact ⟨_, rfl⟩
      · cases (if isSpecial scheme then Host.ofSpecial (splitHost false text).1
          else Host.ofText (splitHost false text).1) with
        | error error => exact ⟨error, rfl⟩
        | ok host =>
            simp only [List.cons_append, bind, Except.bind, badPort]
            split <;> exact ⟨_, rfl⟩

/-! ## Authorities with blanks behind -/

def hostPart (text : List Char) : List Char :=
  ((splitCredentials? text).map (·.2)).getD text

theorem readAuthority_of_none {scheme text : List Char} (openText : IsOpen scheme text)
    (noCredentials : splitCredentials? text = none) :
    readAuthority scheme text =
      (readHost scheme text).map fun read => ⟨[], none, read.1, read.2.1, read.2.2⟩ := by
  have taken := takeWhile_append_closes openText (closes_nil scheme)
  have dropped := dropWhile_append_closes openText (closes_nil scheme)
  rw [List.append_nil] at taken dropped
  rw [readAuthority]
  dsimp only
  rw [taken, dropped, noCredentials]
  cases readHost scheme text <;> simp [Except.map, bind, Except.bind]

theorem readAuthority_of_some {scheme text credentials host : List Char}
    (openText : IsOpen scheme text)
    (split : splitCredentials? text = some (credentials, host)) :
    readAuthority scheme text =
      readHost scheme host >>= fun read =>
        if read.1 = .named [] ∧
            ((readCredentials credentials).1 ≠ [] ∨ (readCredentials credentials).2.isSome) then
          .error .emptyHost
        else
          .ok ⟨(readCredentials credentials).1, (readCredentials credentials).2, read.1, read.2.1,
            read.2.2⟩ := by
  have taken := takeWhile_append_closes openText (closes_nil scheme)
  have dropped := dropWhile_append_closes openText (closes_nil scheme)
  rw [List.append_nil] at taken dropped
  rw [readAuthority]
  dsimp only
  rw [taken, dropped, split]
  simp

theorem isOpen_append {scheme text more : List Char} :
    IsOpen scheme (text ++ more) ↔ IsOpen scheme text ∧ IsOpen scheme more :=
  List.forall_mem_append

theorem isOpen_of_margin {text : List Char} (blank : ∀ c ∈ text, isMargin c = true)
    (scheme : List Char) : IsOpen scheme text := by
  intro c member
  have low := blank c member
  by_contra ends
  simp only [endsAuthority, isSlash, endsPath, Bool.not_eq_false, Bool.or_eq_true,
    Bool.and_eq_true, beq_iff_eq] at ends
  rcases ends with (rfl | ⟨_, rfl⟩) | (rfl | rfl) <;> cases low

theorem hostPart_of_none {text : List Char} (noCredentials : splitCredentials? text = none) :
    hostPart text = text := by
  rw [hostPart, noCredentials]
  rfl

theorem hostPart_of_some {text credentials host : List Char}
    (split : splitCredentials? text = some (credentials, host)) : hostPart text = host := by
  rw [hostPart, split]
  rfl

theorem hostPart_append {more : List Char} (unmarked : '@' ∉ more) (text : List Char) :
    hostPart (text ++ more) = hostPart text ++ more := by
  have both := splitCredentials?_append_host unmarked text
  cases split : splitCredentials? text with
  | none =>
      rw [split] at both
      rw [hostPart_of_none both, hostPart_of_none split]
  | some parts =>
      rw [split] at both
      rw [hostPart_of_some both, hostPart_of_some split]

theorem isOpen_hostPart {scheme text : List Char} (openText : IsOpen scheme text) :
    IsOpen scheme (hostPart text) := by
  rcases splitCredentials?_cases text with ⟨none, _⟩ | ⟨credentials, host, split, whole, _⟩
  · rwa [hostPart_of_none none]
  · rw [hostPart_of_some split]
    intro c member
    exact openText c (by simp [whole, member])

theorem readAuthority_of_readHost_eq_error {scheme text : List Char} {error : Error}
    (openText : IsOpen scheme text) (failed : readHost scheme (hostPart text) = .error error) :
    readAuthority scheme text = .error error := by
  cases split : splitCredentials? text with
  | none =>
      rw [hostPart_of_none split] at failed
      rw [readAuthority_of_none openText split, failed]
      rfl
  | some parts =>
      rw [hostPart_of_some split] at failed
      rw [readAuthority_of_some openText split, failed]
      rfl

/-- An authority can be read with the blanks that its host takes: they do not empty the host. -/
theorem exists_readAuthority_append {scheme text blanks : List Char} {authority : Authority}
    (openText : IsOpen scheme text) (read : readAuthority scheme text = .ok authority)
    (present : blanks ≠ []) (blank : ∀ c ∈ blanks, isMargin c = true)
    (takes : TakesBlanks scheme (hostPart text) blanks) :
    ∃ authority, readAuthority scheme (text ++ blanks) = .ok authority := by
  have noMark : '@' ∉ blanks := fun member => absurd (blank _ member) (by decide)
  have openBoth := isOpen_append.mpr ⟨openText, isOpen_of_margin blank scheme⟩
  have both := splitCredentials?_append_host noMark text
  cases split : splitCredentials? text with
  | none =>
      rw [hostPart_of_none split] at takes
      rw [readAuthority_of_none openText split] at read
      rcases of_map_eq_ok read with ⟨_, hostRead, _⟩
      rcases readHost_append hostRead present blank takes with ⟨_, _, _, hostBoth, _⟩
      rw [split] at both
      rw [readAuthority_of_none openBoth both, hostBoth]
      exact ⟨_, rfl⟩
  | some parts =>
      rw [hostPart_of_some split] at takes
      rw [readAuthority_of_some openText split] at read
      rcases bind_eq_ok read with ⟨_, hostRead, checked⟩
      rcases readHost_append hostRead present blank takes with ⟨host', _, _, hostBoth, named⟩
      -- Credentials need a host, and a host that has blanks is there.
      have kept : ¬(host' = .named [] ∧ ((readCredentials parts.1).1 ≠ [] ∨
          (readCredentials parts.1).2.isSome)) := by
        rintro ⟨empty, some⟩
        rw [if_pos ⟨named empty, some⟩] at checked
        cases checked
      rw [split] at both
      rw [readAuthority_of_some openBoth both, hostBoth]
      exact ⟨_, if_neg kept⟩

/-- Blanks behind an authority are behind its host, which takes them or does not. -/
theorem readAuthority_append_blanks {scheme text blanks : List Char} {authority : Authority}
    (openText : IsOpen scheme text) (read : readAuthority scheme text = .ok authority)
    (present : blanks ≠ []) (blank : ∀ c ∈ blanks, isMargin c = true) :
    (∃ authority, readAuthority scheme (text ++ blanks) = .ok authority) ↔
      TakesBlanks scheme (hostPart text) blanks := by
  by_cases takes : TakesBlanks scheme (hostPart text) blanks
  · exact iff_of_true (exists_readAuthority_append openText read present blank takes) takes
  · have noMark : '@' ∉ blanks := fun member => absurd (blank _ member) (by decide)
    have openBoth := isOpen_append.mpr ⟨openText, isOpen_of_margin blank scheme⟩
    rcases readHost_append_eq_error (isOpen_hostPart openText) present blank takes with
      ⟨error, failed⟩
    rw [← hostPart_append noMark] at failed
    refine iff_of_false ?_ takes
    rw [readAuthority_of_readHost_eq_error openBoth failed]
    rintro ⟨_, ⟨⟩⟩

end NodeConsole.Url
