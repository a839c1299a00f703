import Mathlib.Data.List.Basic
import NodeConsole.Proofs.Url.PathSegments
import NodeConsole.Proofs.Url.WebTexts
/-!
What hosts of the web are written with: characters of ASCII that no name is refused for, and the marks of
addresses. Labels in other scripts are written with letters, digits and hyphens.
-/

namespace NodeConsole.Url

def isHostChar (c : Char) : Bool :=
  c.toNat < 0x80 && (!Domain.isForbidden c || "[:]".toList.contains c)

theorem isHostChar_of_plain {c : Char} (ascii : Domain.isAscii c = true)
    (allowed : Domain.isForbidden c = false) : isHostChar c = true := by
  rw [Domain.isAscii] at ascii
  rw [isHostChar, ascii, allowed]
  rfl

/-! ## Names -/

theorem mem_of_mem_piecesAt {separates : Char → Bool} {text piece : List Char} {c : Char}
    (member : piece ∈ piecesAt separates text) (inside : c ∈ piece) : c ∈ text := by
  induction text generalizing piece with
  | nil =>
      rw [piecesAt, List.mem_singleton] at member
      rw [member] at inside
      exact inside
  | cons head rest induction =>
      rw [piecesAt] at member
      cases cut : piecesAt separates rest with
      | nil =>
          rw [cut, List.mem_singleton] at member
          rw [member, List.mem_singleton] at inside
          rw [inside]
          exact List.mem_cons_self
      | cons first others =>
          rw [cut] at member induction
          dsimp only at member
          split at member
          · rcases List.mem_cons.mp member with rfl | later
            · cases inside
            · exact List.mem_cons_of_mem _ (induction later inside)
          · rcases List.mem_cons.mp member with rfl | later
            · rcases List.mem_cons.mp inside with rfl | deeper
              · exact List.mem_cons_self
              · exact List.mem_cons_of_mem _ (induction List.mem_cons_self deeper)
            · exact List.mem_cons_of_mem _ (induction (List.mem_cons_of_mem _ later) inside)

namespace Domain

theorem isHostChar_labelDigit : ∀ n < 36, isHostChar (labelDigit n) = true := by
  decide

theorem isHostChar_distanceDigits (bias weight distance : Nat) :
    ∀ c ∈ distanceDigits bias weight distance, isHostChar c = true := by
  fun_induction distanceDigits bias weight distance with
  | case1 weight distance t last =>
      have low : t ≤ 26 := threshold_le weight bias
      rw [List.forall_mem_singleton]
      exact isHostChar_labelDigit distance (by omega)
  | case2 weight distance t more induction =>
      have low : t ≤ 26 := threshold_le weight bias
      have digit : (distance - t) % (36 - t) < 36 - t := Nat.mod_lt _ (by omega)
      rw [List.forall_mem_cons]
      exact ⟨isHostChar_labelDigit _ (by omega), induction⟩

def Placing.IsPlain (placing : Placing) : Prop :=
  ∀ c ∈ placing.digits, isHostChar c = true

theorem Placing.IsPlain.pass {placing : Placing} (plain : placing.IsPlain) (n : Nat) :
    (placing.pass n).IsPlain := by
  rw [Placing.pass]
  split
  · exact plain
  · split
    · rw [IsPlain, List.forall_mem_append]
      refine ⟨fun c digit => ?_, plain⟩
      exact isHostChar_distanceDigits _ _ _ c (List.mem_reverse.mp digit)
    · exact plain

theorem Placing.IsPlain.place {placing : Placing} (plain : placing.IsPlain) (label : List Nat) (n : Nat) :
    (placing.place label n).IsPlain := by
  apply List.foldlRecOn (motive := Placing.IsPlain) label Placing.pass
  · exact plain
  · exact fun _ plain n _ => plain.pass n

theorem isHostChar_punycode {label : List Char}
    (plain : ∀ c ∈ label, isAscii c = true → isHostChar c = true) :
    ∀ c ∈ punycode label, isHostChar c = true := by
  rw [punycode, List.forall_mem_append, List.forall_mem_append]
  refine ⟨⟨fun c basic => ?_, ?_⟩, fun c digit => ?_⟩
  · have kept := List.mem_filter.mp basic
    exact plain c kept.1 kept.2
  · split
    · exact List.forall_mem_nil _
    · rw [List.forall_mem_singleton]
      decide
  · refine List.foldlRecOn (motive := Placing.IsPlain) (extendedPoints (label.map Char.toNat))
      (Placing.place (label.map Char.toNat)) ?_ ?_ c (List.mem_reverse.mp digit)
    · exact List.forall_mem_nil _
    · exact fun _ plain n _ => plain.place _ n

theorem eq_append_of_unmarked? {label rest : List Char} (marked : unmarked? label = some rest) :
    label = "xn--".toList ++ rest := by
  rw [unmarked?.eq_def] at marked
  split at marked
  · cases marked
    rfl
  · cases marked

/-- A label stays as it is, in ASCII, or is written with its mark. -/
theorem written_of_label? {label : List Char} {read : Label} (isLabel : label? label = some read) :
    (read.written = label ∧ label.all isAscii = true) ∨ read.written = "xn--".toList ++ punycode label := by
  rw [label?] at isLabel
  split at isLabel
  · next rest marked =>
    split at isLabel
    · cases isLabel
    · next ascii =>
      split at isLabel
      · cases isLabel
      · split at isLabel
        · cases isLabel
        · cases isLabel
          have marks : "xn--".toList.all isAscii = true := by decide
          have whole : label.all isAscii = true := by
            rw [eq_append_of_unmarked? marked, List.all_append, marks]
            simpa using ascii
          exact .inl ⟨rfl, whole⟩
  · split at isLabel
    · next ascii =>
      cases isLabel
      exact .inl ⟨rfl, ascii⟩
    · split at isLabel
      · cases isLabel
        exact .inr rfl
      · cases isLabel

theorem isHostChar_label? {label : List Char} {read : Label}
    (allowed : ∀ c ∈ label, isForbidden c = false) (isLabel : label? label = some read) :
    ∀ c ∈ read.written, isHostChar c = true := by
  have plain (c : Char) (inside : c ∈ label) (ascii : isAscii c = true) : isHostChar c = true :=
    isHostChar_of_plain ascii (allowed c inside)
  rcases written_of_label? isLabel with ⟨same, ascii⟩ | marked
  · rw [same]
    exact fun c inside => plain c inside (List.all_eq_true.mp ascii c inside)
  · have marks : ∀ c ∈ "xn--".toList, isHostChar c = true := by
      apply List.all_eq_true.mp
      decide
    rw [marked, List.forall_mem_append]
    exact ⟨marks, isHostChar_punycode plain⟩

theorem isHostChar_labels {pieces : List (List Char)} {labels : List Label}
    (allowed : ∀ piece ∈ pieces, ∀ c ∈ piece, isForbidden c = false)
    (read : pieces.mapM label? = some labels) :
    ∀ label ∈ labels, ∀ c ∈ label.written, isHostChar c = true := by
  induction pieces generalizing labels with
  | nil =>
      cases read
      exact List.forall_mem_nil _
  | cons piece rest induction =>
      rw [List.forall_mem_cons] at allowed
      simp only [List.mapM_cons, Option.bind_eq_bind, Option.bind_eq_some_iff, Option.pure_def,
        Option.some.injEq] at read
      rcases read with ⟨first, firstRead, others, othersRead, rfl⟩
      rw [List.forall_mem_cons]
      exact ⟨isHostChar_label? allowed.1 firstRead, induction allowed.2 othersRead⟩

theorem isHostChar_joinLabels {labels : List (List Char)}
    (written : ∀ label ∈ labels, ∀ c ∈ label, isHostChar c = true) :
    ∀ c ∈ joinLabels labels, isHostChar c = true := by
  fun_induction joinLabels labels with
  | case1 => exact List.forall_mem_nil _
  | case2 label => exact written label (List.mem_singleton_self label)
  | case3 label rest _ induction =>
      rw [List.forall_mem_cons] at written
      rw [List.forall_mem_append, List.forall_mem_cons]
      exact ⟨written.1, by decide, induction written.2⟩

/-- A name is read label by label, and nothing forbidden is in it once it is mapped. -/
theorem of_ascii?_eq_some {text name : List Char} (read : ascii? text = some name) :
    ∃ composed labels, (∀ c ∈ composed, isForbidden c = false) ∧
      (piecesAt (· == '.') composed).mapM label? = some labels ∧ name = joinLabels (labels.map (·.written)) := by
  rw [ascii?] at read
  split at read
  · cases read
  · next mapped _ =>
    dsimp only at read
    split at read
    · cases read
    · next allowed =>
      split at read
      · cases read
      · next labels labelsRead =>
        split at read
        · cases read
          exact ⟨compose mapped, labels, by simpa using allowed, labelsRead, rfl⟩
        · cases read

theorem isHostChar_ofHost {host name : List Char} (read : ofHost host = .ok name) :
    ∀ c ∈ name, isHostChar c = true := by
  rw [ofHost] at read
  split at read
  · cases read
  · cases read
  · next written =>
    cases read
    rcases Option.bind_eq_some_iff.mp written with ⟨text, _, isName⟩
    rcases of_ascii?_eq_some isName with ⟨composed, labels, allowed, labelsRead, rfl⟩
    apply isHostChar_joinLabels
    rw [List.forall_mem_map]
    apply isHostChar_labels _ labelsRead
    intro piece isPiece c inside
    exact allowed c (mem_of_mem_piecesAt isPiece inside)

end Domain

/-! ## Addresses -/

theorem isHostChar_toDigits {base : Nat} (base_pos : 1 < base) (low : base ≤ 16) (n : Nat) :
    ∀ c ∈ Nat.toDigits base n, isHostChar c = true := by
  have digit : ∀ n < 16, isHostChar (Nat.digitChar n) = true := by decide
  induction n using Nat.strongRecOn with
  | ind n induction =>
      rw [Nat.toDigits_eq_if base_pos]
      split
      · rw [List.forall_mem_singleton]
        exact digit n (by omega)
      · have less : n / base < n := Nat.div_lt_self (by omega) base_pos
        have last : n % base < base := Nat.mod_lt _ (by omega)
        rw [List.forall_mem_append, List.forall_mem_singleton]
        exact ⟨induction _ less, digit _ (by omega)⟩

theorem isHostChar_address4Chars (address : Nat) : ∀ c ∈ address4Chars address, isHostChar c = true := by
  have digits (n : Nat) : ∀ c ∈ decimalChars n, isHostChar c = true :=
    isHostChar_toDigits (by decide) (by decide) n
  have dot : isHostChar '.' = true := by decide
  simp only [address4Chars, List.forall_mem_append, List.forall_mem_cons]
  exact ⟨⟨⟨digits _, dot, digits _⟩, dot, digits _⟩, dot, digits _⟩

theorem isHostChar_pieceChars (pieces : List Nat) : ∀ c ∈ pieceChars pieces, isHostChar c = true := by
  have digits (n : Nat) : ∀ c ∈ hexChars n, isHostChar c = true :=
    isHostChar_toDigits (by decide) (by decide) n
  fun_induction pieceChars pieces with
  | case1 => exact List.forall_mem_nil _
  | case2 n => exact digits n
  | case3 n rest _ induction =>
      simp only [List.forall_mem_append, List.forall_mem_cons]
      exact ⟨digits n, by decide, induction⟩

theorem isHostChar_address6Chars (pieces : List Nat) :
    ∀ c ∈ address6Chars pieces, isHostChar c = true := by
  have colon : isHostChar ':' = true := by decide
  rw [address6Chars]
  split
  · exact isHostChar_pieceChars pieces
  · simp only [List.forall_mem_append, List.forall_mem_cons]
    exact ⟨isHostChar_pieceChars _, colon, colon, isHostChar_pieceChars _⟩

/-! ## Hosts -/

theorem Host.isHostChar_of_ofSpecial {text : List Char} {host : Host} (read : ofSpecial text = .ok host) :
    ∀ c ∈ host.chars, isHostChar c = true := by
  rw [ofSpecial.eq_def] at read
  split at read
  · rw [ofBrackets] at read
    split at read
    · split at read
      · next pieces _ =>
        cases read
        simp only [chars, List.cons_append, List.forall_mem_cons, List.forall_mem_append]
        exact ⟨by decide, isHostChar_address6Chars pieces, by decide, by simp⟩
      · cases read
    · cases read
  · rcases bind_eq_ok read with ⟨name, nameRead, behind⟩
    split at behind
    · split at behind
      · next address _ =>
        cases behind
        exact isHostChar_address4Chars address
      · cases behind
    · cases behind
      exact Domain.isHostChar_ofHost nameRead

/-- The host of a URL of the web has only characters that hosts are written with. -/
theorem isHostChar_of_host {text : List Char} {url : Url} (read : ofChars text = .ok url)
    (web : (isSpecial url.scheme && !isFileScheme url.scheme) = true) {host : Host}
    (isHost : url.host = some host) : ∀ c ∈ host.chars, isHostChar c = true := by
  rcases exists_ofSpecial read web with ⟨other, told, isOther, hostRead⟩
  rw [isHost] at isOther
  cases isOther
  exact Host.isHostChar_of_ofSpecial hostRead

end NodeConsole.Url
