import NodeConsole.Proofs.Text.Utf8
/-!
Texts in which no character is broken off. They are told byte by byte, from within a character too, so that
a text can be put together from pieces that do not end between characters.
-/

namespace NodeConsole.Utf8

/-- Bytes that, read on from where `pending` says, complete all of their characters. -/
inductive Reads : Option Pending → List UInt8 → Prop where
  | nil : Reads none []
  | cons {pending : Option Pending} {byte : UInt8} {rest : List UInt8}
      (unbroken : none ∉ (Progress.step ⟨pending, []⟩ byte).done)
      (later : Reads (Progress.step ⟨pending, []⟩ byte).pending rest) : Reads pending (byte :: rest)

theorem reads_cons_iff {pending : Option Pending} {byte : UInt8} {rest : List UInt8} :
    Reads pending (byte :: rest) ↔
      none ∉ (Progress.step ⟨pending, []⟩ byte).done ∧
        Reads (Progress.step ⟨pending, []⟩ byte).pending rest := by
  constructor
  · intro reads
    cases reads with
    | cons unbroken later => exact ⟨unbroken, later⟩
  · intro reads
    exact .cons reads.1 reads.2

/-! ## Whole texts -/

theorem start_done (done : List (Option Char)) (byte : UInt8) :
    Progress.start done byte = ⟨(Progress.start [] byte).pending, (Progress.start [] byte).done ++ done⟩ := by
  rw [Progress.start, Progress.start]
  cases lead byte <;> rfl

/-- What was read before has no part in a step. -/
theorem step_done (pending : Option Pending) (done : List (Option Char)) (byte : UInt8) :
    Progress.step ⟨pending, done⟩ byte =
      ⟨(Progress.step ⟨pending, []⟩ byte).pending, (Progress.step ⟨pending, []⟩ byte).done ++ done⟩ := by
  cases pending with
  | none => exact start_done done byte
  | some pending =>
      rw [Progress.step, Progress.step]
      dsimp only
      split
      · split <;> rfl
      · rw [start_done (none :: done), start_done [none]]
        simp

theorem finish_foldl_iff (pending : Option Pending) (done : List (Option Char)) (text : List UInt8) :
    none ∉ (text.foldl Progress.step ⟨pending, done⟩).finish ↔ none ∉ done ∧ Reads pending text := by
  induction text generalizing pending done with
  | nil =>
      rw [List.foldl_nil, Progress.finish]
      cases pending with
      | none =>
          rw [List.mem_reverse]
          exact ⟨fun whole => ⟨whole, .nil⟩, fun whole => whole.1⟩
      | some pending =>
          constructor
          · intro whole
            exact absurd (List.mem_reverse.mpr List.mem_cons_self) whole
          · intro whole
            cases whole.2
  | cons byte rest induction =>
      rw [List.foldl_cons, step_done, induction, reads_cons_iff, List.mem_append, not_or]
      constructor
      · intro whole
        exact ⟨whole.1.2, whole.1.1, whole.2⟩
      · intro whole
        exact ⟨⟨whole.2.1, whole.1⟩, whole.2.2⟩

theorem mapM_id_eq_none_iff {entries : List (Option Char)} : entries.mapM id = none ↔ none ∈ entries := by
  induction entries with
  | nil => simp
  | cons entry rest induction =>
      cases entry with
      | none => simp
      | some c =>
          rw [List.mapM_cons, List.mem_cons, ← induction]
          cases rest.mapM id <;> simp

/-- A text is refused exactly if it breaks a character off. -/
theorem decode?_eq_none_iff {text : List UInt8} : decode? text = none ↔ ¬Reads none text := by
  have whole := finish_foldl_iff none [] text
  rw [decode?, mapM_id_eq_none_iff, characters]
  constructor
  · intro broken reads
    exact whole.mpr ⟨List.not_mem_nil, reads⟩ broken
  · intro refused
    apply Classical.byContradiction
    intro unbroken
    exact refused (whole.mp unbroken).2

/-! ## Pieces of texts -/

theorem Reads.append {pending : Option Pending} {front back : List UInt8} (reads : Reads pending front)
    (behind : Reads none back) : Reads pending (front ++ back) := by
  induction reads with
  | nil => exact behind
  | cons unbroken _ induction => exact .cons unbroken induction

theorem step_ascii {byte : UInt8} (ascii : byte.toNat < 0x80) :
    Progress.step ⟨none, []⟩ byte = ⟨none, [some (Char.ofNat byte.toNat)]⟩ := by
  simp [Progress.step, Progress.start, lead, ascii]

theorem reads_of_ascii {text : List UInt8} (ascii : ∀ byte ∈ text, byte.toNat < 0x80) : Reads none text := by
  induction text with
  | nil => exact .nil
  | cons byte rest induction =>
      have step := step_ascii (ascii byte (by simp))
      apply Reads.cons
      · rw [step]
        simp
      · rw [step]
        exact induction fun other member => ascii other (List.mem_cons_of_mem _ member)

theorem reads_encode_append_iff {c : Char} {rest : List UInt8} :
    Reads none (encode [c] ++ rest) ↔ Reads none rest := by
  have whole := finish_foldl_iff none [] (encode [c] ++ rest)
  rw [List.foldl_append, encode_singleton, foldl_step_utf8EncodeChar, finish_foldl_iff] at whole
  simpa [encode_singleton] using whole.symm

def Pending.Continues (pending : Pending) : Prop :=
  0x80 ≤ pending.low ∧ pending.high ≤ 0xBF

theorem continues_of_lead {byte : UInt8} {pending : Pending} (opens : lead byte = .opens pending) :
    pending.Continues := by
  rw [lead] at opens
  constructor
  · grind
  · grind

theorem continues_step (progress : Progress) (byte : UInt8) :
    ∀ pending ∈ (progress.step byte).pending, pending.Continues := by
  have started (done : List (Option Char)) :
      ∀ pending ∈ (Progress.start done byte).pending, pending.Continues := by
    intro pending waits
    rw [Progress.start] at waits
    cases kind : lead byte with
    | single c => simp [kind] at waits
    | stray => simp [kind] at waits
    | opens opened =>
        rw [kind, Option.mem_some] at waits
        rw [← waits]
        exact continues_of_lead kind
  rw [Progress.step]
  split
  · exact started _
  · split
    · split
      · intro pending waits
        cases waits
      · intro pending waits
        cases waits
        exact ⟨Nat.le_refl _, Nat.le_refl _⟩
    · exact started _

theorem Pending.Continues.broken {pending : Pending} (continues : pending.Continues) {byte : UInt8}
    (outside : byte.toNat < 0x80 ∨ 0xBF < byte.toNat) :
    none ∈ (Progress.step ⟨some pending, []⟩ byte).done := by
  have low := continues.1
  have high := continues.2
  have stops : ¬(pending.low ≤ byte.toNat ∧ byte.toNat ≤ pending.high) := by omega
  rw [Progress.step]
  dsimp only
  rw [if_neg stops, start_done]
  exact List.mem_append_right _ List.mem_cons_self

theorem exists_encode_cons (c : Char) :
    ∃ first more, encode [c] = first :: more ∧ (first.toNat < 0x80 ∨ 0xBF < first.toNat) := by
  have lies (n : Nat) (least : 0xC0 ≤ n) (bound : n < 0x100) : 0xBF < (UInt8.ofNat n).toNat := by
    rw [UInt8.toNat_ofNat', Nat.mod_eq_of_lt bound]
    exact least
  rw [encode_singleton]
  by_cases ascii : c.toNat < 0x80
  · refine ⟨UInt8.ofNat c.toNat, [], utf8EncodeChar_of_lt ascii, .inl ?_⟩
    rw [UInt8.toNat_ofNat']
    omega
  · have several : ¬c.val.toNat ≤ 127 := fun single => ascii (Nat.lt_succ_of_le single)
    simp only [String.utf8EncodeChar, if_neg several]
    split
    · exact ⟨_, _, rfl, .inr (lies _ (by omega) (by omega))⟩
    · split
      · exact ⟨_, _, rfl, .inr (lies _ (by omega) (by omega))⟩
      · exact ⟨_, _, rfl, .inr (lies _ (by omega) (by omega))⟩

/-- A character starts between two others. -/
theorem Reads.of_encode_append {pending : Option Pending} {c : Char} {rest : List UInt8}
    (continues : ∀ inside ∈ pending, inside.Continues) (reads : Reads pending (encode [c] ++ rest)) :
    pending = none ∧ Reads none rest := by
  cases pending with
  | none => exact ⟨rfl, reads_encode_append_iff.mp reads⟩
  | some inside =>
      rcases exists_encode_cons c with ⟨first, more, same, outside⟩
      rw [same, List.cons_append, reads_cons_iff] at reads
      exact absurd ((continues inside rfl).broken outside) reads.1

end NodeConsole.Utf8
