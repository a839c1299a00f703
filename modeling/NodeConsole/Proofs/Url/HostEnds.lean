import NodeConsole.Proofs.Text.Utf8
import NodeConsole.Url.Host
/-!
Hosts with a forbidden end. A control, a space or a mark at the end of a host is still there when the
host has been decoded, mapped and composed; since no name may hold one, no such text is a host of the
web.
-/

namespace NodeConsole

theorem mapM_concat {α β : Type} {read : α → Option β} {last : α} {value : β}
    (reads : read last = some value) (items : List α) :
    (items ++ [last]).mapM read = (items.mapM read).map (· ++ [value]) := by
  rw [List.mapM_append]
  cases items.mapM read <;> simp [reads]

end NodeConsole

namespace NodeConsole.Utf8

/-! ## Bytes of ASCII -/

def Progress.AwaitsHigh (progress : Progress) : Prop :=
  ∀ pending, progress.pending = some pending → 0x80 ≤ pending.low

theorem awaitsHigh_start (done : List (Option Char)) (byte : UInt8) :
    (Progress.start done byte).AwaitsHigh := by
  intro pending waits
  rw [Progress.start] at waits
  cases kind : lead byte with
  | single c => simp [kind] at waits
  | stray => simp [kind] at waits
  | opens opened =>
      rw [kind, Option.some.injEq] at waits
      subst waits
      rw [lead] at kind
      grind

theorem awaitsHigh_step (progress : Progress) (byte : UInt8) :
    (progress.step byte).AwaitsHigh := by
  rw [Progress.step]
  split
  · exact awaitsHigh_start _ _
  · split
    · split
      · intro pending waits
        cases waits
      · intro pending waits
        cases waits
        exact Nat.le_refl 0x80
    · exact awaitsHigh_start _ _

theorem awaitsHigh_foldl {progress : Progress} (high : progress.AwaitsHigh) (text : List UInt8) :
    (text.foldl Progress.step progress).AwaitsHigh := by
  induction text generalizing progress with
  | nil => exact high
  | cons byte rest induction => exact induction (awaitsHigh_step progress byte)

theorem Progress.AwaitsHigh.finish_step {progress : Progress} (high : progress.AwaitsHigh)
    {byte : UInt8} (ascii : byte.toNat < 0x80) :
    (progress.step byte).finish = progress.finish ++ [some (Char.ofNat byte.toNat)] := by
  have single : lead byte = .single (Char.ofNat byte.toNat) := by simp [lead, ascii]
  rcases progress with ⟨_ | pending, done⟩
  · simp [Progress.step, Progress.start, single, Progress.finish]
  · have low := high pending rfl
    have outside : ¬(pending.low ≤ byte.toNat ∧ byte.toNat ≤ pending.high) := by omega
    simp [Progress.step, outside, Progress.start, single, Progress.finish]

theorem characters_append_ascii (text : List UInt8) {byte : UInt8} (ascii : byte.toNat < 0x80) :
    characters (text ++ [byte]) = characters text ++ [some (Char.ofNat byte.toNat)] := by
  have high : (text.foldl Progress.step ⟨none, []⟩).AwaitsHigh :=
    awaitsHigh_foldl (fun pending waits => by cases waits) text
  rw [characters, List.foldl_append]
  exact high.finish_step ascii

theorem decode?_append_ascii (text : List UInt8) {byte : UInt8} (ascii : byte.toNat < 0x80) :
    decode? (text ++ [byte]) = (decode? text).map (· ++ [Char.ofNat byte.toNat]) := by
  rw [decode?, decode?, characters_append_ascii text ascii]
  exact @mapM_concat _ _ id (some _) _ rfl (characters text)

theorem encode_append_ascii (chars : List Char) {c : Char} (ascii : c.toNat < 0x80) :
    encode (chars ++ [c]) = encode chars ++ [UInt8.ofNat c.toNat] := by
  rw [encode_append, encode_singleton, utf8EncodeChar_of_lt ascii]

end NodeConsole.Utf8

namespace NodeConsole.Url

/-! ## Percent signs -/

theorem percentDecode_cons_of_ne {first : UInt8} (noMark : first ≠ 0x25) (rest : List UInt8) :
    percentDecode (first :: rest) = first :: percentDecode rest :=
  percentDecode.eq_2 first rest fun _ _ _ isMark _ => noMark isMark

/-- A byte that is no digit ends what a percent sign could stand for. -/
theorem percentDecode_append {byte : UInt8} (noDigit : percentValue? byte = none)
    (text : List UInt8) : percentDecode (text ++ [byte]) = percentDecode text ++ [byte] := by
  fun_induction percentDecode text with
  | case1 high low rest h l isHigh isLow induction =>
      simp [percentDecode, isHigh, isLow, induction]
  | case2 high low rest noPair induction =>
      rw [List.cons_append, List.cons_append, List.cons_append, percentDecode]
      split
      · next h l isHigh isLow => exact absurd isLow (noPair h l isHigh)
      · exact congrArg (0x25 :: ·) induction
  | case3 first rest notPair induction =>
      by_cases isMark : first = 0x25
      · subst isMark
        -- The byte is the first or the second of the two that would have to be digits.
        match rest with
        | [] => simp [percentDecode]
        | [second] =>
            rw [List.cons_append, List.cons_append, List.nil_append, percentDecode, noDigit]
            cases percentValue? second <;> exact congrArg (0x25 :: ·) induction
        | high :: low :: rest => exact (notPair high low rest rfl rfl).elim
      · rw [List.cons_append, percentDecode_cons_of_ne isMark, induction]
        rfl
  | case4 => simp [percentDecode]

theorem percentEncode_eq_nil_iff {escaped : Char → Bool} {text : List Char} :
    percentEncode escaped text = [] ↔ text = [] := by
  cases text with
  | nil => simp [percentEncode]
  | cons c rest =>
      have bytes : Utf8.encode [c] ≠ [] := by
        intro none
        have length := congrArg List.length none
        rw [Utf8.encode, List.flatMap_singleton, String.length_utf8EncodeChar] at length
        exact absurd length (Nat.pos_iff_ne_zero.mp c.utf8Size_pos)
      have written : percentChar escaped c ≠ [] := by
        rw [percentChar]
        split
        · cases first : Utf8.encode [c] with
          | nil => exact absurd first bytes
          | cons byte more => simp [percentByte]
        · simp
      simp [percentEncode, written]

/-! ## Mapped names -/

namespace Domain

theorem of_isForbidden {c : Char} (forbidden : isForbidden c = true) :
    c.toNat < 0x80 ∧ percentValue? (UInt8.ofNat c.toNat) = none ∧ target? c.toNat = none := by
  have marks : "#/:<>?@[\\]^|%".toList.all (·.toNat < 0x80) = true := by decide +kernel
  have ascii : c.toNat < 0x80 := by
    rw [isForbidden, Bool.or_eq_true, Bool.or_eq_true, List.contains_iff_mem, decide_eq_true_iff,
      beq_iff_eq] at forbidden
    rcases forbidden with (blank | delete) | mark
    · omega
    · omega
    · exact of_decide_eq_true (List.all_eq_true.mp marks c mark)
  have checked : ∀ n < 0x80, isForbidden (Char.ofNat n) = true →
      percentValue? (UInt8.ofNat n) = none ∧ target? n = none := by decide +kernel
  exact ⟨ascii, checked c.toNat ascii (by rwa [Char.ofNat_toNat])⟩

theorem mapChars?_append (name : List Char) {c : Char} (ascii : c.toNat < 0x80)
    (kept : target? c.toNat = none) : mapChars? (name ++ [c]) = (mapChars? name).map (· ++ [c]) := by
  have allowed : isRefused c = false := by
    rw [isRefused, decide_eq_false (by omega), Bool.false_and]
  rw [mapChars?, mapChars?, @mapM_concat _ _ _ c [c] (by simp [kept, allowed]), Option.map_map,
    Option.map_map]
  exact congrArg (Option.map · _) (funext fun mapped => by simp)

/-! ## Composed names -/

theorem insertByClass_zero (n : Nat) (done : List Nat) : insertByClass n 0 done = n :: done := by
  cases done <;> simp [insertByClass]

theorem combiningClass_of_lt {n : Nat} (plain : n < 0xC0) : combiningClass n = 0 := by
  rw [combiningClass, if_pos (by omega)]

theorem decomposed_append (text : List Nat) {n : Nat} (plain : n < 0xC0) :
    decomposed (text ++ [n]) = n :: decomposed text := by
  have whole : decompose 4 n = [n] := by
    rw [decompose, pair?, if_pos plain]
  rw [decomposed, List.flatMap_append, List.flatMap_singleton, whole, List.foldl_append,
    List.foldl_cons, List.foldl_nil, combiningClass_of_lt plain, insertByClass_zero]
  rfl

theorem base_step_of_lt (composing : Composing) {n : Nat} (plain : n < 0xC0) :
    (composing.step n).base = some n := by
  have alone (base : Nat) : composed? base n = none := by
    rw [composed?, if_pos (by omega)]
  rcases composing with ⟨done, _ | base, marks⟩
  · simp [Composing.step, combiningClass_of_lt plain]
  · simp [Composing.step, combiningClass_of_lt plain, alone]

theorem mem_compose_append (text : List Char) {c : Char} (plain : c.toNat < 0xC0) :
    c ∈ compose (text ++ [c]) := by
  rw [compose, List.map_append, List.map_singleton, decomposed_append _ plain, List.reverse_cons,
    List.foldl_append, List.foldl_cons, List.foldl_nil]
  rw [base_step_of_lt _ plain]
  simp

/-! ## Hosts -/

theorem ascii?_append_forbidden (name : List Char) {c : Char} (forbidden : isForbidden c = true) :
    ascii? (name ++ [c]) = none := by
  rcases of_isForbidden forbidden with ⟨ascii, _, kept⟩
  rw [ascii?, mapChars?_append name ascii kept]
  cases mapChars? name with
  | none => rfl
  | some mapped =>
      have found : (compose (mapped ++ [c])).any isForbidden = true :=
        List.any_eq_true.mpr ⟨c, mem_compose_append mapped (by omega), forbidden⟩
      rw [Option.map_some]
      dsimp only
      rw [if_pos found]

theorem ofHost_append_forbidden (host : List Char) {c : Char} (forbidden : isForbidden c = true) :
    ofHost (host ++ [c]) = .error .badDomain := by
  rcases of_isForbidden forbidden with ⟨ascii, noDigit, _⟩
  have byte : (UInt8.ofNat c.toNat).toNat = c.toNat := by
    rw [UInt8.toNat_ofNat', Nat.mod_eq_of_lt (by omega)]
  rw [ofHost, Utf8.encode_append_ascii host ascii, percentDecode_append noDigit,
    Utf8.decode?_append_ascii _ (by omega), byte, Char.ofNat_toNat]
  cases Utf8.decode? (percentDecode (Utf8.encode host)) with
  | none => rfl
  | some name => rw [Option.map_some, Option.bind_some, ascii?_append_forbidden name forbidden]

end Domain

theorem Host.ofBrackets_unclosed {text inside : List Char} {c : Char} (notClosing : c ≠ ']')
    (bracketed : text ++ [c] = '[' :: inside) : ofBrackets inside = .error .badAddress6 := by
  have unclosed : inside.getLast? ≠ some ']' := by
    intro closed
    have last := congrArg List.getLast? bracketed
    rw [List.getLast?_concat, List.getLast?_cons, closed, Option.getD_some,
      Option.some.injEq] at last
    exact notClosing last
  rw [ofBrackets, if_neg unclosed]

/-- A text with a forbidden end is no host of the web, unless that end closes a bracket. -/
theorem Host.ofSpecial_append_forbidden (text : List Char) {c : Char}
    (forbidden : Domain.isForbidden c = true) (notClosing : c ≠ ']') :
    ∃ error, Host.ofSpecial (text ++ [c]) = .error error := by
  by_cases bracketed : ∃ inside, text ++ [c] = '[' :: inside
  · rcases bracketed with ⟨inside, bracketed⟩
    refine ⟨.badAddress6, ?_⟩
    rw [bracketed, Host.ofSpecial, ofBrackets_unclosed notClosing bracketed]
  · refine ⟨.badDomain, ?_⟩
    rw [Host.ofSpecial.eq_2 _ fun inside same => bracketed ⟨inside, same⟩,
      Domain.ofHost_append_forbidden text forbidden]
    rfl

theorem Host.ofText_of_allowed {text : List Char} (allowed : ∀ c ∈ text, isForbidden c = false) :
    ofText text = .ok (.named (percentEncode escapedInText text)) := by
  have noBracket : ∀ inside, text ≠ '[' :: inside := by
    rintro inside rfl
    exact absurd (allowed '[' (by simp)) (by decide)
  rw [ofText.eq_2 _ noBracket, if_neg (by simpa using allowed)]

theorem Host.ofText_append_of_forbidden {text : List Char} {last c : Char} (notClosing : last ≠ ']')
    (member : c ∈ text ++ [last]) (forbidden : isForbidden c = true) :
    ∃ error, ofText (text ++ [last]) = .error error := by
  by_cases bracketed : ∃ inside, text ++ [last] = '[' :: inside
  · rcases bracketed with ⟨inside, bracketed⟩
    refine ⟨.badAddress6, ?_⟩
    rw [bracketed, ofText, ofBrackets_unclosed notClosing bracketed]
  · refine ⟨.forbiddenHostCharacter, ?_⟩
    rw [ofText.eq_2 _ fun inside same => bracketed ⟨inside, same⟩,
      if_pos (List.any_eq_true.mpr ⟨c, member, forbidden⟩)]

end NodeConsole.Url
