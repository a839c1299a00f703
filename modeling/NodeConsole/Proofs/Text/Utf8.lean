import NodeConsole.Text.Utf8
/-!
Characters and their bytes. ASCII is written as it is, everything else in bytes outside of ASCII, and
what was written is read back.
-/

namespace NodeConsole.Utf8

theorem encode_append (left right : List Char) : encode (left ++ right) = encode left ++ encode right :=
  List.flatMap_append

theorem encode_cons (c : Char) (rest : List Char) :
    encode (c :: rest) = String.utf8EncodeChar c ++ encode rest :=
  List.flatMap_cons

theorem encode_singleton (c : Char) : encode [c] = String.utf8EncodeChar c :=
  List.flatMap_singleton ..

theorem length_le_length_bytes (text : String) : text.toList.length ≤ (bytes text).length := by
  have each (chars : List Char) : chars.length ≤ (encode chars).length := by
    induction chars with
    | nil => exact Nat.le_refl _
    | cons c rest induction =>
        have some : 0 < (String.utf8EncodeChar c).length := List.length_pos_iff.mpr String.utf8EncodeChar_ne_nil
        rw [encode_cons, List.length_append, List.length_cons]
        omega
  exact each text.toList

/-! ## Bytes of one character -/

theorem utf8EncodeChar_of_lt {c : Char} (ascii : c.toNat < 0x80) :
    String.utf8EncodeChar c = [UInt8.ofNat c.toNat] := by
  have single : c.val.toNat ≤ 127 := Nat.le_of_lt_succ ascii
  rw [String.utf8EncodeChar]
  exact if_pos single

theorem le_of_mem_utf8EncodeChar {c : Char} (wide : 0x80 ≤ c.toNat) {byte : UInt8}
    (member : byte ∈ String.utf8EncodeChar c) : 0x80 ≤ byte.toNat := by
  have several : ¬c.val.toNat ≤ 127 := Nat.not_le_of_lt wide
  have high (n : Nat) (least : 0x80 ≤ n) (bound : n < 0x100) : 0x80 ≤ (UInt8.ofNat n).toNat := by
    rw [UInt8.toNat_ofNat', Nat.mod_eq_of_lt bound]
    exact least
  simp only [String.utf8EncodeChar, if_neg several] at member
  split at member
  · simp only [List.mem_cons, List.not_mem_nil, or_false] at member
    rcases member with rfl | rfl <;> exact high _ (by omega) (by omega)
  · split at member
    · simp only [List.mem_cons, List.not_mem_nil, or_false] at member
      rcases member with rfl | rfl | rfl <;> exact high _ (by omega) (by omega)
    · simp only [List.mem_cons, List.not_mem_nil, or_false] at member
      rcases member with rfl | rfl | rfl | rfl <;> exact high _ (by omega) (by omega)

/-! ## Reading back -/

theorem lead_of_two {v : Nat} (least : 0x80 ≤ v) (bound : v ≤ 0x7FF) :
    lead (UInt8.ofNat (v / 64 % 32 + 192)) = .opens ⟨0x80, 0xBF, 0, v / 64⟩ := by
  have byte : (UInt8.ofNat (v / 64 % 32 + 192)).toNat = v / 64 + 192 := by
    rw [UInt8.toNat_ofNat']
    omega
  simp only [lead, byte]
  rw [if_neg (by omega), if_neg (by omega), if_pos (by omega), Nat.add_sub_cancel]

theorem lead_of_three {v : Nat} (least : 0x800 ≤ v) (bound : v ≤ 0xFFFF)
    (noSurrogate : v < 0xD800 ∨ 0xDFFF < v) :
    ∃ low high, lead (UInt8.ofNat (v / 4096 % 16 + 224)) = .opens ⟨low, high, 1, v / 4096⟩ ∧
      low ≤ v / 64 % 64 + 128 ∧ v / 64 % 64 + 128 ≤ high := by
  have byte : (UInt8.ofNat (v / 4096 % 16 + 224)).toNat = v / 4096 + 224 := by
    rw [UInt8.toNat_ofNat']
    omega
  simp only [lead, byte]
  rw [if_neg (by omega), if_neg (by omega), if_neg (by omega)]
  split
  · next first =>
    exact ⟨0xA0, 0xBF, by simp; omega, by omega, by omega⟩
  · split
    · next middle =>
      exact ⟨0x80, 0x9F, by simp; omega, by omega, by omega⟩
    · rw [if_pos (by omega), Nat.add_sub_cancel]
      exact ⟨0x80, 0xBF, rfl, by omega, by omega⟩

theorem lead_of_four {v : Nat} (least : 0x10000 ≤ v) (bound : v < 0x110000) :
    ∃ low high, lead (UInt8.ofNat (v / 262144 % 8 + 240)) = .opens ⟨low, high, 2, v / 262144⟩ ∧
      low ≤ v / 4096 % 64 + 128 ∧ v / 4096 % 64 + 128 ≤ high := by
  have byte : (UInt8.ofNat (v / 262144 % 8 + 240)).toNat = v / 262144 + 240 := by
    rw [UInt8.toNat_ofNat']
    omega
  simp only [lead, byte]
  rw [if_neg (by omega), if_neg (by omega), if_neg (by omega), if_neg (by omega), if_neg (by omega),
    if_neg (by omega)]
  split
  · next first =>
    exact ⟨0x90, 0xBF, by simp; omega, by omega, by omega⟩
  · split
    · rw [Nat.add_sub_cancel]
      exact ⟨0x80, 0xBF, rfl, by omega, by omega⟩
    · next last =>
      rw [if_pos (by omega)]
      exact ⟨0x80, 0x8F, by simp; omega, by omega, by omega⟩

theorem toNat_continuation {low : Nat} (six : low < 64) : (UInt8.ofNat (low + 128)).toNat = low + 128 := by
  rw [UInt8.toNat_ofNat']
  omega

theorem step_of_more {low high more value bits : Nat} (done : List (Option Char)) (six : bits < 64)
    (least : low ≤ bits + 128) (most : bits + 128 ≤ high) :
    Progress.step ⟨some ⟨low, high, more + 1, value⟩, done⟩ (UInt8.ofNat (bits + 128)) =
      ⟨some ⟨0x80, 0xBF, more, value * 64 + bits⟩, done⟩ := by
  have added : (bits + 128) % 64 = bits := by omega
  simp only [Progress.step, toNat_continuation six, added, least, most, and_self, if_true]

theorem step_of_last {low high value bits : Nat} (done : List (Option Char)) (six : bits < 64)
    (least : low ≤ bits + 128) (most : bits + 128 ≤ high) :
    Progress.step ⟨some ⟨low, high, 0, value⟩, done⟩ (UInt8.ofNat (bits + 128)) =
      ⟨none, some (Char.ofNat (value * 64 + bits)) :: done⟩ := by
  have added : (bits + 128) % 64 = bits := by omega
  simp only [Progress.step, toNat_continuation six, added, least, most, and_self, if_true]

theorem step_of_opens {byte : UInt8} {pending : Pending} (opens : lead byte = .opens pending)
    (done : List (Option Char)) : Progress.step ⟨none, done⟩ byte = ⟨some pending, done⟩ := by
  simp only [Progress.step, Progress.start, opens]

/-- The bytes of a character are read as that character. -/
theorem foldl_step_utf8EncodeChar (c : Char) (done : List (Option Char)) :
    (String.utf8EncodeChar c).foldl Progress.step ⟨none, done⟩ = ⟨none, some c :: done⟩ := by
  have valid : c.val.toNat < 0xD800 ∨ 0xDFFF < c.val.toNat ∧ c.val.toNat < 0x110000 := c.valid
  have whole : Char.ofNat c.val.toNat = c := Char.ofNat_toNat c
  by_cases ascii : c.val.toNat ≤ 127
  · have small : c.toNat < 0x80 := Nat.lt_succ_of_le ascii
    have byte : (UInt8.ofNat c.toNat).toNat = c.toNat := by
      rw [UInt8.toNat_ofNat']
      omega
    have single : lead (UInt8.ofNat c.toNat) = .single c := by
      rw [lead, byte, if_pos small, Char.ofNat_toNat]
    rw [utf8EncodeChar_of_lt small]
    simp only [List.foldl_cons, List.foldl_nil, Progress.step, Progress.start, single]
  · simp only [String.utf8EncodeChar, if_neg ascii]
    generalize c.val.toNat = v at valid whole ascii
    split
    · next two =>
      simp only [List.foldl_cons, List.foldl_nil]
      rw [step_of_opens (lead_of_two (by omega) two),
        step_of_last _ (by omega) (by omega) (by omega), Nat.div_add_mod', whole]
    · split
      · next more three =>
        rcases lead_of_three (by omega) three (by omega) with ⟨low, high, opens, least, most⟩
        have value : (v / 4096 * 64 + v / 64 % 64) * 64 + v % 64 = v := by omega
        simp only [List.foldl_cons, List.foldl_nil]
        rw [step_of_opens opens, step_of_more _ (by omega) least most,
          step_of_last _ (by omega) (by omega) (by omega), value, whole]
      · next more four =>
        rcases lead_of_four (v := v) (by omega) (by omega) with ⟨low, high, opens, least, most⟩
        have value : ((v / 262144 * 64 + v / 4096 % 64) * 64 + v / 64 % 64) * 64 + v % 64 = v := by
          omega
        simp only [List.foldl_cons, List.foldl_nil]
        rw [step_of_opens opens, step_of_more _ (by omega) least most,
          step_of_more _ (by omega) (by omega) (by omega),
          step_of_last _ (by omega) (by omega) (by omega), value, whole]

theorem foldl_step_encode (chars : List Char) (done : List (Option Char)) :
    (encode chars).foldl Progress.step ⟨none, done⟩ = ⟨none, (chars.map some).reverse ++ done⟩ := by
  induction chars generalizing done with
  | nil => rfl
  | cons c chars induction =>
      rw [encode_cons, List.foldl_append, foldl_step_utf8EncodeChar, induction, List.map_cons,
        List.reverse_cons, List.append_assoc, List.singleton_append]

theorem characters_encode (chars : List Char) : characters (encode chars) = chars.map some := by
  rw [characters, foldl_step_encode, Progress.finish]
  dsimp only
  rw [List.append_nil, List.reverse_reverse]

theorem decodeLossy_bytes (text : String) : String.ofList (decodeLossy (bytes text)) = text := by
  rw [decodeLossy, bytes, characters_encode, List.map_map]
  exact (congrArg String.ofList (List.map_id _)).trans String.ofList_toList

theorem decode?_encode (chars : List Char) : decode? (encode chars) = some chars := by
  rw [decode?, characters_encode]
  induction chars with
  | nil => rfl
  | cons c chars induction => simp [induction]

end NodeConsole.Utf8
