import NodeConsole.Proofs.Text.Utf8
/-!
The order of texts. Texts are ordered by their characters, and this is also the order of their bytes.
-/

namespace NodeConsole.Utf8

theorem ofNat_cons_lt {a b : Nat} {left right : List UInt8} (bound : b < 0x100) (least : a ≤ b)
    (behind : a = b → left < right) : UInt8.ofNat a :: left < UInt8.ofNat b :: right := by
  rw [List.cons_lt_cons_iff]
  by_cases same : a = b
  · exact .inr ⟨congrArg UInt8.ofNat same, behind same⟩
  · left
    rw [UInt8.lt_iff_toNat_lt, UInt8.toNat_ofNat', UInt8.toNat_ofNat']
    omega

/-- Two characters differ in a byte before either of them ends, so nothing behind them counts. -/
theorem utf8EncodeChar_append_lt {c d : Char} (less : c < d) (left right : List UInt8) :
    String.utf8EncodeChar c ++ left < String.utf8EncodeChar d ++ right := by
  have order : c.val.toNat < d.val.toNat := less
  have valid : d.val.toNat < 0xD800 ∨ 0xDFFF < d.val.toNat ∧ d.val.toNat < 0x110000 := d.valid
  simp only [String.utf8EncodeChar]
  generalize c.val.toNat = v at order
  generalize d.val.toNat = w at order valid
  -- A character of more bytes starts with a greater one; among as many, the values decide.
  by_cases one : v ≤ 127
  · rw [if_pos one]
    split
    · exact ofNat_cons_lt (by omega) (by omega) (by omega)
    · split
      · exact ofNat_cons_lt (by omega) (by omega) (by omega)
      · split <;> exact ofNat_cons_lt (by omega) (by omega) (by omega)
  · have several : ¬w ≤ 127 := by omega
    rw [if_neg one, if_neg several]
    by_cases two : v ≤ 2047
    · rw [if_pos two]
      split
      · exact ofNat_cons_lt (by omega) (by omega) fun _ => ofNat_cons_lt (by omega) (by omega) (by omega)
      · split <;> exact ofNat_cons_lt (by omega) (by omega) (by omega)
    · have more : ¬w ≤ 2047 := by omega
      rw [if_neg two, if_neg more]
      by_cases three : v ≤ 65535
      · rw [if_pos three]
        split
        · exact ofNat_cons_lt (by omega) (by omega) fun _ => ofNat_cons_lt (by omega) (by omega) fun _ =>
            ofNat_cons_lt (by omega) (by omega) (by omega)
        · exact ofNat_cons_lt (by omega) (by omega) (by omega)
      · have most : ¬w ≤ 65535 := by omega
        rw [if_neg three, if_neg most]
        exact ofNat_cons_lt (by omega) (by omega) fun _ => ofNat_cons_lt (by omega) (by omega) fun _ =>
          ofNat_cons_lt (by omega) (by omega) fun _ => ofNat_cons_lt (by omega) (by omega) (by omega)

theorem encode_lt {left right : List Char} (less : left < right) : encode left < encode right := by
  induction left generalizing right with
  | nil =>
      cases right with
      | nil => exact absurd less (List.lt_irrefl _)
      | cons d right =>
          rcases List.exists_cons_of_ne_nil (String.utf8EncodeChar_ne_nil (c := d)) with ⟨first, more, written⟩
          rw [encode_cons, written]
          exact List.nil_lt_cons _ _
  | cons c left induction =>
      cases right with
      | nil => exact absurd less (List.not_lt_nil _)
      | cons d right =>
          rw [encode_cons, encode_cons]
          rcases List.cons_lt_cons_iff.mp less with before | ⟨rfl, behind⟩
          · exact utf8EncodeChar_append_lt before _ _
          · exact List.append_left_lt (induction behind)

theorem bytes_lt {left right : String} (less : left < right) : bytes left < bytes right :=
  encode_lt (String.lt_iff.mp less)

end NodeConsole.Utf8
