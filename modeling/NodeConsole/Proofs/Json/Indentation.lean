import NodeConsole.Proofs.Json.RoundTrip
/-!
Values with one item or member a line. Lines are broken and indented between the parts of arrays and objects
only, where readers pass over blanks, so the text stands for the same value.
-/

namespace NodeConsole.Json

theorem blank_lineBreak (level : Nat) : Blank (Utf8.encode (lineBreak level)) := by
  have spaces (n : Nat) : Blank (Utf8.encode (List.replicate n ' ')) := by
    induction n with
    | zero => exact blank_nil
    | succ n induction =>
        rw [List.replicate_succ, Utf8.encode_cons]
        exact List.forall_mem_cons.mpr ⟨rfl, induction⟩
  rw [lineBreak, Utf8.encode_cons]
  exact List.forall_mem_cons.mpr ⟨rfl, spaces _⟩

def Spacing.indented (level : Nat) : Spacing where
  opening := Utf8.encode (lineBreak (level + 1))
  separator := 0x2C :: Utf8.encode (lineBreak (level + 1))
  closing := Utf8.encode (lineBreak level)
  behindColon := [0x20]
  blankOpening := blank_lineBreak _
  isGap := ⟨[], _, blank_nil, blank_lineBreak _, rfl⟩
  blankClosing := blank_lineBreak _
  blankBehindColon := List.forall_mem_singleton.mpr rfl

theorem encode_indentedItems (level : Nat) (items : List Json) :
    Utf8.encode (indentedItems level items) =
      (items.map fun item => Utf8.encode (indentedChars (level + 1) item)).flatMap
          ((Spacing.indented level).separator ++ ·) ++
        ((Spacing.indented level).closing ++ [0x5D]) := by
  induction items with
  | nil =>
      rw [indentedItems, Utf8.encode_append]
      rfl
  | cons item items induction =>
      rw [indentedItems, List.map_cons, List.flatMap_cons]
      simp only [List.cons_append, List.append_assoc, Utf8.encode_cons, Utf8.encode_append, induction]
      rfl

theorem encode_indentedMembers (level : Nat) (members : List (String × Json)) :
    Utf8.encode (indentedMembers level members) =
      (members.map ((Spacing.indented level).member fun value =>
          Utf8.encode (indentedChars (level + 1) value))).flatMap ((Spacing.indented level).separator ++ ·) ++
        ((Spacing.indented level).closing ++ [0x7D]) := by
  induction members with
  | nil =>
      rw [indentedMembers, Utf8.encode_append]
      rfl
  | cons member members induction =>
      rw [indentedMembers, List.map_cons, List.flatMap_cons, Spacing.member]
      simp only [List.cons_append, List.append_assoc, Utf8.encode_cons, Utf8.encode_append, induction]
      rfl

def Style.indented : Style where
  write level value := Utf8.encode (indentedChars level value)
  spacing := .indented
  scalar level value isScalar := by
    cases value with
    | bool value => cases value <;> rw [indentedChars, compactChars]
    | array => exact isScalar.elim
    | object => exact isScalar.elim
    | _ => rw [indentedChars, compactChars]
  array level items := by
    cases items with
    | nil =>
        rw [indentedChars]
        rfl
    | cons item items =>
        rw [indentedChars, List.map_cons, Spacing.join]
        simp only [List.cons_append, List.append_assoc, Utf8.encode_cons, Utf8.encode_append,
          encode_indentedItems]
        rfl
  object level members := by
    cases members with
    | nil =>
        rw [indentedChars]
        rfl
    | cons member members =>
        rw [indentedChars, List.map_cons, Spacing.join, Spacing.member]
        simp only [List.cons_append, List.append_assoc, Utf8.encode_cons, Utf8.encode_append,
          encode_indentedMembers]
        rfl

theorem ofText_indented {value : Json} (integral : Integral depthLimit value) :
    ofText value.indented = .ok value := by
  rw [ofText, Utf8.bytes, indented, String.toList_ofList]
  exact ofBytes_of_spells (Style.indented.spells integral 0)

end NodeConsole.Json
