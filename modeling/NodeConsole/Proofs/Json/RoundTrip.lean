import NodeConsole.Proofs.Json.Decimals
import NodeConsole.Proofs.Json.Members
import NodeConsole.Proofs.Json.Values
/-!
Values that are read back from their text. Numbers have to be integers of 64 bits for that, and arrays and
objects must not be nested deeper than they are read.
-/

namespace NodeConsole.Json

/-- Values of which all numbers are integers from `-2 ^ 63` to `2 ^ 64 - 1`, and whose arrays and objects are
nested at most so deep. Members stand in the order of their names. -/
inductive Integral : Nat → Json → Prop where
  | null (limit : Nat) : Integral limit .null
  | bool (limit : Nat) (value : Bool) : Integral limit (.bool value)
  | integer (limit : Nat) {n : Int} (least : -0x8000000000000000 ≤ n) (most : n < 0x10000000000000000) :
      Integral limit (.number (.integer n))
  | string (limit : Nat) (text : String) : Integral limit (.string text)
  | array {limit : Nat} {items : List Json} (each : ∀ item ∈ items, Integral limit item) :
      Integral (limit + 1) (.array items)
  | object {limit : Nat} {members : List (String × Json)}
      (ordered : members.Pairwise fun earlier later => earlier.1 < later.1)
      (each : ∀ member ∈ members, Integral limit member.2) : Integral (limit + 1) (.object members)

/-! ## Texts of values -/

structure Spells (limit : Nat) (text : List UInt8) (value : Json) : Prop where
  starts : ∃ byte more, text = byte :: more ∧ isBlank byte = false ∧ byte ≠ 0x5D
  reads : ∀ behind, EndsNumber behind → (valueReader limit).read (text ++ behind) = .ok (value, behind)

section

variable {limit : Nat} {text gap after rest : List UInt8} {value : Json} {first : Bool}

theorem spells_scalar {byte : UInt8} {more : List UInt8} (starts : StartsScalar byte) (noEnd : byte ≠ 0x5D)
    (reads : ∀ behind, EndsNumber behind → scalarScan byte (more ++ behind) = .ok (value, behind)) :
    Spells limit (byte :: more) value where
  starts := ⟨byte, more, rfl, starts.1, noEnd⟩
  reads behind ends := by
    have read := read_scalar limit blank_nil starts (more ++ behind)
    rw [List.nil_append, reads behind ends] at read
    exact read

theorem Spells.lists {values : List Json} (spells : Spells limit text value) (isGap : IsGap first gap)
    (ends : EndsNumber after) (later : Lists (valueReader limit) false after values rest) :
    Lists (valueReader limit) first (gap ++ (text ++ after)) (value :: values) rest := by
  rcases spells.starts with ⟨byte, more, rfl, visible, noEnd⟩
  exact .item isGap visible noEnd (spells.reads after ends) later

theorem spells_array {inside : List UInt8} {values : List Json}
    (lists : ∀ behind, Lists (valueReader limit) true (inside ++ behind) values behind) :
    Spells (limit + 1) (0x5B :: inside) (.array values) where
  starts := ⟨0x5B, inside, rfl, rfl, by decide⟩
  reads behind _ := valueScan_array blank_nil ((lists behind).read [])

theorem spells_object {inside : List UInt8} {entries : List (String × Json)}
    (names : ∀ behind, Names (valueReader limit) true (inside ++ behind) entries behind) :
    Spells (limit + 1) (0x7B :: inside) (ofEntries entries) where
  starts := ⟨0x7B, inside, rfl, rfl, by decide⟩
  reads behind _ := valueScan_object blank_nil ((names behind).read [])

end

/-! ## Scalars -/

theorem spells_string (limit : Nat) (text : String) :
    Spells limit (Utf8.encode (stringChars text)) (.string text) := by
  rcases stringScan_written text [] with ⟨inside, written, _⟩
  rw [written]
  apply spells_scalar ⟨rfl, by decide, by decide⟩ (by decide)
  intro behind _
  rcases stringScan_written text behind with ⟨again, same, read⟩
  rw [written] at same
  cases same
  rw [scalarScan_string, read]
  rfl

theorem startsScalar_of_isDigit {byte : UInt8} (digit : isDigit byte = true) :
    StartsScalar byte ∧ byte ≠ 0x5D := by
  have other {mark : UInt8} (noDigit : isDigit mark = false) : byte ≠ mark := ne_of_isDigit digit noDigit
  refine ⟨⟨?_, other rfl, other rfl⟩, other rfl⟩
  apply Bool.eq_false_iff.mpr
  intro blank
  simp only [isBlank, Bool.or_eq_true, beq_iff_eq] at blank
  rcases blank with ((space | tab) | feed) | back
  · exact other rfl space
  · exact other rfl tab
  · exact other rfl feed
  · exact other rfl back

theorem encode_integerChars_of_nonneg {n : Int} (nonneg : 0 ≤ n) :
    Utf8.encode (integerChars n) = decimal n.natAbs := by
  rw [integerChars, if_neg (Int.not_lt.mpr nonneg)]
  rfl

theorem encode_integerChars_of_neg {n : Int} (negative : n < 0) :
    Utf8.encode (integerChars n) = 0x2D :: decimal n.natAbs := by
  rw [integerChars, if_pos negative, Utf8.encode_cons]
  rfl

theorem spells_integer (limit : Nat) {n : Int} (least : -0x8000000000000000 ≤ n) (most : n < 0x10000000000000000) :
    Spells limit (Utf8.encode (integerChars n)) (.number (.integer n)) := by
  by_cases negative : n < 0
  · have range : ¬(n.natAbs = 0 ∨ Nat.pow 2 63 < n.natAbs) := by
      have power : Nat.pow 2 63 = 0x8000000000000000 := rfl
      omega
    have value : -(n.natAbs : Int) = n := by omega
    rw [encode_integerChars_of_neg negative]
    apply spells_scalar ⟨rfl, by decide, by decide⟩ (by decide)
    intro behind ends
    rw [scalarScan_minus, numberScan_decimal (by omega) ends, integerScan, if_pos rfl, if_neg range, value]
    rfl
  · have value : (n.natAbs : Int) = n := by omega
    rcases decimal_spec n.natAbs with ⟨all, first, more, digits, _⟩
    have digit : isDigit first = true := all first (by simp [digits])
    have starts := startsScalar_of_isDigit digit
    rw [encode_integerChars_of_nonneg (Int.not_lt.mp negative), digits]
    apply spells_scalar starts.1 starts.2
    intro behind ends
    rw [scalarScan_digit digit, ← List.cons_append, ← digits, numberScan_decimal (by omega) ends, integerScan,
      if_neg Bool.false_ne_true, value]
    rfl

/-! ## Arrays and objects -/

structure Spacing where
  opening : List UInt8
  separator : List UInt8
  closing : List UInt8
  behindColon : List UInt8
  blankOpening : Blank opening
  isGap : IsGap false separator
  blankClosing : Blank closing
  blankBehindColon : Blank behindColon

namespace Spacing

def join (spacing : Spacing) : List (List UInt8) → List UInt8
  | [] => []
  | part :: parts =>
    spacing.opening ++ (part ++ (parts.flatMap (spacing.separator ++ ·) ++ spacing.closing))

def member (spacing : Spacing) (write : Json → List UInt8) (entry : String × Json) : List UInt8 :=
  Utf8.encode (stringChars entry.1) ++ 0x3A :: (spacing.behindColon ++ write entry.2)

variable {limit : Nat} {write : Json → List UInt8}

theorem endsNumber_later (spacing : Spacing) (parts : List (List UInt8)) {closing : UInt8}
    (noNumber : continuesNumber closing = false) (behind : List UInt8) :
    EndsNumber (parts.flatMap (spacing.separator ++ ·) ++ (spacing.closing ++ closing :: behind)) := by
  cases parts with
  | nil => exact spacing.blankClosing.endsNumber (endsNumber_cons noNumber behind)
  | cons part parts =>
      rw [List.flatMap_cons, List.append_assoc, List.append_assoc]
      exact spacing.isGap.endsNumber _

theorem lists_later (spacing : Spacing) {items : List Json}
    (each : ∀ item ∈ items, Spells limit (write item) item) (behind : List UInt8) :
    Lists (valueReader limit) false
      ((items.map write).flatMap (spacing.separator ++ ·) ++ (spacing.closing ++ 0x5D :: behind))
      items behind := by
  induction items with
  | nil => exact .done spacing.blankClosing behind
  | cons item items induction =>
      have later := induction fun other inside => each other (List.mem_cons_of_mem _ inside)
      rw [List.map_cons, List.flatMap_cons, List.append_assoc, List.append_assoc]
      exact (each item List.mem_cons_self).lists spacing.isGap
        (spacing.endsNumber_later _ (by decide) behind) later

theorem lists (spacing : Spacing) {items : List Json}
    (each : ∀ item ∈ items, Spells limit (write item) item) (behind : List UInt8) :
    Lists (valueReader limit) true (spacing.join (items.map write) ++ 0x5D :: behind) items behind := by
  cases items with
  | nil => exact .done blank_nil behind
  | cons item items =>
      have isGap : IsGap true spacing.opening := spacing.blankOpening
      have later := spacing.lists_later
        (fun other inside => each other (List.mem_cons_of_mem _ inside)) behind
      rw [List.map_cons, join]
      simp only [List.append_assoc]
      exact (each item List.mem_cons_self).lists isGap
        (spacing.endsNumber_later _ (by decide) behind) later

theorem names_member (spacing : Spacing) {entry : String × Json}
    (spells : Spells limit (write entry.2) entry.2) {first : Bool} {gap after rest : List UInt8}
    {entries : List (String × Json)} (isGap : IsGap first gap) (ends : EndsNumber after)
    (later : Names (valueReader limit) false after entries rest) :
    Names (valueReader limit) first (gap ++ (spacing.member write entry ++ after)) (entry :: entries) rest := by
  have read := spells.reads after ends
  rw [← read_blank_append limit spacing.blankBehindColon] at read
  have names := later.written entry.1 isGap read
  rw [member, List.append_assoc, List.cons_append, List.append_assoc]
  exact names

theorem names_later (spacing : Spacing) {entries : List (String × Json)}
    (each : ∀ entry ∈ entries, Spells limit (write entry.2) entry.2) (behind : List UInt8) :
    Names (valueReader limit) false
      ((entries.map (spacing.member write)).flatMap (spacing.separator ++ ·) ++
        (spacing.closing ++ 0x7D :: behind)) entries behind := by
  induction entries with
  | nil => exact .done spacing.blankClosing behind
  | cons entry entries induction =>
      have later := induction fun other inside => each other (List.mem_cons_of_mem _ inside)
      rw [List.map_cons, List.flatMap_cons, List.append_assoc, List.append_assoc]
      exact spacing.names_member (each entry List.mem_cons_self) spacing.isGap
        (spacing.endsNumber_later _ (by decide) behind) later

theorem names (spacing : Spacing) {entries : List (String × Json)}
    (each : ∀ entry ∈ entries, Spells limit (write entry.2) entry.2) (behind : List UInt8) :
    Names (valueReader limit) true
      (spacing.join (entries.map (spacing.member write)) ++ 0x7D :: behind) entries behind := by
  cases entries with
  | nil => exact .done blank_nil behind
  | cons entry entries =>
      have isGap : IsGap true spacing.opening := spacing.blankOpening
      have later := spacing.names_later
        (fun other inside => each other (List.mem_cons_of_mem _ inside)) behind
      rw [List.map_cons, join]
      simp only [List.append_assoc]
      exact spacing.names_member (each entry List.mem_cons_self) isGap
        (spacing.endsNumber_later _ (by decide) behind) later

end Spacing

/-! ## Styles -/

def IsScalar : Json → Prop
  | .array _ => False
  | .object _ => False
  | _ => True

/-- A way to write values at every level: all of them write scalars alike, and differ in what stands between
the parts of arrays and objects. -/
structure Style where
  write : Nat → Json → List UInt8
  spacing : Nat → Spacing
  scalar : ∀ level value, IsScalar value → write level value = Utf8.encode (compactChars value)
  array : ∀ level items, write level (.array items) =
    0x5B :: ((spacing level).join (items.map (write (level + 1))) ++ [0x5D])
  object : ∀ level members, write level (.object members) =
    0x7B :: ((spacing level).join (members.map ((spacing level).member (write (level + 1)))) ++ [0x7D])

theorem spells_scalarText {limit : Nat} {value : Json} (isScalar : IsScalar value)
    (integral : Integral limit value) : Spells limit (Utf8.encode (compactChars value)) value := by
  cases integral with
  | null =>
      rw [compactChars]
      exact spells_scalar ⟨rfl, by decide, by decide⟩ (by decide) fun _ _ => rfl
  | bool limit value =>
      cases value with
      | true =>
          rw [compactChars]
          exact spells_scalar ⟨rfl, by decide, by decide⟩ (by decide) fun _ _ => rfl
      | false =>
          rw [compactChars]
          exact spells_scalar ⟨rfl, by decide, by decide⟩ (by decide) fun _ _ => rfl
  | integer limit least most =>
      rw [compactChars]
      exact spells_integer limit least most
  | string limit text =>
      rw [compactChars]
      exact spells_string limit text
  | array => exact isScalar.elim
  | object => exact isScalar.elim

/-- Integral values are read back from their text in every style. -/
theorem Style.spells (style : Style) {limit : Nat} {value : Json} (integral : Integral limit value)
    (level : Nat) : Spells limit (style.write level value) value := by
  induction integral generalizing level with
  | array _ induction =>
      rw [style.array]
      apply spells_array
      intro behind
      rw [List.append_assoc]
      exact (style.spacing level).lists (fun item inside => induction item inside (level + 1)) behind
  | @object limit members ordered _ induction =>
      have whole : ofEntries members = .object members := by
        rw [ofEntries, Members.ofEntries_of_pairwise ordered]
      rw [style.object, ← whole]
      apply spells_object
      intro behind
      rw [List.append_assoc]
      exact (style.spacing level).names (fun entry inside => induction entry inside (level + 1)) behind
  | null limit =>
      rw [style.scalar level .null trivial]
      exact spells_scalarText trivial (.null limit)
  | bool limit value =>
      rw [style.scalar level (.bool value) trivial]
      exact spells_scalarText trivial (.bool limit value)
  | @integer limit n least most =>
      rw [style.scalar level (.number (.integer n)) trivial]
      exact spells_scalarText trivial (.integer limit least most)
  | string limit text =>
      rw [style.scalar level (.string text) trivial]
      exact spells_scalarText trivial (.string limit text)

/-! ## Values on one line -/

def Spacing.onLine : Spacing where
  opening := []
  separator := [0x2C]
  closing := []
  behindColon := []
  blankOpening := blank_nil
  isGap := ⟨[], [], blank_nil, blank_nil, rfl⟩
  blankClosing := blank_nil
  blankBehindColon := blank_nil

theorem encode_compactItems (items : List Json) :
    Utf8.encode (compactItems items) =
      (items.map fun item => Utf8.encode (compactChars item)).flatMap ([0x2C] ++ ·) ++ [0x5D] := by
  induction items with
  | nil => rfl
  | cons item items induction =>
      rw [compactItems, List.map_cons, List.flatMap_cons]
      simp only [List.cons_append, List.append_assoc, Utf8.encode_cons, Utf8.encode_append, induction]
      rfl

theorem encode_compactMembers (members : List (String × Json)) :
    Utf8.encode (compactMembers members) =
      (members.map (Spacing.onLine.member fun value => Utf8.encode (compactChars value))).flatMap
        ([0x2C] ++ ·) ++ [0x7D] := by
  induction members with
  | nil => rfl
  | cons member members induction =>
      rw [compactMembers, List.map_cons, List.flatMap_cons, Spacing.member]
      simp only [List.cons_append, List.append_assoc, Utf8.encode_cons, Utf8.encode_append, induction]
      rfl

def Style.onLine : Style where
  write _ value := Utf8.encode (compactChars value)
  spacing _ := .onLine
  scalar _ _ _ := rfl
  array _ items := by
    cases items with
    | nil => rw [compactChars]; rfl
    | cons item items =>
        rw [compactChars, List.map_cons, Spacing.join]
        simp only [List.cons_append, List.append_assoc, Utf8.encode_cons, Utf8.encode_append,
          encode_compactItems]
        rfl
  object _ members := by
    cases members with
    | nil => rw [compactChars]; rfl
    | cons member members =>
        rw [compactChars, List.map_cons, Spacing.join, Spacing.member]
        simp only [List.cons_append, List.append_assoc, Utf8.encode_cons, Utf8.encode_append,
          encode_compactMembers]
        rfl

theorem Integral.spells {limit : Nat} {value : Json} (integral : Integral limit value) :
    Spells limit (Utf8.encode (compactChars value)) value :=
  Style.onLine.spells integral 0

theorem names_compact {limit : Nat} {members : List (String × Json)}
    (each : ∀ member ∈ members, Spells limit (Utf8.encode (compactChars member.2)) member.2) :
    ∃ inside, Utf8.encode (compactChars (.object members)) = 0x7B :: inside ∧
      ∀ behind, Names (valueReader limit) true (inside ++ behind) members behind := by
  refine ⟨_, Style.onLine.object 0 members, fun behind => ?_⟩
  rw [List.append_assoc]
  exact Spacing.onLine.names each behind

theorem ofBytes_of_spells {text : List UInt8} {value : Json} (spells : Spells depthLimit text value) :
    ofBytes text = .ok value := by
  have ends : EndsNumber [] := by
    intro byte none
    cases none
  have read := spells.reads [] ends
  rw [List.append_nil] at read
  rw [ofBytes, documentOf, read]
  rfl

end NodeConsole.Json
