import NodeConsole.Proofs.Console.PayloadSources
import NodeConsole.Proofs.Json.RoundTrip
/-!
What assignments can express. Every key can be given every JSON value and every text that is no JSON, with
blanks around the key; a text is refused only if it has no mark, or nothing but blanks before it.
-/

namespace NodeConsole

/-! ## Trimming -/

namespace Text

def IsBlank (text : String) : Prop :=
  ∀ c ∈ text.toList, isBlank c = true

instance (text : String) : Decidable (IsBlank text) :=
  decidable_of_iff (text.toList.all isBlank = true) List.all_eq_true

theorem trimChars_eq_nil_iff {chars : List Char} :
    trimChars chars = [] ↔ ∀ c ∈ chars, isBlank c = true := by
  rw [← List.dropWhile_eq_nil_iff, trimChars, List.reverse_eq_nil_iff, List.dropWhile_eq_nil_iff]
  constructor
  · intro blank
    apply Classical.byContradiction
    intro visible
    have stops := List.head_dropWhile_not isBlank visible
    rw [blank _ (List.mem_reverse.mpr (List.head_mem visible))] at stops
    cases stops
  · intro none c member
    rw [none] at member
    cases member

theorem dropWhile_of_trimChars_eq {chars : List Char} (trimmed : trimChars chars = chars) :
    chars.dropWhile isBlank = chars ∧ chars.reverse.dropWhile isBlank = chars.reverse := by
  have front : chars.dropWhile isBlank <:+ chars := List.dropWhile_suffix _
  have back := (List.dropWhile_suffix (l := (chars.dropWhile isBlank).reverse) isBlank).length_le
  have whole := congrArg List.length trimmed
  rw [trimChars, List.length_reverse] at whole
  rw [List.length_reverse] at back
  have start : chars.dropWhile isBlank = chars := front.eq_of_length_le (by omega)
  refine ⟨start, ?_⟩
  rw [trimChars, start] at trimmed
  exact List.reverse_eq_iff.mp trimmed

theorem trimChars_append {before chars after : List Char} (trimmed : trimChars chars = chars)
    (nonempty : chars ≠ []) (blankBefore : ∀ c ∈ before, isBlank c = true)
    (blankAfter : ∀ c ∈ after, isBlank c = true) : trimChars (before ++ chars ++ after) = chars := by
  rcases dropWhile_of_trimChars_eq trimmed with ⟨front, back⟩
  have starts : (chars ++ after).dropWhile isBlank = chars ++ after := by
    rw [List.dropWhile_append, front, List.isEmpty_eq_false_iff.mpr nonempty]
    rfl
  have blankBack : ∀ c ∈ after.reverse, isBlank c = true :=
    fun c member => blankAfter c (List.mem_reverse.mp member)
  rw [trimChars, List.append_assoc, List.dropWhile_append_of_pos blankBefore, starts, List.reverse_append,
    List.dropWhile_append_of_pos blankBack, back, List.reverse_reverse]

end Text

namespace Settings.Assignment

/-! ## Where a key ends -/

theorem noMark_of_isBlank {blanks : String} (blank : Text.IsBlank blanks) : '=' ∉ blanks.toList := by
  intro mark
  exact absurd (blank _ mark) (by decide)

theorem passes_of_no_mark {front : List Char} (noMark : '=' ∉ front) : ∀ c ∈ front, (c != '=') = true := by
  intro c member
  rw [bne_iff_ne]
  rintro rfl
  exact noMark member

theorem parse_of_mark {front back : List Char} (noMark : '=' ∉ front) :
    parse (String.ofList (front ++ '=' :: back)) =
      if Text.trimChars front = [] then .error (.noKey (String.ofList (front ++ '=' :: back)))
      else .ok ⟨String.ofList (Text.trimChars front), valueOf (String.ofList back)⟩ := by
  have passes := passes_of_no_mark noMark
  have stops : ¬('=' != '=') = true := by decide
  rw [parse, String.toList_ofList, List.dropWhile_append_of_pos passes, List.takeWhile_append_of_pos passes,
    List.dropWhile_cons_of_neg (p := (· != '=')) stops, List.takeWhile_cons_of_neg (p := (· != '=')) stops,
    List.append_nil]

theorem parse_of_no_mark {text : String} (noMark : '=' ∉ text.toList) :
    parse text = .error (.noMark text) := by
  rw [parse, List.dropWhile_eq_nil_iff.mpr (passes_of_no_mark noMark)]

/-! ## Keys and values -/

theorem parse_between {key before after : String} (isKey : IsKey key) (blankBefore : Text.IsBlank before)
    (blankAfter : Text.IsBlank after) (raw : String) :
    parse (before ++ key ++ after ++ "=" ++ raw) = .ok ⟨key, valueOf raw⟩ := by
  have nonempty : key.toList ≠ [] := fun empty => isKey.nonempty (String.toList_eq_nil_iff.mp empty)
  have noMark : '=' ∉ before.toList ++ key.toList ++ after.toList := by
    simp only [List.mem_append, not_or]
    exact ⟨⟨noMark_of_isBlank blankBefore, isKey.noMark⟩, noMark_of_isBlank blankAfter⟩
  have trimmed := Text.trimChars_append isKey.trimChars_toList nonempty blankBefore blankAfter
  have whole : before ++ key ++ after ++ "=" ++ raw =
      String.ofList (before.toList ++ key.toList ++ after.toList ++ '=' :: raw.toList) := by
    apply String.toList_injective
    simp
  rw [whole, parse_of_mark noMark, trimmed, if_neg nonempty, String.ofList_toList, String.ofList_toList]

theorem valueOf_compact {value : Json} (integral : Json.Integral Json.depthLimit value) :
    valueOf value.compact = value := by
  have bytes : Utf8.bytes value.compact = Utf8.encode (Json.compactChars value) := by
    rw [Utf8.bytes, Json.compact, String.toList_ofList]
  rw [valueOf, Json.ofText, bytes, Json.ofBytes_of_spells integral.spells]

theorem valueOf_of_refused {raw : String} {reason : Json.Error} (refused : Json.ofText raw = .error reason) :
    valueOf raw = .string raw := by
  rw [valueOf, refused]

structure Assignable (key : String) : Prop where
  value : ∀ {before after : String} {value : Json}, Text.IsBlank before → Text.IsBlank after →
    Json.Integral Json.depthLimit value →
    parse (before ++ key ++ after ++ "=" ++ value.compact) = .ok ⟨key, value⟩
  text : ∀ {raw : String} {reason : Json.Error}, Json.ofText raw = .error reason →
    parse (key ++ "=" ++ raw) = .ok ⟨key, .string raw⟩

inductive Refused (text : String) : Error → Prop where
  | noMark (none : '=' ∉ text.toList) : Refused text (.noMark text)
  | noKey {blanks raw : String} (blank : Text.IsBlank blanks) (same : text = blanks ++ "=" ++ raw) :
      Refused text (.noKey text)

theorem parse_eq_error_iff {text : String} {error : Error} :
    parse text = .error error ↔ Refused text error := by
  constructor
  · intro failed
    by_cases mark : '=' ∈ text.toList
    · rcases List.eq_append_cons_of_mem mark with ⟨front, back, parted, noMark⟩
      have same : text = String.ofList (front ++ '=' :: back) := by
        rw [← parted, String.ofList_toList]
      rw [same, parse_of_mark noMark, ← same] at failed
      split at failed
      · next none =>
        cases failed
        have blank : Text.IsBlank (String.ofList front) := by
          rw [Text.IsBlank, String.toList_ofList]
          exact Text.trimChars_eq_nil_iff.mp none
        have whole : text = String.ofList front ++ "=" ++ String.ofList back := by
          apply String.toList_injective
          simp [parted]
        exact .noKey blank whole
      · cases failed
    · rw [parse_of_no_mark mark] at failed
      cases failed
      exact .noMark mark
  · intro refused
    cases refused with
    | noMark none => exact parse_of_no_mark none
    | @noKey blanks raw blank same =>
        have whole : text = String.ofList (blanks.toList ++ '=' :: raw.toList) := by
          rw [same]
          apply String.toList_injective
          simp
        rw [whole, parse_of_mark (noMark_of_isBlank blank), if_pos (Text.trimChars_eq_nil_iff.mpr blank)]

/-- Every value and every text that is no value can be assigned to every key, and there are two reasons only
to refuse a text. -/
theorem assignable_of_isKey {key : String} (isKey : IsKey key) :
    Assignable key ∧ ∀ text error, parse text = .error error ↔ Refused text error := by
  refine ⟨⟨?_, ?_⟩, fun text error => parse_eq_error_iff⟩
  · intro before after value blankBefore blankAfter integral
    rw [parse_between isKey blankBefore blankAfter, valueOf_compact integral]
  · intro raw reason refused
    rw [parse_append isKey, valueOf_of_refused refused]

def markedValue : Json :=
  .object [("=", .array [.string " \"= \n", .number (.integer (-0x8000000000000000))]), ("é", .null)]

theorem assignable_of_isKey_spaced :
    IsKey "node name" ∧
      parse ("\t" ++ "node name" ++ "\u3000" ++ "=" ++ markedValue.compact) = .ok ⟨"node name", markedValue⟩ ∧
      parse ("node name" ++ "=" ++ " = a ") = .ok ⟨"node name", .string " = a "⟩ ∧
      parse " \u0085=4" = .error (.noKey " \u0085=4") := by
  have isKey : IsKey "node name" := ⟨by decide, by decide, by decide⟩
  have before : Text.IsBlank "\t" := by decide
  have after : Text.IsBlank "\u3000" := by decide
  have integral : Json.Integral Json.depthLimit markedValue := by
    have members : ∀ member ∈ [("=", Json.array [.string " \"= \n", .number (.integer (-0x8000000000000000))]),
        ("é", Json.null)], Json.Integral 126 member.2 := by
      intro member inside
      simp only [List.mem_cons, List.not_mem_nil, or_false] at inside
      rcases inside with rfl | rfl
      · apply Json.Integral.array
        intro item listed
        simp only [List.mem_cons, List.not_mem_nil, or_false] at listed
        rcases listed with rfl | rfl
        · exact .string _ _
        · exact .integer _ (by decide) (by decide)
      · exact .null _
    exact .object (by decide) members
  have refused : Json.ofText " = a " = .error ⟨.expectedValue, some ⟨1, 2⟩⟩ := rfl
  rcases assignable_of_isKey isKey with ⟨assignable, errors⟩
  refine ⟨isKey, assignable.value before after integral, assignable.text refused, ?_⟩
  have blank : Text.IsBlank " \u0085" := by decide
  have whole : " \u0085=4" = " \u0085" ++ "=" ++ "4" := by decide
  rw [errors]
  exact .noKey blank whole

end Settings.Assignment

end NodeConsole
