import NodeConsole.Proofs.Gateway.Transparency
import NodeConsole.Proofs.Results
import NodeConsole.Proofs.Url.Climbing
/-!
Areas as texts and as segments. Slashes at the end of the text of an area do not count, and an area read
from a text is read from itself again. A path lies in an area exactly if the segments of the area are the
first ones of the path, empty segments included.
-/

namespace NodeConsole.Url

theorem splitOn_prefix_iff {start path : List Char} :
    start.splitOn '/' <+: path.splitOn '/' ↔ path = start ∨ ∃ rest, path = start ++ '/' :: rest := by
  constructor
  · intro starts
    obtain ⟨more, same⟩ := starts
    -- Joined again, the segments on either side are the path itself behind one more slash.
    have joined : '/' :: path = '/' :: (start ++ joinSegments more) := by
      rw [← joinSegments_splitOn path, ← same, joinSegments_append, joinSegments_splitOn,
        List.cons_append]
    have whole : path = start ++ joinSegments more := (List.cons.inj joined).2
    cases more with
    | nil =>
        left
        rw [whole, joinSegments, List.flatMap_nil, List.append_nil]
    | cons segment later =>
        right
        refine ⟨segment ++ joinSegments later, ?_⟩
        rw [whole, joinSegments_cons, List.cons_append]
  · intro lies
    cases lies with
    | inl same =>
        subst same
        exact List.prefix_refl _
    | inr goesOn =>
        obtain ⟨rest, same⟩ := goesOn
        rw [same, splitOn_append_slash]
        exact List.prefix_append _ _

end NodeConsole.Url

namespace NodeConsole.Gateway

/-! ## Slashes at the end -/

theorem withoutEndSlashes_eq_nil_iff {text : List Char} :
    withoutEndSlashes text = [] ↔ ∀ c ∈ text, c = '/' := by
  rw [withoutEndSlashes_eq, List.rdropWhile_eq_nil_iff]
  simp only [beq_iff_eq]

theorem getLast?_withoutEndSlashes (text : List Char) :
    (withoutEndSlashes text).getLast? ≠ some '/' := by
  intro slash
  obtain ⟨kept, last⟩ := List.mem_getLast?_eq_getLast slash
  have counts := List.rdropWhile_last_not (· == '/') text kept
  apply counts
  exact beq_iff_eq.mpr last.symm

theorem withoutEndSlashes_idempotent (text : List Char) :
    withoutEndSlashes (withoutEndSlashes text) = withoutEndSlashes text :=
  List.rdropWhile_idempotent (· == '/') text

theorem withoutEndSlashes_append_slashes (text : List Char) (count : Nat) :
    withoutEndSlashes (text ++ List.replicate count '/') = withoutEndSlashes text := by
  induction count with
  | zero => rw [List.replicate_zero, List.append_nil]
  | succ count induction =>
      rw [List.replicate_succ', ← List.append_assoc, withoutEndSlashes_eq,
        List.rdropWhile_concat_pos (· == '/') _ '/' rfl]
      exact induction

namespace Config

/-! ## Areas that are read -/

theorem readArea_eq_error_iff {text : String} {fault : Error} :
    readArea text = .error fault ↔
      fault = .badArea text ∧ (text.toList.head? ≠ some '/' ∨ ∀ c ∈ text.toList, c = '/') := by
  have bad : ¬(text.toList.head? = some '/' ∧ withoutEndSlashes text.toList ≠ []) ↔
      text.toList.head? ≠ some '/' ∨ ∀ c ∈ text.toList, c = '/' := by
    rw [Decidable.not_and_iff_not_or_not, not_not, withoutEndSlashes_eq_nil_iff]
  rw [readArea, ← bad]
  split
  · next good =>
    constructor
    · intro read
      cases read
    · intro refused
      exact absurd good refused.2
  · next refused =>
    constructor
    · intro read
      cases read
      exact ⟨rfl, refused⟩
    · intro told
      rw [told.1]

theorem readArea_append_slashes {text : String} {area : List Char} (read : readArea text = .ok area)
    (count : Nat) : readArea (text ++ String.ofList (List.replicate count '/')) = .ok area := by
  obtain ⟨rooted, trimmed, nonempty⟩ := readArea_eq_ok_iff.mp read
  rw [readArea_eq_ok_iff, String.toList_append, String.toList_ofList, withoutEndSlashes_append_slashes]
  refine ⟨?_, trimmed, nonempty⟩
  rw [List.head?_append, rooted]
  rfl

theorem readArea_ofList {text : String} {area : List Char} (read : readArea text = .ok area) :
    readArea (String.ofList area) = .ok area := by
  obtain ⟨rooted, trimmed, nonempty⟩ := readArea_eq_ok_iff.mp read
  rw [readArea_eq_ok_iff, String.toList_ofList]
  refine ⟨head?_of_readArea read, ?_, nonempty⟩
  rw [← trimmed, withoutEndSlashes_idempotent]

/-! ## Configurations -/

variable {listen : Listen} {area target : String} {config : Config}

theorem of_readTarget_eq_error {text : String} {fault : Error} (read : readTarget text = .error fault) :
    fault = .badTarget text := by
  rw [readTarget] at read
  split at read
  · cases read
    rfl
  · split at read
    · cases read
    · cases read
      rfl

theorem make_eq_badArea_iff {text : String} :
    make listen area target = .error (.badArea text) ↔ readArea area = .error (.badArea text) := by
  constructor
  · intro made
    cases bind_eq_error made with
    | inl areaRead => exact areaRead
    | inr later =>
        obtain ⟨chars, _, later⟩ := later
        cases bind_eq_error later with
        | inl targetRead => cases of_readTarget_eq_error targetRead
        | inr done =>
            obtain ⟨url, _, done⟩ := done
            cases done
  · intro areaRead
    rw [make, areaRead]
    rfl

/-! ## Areas of paths -/

/-- A path lies in an area exactly if its first segments are those of the area. -/
theorem covers_iff_segments {path : List Char} :
    config.covers path = true ↔ config.area.splitOn '/' <+: path.splitOn '/' :=
  covers_iff.trans Url.splitOn_prefix_iff.symm

/-- Areas by their segments. A text is refused for its area, whatever the target is, exactly if it does not
start with a slash or has nothing but slashes. The area of a gateway starts with a slash and ends in none;
its text with slashes added, and the area itself as a text, give the same gateway; and it holds the paths
whose first segments are those of the area. -/
theorem area_segmentwise (listen : Listen) (area target : String) :
    (∀ text, make listen area target = .error (.badArea text) ↔
        text = area ∧ (area.toList.head? ≠ some '/' ∨ ∀ c ∈ area.toList, c = '/')) ∧
      ∀ config, make listen area target = .ok config →
        config.area.head? = some '/' ∧ config.area.getLast? ≠ some '/' ∧
          (∀ count, make listen (area ++ String.ofList (List.replicate count '/')) target =
            .ok config) ∧
          make listen (String.ofList config.area) target = .ok config ∧
          ∀ path, config.covers path = true ↔ config.area.splitOn '/' <+: path.splitOn '/' := by
  constructor
  · intro text
    rw [make_eq_badArea_iff, readArea_eq_error_iff, Error.badArea.injEq]
  · intro config made
    obtain ⟨areaRead, targetRead, sameListen⟩ := make_eq_ok_iff.mp made
    have trimmed := (readArea_eq_ok_iff.mp areaRead).2.1
    refine ⟨head?_area made, ?_, ?_, ?_, ?_⟩
    · rw [← trimmed]
      exact getLast?_withoutEndSlashes area.toList
    · intro count
      exact make_eq_ok_iff.mpr ⟨readArea_append_slashes areaRead count, targetRead, sameListen⟩
    · exact make_eq_ok_iff.mpr ⟨readArea_ofList areaRead, targetRead, sameListen⟩
    · intro path
      exact covers_iff_segments

def gappedGateway : Config :=
  { nodeGateway with area := "/a//b".toList }

theorem area_segmentwise_of_gap :
    make usualListen "/a//b/" "http://u:p@gw:8080/node-a/" = .ok gappedGateway ∧
      make usualListen "/a//b" "http://u:p@gw:8080/node-a/" = .ok gappedGateway ∧
      gappedGateway.covers "/a//b//c".toList = true ∧
      gappedGateway.covers "/a/b/c".toList = false ∧ gappedGateway.covers "/a//bc".toList = false := by
  have made : make usualListen "/a//b/" "http://u:p@gw:8080/node-a/" = .ok gappedGateway := by
    decide +kernel
  obtain ⟨_, _, _, again, segments⟩ :=
    (area_segmentwise usualListen "/a//b/" "http://u:p@gw:8080/node-a/").2 gappedGateway made
  refine ⟨made, again, (segments _).mpr (by decide), ?_, ?_⟩
  · exact Bool.eq_false_iff.mpr fun covered => absurd ((segments _).mp covered) (by decide)
  · exact Bool.eq_false_iff.mpr fun covered => absurd ((segments _).mp covered) (by decide)

end Config

end NodeConsole.Gateway
