import NodeConsole.Preferences.Basic
import NodeConsole.Proofs.Json.RecordSources
/-!
What the documents of preferences mean. An object gives the flags by their names, an array by their places;
it makes no difference whether the preferences are read from its text or from its value.
-/

namespace NodeConsole.Preferences

open Json (entries? timesNamed)

/-! ## What a document says -/

def Flag.name : Flag → String
  | .waveBackground => "showWaveBg"
  | .minimizedNotification => "showMinimizedNotification"
  | .settingsDialog => "showSettingsModal"

def Flag.place : Flag → Nat
  | .waveBackground => 0
  | .minimizedNotification => 1
  | .settingsDialog => 2

def given? (flag : Flag) : Json → Option Json
  | .object members => Members.find? flag.name members
  | .array items => items[flag.place]?
  | _ => none

def IsDocument : Json → Prop
  | .object _ => True
  | .array items => items.length ≤ 3
  | _ => False

def Follows (find : Flag → Option Json) (preferences : Preferences) : Prop :=
  ∀ flag, (find flag).elim (preferences.get flag = ({} : Preferences).get flag) fun value =>
    value = .bool (preferences.get flag)

def Says (value : Json) (preferences : Preferences) : Prop :=
  IsDocument value ∧ Follows (given? · value) preferences

/-- Whether a document has nothing but `true` and `false` for the flags: in an object under their names,
whatever else there is; in an array there is nothing else. -/
def Fits : Json → Prop
  | .object members => ∀ flag : Flag, ∀ value, Members.find? flag.name members = some value →
      ∃ chosen, value = .bool chosen
  | .array items => items.length ≤ 3 ∧ ∀ item ∈ items, ∃ chosen, item = .bool chosen
  | _ => False

theorem exists_follows_iff {find : Flag → Option Json} :
    (∃ preferences, Follows find preferences) ↔
      ∀ flag value, find flag = some value → ∃ chosen, value = .bool chosen := by
  constructor
  · intro followed flag value found
    rcases followed with ⟨preferences, follows⟩
    have chosen := follows flag
    rw [found] at chosen
    exact ⟨_, chosen⟩
  · intro fits
    have choose (flag : Flag) : ∃ chosen, (find flag).elim (chosen = ({} : Preferences).get flag) fun value =>
        value = .bool chosen := by
      cases found : find flag with
      | none => exact ⟨_, rfl⟩
      | some value => exact fits flag value found
    rcases choose .waveBackground with ⟨wave, chosenWave⟩
    rcases choose .minimizedNotification with ⟨notification, chosenNotification⟩
    rcases choose .settingsDialog with ⟨dialog, chosenDialog⟩
    refine ⟨⟨wave, notification, dialog⟩, fun flag => ?_⟩
    cases flag with
    | waveBackground => exact chosenWave
    | minimizedNotification => exact chosenNotification
    | settingsDialog => exact chosenDialog

theorem exists_place {place : Nat} (bound : place < 3) : ∃ flag : Flag, flag.place = place := by
  rcases place with _ | _ | _ | place
  · exact ⟨.waveBackground, rfl⟩
  · exact ⟨.minimizedNotification, rfl⟩
  · exact ⟨.settingsDialog, rfl⟩
  · omega

theorem exists_meant_iff {value : Json} : (∃ preferences, Says value preferences) ↔ Fits value := by
  have parts : (∃ preferences, Says value preferences) ↔
      IsDocument value ∧ ∀ flag found, given? flag value = some found → ∃ chosen, found = .bool chosen := by
    rw [← exists_follows_iff, ← exists_and_left]
    rfl
  rw [parts]
  cases value with
  | object members => exact and_iff_right trivial
  | array items =>
      apply and_congr_right
      intro bound
      constructor
      · intro fits item member
        rcases List.getElem?_of_mem member with ⟨place, found⟩
        rcases List.getElem?_eq_some_iff.mp found with ⟨inside, _⟩
        rcases exists_place (Nat.lt_of_lt_of_le inside bound) with ⟨flag, rfl⟩
        exact fits flag item found
      · intro fits flag item found
        exact fits item (List.mem_of_getElem? found)
  | _ => exact iff_of_false And.left id

/-! ## The record -/

theorem shape_faithful : shape.Faithful := by
  intro field isField
  simp only [shape, List.mem_cons, List.not_mem_nil, or_false] at isField
  rcases isField with rfl | rfl | rfl <;> exact Json.boolSlot_faithful

theorem shape_independent : shape.Independent := by
  refine .cons (fun later member => ?_) (.cons (fun later member => ?_) (List.pairwise_singleton _ _))
  · simp only [List.mem_cons, List.not_mem_nil, or_false] at member
    rcases member with rfl | rfl <;> exact ⟨by decide, fun _ _ _ => rfl⟩
  · rw [List.mem_singleton] at member
    subst member
    exact ⟨by decide, fun _ _ _ => rfl⟩

theorem shape_named (flag : Flag) : (shape.fields.map Json.Field.name)[flag.place]? = some flag.name := by
  cases flag <;> rfl

theorem exists_flag_of_field {field : Json.Field Preferences} (isField : field ∈ shape.fields) :
    ∃ flag : Flag, field.name = flag.name := by
  simp only [shape, List.mem_cons, List.not_mem_nil, or_false] at isField
  rcases isField with rfl | rfl | rfl
  · exact ⟨.waveBackground, rfl⟩
  · exact ⟨.minimizedNotification, rfl⟩
  · exact ⟨.settingsDialog, rfl⟩

theorem boolSlot_taken?_iff {initial chosen : Bool} {given : Option Json} :
    Json.boolSlot.taken? initial given = some chosen ↔
      given.elim (chosen = initial) fun value => value = .bool chosen := by
  cases given with
  | none =>
      rw [Json.Slot.taken?, Option.some.injEq]
      exact eq_comm
  | some value =>
      rw [Json.Slot.taken?, toOption_eq_some_iff]
      exact Json.boolSlot_ofValue_iff

theorem fill?_shape_iff {find : String → Option Json} {preferences : Preferences} :
    Json.fill? find shape.initial shape.fields = some preferences ↔
      Follows (fun flag => find flag.name) preferences := by
  rw [shape, Json.fill?, Json.Field.fill?_eq_map true rfl, Option.bind_map, Option.bind_eq_some_iff]
  constructor
  · intro filled
    rcases filled with ⟨wave, takenWave, filled⟩
    rw [Function.comp_apply, Json.fill?, Json.Field.fill?_eq_map true rfl, Option.bind_map,
      Option.bind_eq_some_iff] at filled
    rcases filled with ⟨notification, takenNotification, filled⟩
    rw [Function.comp_apply, Json.fill?, Json.Field.fill?_eq_map false rfl, Option.bind_map,
      Option.bind_eq_some_iff] at filled
    rcases filled with ⟨dialog, takenDialog, same⟩
    cases same
    intro flag
    cases flag with
    | waveBackground => exact boolSlot_taken?_iff.mp takenWave
    | minimizedNotification => exact boolSlot_taken?_iff.mp takenNotification
    | settingsDialog => exact boolSlot_taken?_iff.mp takenDialog
  · intro follows
    refine ⟨preferences.waveBackground, boolSlot_taken?_iff.mpr (follows .waveBackground), ?_⟩
    rw [Function.comp_apply, Json.fill?, Json.Field.fill?_eq_map true rfl, Option.bind_map,
      Option.bind_eq_some_iff]
    refine ⟨preferences.minimizedNotification, boolSlot_taken?_iff.mpr (follows .minimizedNotification), ?_⟩
    rw [Function.comp_apply, Json.fill?, Json.Field.fill?_eq_map false rfl, Option.bind_map,
      Option.bind_eq_some_iff]
    exact ⟨preferences.settingsDialog, boolSlot_taken?_iff.mpr (follows .settingsDialog), rfl⟩

/-! ## Values -/

theorem ofJson_iff_meant {value : Json} (ordered : ∀ members, value = .object members → Members.Ascending members)
    (preferences : Preferences) : ofJson value = .ok preferences ↔ Says value preferences := by
  rw [← toOption_eq_some_iff, ofJson]
  cases value with
  | object members =>
      have once : ∀ field ∈ shape.fields, timesNamed field.name members ≤ 1 :=
        fun field _ => Json.timesNamed_of_ascending (ordered members rfl) field.name
      rw [Json.Shape.ofValue, Json.Shape.namedOf_toOption shape_independent once]
      exact fill?_shape_iff.trans (and_iff_right trivial).symm
  | array items =>
      have distinct : shape.fields.Pairwise fun earlier later => earlier.name ≠ later.name :=
        shape_independent.imp And.left
      have places (flag : Flag) :
          Members.find? flag.name ((shape.fields.map Json.Field.name).zip items) = items[flag.place]? :=
        Members.find?_zip (by decide) (shape_named flag) items
      rw [Json.Shape.ofValue_array, Json.positionalOf_toOption distinct]
      split
      · next bound =>
        rw [fill?_shape_iff, funext places]
        exact (and_iff_right bound).symm
      · next beyond =>
        constructor
        · intro none
          cases none
        · intro meant
          exact absurd meant.1 beyond
  | _ =>
      constructor
      · intro none
        cases none
      · intro meant
        exact meant.1.elim

/-! ## Documents -/

/-- A document that gives no flag again is read from its text as from its value: as what it says, unless it
has something else than `true` and `false` for a flag. -/
theorem readAlike_of_accepted {text : String} {value : Json} (accepted : Json.ofText text = .ok value)
    (once : ∀ entries, entries? text = some entries → ∀ flag : Flag, timesNamed flag.name entries ≤ 1) :
    (ofText text).toOption = (ofJson value).toOption ∧
      (∀ preferences, ofText text = .ok preferences ↔ Says value preferences) ∧
      ((∃ preferences, ofText text = .ok preferences) ↔ Fits value) := by
  have alike : (ofText text).toOption = (ofJson value).toOption := by
    apply Json.Shape.ofText_toOption_eq_ofValue shape_faithful shape_independent accepted
    intro entries listed field isField
    rcases exists_flag_of_field isField with ⟨flag, same⟩
    rw [same]
    exact once entries listed flag
  have ordered : ∀ members, value = .object members → Members.Ascending members := by
    intro members same
    subst same
    rcases Json.exists_entries accepted with ⟨entries, _, rfl⟩
    exact Members.ascending_ofEntries _
  have meant (preferences : Preferences) : ofText text = .ok preferences ↔ Says value preferences := by
    rw [← ofJson_iff_meant ordered, ← toOption_eq_some_iff, alike, toOption_eq_some_iff]
  exact ⟨alike, meant, (exists_congr meant).trans exists_meant_iff⟩

def escapedDocument : String :=
  "\x7b\"more\":[\x7b\"showWaveBg\":-0\x7d],\"showSettings\\u004dodal\":\ntrue,\"showWaveBg\":false\x7d"

theorem readAlike_of_escapedDocument :
    ∃ value, Json.ofText escapedDocument = .ok value ∧
      ofText escapedDocument = .ok ⟨false, true, true⟩ ∧ ofJson value = .ok ⟨false, true, true⟩ ∧
      Says value ⟨false, true, true⟩ ∧ Fits value := by
  have names : (entries? escapedDocument).map (·.map Prod.fst) =
      some ["more", "showSettingsModal", "showWaveBg"] := by decide +kernel
  rcases Option.map_eq_some_iff.mp names with ⟨listed, isListed, same⟩
  have once : ∀ entries, entries? escapedDocument = some entries →
      ∀ flag : Flag, timesNamed flag.name entries ≤ 1 := by
    intro entries found flag
    cases isListed.symm.trans found
    rw [timesNamed, same]
    cases flag <;> decide
  have accepted := Json.ofText_of_entries? isListed
  have read : ofText escapedDocument = .ok ⟨false, true, true⟩ := by decide +kernel
  rcases readAlike_of_accepted accepted once with ⟨alike, meant, fits⟩
  rw [read] at alike
  exact ⟨_, accepted, read, toOption_eq_some_iff.mp alike.symm, (meant _).mp read, fits.mp ⟨_, read⟩⟩

end NodeConsole.Preferences
