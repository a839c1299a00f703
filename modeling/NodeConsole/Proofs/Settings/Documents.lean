import NodeConsole.Proofs.Json.Records
import NodeConsole.Proofs.Settings.BaseUrl
/-!
What the documents of a configuration mean. Two of their members are settings, whatever order the members
stand in and whatever else there is. A configuration that is written down as such a document is read back.
-/

namespace NodeConsole.Settings.Config

open Json (Spelled entries? timesNamed)

structure IsSaid (entries : List (String × Spelled)) (config : Config) : Prop where
  baseUrl : (Members.find? "base_url" entries).elim (config.baseUrl = defaultBaseUrl) fun found =>
    found.value = .string config.baseUrl
  timeout : (Members.find? "timeout_secs" entries).elim (config.timeout = defaultTimeout) fun found =>
    found.bytes = Json.decimal config.timeout.toNat

def Unfit (entries : List (String × Spelled)) : Prop :=
  (∃ found, Members.find? "base_url" entries = some found ∧ ∀ text, found.value ≠ .string text) ∨
    ∃ found, Members.find? "timeout_secs" entries = some found ∧
      ∀ n : UInt64, found.bytes ≠ Json.decimal n.toNat

/-- Results that differ at most in the place and the cause of an error in the document. -/
inductive Alike : Except Error Config → Except Error Config → Prop where
  | same (result : Except Error Config) : Alike result result
  | malformed (left right : Json.Error) : Alike (.error (.malformed left)) (.error (.malformed right))

variable {entries : List (String × Spelled)}

theorem exists_isSaid_iff : (∃ config, IsSaid entries config) ↔ ¬Unfit entries := by
  constructor
  · intro said unfit
    rcases said with ⟨config, said⟩
    rcases unfit with ⟨found, present, noText⟩ | ⟨found, present, noNatural⟩
    · have text := said.baseUrl
      rw [present] at text
      exact noText _ text
    · have natural := said.timeout
      rw [present] at natural
      exact noNatural _ natural
  · intro fit
    rcases not_or.mp fit with ⟨fitBaseUrl, fitTimeout⟩
    have baseUrl : ∃ text, (Members.find? "base_url" entries).elim (text = defaultBaseUrl) fun found =>
        found.value = .string text := by
      cases given : Members.find? "base_url" entries with
      | none => exact ⟨_, rfl⟩
      | some found =>
          apply Classical.byContradiction
          intro noText
          exact fitBaseUrl ⟨found, given, not_exists.mp noText⟩
    have timeout : ∃ n : UInt64, (Members.find? "timeout_secs" entries).elim (n = defaultTimeout)
        fun found => found.bytes = Json.decimal n.toNat := by
      cases given : Members.find? "timeout_secs" entries with
      | none => exact ⟨_, rfl⟩
      | some found =>
          apply Classical.byContradiction
          intro noNatural
          exact fitTimeout ⟨found, given, not_exists.mp noNatural⟩
    rcases baseUrl with ⟨text, baseUrl⟩
    rcases timeout with ⟨n, timeout⟩
    exact ⟨⟨text, n⟩, baseUrl, timeout⟩

/-! ## The record -/

theorem shape_faithful : shape.Faithful := by
  intro field isField
  simp only [shape, List.mem_cons, List.not_mem_nil, or_false] at isField
  rcases isField with rfl | rfl
  · exact Json.stringSlot_faithful
  · exact Json.natural64Slot_faithful

theorem shape_independent : shape.Independent := by
  refine List.pairwise_cons.mpr ⟨?_, List.pairwise_singleton _ _⟩
  intro later member
  rw [List.mem_singleton] at member
  subst member
  exact ⟨by decide, fun _ _ _ => rfl⟩

theorem once_of_fields (onceBaseUrl : timesNamed "base_url" entries ≤ 1)
    (onceTimeout : timesNamed "timeout_secs" entries ≤ 1) :
    ∀ field ∈ shape.fields, timesNamed field.name entries ≤ 1 := by
  intro field isField
  simp only [shape, List.mem_cons, List.not_mem_nil, or_false] at isField
  rcases isField with rfl | rfl
  · exact onceBaseUrl
  · exact onceTimeout

theorem fill?_shape_iff {find : String → Option Json} {config : Config} :
    Json.fill? find shape.initial shape.fields = some config ↔
      Json.stringSlot.taken? defaultBaseUrl (find "base_url") = some config.baseUrl ∧
        Json.natural64Slot.taken? defaultTimeout (find "timeout_secs") = some config.timeout := by
  rw [shape, Json.fill?, Json.Field.fill?_eq_map defaultBaseUrl rfl, Option.bind_map,
    Option.bind_eq_some_iff]
  constructor
  · intro filled
    rcases filled with ⟨text, taken, filled⟩
    rw [Function.comp_apply, Json.fill?, Json.Field.fill?_eq_map defaultTimeout rfl,
      Option.bind_map, Option.bind_eq_some_iff] at filled
    rcases filled with ⟨n, takenTimeout, same⟩
    cases same
    exact ⟨taken, takenTimeout⟩
  · intro taken
    refine ⟨config.baseUrl, taken.1, ?_⟩
    rw [Function.comp_apply, Json.fill?, Json.Field.fill?_eq_map defaultTimeout rfl,
      Option.bind_map, Option.bind_eq_some_iff]
    exact ⟨config.timeout, taken.2, rfl⟩

/-- The members that are settings give a record what they say. -/
theorem shape_ofText_eq_ok_iff {text : String} (listed : entries? text = some entries)
    (onceBaseUrl : timesNamed "base_url" entries ≤ 1) (onceTimeout : timesNamed "timeout_secs" entries ≤ 1)
    (config : Config) : shape.ofText text = .ok config ↔ IsSaid entries config := by
  rcases Json.entries?_eq_some listed with ⟨inside, rest, _, names, _⟩
  have wasRead := names.values.2
  rw [← toOption_eq_some_iff, Json.Shape.ofText_toOption shape_faithful shape_independent listed
      (once_of_fields onceBaseUrl onceTimeout), fill?_shape_iff, Json.Slot.taken?_eq_some_iff,
    Json.Slot.taken?_eq_some_iff]
  have baseUrl : ((Members.find? "base_url" entries).elim (config.baseUrl = defaultBaseUrl) fun found =>
      Json.stringSlot.ofValue found.value = .ok config.baseUrl) ↔
        (Members.find? "base_url" entries).elim (config.baseUrl = defaultBaseUrl) fun found =>
          found.value = .string config.baseUrl := by
    cases Members.find? "base_url" entries with
    | none => rfl
    | some found => exact Json.stringSlot_ofValue_iff
  have timeout : ((Members.find? "timeout_secs" entries).elim (config.timeout = defaultTimeout) fun found =>
      Json.natural64Slot.ofValue found.value = .ok config.timeout) ↔
        (Members.find? "timeout_secs" entries).elim (config.timeout = defaultTimeout) fun found =>
          found.bytes = Json.decimal config.timeout.toNat := by
    cases given : Members.find? "timeout_secs" entries with
    | none => rfl
    | some found => exact (wasRead _ (Members.mem_of_find? given)).natural64Slot_iff config.timeout
  rw [baseUrl, timeout]
  exact ⟨fun said => ⟨said.1, said.2⟩, fun said => ⟨said.baseUrl, said.timeout⟩⟩

/-! ## Documents -/

theorem ofText_of_error {text : String} {reason : Json.Error} (failed : shape.ofText text = .error reason) :
    ofText text = .error (.malformed reason) := by
  rw [ofText, failed]

theorem ofText_of_ok {text : String} {config : Config} (read : shape.ofText text = .ok config) :
    ofText text = config.validated := by
  rw [ofText, read]

theorem alike_of_toOption_eq {text other : String}
    (same : (shape.ofText text).toOption = (shape.ofText other).toOption) :
    Alike (ofText text) (ofText other) := by
  cases read : shape.ofText text with
  | error reason =>
      cases readOther : shape.ofText other with
      | error reasonOther =>
          rw [ofText_of_error read, ofText_of_error readOther]
          exact .malformed reason reasonOther
      | ok config =>
          rw [read, readOther] at same
          cases same
  | ok config =>
      cases readOther : shape.ofText other with
      | error reasonOther =>
          rw [read, readOther] at same
          cases same
      | ok configOther =>
          rw [read, readOther] at same
          cases same
          rw [ofText_of_ok read, ofText_of_ok readOther]
          exact .same _

theorem validated_ne_malformed {config : Config} {reason : Json.Error} :
    config.validated ≠ .error (.malformed reason) := by
  intro failed
  cases parsed : Url.parse config.baseUrl with
  | error error =>
      rw [validated_of_parse_error parsed] at failed
      cases failed
  | ok url =>
      rw [validated_of_parse parsed] at failed
      cases failed

/-- What a document with certain members is read as. -/
structure IsRead (text : String) (entries : List (String × Spelled)) : Prop where
  malformed_iff : (∃ reason, ofText text = .error (.malformed reason)) ↔ Unfit entries
  said : ¬Unfit entries → ∃ config, IsSaid entries config
  ok : ∀ config url, IsSaid entries config → Url.parse config.baseUrl = .ok url → ofText text = .ok config
  refused : ∀ config reason, IsSaid entries config → Url.parse config.baseUrl = .error reason →
    ofText text = .error (.badBaseUrl config.baseUrl reason)
  alike : ∀ other others, entries? other = some others →
    (shape.known entries).Perm (shape.known others) → Alike (ofText text) (ofText other)

theorem isRead_of_listed {text : String} (listed : entries? text = some entries)
    (onceBaseUrl : timesNamed "base_url" entries ≤ 1) (onceTimeout : timesNamed "timeout_secs" entries ≤ 1) :
    IsRead text entries := by
  have record := shape_ofText_eq_ok_iff listed onceBaseUrl onceTimeout
  have whole {config : Config} (said : IsSaid entries config) : ofText text = config.validated :=
    ofText_of_ok ((record config).mpr said)
  constructor
  case malformed_iff =>
    constructor
    · intro malformed
      rcases malformed with ⟨reason, failed⟩
      apply Classical.byContradiction
      intro fit
      rcases exists_isSaid_iff.mpr fit with ⟨config, said⟩
      exact validated_ne_malformed ((whole said).symm.trans failed)
    · intro unfit
      cases read : shape.ofText text with
      | error reason => exact ⟨reason, ofText_of_error read⟩
      | ok config => exact absurd unfit (exists_isSaid_iff.mp ⟨config, (record config).mp read⟩)
  case said => exact exists_isSaid_iff.mpr
  case ok =>
    intro config url said parsed
    rw [whole said, validated_of_parse parsed]
  case refused =>
    intro config reason said failed
    rw [whole said, validated_of_parse_error failed]
  case alike =>
    intro other others listedOther same
    apply alike_of_toOption_eq
    exact Json.Shape.ofText_toOption_perm shape_faithful shape_independent listed listedOther
      (once_of_fields onceBaseUrl onceTimeout) same

/-- Every object is read as its members say, unless a setting is repeated: not as a configuration if one of
them does not fit, else with the base URL that is said, if it is one. -/
theorem isRead_of_document {text : String} {document : List (String × Json)}
    (accepted : Json.ofText text = .ok (.object document)) :
    ∃ entries, entries? text = some entries ∧ document = Members.ofEntries (Json.valuesOf entries) ∧
      (timesNamed "base_url" entries ≤ 1 → timesNamed "timeout_secs" entries ≤ 1 →
        IsRead text entries) := by
  rcases Json.exists_entries accepted with ⟨entries, listed, same⟩
  exact ⟨entries, listed, same, isRead_of_listed listed⟩

def escapedDocument : String :=
  "\x7b\"more\":[\x7b\"base_url\":-0\x7d],\"timeout_secs\":\n18446744073709551615,\"\\u0062ase_url\":\"x:y\"\x7d"

theorem isRead_of_escapedDocument :
    ofText escapedDocument = .ok ⟨"x:y", 18446744073709551615⟩ ∧
      ∃ entries, entries? escapedDocument = some entries ∧ IsRead escapedDocument entries := by
  have names : (entries? escapedDocument).map (·.map Prod.fst) =
      some ["more", "timeout_secs", "base_url"] := by decide +kernel
  rcases Option.map_eq_some_iff.mp names with ⟨listed, isListed, once⟩
  rcases isRead_of_document (Json.ofText_of_entries? isListed) with ⟨entries, found, _, isRead⟩
  cases isListed.symm.trans found
  refine ⟨by decide +kernel, listed, isListed, isRead ?_ ?_⟩
  · rw [timesNamed, once]
    decide
  · rw [timesNamed, once]
    decide

/-! ## Written documents -/

def members (config : Config) : List (String × Json) :=
  [("base_url", .string config.baseUrl), ("timeout_secs", .number (.integer config.timeout.toNat))]

theorem spells_members (config : Config) :
    ∀ member ∈ config.members, Json.Spells 126 (Utf8.encode (Json.compactChars member.2)) member.2 := by
  have bound := config.timeout.toNat_lt
  intro member isMember
  apply Json.Integral.spells
  rw [members, List.mem_cons, List.mem_singleton] at isMember
  rcases isMember with rfl | rfl
  · exact .string 126 _
  · exact .integer 126 (by omega) (by omega)

theorem entries?_toText (config : Config) :
    ∃ entries, Json.entries? config.toText = some entries ∧ Json.valuesOf entries = config.members := by
  rcases Json.names_compact config.spells_members with ⟨inside, written, names⟩
  have names := names []
  rw [List.append_nil] at names
  rcases names.spelled with ⟨entries, listed, same⟩
  refine ⟨entries, Json.entries?_of_names ?_ listed rfl, same⟩
  have whole : Utf8.bytes config.toText = 0x7B :: inside := by
    rw [Utf8.bytes, toText, Json.compact, String.toList_ofList]
    exact written
  rw [whole]
  exact Json.skipBlank_cons rfl inside

theorem shape_ofText_toText (config : Config) : shape.ofText config.toText = .ok config := by
  rcases config.entries?_toText with ⟨entries, listed, values⟩
  have names : config.members.map Prod.fst = ["base_url", "timeout_secs"] := rfl
  have once {name : String} (once : ["base_url", "timeout_secs"].count name ≤ 1) :
      Json.timesNamed name entries ≤ 1 := by
    rw [← Json.timesNamed_valuesOf, values, Json.timesNamed, names]
    exact once
  have sameFind : (fun name => (Members.find? name entries).map Json.Spelled.value) =
      (Members.find? · config.members) := by
    funext name
    rw [← values, Json.find?_valuesOf]
  have timeout : Json.natural64Slot.ofValue (.number (.integer config.timeout.toNat)) =
      .ok config.timeout := by
    rw [Json.natural64Slot_integer, if_pos (Int.natCast_nonneg _), Int.toNat_natCast, UInt64.ofNat_toNat]
  have present : Members.find? "timeout_secs" config.members =
      some (.number (.integer config.timeout.toNat)) := rfl
  rw [← toOption_eq_some_iff, Json.Shape.ofText_toOption shape_faithful shape_independent listed
    (once_of_fields (once (by decide)) (once (by decide))), sameFind, fill?_shape_iff, present,
    Json.Slot.taken?, timeout]
  exact ⟨rfl, rfl⟩

/-- A configuration that was accepted is read back from what is written down. -/
theorem ofText_toText {config : Config} (accepted : config.Accepted) :
    ofText config.toText = .ok config := by
  rcases accepted.parses with ⟨url, parsed⟩
  rw [ofText_of_ok config.shape_ofText_toText, validated_of_parse parsed]

def markedBaseUrl : String :=
  "\thttp://node/\"a\\b\"\x01/ü☃😀?\n"

theorem ofText_toText_of_marks :
    Console.resolveConfig [] none (some markedBaseUrl) (some 18446744073709551615) =
        .ok ⟨markedBaseUrl, 18446744073709551615⟩ ∧
      ofText (toText ⟨markedBaseUrl, 18446744073709551615⟩) =
        .ok ⟨markedBaseUrl, 18446744073709551615⟩ := by
  have chosen : Console.resolveConfig [] none (some markedBaseUrl) (some 18446744073709551615) =
      .ok ⟨markedBaseUrl, 18446744073709551615⟩ := by decide +kernel
  exact ⟨chosen, ofText_toText (.resolved chosen)⟩

end NodeConsole.Settings.Config
