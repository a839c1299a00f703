import NodeConsole.Json.Record
import NodeConsole.Proofs.Json.Entries
import NodeConsole.Proofs.Json.Skipped
import NodeConsole.Proofs.Results
/-!
Records read from objects. A record is read from a text without building the values of its members first,
and what is no field is only skipped; here this is compared with what the members say, looked up by name.
-/

namespace NodeConsole.Json

/-- A scan comes to an outcome, with `rest` behind it; the places and causes of errors do not count. -/
structure Agrees {α : Type} (scan : Scan α) (outcome : Except Cause α) (rest : List UInt8) : Prop where
  ok : ∀ value, outcome = .ok value → scan = .ok (value, rest)
  error : ∀ cause, outcome = .error cause → ∃ fault, scan = .error fault

section

variable {α : Type} {scan : Scan α} {rest : List UInt8}

theorem agrees_ok {value : α} (read : scan = .ok (value, rest)) : Agrees scan (.ok value) rest where
  ok found same := by
    cases same
    exact read
  error cause none := by cases none

theorem agrees_error {fault : Fault} (failed : scan = .error fault) (cause : Cause) :
    Agrees scan (.error cause) rest where
  ok found none := by cases none
  error other _ := ⟨fault, failed⟩

end

/-! ## Slots -/

def Slot.Faithful {α : Type} (slot : Slot α) : Prop :=
  ∀ {limit : Nat} {s rest : List UInt8} {value : Json}, (valueReader limit).read s = .ok (value, rest) →
    Agrees (slot.reader.read s) (slot.ofValue value) rest

/-- A slot that takes no arrays and no objects need not look into them. -/
theorem scalarSlot_faithful {α : Type} {expected : Expected} {accept : Json → Option (Except Cause α)}
    (noArray : ∀ items, accept (.array items) = none)
    (noObject : ∀ members, accept (.object members) = none) : (scalarSlot expected accept).Faithful := by
  intro limit s rest value read
  rw [scalarSlot, scalarReader]
  dsimp only
  rcases read_cases read with ⟨blanks, blank, ⟨byte, tail, starts, rfl, scalar⟩ | ⟨_, _, inner⟩⟩
  · have noBracket : ¬(byte = 0x5B ∨ byte = 0x7B) := not_or.mpr starts.2
    rw [skipBlank_eq_cons blank starts.1]
    dsimp only
    rw [if_neg noBracket, scalar]
    dsimp only
    cases accept value with
    | none => exact agrees_error rfl _
    | some result =>
        cases result with
        | error cause => exact agrees_error rfl cause
        | ok found => exact agrees_ok rfl
  · rcases inner with ⟨values, tail, rfl, _, rfl⟩ | ⟨entries, tail, rfl, _, rfl⟩
    · rw [skipBlank_eq_cons blank rfl, noArray]
      exact agrees_error rfl _
    · rw [skipBlank_eq_cons blank rfl, ofEntries, noObject]
      exact agrees_error rfl _

theorem boolSlot_faithful : boolSlot.Faithful :=
  scalarSlot_faithful (fun _ => rfl) (fun _ => rfl)

theorem stringSlot_faithful : stringSlot.Faithful :=
  scalarSlot_faithful (fun _ => rfl) (fun _ => rfl)

theorem natural64Slot_faithful : natural64Slot.Faithful :=
  scalarSlot_faithful (fun _ => rfl) (fun _ => rfl)

theorem boolSlot_ofValue_iff {value : Json} {chosen : Bool} :
    boolSlot.ofValue value = .ok chosen ↔ value = .bool chosen := by
  constructor
  · intro made
    cases value with
    | bool found =>
        cases made
        rfl
    | _ => cases made
  · intro same
    rw [same]
    rfl

theorem stringSlot_ofValue_iff {value : Json} {text : String} :
    stringSlot.ofValue value = .ok text ↔ value = .string text := by
  constructor
  · intro made
    cases value with
    | string found =>
        cases made
        rfl
    | _ => cases made
  · intro same
    rw [same]
    rfl

theorem natural64Slot_integer (i : Int) :
    natural64Slot.ofValue (.number (.integer i)) =
      if 0 ≤ i then .ok (UInt64.ofNat i.toNat)
      else .error (.wrongValue (.number (.integer i)) .natural64) :=
  rfl

theorem Spelled.WasRead.natural64Slot_iff {limit : Nat} {spelled : Spelled}
    (wasRead : spelled.WasRead limit) (n : UInt64) :
    natural64Slot.ofValue spelled.value = .ok n ↔ spelled.bytes = decimal n.toNat := by
  constructor
  · intro made
    cases value : spelled.value with
    | number number =>
        rw [value] at made
        cases number with
        | integer i =>
            rw [natural64Slot_integer] at made
            split at made
            · next nonneg =>
              have natural : spelled.value = .number (.integer (i.toNat : Int)) := by
                rw [value, Int.toNat_of_nonneg nonneg]
              rcases (wasRead.natural_iff _).mp natural with ⟨written, bound⟩
              cases made
              rw [written, UInt64.toNat_ofNat_of_lt' bound]
            · cases made
        | float _ => cases made
    | _ =>
        rw [value] at made
        cases made
  · intro written
    rw [(wasRead.natural_iff n.toNat).mpr ⟨written, n.toNat_lt⟩, natural64Slot_integer,
      if_pos (Int.natCast_nonneg _), Int.toNat_natCast, UInt64.ofNat_toNat]

def Slot.taken? {α : Type} (slot : Slot α) (initial : α) : Option Json → Option α
  | none => some initial
  | some value => (slot.ofValue value).toOption

theorem Slot.taken?_eq_some_iff {α : Type} {slot : Slot α} {initial a : α} {given : Option Spelled} :
    slot.taken? initial (given.map Spelled.value) = some a ↔
      given.elim (a = initial) fun spelled => slot.ofValue spelled.value = .ok a := by
  cases given with
  | none =>
      rw [Option.map_none, taken?, Option.some.injEq]
      exact eq_comm
  | some spelled => exact toOption_eq_some_iff

/-! ## Members by name -/

variable {ρ : Type} {shape : Shape ρ}

def Shape.Faithful (shape : Shape ρ) : Prop :=
  ∀ field ∈ shape.fields, field.slot.Faithful

theorem Shape.of_field? {name : String} {field : Field ρ} (known : shape.field? name = some field) :
    field ∈ shape.fields ∧ field.name = name := by
  rw [field?] at known
  have same := List.find?_some known
  exact ⟨List.mem_of_find?_eq_some known, eq_of_beq same⟩

theorem Shape.field?_eq_none_iff {name : String} :
    shape.field? name = none ↔ ∀ field ∈ shape.fields, field.name ≠ name := by
  rw [field?, List.find?_eq_none]
  constructor
  · intro other field member same
    exact other field member (beq_iff_eq.mpr same)
  · intro other field member same
    exact other field member (beq_iff_eq.mp same)

section

variable {record : ρ} {first : Bool} {seen : List String} {s rest : List UInt8}

theorem Shape.namedScan_done (next : nextName first s = .ok (none, rest)) :
    shape.namedScan record first seen s = .ok (record, rest) := by
  rw [namedScan.eq_def]
  split
  · next failed => cases next.symm.trans failed
  · next found =>
    cases next.symm.trans found
    rfl
  · next found => cases next.symm.trans found

theorem Shape.namedScan_member {name : String} {afterName valueText : List UInt8}
    (next : nextName first s = .ok (some name, afterName)) (separator : colon afterName = .ok valueText)
    (unseen : ∀ field, shape.field? name = some field → name ∉ seen) :
    shape.namedScan record first seen s =
      match shape.memberScan name record valueText with
      | .error fault => .error fault
      | .ok (record, rest) => shape.namedScan record false (name :: seen) rest := by
  have fresh : ¬((shape.field? name).isSome && seen.contains name) = true := by
    intro repeated
    rw [Bool.and_eq_true, List.contains_iff_mem] at repeated
    rcases Option.isSome_iff_exists.mp repeated.1 with ⟨field, known⟩
    exact unseen field known repeated.2
  rw [namedScan.eq_def]
  split
  · next failed => cases next.symm.trans failed
  · next found => cases next.symm.trans found
  · next found =>
    cases next.symm.trans found
    rw [if_neg fresh]
    split
    · next failed => cases separator.symm.trans failed
    · next found =>
      cases separator.symm.trans found
      split
      · next failed => rw [failed]
      · next read => rw [read]

end

theorem Field.scan_agrees {field : Field ρ} (faithful : field.slot.Faithful) {limit : Nat}
    {s rest : List UInt8} {value : Json} (read : (valueReader limit).read s = .ok (value, rest)) (record : ρ) :
    Agrees (field.scan record s) ((field.slot.ofValue value).map (field.set · record)) rest := by
  have agrees := faithful read
  rw [Field.scan]
  cases made : field.slot.ofValue value with
  | error cause =>
      rcases agrees.error cause made with ⟨fault, failed⟩
      rw [failed]
      exact agrees_error rfl cause
  | ok found =>
      rw [agrees.ok found made]
      exact agrees_ok rfl

theorem Shape.memberScan_agrees (faithful : shape.Faithful) {limit : Nat} {s rest : List UInt8}
    {value : Json} (read : (valueReader limit).read s = .ok (value, rest)) (name : String) (record : ρ) :
    Agrees (shape.memberScan name record s) (shape.namedOf record [(name, value)]) rest := by
  rw [memberScan, namedOf]
  cases known : shape.field? name with
  | none =>
      apply agrees_ok
      dsimp only
      rw [skipInto, skipReader_of_read read]
  | some field =>
      have agrees := Field.scan_agrees (faithful field (of_field? known).1) read record
      dsimp only
      cases made : field.slot.ofValue value with
      | error cause =>
          rw [made] at agrees
          exact agrees
      | ok found =>
          rw [made] at agrees
          exact agrees

theorem Shape.namedOf_cons (record : ρ) (member : String × Json) (members : List (String × Json)) :
    shape.namedOf record (member :: members) =
      match shape.namedOf record [member] with
      | .error cause => .error cause
      | .ok record => shape.namedOf record members := by
  rcases member with ⟨name, value⟩
  rw [namedOf, namedOf]
  cases shape.field? name with
  | none => rfl
  | some field =>
      dsimp only
      cases field.slot.ofValue value with
      | error cause => rfl
      | ok found => rfl

def timesNamed {α : Type} (name : String) (entries : List (String × α)) : Nat :=
  (entries.map Prod.fst).count name

section

variable {α : Type} (name : String) (entry : String × α) (entries : List (String × α))

theorem timesNamed_cons :
    timesNamed name (entry :: entries) = timesNamed name entries + if entry.1 == name then 1 else 0 :=
  List.count_cons

theorem timesNamed_cons_self (value : α) :
    timesNamed name ((name, value) :: entries) = timesNamed name entries + 1 :=
  List.count_cons_self

theorem timesNamed_le_cons : timesNamed name entries ≤ timesNamed name (entry :: entries) := by
  rw [timesNamed_cons]
  exact Nat.le_add_right _ _

end

/-- The members of an object in a text, none of which gives a field again, fill a record as their values
do. -/
theorem Names.agrees (faithful : shape.Faithful) {limit : Nat} {first : Bool} {s rest : List UInt8}
    {entries : List (String × Json)} (names : Names (valueReader limit) first s entries rest) (record : ρ)
    (seen : List String)
    (once : ∀ field ∈ shape.fields, seen.count field.name + timesNamed field.name entries ≤ 1) :
    Agrees (shape.namedScan record first seen s) (shape.namedOf record entries) rest := by
  -- By induction on the members; each name that was passed is among those seen.
  induction names generalizing record seen with
  | done blank rest => exact agrees_ok (Shape.namedScan_done (nextName_close _ blank rest))
  | @member first gap inside blanks valueText after rest name found entries isGap nameRead blank read later
      induction =>
      have unseen : ∀ field, shape.field? name = some field → name ∉ seen := by
        intro field known member
        rcases Shape.of_field? known with ⟨isField, same⟩
        have bound := once field isField
        have before := List.count_pos_iff.mpr member
        rw [same, timesNamed_cons_self] at bound
        omega
      have onceBehind : ∀ field ∈ shape.fields,
          (name :: seen).count field.name + timesNamed field.name entries ≤ 1 := by
        intro field isField
        have bound := once field isField
        rw [timesNamed_cons] at bound
        rw [List.count_cons]
        dsimp only at bound
        omega
      rw [Shape.namedScan_member (nextName_gap isGap nameRead) (colon_append blank _) unseen,
        Shape.namedOf_cons]
      have agrees := Shape.memberScan_agrees faithful read name record
      cases single : shape.namedOf record [(name, found)] with
      | error cause =>
          rcases agrees.error cause single with ⟨fault, failed⟩
          rw [failed]
          exact agrees_error rfl cause
      | ok filled =>
          rw [agrees.ok filled single]
          exact induction filled (name :: seen) onceBehind

/-! ## Fields in order -/

def Field.fill? (field : Field ρ) (find : String → Option Json) (record : ρ) : Option ρ :=
  match find field.name with
  | none => some record
  | some value => (field.slot.ofValue value).toOption.map (field.set · record)

def fill? (find : String → Option Json) (record : ρ) : List (Field ρ) → Option ρ
  | [] => some record
  | field :: fields => (field.fill? find record).bind (fill? find · fields)

theorem Field.fill?_eq_map {field : Field ρ} {record : ρ} (initial : field.α)
    (keeps : field.set initial record = record) (find : String → Option Json) :
    field.fill? find record = (field.slot.taken? initial (find field.name)).map (field.set · record) := by
  rw [fill?]
  cases find field.name with
  | none => exact congrArg some keeps.symm
  | some value => rfl

def Shape.Independent (shape : Shape ρ) : Prop :=
  shape.fields.Pairwise fun earlier later => earlier.name ≠ later.name ∧
    ∀ x y record, earlier.set x (later.set y record) = later.set y (earlier.set x record)

section

variable {fields : List (Field ρ)} {find other : String → Option Json}

theorem fill?_congr (same : ∀ field ∈ fields, find field.name = other field.name) (record : ρ) :
    fill? find record fields = fill? other record fields := by
  induction fields generalizing record with
  | nil => rfl
  | cons field fields induction =>
      have later := induction fun field member => same field (List.mem_cons_of_mem _ member)
      rw [fill?, fill?, Field.fill?, Field.fill?, same field (by simp), funext later]

theorem fill?_of_absent (absent : ∀ field ∈ fields, find field.name = none) (record : ρ) :
    fill? find record fields = some record := by
  induction fields with
  | nil => rfl
  | cons field fields induction =>
      rw [fill?, Field.fill?, absent field (by simp)]
      exact induction fun field member => absent field (List.mem_cons_of_mem _ member)

theorem fill?_of_unfit {field : Field ρ} (member : field ∈ fields) {value : Json}
    (present : find field.name = some value) {cause : Cause}
    (unfit : field.slot.ofValue value = .error cause) (record : ρ) :
    fill? find record fields = none := by
  induction fields generalizing record with
  | nil => cases member
  | cons first fields induction =>
      rw [fill?]
      rcases List.mem_cons.mp member with same | later
      · subst same
        rw [Field.fill?, present]
        dsimp only
        rw [unfit]
        rfl
      · rw [funext (induction later)]
        exact Option.bind_fun_none _

theorem Field.fill?_set {field first : Field ρ} {found : field.α}
    (swaps : ∀ y record, first.set y (field.set found record) = field.set found (first.set y record))
    (record : ρ) :
    first.fill? find (field.set found record) = (first.fill? find record).map (field.set found) := by
  rw [fill?, fill?]
  cases find first.name with
  | none => rfl
  | some value =>
      dsimp only
      rw [Option.map_map]
      exact congrArg (Option.map · _) (funext fun y => swaps y record)

/-- A field may be set before all others. -/
theorem fill?_of_fit
    (independent : fields.Pairwise fun earlier later => earlier.name ≠ later.name ∧
      ∀ x y record, earlier.set x (later.set y record) = later.set y (earlier.set x record))
    {field : Field ρ} (member : field ∈ fields) {value : Json} (present : find field.name = some value)
    {found : field.α} (fits : field.slot.ofValue value = .ok found) (absent : other field.name = none)
    (elsewhere : ∀ name, name ≠ field.name → find name = other name) (record : ρ) :
    fill? find record fields = fill? other (field.set found record) fields := by
  induction fields generalizing record with
  | nil => cases member
  | cons first fields induction =>
      rw [List.pairwise_cons] at independent
      rw [fill?, fill?]
      rcases List.mem_cons.mp member with same | later
      · subst same
        rw [Field.fill?, Field.fill?, present, absent]
        dsimp only
        rw [fits]
        exact fill?_congr (fun later inside =>
          elsewhere later.name (Ne.symm (independent.1 later inside).1)) _
      · rcases independent.1 field later with ⟨different, swaps⟩
        have unchanged : first.fill? find record = first.fill? other record := by
          rw [Field.fill?, Field.fill?, elsewhere first.name different]
        rw [funext (induction independent.2 later), unchanged,
          Field.fill?_set fun y record => swaps y found record, Option.bind_map]
        rfl

end

theorem find?_eq_none_of_timesNamed {α : Type} {name : String} {entries : List (String × α)}
    (never : timesNamed name entries = 0) : Members.find? name entries = none := by
  induction entries with
  | nil => rfl
  | cons entry rest induction =>
      rw [timesNamed_cons] at never
      have different : name ≠ entry.1 := by
        intro same
        rw [same, beq_self_eq_true, if_pos rfl] at never
        omega
      rw [Members.find?, if_neg different]
      exact induction (Nat.eq_zero_of_add_eq_zero_right never)

/-- Members in any order fill a record as its fields in their order do. -/
theorem Shape.namedOf_toOption (independent : shape.Independent) {entries : List (String × Json)}
    (once : ∀ field ∈ shape.fields, timesNamed field.name entries ≤ 1) (record : ρ) :
    (shape.namedOf record entries).toOption =
      fill? (Members.find? · entries) record shape.fields := by
  induction entries generalizing record with
  | nil => exact (fill?_of_absent (fun _ _ => rfl) record).symm
  | cons member members induction =>
      rcases member with ⟨name, value⟩
      have onceBehind : ∀ field ∈ shape.fields, timesNamed field.name members ≤ 1 := by
        intro field isField
        exact Nat.le_trans (timesNamed_le_cons _ _ _) (once field isField)
      have elsewhere : ∀ other, other ≠ name →
          Members.find? other ((name, value) :: members) = Members.find? other members := by
        intro other different
        rw [Members.find?, if_neg different]
      rw [namedOf]
      cases known : shape.field? name with
      | none =>
          dsimp only
          rw [induction onceBehind]
          apply fill?_congr
          intro field isField
          exact (elsewhere field.name (field?_eq_none_iff.mp known field isField)).symm
      | some field =>
          rcases of_field? known with ⟨isField, rfl⟩
          have present : Members.find? field.name ((field.name, value) :: members) = some value := by
            rw [Members.find?, if_pos rfl]
          dsimp only
          cases made : field.slot.ofValue value with
          | error cause => exact (fill?_of_unfit isField present made record).symm
          | ok found =>
              have absent : Members.find? field.name members = none := by
                apply find?_eq_none_of_timesNamed
                have bound := once field isField
                rw [timesNamed_cons_self] at bound
                omega
              dsimp only
              rw [induction onceBehind]
              exact (fill?_of_fit independent isField present made absent elsewhere record).symm

/-! ## Texts -/

theorem timesNamed_valuesOf (name : String) (entries : List (String × Spelled)) :
    timesNamed name (valuesOf entries) = timesNamed name entries := by
  rw [timesNamed, valuesOf, List.map_map]
  rfl

/-- The record of a text that is an object: its fields in order, each with the value under its name, and
nothing if one of these values does not fit. -/
theorem Shape.ofText_toOption (faithful : shape.Faithful) (independent : shape.Independent) {text : String}
    {entries : List (String × Spelled)} (listed : entries? text = some entries)
    (once : ∀ field ∈ shape.fields, timesNamed field.name entries ≤ 1) :
    (shape.ofText text).toOption =
      fill? (fun name => (Members.find? name entries).map Spelled.value) shape.initial shape.fields := by
  rcases entries?_eq_some listed with ⟨inside, rest, begins, names, ended⟩
  have onceValues : ∀ field ∈ shape.fields, timesNamed field.name (valuesOf entries) ≤ 1 := by
    intro field isField
    rw [timesNamed_valuesOf]
    exact once field isField
  have agrees := names.values.1.agrees faithful shape.initial [] (by simpa using onceValues)
  have filled := namedOf_toOption independent onceValues shape.initial
  have sameFind : (fun name => (Members.find? name entries).map Spelled.value) =
      (Members.find? · (valuesOf entries)) := by
    funext name
    exact (find?_valuesOf name entries).symm
  have scanned : shape.scan (Utf8.bytes text) = shape.namedScan shape.initial true [] inside := by
    rw [scan, begins]
    dsimp only
    rw [if_neg (by decide), if_pos rfl]
  rw [sameFind, ← filled, ofText, documentOf, scanned]
  cases outcome : shape.namedOf shape.initial (valuesOf entries) with
  | error cause =>
      rcases agrees.error cause outcome with ⟨fault, failed⟩
      rw [failed]
      rfl
  | ok record =>
      rw [agrees.ok record outcome]
      dsimp only
      rw [ended]
      rfl

/-! ## Orders of members -/

section

variable {α : Type} {name : String} {left right : List (String × α)}

theorem timesNamed_perm (same : left.Perm right) : timesNamed name left = timesNamed name right :=
  (same.map Prod.fst).count_eq name

theorem find?_perm (same : left.Perm right) (once : timesNamed name left ≤ 1) :
    Members.find? name left = Members.find? name right := by
  induction same with
  | nil => rfl
  | cons entry _ induction =>
      rw [Members.find?, Members.find?]
      split
      · rfl
      · exact induction (Nat.le_trans (timesNamed_le_cons _ _ _) once)
  | swap first second rest =>
      rw [Members.find?, Members.find?, Members.find?, Members.find?]
      by_cases isFirst : name = first.1
      · by_cases isSecond : name = second.1
        · rw [timesNamed_cons, timesNamed_cons, ← isFirst, ← isSecond, beq_self_eq_true, if_pos rfl] at once
          omega
        · rw [if_neg isSecond, if_neg isSecond]
      · rw [if_neg isFirst, if_neg isFirst]
  | trans before _ inductionBefore inductionBehind =>
      rw [inductionBefore once]
      apply inductionBehind
      rw [← timesNamed_perm before]
      exact once

theorem find?_filter {keep : String × α → Bool} (kept : ∀ entry, entry.1 = name → keep entry = true)
    (entries : List (String × α)) :
    Members.find? name (entries.filter keep) = Members.find? name entries := by
  induction entries with
  | nil => rfl
  | cons entry rest induction =>
      by_cases same : name = entry.1
      · rw [List.filter_cons_of_pos (kept entry same.symm), Members.find?, Members.find?, if_pos same,
          if_pos same]
      · rw [Members.find?, if_neg same, ← induction]
        cases other : keep entry with
        | true => rw [List.filter_cons_of_pos other, Members.find?, if_neg same]
        | false => rw [List.filter_cons_of_neg (by simp [other])]

theorem timesNamed_filter {keep : String × α → Bool} (kept : ∀ entry, entry.1 = name → keep entry = true)
    (entries : List (String × α)) : timesNamed name (entries.filter keep) = timesNamed name entries := by
  rw [timesNamed, timesNamed, List.count_eq_countP, List.count_eq_countP, List.countP_map, List.countP_map,
    List.countP_filter]
  apply List.countP_congr
  intro entry _
  rw [Function.comp_apply, beq_iff_eq, Bool.and_eq_true, beq_iff_eq, and_iff_left_iff_imp]
  exact kept entry

end

def Shape.known (shape : Shape ρ) (entries : List (String × Spelled)) : List (String × Json) :=
  (valuesOf entries).filter fun entry => (shape.field? entry.1).isSome

theorem Shape.isSome_field? {field : Field ρ} (isField : field ∈ shape.fields) (entry : String × Json)
    (same : entry.1 = field.name) : (shape.field? entry.1).isSome = true := by
  rw [same, field?, List.find?_isSome]
  exact ⟨field, isField, beq_self_eq_true _⟩

/-- The order of members and those that are no fields make no difference to the record of a text. -/
theorem Shape.ofText_toOption_perm (faithful : shape.Faithful) (independent : shape.Independent)
    {text other : String} {entries others : List (String × Spelled)} (listed : entries? text = some entries)
    (listedOther : entries? other = some others)
    (once : ∀ field ∈ shape.fields, timesNamed field.name entries ≤ 1)
    (same : (shape.known entries).Perm (shape.known others)) :
    (shape.ofText text).toOption = (shape.ofText other).toOption := by
  have counts {field : Field ρ} (isField : field ∈ shape.fields) (entries : List (String × Spelled)) :
      timesNamed field.name (shape.known entries) = timesNamed field.name entries := by
    rw [known, timesNamed_filter (isSome_field? isField), timesNamed_valuesOf]
  have finds {field : Field ρ} (isField : field ∈ shape.fields) (entries : List (String × Spelled)) :
      (Members.find? field.name entries).map Spelled.value = Members.find? field.name (shape.known entries) := by
    rw [known, find?_filter (isSome_field? isField), find?_valuesOf]
  have onceKnown : ∀ field ∈ shape.fields, timesNamed field.name (shape.known entries) ≤ 1 := by
    intro field isField
    rw [counts isField]
    exact once field isField
  have onceOther : ∀ field ∈ shape.fields, timesNamed field.name others ≤ 1 := by
    intro field isField
    rw [← counts isField, ← timesNamed_perm same]
    exact onceKnown field isField
  rw [ofText_toOption faithful independent listed once,
    ofText_toOption faithful independent listedOther onceOther]
  apply fill?_congr
  intro field isField
  rw [finds isField, finds isField]
  exact find?_perm same (onceKnown field isField)

end NodeConsole.Json
