/-!
Results that are values or errors: what a value that came of several steps says of each of them. Where the
error does not matter, a result is a value or none.
-/

namespace NodeConsole

section

variable {ε δ α β : Type} {result : Except ε α}

theorem bind_eq_ok {next : α → Except ε β} {value : β} (bound : result >>= next = .ok value) :
    ∃ inner, result = .ok inner ∧ next inner = .ok value := by
  cases result with
  | error error => cases bound
  | ok inner => exact ⟨inner, rfl, bound⟩

theorem bind_eq_error {next : α → Except ε β} {error : ε} (bound : result >>= next = .error error) :
    result = .error error ∨ ∃ inner, result = .ok inner ∧ next inner = .error error := by
  cases result with
  | error first =>
      cases bound
      exact .inl rfl
  | ok inner => exact .inr ⟨inner, rfl, bound⟩

theorem of_map_eq_ok {f : α → β} {value : β} (mapped : result.map f = .ok value) :
    ∃ inner, result = .ok inner ∧ value = f inner := by
  cases result with
  | error error => cases mapped
  | ok inner =>
      cases mapped
      exact ⟨inner, rfl, rfl⟩

theorem exists_map_ok_iff {f : α → β} :
    (∃ value, result.map f = .ok value) ↔ ∃ value, result = .ok value := by
  cases result <;> simp [Except.map]

theorem of_mapError_eq_ok {f : ε → δ} {value : α} (mapped : result.mapError f = .ok value) :
    result = .ok value := by
  cases result with
  | error error => cases mapped
  | ok inner =>
      cases mapped
      rfl

theorem mapError_eq_ok_iff {f : ε → δ} {value : α} :
    result.mapError f = .ok value ↔ result = .ok value := by
  constructor
  · exact of_mapError_eq_ok
  · intro same
    rw [same]
    rfl

theorem exists_mapError_ok_iff {f : ε → δ} :
    (∃ value, result.mapError f = .ok value) ↔ ∃ value, result = .ok value :=
  exists_congr fun _ => mapError_eq_ok_iff

theorem toOption_map (f : α → β) : (result.map f).toOption = result.toOption.map f := by
  cases result <;> rfl

theorem exists_error_of_toOption (none : result.toOption = none) : ∃ error, result = .error error := by
  cases result with
  | error error => exact ⟨error, rfl⟩
  | ok value => cases none

theorem toOption_eq_some_iff {value : α} : result.toOption = some value ↔ result = .ok value := by
  cases result <;> simp [Except.toOption]

end

section

variable {α β γ : Type} {first : Option α} {second : Option β}

theorem exists_map_iff {f : α → β} : (∃ value, first.map f = some value) ↔ ∃ value, first = some value := by
  cases first <;> simp

theorem exists_bind_map_iff {f : α → β → γ} :
    (∃ value, (first.bind fun a => second.map (f a)) = some value) ↔
      (∃ a, first = some a) ∧ ∃ b, second = some b := by
  cases first <;> cases second <;> simp

end

end NodeConsole
