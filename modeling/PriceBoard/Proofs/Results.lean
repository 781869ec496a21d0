/-!
# Results

Where a result that was passed on is a value, what it was made from is one too; where it is an error, an
error was passed on. What is selected from a list comes from its items one by one.
-/
namespace PriceBoard

variable {Error Value Other : Type} {result : Except Error Value} {other : Other}

theorem ok_of_map {image : Value → Other} (found : result.map image = .ok other) :
    ∃ value, result = .ok value ∧ image value = other := by
  cases result with
  | error error => exact nomatch found
  | ok value => exact ⟨value, rfl, Except.ok.inj found⟩

theorem ok_of_bind {next : Value → Except Error Other} (found : result.bind next = .ok other) :
    ∃ value, result = .ok value ∧ next value = .ok other := by
  cases result with
  | error error => exact nomatch found
  | ok value => exact ⟨value, rfl, found⟩

theorem ok_of_map_error {Renamed : Type} {rename : Error → Renamed} {value : Value}
    (found : result.mapError rename = .ok value) : result = .ok value := by
  cases result with
  | error error => exact nomatch found
  | ok given => rw [Except.ok.inj found]

theorem error_of_map_iff {image : Value → Other} :
    (∃ error, result.map image = .error error) ↔ ∃ error, result = .error error := by
  cases result with
  | error error => exact ⟨fun _ => ⟨error, rfl⟩, fun _ => ⟨error, rfl⟩⟩
  | ok value => simp [Except.map]

theorem map_error_ok {Renamed : Type} {rename : Error → Renamed} {value : Value} :
    (Except.ok value : Except Error Value).mapError rename = .ok value := rfl

theorem map_error_error {Renamed : Type} {rename : Error → Renamed} {error : Error} :
    (Except.error error : Except Error Value).mapError rename = .error (rename error) := rfl

theorem error_of_map_error_iff {Renamed : Type} {rename : Error → Renamed} :
    (∃ error, result.mapError rename = .error error) ↔ ∃ error, result = .error error := by
  cases result with
  | error error => exact ⟨fun _ => ⟨error, rfl⟩, fun _ => ⟨rename error, rfl⟩⟩
  | ok value => simp [map_error_ok]

theorem bind_map_error {Renamed : Type} {rename : Error → Renamed} {next : Value → Except Error Other} :
    ((result.mapError rename).bind fun value => (next value).mapError rename) =
      (result.bind next).mapError rename := by
  cases result with
  | error error => rfl
  | ok value => rfl

theorem error_of_bind {next : Value → Except Error Other} {error : Error}
    (failed : result.bind next = .error error) :
    result = .error error ∨ ∃ value, result = .ok value ∧ next value = .error error := by
  cases result with
  | error given => exact .inl (congrArg Except.error (Except.error.inj failed))
  | ok value => exact .inr ⟨value, rfl, failed⟩

theorem error_of_map_error {Renamed : Type} {rename : Error → Renamed} {renamed : Renamed}
    (failed : result.mapError rename = .error renamed) :
    ∃ error, result = .error error ∧ rename error = renamed := by
  cases result with
  | error error => exact ⟨error, rfl, Except.error.inj failed⟩
  | ok value => exact nomatch failed

theorem filter_map_cons (select : Value → Option Other) (first : Value) (rest : List Value) :
    (first :: rest).filterMap select = (select first).toList ++ rest.filterMap select := by
  rw [List.filterMap_cons]
  cases select first <;> rfl

end PriceBoard
