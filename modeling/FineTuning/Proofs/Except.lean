/-!
# Checks one after another

A check gives a result or an error, and the next one runs only on a result.

* `bind_eq_ok_iff`: two checks give a result just when both do.
* `bind_eq_error_iff`: the error is that of the first check that fails.
* `translate_bind`: what is said in other words in each step is said so in the end.
* `Alike.bind`: if two runs come out alike in each step, they do so in the end.
-/

namespace FineTuning

variable {ε α β : Type} {check : Except ε α} {next : α → Except ε β}

/-- Two checks give a result just when both do. -/
theorem bind_eq_ok_iff {result : β} :
    check >>= next = .ok result ↔ ∃ value, check = .ok value ∧ next value = .ok result := by
  cases check <;> simp [bind, Except.bind]

/-- Two checks fail with the error of the first one that fails. -/
theorem bind_eq_error_iff {error : ε} :
    check >>= next = .error error ↔
      check = .error error ∨ ∃ value, check = .ok value ∧ next value = .error error := by
  cases check <;> simp [bind, Except.bind]

/-- A result that is changed afterwards was a result before. -/
theorem map_eq_ok_iff {change : α → β} {result : β} :
    check.map change = .ok result ↔ ∃ value, check = .ok value ∧ change value = result := by
  cases check <;> simp [Except.map]

/-- Changing results afterwards leaves the errors as they are. -/
theorem map_eq_error_iff {change : α → β} {error : ε} :
    check.map change = .error error ↔ check = .error error := by
  cases check <;> simp [Except.map]

/-- A result that is changed afterwards can as well be changed by the second check. -/
theorem map_bind_eq {γ : Type} {change : β → γ} :
    (check >>= next).map change = check >>= fun value => (next value).map change := by
  cases check <;> rfl

/-- Errors that are put in other words do not become results. -/
theorem mapError_eq_ok_iff {ε' : Type} {onError : ε → ε'} {value : α} :
    check.mapError onError = .ok value ↔ check = .ok value := by
  cases check with
  | error error => exact ⟨nofun, nofun⟩
  | ok other =>
    constructor
    all_goals
      intro h
      cases h
      rfl

section Translate

variable {ε' α' β' : Type} {onError : ε → ε'} {onValue : α → α'} {onResult : β → β'}

/-- The same error or the same value in other words. -/
def translate (onError : ε → ε') (onValue : α → α') : Except ε α → Except ε' α'
  | .ok value => .ok (onValue value)
  | .error error => .error (onError error)

@[simp] theorem translate_ok (value : α) :
    translate onError onValue (.ok value) = .ok (onValue value) := rfl

@[simp] theorem translate_error (error : ε) :
    translate onError onValue (.error error) = .error (onError error) := rfl

/-- If both checks come out the same in other words, so does the one after the other. -/
theorem translate_bind {check' : Except ε' α'} {next' : α' → Except ε' β'}
    (hcheck : check' = translate onError onValue check)
    (hnext : ∀ value, check = .ok value →
      next' (onValue value) = translate onError onResult (next value)) :
    check' >>= next' = translate onError onResult (check >>= next) := by
  rw [hcheck]
  cases check with
  | ok value => exact hnext value rfl
  | error error => rfl

end Translate

section Alike

variable {α' β' : Type} {onError : ε → ε → Prop} {onValue : α → α' → Prop}
  {onResult : β → β' → Prop}

/-- Both checks give a value or both fail, and what they give is related. -/
inductive Alike (onError : ε → ε → Prop) (onValue : α → α' → Prop) :
    Except ε α → Except ε α' → Prop
  | ok {value : α} {value' : α'} (h : onValue value value') :
    Alike onError onValue (.ok value) (.ok value')
  | error {error error' : ε} (h : onError error error') :
    Alike onError onValue (.error error) (.error error')

theorem Alike.of_eq {check' : Except ε α} (hrefl : ∀ error, onError error error)
    (h : check' = check) : Alike onError Eq check' check := by
  rw [h]
  cases check with
  | ok value => exact .ok rfl
  | error error => exact .error (hrefl error)

/-- If the first checks come out alike, and the next ones do on related values, then so do the ones
after the others. -/
theorem Alike.bind {check' : Except ε α'} {next' : α' → Except ε β'}
    (hcheck : Alike onError onValue check check')
    (hnext : ∀ value value', onValue value value' →
      Alike onError onResult (next value) (next' value')) :
    Alike onError onResult (check >>= next) (check' >>= next') := by
  cases hcheck with
  | ok h => exact hnext _ _ h
  | error h => exact .error h

end Alike

@[simp] theorem isOk_ok (value : α) : (Except.ok value : Except ε α).isOk = true := rfl

@[simp] theorem isOk_error (error : ε) : (Except.error error : Except ε α).isOk = false := rfl

end FineTuning
