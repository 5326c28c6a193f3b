import FineTuning.Text.Blank
import Mathlib.Data.List.DropRight

/-!
# Trimmed texts

* `trim_trim`: trimming a text again changes nothing.
* `IsTidy`: texts that trimming does not change, such as those without any blanks.
* `isSome_bind_nonBlank?_iff`: what is left of a text that may be missing.
-/

namespace FineTuning.Text

theorem trimChars_eq (cs : List Char) :
    trimChars cs = (cs.dropWhile isBlank).rdropWhile isBlank := rfl

theorem trimChars_trimChars (cs : List Char) : trimChars (trimChars cs) = trimChars cs := by
  -- What is left of the text begins as the text without leading blanks does.
  have hfront : (trimChars cs).dropWhile isBlank = trimChars cs := by
    rw [List.dropWhile_eq_self_iff]
    intro hl
    have hpre : trimChars cs <+: cs.dropWhile isBlank := List.rdropWhile_prefix ..
    rw [hpre.getElem hl]
    exact List.dropWhile_get_zero_not isBlank cs (hl.trans_le hpre.length_le)
  rw [trimChars_eq (trimChars cs), hfront, trimChars_eq, List.rdropWhile_idempotent]

/-- Trimming a text again changes nothing. -/
@[simp] theorem trim_trim (s : String) : trim (trim s) = trim s := by
  simp only [trim, String.toList_ofList, trimChars_trimChars]

theorem isSome_nonBlank?_iff {s : String} :
    (nonBlank? s).isSome = true ↔ isBlankText s = false := by
  unfold nonBlank?
  split <;> simp_all

theorem nonBlank?_eq_some_iff {s trimmed : String} :
    nonBlank? s = some trimmed ↔ isBlankText s = false ∧ trim s = trimmed := by
  unfold nonBlank?
  split <;> simp_all

/-- A text is given, and it is not blank. -/
def IsGiven (text? : Option String) : Prop :=
  ∃ s ∈ text?, isBlankText s = false

instance (text? : Option String) : Decidable (IsGiven text?) :=
  inferInstanceAs (Decidable (∃ s ∈ text?, isBlankText s = false))

/-- Something is left of a text just when it is given and not blank. -/
theorem isSome_bind_nonBlank?_iff {text? : Option String} :
    (text?.bind nonBlank?).isSome = true ↔ IsGiven text? := by
  cases text? with
  | none => simp [IsGiven]
  | some s => simp [IsGiven, isSome_nonBlank?_iff]

/-! ## Texts without blanks around them -/

/-- The text is not blank, and there are no blanks at its ends. -/
structure IsTidy (s : String) : Prop where
  isBlankText_eq : isBlankText s = false
  trim_eq : trim s = s

instance (s : String) : Decidable (IsTidy s) :=
  decidable_of_iff (isBlankText s = false ∧ trim s = s) ⟨fun h => ⟨h.1, h.2⟩, fun h => ⟨h.1, h.2⟩⟩

theorem trim_of_isBlankText {s : String} (h : isBlankText s = true) : trim s = "" := by
  have hnone : s.toList.dropWhile isBlank = [] :=
    List.dropWhile_eq_nil_iff.mpr (List.all_eq_true.mp h)
  rw [trim, trimChars, hnone]
  rfl

/-- A text without any blanks is tidy, if there is a text. -/
theorem isTidy_of_forall {s : String} (hne : s.toList ≠ [])
    (h : ∀ c ∈ s.toList, isBlank c = false) : IsTidy s where
  isBlankText_eq := by
    obtain ⟨c, hc⟩ := List.exists_mem_of_ne_nil _ hne
    rw [isBlankText, List.all_eq_false]
    exact ⟨c, hc, by simp [h c hc]⟩
  trim_eq := by
    have hfront : s.toList.dropWhile isBlank = s.toList :=
      List.dropWhile_eq_self_iff.mpr fun hl => by simp [h _ (List.getElem_mem hl)]
    have hback : s.toList.rdropWhile isBlank = s.toList :=
      List.rdropWhile_eq_self_iff.mpr fun hl => by simp [h _ (List.getLast_mem hl)]
    rw [trim, trimChars_eq, hfront, hback, String.ofList_toList]

end FineTuning.Text
