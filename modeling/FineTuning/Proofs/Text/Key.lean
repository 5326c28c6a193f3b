import FineTuning.Catalog.Resolve
import FineTuning.Proofs.Text.Lowercase

/-!
# Keys

* `key_normal_form`: a key is alphanumeric, and is its own key, just when the text has no `İ`.
* `key_eq_empty_iff`: only texts without letters and numbers have an empty key.
* `contains_iff`: a text contains another just when that is an infix of it.

Letters and numbers are kept first and put in lower case second. This gives a normal form except
for `İ`, whose lower case is `i` with a combining dot: the dot stays in the key.
-/

namespace FineTuning.Text

theorem keyChars_cons (c : Char) (cs : List Char) :
    keyChars (c :: cs) = (if isAlphanumeric c then lowerChar c else []) ++ keyChars cs := by
  unfold keyChars
  rw [List.filter_cons]
  split <;> simp

/-- What is not alphanumeric does not matter. -/
theorem keyChars_filter (cs : List Char) : keyChars (cs.filter isAlphanumeric) = keyChars cs := by
  simp [keyChars]

@[simp] theorem toList_key (s : String) : (key s).toList = keyChars s.toList :=
  String.toList_ofList ..

/-! ## The characters of a key -/

theorem lowerChar_dotted : lowerChar '\u0130' = ['i', '\u0307'] := rfl

theorem isSettled_i : IsSettled 'i' := by decide +kernel

theorem isAlphanumeric_dotted : isAlphanumeric '\u0130' = true := by decide +kernel

theorem isAlphanumeric_dot : isAlphanumeric '\u0307' = false := by decide +kernel

theorem IsSettled.ne_dot {c : Char} (h : IsSettled c) : c ≠ '\u0307' := by
  rintro rfl
  exact Bool.false_ne_true (isAlphanumeric_dot.symm.trans h.isAlphanumeric)

/-- The characters of a key are settled, apart from the dots that `İ` leaves behind. -/
theorem isSettled_or_dot_of_mem_keyChars {d : Char} {cs : List Char} (h : d ∈ keyChars cs) :
    IsSettled d ∨ d = '\u0307' ∧ '\u0130' ∈ cs := by
  obtain ⟨c, hc, hd⟩ := List.mem_flatMap.mp h
  obtain ⟨hmem, halnum⟩ := List.mem_filter.mp hc
  by_cases hdotted : c = '\u0130'
  · subst hdotted
    simp only [lowerChar_dotted, List.mem_cons, List.not_mem_nil, or_false] at hd
    obtain rfl | rfl := hd
    · exact .inl isSettled_i
    · exact .inr ⟨rfl, hmem⟩
  · obtain ⟨low, hlow, hsettled⟩ := exists_lowerChar_eq halnum hdotted
    rw [hlow, List.mem_singleton] at hd
    exact .inl (hd ▸ hsettled)

theorem dot_mem_keyChars_iff {cs : List Char} : '\u0307' ∈ keyChars cs ↔ '\u0130' ∈ cs := by
  constructor
  · intro h
    obtain hsettled | ⟨-, hmem⟩ := isSettled_or_dot_of_mem_keyChars h
    · exact absurd rfl hsettled.ne_dot
    · exact hmem
  · intro h
    refine List.mem_flatMap.mpr ⟨_, List.mem_filter.mpr ⟨h, isAlphanumeric_dotted⟩, ?_⟩
    rw [lowerChar_dotted]
    decide

/-! ## Keys of keys -/

theorem keyChars_of_forall_isSettled {cs : List Char} (h : ∀ c ∈ cs, IsSettled c) :
    keyChars cs = cs := by
  induction cs with
  | nil => rfl
  | cons c cs ih =>
    obtain ⟨hc, hcs⟩ := List.forall_mem_cons.mp h
    rw [keyChars_cons, if_pos hc.isAlphanumeric, hc.lowerChar_eq, ih hcs, List.singleton_append]

/-- The key of a key lacks the dots and nothing else. -/
theorem keyChars_keyChars (cs : List Char) :
    keyChars (keyChars cs) = (keyChars cs).filter (· != '\u0307') := by
  have hkept : (keyChars cs).filter isAlphanumeric = (keyChars cs).filter (· != '\u0307') := by
    refine List.filter_congr fun d hd => ?_
    obtain hsettled | ⟨rfl, -⟩ := isSettled_or_dot_of_mem_keyChars hd
    · rw [hsettled.isAlphanumeric, bne_iff_ne.mpr hsettled.ne_dot]
    · exact isAlphanumeric_dot
  have hsettled : ∀ d ∈ (keyChars cs).filter (· != '\u0307'), IsSettled d := by
    intro d hd
    obtain ⟨hmem, hne⟩ := List.mem_filter.mp hd
    obtain hsettled | ⟨rfl, -⟩ := isSettled_or_dot_of_mem_keyChars hmem
    · exact hsettled
    · exact absurd rfl (bne_iff_ne.mp hne)
  rw [← keyChars_filter, hkept, keyChars_of_forall_isSettled hsettled]

/-- The key of a text is alphanumeric, and is its own key, just when the text has no `İ`. The key
of a key lacks the combining dots that stand for `İ`, and is alphanumeric and its own key. -/
theorem key_normal_form (s : String) :
    ((∀ c ∈ (key s).toList, isAlphanumeric c = true) ↔ '\u0130' ∉ s.toList) ∧
      (key (key s) = key s ↔ '\u0130' ∉ s.toList) ∧
      (key (key s)).toList = (key s).toList.filter (· != '\u0307') ∧
      (∀ c ∈ (key (key s)).toList, isAlphanumeric c = true) ∧
      key (key (key s)) = key (key s) := by
  have hdots : (∀ c ∈ (key s).toList, c ≠ '\u0307') ↔ '\u0130' ∉ s.toList := by
    rw [← dot_mem_keyChars_iff, toList_key]
    exact ⟨fun h hmem => h _ hmem rfl, fun h c hc hdot => h (hdot ▸ hc)⟩
  have hagain : (key (key s)).toList = (key s).toList.filter (· != '\u0307') := by
    rw [toList_key, toList_key, keyChars_keyChars]
  have hsettled : ∀ c ∈ (key (key s)).toList, IsSettled c := by
    intro c hc
    obtain ⟨hmem, hne⟩ := List.mem_filter.mp (hagain ▸ hc)
    rw [toList_key] at hmem
    exact (isSettled_or_dot_of_mem_keyChars hmem).resolve_right fun h => bne_iff_ne.mp hne h.1
  refine ⟨?alphanumeric, ?fixed, hagain, fun c hc => (hsettled c hc).isAlphanumeric, ?again⟩
  case alphanumeric =>
    rw [← hdots]
    refine forall₂_congr fun c hc => ?_
    rw [toList_key] at hc
    obtain hc | ⟨rfl, -⟩ := isSettled_or_dot_of_mem_keyChars hc
    · simp [hc.isAlphanumeric, hc.ne_dot]
    · simp [isAlphanumeric_dot]
  case fixed =>
    rw [← hdots, ← String.toList_inj, hagain, List.filter_eq_self]
    simp only [bne_iff_ne]
  case again =>
    rw [← String.toList_inj, toList_key, keyChars_of_forall_isSettled hsettled]

/-- Other letters than those of English have keys in normal form too. -/
theorem key_normal_form_accents :
    '\u0130' ∉ "Élan-Ω 3".toList ∧
      (∀ c ∈ (key "Élan-Ω 3").toList, isAlphanumeric c = true) ∧
      key (key "Élan-Ω 3") = key "Élan-Ω 3" ∧ key "Élan-Ω 3" = "élanω3" := by
  have hplain : '\u0130' ∉ "Élan-Ω 3".toList := by decide
  obtain ⟨halnum, hown, -⟩ := key_normal_form "Élan-Ω 3"
  exact ⟨hplain, halnum.mpr hplain, hown.mpr hplain, by decide +kernel⟩

/-- The key of `İ` is `i` with a dot: it is not alphanumeric, and not its own key. -/
theorem key_not_normal :
    ¬(∀ c ∈ (key "İ").toList, isAlphanumeric c = true) ∧ key (key "İ") ≠ key "İ" := by
  refine ⟨fun h => ?_, by decide +kernel⟩
  have hdot : '\u0307' ∈ (key "İ").toList := by decide +kernel
  exact Bool.false_ne_true (isAlphanumeric_dot.symm.trans (h _ hdot))

/-! ## Empty keys -/

theorem lowerChar_ne_nil (c : Char) : lowerChar c ≠ [] := by
  unfold lowerChar
  split <;> exact List.cons_ne_nil _ _

/-- A text has an empty key just when nothing in it is a letter or a number. -/
theorem key_eq_empty_iff {s : String} :
    key s = "" ↔ ∀ c ∈ s.toList, isAlphanumeric c = false := by
  rw [← String.toList_eq_nil_iff, toList_key, keyChars, List.flatMap_eq_nil_iff]
  constructor
  · intro h c hc
    by_contra hc'
    exact lowerChar_ne_nil c (h c (List.mem_filter.mpr ⟨hc, by simpa using hc'⟩))
  · intro h c hc
    obtain ⟨hmem, halnum⟩ := List.mem_filter.mp hc
    exact absurd halnum (by simp [h c hmem])

/-! ## Containment -/

theorem isInfix_iff {inner cs : List Char} : isInfix inner cs = true ↔ inner <:+: cs := by
  induction cs with
  | nil => rw [isInfix, List.isEmpty_iff, List.infix_nil]
  | cons c cs ih =>
    rw [isInfix, Bool.or_eq_true, List.isPrefixOf_iff_prefix, ih, List.infix_cons_iff]

/-- A text contains another just when that is an infix of it. -/
theorem contains_iff {s inner : String} :
    contains s inner = true ↔ inner.toList <:+: s.toList :=
  isInfix_iff

end FineTuning.Text
