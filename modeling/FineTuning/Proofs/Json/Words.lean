import FineTuning.Json.Token
import Mathlib.Data.List.TakeWhile

/-!
# Words of a JSON text

The scanner takes a run of word characters as one word. What is read as a number is such a run.

* `scan_word_append`, `scan_word_of_endsWord`: a word goes on to the first other character.
* `isWord_of_read`: every number is a word.
* `read_toDigits`: a whole number of 64 bits that is written in digits reads back.
-/

namespace FineTuning.Json

/-- A character that can stand in a word: it is no space, no quote and no punctuation. -/
def IsWordChar (c : Char) : Prop :=
  isSpace c = false ∧ c ≠ '"' ∧ punctuation? c = none

instance (c : Char) : Decidable (IsWordChar c) :=
  inferInstanceAs (Decidable (_ ∧ _ ∧ _))

/-- A word that stands before the text is at its end there. -/
def EndsWord (cs : List Char) : Prop :=
  ∀ c ∈ cs.head?, ¬IsWordChar c

theorem endsWord_nil : EndsWord [] := fun _ hc => by cases hc

theorem endsWord_cons {c : Char} (hc : ¬IsWordChar c) (rest : List Char) : EndsWord (c :: rest) :=
  fun _ hfirst => Option.some.inj hfirst ▸ hc

/-- Space and then punctuation end a word. -/
theorem endsWord_append {blank : List Char} (hblank : ∀ c ∈ blank, isSpace c = true) {c : Char}
    (hc : ¬IsWordChar c) (rest : List Char) : EndsWord (blank ++ c :: rest) := by
  cases blank with
  | nil => exact endsWord_cons hc rest
  | cons space blank =>
    refine endsWord_cons (fun hword => ?_) _
    exact Bool.eq_false_iff.mp hword.1 (hblank space List.mem_cons_self)

theorem scan_word_append {w : List Char} (hw : ∀ c ∈ w, IsWordChar c) (read cs : List Char) :
    scan (.word read) (w ++ cs) = scan (.word (w.reverse ++ read)) cs := by
  induction w generalizing read with
  | nil => rfl
  | cons c rest ih =>
    obtain ⟨⟨hspace, hquote, hpunct⟩, hrest⟩ := List.forall_mem_cons.mp hw
    simp only [List.cons_append, scan, hspace, hquote, hpunct, Bool.false_eq_true, ↓reduceIte]
    rw [ih hrest, List.reverse_cons, List.append_assoc, List.singleton_append]

theorem scan_word_of_endsWord {cs : List Char} (h : EndsWord cs) (read : List Char) :
    scan (.word read) cs = .word read.reverse :: scan .between cs := by
  cases cs with
  | nil => rfl
  | cons c rest =>
    simp only [scan]
    by_cases hspace : isSpace c = true
    · simp only [hspace, ↓reduceIte]
    · by_cases hquote : c = '"'
      · simp only [hquote, ↓reduceIte]
        rfl
      · cases hpunct : punctuation? c with
        | some token => simp only [hspace, hquote, Bool.false_eq_true, ↓reduceIte]
        | none => exact absurd ⟨Bool.eq_false_iff.mpr hspace, hquote, hpunct⟩ (h c rfl)

theorem isWordChar_of_isDigit {c : Char} (h : c.isDigit = true) : IsWordChar c := by
  refine ⟨?_, ?_, ?_⟩
  · by_contra hspace
    simp only [isSpace, Bool.not_eq_false, Bool.or_eq_true, beq_iff_eq] at hspace
    rcases hspace with ((rfl | rfl) | rfl) | rfl <;> cases h
  · rintro rfl
    cases h
  · unfold punctuation?
    split <;> first | rfl | cases h

namespace Number

/-! ## Numbers are words -/

theorem isWordChar_of_exponentSuffix? {cs : List Char} {e : Bool × List Char}
    (h : exponentSuffix? cs = some e) : ∀ c ∈ cs, IsWordChar c := by
  have hdigits : ∀ {negative ds}, (if ds.isEmpty || !ds.all Char.isDigit then none
      else some (negative, ds)) = some e → ∀ c ∈ ds, IsWordChar c := by
    intro negative ds h c hc
    split at h
    · cases h
    · rename_i hall
      simp only [Bool.or_eq_true, Bool.not_eq_true', not_or, Bool.not_eq_false,
        List.all_eq_true] at hall
      exact isWordChar_of_isDigit (hall.2 c hc)
  unfold exponentSuffix? at h
  split at h
  rename_i negative ds hds
  split at hds
  all_goals
    obtain ⟨rfl, rfl⟩ := Prod.mk.inj hds
    have hword := hdigits h
  · exact List.forall_mem_cons.mpr ⟨by decide, hword⟩
  · exact List.forall_mem_cons.mpr ⟨by decide, hword⟩
  · exact hword

theorem isWordChar_of_afterFraction? {fraction : Option (List Char)} {cs : List Char} {s : Suffix}
    (h : afterFraction? fraction cs = some s) : ∀ c ∈ cs, IsWordChar c := by
  cases cs with
  | nil => simp
  | cons c rest =>
    simp only [afterFraction?, Bool.or_eq_true, beq_iff_eq] at h
    split at h
    · rename_i hc
      obtain ⟨e, he, -⟩ := Option.map_eq_some_iff.mp h
      refine List.forall_mem_cons.mpr ⟨?_, isWordChar_of_exponentSuffix? he⟩
      rcases hc with rfl | rfl <;> decide
    · cases h

/-- What is split into digits and a rest is a word if the rest is one. -/
theorem isWordChar_of_spanDigits {cs : List Char} (h : ∀ c ∈ (spanDigits cs).2, IsWordChar c) :
    ∀ c ∈ cs, IsWordChar c := by
  intro c hc
  rw [← List.takeWhile_append_dropWhile (p := Char.isDigit) (l := cs)] at hc
  rcases List.mem_append.mp hc with hc | hc
  · exact isWordChar_of_isDigit (List.mem_takeWhile_imp hc)
  · exact h c hc

theorem isWordChar_of_suffix? {cs : List Char} {s : Suffix} (h : suffix? cs = some s) :
    ∀ c ∈ cs, IsWordChar c := by
  unfold suffix? at h
  split at h
  · rename_i rest
    split at h
    rename_i digits after hspan
    split at h
    · cases h
    · have hafter : ∀ c ∈ (spanDigits rest).2, IsWordChar c := by
        rw [hspan]
        exact isWordChar_of_afterFraction? h
      exact List.forall_mem_cons.mpr ⟨by decide, isWordChar_of_spanDigits hafter⟩
  · exact isWordChar_of_afterFraction? h

/-- **Every number is a word.** -/
theorem isWord_of_read {cs : List Char} {n : Number} (h : read cs = .ok n) :
    cs ≠ [] ∧ ∀ c ∈ cs, IsWordChar c := by
  have hunsigned : ∀ {ds : List Char} {s : Suffix}, isIntegerPart (spanDigits ds).1 = true →
      suffix? (spanDigits ds).2 = some s → ds ≠ [] ∧ ∀ c ∈ ds, IsWordChar c := by
    intro ds s hwhole hsuffix
    refine ⟨?_, isWordChar_of_spanDigits (isWordChar_of_suffix? hsuffix)⟩
    rintro rfl
    exact absurd hwhole (by decide)
  unfold read at h
  split at h
  rename_i negative ds hds
  simp only at h
  split at h
  · rename_i hwhole
    split at h
    · rename_i s hsuffix
      obtain ⟨hne, hword⟩ := hunsigned hwhole hsuffix
      split at hds
      all_goals obtain ⟨rfl, rfl⟩ := Prod.mk.inj hds
      · exact ⟨List.cons_ne_nil _ _, List.forall_mem_cons.mpr ⟨by decide, hword⟩⟩
      · exact ⟨hne, hword⟩
    · cases h
  · cases h

/-! ## Whole numbers -/

/-- The first digit of a number that is not zero is not zero either. -/
theorem exists_toDigits_eq_cons {n : Nat} (hn : 0 < n) :
    ∃ d rest, Nat.toDigits 10 n = Nat.digitChar d :: rest ∧ 0 < d := by
  induction n using Nat.strongRecOn with
  | ind n ih =>
    rw [Nat.toDigits_eq_if (by decide)]
    split
    · exact ⟨n, [], rfl, hn⟩
    · obtain ⟨d, rest, hd, hpos⟩ := ih (n / 10) (by omega) (by omega)
      exact ⟨d, rest ++ [Nat.digitChar (n % 10)], by rw [hd, List.cons_append], hpos⟩

theorem isIntegerPart_toDigits (n : Nat) : isIntegerPart (Nat.toDigits 10 n) = true := by
  rcases Nat.eq_zero_or_pos n with rfl | hn
  · rfl
  · obtain ⟨d, rest, hd, hpos⟩ := exists_toDigits_eq_cons hn
    have hne : Nat.digitChar d ≠ '0' := fun h => Nat.ne_of_gt hpos (Nat.digitChar_eq_zero.mp h)
    rw [hd]
    unfold isIntegerPart
    split
    · contradiction
    · rename_i h
      exact absurd (List.cons.inj h).1 hne
    · rename_i h
      obtain ⟨rfl, -⟩ := List.cons.inj h
      exact bne_iff_ne.mpr hne

theorem grow?_eq_some {n : Nat} {c : Char} (h : 10 * n + digitValue c < UInt64.size) :
    grow? n c = some (10 * n + digitValue c) := by
  unfold grow?
  rw [Nat.mul_comm n 10]
  exact if_pos h

-- The bound of 64 bits must not be unfolded to tell whether a digit still fits.
attribute [local irreducible] grow? in
theorem integerPart_cons (n : Nat) (c : Char) (rest : List Char) :
    integerPart n (c :: rest) = match grow? n c with
      | some grown => integerPart grown rest
      | none => ⟨n, rest.length + 1⟩ := rfl

theorem le_ofDigitChars (cs : List Char) (n : Nat) : n ≤ Nat.ofDigitChars 10 cs n := by
  rw [Nat.ofDigitChars_eq_ofDigitChars_zero]
  exact Nat.le_trans (Nat.le_mul_of_pos_left _ (Nat.pow_pos (Nat.succ_pos 9)))
    (Nat.le_add_right ..)

/-- Digits of a number that fits in 64 bits all count. -/
theorem integerPart_eq {cs : List Char} {n : Nat} (h : Nat.ofDigitChars 10 cs n < UInt64.size) :
    integerPart n cs = ⟨Nat.ofDigitChars 10 cs n, 0⟩ := by
  induction cs generalizing n with
  | nil => rfl
  | cons c rest ih =>
    have hcons : Nat.ofDigitChars 10 (c :: rest) n =
        Nat.ofDigitChars 10 rest (10 * n + digitValue c) := Nat.ofDigitChars_cons
    rw [hcons] at h ⊢
    rw [integerPart_cons, grow?_eq_some (Nat.lt_of_le_of_lt (le_ofDigitChars rest _) h)]
    exact ih h

/-- **Whole numbers read back.** -/
theorem read_toDigits {n : Nat} (h : n < UInt64.size) :
    read (Nat.toDigits 10 n) = .ok (.integer n) := by
  have hdigit : ∀ c ∈ Nat.toDigits 10 n, c.isDigit = true := fun c hc =>
    Nat.isDigit_of_mem_toDigits (by decide) (by decide) hc
  have hspan : spanDigits (Nat.toDigits 10 n) = (Nat.toDigits 10 n, []) := by
    rw [spanDigits, List.takeWhile_eq_self_iff.mpr hdigit, List.dropWhile_eq_nil_iff.mpr hdigit]
  have hwhole : integerPart 0 (Nat.toDigits 10 n) = ⟨n, 0⟩ := by
    rw [integerPart_eq (by rwa [Nat.ofDigitChars_ten_toDigits]), Nat.ofDigitChars_ten_toDigits]
  unfold read
  split
  rename_i negative cs hcs
  split at hcs
  · rename_i rest hminus
    exact absurd (hdigit '-' (hminus ▸ List.mem_cons_self)) (by decide)
  · obtain ⟨rfl, rfl⟩ := Prod.mk.inj hcs
    simp only [hspan, isIntegerPart_toDigits, ↓reduceIte, suffix?, afterFraction?, assemble, hwhole,
      integer?]
    rfl

end Number

end FineTuning.Json
