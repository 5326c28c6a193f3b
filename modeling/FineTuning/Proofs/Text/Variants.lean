import FineTuning.Proofs.Text.Blank
import FineTuning.Proofs.Text.Key
import FineTuning.Proofs.Text.Words
import FineTuning.Text.AsciiCase

/-!
# Variants of a text

Two texts are variants of one another when they differ at most in the case of ASCII letters and in
the blanks around them. They have the same key and, in lower case, the same words.

The key takes every character on its own. The lower case of a text does not: what becomes of a
capital sigma depends on the characters around it. Those are looked at for two properties, which
the two cases of an ASCII letter share, and a blank has neither of them: so the search for a letter
ends at a blank with the same result as at the end of the text.

* `key_eq_of_isVariantOf`: variants have one key.
* `hasWord_iff_of_isVariantOf`: variants have the same words.
-/

namespace FineTuning.Text

variable {s t word : String} {cs before after : List Char} {c : Char}

/-- The texts differ at most in the case of ASCII letters and in the blanks around them. -/
def IsVariantOf (s t : String) : Prop :=
  sameIgnoringAsciiCase (trim s) (trim t) = true

instance (s t : String) : Decidable (IsVariantOf s t) :=
  inferInstanceAs (Decidable (_ = true))

/-! ## ASCII letters -/

/-- The characters are not told apart in keys and words. -/
structure LooksLike (c d : Char) : Prop where
  isAlphanumeric_eq : isAlphanumeric c = isAlphanumeric d
  isCased_eq : isCased c = isCased d
  isCaseIgnorable_eq : isCaseIgnorable c = isCaseIgnorable d
  lowerChar_eq : lowerChar c = lowerChar d
  sigma_iff : c = 'Σ' ↔ d = 'Σ'

instance (c d : Char) : Decidable (LooksLike c d) :=
  decidable_of_iff (isAlphanumeric c = isAlphanumeric d ∧ isCased c = isCased d ∧
      isCaseIgnorable c = isCaseIgnorable d ∧ lowerChar c = lowerChar d ∧ (c = 'Σ' ↔ d = 'Σ'))
    ⟨fun ⟨h₁, h₂, h₃, h₄, h₅⟩ => ⟨h₁, h₂, h₃, h₄, h₅⟩,
      fun ⟨h₁, h₂, h₃, h₄, h₅⟩ => ⟨h₁, h₂, h₃, h₄, h₅⟩⟩

theorem capitals_look_like_toLower :
    ∀ n ∈ List.range' 0x41 26, LooksLike (Char.ofNat n).toLower (Char.ofNat n) := by
  decide +kernel

/-- The two cases of an ASCII letter look alike. -/
theorem looksLike_toLower (c : Char) : LooksLike c.toLower c := by
  by_cases hupper : 'A'.val ≤ c.val ∧ c.val ≤ 'Z'.val
  · have hcode : c.toNat ∈ List.range' 0x41 26 :=
      List.mem_range'_1.mpr ⟨hupper.1, Nat.lt_succ_of_le hupper.2⟩
    have hlike := capitals_look_like_toLower c.toNat hcode
    rwa [Char.ofNat_toNat] at hlike
  · have hsame : c.toLower = c := dif_neg hupper
    rw [hsame]
    exact ⟨rfl, rfl, rfl, rfl, Iff.rfl⟩

theorem keyChars_map_toLower (cs : List Char) : keyChars (cs.map Char.toLower) = keyChars cs := by
  induction cs with
  | nil => rfl
  | cons c cs ih =>
    have hlike := looksLike_toLower c
    rw [List.map_cons, keyChars_cons, keyChars_cons, hlike.isAlphanumeric_eq, hlike.lowerChar_eq,
      ih]

theorem startsCased_map_toLower (cs : List Char) :
    startsCased (cs.map Char.toLower) = startsCased cs := by
  have hignorable : (fun c => !isCaseIgnorable c) ∘ Char.toLower = fun c => !isCaseIgnorable c :=
    funext fun c => congrArg _ (looksLike_toLower c).isCaseIgnorable_eq
  rw [startsCased, startsCased, List.find?_map, hignorable]
  cases cs.find? fun c => !isCaseIgnorable c with
  | none => rfl
  | some c => exact (looksLike_toLower c).isCased_eq

theorem lowerAfter_map_toLower (before cs : List Char) :
    lowerAfter (before.map Char.toLower) (cs.map Char.toLower) = lowerAfter before cs := by
  induction cs generalizing before with
  | nil => rfl
  | cons c cs ih =>
    have hlike := looksLike_toLower c
    rw [List.map_cons, lowerAfter, lowerAfter, lowerSigma, lowerSigma, startsCased_map_toLower,
      startsCased_map_toLower, hlike.lowerChar_eq, ← List.map_cons, ih]
    simp only [hlike.sigma_iff]

/-! ## Blanks -/

/-- The character has no part in words, nor in the case of the letters around it. -/
structure IsInert (c : Char) : Prop where
  isAlphanumeric_eq : isAlphanumeric c = false
  isCased_eq : isCased c = false
  isCaseIgnorable_eq : isCaseIgnorable c = false
  lowerChar_eq : lowerChar c = [c]

instance (c : Char) : Decidable (IsInert c) :=
  decidable_of_iff (isAlphanumeric c = false ∧ isCased c = false ∧ isCaseIgnorable c = false ∧
      lowerChar c = [c])
    ⟨fun ⟨h₁, h₂, h₃, h₄⟩ => ⟨h₁, h₂, h₃, h₄⟩, fun ⟨h₁, h₂, h₃, h₄⟩ => ⟨h₁, h₂, h₃, h₄⟩⟩

/-- The code points of the blanks. -/
def blankCodes : List Nat :=
  [0x09, 0x0a, 0x0b, 0x0c, 0x0d, 0x20, 0x85, 0xa0, 0x1680, 0x2000, 0x2001, 0x2002, 0x2003, 0x2004,
   0x2005, 0x2006, 0x2007, 0x2008, 0x2009, 0x200a, 0x2028, 0x2029, 0x202f, 0x205f, 0x3000]

theorem blankCodes_isInert : ∀ n ∈ blankCodes, IsInert (Char.ofNat n) := by
  decide +kernel

theorem isInert_of_isBlank (h : isBlank c = true) : IsInert c := by
  have hcode : c.toNat ∈ blankCodes := by
    simp only [isBlank, Bool.or_eq_true, Bool.and_eq_true, decide_eq_true_eq, beq_iff_eq] at h
    simp only [blankCodes, List.mem_cons, List.not_mem_nil, or_false]
    omega
  have hinert := blankCodes_isInert c.toNat hcode
  rwa [Char.ofNat_toNat] at hinert

theorem IsInert.ne_sigma (h : IsInert c) : c ≠ 'Σ' := by
  rintro rfl
  exact absurd h (by decide +kernel)

theorem keyChars_append (cs ds : List Char) : keyChars (cs ++ ds) = keyChars cs ++ keyChars ds := by
  simp [keyChars]

theorem keyChars_of_forall_isInert (h : ∀ c ∈ cs, IsInert c) : keyChars cs = [] := by
  have hnone : cs.filter isAlphanumeric = [] :=
    List.filter_eq_nil_iff.mpr fun c hc => Bool.eq_false_iff.mp (h c hc).isAlphanumeric_eq
  rw [keyChars, hnone, List.flatMap_nil]

/-- The search for a letter ends at an inert character as it does at the end of the text. -/
theorem startsCased_append (cs : List Char) (h : ∀ c ∈ after, IsInert c) :
    startsCased (cs ++ after) = startsCased cs := by
  rw [startsCased, startsCased, List.find?_append]
  cases cs.find? fun c => !isCaseIgnorable c with
  | some c => rfl
  | none =>
    cases after with
    | nil => rfl
    | cons c after =>
      have hc := h c List.mem_cons_self
      simp [hc.isCaseIgnorable_eq, hc.isCased_eq]

/-- Inert characters stay as they are. -/
theorem lowerAfter_inert_append (before rest : List Char) (h : ∀ c ∈ cs, IsInert c) :
    lowerAfter before (cs ++ rest) = cs ++ lowerAfter (cs.reverse ++ before) rest := by
  induction cs generalizing before with
  | nil => rfl
  | cons c cs ih =>
    obtain ⟨hc, hcs⟩ := List.forall_mem_cons.mp h
    rw [List.cons_append, lowerAfter, if_neg hc.ne_sigma, hc.lowerChar_eq, ih _ hcs]
    simp

/-- Inert characters before a text do not change its lower case. -/
theorem lowerAfter_append_inert (before cs : List Char) (h : ∀ c ∈ after, IsInert c) :
    lowerAfter (before ++ after) cs = lowerAfter before cs := by
  induction cs generalizing before with
  | nil => rfl
  | cons c cs ih =>
    rw [lowerAfter, lowerAfter, lowerSigma, lowerSigma, startsCased_append _ h, ← List.cons_append,
      ih]

/-- Nor do inert characters after it. -/
theorem lowerAfter_append (before cs : List Char) (h : ∀ c ∈ after, IsInert c) :
    lowerAfter before (cs ++ after) = lowerAfter before cs ++ after := by
  induction cs generalizing before with
  | nil =>
    have hall := lowerAfter_inert_append before [] h
    rwa [List.append_nil, lowerAfter, List.append_nil] at hall
  | cons c cs ih =>
    rw [List.cons_append, lowerAfter, lowerAfter, lowerSigma, lowerSigma, startsCased_append _ h,
      ih, List.append_assoc]

/-- A text is what is left of it after trimming, between inert characters. -/
theorem exists_padding (s : String) : ∃ front back, (∀ c ∈ front, IsInert c) ∧
    (∀ c ∈ back, IsInert c) ∧ s.toList = front ++ ((trim s).toList ++ back) := by
  refine ⟨s.toList.takeWhile isBlank, (s.toList.dropWhile isBlank).rtakeWhile isBlank,
    fun c hc => isInert_of_isBlank (List.mem_takeWhile_imp hc),
    fun c hc => isInert_of_isBlank (List.mem_rtakeWhile_imp hc), ?_⟩
  rw [trim, String.toList_ofList, trimChars_eq, List.rdropWhile_append_rtakeWhile,
    List.takeWhile_append_dropWhile]

/-! ## Keys and words -/

theorem key_trim (s : String) : key (trim s) = key s := by
  obtain ⟨front, back, hfront, hback, hs⟩ := exists_padding s
  rw [key, key, hs, keyChars_append, keyChars_append, keyChars_of_forall_isInert hfront,
    keyChars_of_forall_isInert hback, List.nil_append, List.append_nil]

theorem key_lowerAscii (s : String) : key (lowerAscii s) = key s := by
  rw [key, key, lowerAscii, String.toList_ofList, keyChars_map_toLower]

theorem lower_lowerAscii (s : String) : lower (lowerAscii s) = lower s := by
  have hchars := lowerAfter_map_toLower [] s.toList
  rw [lower, lower, lowerAscii, String.toList_ofList, ← hchars, List.map_nil]

theorem hasWord_trim_iff : HasWord (trim s) word ↔ HasWord s word := by
  obtain ⟨front, back, hfront, hback, hs⟩ := exists_padding s
  have hbefore : ∀ c ∈ front.reverse ++ [], IsInert c := by simpa using hfront
  have hlower : (lower s).toList = front ++ ((lower (trim s)).toList ++ back) := by
    rw [lower, lower, String.toList_ofList, String.toList_ofList, hs,
      lowerAfter_inert_append [] _ hfront, lowerAfter_append _ _ hback, ← List.nil_append (_ ++ []),
      lowerAfter_append_inert [] _ hbefore]
  rw [HasWord, HasWord, hlower, isRun_padded_iff (fun c hc => (hfront c hc).isAlphanumeric_eq)
    (fun c hc => (hback c hc).isAlphanumeric_eq)]

/-- Variants have one key. -/
theorem key_eq_of_isVariantOf (h : IsVariantOf s t) : key s = key t := by
  rw [← key_trim s, ← key_lowerAscii, eq_of_beq h, key_lowerAscii, key_trim]

/-- Variants have the same words. -/
theorem hasWord_iff_of_isVariantOf (h : IsVariantOf s t) : HasWord s word ↔ HasWord t word := by
  have hlower : lower (trim s) = lower (trim t) := by
    rw [← lower_lowerAscii, eq_of_beq h, lower_lowerAscii]
  rw [← hasWord_trim_iff, HasWord, hlower, ← HasWord, hasWord_trim_iff]

end FineTuning.Text
