import FineTuning.Text.Alphanumeric
import FineTuning.Text.Lowercase
import Mathlib.Data.Nat.ModEq

/-!
# Lower case of letters and numbers

* `lowerCode_lowerCode`: the lower case of a code point is its own lower case.
* `contains_lowerCode`: the lower case of an alphanumeric code point is alphanumeric.
* `exists_lowerChar_eq`: both together, for every alphanumeric character but `İ`.

What the table of runs has to satisfy for this is checked run by run. No run has a lower case that
another run covers, as the bounds or the residues of the two runs show (`CaseRun.isApart`).
-/

namespace FineTuning.Text

/-! ## Runs of code points -/

/-- The lower cases of the code points of the run, as a run that leaves them as they are. -/
def CaseRun.lowered (run : CaseRun) : CaseRun where
  first := (run.first + run.offset).toNat
  last := (run.last + run.offset).toNat
  step := run.step
  offset := 0

/-- What divides the distance of any two code points of the run. -/
def CaseRun.stride (run : CaseRun) : Nat :=
  if run.first = run.last then 0 else run.step

/-- A test that no code point is in both runs. -/
def CaseRun.isApart (run other : CaseRun) : Bool :=
  -- Evaluated for all pairs of runs, and `Nat.blt` takes the kernel less time than `<`.
  Nat.blt run.last other.first || Nat.blt other.last run.first ||
    let stride := run.stride.gcd other.stride
    run.first % stride != other.first % stride

theorem CaseRun.covers_iff {run : CaseRun} {n : Nat} :
    run.covers n = true ↔ run.first ≤ n ∧ n ≤ run.last ∧ run.step ∣ n - run.first := by
  simp [CaseRun.covers, Nat.dvd_iff_mod_eq_zero, and_assoc]

theorem CaseRun.modEq_of_covers {run : CaseRun} {n : Nat} (h : run.covers n = true) :
    n ≡ run.first [MOD run.stride] := by
  obtain ⟨hfirst, hlast, hstep⟩ := CaseRun.covers_iff.mp h
  refine ((Nat.modEq_iff_dvd' hfirst).mpr ?_).symm
  unfold CaseRun.stride
  split
  · rw [show n - run.first = 0 by omega]
  · exact hstep

theorem CaseRun.not_covers_of_isApart {run other : CaseRun} {n : Nat}
    (hapart : run.isApart other = true) (hn : run.covers n = true) : ¬other.covers n = true := by
  intro hother
  obtain ⟨hfirst, hlast, -⟩ := CaseRun.covers_iff.mp hn
  obtain ⟨hfirst', hlast', -⟩ := CaseRun.covers_iff.mp hother
  have hmod : run.first ≡ other.first [MOD run.stride.gcd other.stride] :=
    ((CaseRun.modEq_of_covers hn).symm.of_dvd (Nat.gcd_dvd_left ..)).trans
      ((CaseRun.modEq_of_covers hother).of_dvd (Nat.gcd_dvd_right ..))
  simp only [CaseRun.isApart, Bool.or_eq_true, Nat.blt_eq, bne_iff_ne] at hapart
  obtain (habove | hbelow) | hresidue := hapart
  · omega
  · omega
  · exact hresidue hmod

/-- A run that does not lead below zero takes what it covers to what its lower cases cover. -/
theorem CaseRun.covers_lowered {run : CaseRun} {n : Nat} (hpos : 0 ≤ run.first + run.offset)
    (h : run.covers n = true) : run.lowered.covers (n + run.offset).toNat = true := by
  obtain ⟨hfirst, hlast, hstep⟩ := CaseRun.covers_iff.mp h
  refine CaseRun.covers_iff.mpr ⟨?_, ?_, ?_⟩
  · simp only [CaseRun.lowered]
    omega
  · simp only [CaseRun.lowered]
    omega
  · have hshift : (n + run.offset).toNat - run.lowered.first = n - run.first := by
      simp only [CaseRun.lowered]
      omega
    rw [hshift]
    exact hstep

/-- Whether one of the ranges holds both code points. -/
def CodeRanges.spans : CodeRanges → Nat → Nat → Bool
  | [], _, _ => false
  | (a, b) :: rest, first, last =>
    Nat.ble a first && (Nat.ble last b || CodeRanges.spans rest first last)

theorem CodeRanges.contains_of_spans {ranges : CodeRanges} {first last n : Nat}
    (h : ranges.spans first last = true) (hfirst : first ≤ n) (hlast : n ≤ last) :
    ranges.contains n = true := by
  induction ranges with
  | nil => cases h
  | cons range rest ih =>
    simp only [CodeRanges.spans, Bool.and_eq_true, Bool.or_eq_true, Nat.ble_eq] at h
    obtain ⟨ha, hb | hrest⟩ := h
    · simp [CodeRanges.contains, hlast.trans hb, ha.trans hfirst]
    · simp [CodeRanges.contains, ih hrest, ha.trans hfirst]

theorem CodeRanges.exists_of_contains {ranges : CodeRanges} {n : Nat}
    (h : ranges.contains n = true) : ∃ range ∈ ranges, range.1 ≤ n ∧ n ≤ range.2 := by
  induction ranges with
  | nil => cases h
  | cons range rest ih =>
    rw [CodeRanges.contains] at h
    split at h
    · cases h
    rename_i hfirst
    obtain hlast | hrest := Bool.or_eq_true _ _ ▸ h
    · exact ⟨range, List.mem_cons_self, by omega, of_decide_eq_true hlast⟩
    · obtain ⟨found, hmem, hfound⟩ := ih hrest
      exact ⟨found, List.mem_cons_of_mem _ hmem, hfound⟩

/-! ## The tables -/

theorem caseRuns_first_nonneg : ∀ run ∈ caseRuns, 0 ≤ run.first + run.offset := by
  decide +kernel

theorem caseRuns_isApart :
    ∀ run ∈ caseRuns, ∀ other ∈ caseRuns, run.lowered.isApart other = true := by
  have hall : (caseRuns.all fun run => caseRuns.all run.lowered.isApart) = true := by
    decide +kernel
  simpa only [List.all_eq_true] using hall

theorem caseRuns_spans :
    ∀ run ∈ caseRuns, alphanumericRanges.spans run.lowered.first run.lowered.last = true := by
  have hall : (caseRuns.all fun run =>
      alphanumericRanges.spans run.lowered.first run.lowered.last) = true := by
    decide +kernel
  simpa only [List.all_eq_true] using hall

/-- `İ` is the lower case of no other character. -/
theorem caseRuns_not_covers_dotted : ∀ run ∈ caseRuns, ¬run.lowered.covers 0x130 := by
  decide +kernel

theorem alphanumericRanges_isValidChar :
    ∀ range ∈ alphanumericRanges, range.2 < 0xd800 ∨ 0xdfff < range.1 ∧ range.2 < 0x110000 := by
  decide +kernel

/-! ## The lower case of a code point -/

/-- A code point goes where the run takes it that covers it; without such a run it stays. -/
theorem lowerCode_cases (n : Nat) :
    (∃ run ∈ caseRuns, run.covers n = true ∧ lowerCode n = (n + run.offset).toNat) ∨
      ((∀ run ∈ caseRuns, ¬run.covers n = true) ∧ lowerCode n = n) := by
  unfold lowerCode
  cases hfind : caseRuns.find? (·.covers n) with
  | some run =>
    have hcovers := List.find?_some hfind
    exact .inl ⟨run, List.mem_of_find?_eq_some hfind, hcovers, rfl⟩
  | none => exact .inr ⟨fun run hrun => List.find?_eq_none.mp hfind run hrun, rfl⟩

theorem lowerCode_of_not_covers {n : Nat} (h : ∀ run ∈ caseRuns, ¬run.covers n = true) :
    lowerCode n = n := by
  rw [lowerCode, List.find?_eq_none.mpr h]

/-- The lower case of a code point is its own lower case. -/
@[simp] theorem lowerCode_lowerCode (n : Nat) : lowerCode (lowerCode n) = lowerCode n := by
  obtain ⟨run, hrun, hcovers, heq⟩ | ⟨-, heq⟩ := lowerCode_cases n
  · have hlowered : run.lowered.covers (lowerCode n) = true :=
      heq ▸ CaseRun.covers_lowered (caseRuns_first_nonneg run hrun) hcovers
    exact lowerCode_of_not_covers fun other hother =>
      CaseRun.not_covers_of_isApart (caseRuns_isApart run hrun other hother) hlowered
  · rw [heq, heq]

/-- The lower case of an alphanumeric code point is alphanumeric. -/
theorem contains_lowerCode {n : Nat} (h : alphanumericRanges.contains n = true) :
    alphanumericRanges.contains (lowerCode n) = true := by
  obtain ⟨run, hrun, hcovers, heq⟩ | ⟨-, heq⟩ := lowerCode_cases n
  · obtain ⟨hfirst, hlast, -⟩ := CaseRun.covers_iff.mp
      (CaseRun.covers_lowered (caseRuns_first_nonneg run hrun) hcovers)
    rw [heq]
    exact CodeRanges.contains_of_spans (caseRuns_spans run hrun) hfirst hlast
  · rwa [heq]

theorem lowerCode_ne_dotted {n : Nat} (h : n ≠ 0x130) : lowerCode n ≠ 0x130 := by
  obtain ⟨run, hrun, hcovers, heq⟩ | ⟨-, heq⟩ := lowerCode_cases n
  · intro hdotted
    have hlowered := CaseRun.covers_lowered (caseRuns_first_nonneg run hrun) hcovers
    rw [← heq, hdotted] at hlowered
    exact caseRuns_not_covers_dotted run hrun hlowered
  · rwa [heq]

theorem toNat_ofNat_of_contains {n : Nat} (h : alphanumericRanges.contains n = true) :
    (Char.ofNat n).toNat = n := by
  obtain ⟨range, hrange, hfirst, hlast⟩ := CodeRanges.exists_of_contains h
  have hvalid : n.isValidChar := by
    obtain hlow | ⟨habove, hhigh⟩ := alphanumericRanges_isValidChar range hrange
    · exact .inl (by omega)
    · exact .inr ⟨by omega, by omega⟩
  rw [Char.ofNat, dif_pos hvalid]
  rfl

/-! ## The lower case of a character -/

/-- The character is alphanumeric and its own lower case. -/
structure IsSettled (c : Char) : Prop where
  isAlphanumeric : isAlphanumeric c = true
  lowerChar_eq : lowerChar c = [c]

instance (c : Char) : Decidable (IsSettled c) :=
  decidable_of_iff (isAlphanumeric c = true ∧ lowerChar c = [c])
    ⟨fun h => ⟨h.1, h.2⟩, fun h => ⟨h.1, h.2⟩⟩

/-- Apart from `İ`, the lower case of an alphanumeric character is one settled character. -/
theorem exists_lowerChar_eq {c : Char} (hc : isAlphanumeric c = true) (hne : c ≠ '\u0130') :
    ∃ d, lowerChar c = [d] ∧ IsSettled d := by
  have hcode : (Char.ofNat (lowerCode c.toNat)).toNat = lowerCode c.toNat :=
    toNat_ofNat_of_contains (contains_lowerCode hc)
  have hnot : c.toNat ≠ 0x130 := fun h => hne (Char.toNat_inj.mp h)
  have hdotted : Char.ofNat (lowerCode c.toNat) ≠ '\u0130' := fun h =>
    lowerCode_ne_dotted hnot (hcode.symm.trans (congrArg Char.toNat h))
  refine ⟨Char.ofNat (lowerCode c.toNat), if_neg hne, ?_, ?_⟩
  · rw [isAlphanumeric, hcode]
    exact contains_lowerCode hc
  · rw [lowerChar, if_neg hdotted, hcode, lowerCode_lowerCode]

end FineTuning.Text
