import FineTuning.Catalog.Resolve
import Mathlib.Data.List.Basic

/-!
# Words

A word is a maximal run of letters and digits: none of them stands right before it or right after
it. `mem_words_iff` says that these are what `words` gives.

* `isRun_append_cons_iff`: a character of another class parts the runs before it from those after.
* `isRun_padded_iff`: characters of other classes around a text do not matter.
-/

namespace FineTuning.Text

variable {p : Char → Bool} {run cs : List Char}

/-- A maximal run of characters with the property. -/
structure IsRun (p : Char → Bool) (run cs : List Char) : Prop where
  ne_nil : run ≠ []
  all : ∀ c ∈ run, p c = true
  maximal : ∃ before after, cs = before ++ (run ++ after) ∧
    (∀ c ∈ before.getLast?, p c = false) ∧ ∀ c ∈ after.head?, p c = false

theorem IsRun.not_mem {c : Char} (h : IsRun p run cs) (hc : p c = false) : c ∉ run :=
  fun hmem => Bool.false_ne_true (hc.symm.trans (h.all c hmem))

theorem not_isRun_of_forall (h : ∀ c ∈ cs, p c = false) : ¬IsRun p run cs := by
  intro hrun
  obtain ⟨c, hc⟩ := List.exists_mem_of_ne_nil run hrun.ne_nil
  obtain ⟨before, after, rfl, -, -⟩ := hrun.maximal
  exact hrun.not_mem (h c (by simp [hc])) hc

/-- The only run of a text of one class is the text. -/
theorem isRun_iff_of_forall (h : ∀ c ∈ cs, p c = true) : IsRun p run cs ↔ run = cs ∧ cs ≠ [] := by
  constructor
  · rintro ⟨hne, -, before, after, rfl, hbefore, hafter⟩
    have hnone : before = [] := by
      rw [← List.getLast?_eq_none_iff, Option.eq_none_iff_forall_not_mem]
      intro c hc
      have hp := h c (List.mem_append_left _ (List.mem_of_getLast? hc))
      exact Bool.false_ne_true ((hbefore c hc).symm.trans hp)
    have hnone' : after = [] := by
      rw [← List.head?_eq_none_iff, Option.eq_none_iff_forall_not_mem]
      intro c hc
      have hp := h c (by simp [List.mem_of_head? hc])
      exact Bool.false_ne_true ((hafter c hc).symm.trans hp)
    simp [hnone, hnone', hne]
  · rintro ⟨rfl, hne⟩
    exact ⟨hne, h, [], [], by simp, nofun, nofun⟩

/-- A character of another class parts the runs before it from those after it. -/
theorem isRun_append_cons_iff {xs ys : List Char} {c : Char} (hc : p c = false) :
    IsRun p run (xs ++ c :: ys) ↔ IsRun p run xs ∨ IsRun p run ys := by
  constructor
  · intro h
    obtain ⟨before, after, hsplit, hbefore, hafter⟩ := h.maximal
    obtain ⟨middle, rfl, hlater⟩ | ⟨middle, rfl, hearlier⟩ := List.append_eq_append_iff.mp hsplit
    · -- The run begins after `xs`, and not with `c`.
      cases middle with
      | nil =>
        obtain ⟨d, rest, rfl⟩ := List.exists_cons_of_ne_nil h.ne_nil
        obtain ⟨rfl, -⟩ := List.cons.inj hlater
        exact absurd List.mem_cons_self (h.not_mem hc)
      | cons d middle =>
        obtain ⟨rfl, rfl⟩ := List.cons.inj hlater
        refine .inr ⟨h.ne_nil, h.all, middle, after, rfl, fun e he => hbefore e ?_, hafter⟩
        simp [List.getLast?_cons, Option.mem_def.mp he]
    · -- The run begins in `xs`, and does not reach `c`.
      obtain ⟨rest, rfl, rfl⟩ | ⟨rest, rfl, hrest⟩ := List.append_eq_append_iff.mp hearlier
      · refine .inl ⟨h.ne_nil, h.all, before, rest, rfl, hbefore, fun e he => hafter e ?_⟩
        simp [Option.mem_def.mp he]
      · cases rest with
        | nil =>
          refine .inl ⟨h.ne_nil, h.all, before, [], by simp, hbefore, nofun⟩
        | cons d rest =>
          obtain ⟨rfl, -⟩ := List.cons.inj hrest
          exact absurd (by simp) (h.not_mem hc)
  · rintro (⟨hne, hall, before, after, rfl, hbefore, hafter⟩ |
      ⟨hne, hall, before, after, rfl, hbefore, hafter⟩)
    · refine ⟨hne, hall, before, after ++ c :: ys, by simp, hbefore, ?_⟩
      cases after with
      | nil => simpa using hc
      | cons d after => exact hafter
    · refine ⟨hne, hall, xs ++ c :: before, after, by simp, ?_, hafter⟩
      cases before with
      | nil => simpa using hc
      | cons d before => simpa [List.getLast?_cons] using hbefore

/-- Characters of other classes around a text do not matter. -/
theorem isRun_padded_iff {front back : List Char} (hfront : ∀ c ∈ front, p c = false)
    (hback : ∀ c ∈ back, p c = false) : IsRun p run (front ++ (cs ++ back)) ↔ IsRun p run cs := by
  induction front with
  | nil =>
    cases back with
    | nil => simp
    | cons c back =>
      obtain ⟨hc, hback⟩ := List.forall_mem_cons.mp hback
      rw [List.nil_append, isRun_append_cons_iff hc, or_iff_left (not_isRun_of_forall hback)]
  | cons c front ih =>
    obtain ⟨hc, hfront⟩ := List.forall_mem_cons.mp hfront
    have hcons : IsRun p run ([] ++ c :: (front ++ (cs ++ back))) ↔
        IsRun p run [] ∨ IsRun p run (front ++ (cs ++ back)) := isRun_append_cons_iff hc
    rw [List.cons_append, ← List.nil_append (c :: _), hcons, ih hfront,
      or_iff_right (not_isRun_of_forall (List.forall_mem_nil _))]

/-! ## The runs that are found -/

/-- What has been read of a run that may go on counts as part of the text. -/
theorem mem_runsFrom_iff {begun : List Char} (hbegun : ∀ c ∈ begun, p c = true) {word : String} :
    word ∈ runsFrom p begun cs ↔ IsRun p word.toList (begun.reverse ++ cs) := by
  induction cs generalizing begun with
  | nil =>
    rw [runsFrom, List.append_nil, isRun_iff_of_forall (by simpa using hbegun)]
    cases begun with
    | nil => simp
    | cons c begun => simp [← String.toList_inj]
  | cons c rest ih =>
    rw [runsFrom]
    split
    · rename_i hc
      rw [ih (List.forall_mem_cons.mpr ⟨hc, hbegun⟩), List.reverse_cons, List.append_assoc,
        List.singleton_append]
    · rename_i hc
      rw [isRun_append_cons_iff (Bool.eq_false_iff.mpr hc),
        isRun_iff_of_forall (by simpa using hbegun)]
      have hrest : word ∈ runsFrom p [] rest ↔ IsRun p word.toList rest :=
        ih (List.forall_mem_nil _)
      cases begun with
      | nil => simp [hrest]
      | cons d begun => simp [hrest, ← String.toList_inj]

/-- **The words of a text** are its maximal runs of letters and digits. -/
theorem mem_words_iff {s word : String} :
    word ∈ words s ↔ IsRun isAlphanumeric word.toList s.toList := by
  rw [words, runs, mem_runsFrom_iff (List.forall_mem_nil _), List.reverse_nil, List.nil_append]

/-- In lower case, the text has the word. -/
def HasWord (s word : String) : Prop :=
  IsRun isAlphanumeric word.toList (lower s).toList

instance (s word : String) : Decidable (HasWord s word) :=
  decidable_of_iff (word ∈ words (lower s)) mem_words_iff

end FineTuning.Text
