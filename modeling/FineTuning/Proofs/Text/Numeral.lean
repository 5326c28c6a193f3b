import FineTuning.Text.Numeral

/-!
# Numerals

`Nat.repr` writes a number in digits, which read back as the number (`digits?_repr`). So different
numbers are written differently (`repr_inj`). A text is a number of 32 bits just when it is a
numeral of one (`isSome_uint32?_iff`), and a number of 64 bits with a sign just when it is a numeral
of one (`int64?_eq_some_iff`).
-/

namespace FineTuning.Text.Numeral

/-! ## Digits -/

theorem digits?_eq_some_iff {cs : List Char} {n : Nat} :
    digits? cs = some n ↔
      cs ≠ [] ∧ (∀ c ∈ cs, c.isDigit = true) ∧ Nat.ofDigitChars 10 cs 0 = n := by
  unfold digits?
  split
  · rename_i h
    refine iff_of_false (by simp) fun ⟨hne, hdigits, _⟩ => ?_
    rw [Bool.or_eq_true, List.isEmpty_iff, Bool.not_eq_true', ← Bool.not_eq_true,
      List.all_eq_true] at h
    exact h.elim hne fun hall => hall hdigits
  · rename_i h
    rw [Bool.or_eq_true, List.isEmpty_iff, Bool.not_eq_true', ← Bool.not_eq_true,
      List.all_eq_true, not_or, Decidable.not_not] at h
    rw [Option.some.injEq]
    exact ⟨fun hn => ⟨h.1, h.2, hn⟩, fun hn => hn.2.2⟩

/-- What is written in digits reads back. -/
theorem digits?_repr (n : Nat) : digits? n.repr.toList = some n := by
  rw [Nat.toList_repr]
  have hdigits : (Nat.toDigits 10 n).all Char.isDigit = true :=
    List.all_eq_true.mpr fun c hc => Nat.isDigit_of_mem_toDigits (by decide) (by decide) hc
  simp [digits?, hdigits]

/-- Numbers are told apart by how they are written. -/
theorem repr_inj {a b : Nat} (h : a.repr = b.repr) : a = b := by
  have hb := digits?_repr b
  rw [← h, digits?_repr] at hb
  exact Option.some.inj hb

/-! ## Numbers of 32 bits -/

/-- One or more digits, after a plus sign or not, whose value fits in 32 bits. -/
def IsUInt32 (s : String) : Prop :=
  ∃ digits : List Char, (s.toList = digits ∨ s.toList = '+' :: digits) ∧ digits ≠ [] ∧
    (∀ c ∈ digits, c.isDigit = true) ∧ Nat.ofDigitChars 10 digits 0 < UInt32.size

theorem nat?_eq_some_iff {cs : List Char} {n : Nat} :
    nat? cs = some n ↔ ∃ digits, (cs = digits ∨ cs = '+' :: digits) ∧ digits? digits = some n := by
  unfold nat?
  split
  · rename_i rest
    constructor
    · exact fun h => ⟨rest, .inr rfl, h⟩
    · rintro ⟨digits, rfl | ⟨⟨⟩⟩, h⟩
      · -- The plus sign itself is no digit.
        have hplus := (digits?_eq_some_iff.mp h).2.1 '+' (List.mem_cons_self ..)
        exact absurd hplus (by decide)
      · exact h
  · rename_i hne
    constructor
    · exact fun h => ⟨cs, .inl rfl, h⟩
    · rintro ⟨digits, rfl | rfl, h⟩
      · exact h
      · exact absurd rfl (hne digits)

/-- A text is a number of 32 bits just when it is a numeral of one. -/
theorem isSome_uint32?_iff {s : String} : (uint32? s).isSome = true ↔ IsUInt32 s := by
  have hfits : (uint32? s).isSome = true ↔ ∃ n, nat? s.toList = some n ∧ n < UInt32.size := by
    unfold uint32?
    cases nat? s.toList with
    | none => simp
    | some n => by_cases h : n < UInt32.size <;> simp [h]
  simp only [hfits, nat?_eq_some_iff, digits?_eq_some_iff]
  constructor
  · rintro ⟨n, ⟨digits, hs, hne, hdigits, rfl⟩, hlt⟩
    exact ⟨digits, hs, hne, hdigits, hlt⟩
  · rintro ⟨digits, hs, hne, hdigits, hlt⟩
    exact ⟨_, ⟨digits, hs, hne, hdigits, rfl⟩, hlt⟩

instance (s : String) : Decidable (IsUInt32 s) :=
  decidable_of_iff _ isSome_uint32?_iff

/-! ## Numbers with a sign -/

/-- One or more digits, after a sign or not, that have the value. -/
def IsNumeralOf (s : String) (n : Int) : Prop :=
  ∃ digits : List Char, digits ≠ [] ∧ (∀ c ∈ digits, c.isDigit = true) ∧
    ((s.toList = digits ∨ s.toList = '+' :: digits) ∧ n = Nat.ofDigitChars 10 digits 0 ∨
      s.toList = '-' :: digits ∧ n = -(Nat.ofDigitChars 10 digits 0 : Int))

theorem int?_minus (rest : List Char) :
    int? ('-' :: rest) = (digits? rest).map fun m : Nat => -(m : Int) := by
  rw [int?]
  cases digits? rest <;> rfl

theorem int?_of_no_minus {cs : List Char} (h : ∀ rest, cs ≠ '-' :: rest) :
    int? cs = (nat? cs).map Int.ofNat := by
  unfold int?
  split
  · exact absurd rfl (h _)
  · rfl

theorem int?_eq_some_iff {s : String} {n : Int} : int? s.toList = some n ↔ IsNumeralOf s n := by
  by_cases hminus : ∃ rest, s.toList = '-' :: rest
  · obtain ⟨rest, hs⟩ := hminus
    rw [IsNumeralOf, hs, int?_minus]
    constructor
    · intro h
      obtain ⟨m, hm, rfl⟩ := Option.map_eq_some_iff.mp h
      obtain ⟨hne, hdigits, rfl⟩ := digits?_eq_some_iff.mp hm
      exact ⟨rest, hne, hdigits, .inr ⟨rfl, rfl⟩⟩
    · rintro ⟨digits, hne, hdigits, ⟨rfl | ⟨⟨⟩⟩, -⟩ | ⟨⟨⟩, rfl⟩⟩
      · -- The minus sign itself is no digit.
        exact absurd (hdigits '-' List.mem_cons_self) (by decide)
      · exact Option.map_eq_some_iff.mpr ⟨_, digits?_eq_some_iff.mpr ⟨hne, hdigits, rfl⟩, rfl⟩
  · rw [int?_of_no_minus fun rest hs => hminus ⟨rest, hs⟩]
    constructor
    · intro h
      obtain ⟨m, hm, rfl⟩ := Option.map_eq_some_iff.mp h
      obtain ⟨digits, hs, hvalue⟩ := nat?_eq_some_iff.mp hm
      obtain ⟨hne, hdigits, rfl⟩ := digits?_eq_some_iff.mp hvalue
      exact ⟨digits, hne, hdigits, .inl ⟨hs, rfl⟩⟩
    · rintro ⟨digits, hne, hdigits, ⟨hs, rfl⟩ | ⟨hs, -⟩⟩
      · have hvalue := digits?_eq_some_iff.mpr ⟨hne, hdigits, rfl⟩
        exact Option.map_eq_some_iff.mpr ⟨_, nat?_eq_some_iff.mpr ⟨digits, hs, hvalue⟩, rfl⟩
      · exact absurd ⟨digits, hs⟩ hminus

/-- A numeral has one value. -/
theorem IsNumeralOf.unique {s : String} {m n : Int} (hm : IsNumeralOf s m) (hn : IsNumeralOf s n) :
    m = n := by
  rw [← int?_eq_some_iff] at hm hn
  exact Option.some.inj (hm.symm.trans hn)

/-- What is read as a number of 32 bits is a numeral of it. -/
theorem isNumeralOf_of_uint32? {s : String} {n : UInt32} (h : uint32? s = some n) :
    IsNumeralOf s n.toNat := by
  unfold uint32? at h
  split at h
  · rename_i m hm
    split at h
    · cases h
      obtain ⟨digits, hs, hvalue⟩ := nat?_eq_some_iff.mp hm
      obtain ⟨hne, hdigits, rfl⟩ := digits?_eq_some_iff.mp hvalue
      exact ⟨digits, hne, hdigits, .inl ⟨hs, rfl⟩⟩
    · cases h
  · cases h

/-- A whole number is written as a numeral of it. -/
theorem isNumeralOf_repr (n : Int) : IsNumeralOf n.repr n := by
  match n with
  | .ofNat m =>
    obtain ⟨hne, hdigits, hvalue⟩ := digits?_eq_some_iff.mp (digits?_repr m)
    exact ⟨m.repr.toList, hne, hdigits, .inl ⟨.inl rfl, by rw [hvalue]; rfl⟩⟩
  | .negSucc m =>
    obtain ⟨hne, hdigits, hvalue⟩ := digits?_eq_some_iff.mp (digits?_repr (m + 1))
    refine ⟨(m + 1).repr.toList, hne, hdigits, .inr ⟨?_, by rw [hvalue]; rfl⟩⟩
    exact String.toList_append ..

/-- Whole numbers are told apart by how they are written. -/
theorem intRepr_inj {m n : Int} (h : m.repr = n.repr) : m = n :=
  (isNumeralOf_repr m).unique (h ▸ isNumeralOf_repr n)

theorem fitsInt64_toInt (n : Int64) : fitsInt64 n.toInt = true :=
  Bool.and_eq_true_iff.mpr ⟨decide_eq_true n.le_toInt, decide_eq_true n.toInt_lt⟩

theorem toInt64?_eq_some_iff {i : Int} {n : Int64} : toInt64? i = some n ↔ i = n.toInt := by
  rw [toInt64?]
  constructor
  · intro h
    split at h
    · rename_i hfits
      obtain ⟨hlow, hhigh⟩ := Bool.and_eq_true_iff.mp hfits
      cases h
      exact (Int64.toInt_ofInt_of_le (of_decide_eq_true hlow) (of_decide_eq_true hhigh)).symm
    · cases h
  · rintro rfl
    rw [if_pos (fitsInt64_toInt n), Int64.ofInt_toInt]

/-- A text is a number of 64 bits with a sign just when it is a numeral of one. -/
theorem int64?_eq_some_iff {s : String} {n : Int64} :
    int64? s = some n ↔ IsNumeralOf s n.toInt := by
  simp [int64?, Option.bind_eq_some_iff, int?_eq_some_iff, toInt64?_eq_some_iff]

end FineTuning.Text.Numeral
