/-
  What digits denote.

  Tags, ids and addresses have numbers in them, which are read from digits and written as digits again.
  The same number may be written in many ways, since zeros in front of it add nothing.  This file
  relates the three: digits, the number that they denote, and the digits that it is written with.

  1. **The number** that digits denote is told by their places (`denoted`): it is the standard library's
     `Nat.ofDigits` of their values, and no reading is involved.

  2. **Reading** takes digits and nothing else, at least one of them, and finds the number that they
     denote (`value_eq_some_iff`).  With a bound of 64 bits it takes those that denote less
     (`word_eq_some_iff`); however long the digits are, it is the number that counts and not their
     count.

  3. **Writing** gives the numerals of the standard library (`decimal_eq_toDigits`), so texts that were
     written by `toString` are covered too.  Writing the number that digits denote gives the same digits
     without the zeros in front (`decimal_denoted`); of zeros alone, one is left (`unpadded`).

  4. **The crux** is the direction of the inductions.  Digits are read from the left and written from
     the right.  An induction from the left would have to carry the number so far; from the right, a
     digit more is ten times the number plus its own value (`denoted_concat`), and it is also what
     writing does last.  So all inductions go from the right, and the case of zeros alone is the only
     one apart (`unpadded_concat`).
-/
import Mathlib.Data.List.Induction
import Mathlib.Data.List.TakeWhile
import Mathlib.Data.Nat.Digits.Defs
import QuorumRescue.Numeral

namespace QuorumRescue.Numeral

variable {digits : List Char} {c : Char}

/-! ## Single digits -/

/-- Digits are the characters with ten successive codes, and their values count from the first. -/
theorem digitValueIn_ten_eq_some_iff {d : Nat} :
    digitValueIn 10 c = some d ↔ (48 ≤ c.toNat ∧ c.toNat ≤ 57) ∧ d = c.toNat - 48 := by
  -- a letter counts from ten, so it is no digit of this system
  have hten : ∀ n : Nat, 10 ≤ n → (some n).filter (fun d => decide (d < 10)) = none := by
    intro n hn
    simp [Option.filter, Nat.not_lt.2 hn]
  unfold digitValueIn digitValue
  by_cases hdecimal : 48 ≤ c.toNat ∧ c.toNat ≤ 57
  · have hlt : c.toNat - 48 < 10 := by omega
    simp [hdecimal, Option.filter, hlt, eq_comm]
  · simp only [hdecimal, if_false, false_and, iff_false]
    split
    · rw [hten _ (by omega)]
      exact nofun
    · split
      · rw [hten _ (by omega)]
        exact nofun
      · exact nofun

/-- A digit is told by its code. -/
theorem isDigit_iff : isDigit c ↔ 48 ≤ c.toNat ∧ c.toNat ≤ 57 := by
  rw [isDigit, Option.isSome_iff_exists]
  simp only [digitValueIn_ten_eq_some_iff, exists_and_left, exists_eq, and_true]

/-- The value of a digit is how far it is from the first. -/
theorem digitValueIn_of_isDigit (h : isDigit c) : digitValueIn 10 c = some (c.toNat - 48) :=
  digitValueIn_ten_eq_some_iff.2 ⟨isDigit_iff.1 h, rfl⟩

/-- What is no digit has no value. -/
theorem digitValueIn_of_not_isDigit (h : ¬ isDigit c) : digitValueIn 10 c = none := by
  rw [isDigit] at h
  exact Option.not_isSome_iff_eq_none.1 h

/-- A digit is written as it was read. -/
theorem digitChar_value (h : isDigit c) : digitChar (c.toNat - 48) = c := by
  obtain ⟨hlow, hhigh⟩ := isDigit_iff.1 h
  have hlt : c.toNat - 48 < 10 := by omega
  have hcode : 48 + (c.toNat - 48) = c.toNat := by omega
  rw [digitChar, if_pos hlt, hcode, Char.ofNat_toNat]

/-- The ten digits are those of the library. -/
theorem digitChar_eq {d : Nat} (h : d < 10) : digitChar d = Nat.digitChar d := by
  have hall : ∀ d < 10, digitChar d = Nat.digitChar d := by decide
  exact hall d h

/-- So are the numerals. -/
theorem decimal_eq_toDigits (n : Nat) : decimal n = Nat.toDigits 10 n := by
  induction n using Nat.strongRecOn with
  | ind n ih =>
    rw [decimal]
    split
    · next h => rw [Nat.toDigits_of_lt_base h, digitChar_eq h]
    · next h =>
      have hten : 10 ≤ n := Nat.le_of_not_lt h
      have hsmaller : n / 10 < n := by omega
      rw [Nat.toDigits_of_base_le (by decide) hten, ih (n / 10) hsmaller,
        digitChar_eq (Nat.mod_lt n (by decide))]

/-- A number is shown with the digits that it is written with here. -/
theorem toList_toString (n : Nat) : (toString n).toList = decimal n := by
  rw [Nat.toString_eq_ofList_toDigits, String.toList_ofList, decimal_eq_toDigits]

/-! ## The number -/

/-- The number that digits denote by their places. -/
def denoted (digits : List Char) : Nat :=
  Nat.ofDigits 10 (digits.reverse.map fun c => c.toNat - 48)

/-- A digit more on the right is ten times the number and its own value. -/
theorem denoted_concat (digits : List Char) (c : Char) :
    denoted (digits ++ [c]) = denoted digits * 10 + (c.toNat - 48) := by
  simp only [denoted, List.reverse_append, List.reverse_singleton, List.singleton_append,
    List.map_cons, Nat.ofDigits_cons]
  omega

/-- Reading stops at nothing but the end, so all characters have to be digits.  The induction is from the
    right, where the last digit is read last. -/
theorem valueFrom_eq_some_iff {n : Nat} :
    valueFrom 10 0 digits = some n ↔ (∀ c ∈ digits, isDigit c) ∧ n = denoted digits := by
  induction digits using List.reverseRecOn generalizing n with
  | nil =>
    show some 0 = some n ↔ (∀ c ∈ [], isDigit c) ∧ n = 0
    simp only [Option.some.injEq, List.not_mem_nil, false_imp_iff, implies_true, true_and]
    exact eq_comm
  | append_singleton rest c ih =>
    rw [valueFrom_append, denoted_concat, List.forall_mem_append, List.forall_mem_singleton,
      Option.bind_eq_some_iff]
    by_cases hc : isDigit c
    · simp only [valueFrom, digitValueIn_of_isDigit hc, ih, Option.some.injEq, hc, and_true]
      constructor
      · rintro ⟨m, ⟨hrest, rfl⟩, rfl⟩
        exact ⟨hrest, rfl⟩
      · rintro ⟨hrest, rfl⟩
        exact ⟨denoted rest, ⟨hrest, rfl⟩, rfl⟩
    · simp [valueFrom, digitValueIn_of_not_isDigit hc, hc]

/-- **Reading finds the number that digits denote**, and takes nothing else. -/
theorem value_eq_some_iff {n : Nat} : value 10 digits = some n ↔
    digits ≠ [] ∧ (∀ c ∈ digits, isDigit c) ∧ n = denoted digits := by
  cases digits with
  | nil => simp [value]
  | cons first rest =>
    have hne : first :: rest ≠ [] := List.cons_ne_nil first rest
    simp only [value, valueFrom_eq_some_iff, ne_eq, hne, not_false_eq_true, true_and]

/-- With a bound of 64 bits, it takes the digits that denote less. -/
theorem word_eq_some_iff {w : UInt64} : word digits = some w ↔
    digits ≠ [] ∧ (∀ c ∈ digits, isDigit c) ∧ denoted digits < 2 ^ 64
      ∧ w.toNat = denoted digits := by
  unfold word
  constructor
  · intro h
    split at h
    · next n hvalue =>
      obtain ⟨hne, hall, rfl⟩ := value_eq_some_iff.1 hvalue
      split at h
      · next hbound =>
        obtain rfl := Option.some.inj h
        exact ⟨hne, hall, hbound, UInt64.toNat_ofNat_of_lt' hbound⟩
      · cases h
    · cases h
  · rintro ⟨hne, hall, hbound, hnumber⟩
    have hvalue : value 10 digits = some (denoted digits) := value_eq_some_iff.2 ⟨hne, hall, rfl⟩
    have hsize : denoted digits < UInt64.size := hbound
    simp only [hvalue, if_pos hsize]
    rw [← hnumber, UInt64.ofNat_toNat]

/-! ## Zeros in front -/

/-- Digits without the zeros in front of them.  Of zeros alone, one is left. -/
def unpadded (digits : List Char) : List Char :=
  match digits.dropWhile (· == '0') with
  | [] => ['0']
  | first :: rest => first :: rest

/-- The digit in front of the others is no zero. -/
theorem unpadded_ne_zero (h : digits.dropWhile (· == '0') ≠ []) : unpadded digits ≠ ['0'] := by
  have hfirst := List.head?_dropWhile_not (· == '0') digits
  unfold unpadded
  cases hrest : digits.dropWhile (· == '0') with
  | nil => exact absurd hrest h
  | cons first rest =>
    rw [hrest] at hfirst
    intro hzero
    obtain ⟨rfl, -⟩ := List.cons.inj hzero
    cases hfirst

/-- A digit more ends the numeral, unless there were only zeros before it. -/
theorem unpadded_concat (digits : List Char) (c : Char) : unpadded (digits ++ [c])
    = if digits.dropWhile (· == '0') = [] then [c] else unpadded digits ++ [c] := by
  unfold unpadded
  rw [List.dropWhile_append]
  cases hrest : digits.dropWhile (· == '0') with
  | nil =>
    by_cases hc : c = '0'
    · simp [hc]
    · simp [hc]
  | cons first rest => simp

/-- Zero is written as one digit. -/
theorem decimal_zero : decimal 0 = ['0'] := by
  rw [decimal]
  rfl

/-- Zeros denote nothing, however many there are. -/
theorem denoted_of_zeros (h : digits.dropWhile (· == '0') = []) : denoted digits = 0 := by
  induction digits using List.reverseRecOn with
  | nil => rfl
  | append_singleton rest c ih =>
    rw [List.dropWhile_eq_nil_iff, List.forall_mem_append, List.forall_mem_singleton] at h
    obtain ⟨hrest, hc⟩ := h
    obtain rfl : c = '0' := by simpa using hc
    rw [denoted_concat, ih (List.dropWhile_eq_nil_iff.2 hrest)]
    rfl

/-- **Writing the number leaves out the zeros in front**, and nothing else. -/
theorem decimal_denoted (h : ∀ c ∈ digits, isDigit c) : decimal (denoted digits) = unpadded digits := by
  induction digits using List.reverseRecOn with
  | nil => exact decimal_zero
  | append_singleton rest c ih =>
    rw [List.forall_mem_append, List.forall_mem_singleton] at h
    obtain ⟨hrest, hc⟩ := h
    obtain ⟨hlow, hhigh⟩ := isDigit_iff.1 hc
    have ih := ih hrest
    rw [unpadded_concat, denoted_concat]
    by_cases hzeros : rest.dropWhile (· == '0') = []
    · have hsmall : 0 * 10 + (c.toNat - 48) < 10 := by omega
      rw [if_pos hzeros, denoted_of_zeros hzeros, decimal, if_pos hsmall, Nat.zero_mul, Nat.zero_add,
        digitChar_value hc]
    · -- the first digit that is left is none of the zeros, so the number is not zero
      have hpos : denoted rest ≠ 0 := by
        intro hzero
        rw [hzero, decimal_zero] at ih
        exact unpadded_ne_zero hzeros ih.symm
      have hlarge : ¬ denoted rest * 10 + (c.toNat - 48) < 10 := by omega
      have hdiv : (denoted rest * 10 + (c.toNat - 48)) / 10 = denoted rest := by omega
      have hmod : (denoted rest * 10 + (c.toNat - 48)) % 10 = c.toNat - 48 := by omega
      rw [if_neg hzeros, decimal, if_neg hlarge, hdiv, hmod, ih, digitChar_value hc]

end QuorumRescue.Numeral
