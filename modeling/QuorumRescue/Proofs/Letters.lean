/-
  Letters of either case.

  An answer is a yes in whatever case it is typed.  The program makes the text small, by the table for
  all scripts, and compares what comes out with a word.  This file says which texts come out as a given
  word of small ASCII letters, and the answer is what an operator would expect: those that spell the
  word with small and large letters, and no others.

  1. **The specification** is `Spells`: letter by letter, the text has the small letter or its capital.
     Both are told by their codes, so the large letter of a small one is the one 32 places before it
     (`eq_toUpper_iff`), and the table does not occur.

  2. **What might go wrong** is that a letter of another script becomes one of ASCII.  Capitals are made
     small by a table of runs, and a run could end anywhere.  Only two characters outside ASCII become a
     text that begins with an ASCII letter: the sign of the kelvin becomes a `k`, and the dotted I
     becomes an `i` with a dot of its own behind it, which is two characters and no letter.  So a word
     without a `k` comes from its own letters and from no others.

  3. **The crux** is `lowerChar_eq_singleton_iff`, one equivalence for one letter.  Little is asked of
     the table for it: that its first run is that of ASCII (`lowerChar_of_large`), where the small
     letters of the other runs lie (`caseRuns_small`), and that no small letter is itself in a run
     (`caseRuns_last`).  These are facts about a closed list and are evaluated; everything else is
     argued.

  4. **From letters to texts** it is an induction along the text (`lower_eq_iff`).  A character that
     becomes two cannot be part of a word, since the second of them is no letter.

  5. **The sigma** has a second shape at the end of a word.  The table leaves that out, and it does not
     matter: a text that differs in the shapes of its sigmas only is a word of ASCII letters exactly if
     the other is (`eq_iff_of_sameButSigma`).
-/
import Mathlib.Data.List.Forall2
import QuorumRescue.Text.Lower

namespace QuorumRescue.Text

variable {small c : Char} {word text : List Char}

/-! ## The two letters -/

/-- A small letter of ASCII. -/
def IsSmall (small : Char) : Prop := 0x61 ≤ small.toNat ∧ small.toNat ≤ 0x7A

/-- The text is the word, each letter of it small or large. -/
def Spells (word text : List Char) : Prop :=
  List.Forall₂ (fun small c => c = small ∨ c = small.toUpper) word text

theorem toNat_toUpper (h : IsSmall small) : small.toUpper.toNat + 0x20 = small.toNat := by
  have hletters : ∀ n < 26, (Char.ofNat (0x61 + n)).toUpper.toNat = 0x41 + n := by decide
  obtain ⟨hlow, hhigh⟩ := h
  have hletter := hletters (small.toNat - 0x61) (by omega)
  rw [show 0x61 + (small.toNat - 0x61) = small.toNat by omega, Char.ofNat_toNat] at hletter
  omega

/-- So a capital is told by its code, and no table is needed to know it. -/
theorem eq_toUpper_iff (h : IsSmall small) : c = small.toUpper ↔ c.toNat + 0x20 = small.toNat := by
  have hupper := toNat_toUpper h
  constructor
  · rintro rfl
    exact hupper
  · intro hc
    exact Char.toNat_inj.1 (by omega)

/-- What spells a word of small letters is made of letters, so it is in ASCII. -/
theorem letters_of_spells (hword : ∀ small ∈ word, IsSmall small) (h : Spells word text) :
    ∀ c ∈ text, 0x41 ≤ c.toNat ∧ c.toNat ≤ 0x7A := by
  induction h with
  | nil => nofun
  | @cons small c word text hc _ ih =>
    rw [List.forall_mem_cons] at hword ⊢
    obtain ⟨hlow, hhigh⟩ := hword.1
    refine ⟨?_, ih hword.2⟩
    rcases hc with rfl | hupper
    · omega
    · rw [eq_toUpper_iff hword.1] at hupper
      omega

/-! ## What becomes a small letter -/

/-- A run of capitals is that of ASCII, or that of the kelvin, or becomes what is beyond ASCII letters. -/
theorem caseRuns_small : ∀ r ∈ caseRuns,
    r.first = 0x41 ∧ r.small = 0x61 ∨ r.first = 0x212A ∧ r.last = 0x212A ∧ r.small = 0x6B
      ∨ 0x7A < r.small := by
  decide +kernel

/-- No small letter of ASCII is in a run of capitals. -/
theorem caseRuns_last : ∀ r ∈ caseRuns, r.last < 0x61 ∨ 0x7A < r.first := by
  decide +kernel

/-- A run that holds a code holds it between its ends. -/
theorem bounds_of_holds {r : CaseRun} {n : Nat} (h : r.holds n = true) : r.first ≤ n ∧ n ≤ r.last := by
  simp only [CaseRun.holds, Bool.and_eq_true, decide_eq_true_eq] at h
  exact h.1

/-- The first run of capitals is that of ASCII. -/
theorem lowerChar_of_large (h : 0x41 ≤ c.toNat ∧ c.toNat ≤ 0x5A) :
    lowerChar c = [Char.ofNat (c.toNat + 0x20)] := by
  obtain ⟨hlow, hhigh⟩ := h
  obtain ⟨more, hruns⟩ : ∃ more, caseRuns = ⟨0x41, 0x5A, 1, 0x61⟩ :: more := ⟨_, rfl⟩
  have hholds : CaseRun.holds ⟨0x41, 0x5A, 1, 0x61⟩ c.toNat = true := by
    simp only [CaseRun.holds, Nat.mod_one, Bool.and_eq_true, decide_eq_true_eq, beq_self_eq_true, and_true]
    exact ⟨hlow, hhigh⟩
  have hfind : caseRuns.find? (·.holds c.toNat) = some ⟨0x41, 0x5A, 1, 0x61⟩ := by
    rw [hruns, List.find?_cons, hholds]
  rw [lowerChar, if_neg (by omega), hfind]
  show [Char.ofNat (0x61 + (c.toNat - 0x41))] = _
  rw [show 0x61 + (c.toNat - 0x41) = c.toNat + 0x20 by omega]

/-- A small letter stays as it is, since no run of capitals has it. -/
theorem lowerChar_of_small (h : IsSmall small) : lowerChar small = [small] := by
  obtain ⟨hlow, hhigh⟩ := h
  have hnone : caseRuns.find? (·.holds small.toNat) = none := by
    rw [List.find?_eq_none]
    intro r hr hholds
    have hbounds := bounds_of_holds hholds
    rcases caseRuns_last r hr with hlast | hfirst <;> omega
  rw [lowerChar, if_neg (by omega), hnone]

/-- A character becomes one character, but for the dotted I. -/
theorem lowerChar_cases (c : Char) :
    lowerChar c = [Char.ofNat 0x69, Char.ofNat 0x307] ∨ ∃ d, lowerChar c = [d] := by
  unfold lowerChar
  split
  · exact .inl rfl
  · split
    · exact .inr ⟨_, rfl⟩
    · exact .inr ⟨c, rfl⟩

/-- A code that is no character's becomes the zero character, so any other tells its code. -/
theorem eq_toNat_of_ofNat {n : Nat} (h : Char.ofNat n = c) (hc : c.toNat ≠ 0) : n = c.toNat := by
  subst h
  by_cases hvalid : n.isValidChar
  · rw [Char.ofNat, dif_pos hvalid]
    rfl
  · rw [Char.ofNat, dif_neg hvalid] at hc
    exact absurd rfl hc

/-- **A small letter of ASCII comes from itself and its capital**, and but for the `k` from nothing else.
    All runs of capitals are looked at: only the sign of the kelvin becomes a letter of ASCII. -/
theorem lowerChar_eq_singleton_iff (h : IsSmall small) (hk : small ≠ 'k') :
    lowerChar c = [small] ↔ c = small ∨ c = small.toUpper := by
  rw [eq_toUpper_iff h]
  constructor
  · intro hlower
    obtain ⟨hlow, hhigh⟩ := h
    unfold lowerChar at hlower
    split at hlower
    · cases hlower
    · split at hlower
      next r hfind =>
        have hr : r ∈ caseRuns := List.mem_of_find?_eq_some hfind
        have hholds : r.holds c.toNat = true :=
          List.find?_some (p := fun r : CaseRun => r.holds c.toNat) hfind
        have hbounds := bounds_of_holds hholds
        have hbecomes : Char.ofNat (r.small + (c.toNat - r.first)) = small := List.head_eq_of_cons_eq hlower
        have hcode : r.small + (c.toNat - r.first) = small.toNat := eq_toNat_of_ofNat hbecomes (by omega)
        -- the run of ASCII gives its own letters, that of the kelvin a k, and the others none of ASCII
        rcases caseRuns_small r hr with ⟨hfirst, hsmall⟩ | ⟨hfirst, hlast, hsmall⟩ | hbeyond
        · right
          omega
        · have hkelvin : small.toNat = 'k'.toNat := by
            show small.toNat = 0x6B
            omega
          exact absurd (Char.toNat_inj.1 hkelvin) hk
        · omega
      next =>
        exact .inl (List.head_eq_of_cons_eq hlower)
  · rintro (rfl | hlarge)
    · exact lowerChar_of_small h
    · obtain ⟨hlow, hhigh⟩ := h
      rw [lowerChar_of_large (by omega), hlarge, Char.ofNat_toNat]

/-- The sign of the kelvin is another capital of its letter. -/
example : lowerChar (Char.ofNat 0x212A) = ['k'] := by decide

/-- **A text becomes a word of small letters exactly if it spells the word.** The one character that becomes
    two, the dotted capital I, brings in a combining dot, which is in no word. -/
theorem lower_eq_iff (hword : ∀ small ∈ word, IsSmall small ∧ small ≠ 'k') :
    lower text = word ↔ Spells word text := by
  unfold Spells
  induction text generalizing word with
  | nil =>
    rw [List.forall₂_nil_right_iff]
    exact eq_comm
  | cons c rest ih =>
    have hcons : lower (c :: rest) = lowerChar c ++ lower rest := List.flatMap_cons
    rw [hcons, List.forall₂_cons_right_iff]
    constructor
    · rintro rfl
      rcases lowerChar_cases c with hdotted | ⟨small, hsmall⟩
      · -- the dot above is no letter of ASCII
        rw [hdotted] at hword
        obtain ⟨⟨-, hhigh⟩, -⟩ := hword (Char.ofNat 0x307) (by simp)
        exact absurd hhigh (by decide)
      · rw [hsmall, List.singleton_append, List.forall_mem_cons] at hword
        obtain ⟨⟨hletter, hk⟩, hmore⟩ := hword
        exact ⟨small, lower rest, (lowerChar_eq_singleton_iff hletter hk).1 hsmall, (ih hmore).1 rfl,
          by rw [hsmall, List.singleton_append]⟩
    · rintro ⟨small, more, hc, hrest, rfl⟩
      rw [List.forall_mem_cons] at hword
      obtain ⟨⟨hletter, hk⟩, hmore⟩ := hword
      rw [(lowerChar_eq_singleton_iff hletter hk).2 hc, (ih hmore).2 hrest, List.singleton_append]

/-! ## The two shapes of the sigma -/

/-- The same text, with some of its sigmas in the shape that they have at the end of a word. -/
def SameButSigma (lowered shaped : List Char) : Prop :=
  List.Forall₂ (fun a b => b = a ∨ a = 'σ' ∧ b = 'ς') lowered shaped

/-- The table does not tell the shapes apart, and no word of ASCII letters depends on it. -/
theorem eq_iff_of_sameButSigma {lowered shaped : List Char} (h : SameButSigma lowered shaped)
    (hword : ∀ small ∈ word, IsSmall small) : shaped = word ↔ lowered = word := by
  unfold SameButSigma at h
  induction h generalizing word with
  | nil => exact Iff.rfl
  | @cons a b lowered shaped hab _ ih =>
    cases word with
    | nil => exact iff_of_false (List.cons_ne_nil _ _) (List.cons_ne_nil _ _)
    | cons small more =>
      rw [List.forall_mem_cons] at hword
      rw [List.cons.injEq, List.cons.injEq, ih hword.2]
      rcases hab with rfl | ⟨rfl, rfl⟩
      · exact Iff.rfl
      · -- neither shape is a small letter of ASCII
        obtain ⟨⟨-, hhigh⟩, -⟩ := hword
        have hne : ∀ sigma : Char, 0x7A < sigma.toNat → sigma ≠ small := by
          rintro sigma hsigma rfl
          omega
        exact iff_of_false (fun h => hne 'ς' (by decide) h.1) (fun h => hne 'σ' (by decide) h.1)

end QuorumRescue.Text
