/-
  What scalars are made of.

  A text is written in one of four forms.  Before a text can be read at all, there must be nothing in it
  that a reader refuses, and the reader of lines has to know where a scalar ends.  This file says both
  of any text.

  1. **The forms.** `formOf` chooses one, and `formOf_cases` says what the text may then have in it.
     `styleOf` is how a reader sees the form.

  2. **Readable characters.** The scalar of any text has readable characters only
     (`isReadable_of_mem_scalar`): printable characters stand for themselves, with blanks before the
     lines, and the others leave marks that can be read.  There is one lemma for each form, and the crux
     is the mark of a character that cannot be read itself (`isReadable_of_mem_escapeChar`).

  3. **The end.** A scalar ends in a line end only if it is a block of lines whose text does
     (`getLast?_scalar`), so `lineFeed` is what its line still needs.
-/
import QuorumRescue.Proofs.Yaml.Block
import QuorumRescue.Yaml.Token

namespace QuorumRescue.Yaml

/-! ## Forms -/

/-- What ends the line of a scalar; a block of lines has ended its own. -/
def lineFeed (text : List Char) : List Char :=
  if formOf text = .block ∧ endsLine false text = true then [] else ['\n']

/-- How a reader sees the scalar of a text. -/
def styleOf (text : List Char) : Style :=
  match formOf text with
  | .plain => .plain
  | .single => .singleQuoted
  | .double => .doubleQuoted
  | .block => .literal

/-- What the form of a text says about it. -/
theorem formOf_cases (text : List Char) :
    (formOf text = .plain ∧ fitsPlain text = true)
      ∨ (formOf text = .single ∧ fitsSingle text = true ∧ '\n' ∉ text)
      ∨ formOf text = .double
      ∨ (formOf text = .block ∧ fitsBlock text = true ∧ text ≠ []) := by
  unfold formOf
  by_cases hfeed : '\n' ∈ text
  · have hcontains : text.contains '\n' = true := List.contains_iff_mem.2 hfeed
    rw [if_pos hcontains]
    cases hfits : fitsBlock text with
    | false => exact Or.inr (Or.inr (Or.inl rfl))
    | true => exact Or.inr (Or.inr (Or.inr ⟨rfl, rfl, List.ne_nil_of_mem hfeed⟩))
  · have hcontains : ¬ text.contains '\n' = true := fun h => hfeed (List.contains_iff_mem.1 h)
    rw [if_neg hcontains]
    cases hplain : fitsPlain text with
    | true => exact Or.inl ⟨rfl, rfl⟩
    | false =>
      cases hsingle : fitsSingle text with
      | true => exact Or.inr (Or.inl ⟨rfl, rfl, hfeed⟩)
      | false => exact Or.inr (Or.inr (Or.inl rfl))

/-! ## Characters -/

theorem mem_indentLines {indent : Nat} {fresh : Bool} {text : List Char} {c : Char}
    (h : c ∈ indentLines indent fresh text) : c = ' ' ∨ c ∈ text := by
  induction text generalizing fresh with
  | nil => cases h
  | cons d more ih =>
    rw [indentLines_cons, List.mem_append] at h
    rcases h with h | h
    · simp only [indentLines] at h
      split at h
      · exact Or.inr (List.mem_singleton.1 h ▸ List.mem_cons_self)
      · rcases List.mem_append.1 h with h | h
        · split at h
          · exact Or.inl (List.eq_of_mem_replicate h)
          · cases h
        · exact Or.inr (List.mem_singleton.1 h ▸ List.mem_cons_self)
    · exact (ih h).imp_right (List.mem_cons_of_mem d)

theorem getLast?_indentLines (indent : Nat) (fresh : Bool) (text : List Char) :
    (indentLines indent fresh text).getLast? = text.getLast? := by
  induction text generalizing fresh with
  | nil => rfl
  | cons c more ih =>
    have hone : (indentLines indent fresh [c]).getLast? = some c := by
      simp only [indentLines]
      split <;> simp
    rw [indentLines_cons, List.getLast?_append, ih, hone]
    cases more with
    | nil => rfl
    | cons d more => simp [List.getLast?_cons]

theorem isReadable_upperDigit {d : Nat} (h : d < 16) : isReadable (upperDigit d) = true := by
  have all : ∀ d < 16, isReadable (upperDigit d) = true := by decide
  exact all d h

theorem isReadable_of_mem_upperHex {count n : Nat} {c : Char} (h : c ∈ upperHex count n) :
    isReadable c = true := by
  induction count with
  | zero => cases h
  | succ count ih =>
    rw [upperHex_succ, List.mem_cons] at h
    rcases h with rfl | h
    · exact isReadable_upperDigit (Nat.mod_lt _ (by decide))
    · exact ih h

/-- The mark of a character can be read, even if the character cannot. -/
theorem isReadable_of_mem_escapeChar {c d : Char} (h : d ∈ escapeChar c) : isReadable d = true := by
  unfold escapeChar at h
  split at h
  · -- the character stands for itself, since it is printable
    next hplain =>
    simp only [Bool.and_eq_true] at hplain
    rw [List.mem_singleton.1 h]
    exact isReadable_of_isPrintable hplain.1.1.1
  · have hcode : ∀ (letter : Char) (width : Nat), isReadable letter = true →
        d ∈ ['\\', letter] ++ upperHex width c.toNat → isReadable d = true := by
      intro letter width hletter hmem
      simp only [List.cons_append, List.nil_append, List.mem_cons] at hmem
      rcases hmem with rfl | rfl | hmem
      · rfl
      · exact hletter
      · exact isReadable_of_mem_upperHex hmem
    split at h
    · next letter hletter =>
      -- there are few letters that stand behind a backslash
      have all : ∀ e ∈ escapes, isReadable e.2 = true := by decide
      simp only [List.mem_cons, List.not_mem_nil, or_false] at h
      rcases h with rfl | rfl
      · rfl
      · have hreadable := all _ (mem_escapes hletter)
        exact hreadable
    · split at h
      · exact hcode 'x' 2 rfl h
      split at h
      · exact hcode 'u' 4 rfl h
      · exact hcode 'U' 8 rfl h

theorem isReadable_of_mem_indentLines {indent : Nat} {fresh : Bool} {text : List Char} {c : Char}
    (htext : ∀ d ∈ text, isReadable d = true) (h : c ∈ indentLines indent fresh text) :
    isReadable c = true := by
  rcases mem_indentLines h with rfl | h
  · rfl
  · exact htext c h

theorem isReadable_of_mem_replicate {count : Nat} {c : Char} (h : c ∈ List.replicate count ' ') :
    isReadable c = true := by
  rw [List.eq_of_mem_replicate h]
  rfl

theorem isReadable_of_mem_single {indent : Nat} {text : List Char} {c : Char}
    (htext : ∀ d ∈ text, isReadable d = true) (h : c ∈ single indent text) : isReadable c = true := by
  have hdoubled : ∀ d ∈ doubled text, isReadable d = true := by
    intro d hd
    obtain ⟨e, he, hd⟩ := List.mem_flatMap.1 hd
    split at hd
    · have hquote : d = '\'' := by simpa using hd
      rw [hquote]
      rfl
    · rw [List.mem_singleton.1 hd]
      exact htext e he
  simp only [single, List.cons_append, List.mem_cons, List.mem_append, List.not_mem_nil, or_false] at h
  rcases h with rfl | (h | h) | rfl
  · rfl
  · exact isReadable_of_mem_indentLines hdoubled h
  · split at h
    · exact isReadable_of_mem_replicate h
    · cases h
  · rfl

theorem isReadable_of_mem_double {text : List Char} {c : Char} (h : c ∈ double text) :
    isReadable c = true := by
  simp only [double, List.cons_append, List.mem_cons, List.mem_append, List.mem_flatMap,
    List.not_mem_nil, or_false] at h
  rcases h with rfl | ⟨d, -, hd⟩ | rfl
  · rfl
  · exact isReadable_of_mem_escapeChar hd
  · rfl

theorem isReadable_of_mem_block {indent : Nat} {text : List Char} {c : Char} (hne : text ≠ [])
    (htext : ∀ d ∈ text, isReadable d = true) (h : c ∈ block indent text) : isReadable c = true := by
  have hmark : (chompMark text).all isReadable = true := by
    rcases chompMark_cases hne with ⟨-, hmark⟩ | ⟨-, hmark⟩ | ⟨-, hmark⟩ <;> rw [hmark] <;> rfl
  simp only [block, List.mem_append, List.mem_singleton] at h
  rcases h with (((rfl | h) | h) | rfl) | h
  · rfl
  · split at h
    · rw [List.mem_singleton.1 h]
      rfl
    · cases h
  · exact List.all_eq_true.1 hmark c h
  · rfl
  · exact isReadable_of_mem_indentLines htext h

/-- **A scalar has readable characters only**, whatever text it is of.  In the first three forms that is a
    matter of the text or of its marks; a block only has texts that need no escapes. -/
theorem isReadable_of_mem_scalar {indent : Nat} {text : List Char} {c : Char}
    (h : c ∈ scalar indent text) : isReadable c = true := by
  have hkept : needsEscapes text = false → ∀ d ∈ text, isReadable d = true := fun hescapes d hd =>
    isReadable_of_isPrintable (isPrintable_of_not_needsEscapes hescapes d hd)
  unfold scalar at h
  rcases formOf_cases text with ⟨hform, hfits⟩ | ⟨hform, hfits, -⟩ | hform | ⟨hform, hfits, hne⟩
  all_goals simp only [hform] at h
  · simp only [fitsPlain, fitsSingle, Bool.and_eq_true, Bool.not_eq_true'] at hfits
    exact hkept hfits.1.1.1.1.1.1 c h
  · simp only [fitsSingle, Bool.and_eq_true, Bool.not_eq_true'] at hfits
    exact isReadable_of_mem_single (hkept hfits.1) h
  · exact isReadable_of_mem_double h
  · simp only [fitsBlock, Bool.and_eq_true, Bool.not_eq_true'] at hfits
    exact isReadable_of_mem_block hne (hkept hfits.1) h

/-- A scalar ends in a line end only if it is a block of lines whose text does. -/
theorem getLast?_scalar (indent : Nat) (text : List Char) :
    (scalar indent text).getLast?.any isBreak = true ↔ formOf text = .block ∧ endsLine false text = true := by
  unfold scalar
  rcases formOf_cases text with ⟨hform, hfits⟩ | ⟨hform, -⟩ | hform | ⟨hform, -, hne⟩
  all_goals simp only [hform]
  · -- a plain scalar is its text, which has no line end in it
    simp only [fitsPlain, Bool.and_eq_true, Bool.not_eq_true', List.any_eq_false] at hfits
    have hbreaks := hfits.1.1.1.1.2
    cases hl : text.getLast? with
    | none => simp
    | some c => simpa using hbreaks c (List.mem_of_getLast? hl)
  · have hlast : (single indent text).getLast? = some '\'' := List.getLast?_concat
    rw [hlast]
    simp [isBreak]
  · have hlast : (double text).getLast? = some '"' := List.getLast?_concat
    rw [hlast]
    simp [isBreak]
  · -- a block ends as its text does, since indenting adds nothing at the end
    have hlast : (block indent text).getLast? = text.getLast? := by
      rw [block, List.getLast?_append, getLast?_indentLines]
      cases hl : text.getLast? with
      | none => exact absurd (List.getLast?_eq_none_iff.1 hl) hne
      | some c => rfl
    rw [hlast]
    simp only [true_and, endsLine]
    cases hl : text.getLast? with
    | none => exact absurd (List.getLast?_eq_none_iff.1 hl) hne
    | some c => simp

end QuorumRescue.Yaml
