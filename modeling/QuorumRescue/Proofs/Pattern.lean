/-
  The patterns that tags have to match.

  Operators know the rules for tags as regular expressions over the whole text: a word, a dash, and one
  or more characters of a class.  The rules themselves do not look at a text that way.  They take a lead
  off it and test every character of what is left, so that a rule and the expression that it is known by
  are two things, and this file says that they accept the same texts.

  1. **The expressions** are those of the standard theory of regular languages (`RegularExpression`),
     built up as an operator reads them: `word` for a fixed word, `oneOf` for a class, `onceOrMore` for
     the plus sign, and `dashed` for a lead, a dash and letters of a class.  `tag`, `controller` and
     `model` are the three patterns.  What they match is a matter of their language and not of how a
     text is looked at.

  2. **The specification** is membership in the language, `text.toList ∈ Pattern.tag.matches'`.  There
     is one lemma for each way to build an expression, with the members described directly: a word
     matches itself, a class its single letters, and a class once or more often the texts that are not
     empty and have no other letters (`mem_onceOrMore_oneOf`).

  3. **The crux** is the star.  That a text is a chain of matches is a statement about how it falls into
     pieces; here the pieces are single letters, so the chain can be read letter by letter, and a text
     matches the star exactly if each of its letters is in the class (`mem_star_oneOf`).  With that,
     `mem_dashed` describes a whole pattern by the place of the dash.

  4. **The rules** are brought to the same form: a rule holds exactly if the text is its lead, a dash,
     and good characters only (`hasForm_iff`).  A class is a list of letters in the pattern and a test
     of codes in the rule; that both are the same class is checked code by code
     (`Numeral.isDigit_iff_mem`, `isIdChar_iff_mem`).  The results are `fitsTag_iff`,
     `fitsController_iff` and `fitsModel_iff`, in which no detail of either side is left.
-/
import Mathlib.Computability.RegularExpressions
import QuorumRescue.Agent.Config
import QuorumRescue.Proofs.Numeral

namespace QuorumRescue

namespace Pattern

open RegularExpression

variable {letters text : List Char}

/-! ## Parts of patterns -/

/-- One word. -/
def word (letters : List Char) : RegularExpression Char := (letters.map char).prod

/-- One letter of a class. -/
def oneOf (letters : List Char) : RegularExpression Char := (letters.map char).sum

/-- The same pattern once or more often. -/
def onceOrMore (pattern : RegularExpression Char) : RegularExpression Char := pattern * pattern.star

/-- A word matches itself and no other text. -/
theorem mem_word : text ∈ (word letters).matches' ↔ text = letters := by
  induction letters generalizing text with
  | nil => exact Language.mem_one text
  | cons c rest ih =>
    show text ∈ (char c * word rest).matches' ↔ text = c :: rest
    rw [matches'_mul, Language.mem_mul]
    constructor
    · rintro ⟨first, hfirst, last, hlast, rfl⟩
      obtain rfl : first = [c] := hfirst
      rw [ih.1 hlast, List.singleton_append]
    · rintro rfl
      exact ⟨[c], rfl, rest, ih.2 rfl, rfl⟩

/-- A class matches the texts that are one of its letters. -/
theorem mem_oneOf : text ∈ (oneOf letters).matches' ↔ ∃ c ∈ letters, text = [c] := by
  induction letters with
  | nil =>
    constructor
    · intro h
      exact absurd h (Language.notMem_zero text)
    · rintro ⟨c, hc, -⟩
      cases hc
  | cons c rest ih =>
    show text ∈ (char c + oneOf rest).matches' ↔ _
    rw [matches'_add, Language.mem_add, ih, List.exists_mem_cons_iff]
    exact Iff.rfl

/-- **A class any number of times** matches the texts that have no other letters.  The pieces of such a
    chain are single letters, so its pieces and its letters are the same. -/
theorem mem_star_oneOf : text ∈ (oneOf letters).star.matches' ↔ ∀ c ∈ text, c ∈ letters := by
  rw [matches'_star, Language.mem_kstar]
  constructor
  · rintro ⟨pieces, rfl, hpieces⟩ c hc
    obtain ⟨piece, hpiece, hc⟩ := List.mem_flatten.1 hc
    obtain ⟨letter, hletter, rfl⟩ := mem_oneOf.1 (hpieces piece hpiece)
    rw [List.mem_singleton.1 hc]
    exact hletter
  · intro hall
    -- each letter is a piece of its own
    have hpieces : text = (text.map fun c => [c]).flatten := by
      rw [← List.flatMap_def, List.flatMap_singleton']
    refine ⟨text.map fun c => [c], hpieces, fun piece hpiece => ?_⟩
    obtain ⟨c, hc, rfl⟩ := List.mem_map.1 hpiece
    exact mem_oneOf.2 ⟨c, hall c hc, rfl⟩

/-- One or more letters of a class. -/
theorem mem_onceOrMore_oneOf :
    text ∈ (onceOrMore (oneOf letters)).matches' ↔ text ≠ [] ∧ ∀ c ∈ text, c ∈ letters := by
  rw [onceOrMore, matches'_mul, Language.mem_mul]
  constructor
  · rintro ⟨first, hfirst, last, hlast, rfl⟩
    obtain ⟨letter, hletter, rfl⟩ := mem_oneOf.1 hfirst
    have hrest := mem_star_oneOf.1 hlast
    refine ⟨List.cons_ne_nil letter last, fun c hc => ?_⟩
    rcases List.mem_cons.1 hc with rfl | hc
    · exact hletter
    · exact hrest c hc
  · rintro ⟨hne, hall⟩
    obtain ⟨c, rest, rfl⟩ := List.exists_cons_of_ne_nil hne
    have hhead : [c] ∈ (oneOf letters).matches' := mem_oneOf.2 ⟨c, hall c List.mem_cons_self, rfl⟩
    have htail : rest ∈ (oneOf letters).star.matches' :=
      mem_star_oneOf.2 fun d hd => hall d (List.mem_cons_of_mem c hd)
    exact ⟨[c], hhead, rest, htail, rfl⟩

/-! ## Whole patterns -/

/-- A lead, a dash, and one or more letters of a class. -/
def dashed (lead : RegularExpression Char) (letters : List Char) : RegularExpression Char :=
  lead * word ['-'] * onceOrMore (oneOf letters)

/-- A text matches a lead, a dash and letters of a class exactly if it can be cut at a dash in this way.
    The lead might have a dash too, so nothing is said about which dash it is. -/
theorem mem_dashed {lead : RegularExpression Char} : text ∈ (dashed lead letters).matches' ↔
    ∃ first rest, first ∈ lead.matches' ∧ text = first ++ '-' :: rest
      ∧ rest ≠ [] ∧ ∀ c ∈ rest, c ∈ letters := by
  rw [dashed, matches'_mul, matches'_mul, Language.mem_mul]
  constructor
  · rintro ⟨front, hfront, rest, hrest, rfl⟩
    obtain ⟨first, hfirst, dash, hdash, rfl⟩ := Language.mem_mul.1 hfront
    obtain rfl := mem_word.1 hdash
    have hletters := mem_onceOrMore_oneOf.1 hrest
    exact ⟨first, rest, hfirst, by simp, hletters⟩
  · rintro ⟨first, rest, hfirst, rfl, hletters⟩
    have hfront : first ++ ['-'] ∈ lead.matches' * (word ['-']).matches' :=
      Language.mem_mul.2 ⟨first, hfirst, ['-'], mem_word.2 rfl, rfl⟩
    exact ⟨first ++ ['-'], hfront, rest, mem_onceOrMore_oneOf.2 hletters, by simp⟩

/-- The class `[0-9]`. -/
def digits : List Char := ['0', '1', '2', '3', '4', '5', '6', '7', '8', '9']

/-- The class `[0-9a-f-]`. -/
def idLetters : List Char := digits ++ ['a', 'b', 'c', 'd', 'e', 'f', '-']

/-- The pattern `(machine|controller)-[0-9]+`. -/
def tag : RegularExpression Char :=
  dashed (word AgentKind.machine.word + word AgentKind.controller.word) digits

/-- The pattern `controller-[0-9a-f-]+`. -/
def controller : RegularExpression Char := dashed (word AgentKind.controller.word) idLetters

/-- The pattern `model-[0-9a-f-]+`. -/
def model : RegularExpression Char := dashed (word ['m', 'o', 'd', 'e', 'l']) idLetters

end Pattern

/-! ## Classes -/

/-- What the class has for letters is what counts as a digit. -/
theorem Numeral.isDigit_iff_mem {c : Char} : Numeral.isDigit c ↔ c ∈ Pattern.digits := by
  have hcodes : ∀ n < 58, 48 ≤ n → Char.ofNat n ∈ Pattern.digits := by decide
  have hletters : ∀ letter ∈ Pattern.digits, Numeral.isDigit letter := List.all_eq_true.1 rfl
  constructor
  · intro h
    obtain ⟨hlow, hhigh⟩ := Numeral.isDigit_iff.1 h
    rw [← Char.ofNat_toNat c]
    exact hcodes c.toNat (by omega) hlow
  · exact hletters c

namespace AgentConfig

/-- The characters of unique ids are those of the class: digits, six letters and the dash. -/
theorem isIdChar_iff_mem {c : Char} : isIdChar c ↔ c ∈ Pattern.idLetters := by
  have hdigits : ∀ n < 58, 48 ≤ n → Char.ofNat n ∈ Pattern.idLetters := by decide
  have hsmall : ∀ n < 103, 97 ≤ n → Char.ofNat n ∈ Pattern.idLetters := by decide
  have hletters : ∀ letter ∈ Pattern.idLetters, isIdChar letter := List.all_eq_true.1 rfl
  constructor
  · intro h
    simp only [isIdChar, Bool.or_eq_true, Bool.and_eq_true, decide_eq_true_eq, beq_iff_eq] at h
    rw [← Char.ofNat_toNat c]
    rcases h with (⟨hlow, hhigh⟩ | ⟨hlow, hhigh⟩) | rfl
    · exact hdigits c.toNat (by omega) hlow
    · exact hsmall c.toNat (by omega) hlow
    · decide
  · exact hletters c

end AgentConfig

namespace AgentConfig

variable {text : List Char}

/-! ## The rules for tags -/

/-- **A rule decides the language of its pattern**, when its test of a character is membership in the
    pattern's class. -/
theorem hasForm_iff {lead : List Char} {good : Char → Bool} {letters : List Char}
    (hgood : ∀ c, good c ↔ c ∈ letters) :
    hasForm lead good text ↔ text ∈ (Pattern.dashed (Pattern.word lead) letters).matches' := by
  rw [Pattern.mem_dashed]
  unfold hasForm
  constructor
  · intro h
    split at h
    · next rest hlead =>
      obtain rfl := Text.dropLead_eq_some.1 hlead
      simp only [Bool.and_eq_true, Bool.not_eq_true', List.isEmpty_eq_false_iff, List.all_eq_true] at h
      obtain ⟨hne, hall⟩ := h
      exact ⟨lead, rest, Pattern.mem_word.2 rfl, by simp, hne, fun c hc => (hgood c).1 (hall c hc)⟩
    · cases h
  · rintro ⟨first, rest, hfirst, rfl, hne, hall⟩
    obtain rfl := Pattern.mem_word.1 hfirst
    have hlead : Text.dropLead (first ++ ['-']) (first ++ '-' :: rest) = some rest :=
      Text.dropLead_eq_some.2 (by simp)
    simp only [hlead, Bool.and_eq_true, Bool.not_eq_true', List.isEmpty_eq_false_iff, List.all_eq_true]
    exact ⟨hne, fun c hc => (hgood c).2 (hall c hc)⟩

/-- A tag fits its rule exactly if it matches the pattern. -/
theorem fitsTag_iff {text : String} : fitsTag text ↔ text.toList ∈ Pattern.tag.matches' := by
  have hdigit : ∀ c, Numeral.isDigit c ↔ c ∈ Pattern.digits := fun c => Numeral.isDigit_iff_mem
  rw [fitsTag, Bool.or_eq_true, hasForm_iff hdigit, hasForm_iff hdigit, Pattern.tag,
    Pattern.mem_dashed, Pattern.mem_dashed, Pattern.mem_dashed]
  simp only [RegularExpression.matches'_add, Language.mem_add, or_and_right, exists_or]

/-- The id of a controller fits its rule exactly if it matches the pattern. -/
theorem fitsController_iff {text : String} :
    fitsController text ↔ text.toList ∈ Pattern.controller.matches' :=
  hasForm_iff fun _ => isIdChar_iff_mem

/-- The id of a model fits its rule exactly if it matches the pattern. -/
theorem fitsModel_iff {text : String} : fitsModel text ↔ text.toList ∈ Pattern.model.matches' :=
  hasForm_iff fun _ => isIdChar_iff_mem

end AgentConfig

end QuorumRescue
