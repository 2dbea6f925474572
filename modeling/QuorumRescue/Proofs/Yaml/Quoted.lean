/-
  Scalars between quotes, written and read again.

  Texts that cannot stand plain are put between quotes, single ones if possible, since then the text can
  be seen as it is, and double ones for everything else.  This file shows for both that the text is read
  back.

  1. **Single quotes.** The text stands there as it is, but for the quote itself, which is doubled, and
     for the indentation of its further lines.  Reading drops blanks around a line end and keeps blanks
     between words.  A text that may stand between single quotes never has a blank beside a line end,
     and its line ends are of the kind that is kept.

  2. **The crux** is where the reader is (`Inside`): in a word, behind blanks, or at the start of a
     line, where the indentation comes before the next word.  What it has seen and what it keeps in its
     pause are together what was written (`PassesSingle`), and nothing may follow that the pause would
     swallow, or be swallowed by (`mayFollow`).  `passesSingle` leads from place to place, for each kind
     of printable character (`cases_of_isPrintable`), and the induction is on the rest of the text
     (`readSingle_doubled`).

  3. **Double quotes.** Every character leaves its mark: itself, a letter behind a backslash, or a
     number in hexadecimal digits.  Reading a mark gives the character back and goes on behind it
     (`passesDouble`), so there is no text that could not be written (`readDouble_escaped`).

  4. **The results** are `readSingle_single` and `readDouble_double`.
-/
import Mathlib.Algebra.Group.Nat.Defs
import QuorumRescue.Yaml.Lexer.Quoted
import QuorumRescue.Yaml.Scalar

namespace QuorumRescue.Yaml

theorem Position.right_right (p : Position) (m n : Nat) : (p.right m).right n = p.right (m + n) := by
  simp [right, Nat.add_assoc]

/-- With another character read, nothing is left of the pause before it. -/
theorem text_extendText (seen : List Char) (pause : Pause) (c : Char) :
    (extendText seen pause c).reverse ++ Pause.none.text = seen.reverse ++ pause.text ++ [c] := by
  simp [extendText, Pause.text]

/-! ## Printable characters -/

/-- **A printable character ends a line, is a space, or belongs to a word.**  One that ends a line is
kept as it is. -/
theorem cases_of_isPrintable {c : Char} (h : isPrintable c = true) :
    (isBreak c = true ∧ isBlank c = false ∧ breakText c = c ∧ c ≠ '\r') ∨ c = ' '
      ∨ (isBreak c = false ∧ isBlank c = false) := by
  by_cases hb : isBreak c = true
  · refine Or.inl ⟨hb, ?_⟩
    simp only [isBreak, Bool.or_eq_true, beq_iff_eq] at hb
    rcases hb with (((rfl | rfl) | hb) | hb) | hb
    · exact ⟨rfl, rfl, by decide⟩
    · exact absurd h (by decide)
    · simp [isPrintable, hb] at h
    all_goals
      have hne : ∀ d : Char, d.toNat < 128 → c ≠ d := by rintro d hd rfl; omega
      refine ⟨?_, by simp [breakText, hb], hne _ (by decide)⟩
      simp [isBlank, hne ' ' (by decide), hne '\t' (by decide)]
  · by_cases hs : c = ' '
    · exact Or.inr (Or.inl hs)
    · have ht : c ≠ '\t' := by rintro rfl; exact absurd h (by decide)
      exact Or.inr (Or.inr ⟨by simpa using hb, by simp [isBlank, hs, ht]⟩)

theorem isPrintable_of_not_needsEscapes {text : List Char} (h : needsEscapes text = false) :
    ∀ c ∈ text, isPrintable c = true := by
  simp only [needsEscapes, Bool.or_eq_false_iff, List.any_eq_false] at h
  exact fun c hc => by simpa using h.1 c hc

/-! ## Between single quotes -/

section

variable {c : Char} {seen rest : List Char} {pause : Pause} {p : Position}

theorem readSingle_cons (hr : c ≠ '\r') (hq : c ≠ '\'') :
    readSingle seen pause p (c :: rest)
      = if isBreak c then readSingle seen (pause.addBreak (breakText c)) (p.down 1) rest
        else if isBlank c then readSingle seen (pause.addBlank c) (p.right 1) rest
        else if p.column = 0 ∧ isDocumentMarker (c :: rest) then none
        else readSingle (extendText seen pause c) .none (p.right 1) rest := by
  rw [readSingle]
  · simp only [if_neg hq]
  · rintro _ rfl; exact absurd rfl hr
  · rintro _ rfl; exact absurd rfl hq

/-- The closing quote, at the end of a line. -/
theorem readSingle_close : readSingle seen pause p ('\'' :: '\n' :: rest)
    = some (closeText seen pause (p.right 1) ('\n' :: rest)) := by
  rw [readSingle] <;> simp [isBreak, isBlank]

end

/-- A text with every quote in it doubled. -/
def doubled (text : List Char) : List Char :=
  text.flatMap fun c => if c = '\'' then ['\'', '\''] else [c]

/-- Where a reader can be in a text between single quotes: in a word, behind blanks, or behind a line
end of the kind that is kept. -/
inductive Inside : (fresh : Bool) → Pause → Position → Prop
  | word {p : Position} (column : 0 < p.column) : Inside false .none p
  | blanks {p : Position} (column : 0 < p.column) (seen : List Char) : Inside false (.blanks seen) p
  | line {p : Position} {first : Char} (kept : first ≠ '\n') (more : List Char) :
      Inside true (.breaks (some first) more) p

/-- Nothing is next that a pause would swallow, or be swallowed by. -/
def mayFollow : Pause → List Char → Bool
  | .none, _ => true
  | .blanks _, text => !text.head?.any isBreak
  | .breaks _ _, text => !text.head?.any isSpace

/-- Whether a text ends in a line end; an empty one does so if it stands behind one. -/
def endsLine (fresh : Bool) (text : List Char) : Bool :=
  match text.getLast? with
  | some c => isBreak c
  | none => fresh

theorem endsLine_cons (fresh : Bool) (c : Char) (more : List Char) :
    endsLine fresh (c :: more) = endsLine (isBreak c) more := by
  cases more with
  | nil => rfl
  | cons d more => simp [endsLine, List.getLast?_cons]

theorem indentLines_doubled_cons (indent : Nat) (fresh : Bool) (c : Char) (more : List Char) :
    indentLines indent fresh (doubled (c :: more))
      = indentLines indent fresh (doubled [c]) ++ indentLines indent (isBreak c) (doubled more) := by
  by_cases hq : c = '\''
  · subst hq
    cases fresh <;> simp [doubled, indentLines, isBreak]
  · cases hb : isBreak c <;> cases fresh <;> simp [doubled, indentLines, hq, hb]

section

variable {c : Char} {seen more rest : List Char} {pause : Pause} {p : Position} {fresh : Bool}
  {indent : Nat}

/-- The indentation of a line adds nothing to the pause before it. -/
theorem readSingle_replicate (first : Option Char) (breaks : List Char) (count : Nat) :
    readSingle seen (.breaks first breaks) p (List.replicate count ' ' ++ rest)
      = readSingle seen (.breaks first breaks) (p.right count) rest := by
  induction count generalizing p with
  | zero => rfl
  | succ count ih =>
    rw [List.replicate_succ, List.cons_append, readSingle_cons (by decide) (by decide),
      Nat.add_comm, ← Position.right_right]
    exact ih

/-- Whatever indentation there is before the next word, the reader is behind it and off the margin. -/
theorem readSingle_lead (hin : Inside fresh pause p) (hi : 0 < indent) :
    ∃ p' : Position, 0 < p'.column ∧ ∀ rest,
      readSingle seen pause p ((if fresh then List.replicate indent ' ' else []) ++ rest)
        = readSingle seen pause p' rest := by
  cases hin with
  | word column => exact ⟨p, column, fun _ => rfl⟩
  | blanks column => exact ⟨p, column, fun _ => rfl⟩
  | line kept more =>
    refine ⟨p.right indent, ?_, fun _ => readSingle_replicate _ _ _⟩
    simp only [Position.right]
    omega

/-- Reading what is written for one character takes the reader to a place inside the text again, with
that character read. -/
def PassesSingle (indent : Nat) (fresh : Bool) (seen : List Char) (pause : Pause) (p : Position)
    (c : Char) : Prop :=
  ∃ seen' pause' p', Inside (isBreak c) pause' p'
    ∧ seen'.reverse ++ pause'.text = seen.reverse ++ pause.text ++ [c]
    ∧ (∀ more, hasPair isSpace isBreak (c :: more) = false →
        hasPair isBreak isSpace (c :: more) = false → mayFollow pause' more = true)
    ∧ ∀ rest, readSingle seen pause p (indentLines indent fresh (doubled [c]) ++ rest)
      = readSingle seen' pause' p' rest

theorem hasPair_head {p q : Char → Bool} (h : hasPair p q (c :: more) = false) (hc : p c = true) :
    (!more.head?.any q) = true := by
  cases more with
  | nil => rfl
  | cons d more =>
    have hd := (Bool.or_eq_false_iff.1 h).1
    simpa [hc] using hd

/-- A line end is added to the pause, which is not one of blanks. -/
theorem passesSingle_break (hin : Inside fresh pause p) (hb : isBreak c = true)
    (hkept : breakText c = c) (hr : c ≠ '\r') (hfeed : c ≠ '\n') (hnext : mayFollow pause [c] = true) :
    PassesSingle indent fresh seen pause p c := by
  have hq : c ≠ '\'' := by rintro rfl; exact absurd hb (by decide)
  have hstep : ∀ rest, readSingle seen pause p (indentLines indent fresh (doubled [c]) ++ rest)
      = readSingle seen (pause.addBreak c) (p.down 1) rest := by
    intro rest
    have hwritten : indentLines indent fresh (doubled [c]) = [c] := by
      simp [doubled, indentLines, hq, hb]
    rw [hwritten, List.singleton_append, readSingle_cons hr hq, if_pos hb, hkept]
  unfold PassesSingle
  rw [hb]
  cases hin with
  | word =>
    exact ⟨seen, _, _, .line hfeed [], by simp [Pause.text, hfeed],
      fun more _ h => hasPair_head h hb, hstep⟩
  | blanks => simp [mayFollow, hb] at hnext
  | @line _ first kept more =>
    exact ⟨seen, _, _, .line kept (more ++ [c]), by simp [Pause.text, kept],
      fun more _ h => hasPair_head h hb, hstep⟩

/-- A space is added to the pause, which is not that of a line end. -/
theorem passesSingle_space (hin : Inside fresh pause p) (hnext : mayFollow pause [' '] = true) :
    PassesSingle indent fresh seen pause p ' ' := by
  have hstep : ∀ rest, readSingle seen pause p ([' '] ++ rest)
      = readSingle seen (pause.addBlank ' ') (p.right 1) rest := by
    intro rest
    rw [List.singleton_append, readSingle_cons (by decide) (by decide)]
    rfl
  cases hin with
  | word =>
    exact ⟨seen, _, _, .blanks (Nat.succ_pos _) [' '], by simp [Pause.text],
      fun more h _ => hasPair_head h rfl, hstep⟩
  | blanks column before =>
    exact ⟨seen, _, _, .blanks (Nat.succ_pos _) (before ++ [' ']), by simp [Pause.text],
      fun more h _ => hasPair_head h rfl, hstep⟩
  | line => simp [mayFollow, isSpace] at hnext

/-- A word goes on, or begins behind its indentation. -/
theorem passesSingle_word (hi : 0 < indent) (hin : Inside fresh pause p) (hb : isBreak c = false)
    (hblank : isBlank c = false) : PassesSingle indent fresh seen pause p c := by
  obtain ⟨p', hcolumn, hlead⟩ := @readSingle_lead seen pause p fresh indent hin hi
  have htext := text_extendText seen pause c
  have hcol : ¬ p'.column = 0 := by omega
  unfold PassesSingle
  rw [hb]
  by_cases hq : c = '\''
  · -- the quote itself is written twice and read once
    subst hq
    refine ⟨_, .none, p'.right 2, .word (Nat.succ_pos _), htext, fun _ _ _ => rfl, fun rest => ?_⟩
    have hwritten : indentLines indent fresh (doubled ['\''])
        = (if fresh then List.replicate indent ' ' else []) ++ ['\'', '\''] := by
      cases fresh <;> simp [doubled, indentLines, isBreak]
    rw [hwritten, List.append_assoc, hlead]
    simp only [List.cons_append, List.nil_append, readSingle]
  · have hr : c ≠ '\r' := by rintro rfl; exact absurd hb (by decide)
    refine ⟨_, .none, p'.right 1, .word (Nat.succ_pos _), htext, fun _ _ _ => rfl, fun rest => ?_⟩
    have hwritten : indentLines indent fresh (doubled [c])
        = (if fresh then List.replicate indent ' ' else []) ++ [c] := by
      cases fresh <;> simp [doubled, indentLines, hq, hb]
    rw [hwritten, List.append_assoc, hlead, List.singleton_append, readSingle_cons hr hq]
    simp [hb, hblank, hcol]

/-- **Every printable character is passed**, where it may follow.  It ends a line, is a space, or belongs to
    a word, and for each there is a lemma. -/
theorem passesSingle (hi : 0 < indent) (hin : Inside fresh pause p) (hprint : isPrintable c = true)
    (hfeed : c ≠ '\n') (hnext : mayFollow pause [c] = true) :
    PassesSingle indent fresh seen pause p c := by
  rcases cases_of_isPrintable hprint with ⟨hb, -, hkept, hr⟩ | rfl | ⟨hb, hblank⟩
  · exact passesSingle_break hin hb hkept hr hfeed hnext
  · exact passesSingle_space hin hnext
  · exact passesSingle_word hi hin hb hblank

/-- **A text between single quotes is read back** from any place inside it.  The induction is on what is
    left of the text; a closing quote at the start of a line stands behind the indentation. -/
theorem readSingle_doubled (hi : 0 < indent) (hin : Inside fresh pause p)
    (hprint : ∀ c ∈ more, isPrintable c = true) (hfeed : '\n' ∉ more)
    (hnext : mayFollow pause more = true) (hsb : hasPair isSpace isBreak more = false)
    (hbs : hasPair isBreak isSpace more = false) (rest : List Char) :
    ∃ p', readSingle seen pause p
        (indentLines indent fresh (doubled more)
          ++ ((if endsLine fresh more then List.replicate indent ' ' else []) ++ '\'' :: '\n' :: rest))
      = some ⟨seen.reverse ++ pause.text ++ more, p', '\n' :: rest⟩ := by
  induction more generalizing seen pause p fresh with
  | nil =>
    obtain ⟨p', -, hlead⟩ := @readSingle_lead seen pause p fresh indent hin hi
    refine ⟨p'.right 1, (hlead _).trans (readSingle_close.trans ?_)⟩
    simp [closeText]
  | cons c more ih =>
    obtain ⟨hc, hfeed'⟩ : '\n' ≠ c ∧ '\n' ∉ more := by simpa using hfeed
    have hhead : mayFollow pause [c] = true := by cases pause <;> exact hnext
    obtain ⟨seen', pause', p', hin', htext, hfollow, hstep⟩ :=
      @passesSingle c seen pause p fresh indent hi hin (hprint c List.mem_cons_self) hc.symm hhead
    -- what is forbidden in the text is forbidden in the rest of it
    have hpairs : hasPair isSpace isBreak more = false ∧ hasPair isBreak isSpace more = false := by
      cases more with
      | nil => exact ⟨rfl, rfl⟩
      | cons d more =>
        exact ⟨(Bool.or_eq_false_iff.1 hsb).2, (Bool.or_eq_false_iff.1 hbs).2⟩
    obtain ⟨p'', hrest⟩ := @ih seen' pause' p' (isBreak c) hin'
      (fun d hd => hprint d (List.mem_cons_of_mem _ hd)) hfeed' (hfollow more hsb hbs) hpairs.1 hpairs.2
    refine ⟨p'', ?_⟩
    rw [indentLines_doubled_cons, List.append_assoc, hstep, endsLine_cons, hrest, htext]
    simp

end

/-- **What was written between single quotes is read back**, up to the end of its line. -/
theorem readSingle_single {indent : Nat} {text : List Char} {p : Position} (hi : 0 < indent)
    (hp : 0 < p.column) (hfits : fitsSingle text = true) (hfeed : '\n' ∉ text) (rest : List Char) :
    ∃ p', readSingle [] .none p ((single indent text).drop 1 ++ '\n' :: rest)
      = some ⟨text, p', '\n' :: rest⟩ := by
  simp only [fitsSingle, Bool.and_eq_true, Bool.not_eq_true'] at hfits
  obtain ⟨hescapes, hbs⟩ := hfits
  have hends : endsLine false text = text.getLast?.any isBreak := by
    unfold endsLine
    cases text.getLast? <;> rfl
  obtain ⟨p', hread⟩ := @readSingle_doubled [] text .none p false indent hi (.word hp)
    (isPrintable_of_not_needsEscapes hescapes) hfeed rfl (Bool.or_eq_false_iff.1 hescapes).2 hbs rest
  refine ⟨p', ?_⟩
  rw [hends] at hread
  simpa [single, doubled, Pause.text] using hread

/-! ## Between double quotes -/

/-- The digit of a value below sixteen, with capital letters. -/
def upperDigit (d : Nat) : Char := if d < 10 then Char.ofNat (48 + d) else Char.ofNat (55 + d)

theorem digitValueIn_upperDigit {d : Nat} (h : d < 16) :
    Numeral.digitValueIn 16 (upperDigit d) = some d := by
  have all : ∀ d < 16, Numeral.digitValueIn 16 (upperDigit d) = some d := by decide
  exact all d h

theorem upperHex_succ (count n : Nat) :
    upperHex (count + 1) n = upperDigit (n / 16 ^ count % 16) :: upperHex count n := by
  simp only [upperHex, List.range_succ, List.reverse_append, List.reverse_cons, List.reverse_nil,
    List.nil_append, List.singleton_append, List.map_cons]
  rfl

/-- The characters that have a letter as their escape, by their numbers. -/
def escapes : List (Nat × Char) :=
  [(0, '0'), (7, 'a'), (8, 'b'), (9, 't'), (10, 'n'), (11, 'v'), (12, 'f'), (13, 'r'), (27, 'e'),
    (34, '"'), (92, '\\'), (0x85, 'N'), (0x2028, 'L'), (0x2029, 'P')]

theorem of_ite_eq_some {p : Prop} [Decidable p] {a letter : Char} {more : Option Char}
    (h : (if p then some a else more) = some letter) : (p ∧ a = letter) ∨ more = some letter := by
  by_cases hp : p
  · rw [if_pos hp] at h
    exact Or.inl ⟨hp, Option.some.inj h⟩
  · rw [if_neg hp] at h
    exact Or.inr h

theorem mem_escapes {c letter : Char} (h : escapeLetter c = some letter) :
    (c.toNat, letter) ∈ escapes := by
  have hquote : c = '"' ↔ c.toNat = 34 := Char.toNat_inj.symm
  have hslash : c = '\\' ↔ c.toNat = 92 := Char.toNat_inj.symm
  simp only [escapeLetter, hquote, hslash] at h
  generalize c.toNat = n at h
  -- the branches are tried in the order of the table
  repeat
    rcases of_ite_eq_some h with ⟨rfl, rfl⟩ | h
    · decide
  cases h

/-- A letter stands for the character it was written for. -/
theorem escapedChar_escapeLetter {c letter : Char} (h : escapeLetter c = some letter) :
    escapedChar letter = some c ∧ escapeWidth letter = none ∧ isBreak letter = false := by
  have all : ∀ e ∈ escapes, escapedChar e.2 = some (Char.ofNat e.1) ∧ escapeWidth e.2 = none
      ∧ isBreak e.2 = false := by decide
  have hc := all _ (mem_escapes h)
  rwa [Char.ofNat_toNat] at hc
section

variable {c : Char} {seen rest : List Char} {pause : Pause} {p : Position}

/-- **The digits of a number are read as the number**, together with the value of those before. -/
theorem readDouble_upperHex {count before n : Nat}
    (hcode : charOfCode (before * 16 ^ (count + 1) + n % 16 ^ (count + 1)) = some c) :
    ∃ p', p.column < p'.column ∧ ∀ rest,
      readDouble seen pause (some (count + 1, before)) p (upperHex (count + 1) n ++ rest)
        = readDouble (extendText seen pause c) .none none p' rest := by
  induction count generalizing before p with
  | zero =>
    refine ⟨p.right 1, Nat.lt_succ_self _, fun rest => ?_⟩
    have hdigit := digitValueIn_upperDigit (Nat.mod_lt n (by decide : 0 < 16))
    simp only [Nat.zero_add, Nat.pow_one] at hcode
    rw [upperHex_succ, List.cons_append, readDouble]
    simp only [Nat.pow_zero, Nat.div_one, hdigit, hcode, Nat.zero_add, Nat.le_refl, if_true]
    rfl
  | succ count ih =>
    have hdigit := digitValueIn_upperDigit (Nat.mod_lt (n / 16 ^ (count + 1)) (by decide : 0 < 16))
    -- the digit goes over to the value of those before
    have hvalue : (before * 16 + n / 16 ^ (count + 1) % 16) * 16 ^ (count + 1) + n % 16 ^ (count + 1)
        = before * 16 ^ (count + 1 + 1) + n % 16 ^ (count + 1 + 1) := by
      rw [Nat.pow_succ 16 (count + 1), Nat.mod_mul, Nat.add_mul, Nat.mul_assoc, Nat.mul_comm 16,
        Nat.mul_comm (_ % 16), Nat.add_assoc, Nat.add_comm (16 ^ (count + 1) * _)]
    obtain ⟨p', hcolumn, hread⟩ := @ih (p.right 1) _ (hvalue ▸ hcode)
    refine ⟨p', Nat.lt_of_succ_lt hcolumn, fun rest => ?_⟩
    rw [upperHex_succ, List.cons_append, readDouble]
    simp only [hdigit, Nat.add_sub_cancel]
    rw [if_neg (by omega)]
    exact hread rest

theorem readDouble_cons (hr : c ≠ '\r') (hs : c ≠ '\\') :
    readDouble seen pause none p (c :: rest)
      = if isBreak c then readDouble seen (pause.addBreak (breakText c)) none (p.down 1) rest
        else if isBlank c then readDouble seen (pause.addBlank c) none (p.right 1) rest
        else if c = '"' then some (closeText seen pause (p.right 1) rest)
        else if p.column = 0 ∧ isDocumentMarker (c :: rest) then none
        else readDouble (extendText seen pause c) .none none (p.right 1) rest := by
  rw [readDouble]
  · simp only [if_neg hs]
  · rintro _ rfl; exact absurd rfl hr
  · rintro _ rfl; exact absurd rfl hs
  · rintro _ _ rfl; exact absurd rfl hs

theorem readDouble_backslash (hb : isBreak c = false) :
    readDouble seen pause none p ('\\' :: c :: rest)
      = match escapeWidth c with
        | some width => readDouble seen pause (some (width, 0)) (p.right 2) rest
        | none =>
            match escapedChar c with
            | some code => readDouble (extendText seen pause code) .none none (p.right 2) rest
            | none => none := by
  rw [readDouble]
  · cases escapeWidth c <;> cases escapedChar c <;> simp only [hb, Bool.false_eq_true, if_false]
  · rintro _ rfl; exact absurd hb (by decide)

theorem charOfCode_toNat (c : Char) : charOfCode c.toNat = some c := by
  have hvalid : ¬ ((0xD800 ≤ c.toNat ∧ c.toNat ≤ 0xDFFF) ∨ 0x10FFFF < c.toNat) := by
    have := c.valid
    simp only [UInt32.isValidChar, Nat.isValidChar] at this
    have hval : c.toNat = c.val.toNat := rfl
    omega
  rw [charOfCode, if_neg hvalid, Char.ofNat_toNat]

/-- Reading a character's mark takes the reader to a place inside the line again, with the character
read. -/
def PassesDouble (seen : List Char) (pause : Pause) (p : Position) (mark : List Char) (c : Char) : Prop :=
  ∃ seen' pause' p', Inside false pause' p'
    ∧ seen'.reverse ++ pause'.text = seen.reverse ++ pause.text ++ [c]
    ∧ ∀ rest, readDouble seen pause none p (mark ++ rest) = readDouble seen' pause' none p' rest

/-- A numeric escape. -/
theorem passesDouble_code {letter : Char} {width : Nat}
    (hletter : escapeWidth letter = some (width + 1) ∧ isBreak letter = false)
    (hc : c.toNat < 16 ^ (width + 1)) :
    PassesDouble seen pause p (['\\', letter] ++ upperHex (width + 1) c.toNat) c := by
  have hcode : charOfCode (0 * 16 ^ (width + 1) + c.toNat % 16 ^ (width + 1)) = some c := by
    rw [Nat.zero_mul, Nat.zero_add, Nat.mod_eq_of_lt hc, charOfCode_toNat]
  obtain ⟨p', hcolumn, hread⟩ := @readDouble_upperHex c seen pause (p.right 2) width 0 c.toNat hcode
  refine ⟨_, .none, p', .word (Nat.zero_lt_of_lt hcolumn), text_extendText seen pause c, fun rest => ?_⟩
  simp only [List.cons_append, List.nil_append]
  rw [readDouble_backslash hletter.2, hletter.1]
  exact hread rest

/-- A character that stands for itself. -/
theorem passesDouble_plain (hin : Inside false pause p) (hprint : isPrintable c = true)
    (hb : isBreak c = false) (hquote : c ≠ '"') (hslash : c ≠ '\\') :
    PassesDouble seen pause p [c] c := by
  have hr : c ≠ '\r' := by rintro rfl; exact absurd hb (by decide)
  have hcol : ¬ p.column = 0 := by cases hin <;> omega
  rcases cases_of_isPrintable hprint with ⟨hb', -⟩ | rfl | ⟨-, hblank⟩
  · rw [hb] at hb'; cases hb'
  · have hstep : ∀ rest, readDouble seen pause none p ([' '] ++ rest)
        = readDouble seen (pause.addBlank ' ') none (p.right 1) rest := by
      intro rest
      rw [List.singleton_append, readDouble_cons hr hslash]
      rfl
    cases hin with
    | word => exact ⟨seen, _, _, .blanks (Nat.succ_pos _) [' '], by simp [Pause.text], hstep⟩
    | blanks column before =>
      exact ⟨seen, _, _, .blanks (Nat.succ_pos _) (before ++ [' ']), by simp [Pause.text], hstep⟩
  · refine ⟨_, .none, p.right 1, .word (Nat.succ_pos _), text_extendText seen pause c, fun rest => ?_⟩
    rw [List.singleton_append, readDouble_cons hr hslash]
    simp [hb, hblank, hquote, hcol]

/-- **Every character can be read from its mark.** The width of a number is chosen by the character, and is
    always enough for its code. -/
theorem passesDouble (hin : Inside false pause p) : PassesDouble seen pause p (escapeChar c) c := by
  unfold escapeChar
  split
  · next h =>
    simp only [Bool.and_eq_true, Bool.not_eq_true', bne_iff_ne, ne_eq] at h
    obtain ⟨⟨⟨hprint, hb⟩, hquote⟩, hslash⟩ := h
    exact passesDouble_plain hin hprint hb hquote hslash
  · split
    · next letter hletter =>
      obtain ⟨hchar, hwidth, hb⟩ := escapedChar_escapeLetter hletter
      refine ⟨_, .none, p.right 2, .word (Nat.succ_pos _), text_extendText seen pause c, fun rest => ?_⟩
      simp only [List.cons_append, List.nil_append]
      rw [readDouble_backslash hb, hwidth, hchar]
    · split
      · next hc => exact passesDouble_code ⟨rfl, by decide⟩ (Nat.lt_succ_of_le hc)
      split
      · next hc => exact passesDouble_code ⟨rfl, by decide⟩ (Nat.lt_succ_of_le hc)
      · refine passesDouble_code ⟨rfl, by decide⟩ ?_
        have := c.val.toNat_lt
        exact this

/-- **A text between double quotes is read back** from any place inside it.  Nothing is asked of the text,
    since what cannot stand there is written as a mark. -/
theorem readDouble_escaped (hin : Inside false pause p) (more rest : List Char) :
    ∃ p', readDouble seen pause none p (more.flatMap escapeChar ++ '"' :: rest)
      = some ⟨seen.reverse ++ pause.text ++ more, p', rest⟩ := by
  induction more generalizing seen pause p with
  | nil =>
    refine ⟨p.right 1, ?_⟩
    rw [List.flatMap_nil, List.nil_append, readDouble_cons (by decide) (by decide)]
    simp [isBreak, isBlank, closeText]
  | cons c more ih =>
    obtain ⟨seen', pause', p', hin', htext, hstep⟩ := @passesDouble c seen pause p hin
    obtain ⟨p'', hread⟩ := @ih seen' pause' p' hin'
    refine ⟨p'', ?_⟩
    rw [List.flatMap_cons, List.append_assoc, hstep, hread, htext]
    simp

end

/-- **What was written between double quotes is read back.** -/
theorem readDouble_double {p : Position} (hp : 0 < p.column) (text rest : List Char) :
    ∃ p', readDouble [] .none none p ((double text).drop 1 ++ rest) = some ⟨text, p', rest⟩ := by
  obtain ⟨p', hread⟩ := @readDouble_escaped [] .none p (.word hp) text rest
  refine ⟨p', ?_⟩
  simpa [double, Pause.text] using hread

end QuorumRescue.Yaml
