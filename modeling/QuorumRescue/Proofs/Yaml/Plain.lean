/-
  Plain scalars, written and read again.

  A plain scalar has no mark at its start or its end.  It goes on until something is met that cannot
  belong to it, so a reader has to be shown that it goes on far enough, and no further.

  1. **Where it ends.** A scalar is written on one line, and the next line starts with a dash or a name,
     or there is none (`opensLine`).  Such a line is not indented deeply enough to belong to the scalar,
     so the end of its line ends it (`readPlain_feed`).

  2. **The crux** is that nothing ends it before.  A text that may stand plain has no marks in it: no
     colon before a blank, no sharp behind one, no line end, no blank at its ends (`StandsPlain`).
     Whether a mark is met depends on two neighbours, so the induction on what is left of the text keeps
     the character before it, and a space there is the same as a pause of the reader (`readPlain_rest`).

  3. **The results.** Letters and digits are read as they stand, wherever they stand
     (`readPlain_letters`), and what was written plain is read back, up to the start of the next line
     (`readPlain_text`).
-/
import QuorumRescue.Proofs.Yaml.Quoted
import QuorumRescue.Yaml.Lexer.Lines

namespace QuorumRescue.Yaml

/-! ## Where a line may go on -/

/-- A small letter or a digit. -/
def isPlainChar (c : Char) : Bool := (48 ≤ c.toNat && c.toNat ≤ 57) || (97 ≤ c.toNat && c.toNat ≤ 122)

/-- The text is over, or the next line starts with a dash or with a name. -/
def opensLine : List Char → Bool
  | [] => true
  | c :: _ => c == '-' || isPlainChar c

/-- What small letters, digits and dashes are not. -/
theorem not_of_isPlainChar {c : Char} (h : (c == '-' || isPlainChar c) = true) :
    isBreak c = false ∧ isBlank c = false ∧ c ≠ '\r' ∧ c ≠ '#' ∧ c ≠ byteOrderMark := by
  have hne : ∀ d : Char, (d == '-' || isPlainChar d) = false → c ≠ d := by
    rintro d hd rfl
    rw [h] at hd
    cases hd
  have hbreak : isBreak c = false := by
    simp only [isBreak, Bool.or_eq_false_iff, beq_eq_false_iff_ne]
    refine ⟨⟨⟨⟨hne _ (by decide), hne _ (by decide)⟩, fun hn => ?_⟩, fun hn => ?_⟩, fun hn => ?_⟩
    · exact hne (Char.ofNat 0x85) (by decide) (hn ▸ c.ofNat_toNat.symm)
    · exact hne (Char.ofNat 0x2028) (by decide) (hn ▸ c.ofNat_toNat.symm)
    · exact hne (Char.ofNat 0x2029) (by decide) (hn ▸ c.ofNat_toNat.symm)
  refine ⟨hbreak, ?_, hne _ (by decide), hne _ (by decide), hne _ (by decide)⟩
  simp only [isBlank, Bool.or_eq_false_iff, beq_eq_false_iff_ne]
  exact ⟨hne _ (by decide), hne _ (by decide)⟩

/-! ## Plain scalars -/

section

variable {c : Char} {seen more rest next : List Char} {pause : Pause} {p : Position} {floor : Int}

theorem readPlain_cons (hr : c ≠ '\r') :
    readPlain false floor seen pause p (c :: rest)
      = if isBreak c then readPlain false floor seen (pause.addBreak (breakText c)) (p.down 1) rest
        else if isBlank c then
          if pause.hasBreak ∧ p.column < floor ∧ c = '\t' then none
          else readPlain false floor seen (pause.addBlank c) (p.right 1) rest
        else if endsBeforeWord false floor pause p (c :: rest) then
          some (⟨seen.reverse, p, c :: rest⟩, pause.hasBreak)
        else if endsPlain false (c :: rest) then some (⟨seen.reverse, p, c :: rest⟩, pause.hasBreak)
        else readPlain false floor (extendText seen pause c) .none (p.right 1) rest := by
  rw [readPlain]
  · simp
  · rintro _ rfl; exact absurd rfl hr

/-- A word goes on with a character at which nothing ends. -/
theorem readPlain_word (hb : isBreak c = false) (hblank : isBlank c = false)
    (hbefore : endsBeforeWord false floor pause p (c :: rest) = false)
    (hends : endsPlain false (c :: rest) = false) :
    readPlain false floor seen pause p (c :: rest)
      = readPlain false floor (extendText seen pause c) .none (p.right 1) rest := by
  have hr : c ≠ '\r' := by rintro rfl; exact absurd hb (by decide)
  rw [readPlain_cons hr]
  simp [hb, hblank, hbefore, hends]

theorem startsMarker_cons_of_ne {mark : Char} (h : c ≠ mark) : startsMarker mark (c :: rest) = false := by
  unfold startsMarker
  split
  · next heq =>
    obtain ⟨rfl, -⟩ := List.cons.inj heq
    simp [h]
  · rfl

/-- **Letters and digits are read as they stand**, wherever they stand.  None of them ends a plain scalar or
    starts a comment, whatever follows. -/
theorem readPlain_letters {word : List Char} (h : word.all isPlainChar = true) :
    readPlain false floor seen .none p (word ++ rest)
      = readPlain false floor (word.reverse ++ seen) .none (p.right word.length) rest := by
  induction word generalizing seen p with
  | nil => rfl
  | cons c word ih =>
    obtain ⟨hc, hword⟩ : isPlainChar c = true ∧ word.all isPlainChar = true := by simpa using h
    obtain ⟨hb, hblank, -⟩ := @not_of_isPlainChar c (by simp [hc])
    have hne : ∀ d : Char, isPlainChar d = false → c ≠ d := by
      rintro d hd rfl
      rw [hc] at hd
      cases hd
    have hmarker : isDocumentMarker (c :: (word ++ rest)) = false := by
      rw [isDocumentMarker, startsMarker_cons_of_ne (hne '-' (by decide)),
        startsMarker_cons_of_ne (hne '.' (by decide))]
      rfl
    rw [List.cons_append, readPlain_word hb hblank]
    · rw [ih hword, Position.right_right]
      simp [extendText, Pause.text, Nat.add_comm]
    · simp [endsBeforeWord, Pause.isNone, hmarker]
    · simp [endsPlain, hne ':' (by decide)]

/-- **The end of a line ends a plain scalar** if the next line is not indented deeply enough. -/
theorem readPlain_feed {count : Nat} (hcount : (count : Int) < floor) (hnext : opensLine next = true) :
    ∃ p' : Position, p'.column = count
      ∧ readPlain false floor seen .none p ('\n' :: (List.replicate count ' ' ++ next))
        = some (⟨seen.reverse, p', next⟩, true) := by
  -- the indentation of the next line waits in the pause, and adds nothing to it
  have hpass : ∀ (n : Nat) (q : Position),
      readPlain false floor seen (.breaks (some '\n') []) q (List.replicate n ' ' ++ next)
        = readPlain false floor seen (.breaks (some '\n') []) (q.right n) next := by
    intro n
    induction n with
    | zero => exact fun _ => rfl
    | succ n ih =>
      intro q
      rw [List.replicate_succ, List.cons_append, readPlain_cons (by decide), Nat.add_comm,
        ← Position.right_right]
      simpa [isBreak, isBlank, Pause.addBlank] using ih (q.right 1)
  refine ⟨(p.down 1).right count, by simp [Position.right, Position.down], ?_⟩
  have hstep : readPlain false floor seen .none p ('\n' :: (List.replicate count ' ' ++ next))
      = readPlain false floor seen (.breaks (some '\n') []) (p.down 1)
          (List.replicate count ' ' ++ next) := by
    rw [readPlain_cons (by decide)]
    rfl
  rw [hstep, hpass]
  cases next with
  | nil => rfl
  -- the word on the next line stands before the floor, so it does not go on with the scalar
  | cons d more =>
    obtain ⟨hb, hblank, hr, -⟩ := not_of_isPlainChar hnext
    have hbefore : endsBeforeWord false floor (.breaks (some '\n') []) ((p.down 1).right count)
        (d :: more) = true := by
      have hcol : (((p.down 1).right count).column : Int) < floor := by
        simpa [Position.right, Position.down] using hcount
      simp [endsBeforeWord, Pause.isNone, hcol]
    rw [readPlain_cons hr]
    simp [hb, hblank, hbefore, Pause.hasBreak]

theorem endsWord_append_feed (more rest : List Char) :
    endsWord (more ++ '\n' :: rest) = endsWord more := by
  cases more <;> rfl

/-- A space is added to the pause. -/
theorem readPlain_space (hin : Inside false pause p) :
    readPlain false floor seen pause p (' ' :: rest)
        = readPlain false floor seen (pause.addBlank ' ') (p.right 1) rest
      ∧ Inside false (pause.addBlank ' ') (p.right 1)
      ∧ (pause.addBlank ' ').isNone = false
      ∧ (pause.addBlank ' ').text = pause.text ++ [' '] := by
  have hstep : readPlain false floor seen pause p (' ' :: rest)
      = readPlain false floor seen (pause.addBlank ' ') (p.right 1) rest := by
    rw [readPlain_cons (by decide)]
    simp [isBreak, isBlank]
  refine ⟨hstep, ?_⟩
  cases hin with
  | word => exact ⟨.blanks (Nat.succ_pos _) _, rfl, rfl⟩
  | blanks => exact ⟨.blanks (Nat.succ_pos _) _, rfl, rfl⟩

/-- A word goes on where the text has no mark in it.  The character before is a space exactly if there
is a pause. -/
theorem readPlain_inner {prev : Char} (hin : Inside false pause p) (hfloor : floor ≤ p.column)
    (hpause : pause.isNone = !isSpace prev) (hb : isBreak c = false) (hblank : isBlank c = false)
    (hcolon : (c == ':' && endsWord more) = false) (hsharp : (c == '#' && endsWord [prev]) = false) :
    readPlain false floor seen pause p (c :: (more ++ '\n' :: rest))
      = readPlain false floor (extendText seen pause c) .none (p.right 1) (more ++ '\n' :: rest) := by
  have hcol : 0 < p.column := by cases hin <;> assumption
  have hdeep : ¬ (p.column : Int) < floor := by omega
  have hmargin : (p.column == 0) = false := by
    have : p.column ≠ 0 := by omega
    simpa using this
  -- a sharp would begin a comment behind a blank, and there is none
  have hcomment : (!pause.isNone && c == '#') = false := by
    rw [hpause]
    cases hspace : isSpace prev with
    | false => rfl
    | true =>
      obtain rfl : prev = ' ' := by simpa [isSpace] using hspace
      simpa [endsWord, isBlank] using hsharp
  have hbefore : endsBeforeWord false floor pause p (c :: (more ++ '\n' :: rest)) = false := by
    simp only [endsBeforeWord, hdeep, hmargin, List.head?_cons, decide_false, Bool.and_false,
      Bool.false_and, Bool.false_or, Option.some_beq_some]
    exact hcomment
  have hends : endsPlain false (c :: (more ++ '\n' :: rest)) = false := by
    simp only [endsPlain, endsWord_append_feed, hcolon]
    rfl
  exact readPlain_word hb hblank hbefore hends

/-- **The rest of a plain scalar is read as it stands**, from any place inside it.  The induction is on the
    rest, with the character before it kept along, since a sharp ends a scalar only behind a blank. -/
theorem readPlain_rest {prev : Char} (hin : Inside false pause p) (hfloor : floor ≤ p.column)
    (hpause : pause.isNone = !isSpace prev) (hprint : ∀ d ∈ more, isPrintable d = true)
    (hbreak : ∀ d ∈ more, isBreak d = false) (hmark : hasInnerMark (prev :: more) = false)
    (hlast : ((prev :: more).getLast?.any isSpace) = false) :
    ∃ p', readPlain false floor seen pause p (more ++ '\n' :: rest)
      = readPlain false floor (seen.reverse ++ pause.text ++ more).reverse .none p' ('\n' :: rest) := by
  induction more generalizing prev seen pause p with
  | nil =>
    -- a text does not end in a space, so nothing is left in the pause
    have hspace : isSpace prev = false := by simpa using hlast
    obtain rfl : pause = .none := by
      rw [hspace] at hpause
      cases pause with
      | none => rfl
      | blanks => cases hpause
      | breaks => cases hpause
    exact ⟨p, by simp [Pause.text]⟩
  | cons c more ih =>
    have hprint' : ∀ d ∈ more, isPrintable d = true := fun d hd => hprint d (List.mem_cons_of_mem _ hd)
    have hbreak' : ∀ d ∈ more, isBreak d = false := fun d hd => hbreak d (List.mem_cons_of_mem _ hd)
    have hb : isBreak c = false := hbreak c List.mem_cons_self
    have hlast' : ((c :: more).getLast?.any isSpace) = false := by
      rwa [List.getLast?_cons_cons] at hlast
    have hfloor' : floor ≤ (p.right 1).column := by
      simp only [Position.right]
      omega
    simp only [hasInnerMark, Bool.or_eq_false_iff] at hmark
    obtain ⟨⟨hcolon, hsharp⟩, hmark'⟩ := hmark
    rcases cases_of_isPrintable (hprint c List.mem_cons_self) with ⟨hb', -⟩ | rfl | ⟨-, hblank⟩
    · rw [hb] at hb'
      cases hb'
    · -- a space waits in the pause for what comes next
      obtain ⟨hstep, hin', hpause', htext⟩ :=
        @readPlain_space seen (more ++ '\n' :: rest) pause p floor hin
      obtain ⟨p', hrest⟩ := @ih seen _ _ ' ' hin' hfloor' hpause' hprint' hbreak' hmark' hlast'
      refine ⟨p', hstep.trans (hrest.trans ?_)⟩
      rw [htext]
      simp
    · -- a word takes what has waited in the pause into the text
      have hspace : isSpace c = false := by
        have hne : c ≠ ' ' := by rintro rfl; exact absurd hblank (by decide)
        simpa [isSpace] using hne
      have hpause' : Pause.none.isNone = !isSpace c := by
        rw [hspace]
        rfl
      obtain ⟨p', hrest⟩ := @ih (extendText seen pause c) .none _ c (.word (Nat.succ_pos _)) hfloor'
        hpause' hprint' hbreak' hmark' hlast'
      refine ⟨p', (readPlain_inner hin hfloor hpause hb hblank hcolon hsharp).trans (hrest.trans ?_)⟩
      rw [text_extendText]
      simp

/-- What is known of a text that may stand plain, by its first character and the rest of it. -/
structure StandsPlain (c : Char) (more : List Char) : Prop where
  printable : ∀ d ∈ c :: more, isPrintable d = true
  unbroken : ∀ d ∈ c :: more, isBreak d = false
  word : isBlank c = false
  lead : isLeadMark c = false
  mark : ((c == '?' || c == ':' || c == '-') && endsWord more) = false
  inner : hasInnerMark (c :: more) = false
  last : ((c :: more).getLast?.any isSpace) = false

/-- **A text that fits may stand plain.** -/
theorem standsPlain_of_fitsPlain (h : fitsPlain (c :: more) = true) : StandsPlain c more := by
  simp only [fitsPlain, fitsSingle, hasLeadMark, hasLooseEnd, List.head?_cons, Option.any_some,
    Bool.and_eq_true, Bool.not_eq_true', Bool.or_eq_false_iff] at h
  obtain ⟨⟨⟨⟨⟨⟨hescapes, -⟩, hbreaks⟩, ⟨hspace, hb⟩, hlast⟩, ⟨⟨hlead, hends⟩, -⟩, -⟩, hmark⟩, -⟩ := h
  have hprint := isPrintable_of_not_needsEscapes hescapes
  refine ⟨hprint, by simpa using hbreaks, ?_, hlead, hends, hmark, ?_⟩
  · rcases cases_of_isPrintable (hprint c List.mem_cons_self) with ⟨hb', -⟩ | rfl | ⟨-, hblank⟩
    · rw [hb] at hb'
      cases hb'
    · cases hspace
    · exact hblank
  · cases hl : (c :: more).getLast? with
    | none => rfl
    | some d =>
      rw [hl] at hlast
      exact (Bool.or_eq_false_iff.1 hlast).1

/-- **What was written plain is read back**, up to the start of the next line. -/
theorem readPlain_text {text : List Char} {count : Nat} (hfits : fitsPlain text = true)
    (hp : 0 < p.column) (hfloor : floor ≤ p.column) (hcount : (count : Int) < floor)
    (hnext : opensLine next = true) :
    ∃ p' : Position, p'.column = count
      ∧ readPlain false floor [] .none p (text ++ '\n' :: (List.replicate count ' ' ++ next))
        = some (⟨text, p', next⟩, true) := by
  cases text with
  | nil => cases hfits
  | cons c more =>
    have h := standsPlain_of_fitsPlain hfits
    have hcolon : (c == ':' && endsWord more) = false := by
      have hmark := h.mark
      cases hc : c == ':' with
      | false => rfl
      | true => simpa [hc] using hmark
    -- before the first character there is no pause, as there would be behind a letter
    have hfirst := @readPlain_inner c [] more (List.replicate count ' ' ++ next) .none p floor 'a'
      (.word hp) hfloor rfl (h.unbroken c List.mem_cons_self) h.word hcolon
      (by simp [endsWord, isBlank, isBreak])
    have hfloor' : floor ≤ (p.right 1).column := by
      simp only [Position.right]
      omega
    have hpause : Pause.none.isNone = !isSpace c := by
      have hne : c ≠ ' ' := by rintro rfl; exact absurd h.word (by decide)
      have hspace : isSpace c = false := by simpa [isSpace] using hne
      rw [hspace]
      rfl
    obtain ⟨p', hrest⟩ := @readPlain_rest [c] more (List.replicate count ' ' ++ next) .none (p.right 1)
      floor c (.word (Nat.succ_pos _)) hfloor' hpause
      (fun d hd => h.printable d (List.mem_cons_of_mem _ hd))
      (fun d hd => h.unbroken d (List.mem_cons_of_mem _ hd)) h.inner h.last
    obtain ⟨p'', hcolumn, hfeed⟩ := @readPlain_feed ([c].reverse ++ Pause.none.text ++ more).reverse next
      p' floor count hcount hnext
    refine ⟨p'', hcolumn, hfirst.trans (hrest.trans (hfeed.trans ?_))⟩
    simp [Pause.text]

end

end QuorumRescue.Yaml
