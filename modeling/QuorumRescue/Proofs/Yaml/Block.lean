/-
  Blocks of lines, written and read again.

  A text with line feeds that has nothing unprintable in it is written as a block: a header, and the
  lines of the text behind an indentation.  Blanks and line ends at the ends of the text are all part of
  it, and a block is where they are lost most easily.  This file shows that none is.

  1. **The statement.** What was written as a block is read back, up to the start of the next line
     (`readBlockScalar_block`).  It asks of the text what `fitsBlock` asks, and of what follows that it
     is indented less.

  2. **The crux** is to know the content of a block while it is being read (`Block.content`): settled
     text, and line ends that are still waiting for what comes next.  `Placed` says where a reader can
     be, in a line or at the start of one, and every character adds itself to the content and leads from
     one such place to another (`passesBlock`).  From there the lines are an induction over the
     characters (`readBlock_lines`).

  3. **The end.** A line that is indented less ends the block (`readBlock_margin`), and the header
     decides what becomes of the waiting line ends.  A text ends in no line end, in one or in several,
     and the header was chosen by that, so that all of them stay (`chompMark_cases`, `finish_chompFor`,
     `readBlock_end`).

  4. **The start.** Where the text begins with a blank or a line end, its lines would not show how far
     they are indented, and the header gives the indentation (`givesIndent`, `readBlock_start`).
-/
import QuorumRescue.Proofs.Yaml.Plain

namespace QuorumRescue.Yaml

/-! ## Content -/

/-- What has been read so far, with the line ends that wait for what comes next. -/
def Block.content (b : Block) : List Char := b.text.reverse ++ (b.lastBreak.toList ++ b.moreBreaks)

/-- A reader inside a line of a block, or at the start of one. -/
inductive Placed (indent : Nat) : (inLine : Bool) → Block → Position → Prop
  | inLine {b : Block} {p : Position} (indented : b.indent = indent) (last : b.lastBreak = none)
      (more : b.moreBreaks = []) : Placed indent true b p
  | lineStart {b : Block} {p : Position} (indented : b.indent = indent) (margin : p.column = 0)
      (ended : ∀ c, b.content.getLast? = some c → isBreak c = true)
      (clipped : chompMark b.content = [] → b.moreBreaks = []) : Placed indent false b p

theorem indentLines_cons (indent : Nat) (fresh : Bool) (c : Char) (more : List Char) :
    indentLines indent fresh (c :: more)
      = indentLines indent fresh [c] ++ indentLines indent (isBreak c) more := by
  cases hb : isBreak c <;> simp [indentLines, hb]

/-- A text ends in no line end, in one, or in several, and a block's header says in which. -/
theorem chompMark_cases {text : List Char} (h : text ≠ []) :
    (endsLine false text = false ∧ chompMark text = ['-'])
      ∨ (endsLine false text = true ∧ chompMark text = ['+'])
      ∨ (endsLine false text = true ∧ chompMark text = []) := by
  obtain ⟨front, c, rfl⟩ : ∃ front c, text = front ++ [c] :=
    ⟨_, _, (List.dropLast_concat_getLast h).symm⟩
  have hends : endsLine false (front ++ [c]) = isBreak c := by simp [endsLine]
  rw [hends]
  simp only [chompMark, List.reverse_append, List.reverse_singleton, List.singleton_append]
  cases isBreak c with
  | false => exact Or.inl ⟨rfl, rfl⟩
  | true =>
    right
    cases front.reverse with
    | nil => exact Or.inl ⟨rfl, rfl⟩
    | cons d rest =>
      cases hd : isBreak d with
      | false => exact Or.inr ⟨rfl, by simp [hd]⟩
      | true => exact Or.inl ⟨rfl, by simp [hd]⟩

/-- Where one more line end follows others, all of them are kept. -/
theorem chompMark_concat {text : List Char} {c : Char} (hc : isBreak c = true)
    (h : ∀ d, text.getLast? = some d → isBreak d = true) : chompMark (text ++ [c]) = ['+'] := by
  unfold chompMark
  rw [List.reverse_append, List.reverse_singleton, List.singleton_append]
  simp only [hc, Bool.not_true, Bool.false_eq_true, if_false]
  cases hr : text.reverse with
  | nil => rfl
  | cons d rest =>
    have hd : text.getLast? = some d := by rw [← List.head?_reverse, hr]; rfl
    simp [h d hd]

section

variable {b : Block} {p : Position} {chomp : Chomp} {parent : Int} {indent : Nat} {inLine : Bool}
  {c : Char} {more rest next : List Char}

theorem readBlock_inLine (hr : c ≠ '\r') :
    readBlock true chomp parent true b p (c :: rest)
      = if isBreak c then
          readBlock true chomp parent false { b with lastBreak := some (breakText c) } (p.down 1) rest
        else readBlock true chomp parent true { b with text := c :: b.text } (p.right 1) rest := by
  rw [readBlock]
  rintro _ rfl; exact absurd rfl hr

theorem readBlock_lineStart (hr : c ≠ '\r') :
    readBlock true chomp parent false b p (c :: rest)
      = if isBreak c then
          readBlock true chomp parent false
            { b with moreBreaks := b.moreBreaks ++ [breakText c], deepest := max b.deepest p.column }
            (p.down 1) rest
        else if (b.indent = 0 ∨ p.column < b.indent) ∧ c = ' ' then
          readBlock true chomp parent false b (p.right 1) rest
        else if (b.indent = 0 ∨ p.column < b.indent) ∧ c = '\t' then none
        else if p.column = b.settled parent p.column then
          readBlock true chomp parent true (b.openLine true (b.settled parent p.column) c) (p.right 1) rest
        else some ⟨b.finish chomp, p, c :: rest⟩ := by
  rw [readBlock]
  rintro _ rfl; exact absurd rfl hr

/-- Indentation is passed as far as the lines of the block are indented. -/
theorem readBlock_replicate {count : Nat} (h : b.indent = 0 ∨ p.column + count ≤ b.indent) :
    readBlock true chomp parent false b p (List.replicate count ' ' ++ rest)
      = readBlock true chomp parent false b (p.right count) rest := by
  induction count generalizing p with
  | zero => rfl
  | succ count ih =>
    have hshort : b.indent = 0 ∨ p.column < b.indent := by omega
    have hmore : b.indent = 0 ∨ (p.right 1).column + count ≤ b.indent := by
      simp only [Position.right]
      omega
    rw [List.replicate_succ, List.cons_append, readBlock_lineStart (by decide), Nat.add_comm,
      ← Position.right_right]
    simp only [isBreak, hshort, true_and]
    exact ih hmore

theorem content_openLine (b : Block) (indent : Nat) (c : Char) :
    (b.openLine true indent c).content = b.content ++ [c] := by
  simp [Block.openLine, Block.content]

/-- A line with text begins where the lines of the block begin. -/
theorem readBlock_open (hp : p.column = 0) (hi : 0 < indent) (hb : isBreak c = false)
    (hspace : c = ' ' → b.indent = indent) (ht : c ≠ '\t')
    (hsettled : b.indent = 0 ∨ b.indent = indent) (hindent : b.settled parent indent = indent) :
    ∃ p', Placed indent true (b.openLine true indent c) p'
      ∧ ∀ rest, readBlock true chomp parent false b p (indentLines indent true [c] ++ rest)
        = readBlock true chomp parent true (b.openLine true indent c) p' rest := by
  have hr : c ≠ '\r' := by rintro rfl; exact absurd hb (by decide)
  have hcol : (p.right indent).column = indent := by simp [Position.right, hp]
  refine ⟨(p.right indent).right 1, .inLine rfl rfl rfl, fun rest => ?_⟩
  have hwritten : indentLines indent true [c] = List.replicate indent ' ' ++ [c] := by
    simp [indentLines, hb]
  have hpassed : b.indent = 0 ∨ p.column + indent ≤ b.indent := by omega
  have hspace' : ¬ ((b.indent = 0 ∨ (p.right indent).column < b.indent) ∧ c = ' ') := by
    rintro ⟨hshort, hc⟩
    have := hspace hc
    omega
  rw [hwritten, List.append_assoc, readBlock_replicate hpassed, List.singleton_append,
    readBlock_lineStart hr, hcol, hindent]
  rw [hcol] at hspace'
  simp only [hb, Bool.false_eq_true, if_false, if_neg hspace', if_true]
  simp [ht]

/-- A line end adds itself to the content of a block. -/
theorem passesBlock_break (hplaced : Placed indent inLine b p) (hb : isBreak c = true)
    (hkept : breakText c = c) (hr : c ≠ '\r') :
    ∃ b' p', Placed indent false b' p' ∧ b'.content = b.content ++ [c]
      ∧ ∀ rest, readBlock true chomp parent inLine b p (indentLines indent (!inLine) [c] ++ rest)
        = readBlock true chomp parent false b' p' rest := by
  have hwritten : indentLines indent (!inLine) [c] = [c] := by simp [indentLines, hb]
  rw [hwritten]
  cases hplaced with
  -- the line end is the first one, and waits as the last break
  | inLine indented last more =>
    refine ⟨{ b with lastBreak := some c }, p.down 1, .lineStart indented rfl ?_ fun _ => more, ?_, ?_⟩
    · intro d hd
      obtain rfl : c = d := by simpa [Block.content, more] using hd
      exact hb
    · simp [Block.content, last, more]
    · intro rest
      rw [List.singleton_append, readBlock_inLine hr, if_pos hb, hkept]
  -- it follows others, so that all of them are kept
  | lineStart indented margin ended clipped =>
    have hcontent : ({ b with
        moreBreaks := b.moreBreaks ++ [c], deepest := max b.deepest p.column } : Block).content
        = b.content ++ [c] := by simp [Block.content]
    refine ⟨{ b with moreBreaks := b.moreBreaks ++ [c], deepest := max b.deepest p.column }, p.down 1,
      .lineStart indented rfl ?_ fun hclip => ?_, hcontent, ?_⟩
    · intro d hd
      obtain rfl : c = d := by simpa [hcontent] using hd
      exact hb
    · rw [hcontent, chompMark_concat hb ended] at hclip
      cases hclip
    · intro rest
      rw [List.singleton_append, readBlock_lineStart hr, if_pos hb, hkept]

/-- So does a character of a line, behind the indentation where the line begins with it. -/
theorem passesBlock_inner (hi : 0 < indent) (hplaced : Placed indent inLine b p)
    (hb : isBreak c = false) (hr : c ≠ '\r') (ht : c ≠ '\t') :
    ∃ b' p', Placed indent true b' p' ∧ b'.content = b.content ++ [c]
      ∧ ∀ rest, readBlock true chomp parent inLine b p (indentLines indent (!inLine) [c] ++ rest)
        = readBlock true chomp parent true b' p' rest := by
  cases hplaced with
  | inLine indented last more =>
    refine ⟨{ b with text := c :: b.text }, p.right 1, .inLine indented last more, ?_, ?_⟩
    · simp [Block.content, last, more]
    · intro rest
      have hwritten : indentLines indent (!true) [c] = [c] := by simp [indentLines, hb]
      rw [hwritten, List.singleton_append, readBlock_inLine hr, hb]
      rfl
  | lineStart indented margin ended clipped =>
    have hsettled : b.settled parent indent = indent := by
      rw [Block.settled, if_neg (by omega), indented]
    obtain ⟨p', hplaced', hopen⟩ := @readBlock_open b p chomp parent indent c margin hi hb
      (fun _ => indented) ht (Or.inr indented) hsettled
    exact ⟨_, p', hplaced', content_openLine b indent c, hopen⟩

/-- **Every character adds itself to the content of a block.** A line end waits, a character of a line
    settles what has waited before it; the content is the same either way. -/
theorem passesBlock (hi : 0 < indent) (hplaced : Placed indent inLine b p)
    (hprint : isPrintable c = true) :
    ∃ b' p', Placed indent (!isBreak c) b' p' ∧ b'.content = b.content ++ [c]
      ∧ ∀ rest, readBlock true chomp parent inLine b p (indentLines indent (!inLine) [c] ++ rest)
        = readBlock true chomp parent (!isBreak c) b' p' rest := by
  have hr : c ≠ '\r' := by rintro rfl; exact absurd hprint (by decide)
  have ht : c ≠ '\t' := by rintro rfl; exact absurd hprint (by decide)
  cases hb : isBreak c with
  | true =>
    have hkept : breakText c = c := by
      rcases cases_of_isPrintable hprint with ⟨-, -, hkept, -⟩ | rfl | ⟨hb', -⟩
      · exact hkept
      · cases hb
      · rw [hb] at hb'
        cases hb'
    exact passesBlock_break hplaced hb hkept hr
  | false => exact passesBlock_inner hi hplaced hb hr ht

/-- **The lines of a block are read as they were written**, from any place in it.  The induction is on the
    characters, and `Placed` is what one character hands on to the next. -/
theorem readBlock_lines (hi : 0 < indent) (hplaced : Placed indent inLine b p)
    (hprint : ∀ d ∈ more, isPrintable d = true) :
    ∃ b' p', Placed indent (!endsLine (!inLine) more) b' p' ∧ b'.content = b.content ++ more
      ∧ ∀ rest, readBlock true chomp parent inLine b p (indentLines indent (!inLine) more ++ rest)
        = readBlock true chomp parent (!endsLine (!inLine) more) b' p' rest := by
  induction more generalizing inLine b p with
  | nil =>
    have hends : (!endsLine (!inLine) []) = inLine := by simp [endsLine]
    rw [hends]
    exact ⟨b, p, hplaced, by simp, fun rest => rfl⟩
  | cons c more ih =>
    obtain ⟨b', p', hplaced', hcontent, hstep⟩ :=
      @passesBlock b p chomp parent indent inLine c hi hplaced (hprint c List.mem_cons_self)
    obtain ⟨b'', p'', hplaced'', hcontent', hrest⟩ := ih hplaced'
      fun d hd => hprint d (List.mem_cons_of_mem _ hd)
    rw [Bool.not_not] at hplaced'' hrest
    rw [endsLine_cons]
    refine ⟨b'', p'', hplaced'', ?_, fun rest => ?_⟩
    · rw [hcontent', hcontent, List.append_assoc]
      rfl
    · rw [indentLines_cons, List.append_assoc, hstep, hrest]

/-- **A block ends before a line that is indented less.** -/
theorem readBlock_margin {count : Nat} (hi : b.indent = indent) (hp : p.column = 0)
    (hcount : count < indent) (hnext : opensLine next = true) :
    ∃ p' : Position, p'.column = count
      ∧ readBlock true chomp parent false b p (List.replicate count ' ' ++ next)
        = some ⟨b.finish chomp, p', next⟩ := by
  have hcol : (p.right count).column = count := by simp [Position.right, hp]
  refine ⟨p.right count, hcol, ?_⟩
  rw [readBlock_replicate (by omega)]
  cases next with
  | nil => rfl
  | cons d more =>
    obtain ⟨hb, hblank, hr, -⟩ := not_of_isPlainChar hnext
    obtain ⟨hspace, ht⟩ : d ≠ ' ' ∧ d ≠ '\t' := by simpa [isBlank] using hblank
    have hshallow : ¬ count = b.settled parent count := by
      rw [Block.settled, if_neg (by omega)]
      omega
    rw [readBlock_lineStart hr, hcol]
    simp [hb, hspace, ht, hshallow]

/-- What the header says about the line ends behind the text. -/
def chompFor (text : List Char) : Chomp :=
  if chompMark text = ['-'] then .strip else if chompMark text = ['+'] then .keep else .clip

/-- Where the line ends of the content are to stay, the text of a block is its content. -/
theorem finish_chompFor
    (h : chompMark b.content = ['+'] ∨ (chompMark b.content = [] ∧ b.moreBreaks = [])) :
    b.finish (chompFor b.content) = b.content := by
  rcases h with hmark | ⟨hmark, hmore⟩
  · have hkeep : chompFor b.content = .keep := by simp [chompFor, hmark]
    rw [hkeep]
    rfl
  · have hclip : chompFor b.content = .clip := by simp [chompFor, hmark]
    rw [hclip]
    simp [Block.finish, Block.content, hmore]

/-- **The header decides that the text is what the content is**, where the next line begins.  A text without
    a line end at its end is written with one, which the header has dropped. -/
theorem readBlock_end {text : List Char} {count : Nat} (hne : text ≠ [])
    (hplaced : Placed indent (!endsLine false text) b p) (hcontent : b.content = text)
    (hcount : count < indent) (hnext : opensLine next = true) :
    ∃ p' : Position, p'.column = count
      ∧ readBlock true (chompFor text) parent (!endsLine false text) b p
          ((if endsLine false text then [] else ['\n']) ++ (List.replicate count ' ' ++ next))
        = some ⟨text, p', next⟩ := by
  rcases chompMark_cases hne with ⟨hends, hmark⟩ | ⟨hends, hmark⟩ | ⟨hends, hmark⟩
  · -- the last line has ended with the scalar's line
    rw [hends] at hplaced ⊢
    cases hplaced with
    | inLine indented last more =>
      obtain ⟨p', hcolumn, hread⟩ := @readBlock_margin { b with lastBreak := some '\n' } (p.down 1) .strip
        parent indent next count indented rfl hcount hnext
      have htext : b.text.reverse = text := by
        rw [← hcontent]
        simp [Block.content, last, more]
      refine ⟨p', hcolumn, ?_⟩
      have hstrip : chompFor text = .strip := by simp [chompFor, hmark]
      rw [hstrip]
      simp only [Bool.not_false, Bool.false_eq_true, if_false, List.singleton_append]
      rw [readBlock_inLine (by decide)]
      refine hread.trans ?_
      simp [Block.finish, htext]
  all_goals
    rw [hends] at hplaced ⊢
    cases hplaced with
    | lineStart indented margin ended clipped =>
      obtain ⟨p', hcolumn, hread⟩ := @readBlock_margin b p (chompFor text) parent indent next count
        indented margin hcount hnext
      subst hcontent
      refine ⟨p', hcolumn, hread.trans ?_⟩
      rw [finish_chompFor]
      first | exact Or.inl hmark | exact Or.inr ⟨hmark, clipped hmark⟩

theorem readHeader_block (lead : Bool) {mark : List Char} {chomp : Chomp} (rest : List Char)
    (h : (mark, chomp) ∈ [(['-'], Chomp.strip), (['+'], .keep), ([], .clip)]) :
    ∃ width, readHeader ((if lead then ['2'] else []) ++ (mark ++ '\n' :: rest))
      = some (⟨chomp, if lead then 2 else 0⟩, width, '\n' :: rest) := by
  simp only [List.mem_cons, Prod.mk.injEq, List.not_mem_nil, or_false] at h
  rcases h with ⟨rfl, rfl⟩ | ⟨rfl, rfl⟩ | ⟨rfl, rfl⟩ <;> cases lead <;> exact ⟨_, rfl⟩

theorem mem_chompFor {text : List Char} (hne : text ≠ []) :
    (chompMark text, chompFor text) ∈ [(['-'], Chomp.strip), (['+'], .keep), ([], .clip)] := by
  unfold chompFor
  rcases chompMark_cases hne with ⟨-, hmark⟩ | ⟨-, hmark⟩ | ⟨-, hmark⟩ <;> rw [hmark] <;> decide

/-- Whether the header gives the indentation, since the lines would not show it. -/
def givesIndent (text : List Char) : Bool := text.head?.any fun c => isSpace c || isBreak c

/-- A block's lines are read from the first one on, whether or not the header gives the indentation. -/
theorem readBlock_start {text : List Char} {margin : Nat} (hp : p.column = 0)
    (hprint : ∀ d ∈ text, isPrintable d = true) (hne : text ≠ []) :
    ∃ b' p', Placed (margin + 2) (!endsLine false text) b' p' ∧ b'.content = text
      ∧ ∀ rest, readBlock true chomp margin false
          (Block.start (if givesIndent text then margin + 2 else 0)) p
          (indentLines (margin + 2) true text ++ rest)
        = readBlock true chomp margin (!endsLine false text) b' p' rest := by
  cases text with
  | nil => exact absurd rfl hne
  | cons c more =>
    cases hgives : givesIndent (c :: more) with
    | true =>
      have hplaced : Placed (margin + 2) false (Block.start (margin + 2)) p :=
        .lineStart rfl hp (fun _ hd => by cases hd) (fun hmark => by cases hmark)
      obtain ⟨b', p', hplaced', hcontent, hread⟩ :=
        @readBlock_lines (Block.start (margin + 2)) p chomp margin (margin + 2) false (c :: more)
          (Nat.succ_pos _) hplaced hprint
      rw [endsLine_cons] at hplaced' hread ⊢
      exact ⟨b', p', hplaced', hcontent, hread⟩
    | false =>
      obtain ⟨hspace, hb⟩ : isSpace c = false ∧ isBreak c = false := by
        simpa [givesIndent] using hgives
      have ht : c ≠ '\t' := by rintro rfl; exact absurd (hprint _ List.mem_cons_self) (by decide)
      have hindent : (Block.start 0).settled margin (margin + 2) = margin + 2 := by
        simp only [Block.settled, Block.start, if_true]
        omega
      -- the first line with text settles how deeply all of them are indented
      obtain ⟨p', hplaced, hopen⟩ := @readBlock_open (Block.start 0) p chomp margin (margin + 2) c hp
        (Nat.succ_pos _) hb (fun h => by rw [h] at hspace; cases hspace) ht (Or.inl rfl) hindent
      obtain ⟨b', p'', hplaced', hcontent, hread⟩ :=
        @readBlock_lines _ p' chomp margin (margin + 2) true more (Nat.succ_pos _) hplaced
          fun d hd => hprint d (List.mem_cons_of_mem _ hd)
      rw [endsLine_cons, hb]
      refine ⟨b', p'', hplaced', ?_, fun rest => ?_⟩
      · rw [hcontent, content_openLine]
        rfl
      · rw [indentLines_cons, List.append_assoc, hb]
        exact (hopen _).trans (hread rest)

/-- **What was written as a block of lines is read back**, up to the start of the next line. -/
theorem readBlockScalar_block {text : List Char} {margin count : Nat} (hfits : fitsBlock text = true)
    (hne : text ≠ []) (hcount : count < margin + 2) (hnext : opensLine next = true) :
    ∃ p' : Position, p'.column = count
      ∧ readBlockScalar true margin p ((block (margin + 2) text).drop 1
          ++ ((if endsLine false text then [] else ['\n']) ++ (List.replicate count ' ' ++ next)))
        = some ⟨text, p', next⟩ := by
  simp only [fitsBlock, Bool.and_eq_true, Bool.not_eq_true'] at hfits
  have hprint := isPrintable_of_not_needsEscapes hfits.1
  -- what is written is a header, a line end and the lines
  have hwritten : ∀ rest, (block (margin + 2) text).drop 1 ++ rest
      = (if givesIndent text then ['2'] else [])
        ++ (chompMark text ++ '\n' :: (indentLines (margin + 2) true text ++ rest)) := by
    intro rest
    simp only [block, List.cons_append, List.nil_append, List.append_assoc, List.drop_succ_cons,
      List.drop_zero]
    rfl
  obtain ⟨width, hheader⟩ := readHeader_block (givesIndent text)
    (indentLines (margin + 2) true text
      ++ ((if endsLine false text then [] else ['\n']) ++ (List.replicate count ' ' ++ next)))
    (mem_chompFor hne)
  -- the indentation in the header is on top of that of the line with the key
  have hindent : (if (if givesIndent text then 2 else 0) = 0 then 0
      else (max (margin : Int) 0).toNat + if givesIndent text then 2 else 0)
      = if givesIndent text then margin + 2 else 0 := by
    cases givesIndent text with
    | false => rfl
    | true =>
      show (max (margin : Int) 0).toNat + 2 = margin + 2
      omega
  obtain ⟨b', p', hplaced, hcontent, hread⟩ :=
    @readBlock_start ((p.right width).down 1) (chompFor text) text margin rfl hprint hne
  obtain ⟨p'', hcolumn, hend⟩ := @readBlock_end b' p' margin (margin + 2) next text count hne hplaced
    hcontent hcount hnext
  have hskip : ∀ rest, skipLineEnd false (p.right width) ('\n' :: rest)
      = some ((p.right width).down 1, rest) := fun _ => rfl
  refine ⟨p'', hcolumn, ?_⟩
  rw [hwritten, readBlockScalar, hheader]
  simp only [hskip, hindent]
  exact (hread _).trans hend

end

end QuorumRescue.Yaml
