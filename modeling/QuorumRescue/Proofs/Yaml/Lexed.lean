/-
  From written lines to tokens.

  A written record is a row of lines, each of a key and a scalar, and a list puts a dash before every
  record.  The lexer that reads them is made for any YAML text: it has candidates for keys, open blocks,
  and a position to judge both by.  This file says what it does on lines of this kind, one piece at a
  time.

  1. **The places.** Outside of flow collections and between two such pieces the lexer has no candidate
     for a key (`standing`).  All that counts is what comes next behind blanks and line ends, and in
     which column; `Before` says this of a lexer, and is what the lemmas lead from and to.

  2. **The steps.** The lexer is run with as many steps as the text has characters.  `Leads` counts the
     steps against the characters that were passed, so that they never run out and can be added up
     (`Leads.trans`).

  3. **The crux** is the key.  It is first read as a word, like any plain scalar, and noted as a
     candidate (`behindKey`); only the colon makes it a key, with a mark put before tokens that have
     already been told, and opens a mapping if the word is indented more deeply than the block around it
     (`next_behindKey`).  The candidate must not have gone stale until then, which is why keys are short
     (`isStale_right`).

  4. **Blocks.** A dash leads to its item, and opens a sequence if it is the first (`leads_dash`).  The
     blocks that are open are nested (`Nested`).  Those that are indented more deeply than the next word
     are closed (`dedent_nested`), and the end of the text closes all of them (`run_end`).
-/
import QuorumRescue.Proofs.Yaml.Block
import QuorumRescue.Yaml.Lexer

namespace QuorumRescue.Yaml.Lexer

/-! ## Between two pieces -/

/-- A lexer outside of flow collections, without a candidate for a key. -/
def standing (rest : List Char) (p : Position) (indent : Int) (outer : List Int) (fresh : Bool)
    (tokens : List Token) : Lexer :=
  ⟨rest, p, indent, outer, fresh, [none], tokens, tokens.length, false⟩

/-- Reading on from one state comes to the other, in no more steps than characters are passed. -/
def Leads (s s' : Lexer) : Prop :=
  ∃ steps, steps + s'.rest.length ≤ s.rest.length ∧ ∀ fuel, run (fuel + steps) s = run fuel s'

theorem Leads.refl (s : Lexer) : Leads s s := ⟨0, by simp, fun _ => rfl⟩

theorem Leads.trans {a b c : Lexer} (hab : Leads a b) (hbc : Leads b c) : Leads a c := by
  obtain ⟨m, hm, hab⟩ := hab
  obtain ⟨n, hn, hbc⟩ := hbc
  refine ⟨n + m, by omega, fun fuel => ?_⟩
  rw [← Nat.add_assoc, hab, hbc]

theorem Leads.of_next {s s' : Lexer} (h : s.next = some s') (hdone : s.done = false)
    (hless : s'.rest.length < s.rest.length) : Leads s s' := by
  refine ⟨1, by omega, fun fuel => ?_⟩
  simp [run, hdone, h]

section

variable {s s' : Lexer} {text rest next : List Char} {p : Position} {indent : Int} {outer : List Int}
  {fresh : Bool} {tokens : List Token} {column : Nat} {c : Char}

/-- A lexer before a text in a column, with nothing in between but what is passed between tokens. -/
structure Before (fresh : Bool) (column : Nat) (text : List Char) (indent : Int) (outer : List Int)
    (tokens : List Token) (s : Lexer) : Prop where
  state : s = standing s.rest s.position indent outer s.fresh tokens
  gap : ∃ p : Position, p.column = column ∧ skipGap false s.fresh false s.position s.rest = ⟨fresh, p, text⟩

theorem length_skipGap (flow fresh comment : Bool) (p : Position) (text : List Char) :
    (skipGap flow fresh comment p text).rest.length ≤ text.length := by
  fun_induction skipGap flow fresh comment p text <;> simp_all <;> omega

theorem Before.length_le (h : Before fresh column text indent outer tokens s) :
    text.length ≤ s.rest.length := by
  obtain ⟨p, -, hgap⟩ := h.gap
  have hlength := length_skipGap false s.fresh false s.position s.rest
  rwa [hgap] at hlength

theorem dropStale_standing : (standing rest p indent outer fresh tokens).dropStale
    = some (standing rest p indent outer fresh tokens) := rfl

/-- Blocks that are indented no more deeply than the next word stay open. -/
theorem dedent_standing (h : indent ≤ column) :
    (standing rest p indent outer fresh tokens).dedent column
      = standing rest p indent outer fresh tokens := by
  cases outer with
  | nil => rfl
  | cons around outer =>
    have hdeep : ¬ (column : Int) < indent := by omega
    simp [dedent, inFlow, standing, closeBlocks, hdeep]

/-- **The next token is read from the place where it starts.** What is between is passed first, then blocks
    are closed by the column that has been come to. -/
theorem Before.next_eq (h : Before fresh column text indent outer tokens s) :
    ∃ p : Position, p.column = column ∧ s.next
      = match ((standing text p indent outer fresh tokens).dedent column).readToken with
        | none => none
        | some s => s.dropStale := by
  obtain ⟨p, hcolumn, hgap⟩ := h.gap
  refine ⟨p, hcolumn, ?_⟩
  have hnext : (standing s.rest s.position indent outer s.fresh tokens).next
      = match ((standing text p indent outer fresh tokens).dedent p.column).readToken with
        | none => none
        | some s => s.dropStale := by
    simp only [next, standing, inFlow, List.length_singleton, Nat.lt_irrefl, decide_false, hgap]
    rfl
  rw [h.state, hnext, hcolumn]

/-- Where nothing is to be passed, the next token is read right away. -/
theorem next_of_settled {s : Lexer}
    (hgap : skipGap s.inFlow s.fresh false s.position s.rest = ⟨s.fresh, s.position, s.rest⟩)
    (hstale : s.dropStale = some s) :
    s.next = match (s.dedent s.position.column).readToken with
      | none => none
      | some s => s.dropStale := by
  cases hread : (s.dedent s.position.column).readToken
  all_goals simp only [next, hgap, hstale, hread]

/-! ## Passing what is between tokens -/

/-- A character that starts a word and no comment. -/
def startsWord (c : Char) : Bool := !isBreak c && !isBlank c && c != '#' && c != byteOrderMark

theorem skipGap_word (h : startsWord c = true) :
    skipGap false fresh false p (c :: rest) = ⟨fresh, p, c :: rest⟩ := by
  simp only [startsWord, isBlank, Bool.and_eq_true, Bool.not_eq_true', Bool.or_eq_false_iff,
    beq_eq_false_iff_ne, bne_iff_ne, ne_eq] at h
  obtain ⟨⟨⟨hb, hspace, ht⟩, hcomment⟩, hmark⟩ := h
  rw [skipGap]
  · simp [hb, hspace, ht, hcomment, hmark]
  · rintro _ rfl; exact absurd hb (by decide)

theorem skipGap_replicate (count : Nat) :
    skipGap false fresh false p (List.replicate count ' ' ++ rest)
      = skipGap false fresh false (p.right count) rest := by
  induction count generalizing p with
  | zero => rfl
  | succ count ih =>
    have hstep : skipGap false fresh false p (' ' :: (List.replicate count ' ' ++ rest))
        = skipGap false fresh false (p.right 1) (List.replicate count ' ' ++ rest) := by
      rw [skipGap]
      · simp [isBreak, byteOrderMark]
      · rintro _ h; exact absurd h (by decide)
    rw [List.replicate_succ, List.cons_append, hstep, ih, Position.right_right, Nat.add_comm]

theorem startsWord_of_opensLine (h : opensLine (c :: rest) = true) : startsWord c = true := by
  obtain ⟨hb, hblank, -, hcomment, hmark⟩ := not_of_isPlainChar h
  simp [startsWord, hb, hblank, hcomment, hmark]

theorem skipGap_opensLine (h : opensLine rest = true) :
    skipGap false fresh false p rest = ⟨fresh, p, rest⟩ := by
  cases rest with
  | nil => rfl
  | cons c rest => exact skipGap_word (startsWord_of_opensLine h)

/-- At the start of a line that was read up to its first word. -/
theorem before_line (hnext : opensLine next = true) :
    Before true p.column next indent outer tokens (standing next p indent outer true tokens) :=
  ⟨rfl, p, rfl, skipGap_opensLine hnext⟩

/-- At the end of a line, behind a scalar between quotes. -/
theorem before_feed {count : Nat} (hnext : opensLine next = true) :
    Before true count next indent outer tokens
      (standing ('\n' :: (List.replicate count ' ' ++ next)) p indent outer fresh tokens) := by
  refine ⟨rfl, (p.down 1).right count, by simp [Position.right, Position.down], ?_⟩
  have hstep : skipGap false fresh false p ('\n' :: (List.replicate count ' ' ++ next))
      = skipGap false true false (p.down 1) (List.replicate count ' ' ++ next) := by
    rw [skipGap]
    · simp [isBreak]
    · rintro _ h; exact absurd h (by decide)
  exact hstep.trans (skipGap_replicate count |>.trans (skipGap_opensLine hnext))

/-- Behind a mark, with a blank before the next word. -/
theorem before_blank (h : startsWord c = true) :
    Before fresh (p.column + 1) (c :: rest) indent outer tokens
      (standing (' ' :: c :: rest) p indent outer fresh tokens) :=
  ⟨rfl, p.right 1, rfl, (skipGap_replicate 1).trans (skipGap_word h)⟩

/-! ## Words and keys -/

/-- A character that starts a plain scalar, with what follows it. -/
def leadsPlain (c : Char) (rest : List Char) : Bool :=
  startsWord c && !isLeadMark c && !((c == '?' || c == ':' || c == '-') && endsWord rest)

theorem leadsPlain_of_isPlainChar (h : isPlainChar c = true) : leadsPlain c rest = true := by
  have hne : ∀ d : Char, isPlainChar d = false → c ≠ d := by
    rintro d hd rfl
    rw [h] at hd
    cases hd
  have hword : startsWord c = true := @startsWord_of_opensLine [] c (by simp [opensLine, h])
  have hlead : isLeadMark c = false := by
    simp only [isLeadMark, isFlowMark, Bool.or_eq_false_iff, beq_eq_false_iff_ne]
    refine ⟨⟨⟨⟨⟨⟨⟨⟨⟨⟨⟨?_, ⟨⟨⟨⟨?_, ?_⟩, ?_⟩, ?_⟩, ?_⟩⟩, ?_⟩, ?_⟩, ?_⟩, ?_⟩, ?_⟩, ?_⟩, ?_⟩, ?_⟩, ?_⟩, ?_⟩
    all_goals exact hne _ (by decide)
  simp [leadsPlain, hword, hlead, hne '?' (by decide), hne ':' (by decide), hne '-' (by decide)]

/-- Off the margin, or with a letter, no line starts that separates documents. -/
theorem startsMarker_eq_false {mark : Char} (hmark : isPlainChar mark = false)
    (hcol : p.column ≠ 0 ∨ isPlainChar c = true) :
    ¬ (p.column = 0 ∧ startsMarker mark (c :: rest) = true) := by
  rintro ⟨hzero, hstarts⟩
  rcases hcol with hcol | hc
  · exact hcol hzero
  · have hne : c ≠ mark := by
      rintro rfl
      rw [hmark] at hc
      cases hc
    rw [startsMarker_cons_of_ne hne] at hstarts
    cases hstarts

/-- A mark that stands before a blank starts no plain scalar. -/
theorem endsWord_of_leadsPlain (h : leadsPlain c rest = true) (hc : c = '?' ∨ c = ':' ∨ c = '-') :
    endsWord rest = false := by
  have hmark := (Bool.and_eq_true _ _ ▸ h).2
  rcases hc with rfl | rfl | rfl <;> simpa using hmark

theorem startsPlain_of_leadsPlain (h : leadsPlain c rest = true) : startsPlain false (c :: rest) = true := by
  have hends := endsWord_of_leadsPlain h
  unfold startsPlain
  by_cases hdash : c = '-'
  · have hblank : (rest.head?.any isBlank) = false := by
      have hword := hends (Or.inr (Or.inr hdash))
      cases rest with
      | nil => cases hword
      | cons d rest => exact (Bool.or_eq_false_iff.1 hword).1
    simp [hdash, hblank]
  by_cases hquestion : c = '?' ∨ c = ':'
  · have hword : endsWord rest = false := hends (hquestion.imp_right Or.inl)
    rcases hquestion with rfl | rfl <;> simp [hword]
  · simp only [leadsPlain, startsWord, isLeadMark, Bool.and_eq_true, Bool.not_eq_true',
      Bool.or_eq_false_iff, beq_eq_false_iff_ne, bne_iff_ne, ne_eq] at h
    obtain ⟨⟨⟨⟨⟨hb, hblank⟩, _⟩, _⟩, ⟨⟨⟨⟨⟨⟨⟨⟨⟨⟨⟨_, hflow⟩, _⟩, _⟩, _⟩, _⟩, _⟩, _⟩, _⟩, _⟩, _⟩, _⟩⟩, -⟩ := h
    rw [not_or] at hquestion
    simp [*]

/-- **A plain scalar is read where one starts**, off the margin or with a letter. -/
theorem readToken_plain (h : leadsPlain c rest = true) (hcol : p.column ≠ 0 ∨ isPlainChar c = true) :
    (standing (c :: rest) p indent outer fresh tokens).readToken
      = (standing (c :: rest) p indent outer fresh tokens).readPlainScalar := by
  have hdash := @startsMarker_eq_false rest p c '-' rfl hcol
  have hpoint := @startsMarker_eq_false rest p c '.' rfl hcol
  have hstart := startsPlain_of_leadsPlain h
  have hmark : ∀ d : Char, d = '?' ∨ d = ':' ∨ d = '-' → ¬ (c = d ∧ endsWord rest = true) := by
    rintro d hd ⟨rfl, hword⟩
    rw [endsWord_of_leadsPlain h hd] at hword
    cases hword
  simp only [leadsPlain, isLeadMark, isFlowMark, Bool.and_eq_true, Bool.not_eq_true',
    Bool.or_eq_false_iff, beq_eq_false_iff_ne, ne_eq] at h
  obtain ⟨⟨-, ⟨⟨⟨⟨⟨⟨⟨⟨⟨⟨⟨_, ⟨⟨⟨⟨_, _⟩, _⟩, _⟩, _⟩⟩, _⟩, _⟩, _⟩, _⟩, _⟩, _⟩, _⟩, _⟩, _⟩, _⟩⟩, -⟩ := h
  unfold readToken
  simp only [standing, inFlow]
  simp [*]

/-- A lexer behind a word that has been noted as a candidate for a key, before the colon. -/
def behindKey (rest : List Char) (start p : Position) (indent : Int) (outer : List Int)
    (name : List Char) (tokens : List Token) : Lexer :=
  ⟨rest, p, indent, outer, false, [some ⟨indent == (start.column : Int), tokens.length, start⟩],
    .scalar .plain name :: tokens, tokens.length + 1, false⟩

/-- The colon behind a word ends a plain scalar. -/
theorem readPlain_colon {seen : List Char} {floor : Int} :
    readPlain false floor seen .none p (':' :: ' ' :: rest)
      = some (⟨seen.reverse, p, ':' :: ' ' :: rest⟩, false) := by
  have hbefore : endsBeforeWord false floor .none p (':' :: ' ' :: rest) = false := by
    have hmarker : isDocumentMarker (':' :: ' ' :: rest) = false := by
      rw [isDocumentMarker, startsMarker_cons_of_ne (by decide), startsMarker_cons_of_ne (by decide)]
      rfl
    simp [endsBeforeWord, Pause.isNone, hmarker]
  rw [readPlain_cons (by decide), hbefore]
  rfl

/-- A candidate can become a key while the lexer is on its line and near enough. -/
theorem isStale_right {count number : Nat} {required : Bool} (h : count ≤ longestKey) :
    isStale (p.right count) ⟨required, number, p⟩ = false := by
  have hnear : ¬ p.index + longestKey < p.index + count := by omega
  simp [isStale, Position.right, hnear]

/-- A key is first read as a word that may become one. -/
theorem Before.next_key {name : List Char}
    (h : Before true column (name ++ ':' :: ' ' :: text) indent outer tokens s)
    (hname : name.all isPlainChar = true) (hne : name ≠ []) (hshort : name.length ≤ longestKey)
    (hin : indent ≤ column) : ∃ start : Position, start.column = column
      ∧ s.next = some (behindKey (':' :: ' ' :: text) start (start.right name.length) indent outer
          name tokens) := by
  obtain ⟨p, hcolumn, hnext⟩ := h.next_eq
  refine ⟨p, hcolumn, hnext.trans ?_⟩
  obtain ⟨c, more, rfl⟩ : ∃ c more, name = c :: more := List.exists_cons_of_ne_nil hne
  have hc : isPlainChar c = true := by
    rw [List.all_cons, Bool.and_eq_true] at hname
    exact hname.1
  have hread : readPlain false (indent + 1) [] .none p (c :: more ++ ':' :: ' ' :: text)
      = some (⟨c :: more, p.right (c :: more).length, ':' :: ' ' :: text⟩, false) := by
    rw [readPlain_letters hname, readPlain_colon]
    simp
  rw [dedent_standing hin, List.cons_append, readToken_plain (leadsPlain_of_isPlainChar hc) (Or.inr hc)]
  rw [List.cons_append] at hread
  simp only [readPlainScalar, noteCandidate, standing, dropCandidate, inFlow, if_true, List.drop_succ_cons,
    List.drop_zero, List.length_singleton, Nat.lt_irrefl, decide_false, hread, Option.map_some]
  simp [dropStale, accept, emit, behindKey, isStale_right hshort, -List.length_cons]

section

variable {start : Position} {name : List Char} {count : Nat}

theorem dropStale_behindKey (hshort : count ≤ longestKey) :
    (behindKey rest start (start.right count) indent outer name tokens).dropStale
      = some (behindKey rest start (start.right count) indent outer name tokens) := by
  simp [dropStale, behindKey, isStale_right hshort]

theorem dedent_behindKey (hin : indent ≤ start.column) :
    (behindKey rest start (start.right count) indent outer name tokens).dedent (start.right count).column
      = behindKey rest start (start.right count) indent outer name tokens := by
  have hdeep : ¬ ((start.right count).column : Int) < indent := by
    simp only [Position.right]
    omega
  cases outer with
  | nil => rfl
  | cons around outer => simp [dedent, inFlow, behindKey, closeBlocks, hdeep]

theorem readColon_behindKey (hin : indent ≤ start.column) :
    (behindKey (':' :: ' ' :: text) start (start.right count) indent outer name tokens).readColon
      = some (standing (' ' :: text) ((start.right count).right 1) start.column
          (if indent < start.column then indent :: outer else outer) false
          (.value :: .scalar .plain name :: .key
            :: if indent < start.column then .mappingBlock :: tokens else tokens)) := by
  simp only [readColon, behindKey, emitBefore, openBlock, inFlow, List.length_singleton, Nat.lt_irrefl,
    decide_false]
  by_cases hlt : indent < start.column
  · have htwo : tokens.length + 1 + 1 - tokens.length = 2 := by omega
    simp [hlt, advance, emit, standing, htwo]
  · have hsame : indent = start.column := by omega
    simp [hsame, advance, emit, standing]

/-- **The colon makes the word a key**, and opens a mapping if the word is indented more deeply than the
block around it. -/
theorem next_behindKey (hshort : count ≤ longestKey) (hin : indent ≤ start.column) :
    (behindKey (':' :: ' ' :: text) start (start.right count) indent outer name tokens).next
      = some (standing (' ' :: text) ((start.right count).right 1) start.column
          (if indent < start.column then indent :: outer else outer) false
          (.value :: .scalar .plain name :: .key
            :: if indent < start.column then .mappingBlock :: tokens else tokens)) := by
  have hread : (behindKey (':' :: ' ' :: text) start (start.right count) indent outer name tokens).readToken
      = (behindKey (':' :: ' ' :: text) start (start.right count) indent outer name tokens).readColon := by
    have hdash := @startsMarker_cons_of_ne ':' (' ' :: text) '-' (by decide)
    have hpoint := @startsMarker_cons_of_ne ':' (' ' :: text) '.' (by decide)
    unfold readToken
    simp [behindKey, hdash, hpoint, endsWord, isBlank]
  have hnext := @next_of_settled
    (behindKey (':' :: ' ' :: text) start (start.right count) indent outer name tokens)
    (skipGap_word (by decide)) (dropStale_behindKey hshort)
  have hdedent : (behindKey (':' :: ' ' :: text) start (start.right count) indent outer name tokens).dedent
      (behindKey (':' :: ' ' :: text) start (start.right count) indent outer name tokens).position.column
      = behindKey (':' :: ' ' :: text) start (start.right count) indent outer name tokens :=
    dedent_behindKey hin
  rw [hnext, hdedent, hread, readColon_behindKey hin]
  rfl
/-- **A key leads to its value**, in a mapping at the column of the key. -/
theorem leads_key (h : Before true column (name ++ ':' :: ' ' :: text) indent outer tokens s)
    (hname : name.all isPlainChar = true) (hne : name ≠ []) (hshort : name.length ≤ longestKey)
    (hin : indent ≤ column) :
    ∃ p : Position, column < p.column ∧ Leads s (standing (' ' :: text) p column
      (if indent < column then indent :: outer else outer) false
      (.value :: .scalar .plain name :: .key
        :: if indent < column then .mappingBlock :: tokens else tokens)) := by
  obtain ⟨start, rfl, hword⟩ := h.next_key hname hne hshort hin
  have hcolon := @next_behindKey text indent outer tokens start name name.length hshort hin
  have hlength := h.length_le
  have hdone : s.done = false := by
    rw [h.state]
    rfl
  refine ⟨(start.right name.length).right 1, ?_, (Leads.of_next hword hdone ?_).trans
    (Leads.of_next hcolon rfl ?_)⟩
  · simp only [Position.right]
    omega
  · have hpos := List.length_pos_iff.2 hne
    simp only [behindKey, List.length_cons, List.length_append] at hlength ⊢
    omega
  · simp only [behindKey, standing, List.length_cons]
    omega

end

/-! ## Blocks -/

/-- The indentations of open blocks, each deeper than the one around it. -/
inductive Nested : Int → List Int → Prop
  | base : Nested (-1) []
  | block {indent around : Int} {outer : List Int} (deeper : around < indent)
      (nested : Nested around outer) : Nested indent (around :: outer)

theorem Nested.le (h : Nested indent outer) : -1 ≤ indent := by
  induction h with
  | base => exact Int.le_refl _
  | block deeper _ ih => omega

/-- **The blocks that are indented more deeply than a column are closed**, each with its own mark.  The
    induction is on the blocks that are open, from the innermost one. -/
theorem dedent_nested (h : Nested indent outer) {column : Int} (hcol : -1 ≤ column) :
    ∃ indent' outer' count, (standing rest p indent outer fresh tokens).dedent column
        = standing rest p indent' outer' fresh (List.replicate count .blockEnd ++ tokens)
      ∧ Nested indent' outer' ∧ indent' ≤ column ∧ count + outer'.length = outer.length := by
  have hdedent : ∀ indent outer tokens, (standing rest p indent outer fresh tokens).dedent column
      = closeBlocks column outer (standing rest p indent outer fresh tokens) := fun _ _ _ => rfl
  rw [hdedent]
  induction h generalizing tokens with
  | base => exact ⟨-1, [], 0, rfl, .base, hcol, rfl⟩
  | @block indent around outer deeper nested ih =>
    have hstep : closeBlocks column (around :: outer)
        (standing rest p indent (around :: outer) fresh tokens)
        = if column < indent then
            closeBlocks column outer (standing rest p around outer fresh (.blockEnd :: tokens))
          else standing rest p indent (around :: outer) fresh tokens := rfl
    by_cases hdeep : column < indent
    · -- the innermost block is closed, and the others by what is known of them
      obtain ⟨indent', outer', count, hclosed, hnested, hle, hcount⟩ := @ih (.blockEnd :: tokens)
      refine ⟨indent', outer', count + 1, ?_, hnested, hle, ?_⟩
      · rw [hstep, if_pos hdeep, hclosed, List.replicate_succ', List.append_assoc]
        rfl
      · rw [List.length_cons]
        omega
    · refine ⟨indent, around :: outer, 0, ?_, .block deeper nested, by omega, Nat.zero_add _⟩
      rw [hstep, if_neg hdeep]
      rfl

/-- **A dash leads to its item**, in a sequence at the margin. -/
theorem leads_dash {indent' : Int} {outer' : List Int} {tokens' : List Token}
    (h : Before true 0 ('-' :: ' ' :: c :: text) indent outer tokens s) (hc : startsWord c = true)
    (hdedent : ∀ p : Position, (standing ('-' :: ' ' :: c :: text) p indent outer true tokens).dedent 0
      = standing ('-' :: ' ' :: c :: text) p indent' outer' true tokens') (hin : indent' ≤ 0) :
    ∃ s', Leads s s' ∧ Before true 2 (c :: text) 0 (if indent' < 0 then indent' :: outer' else outer')
      (.dash :: if indent' < 0 then .sequenceBlock :: tokens' else tokens') s' := by
  obtain ⟨p, hcolumn, hnext⟩ := h.next_eq
  have hread : (standing ('-' :: ' ' :: c :: text) p indent' outer' true tokens').readToken
      = some (standing (' ' :: c :: text) (p.right 1) 0 (if indent' < 0 then indent' :: outer' else outer')
          true (.dash :: if indent' < 0 then .sequenceBlock :: tokens' else tokens')) := by
    have hmarker : startsMarker '-' ('-' :: ' ' :: c :: text) = false := by simp [startsMarker]
    unfold readToken
    -- the dash opens a sequence if none is open at the margin
    by_cases hopen : indent' < 0
    · simp [standing, hmarker, startsMarker_cons_of_ne, endsWord, isBlank, readDash, inFlow, openBlock,
        hcolumn, hopen, emitBefore, dropCandidate, advance, emit]
    · have hzero : indent' = 0 := by omega
      simp [standing, hmarker, startsMarker_cons_of_ne, endsWord, isBlank, readDash, inFlow, openBlock,
        hcolumn, hzero, dropCandidate, advance, emit]
  have hzero : ((0 : Nat) : Int) = 0 := rfl
  rw [hzero, hdedent, hread] at hnext
  have hdone : s.done = false := by
    rw [h.state]
    rfl
  have hlength := h.length_le
  have hblank := @before_blank text (p.right 1) 0 (if indent' < 0 then indent' :: outer' else outer') true
    (.dash :: if indent' < 0 then .sequenceBlock :: tokens' else tokens') c hc
  have htwo : (p.right 1).column + 1 = 2 := by simp [Position.right, hcolumn]
  rw [htwo] at hblank
  refine ⟨_, Leads.of_next hnext hdone ?_, hblank⟩
  simp only [standing, List.length_cons] at hlength ⊢
  omega

/-- **The end of the text closes all blocks**, and with it all of the text has been read.  Two steps are
    enough: one that finds the end, and one that finds that there is nothing more to do. -/
theorem run_end (h : Before true column [] indent outer tokens s) (hnested : Nested indent outer)
    (fuel : Nat) : run (fuel + 2) s
      = ((Token.streamEnd :: (List.replicate outer.length .blockEnd ++ tokens)).reverse, true) := by
  obtain ⟨p, -, hnext⟩ := h.next_eq
  obtain ⟨indent', outer', count, hdedent, hnested', -, hcount⟩ :=
    @dedent_nested [] p indent outer true tokens hnested column (by omega)
  obtain ⟨indent'', outer'', count', hdedent', hnested'', hle, hcount'⟩ :=
    @dedent_nested [] (if p.column = 0 then p else p.down 0) indent' outer' true
      (List.replicate count .blockEnd ++ tokens) hnested' (-1) (Int.le_refl _)
  -- only the text itself is not indented, so every block is closed now
  obtain rfl : outer'' = [] := by
    cases hnested'' with
    | base => rfl
    | block deeper nested => have := nested.le; omega
  have hall : count' + count = outer.length := by
    rw [List.length_nil] at hcount'
    omega
  have hread : (standing [] p indent' outer' true (List.replicate count .blockEnd ++ tokens)).readToken
      = some { standing [] (if p.column = 0 then p else p.down 0) indent'' [] false
          (.streamEnd :: (List.replicate outer.length .blockEnd ++ tokens)) with done := true } := by
    have hend : (standing [] p indent' outer' true (List.replicate count .blockEnd ++ tokens)).readToken
        = match (standing [] (if p.column = 0 then p else p.down 0) indent' outer' true
            (List.replicate count .blockEnd ++ tokens)).dedent (-1) |>.dropCandidate with
          | none => none
          | some s => some ({ s with fresh := false, done := true }.emit .streamEnd) := rfl
    rw [hend, hdedent', ← List.append_assoc, List.replicate_append_replicate, hall]
    rfl
  have hdone : s.done = false := by
    rw [h.state]
    rfl
  rw [hdedent, hread] at hnext
  simp only [dropStale, standing] at hnext
  simp only [run, hdone, hnext]
  rfl

end

end QuorumRescue.Yaml.Lexer
