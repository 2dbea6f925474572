/-
  Values, as tokens.

  Behind the mark of a key stands a scalar, in one of the four forms that a text can be written in.
  Each form has its own reader, and each reader has been shown to read its form back.  This file brings
  them together: the lexer tells the form by its first character, and comes to the next line with one
  token more.

  1. **The statement.** Every text is read back from its scalar, whichever form it has (`leads_scalar`),
     and so is every word of letters and digits (`leads_word`).  What is between the scalar and the next
     line is the same for all forms but the block, which has ended its own line.

  2. **The crux** is the handing over (`leads_of_readToken`).  Behind the mark there is a blank; the
     lexer passes it, drops no candidate and closes no block, and is where the reader of the form
     starts.  What has to be shown for a form is only that its first character leads to its reader.

  3. **The forms** follow one by one: `leads_plain`, `leads_quoted` for both kinds of quotes, and
     `leads_block`.
-/
import QuorumRescue.Proofs.Yaml.Lexed
import QuorumRescue.Proofs.Yaml.Scalar

namespace QuorumRescue.Yaml.Lexer

section

variable {text rest next : List Char} {p : Position} {indent : Int} {outer : List Int}
  {tokens : List Token} {c : Char}

/-- **A scalar behind a mark is read** where its own reader comes to the next line.  The column of the mark
    is unknown but for being at the margin or right of it, so the reader has to work at any column. -/
theorem leads_of_readToken {count : Nat} {after : List Token} (hc : startsWord c = true)
    (hin : indent ≤ p.column)
    (hread : ∀ q : Position, q.column = p.column + 1 → ∃ s' : Lexer,
      (standing (c :: rest) q indent outer false tokens).readToken = some s'
        ∧ s'.rest.length ≤ rest.length ∧ Before true count next indent outer after s') :
    ∃ s', Leads (standing (' ' :: c :: rest) p indent outer false tokens) s'
      ∧ Before true count next indent outer after s' := by
  have hbefore := @before_blank rest p indent outer false tokens c hc
  obtain ⟨q, hcolumn, hnext⟩ := hbefore.next_eq
  obtain ⟨s', htoken, hlength, hafter⟩ := hread q hcolumn
  have hstale : s'.dropStale = some s' := by
    rw [hafter.state]
    exact dropStale_standing
  have hdeep : indent ≤ ((p.column + 1 : Nat) : Int) := by omega
  rw [dedent_standing hdeep, htoken] at hnext
  refine ⟨s', Leads.of_next (hnext.trans hstale) rfl ?_, hafter⟩
  simp only [standing, List.length_cons]
  omega

theorem readPlainScalar_standing :
    (standing rest p indent outer false tokens).readPlainScalar
      = (readPlain false (indent + 1) [] .none p rest).map fun r =>
          standing r.1.rest r.1.position indent outer r.2 (.scalar .plain r.1.text :: tokens) := rfl

section

variable {word : List Char} {margin count : Nat}

/-- **A word of letters and digits is read as it stands.** -/
theorem leads_word (hword : word.all isPlainChar = true) (hne : word ≠ []) (hp : margin ≤ p.column)
    (hcount : count ≤ margin) (hnext : opensLine next = true) :
    ∃ s', Leads (standing (' ' :: (word ++ '\n' :: (List.replicate count ' ' ++ next))) p margin outer
          false tokens) s'
      ∧ Before true count next margin outer (.scalar .plain word :: tokens) s' := by
  obtain ⟨c, more, rfl⟩ : ∃ c more, word = c :: more := List.exists_cons_of_ne_nil hne
  have hc : isPlainChar c = true := by
    rw [List.all_cons, Bool.and_eq_true] at hword
    exact hword.1
  have hstart : startsWord c = true := @startsWord_of_opensLine [] c (by simp [opensLine, hc])
  rw [List.cons_append]
  refine leads_of_readToken hstart (by omega) fun q _ => ?_
  obtain ⟨p', hcolumn, hfeed⟩ := @readPlain_feed ((c :: more).reverse ++ []) next (q.right (c :: more).length)
    (margin + 1) count (by omega) hnext
  have hread := @readPlain_letters [] ('\n' :: (List.replicate count ' ' ++ next)) q (margin + 1)
    (c :: more) hword
  refine ⟨standing next p' margin outer true (.scalar .plain (c :: more) :: tokens), ?_, ?_, ?_⟩
  · rw [readToken_plain (leadsPlain_of_isPlainChar hc) (Or.inr hc), readPlainScalar_standing]
    rw [List.cons_append] at hread
    rw [hread, hfeed]
    simp
  · simp only [standing, List.length_append, List.length_cons]
    omega
  · rw [← hcolumn]
    exact before_line hnext

/-- A text that may stand plain starts a plain scalar. -/
theorem leadsPlain_of_fitsPlain {more : List Char} (hfits : fitsPlain (c :: more) = true) :
    leadsPlain c (more ++ '\n' :: rest) = true := by
  have h := standsPlain_of_fitsPlain hfits
  have hprint := h.printable c List.mem_cons_self
  have hcomment : c ≠ '#' := by rintro rfl; exact absurd h.lead (by decide)
  have hmark : c ≠ byteOrderMark := by rintro rfl; exact absurd hprint (by decide)
  have hword : startsWord c = true := by
    simp [startsWord, h.unbroken c List.mem_cons_self, h.word, hcomment, hmark]
  simp only [leadsPlain, hword, h.lead, endsWord_append_feed, h.mark]
  rfl

/-- A text that may stand plain is read back. -/
theorem leads_plain (hfits : fitsPlain text = true) (hp : margin < p.column) (hcount : count ≤ margin)
    (hnext : opensLine next = true) :
    ∃ s', Leads (standing (' ' :: (text ++ '\n' :: (List.replicate count ' ' ++ next))) p margin outer
          false tokens) s'
      ∧ Before true count next margin outer (.scalar .plain text :: tokens) s' := by
  cases text with
  | nil => cases hfits
  | cons c more =>
    have hplain := @leadsPlain_of_fitsPlain (List.replicate count ' ' ++ next) c more hfits
    have hstart : startsWord c = true := by
      simp only [leadsPlain, Bool.and_eq_true] at hplain
      exact hplain.1.1
    rw [List.cons_append]
    refine leads_of_readToken hstart (by omega) fun q hq => ?_
    obtain ⟨p', hcolumn, hread⟩ := @readPlain_text next q (margin + 1) (c :: more) count hfits
      (by omega) (by omega) (by omega) hnext
    refine ⟨standing next p' margin outer true (.scalar .plain (c :: more) :: tokens), ?_, ?_, ?_⟩
    · rw [readToken_plain hplain (Or.inl (by omega)), readPlainScalar_standing]
      rw [List.cons_append] at hread
      rw [hread]
      rfl
    · simp only [standing, List.length_append, List.length_cons]
      omega
    · rw [← hcolumn]
      exact before_line hnext

/-- What a reader of quoted scalars comes to is read as a token. -/
theorem readToken_quoted {single : Bool} {r : Stretch}
    (hread : (if single then readSingle [] .none (p.right 1) rest
      else readDouble [] .none none (p.right 1) rest) = some r) :
    (standing ((if single then '\'' else '"') :: rest) p indent outer false tokens).readToken
      = some (standing r.rest r.position indent outer false
          (.scalar (if single then .singleQuoted else .doubleQuoted) r.text :: tokens)) := by
  have htoken : (standing ((if single then '\'' else '"') :: rest) p indent outer false tokens).readToken
      = (standing ((if single then '\'' else '"') :: rest) p indent outer false
          tokens).readQuotedScalar single := by
    unfold readToken
    cases single <;> simp [standing, startsMarker_cons_of_ne]
  rw [htoken]
  cases single with
  | true =>
    have hsingle : readSingle [] .none (p.right 1) rest = some r := hread
    simp [readQuotedScalar, readCandidate, noteCandidate, standing, hsingle, accept, emit]
  | false =>
    have hdouble : readDouble [] .none none (p.right 1) rest = some r := hread
    simp [readQuotedScalar, readCandidate, noteCandidate, standing, hdouble, accept, emit]

/-- So is what a reader of blocks comes to; behind a block a line starts. -/
theorem readToken_block {r : Stretch} (hread : readBlockScalar true indent (p.right 1) rest = some r) :
    (standing ('|' :: rest) p indent outer false tokens).readToken
      = some (standing r.rest r.position indent outer true (.scalar .literal r.text :: tokens)) := by
  unfold readToken
  simp [standing, startsMarker_cons_of_ne, inFlow, readLines, dropCandidate, hread, accept, emit]

/-- Behind a closing quote the line ends. -/
theorem leads_quoted {single : Bool} {body : List Char} (hp : margin ≤ p.column)
    (hnext : opensLine next = true)
    (hread : ∀ q : Position, 0 < q.column → ∃ q',
      (if single then readSingle [] .none q (body ++ '\n' :: (List.replicate count ' ' ++ next))
        else readDouble [] .none none q (body ++ '\n' :: (List.replicate count ' ' ++ next)))
      = some ⟨text, q', '\n' :: (List.replicate count ' ' ++ next)⟩) :
    ∃ s', Leads (standing (' ' :: (if single then '\'' else '"')
          :: (body ++ '\n' :: (List.replicate count ' ' ++ next))) p margin outer false tokens) s'
      ∧ Before true count next margin outer
          (.scalar (if single then .singleQuoted else .doubleQuoted) text :: tokens) s' := by
  have hstart : startsWord (if single then '\'' else '"') = true := by cases single <;> decide
  refine leads_of_readToken hstart (by omega) fun q _ => ?_
  obtain ⟨q', hq'⟩ := hread (q.right 1) (Nat.succ_pos _)
  refine ⟨_, readToken_quoted hq', ?_, before_feed hnext⟩
  simp only [standing, List.length_append, List.length_cons]
  omega

/-- The mark of a block of lines is read with the whole block. -/
theorem leads_block (hfits : fitsBlock text = true) (hne : text ≠ []) (hp : margin ≤ p.column)
    (hcount : count ≤ margin) (hnext : opensLine next = true) :
    ∃ s', Leads (standing (' ' :: (block (margin + 2) text
          ++ ((if endsLine false text then [] else ['\n']) ++ (List.replicate count ' ' ++ next)))) p
          margin outer false tokens) s'
      ∧ Before true count next margin outer (.scalar .literal text :: tokens) s' := by
  have hwritten : ∀ rest, block (margin + 2) text ++ rest
      = '|' :: ((block (margin + 2) text).drop 1 ++ rest) := fun _ => rfl
  rw [hwritten]
  refine leads_of_readToken (by decide) (by omega) fun q _ => ?_
  obtain ⟨p', hcolumn, hread⟩ := @readBlockScalar_block (q.right 1) next text margin count hfits hne
    (by omega) hnext
  refine ⟨standing next p' margin outer true (.scalar .literal text :: tokens), ?_, ?_, ?_⟩
  · exact readToken_block hread
  · simp only [standing, List.length_append]
    omega
  · rw [← hcolumn]
    exact before_line hnext

/-- **Every text is read back from its scalar**, whichever of the four forms it has.  The cases are the
    forms, and what ends the line differs for the block only. -/
theorem leads_scalar (text : List Char) (hp : margin < p.column) (hcount : count ≤ margin)
    (hnext : opensLine next = true) : ∃ s',
    Leads (standing (' ' :: (scalar (margin + 2) text
          ++ (lineFeed text ++ (List.replicate count ' ' ++ next)))) p margin outer false tokens) s'
      ∧ Before true count next margin outer (.scalar (styleOf text) text :: tokens) s' := by
  unfold scalar lineFeed styleOf
  rcases formOf_cases text with ⟨hform, hfits⟩ | ⟨hform, hfits, hfeed⟩ | hform | ⟨hform, hfits, hne⟩
  · obtain ⟨s', hleads, hbefore⟩ := @leads_plain text next p outer tokens margin count hfits hp hcount hnext
    simp only [hform]
    exact ⟨s', hleads, hbefore⟩
  · obtain ⟨s', hleads, hbefore⟩ := @leads_quoted text next p outer tokens margin count true
      ((single (margin + 2) text).drop 1) (by omega) hnext
      fun q hq => readSingle_single (Nat.succ_pos _) hq hfits hfeed _
    simp only [hform]
    exact ⟨s', hleads, hbefore⟩
  · obtain ⟨s', hleads, hbefore⟩ := @leads_quoted text next p outer tokens margin count false
      ((double text).drop 1) (by omega) hnext fun q hq => readDouble_double hq text _
    simp only [hform]
    exact ⟨s', hleads, hbefore⟩
  · obtain ⟨s', hleads, hbefore⟩ := @leads_block text next p outer tokens margin count hfits hne
      (by omega) hcount hnext
    simp only [hform, true_and]
    exact ⟨s', hleads, hbefore⟩

end

end

end QuorumRescue.Yaml.Lexer
