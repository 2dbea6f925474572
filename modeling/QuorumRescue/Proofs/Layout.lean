/-
  The registry's texts, as tokens.

  The registry's files are printed by the program and read by a lexer that knows nothing about members.
  This file leads the lexer through such a text, for any members, and says what tokens it finds.
  Reading values out of the tokens is another matter.

  1. **The texts.** A record is three lines, each of a key and a scalar; a list puts a dash before every
     record (`fieldLines_append`, `fieldLines_item`).  Nothing is asked of the members: an id is a
     numeral, a role one of three words, and an address may be any text at all, since every text is read
     back from its scalar.

  2. **The tokens** are told without the lexer: `fieldTokens` of a line, `recordTokens` of a record,
     `itemTokens` of an item of the list.

  3. **The crux** is what has to be known between two lines, so that the next one can be read: where it
     stands, which blocks are open, and which tokens have been told.  `Before` keeps it, and each lemma
     leads from one such point to the next (`Leads`): from a key to its scalar (`leads_keyText`), from
     line to line (`leads_wordField`, `leads_textField`), from record to record (`leads_record`) and
     from item to item (`leads_items`).  The last is an induction along the list.

  4. **The results.** Where the lexer comes to the end of the text, it closes all blocks
     (`tokens_of_leads`), and has told the tokens of all records in order (`tokens_infoText`,
     `tokens_clusterText`).
-/
import QuorumRescue.Proofs.Json.Leaves
import QuorumRescue.Proofs.Yaml.Values
import QuorumRescue.Registry.Layout

namespace QuorumRescue.Registry

open QuorumRescue.Yaml QuorumRescue.Yaml.Lexer

/-! ## Lines -/

/-- The line of a scalar is ended by the scalar itself or by a line feed. -/
theorem endLine_scalar (indent : Nat) (text : List Char) :
    endLine (scalar indent text) = scalar indent text ++ lineFeed text := by
  unfold endLine lineFeed
  by_cases h : (scalar indent text).getLast?.any isBreak = true
  · rw [if_pos h, if_pos ((getLast?_scalar indent text).1 h), List.append_nil]
  · rw [if_neg h, if_neg fun hform => h ((getLast?_scalar indent text).2 hform)]

theorem isPlainChar_digitChar {d : Nat} (h : d < 10) : isPlainChar (Numeral.digitChar d) = true := by
  have all : ∀ d < 10, isPlainChar (Numeral.digitChar d) = true := by decide
  exact all d h

theorem isPlainChar_decimal (n : Nat) : (Numeral.decimal n).all isPlainChar = true := by
  rw [List.all_eq_true]
  intro c hc
  obtain ⟨d, hd, rfl⟩ := Json.exists_digit_of_mem_decimal hc
  exact isPlainChar_digitChar hd

theorem isPlainChar_word (role : Role) : role.word.toList.all isPlainChar = true := by
  cases role <;> decide

theorem word_ne_nil (role : Role) : role.word.toList ≠ [] := by cases role <;> decide

/-- The key of a line, with its colon. -/
def keyText (name : List Char) (rest : List Char) : List Char := name ++ ':' :: ' ' :: rest

def idKey : List Char := ['i', 'd']
def addressKey : List Char := ['a', 'd', 'd', 'r', 'e', 's', 's']
def roleKey : List Char := ['r', 'o', 'l', 'e']

/-- A record, as a row of keys and scalars. -/
theorem fieldLines_append (margin : Nat) (member : Member) (next : List Char) :
    fieldLines [] margin member ++ next
      = keyText idKey (Numeral.decimal member.id.toNat ++ '\n' :: (List.replicate margin ' '
          ++ keyText addressKey (scalar (margin + 2) member.address.toList
            ++ (lineFeed member.address.toList ++ (List.replicate margin ' '
              ++ keyText roleKey (member.role.word.toList
                ++ '\n' :: (List.replicate 0 ' ' ++ next))))))) := by
  simp [fieldLines, endLine_scalar, keyText, idKey, addressKey, roleKey]

/-! ## Records as tokens -/

/-- The tokens of a key and its scalar. -/
def fieldTokens (name : List Char) (style : Style) (text : List Char) : List Token :=
  [.key, .scalar .plain name, .value, .scalar style text]

/-- The tokens of a record, up to the end of its block. -/
def recordTokens (member : Member) : List Token :=
  .mappingBlock :: (fieldTokens idKey .plain (Numeral.decimal member.id.toNat)
    ++ fieldTokens addressKey (styleOf member.address.toList) member.address.toList
    ++ fieldTokens roleKey .plain member.role.word.toList)

/-- A word that can be a key: letters and digits, and not too many of them. -/
def isKey (name : List Char) : Bool :=
  name.all isPlainChar && !name.isEmpty && decide (name.length ≤ longestKey)

section

variable {s : Lexer} {next : List Char} {indent : Int} {outer : List Int} {tokens : List Token}
  {column count : Nat} {name : List Char}

/-- The blocks that are open behind a key, and the tokens before it. -/
def outerOf (indent : Int) (column : Nat) (outer : List Int) : List Int :=
  if indent < column then indent :: outer else outer

def openedFor (indent : Int) (column : Nat) (tokens : List Token) : List Token :=
  if indent < column then .mappingBlock :: tokens else tokens

/-- **A key is read up to its colon**, and opens a block if it stands further in than the last. -/
theorem leads_keyText {rest : List Char}
    (h : Before true column (keyText name rest) indent outer tokens s) (hkey : isKey name = true)
    (hin : indent ≤ column) : ∃ p : Position, column < p.column
      ∧ Leads s (standing (' ' :: rest) p column (outerOf indent column outer) false
        (.value :: .scalar .plain name :: .key :: openedFor indent column tokens)) := by
  simp only [isKey, Bool.and_eq_true, Bool.not_eq_true', List.isEmpty_eq_false_iff,
    decide_eq_true_eq] at hkey
  obtain ⟨⟨hname, hne⟩, hshort⟩ := hkey
  exact leads_key h hname hne hshort hin

/-- A line with a word of letters and digits. -/
theorem leads_wordField {word : List Char}
    (h : Before true column (keyText name (word ++ '\n' :: (List.replicate count ' ' ++ next))) indent
      outer tokens s) (hkey : isKey name = true) (hin : indent ≤ column)
    (hword : word.all isPlainChar = true) (hne : word ≠ []) (hcount : count ≤ column)
    (hnext : opensLine next = true) : ∃ s', Leads s s'
      ∧ Before true count next column (outerOf indent column outer)
        ((fieldTokens name .plain word).reverse ++ openedFor indent column tokens) s' := by
  obtain ⟨p, hp, hvalue⟩ := leads_keyText h hkey hin
  obtain ⟨s', hleads, hbefore⟩ := @leads_word next p (outerOf indent column outer)
    (.value :: .scalar .plain name :: .key :: openedFor indent column tokens) word column count hword hne
    (Nat.le_of_lt hp) hcount hnext
  exact ⟨s', hvalue.trans hleads, hbefore⟩

/-- A line, or more, with any text. -/
theorem leads_textField {text : List Char}
    (h : Before true column (keyText name (scalar (column + 2) text
      ++ (lineFeed text ++ (List.replicate count ' ' ++ next)))) indent outer tokens s)
    (hkey : isKey name = true) (hin : indent ≤ column) (hcount : count ≤ column)
    (hnext : opensLine next = true) : ∃ s', Leads s s'
      ∧ Before true count next column (outerOf indent column outer)
        ((fieldTokens name (styleOf text) text).reverse ++ openedFor indent column tokens) s' := by
  obtain ⟨p, hp, hvalue⟩ := leads_keyText h hkey hin
  obtain ⟨s', hleads, hbefore⟩ := @leads_scalar next p (outerOf indent column outer)
    (.value :: .scalar .plain name :: .key :: openedFor indent column tokens) column count text hp hcount
    hnext
  exact ⟨s', hvalue.trans hleads, hbefore⟩

/-- **A record is read to its tokens**, up to the line behind it.  The first key opens a block, and the
    other two stand in it, at the same column. -/
theorem leads_record {margin : Nat} {member : Member} (hin : indent < margin)
    (h : Before true margin (fieldLines [] margin member ++ next) indent outer tokens s)
    (hnext : opensLine next = true) : ∃ s', Leads s s'
      ∧ Before true 0 next margin (indent :: outer) ((recordTokens member).reverse ++ tokens) s' := by
  rw [fieldLines_append] at h
  -- the id opens the mapping, and the other keys go on with it
  have hopen : outerOf indent margin outer = indent :: outer ∧ openedFor indent margin tokens
      = .mappingBlock :: tokens := ⟨if_pos hin, if_pos hin⟩
  have hsame : ∀ outer tokens, outerOf (margin : Int) margin outer = outer
      ∧ openedFor (margin : Int) margin tokens = tokens := fun _ _ =>
    ⟨if_neg (Int.lt_irrefl _), if_neg (Int.lt_irrefl _)⟩
  obtain ⟨s1, hid, h1⟩ := leads_wordField h (by decide) (Int.le_of_lt hin)
    (isPlainChar_decimal member.id.toNat) (Numeral.decimal_ne_nil _) (Nat.le_refl _) (by rfl)
  rw [hopen.1, hopen.2] at h1
  obtain ⟨s2, haddress, h2⟩ := leads_textField h1 (by decide) (Int.le_refl _) (Nat.le_refl _) (by rfl)
  rw [(hsame _ []).1, (hsame [] _).2] at h2
  obtain ⟨s3, hrole, h3⟩ := leads_wordField h2 (by decide) (Int.le_refl _)
    (isPlainChar_word member.role) (word_ne_nil member.role) (Nat.zero_le _) hnext
  rw [(hsame _ []).1, (hsame [] _).2] at h3
  refine ⟨s3, hid.trans (haddress.trans hrole), ?_⟩
  simpa [recordTokens] using h3

end

/-! ## Texts as tokens -/

/-- The tokens of one item of the list. -/
def itemTokens (member : Member) : List Token := .dash :: (recordTokens member ++ [.blockEnd])

theorem fieldLines_item (member : Member) :
    fieldLines ['-', ' '] 2 member = '-' :: ' ' :: fieldLines [] 2 member := rfl

theorem exists_cons_fieldLines (margin : Nat) (member : Member) :
    ∃ rest, fieldLines [] margin member = 'i' :: rest := ⟨_, rfl⟩

/-- The lines of items start with a dash, if there are any. -/
theorem opensLine_items (members : List Member) :
    opensLine (members.flatMap (fieldLines ['-', ' '] 2)) = true := by
  cases members with
  | nil => rfl
  | cons member more => rfl

/-- One item is read to its tokens, if its dash opens the list or goes on with it. -/
theorem leads_item {s : Lexer} {next : List Char} {member : Member} {indent indent' : Int}
    {outer outer' : List Int} {tokens tokens' : List Token}
    (h : Before true 0 (fieldLines ['-', ' '] 2 member ++ next) indent outer tokens s)
    (hdedent : ∀ (text : List Char) (p : Position), (standing text p indent outer true tokens).dedent 0
      = standing text p indent' outer' true tokens')
    (hin : indent' ≤ 0) (hnext : opensLine next = true) : ∃ s', Leads s s'
      ∧ Before true 0 next (2 : Nat) (0 :: if indent' < 0 then indent' :: outer' else outer')
        ((recordTokens member).reverse ++ .dash :: if indent' < 0 then .sequenceBlock :: tokens' else tokens')
        s' := by
  obtain ⟨rest, hrest⟩ := exists_cons_fieldLines 2 member
  rw [fieldLines_item, hrest, List.cons_append, List.cons_append, List.cons_append] at h
  obtain ⟨s1, hdash, h1⟩ := leads_dash h (by decide) (hdedent _) hin
  rw [← List.cons_append, ← hrest] at h1
  obtain ⟨s2, hrecord, h2⟩ := leads_record (by decide) h1 hnext
  exact ⟨s2, hdash.trans hrecord, h2⟩

/-- **The items of a list are read to their tokens**, from behind a first one to the end of the text.  The
    induction is along the list; each dash closes the block of the record before it. -/
theorem leads_items {s : Lexer} {members : List Member} {tokens : List Token}
    (h : Before true 0 (members.flatMap (fieldLines ['-', ' '] 2)) (2 : Nat) [0, -1] tokens s) :
    ∃ s' tokens', Leads s s' ∧ Before true 0 [] (2 : Nat) [0, -1] tokens' s'
      ∧ tokens'.reverse ++ [.blockEnd]
        = tokens.reverse ++ .blockEnd :: members.flatMap itemTokens := by
  induction members generalizing s tokens with
  | nil => exact ⟨s, tokens, .refl s, h, rfl⟩
  | cons member more ih =>
    rw [List.flatMap_cons] at h
    -- the dash closes the record before it and goes on with the list
    obtain ⟨s1, hitem, h1⟩ := @leads_item s _ member 2 0 [0, -1] [-1] tokens (.blockEnd :: tokens) h
      (fun _ _ => rfl) (Int.le_refl 0) (opensLine_items more)
    obtain ⟨s2, tokens', hmore, h2, htokens⟩ := ih h1
    refine ⟨s2, tokens', hitem.trans hmore, h2, ?_⟩
    rw [htokens]
    simp [itemTokens]

/-! ## Whole texts -/

theorem isReadable_of_isPlainChar {c : Char} (h : isPlainChar c = true) : isReadable c = true := by
  simp only [isPlainChar, Bool.or_eq_true, Bool.and_eq_true, decide_eq_true_eq] at h
  simp only [isReadable, Bool.or_eq_true, Bool.and_eq_true, beq_iff_eq, decide_eq_true_eq]
  omega

/-- The lines of a member have readable characters only. -/
theorem isReadable_fieldLines {first : List Char} (margin : Nat) (member : Member)
    (hfirst : first.all isReadable = true) : (fieldLines first margin member).all isReadable = true := by
  have hplain : ∀ {word : List Char}, word.all isPlainChar = true → word.all isReadable = true := by
    intro word hword
    rw [List.all_eq_true] at hword ⊢
    exact fun c hc => isReadable_of_isPlainChar (hword c hc)
  have hblanks : (List.replicate margin ' ').all isReadable = true := by
    rw [List.all_eq_true]
    exact fun c hc => isReadable_of_mem_replicate hc
  have haddress : (scalar (margin + 2) member.address.toList).all isReadable = true := by
    rw [List.all_eq_true]
    exact fun c hc => isReadable_of_mem_scalar hc
  have hfeed : (lineFeed member.address.toList).all isReadable = true := by
    unfold lineFeed
    split <;> rfl
  simp only [fieldLines, endLine_scalar, List.all_append, hfirst, hblanks, haddress, hfeed,
    hplain (isPlainChar_decimal member.id.toNat), hplain (isPlainChar_word member.role), Bool.true_and,
    Bool.and_true]
  decide

/-- **A text that leads to its end is read to its end**, and all blocks are closed there.  The steps that
    were counted on the way are no more than the text has characters, so the lexer has not run out of them.
    -/
theorem tokens_of_leads {text : List Char} {s : Lexer} {column : Nat} {indent : Int} {outer : List Int}
    {read : List Token} (hreadable : text.all isReadable = true) (hleads : Leads (start text) s)
    (h : Before true column [] indent outer read s) (hnested : Nested indent outer) :
    tokens text = (read.reverse ++ List.replicate outer.length .blockEnd ++ [.streamEnd], true) := by
  obtain ⟨steps, hsteps, hrun⟩ := hleads
  -- one step more than characters is enough to read to the end
  have hlength : steps ≤ text.length := by
    have : (start text).rest.length = text.length := rfl
    omega
  obtain ⟨spare, hspare⟩ := Nat.exists_eq_add_of_le hlength
  have hfuel : text.length + 2 = spare + 2 + steps := by omega
  rw [Yaml.tokens, if_pos hreadable, hfuel, hrun, run_end h hnested]
  simp

/-- **The tokens of a record** that stands alone. -/
theorem tokens_infoText (member : Member) :
    tokens (infoText member) = (recordTokens member ++ [.blockEnd, .streamEnd], true) := by
  obtain ⟨rest, hrest⟩ := exists_cons_fieldLines 0 member
  have hstart : Before true 0 (fieldLines [] 0 member ++ []) (-1) [] [] (start (infoText member)) := by
    have hline := @before_line (fieldLines [] 0 member ++ []) ⟨0, 0, 0⟩ (-1) [] [] (by rw [hrest]; rfl)
    rw [List.append_nil] at hline ⊢
    exact hline
  obtain ⟨s, hleads, hend⟩ := leads_record (by decide) hstart rfl
  have htokens := tokens_of_leads (isReadable_fieldLines 0 member rfl) hleads hend
    (.block (by decide) .base)
  rw [infoText, htokens]
  simp

/-- **The tokens of a list** that is not empty. -/
theorem tokens_clusterText {members : List Member} (hne : members ≠ []) :
    tokens (clusterText members)
      = (.sequenceBlock :: members.flatMap itemTokens ++ [.blockEnd, .streamEnd], true) := by
  obtain ⟨member, more, rfl⟩ := List.exists_cons_of_ne_nil hne
  have htext : clusterText (member :: more) = (member :: more).flatMap (fieldLines ['-', ' '] 2) := rfl
  have hstart : Before true 0 (fieldLines ['-', ' '] 2 member ++ more.flatMap (fieldLines ['-', ' '] 2))
      (-1) [] [] (start (clusterText (member :: more))) :=
    @before_line _ ⟨0, 0, 0⟩ (-1) [] [] (opensLine_items (member :: more))
  obtain ⟨s1, hitem, h1⟩ := @leads_item _ _ member (-1) (-1) [] [] [] [] hstart (fun _ _ => rfl)
    (by decide) (opensLine_items more)
  obtain ⟨s2, read, hmore, h2, hread⟩ := leads_items h1
  have hreadable : (clusterText (member :: more)).all isReadable = true := by
    rw [htext, List.all_flatMap, List.all_eq_true]
    exact fun m _ => isReadable_fieldLines 2 m rfl
  have htokens := tokens_of_leads hreadable (hitem.trans hmore) h2
    (.block (by decide) (.block (by decide) .base))
  have hends : read.reverse ++ List.replicate 2 .blockEnd ++ [.streamEnd]
      = (read.reverse ++ [.blockEnd]) ++ [.blockEnd, .streamEnd] := by simp
  rw [htokens]
  show (read.reverse ++ List.replicate 2 .blockEnd ++ [.streamEnd], true) = _
  rw [hends, hread]
  simp [itemTokens]

end QuorumRescue.Registry
