/-
  What counts as a yes.

  A recovery goes on only after a yes, and it cannot be undone.  So it has to be known which inputs are
  taken for one, over all that can be typed: any bytes, of any script, with anything behind the first
  line.  The program cuts the first line off the input, decodes it, trims it, makes it small, and
  compares it with two words.  This file says what these steps come to, without any of them.

  1. **The line.** `FirstLine` has the line, with its line feed, and what is left behind it; the last
     line need not be ended.  Cutting finds exactly these two (`firstLine_eq`), so asking takes one line
     and no more, and what follows it has no say.

  2. **The text.** The bytes of a line are a text's if they are its characters in UTF-8, one after the
     other (`Text.Encodes`).  Decoding succeeds exactly for such bytes and gives that text
     (`Text.fromUTF8?_eq_some_iff`).  So asking fails exactly where the line is no text, and not for
     what the text says.

  3. **The word.** `Consents` says that a text is white space, a word, and white space, where the word
     spells `y` or `yes` letter by letter, small or large (`Text.Spells`).  It says so of the text as it
     was typed; neither trimming nor the table of small letters occurs in it.

  4. **The crux** is that trimming and making small do not get in each other's way (`isYes_iff`).  What
     trimming leaves is known by what it is made of: a text without white space at its ends that has
     white space around it.  A word of letters is such a text, so it is what is left, and no letter of
     another script becomes one of a yes, since the words have no `k` (`isSmall_of_yes`).  That the
     table leaves out the second shape of the sigma makes no difference either
     (`isYes_iff_of_sameButSigma`).

  5. **The results.** `typed_yes_counts` has the question that is written, the line that is taken, and
     the three answers with their conditions.  For the program, `Options.fst_start_of_unconfirmed` says
     what a yes is needed for: where somebody has to be asked, a run without one leaves all files as
     they are.
-/
import QuorumRescue.CommandLine
import QuorumRescue.Proofs.Header
import QuorumRescue.Proofs.Json.Leaves
import QuorumRescue.Proofs.Letters

namespace QuorumRescue

namespace Text

variable {text : List Char}

/-! ## A word and the white space around it -/

theorem tight_of_letters (h : ∀ c ∈ text, 0x41 ≤ c.toNat ∧ c.toNat ≤ 0x7A) : Tight text := by
  have hblack : ∀ c ∈ text, ¬ isWhite c := by
    intro c hc
    obtain ⟨hlow, hhigh⟩ := h c hc
    simp only [isWhite, Bool.or_eq_true, Bool.and_eq_true, decide_eq_true_eq, beq_iff_eq]
    omega
  exact ⟨fun c hc => hblack c (List.mem_of_mem_head? hc), fun c hc => hblack c (List.mem_of_getLast? hc)⟩

/-! ## Texts and their bytes -/

/-- The bytes are the text's, in UTF-8. -/
def Encodes (bytes : List UInt8) (text : List Char) : Prop := bytes = text.flatMap String.utf8EncodeChar

variable {bytes : List UInt8}

/-- Bytes are the UTF-8 of a text exactly if they encode it. -/
theorem eq_toUTF8_iff {text : String} :
    (⟨bytes.toArray⟩ : ByteArray) = text.toUTF8 ↔ Encodes bytes text.toList := by
  rw [Json.toUTF8_eq, ByteArray.mk.injEq, Array.mk.injEq]
  rfl

/-- **Decoding finds the text whose bytes these are**, and fails if there is none. -/
theorem fromUTF8?_eq_some_iff {text : String} :
    String.fromUTF8? ⟨bytes.toArray⟩ = some text ↔ Encodes bytes text.toList := by
  rw [← eq_toUTF8_iff]
  constructor
  · intro h
    unfold String.fromUTF8? at h
    split at h
    · obtain rfl := Option.some.inj h
      rfl
    · cases h
  · intro h
    rw [h, Json.fromUTF8?_toUTF8]

end Text

namespace Prompt

variable {question : String} {input line rest : List UInt8} {said : List Char} {yes : Bool}

/-! ## The first line -/

/-- The first line of an input, with the line feed that ends it, and what is left.  The last line need not
    be ended. -/
inductive FirstLine : (input line rest : List UInt8) → Prop
  | ended {line rest : List UInt8} (unbroken : 10 ∉ line) :
      FirstLine (line ++ 10 :: rest) (line ++ [10]) rest
  | last {line : List UInt8} (unbroken : 10 ∉ line) : FirstLine line line []

/-- Cutting stops behind the first line feed.  The induction is along what stands before it. -/
theorem firstLine_of_ended (h : 10 ∉ line) : firstLine (line ++ 10 :: rest) = (line ++ [10], rest) := by
  induction line with
  | nil => rfl
  | cons b more ih =>
    rw [List.mem_cons, not_or] at h
    rw [List.cons_append, firstLine, if_neg (Ne.symm h.1), ih h.2]
    rfl

/-- Without a line feed, everything is the first line. -/
theorem firstLine_of_last (h : 10 ∉ line) : firstLine line = (line, []) := by
  induction line with
  | nil => rfl
  | cons b more ih =>
    rw [List.mem_cons, not_or] at h
    rw [firstLine, if_neg (Ne.symm h.1), ih h.2]

theorem exists_firstLine (input : List UInt8) : ∃ line rest, FirstLine input line rest := by
  by_cases hfeed : 10 ∈ input
  · obtain ⟨before, after, rfl, hbefore⟩ := List.eq_append_cons_of_mem hfeed
    exact ⟨before ++ [10], after, .ended hbefore⟩
  · exact ⟨input, [], .last hfeed⟩

/-- **Cutting finds the first line and what is left**, so there is only one.  What is left is handed back as
    it was, for whoever reads next. -/
theorem firstLine_eq (h : FirstLine input line rest) : firstLine input = (line, rest) := by
  cases h with
  | ended unbroken => exact firstLine_of_ended unbroken
  | last unbroken => exact firstLine_of_last unbroken

/-! ## The answer in a line -/

/-- The words for a yes. -/
def yesWords : List (List Char) := [['y'], ['y', 'e', 's']]

/-- A yes, each letter of it small or large, with nothing but white space around it. -/
def Consents (said : List Char) : Prop :=
  ∃ before word after, said = before ++ word ++ after
    ∧ (∀ c ∈ before, Text.isWhite c) ∧ (∀ c ∈ after, Text.isWhite c)
    ∧ ∃ yes ∈ yesWords, Text.Spells yes word

/-- The words are made of small letters, and none of them is the one that the sign of the kelvin becomes. -/
theorem isSmall_of_yes : ∀ yes ∈ yesWords, ∀ small ∈ yes, Text.IsSmall small ∧ small ≠ 'k' := by
  have hy : Text.IsSmall 'y' ∧ 'y' ≠ 'k' := ⟨⟨by decide, by decide⟩, by decide⟩
  have he : Text.IsSmall 'e' ∧ 'e' ≠ 'k' := ⟨⟨by decide, by decide⟩, by decide⟩
  have hs : Text.IsSmall 's' ∧ 's' ≠ 'k' := ⟨⟨by decide, by decide⟩, by decide⟩
  simp only [yesWords, List.forall_mem_cons]
  exact ⟨⟨hy, nofun⟩, ⟨hy, he, hs, nofun⟩, nofun⟩

theorem letters_of_yes {word : List Char} (h : ∃ yes ∈ yesWords, Text.Spells yes word) :
    ∀ c ∈ word, 0x41 ≤ c.toNat ∧ c.toNat ≤ 0x7A := by
  obtain ⟨yes, hyes, hword⟩ := h
  exact Text.letters_of_spells (fun small hsmall => (isSmall_of_yes yes hyes small hsmall).1) hword

/-- A line is a yes if it is one of the words when it has been trimmed and made small. -/
theorem isYes_iff_mem : isYes said = true ↔ Text.lower (Text.trim said) ∈ yesWords := by
  simp [isYes, yesWords]

/-- The answer is the same whatever shape each sigma is given. -/
theorem isYes_iff_of_sameButSigma {shaped : List Char}
    (h : Text.SameButSigma (Text.lower (Text.trim said)) shaped) : isYes said = true ↔ shaped ∈ yesWords := by
  have hshape : ∀ yes ∈ yesWords, (shaped = yes ↔ Text.lower (Text.trim said) = yes) := by
    intro yes hyes
    exact Text.eq_iff_of_sameButSigma h fun small hsmall => (isSmall_of_yes yes hyes small hsmall).1
  rw [isYes_iff_mem]
  constructor
  · intro hlower
    rwa [(hshape _ hlower).2 rfl]
  · intro hshaped
    rwa [(hshape _ hshaped).1 rfl]

/-- The table of small letters is not needed: what is left of a line spells the word. -/
theorem isYes_iff_trim : isYes said = true ↔ ∃ yes ∈ yesWords, Text.Spells yes (Text.trim said) := by
  rw [isYes_iff_mem]
  constructor
  · intro hlower
    exact ⟨_, hlower, (Text.lower_eq_iff (isSmall_of_yes _ hlower)).1 rfl⟩
  · rintro ⟨yes, hyes, hspells⟩
    rwa [(Text.lower_eq_iff (isSmall_of_yes yes hyes)).2 hspells]

/-- **A line is a yes exactly if it is a word for it with white space around.** Neither the order in which a
    line is trimmed and made small nor the table of small letters can be told from the outside. -/
theorem isYes_iff : isYes said = true ↔ Consents said := by
  rw [isYes_iff_trim]
  constructor
  · intro hyes
    obtain ⟨before, after, hsaid, hbefore, hafter, -⟩ := Text.trim_eq_iff.1 (rfl : Text.trim said = _)
    exact ⟨before, Text.trim said, after, hsaid, hbefore, hafter, hyes⟩
  · rintro ⟨before, word, after, hsaid, hbefore, hafter, hyes⟩
    -- a word of letters is what the trimming leaves
    have htight : Text.Tight word := Text.tight_of_letters (letters_of_yes hyes)
    rwa [Text.trim_eq_iff.2 ⟨before, after, hsaid, hbefore, hafter, htight⟩]

/-- A line that is a text is answered by the text. -/
theorem answer_of_encodes (h : Text.Encodes line said) : answer line = .ok (isYes said) := by
  have hdecoded : String.fromUTF8? ⟨line.toArray⟩ = some (String.ofList said) := by
    rwa [Text.fromUTF8?_eq_some_iff, String.toList_ofList]
  rw [answer, hdecoded]
  show Except.ok (isYes (String.ofList said).toList) = _
  rw [String.toList_ofList]

/-- **An answer is that of the line's text**, and it is yes exactly if the text consents. -/
theorem answer_eq_ok_iff :
    answer line = .ok yes ↔ ∃ said, Text.Encodes line said ∧ (yes = true ↔ Consents said) := by
  constructor
  · intro h
    unfold answer at h
    split at h
    next text hdecoded =>
      obtain rfl := Except.ok.inj h
      exact ⟨text.toList, Text.fromUTF8?_eq_some_iff.1 hdecoded, isYes_iff⟩
    next => cases h
  · rintro ⟨said, hsaid, hyes⟩
    rw [answer_of_encodes hsaid]
    exact congrArg Except.ok (Bool.eq_iff_iff.2 (isYes_iff.trans hyes.symm))

/-- **There is no answer exactly if the line is no text.** -/
theorem exists_answer_eq_error_iff :
    (∃ fault, answer line = .error fault) ↔ ¬ ∃ said, Text.Encodes line said := by
  constructor
  · rintro ⟨fault, hfault⟩ ⟨said, hsaid⟩
    rw [answer_of_encodes hsaid] at hfault
    cases hfault
  · intro hnone
    cases hanswer : answer line with
    | error fault => exact ⟨fault, rfl⟩
    | ok yes =>
      obtain ⟨said, hsaid, -⟩ := answer_eq_ok_iff.1 hanswer
      exact absurd ⟨said, hsaid⟩ hnone

/-! ## Asking -/

/-- What asking comes to, for an input that is told by its first line. -/
theorem ask_eq (h : FirstLine input line rest) :
    ask question input = ⟨text question, answer line, rest⟩ := by
  rw [ask, firstLine_eq h]

/-- **Only a typed yes on the first line counts.**  The question is written with its lead to the answer, and
    the first line is taken from the input and nothing else.  Asking fails exactly if the line is no
    text, and otherwise the answer is yes exactly if the text is one, but for white space around it.  It
    is the answer of every other input with this line, whatever is asked.  What is taken for a yes is in
    ASCII. -/
theorem typed_yes_counts (question : String) (input : List UInt8) :
    ∃ line, (ask question input).output = question ++ " [y/n] "
      ∧ FirstLine input line (ask question input).rest
      ∧ ((∃ fault, (ask question input).answer = .error fault) ↔ ¬ ∃ said, Text.Encodes line said)
      ∧ (∀ yes, (ask question input).answer = .ok yes ↔
          ∃ said, Text.Encodes line said ∧ (yes = true ↔ Consents said))
      ∧ (∀ asked other left, FirstLine other line left →
          (ask asked other).answer = (ask question input).answer)
      ∧ ∀ said, Text.Encodes line said → (ask question input).answer = .ok true →
          ∀ c ∈ Text.trim said, c.toNat < 128 := by
  obtain ⟨line, rest, hline⟩ := exists_firstLine input
  rw [ask_eq hline]
  refine ⟨line, rfl, hline, exists_answer_eq_error_iff, fun yes => answer_eq_ok_iff, ?_, ?_⟩
  · intro asked other left hother
    rw [ask_eq hother]
  · intro said hsaid hyes c hc
    have hanswer : answer line = .ok (isYes said) := answer_of_encodes hsaid
    have hletters := letters_of_yes (isYes_iff_trim.1 (Except.ok.inj (hanswer.symm.trans hyes)))
    have hhigh := (hletters c hc).2
    omega

/-- A yes in mixed letters, behind a wide space and before a carriage return, and bytes of no text on the
    next line. -/
def wideInput : List UInt8 := [0xE3, 0x80, 0x80, 0x79, 0x45, 0x73, 0x0D, 0x0A, 0xFF]

/-- The first line of it. -/
def wideText : List Char := [Char.ofNat 0x3000, 'y', 'E', 's', '\r', '\n']

/-- It is a yes, and so is its first line without the next. -/
theorem typed_yes_counts_wide :
    (ask "Ok?" wideInput).output = "Ok? [y/n] " ∧ (ask "Ok?" wideInput).rest = [0xFF]
      ∧ (ask "Ok?" wideInput).answer = .ok true ∧ (ask "Go on?" (wideInput.take 8)).answer = .ok true
      ∧ ∀ c ∈ Text.trim wideText, c.toNat < 128 := by
  obtain ⟨line, houtput, hfirst, -, hanswers, hothers, hascii⟩ := typed_yes_counts "Ok?" wideInput
  have hcut : (wideInput.take 8, [0xFF]) = (line, (ask "Ok?" wideInput).rest) := firstLine_eq hfirst
  obtain ⟨rfl, hrest⟩ := Prod.mk.inj hcut
  have hsaid : Text.Encodes (wideInput.take 8) wideText := by
    unfold Text.Encodes
    decide
  have hconsents : Consents wideText := by
    refine ⟨[Char.ofNat 0x3000], ['y', 'E', 's'], ['\r', '\n'], rfl, List.forall_mem_singleton.2 rfl,
      List.forall_mem_cons.2 ⟨rfl, List.forall_mem_singleton.2 rfl⟩, ['y', 'e', 's'],
      List.mem_cons_of_mem _ (List.mem_singleton_self _), ?_⟩
    exact .cons (.inl rfl) (.cons (.inr (by decide)) (.cons (.inl rfl) .nil))
  have hyes : (ask "Ok?" wideInput).answer = .ok true :=
    (hanswers true).2 ⟨wideText, hsaid, iff_of_true rfl hconsents⟩
  have hline : FirstLine (wideInput.take 8) (wideInput.take 8) [] :=
    FirstLine.ended (show 10 ∉ wideInput.take 7 by decide)
  refine ⟨houtput, hrest.symm, hyes, ?_, hascii wideText hsaid hyes⟩
  rw [hothers "Go on?" _ _ hline, hyes]

/-- The input begins with a line that is a yes. -/
def Agrees (input : List UInt8) : Prop :=
  ∃ line rest said, FirstLine input line rest ∧ Text.Encodes line said ∧ Consents said

/-- A question is answered with yes exactly if the input begins with a line that is one. -/
theorem ask_eq_true_iff : (ask question input).answer = .ok true ↔ Agrees input := by
  constructor
  · intro hyes
    obtain ⟨line, rest, hline⟩ := exists_firstLine input
    rw [ask_eq hline] at hyes
    obtain ⟨said, hsaid, hconsents⟩ := answer_eq_ok_iff.1 hyes
    exact ⟨line, rest, said, hline, hsaid, hconsents.1 rfl⟩
  · rintro ⟨line, rest, said, hline, hsaid, hconsents⟩
    rw [ask_eq hline]
    exact answer_eq_ok_iff.2 ⟨said, hsaid, iff_of_true rfl hconsents⟩

end Prompt

/-! ## What a yes is needed for -/

namespace CommandLine.Options

variable {options : Options} {world : World}

/-- A run is confirmed if it does no harm, if the yes was given in advance, and if it was typed. -/
theorem confirmed_eq_true_iff : options.confirmed world = .ok true ↔
    options.dryRun = true ∨ options.yes = true ∨ ∃ typed, world.typed = some typed ∧ Prompt.Agrees typed := by
  unfold confirmed consulted Prompt.consult
  cases options.dryRun with
  | true => exact iff_of_true rfl (.inl rfl)
  | false =>
    cases options.yes with
    | true => exact iff_of_true rfl (.inr (.inl rfl))
    | false =>
      cases world.typed with
      | none => simp
      | some typed =>
        show (Prompt.ask Prompt.warning typed).answer = .ok true ↔ _
        rw [Prompt.ask_eq_true_iff]
        simp

/-- **Without a yes the files stay as they are**, unless nobody was to be asked: a dry run and a run with
    the yes in advance go on without a question. -/
theorem fst_start_of_unconfirmed (hdry : options.dryRun = false) (hyes : options.yes = false)
    (hno : ∀ typed, world.typed = some typed → ¬ Prompt.Agrees typed) (tree : Tree) :
    (options.start world tree).1 = tree := by
  have hunconfirmed : options.confirmed world ≠ .ok true := by
    rw [Ne, confirmed_eq_true_iff, hdry, hyes]
    rintro (h | h | ⟨typed, htyped, hagrees⟩)
    · cases h
    · cases h
    · exact hno typed htyped hagrees
  show (options.answered world tree).1 = tree
  rw [answered]
  split
  next => rfl
  next => rfl
  next h => exact absurd h hunconfirmed

end CommandLine.Options

end QuorumRescue
