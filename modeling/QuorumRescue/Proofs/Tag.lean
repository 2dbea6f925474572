/-
  Tags and the texts that stand for them.

  An agent is known by its tag, which an operator types and a configuration contains.  Its text is
  checked twice: a configuration by the rule for tags, and a command line by reading it.  The tag then
  names a directory, so that two texts lead to one configuration or to two.  This file says what can be
  told from the text alone.

  1. **The pattern.** The rule for tags lets through exactly what matches `(machine|controller)-[0-9]+`.
     A text is read exactly if it matches and its digits denote a number of 64 bits
     (`exists_ofText?_iff`).  So the rule lets through one sort of text that stands for no tag, that
     with too large a number, and it is refused later.

  2. **One form for both.** Pattern and reading are brought to `Spelled`: the word of a kind, a dash,
     and digits, at least one.  The reading cuts at the first dash, and the pattern does not say where
     it is cut; it comes to the same because no word of a kind has a dash.  Neither has it a digit, so
     the digits of the tag are all the digits of the text (`Spelled.filter_eq`) and can be told without
     cutting it (`digitsOf`).

  3. **Writing.** A tag is written without zeros in front of its number, and what is written is read
     back (`ofText?_toText`).  A text that was read is written again with the same kind, the same
     number, and the zeros left out (`toText_of_ofText?`).

  4. **The crux** is that texts of tags meet in a directory exactly if they agree in kind and number.
     Paths may be compared as they are written or by the ways that they lead, without empty names and
     single points; the configuration's path ends in the written tag and the name of the file
     (`exists_names_configPath`), whatever the data directory is and however it ends, and the written
     tag leads somewhere.  So either comparison tells the tag (`way_configPath_inj`, `configPath_inj`).
-/
import QuorumRescue.Proofs.Home
import QuorumRescue.Proofs.Pattern

namespace QuorumRescue

/-! ## Kinds -/

namespace AgentKind

theorem ofWord?_word (kind : AgentKind) : ofWord? kind.word = some kind := by
  cases kind <;> rfl

theorem ofWord?_eq_some_iff {word : List Char} {kind : AgentKind} :
    ofWord? word = some kind ↔ word = kind.word := by
  constructor
  · intro h
    unfold ofWord? at h
    split at h
    · next hmachine =>
      obtain rfl := Option.some.inj h
      exact hmachine
    · split at h
      · next hcontroller =>
        obtain rfl := Option.some.inj h
        exact hcontroller
      · cases h
  · rintro rfl
    exact ofWord?_word kind

/-- The word of a kind has no dash, and no digit either. -/
theorem dash_notMem_word (kind : AgentKind) : '-' ∉ kind.word := by
  cases kind <;> decide

theorem filter_isDigit_word (kind : AgentKind) : kind.word.filter Numeral.isDigit = [] := by
  cases kind <;> decide

end AgentKind

namespace AgentTag

variable {text digits : List Char} {kind : AgentKind} {tag : AgentTag}

/-! ## Spellings -/

/-- A text is spelled with the word of a kind, a dash, and digits. -/
structure Spelled (text : List Char) (kind : AgentKind) (digits : List Char) : Prop where
  text_eq : text = kind.word ++ '-' :: digits
  nonempty : digits ≠ []
  all_digits : ∀ c ∈ digits, Numeral.isDigit c

/-- Everything that is a digit in a text. -/
def digitsOf (text : String) : List Char := text.toList.filter Numeral.isDigit

/-- There are no other digits in the text than the ones behind the dash. -/
theorem Spelled.filter_eq (h : Spelled text kind digits) : text.filter Numeral.isDigit = digits := by
  have hdash : Numeral.isDigit '-' = false := by decide
  rw [h.text_eq, List.filter_append, AgentKind.filter_isDigit_word, List.nil_append,
    List.filter_cons_of_neg (by rw [hdash]; exact Bool.false_ne_true)]
  exact List.filter_eq_self.2 h.all_digits

/-- **A text matches the pattern exactly if it is spelled** with a kind and digits. -/
theorem mem_pattern_iff :
    text ∈ Pattern.tag.matches' ↔ ∃ kind digits, Spelled text kind digits := by
  rw [Pattern.tag, Pattern.mem_dashed]
  constructor
  · rintro ⟨first, rest, hfirst, rfl, hne, hall⟩
    have hdigits : ∀ c ∈ rest, Numeral.isDigit c := fun c hc => Numeral.isDigit_iff_mem.2 (hall c hc)
    rcases hfirst with hmachine | hcontroller
    · obtain rfl := Pattern.mem_word.1 hmachine
      exact ⟨.machine, rest, rfl, hne, hdigits⟩
    · obtain rfl := Pattern.mem_word.1 hcontroller
      exact ⟨.controller, rest, rfl, hne, hdigits⟩
  · rintro ⟨kind, digits, rfl, hne, hall⟩
    have hword : kind.word ∈ (Pattern.word AgentKind.machine.word
        + Pattern.word AgentKind.controller.word).matches' := by
      cases kind with
      | machine => exact Or.inl (Pattern.mem_word.2 rfl)
      | controller => exact Or.inr (Pattern.mem_word.2 rfl)
    exact ⟨kind.word, digits, hword, rfl, hne, fun c hc => Numeral.isDigit_iff_mem.1 (hall c hc)⟩

/-! ## Reading -/

/-- **A text is read as the tag that it is spelled with**, if the number is not too large.  The words for
    kinds have no dash, so the text is cut where the digits begin. -/
theorem ofChars?_eq_some_iff : ofChars? text = some tag ↔
    ∃ digits, Spelled text tag.kind digits ∧ Numeral.denoted digits < 2 ^ 64
      ∧ tag.number.toNat = Numeral.denoted digits := by
  unfold ofChars?
  constructor
  · intro h
    split at h
    · cases h
    · next word digits hsplit =>
      split at h
      · next number kind hnumber hkind =>
        obtain rfl := Option.some.inj h
        obtain ⟨rfl, -⟩ := Text.splitFirst_eq_some.1 hsplit
        obtain rfl := AgentKind.ofWord?_eq_some_iff.1 hkind
        obtain ⟨hne, hall, hbound, hvalue⟩ := Numeral.word_eq_some_iff.1 hnumber
        exact ⟨digits, ⟨rfl, hne, hall⟩, hbound, hvalue⟩
      · cases h
  · rintro ⟨digits, ⟨rfl, hne, hall⟩, hbound, hvalue⟩
    have hsplit : Text.splitFirst '-' (tag.kind.word ++ '-' :: digits) = some (tag.kind.word, digits) :=
      Text.splitFirst_eq_some.2 ⟨rfl, AgentKind.dash_notMem_word tag.kind⟩
    have hnumber : Numeral.word digits = some tag.number :=
      Numeral.word_eq_some_iff.2 ⟨hne, hall, hbound, hvalue⟩
    simp only [hsplit, hnumber, AgentKind.ofWord?_word]

/-- A text that matches the pattern is read unless its digits denote too large a number. -/
theorem exists_ofText?_iff {text : String} : (∃ tag, ofText? text = some tag) ↔
    text.toList ∈ Pattern.tag.matches' ∧ Numeral.denoted (digitsOf text) < 2 ^ 64 := by
  rw [mem_pattern_iff]
  constructor
  · rintro ⟨tag, htag⟩
    obtain ⟨digits, hspelled, hbound, -⟩ := ofChars?_eq_some_iff.1 htag
    have hdigits : digitsOf text = digits := hspelled.filter_eq
    exact ⟨⟨tag.kind, digits, hspelled⟩, hdigits ▸ hbound⟩
  · rintro ⟨⟨kind, digits, hspelled⟩, hbound⟩
    have hdigits : digitsOf text = digits := hspelled.filter_eq
    rw [hdigits] at hbound
    refine ⟨⟨kind, UInt64.ofNat (Numeral.denoted digits)⟩, ofChars?_eq_some_iff.2 ?_⟩
    exact ⟨digits, hspelled, hbound, UInt64.toNat_ofNat_of_lt' hbound⟩

/-! ## Writing -/

/-- **What is written is read back.** -/
theorem ofText?_toText (tag : AgentTag) : ofText? tag.toText = some tag := by
  have hnumber := Numeral.word_decimal tag.number
  obtain ⟨hne, hall, hbound, hvalue⟩ := Numeral.word_eq_some_iff.1 hnumber
  have hspelled : Spelled tag.toText.toList tag.kind (Numeral.decimal tag.number.toNat) :=
    ⟨String.toList_ofList, hne, hall⟩
  exact ofChars?_eq_some_iff.2 ⟨_, hspelled, hbound, hvalue⟩

/-- A written tag tells the tag, since it is read back. -/
theorem toText_inj {a b : AgentTag} : a.toText = b.toText ↔ a = b := by
  constructor
  · intro h
    have hread := ofText?_toText a
    rw [h, ofText?_toText] at hread
    exact (Option.some.inj hread).symm
  · exact congrArg toText

/-- **The zeros in front of the number are not written**, and everything else is.  So two texts are read as
    one tag exactly if they differ in such zeros. -/
theorem toText_of_ofText? {text : String} (h : ofText? text = some tag) :
    text.toList = tag.kind.word ++ '-' :: digitsOf text
      ∧ tag.number.toNat = Numeral.denoted (digitsOf text)
      ∧ tag.toText.toList = tag.kind.word ++ '-' :: Numeral.unpadded (digitsOf text) := by
  obtain ⟨digits, hspelled, -, hvalue⟩ := ofChars?_eq_some_iff.1 h
  have hdigits : digitsOf text = digits := hspelled.filter_eq
  rw [hdigits]
  refine ⟨hspelled.text_eq, hvalue, ?_⟩
  rw [toText, String.toList_ofList, toChars, hvalue, Numeral.decimal_denoted hspelled.all_digits]

/-! ## Directories -/

/-- A written tag is one name in a path. -/
theorem slash_notMem_toText (tag : AgentTag) : '/' ∉ tag.toText.toList := by
  have hword : '/' ∉ tag.kind.word := by cases tag.kind <;> decide
  have hdash : '/' ≠ '-' := by decide
  have hslash : ¬ Numeral.isDigit '/' := by decide
  obtain ⟨-, hall, -⟩ := Numeral.word_eq_some_iff.1 (Numeral.word_decimal tag.number)
  rw [toText, String.toList_ofList, toChars, List.mem_append, List.mem_cons, not_or, not_or]
  exact ⟨hword, hdash, fun h => hslash (hall _ h)⟩

theorem dash_mem_toText (tag : AgentTag) : '-' ∈ tag.toText.toList := by
  rw [toText, String.toList_ofList, toChars]
  exact List.mem_append_right _ List.mem_cons_self

theorem toText_ne_empty (tag : AgentTag) : tag.toText ≠ "" := by
  intro h
  have hdash := dash_mem_toText tag
  rw [h] at hdash
  cases hdash

end AgentTag

namespace Path

/-- The name of a file is the last one in its path, behind what the path of its directory has. -/
theorem exists_names_child (dir : Path) : ∃ trunk, ∀ name : String, '/' ∉ name.toList →
    (dir.child name).names = trunk ++ [name] := by
  by_cases hempty : dir.text = ""
  · refine ⟨[], fun name hname => ?_⟩
    have hchild : dir.child name = ⟨name⟩ := by simp [child, hempty]
    rw [hchild, names, stretches_of_not_mem hname]
    simp
  · obtain ⟨trunk, -, htrunk⟩ := exists_trunk hempty
    exact ⟨trunk, htrunk⟩

/-- The path of a file in a named directory ends in both names. -/
theorem exists_names_child_child (dir : Path) : ∃ trunk, ∀ name file : String,
    '/' ∉ name.toList → name ≠ "" → '/' ∉ file.toList →
    ((dir.child name).child file).names = trunk ++ [name, file] := by
  obtain ⟨trunk, htrunk⟩ := exists_names_child dir
  refine ⟨trunk, fun name file hname hne hfile => ?_⟩
  have hnames := htrunk name hname
  have htext : (dir.child name).text ≠ "" := by
    intro hempty
    rw [names, hempty] at hnames
    have hnames : [] ++ [""] = trunk ++ [name] := hnames
    obtain ⟨-, hlast⟩ := List.append_inj' hnames rfl
    exact hne (List.singleton_inj.1 hlast).symm
  obtain ⟨inner, hinner, hchild⟩ := exists_trunk htext
  rcases hinner with hinner | hinner
  · rw [hchild file hfile, ← hinner, hnames, List.append_assoc, List.singleton_append]
  · -- a directory with a name has no separator behind it
    rw [hnames] at hinner
    obtain ⟨-, hlast⟩ := List.append_inj' hinner rfl
    exact absurd (List.singleton_inj.1 hlast) hne

/-- Whether a name leads anywhere: empty names and single points do not. -/
def leads (name : String) : Bool := name != "" && name != "."

/-- The names that a path leads along. -/
def way (path : Path) : List String := path.names.filter leads

end Path

namespace AgentTag

/-- A directory that is named by a tag is on the way to what is in it. -/
theorem leads_toText (tag : AgentTag) : Path.leads tag.toText := by
  have hpoint : tag.toText ≠ "." := by
    intro h
    have hdash := dash_mem_toText tag
    rw [h] at hdash
    exact absurd hdash (by decide)
  rw [Path.leads, Bool.and_eq_true, bne_iff_ne, bne_iff_ne]
  exact ⟨toText_ne_empty tag, hpoint⟩

/-- The path of a tag's configuration leads through the tag's own directory. -/
theorem exists_names_configPath (dataDir : Path) : ∃ trunk, ∀ tag : AgentTag,
    (tag.configPath dataDir).names = trunk ++ [tag.toText, configName] := by
  obtain ⟨trunk, htrunk⟩ := Path.exists_names_child_child (baseDir dataDir)
  have hconfig : '/' ∉ configName.toList := by decide
  exact ⟨trunk, fun tag =>
    htrunk tag.toText configName (slash_notMem_toText tag) (toText_ne_empty tag) hconfig⟩

/-- Two tags have configurations on the same way only if they are the same. -/
theorem way_configPath_inj {a b : AgentTag} {dataDir : Path} :
    (a.configPath dataDir).way = (b.configPath dataDir).way ↔ a = b := by
  constructor
  · intro h
    obtain ⟨trunk, htrunk⟩ := exists_names_configPath dataDir
    have hconfig : Path.leads configName := by decide
    have hway : ∀ tag : AgentTag, (tag.configPath dataDir).way
        = trunk.filter Path.leads ++ [tag.toText, configName] := by
      intro tag
      rw [Path.way, htrunk tag, List.filter_append, List.filter_cons_of_pos (leads_toText tag),
        List.filter_cons_of_pos hconfig, List.filter_nil]
    rw [hway a, hway b] at h
    obtain ⟨htext, -⟩ := List.cons.inj (List.append_cancel_left h)
    exact toText_inj.1 htext
  · rintro rfl
    rfl

/-- A configuration's path tells whose it is. -/
theorem configPath_inj {a b : AgentTag} {dataDir : Path} :
    a.configPath dataDir = b.configPath dataDir ↔ a = b := by
  constructor
  · intro h
    exact way_configPath_inj.1 (congrArg Path.way h)
  · rintro rfl
    rfl

/-- A tag is its kind and its number. -/
theorem eq_iff {a b : AgentTag} : a = b ↔ a.kind = b.kind ∧ a.number = b.number := by
  rw [mk.injEq]

/-- **Tags and the texts that stand for them.**  The rule for tags is the pattern.  A text is read if it
    matches the pattern and its digits denote a number of 64 bits.  A written tag is read back, and a text
    that was read is written without the zeros in front of its number.  The texts of one directory's
    configuration are those that agree in kind and number, whether paths are compared as they are written
    or by the ways that they lead. -/
theorem read_exactly_matched :
    (∀ text, AgentConfig.fitsTag text ↔ text.toList ∈ Pattern.tag.matches')
    ∧ (∀ text, (∃ tag, ofText? text = some tag) ↔
        text.toList ∈ Pattern.tag.matches' ∧ Numeral.denoted (digitsOf text) < 2 ^ 64)
    ∧ (∀ tag, ofText? tag.toText = some tag)
    ∧ (∀ text tag, ofText? text = some tag →
        text.toList = tag.kind.word ++ '-' :: digitsOf text
          ∧ tag.number.toNat = Numeral.denoted (digitsOf text)
          ∧ tag.toText.toList = tag.kind.word ++ '-' :: Numeral.unpadded (digitsOf text))
    ∧ ∀ text text' tag tag' dataDir, ofText? text = some tag → ofText? text' = some tag' →
        (tag.configPath dataDir = tag'.configPath dataDir
            ↔ tag.kind = tag'.kind ∧ tag.number = tag'.number)
          ∧ ((tag.configPath dataDir).way = (tag'.configPath dataDir).way
            ↔ tag.kind = tag'.kind ∧ tag.number = tag'.number) := by
  refine ⟨fun _ => AgentConfig.fitsTag_iff, fun _ => exists_ofText?_iff, ofText?_toText,
    fun _ _ h => toText_of_ofText? h, fun _ _ tag tag' dataDir _ _ => ?_⟩
  constructor
  · rw [configPath_inj, eq_iff]
  · rw [way_configPath_inj, eq_iff]

/-- A zero in front makes no difference to where the configuration is, another kind does. -/
theorem read_exactly_matched_padded :
    ofText? "machine-007" = some ⟨.machine, 7⟩ ∧ ofText? "machine-7" = some ⟨.machine, 7⟩
    ∧ ofText? "controller-7" = some ⟨.controller, 7⟩
    ∧ (⟨.machine, 7⟩ : AgentTag).toText.toList = ['m', 'a', 'c', 'h', 'i', 'n', 'e', '-', '7']
    ∧ configPath ⟨.machine, 7⟩ ⟨"base"⟩ ≠ configPath ⟨.controller, 7⟩ ⟨"base"⟩ := by
  have hpadded : ofText? "machine-007" = some ⟨.machine, 7⟩ := by decide
  have hplain : ofText? "machine-7" = some ⟨.machine, 7⟩ := by decide
  have hother : ofText? "controller-7" = some ⟨.controller, 7⟩ := by decide
  obtain ⟨-, -, -, hwritten, hpaths⟩ := read_exactly_matched
  obtain ⟨-, -, htext⟩ := hwritten "machine-007" ⟨.machine, 7⟩ hpadded
  obtain ⟨hpath, -⟩ := hpaths "machine-7" "controller-7" _ _ ⟨"base"⟩ hplain hother
  refine ⟨hpadded, hplain, hother, htext, fun h => ?_⟩
  obtain ⟨hkind, -⟩ := hpath.1 h
  cases hkind

end AgentTag

end QuorumRescue
