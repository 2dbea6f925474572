/-
  The texts that are accepted as configurations.

  A configuration is a file that operators edit, so it may hold anything.  This file says which texts
  are accepted, for all texts, and what each of the others is told, in the words that it is told with.

  1. **Acceptance.** A text is accepted exactly if its first line names the known version, the rest
     decodes as a record, and the record is valid (`exists_parse_iff`).  Line and version are told by
     what they are made of (`FirstLine`, `NamesVersion`); decoding is the YAML reader's, which is a
     definition of its own.

  2. **Valid records.** A rule is broken by a text that does not match a pattern, or by an empty address
     (`Layout.Breaks`).  The program collects the broken rules in a list, and the list has exactly those
     that are broken, each once (`Layout.mem_faults_iff`, `Layout.nodup_faults`).  A valid record breaks
     none, and the number of its tag fits in 64 bits (`Layout.valid_iff`), which is no rule and is
     looked at last.

  3. **Refusals.** What is refused is refused for the first condition that fails, and by the failure one
     can tell which: without a version in the first line, or with another one, the rest is not even
     looked at.

  4. **The crux** is the report on broken rules.  It is one text, and it should have one line for each
     broken rule, each about another field, and no other line (`Reports`).  The text is taken apart at
     its line ends.  That works because no line has a line end inside (`newline_notMem_shown`), whatever
     index is in it, and because different rules are called by different names: they differ in their
     first letter, or in the index, whose digits tell the number (`field_injective`).

  5. **Short texts.** For the cases that a text has to be given for, there is a record of which nothing
     but the tag is there.  That it decodes follows from the lemmas about written records, for every tag
     (`decode_tagLine`).
-/
import Mathlib.Data.List.Nodup
import QuorumRescue.Proofs.Header
import QuorumRescue.Proofs.Records
import QuorumRescue.Proofs.Tag

namespace QuorumRescue

namespace AgentConfig

/-! ## Rules -/

/-- A rule that a record breaks. -/
inductive Layout.Breaks (layout : Layout) : FieldFault → Prop
  | emptyApiAddress {index : Nat} (empty : layout.advertised[index]? = some "") :
      layout.Breaks (.emptyApiAddress index)
  | badController {text : String} (given : layout.controller = some text)
      (unmatched : text.toList ∉ Pattern.controller.matches') : layout.Breaks .badController
  | badModel {text : String} (given : layout.model = some text)
      (unmatched : text.toList ∉ Pattern.model.matches') : layout.Breaks .badModel
  | badTag (unmatched : layout.tag.toList ∉ Pattern.tag.matches') : layout.Breaks .badTag

/-- The empty addresses are found, at the places that they have in the list.  Counting may begin anywhere,
    so the induction goes through. -/
theorem mem_emptyAddresses_iff {start : Nat} {addresses : List String} {fault : FieldFault} :
    fault ∈ emptyAddresses start addresses ↔
      ∃ index, addresses[index]? = some "" ∧ fault = .emptyApiAddress (start + index) := by
  induction addresses generalizing start with
  | nil => simp [emptyAddresses]
  | cons address rest ih =>
    rw [emptyAddresses, List.mem_append, ih]
    constructor
    · rintro (hfirst | ⟨index, hempty, rfl⟩)
      · split at hfirst
        · next haddress =>
          obtain rfl := List.mem_singleton.1 hfirst
          exact ⟨0, by rw [List.getElem?_cons_zero, String.isEmpty_iff.1 haddress], rfl⟩
        · cases hfirst
      · exact ⟨index + 1, by rwa [List.getElem?_cons_succ], by rw [Nat.add_right_comm, Nat.add_assoc]⟩
    · rintro ⟨index, hempty, rfl⟩
      cases index with
      | zero =>
        obtain rfl : address = "" := by rwa [List.getElem?_cons_zero, Option.some.injEq] at hempty
        exact Or.inl (List.mem_singleton.2 rfl)
      | succ index =>
        rw [List.getElem?_cons_succ] at hempty
        exact Or.inr ⟨index, hempty, by rw [Nat.add_right_comm, Nat.add_assoc]⟩

/-- Each of them is found once, since later ones have later places. -/
theorem nodup_emptyAddresses (start : Nat) (addresses : List String) :
    (emptyAddresses start addresses).Nodup := by
  induction addresses generalizing start with
  | nil => exact List.nodup_nil
  | cons address rest ih =>
    rw [emptyAddresses]
    split
    · refine List.nodup_cons.2 ⟨fun hmem => ?_, ih (start + 1)⟩
      obtain ⟨index, -, hfault⟩ := mem_emptyAddresses_iff.1 hmem
      have hindex : start = start + 1 + index := FieldFault.emptyApiAddress.inj hfault
      omega
    · exact ih (start + 1)

/-- A field that may be left out fails its rule only by a text that it has. -/
theorem not_all_iff {field : Option String} {fits : String → Bool} {pattern : RegularExpression Char}
    (hfits : ∀ {text : String}, fits text ↔ text.toList ∈ pattern.matches') :
    ¬ field.all fits ↔ ∃ text, field = some text ∧ text.toList ∉ pattern.matches' := by
  cases field with
  | none => simp
  | some text =>
    rw [Option.all_some, hfits]
    constructor
    · intro h
      exact ⟨text, rfl, h⟩
    · rintro ⟨other, hgiven, h⟩
      rwa [Option.some.inj hgiven]

theorem mem_unless_iff {fits : Bool} {fault broken : FieldFault} :
    fault ∈ (if fits then [] else [broken]) ↔ ¬ fits ∧ fault = broken := by
  cases fits <;> simp

/-- **The rules that are found broken are those that are.** Each field is checked by a rule of its own, so
    that a fault tells its field, and no fault hides another. -/
theorem Layout.mem_faults_iff {layout : Layout} {fault : FieldFault} :
    fault ∈ layout.faults ↔ layout.Breaks fault := by
  rw [faults, List.mem_append, List.mem_append, List.mem_append, mem_emptyAddresses_iff,
    mem_unless_iff, mem_unless_iff, mem_unless_iff, not_all_iff fitsController_iff,
    not_all_iff fitsModel_iff, fitsTag_iff]
  constructor
  · rintro (((⟨index, hempty, rfl⟩ | ⟨⟨text, hgiven, htext⟩, rfl⟩) | ⟨⟨text, hgiven, htext⟩, rfl⟩)
      | ⟨htag, rfl⟩)
    · rw [Nat.zero_add]
      exact .emptyApiAddress hempty
    · exact .badController hgiven htext
    · exact .badModel hgiven htext
    · exact .badTag htag
  · intro h
    cases h with
    | emptyApiAddress hempty => exact Or.inl (Or.inl (Or.inl ⟨_, hempty, by rw [Nat.zero_add]⟩))
    | badController hgiven htext => exact Or.inl (Or.inl (Or.inr ⟨⟨_, hgiven, htext⟩, rfl⟩))
    | badModel hgiven htext => exact Or.inl (Or.inr ⟨⟨_, hgiven, htext⟩, rfl⟩)
    | badTag htag => exact Or.inr ⟨htag, rfl⟩

/-- A fault that is new to a list may be added to it. -/
theorem nodup_append_unless {faults : List FieldFault} {fits : Bool} {broken : FieldFault}
    (h : faults.Nodup) (hnew : broken ∉ faults) : (faults ++ if fits then [] else [broken]).Nodup := by
  cases fits with
  | true => simpa using h
  | false =>
    refine h.append (List.nodup_singleton broken) fun fault hfault hbroken => hnew ?_
    rwa [← List.mem_singleton.1 hbroken]

/-- No rule is found broken twice, since each part of the list is about another field. -/
theorem Layout.nodup_faults (layout : Layout) : layout.faults.Nodup := by
  refine nodup_append_unless (nodup_append_unless (nodup_append_unless (nodup_emptyAddresses 0 _) ?_) ?_) ?_
  all_goals simp only [List.mem_append, mem_emptyAddresses_iff, mem_unless_iff]
  · rintro ⟨index, -, hfault⟩
    cases hfault
  · rintro (⟨index, -, hfault⟩ | ⟨-, hfault⟩)
    · cases hfault
    · cases hfault
  · rintro ((⟨index, -, hfault⟩ | ⟨-, hfault⟩) | ⟨-, hfault⟩)
    · cases hfault
    · cases hfault
    · cases hfault

/-- What a record has to be like. -/
structure Layout.Valid (layout : Layout) : Prop where
  tag_matches : layout.tag.toList ∈ Pattern.tag.matches'
  number_fits : Numeral.denoted (AgentTag.digitsOf layout.tag) < 2 ^ 64
  controller_matches : ∀ text ∈ layout.controller, text.toList ∈ Pattern.controller.matches'
  model_matches : ∀ text ∈ layout.model, text.toList ∈ Pattern.model.matches'
  no_empty_address : "" ∉ layout.advertised

/-- A record is valid if it breaks no rule and the number of its tag is not too large. -/
theorem Layout.valid_iff {layout : Layout} : layout.Valid ↔
    (∀ fault, ¬ layout.Breaks fault) ∧ Numeral.denoted (AgentTag.digitsOf layout.tag) < 2 ^ 64 := by
  constructor
  · intro h
    refine ⟨fun fault hbreaks => ?_, h.number_fits⟩
    cases hbreaks with
    | emptyApiAddress hempty => exact h.no_empty_address (List.mem_of_getElem? hempty)
    | badController hgiven htext => exact htext (h.controller_matches _ hgiven)
    | badModel hgiven htext => exact htext (h.model_matches _ hgiven)
    | badTag htag => exact htag h.tag_matches
  · rintro ⟨hunbroken, hnumber⟩
    constructor
    · by_contra htag
      exact hunbroken _ (.badTag htag)
    · exact hnumber
    · intro text hgiven
      by_contra htext
      exact hunbroken _ (.badController hgiven htext)
    · intro text hgiven
      by_contra htext
      exact hunbroken _ (.badModel hgiven htext)
    · intro hempty
      obtain ⟨index, hindex⟩ := List.mem_iff_getElem?.1 hempty
      exact hunbroken _ (.emptyApiAddress hindex)

/-- A record without faults is one that breaks no rule. -/
theorem Layout.faults_eq_nil_iff {layout : Layout} :
    layout.faults = [] ↔ ∀ fault, ¬ layout.Breaks fault := by
  rw [List.eq_nil_iff_forall_not_mem]
  exact forall_congr' fun fault => not_congr Layout.mem_faults_iff

end AgentConfig

/-! ## Reports -/

namespace FieldFault

/-- The field that a line is about. -/
def field : FieldFault → String
  | emptyApiAddress index => "api_addresses[" ++ Numeral.toText index ++ "]"
  | badController => "controller"
  | badModel => "model"
  | badTag => "tag"

/-- What the field is told. -/
def complaint : FieldFault → String
  | emptyApiAddress _ => "length is lower than 1"
  | badController => "does not match pattern /^controller-[0-9a-f-]+$/"
  | badModel => "does not match pattern /^model-[0-9a-f-]+$/"
  | badTag => "does not match pattern /^(machine|controller)-[0-9]+$/"

/-- A line, without its end. -/
def shown (fault : FieldFault) : List Char := (fault.field ++ ": " ++ fault.complaint).toList

/-- A report has the lines as they are shown, each with its end. -/
theorem toList_line (fault : FieldFault) : fault.line.toList = fault.shown ++ ['\n'] := by
  have hline : fault.line = fault.field ++ ": " ++ (fault.complaint ++ "\n") := by
    cases fault with
    | emptyApiAddress index =>
      show "api_addresses[" ++ Numeral.toText index ++ ("]: " ++ "length is lower than 1\n")
        = "api_addresses[" ++ Numeral.toText index ++ "]" ++ ": " ++ "length is lower than 1\n"
      simp only [String.append_assoc]
      rfl
    | badController => rfl
    | badModel => rfl
    | badTag => rfl
  rw [hline, ← String.append_assoc, String.toList_append]
  rfl

/-- The name of a place among the addresses has its index between brackets. -/
theorem toList_field_emptyApiAddress (index : Nat) : (emptyApiAddress index).field.toList
    = "api_addresses[".toList ++ (Numeral.decimal index ++ [']']) := by
  have hnumber : (Numeral.toText index).toList = Numeral.decimal index := String.toList_ofList
  have hclose : "]".toList = [']'] := rfl
  show ("api_addresses[" ++ Numeral.toText index ++ "]").toList = _
  rw [String.toList_append, String.toList_append, hnumber, hclose, List.append_assoc]

/-- The first letter of what a line is about. -/
def initial : FieldFault → Char
  | emptyApiAddress _ => 'a'
  | badController => 'c'
  | badModel => 'm'
  | badTag => 't'

theorem head?_field (fault : FieldFault) : fault.field.toList.head? = some fault.initial := by
  cases fault with
  | emptyApiAddress index =>
    rw [toList_field_emptyApiAddress]
    rfl
  | badController => rfl
  | badModel => rfl
  | badTag => rfl

/-- Each place in a record is called by a name of its own. -/
theorem field_injective : Function.Injective field := by
  intro a b h
  have hinitial : a.initial = b.initial := by
    have hhead := head?_field a
    rw [h, head?_field b] at hhead
    exact (Option.some.inj hhead).symm
  cases a <;> cases b
  case emptyApiAddress.emptyApiAddress i j =>
    -- the same name has the same digits, and those one value
    have hchars := congrArg String.toList h
    rw [toList_field_emptyApiAddress, toList_field_emptyApiAddress] at hchars
    have hdecimal := List.append_cancel_right (List.append_cancel_left hchars)
    have hvalue := Numeral.value_decimal i
    rw [hdecimal, Numeral.value_decimal] at hvalue
    rw [Option.some.inj hvalue]
  all_goals first
    | rfl
    | simp [initial] at hinitial

theorem newline_notMem_shown (fault : FieldFault) : '\n' ∉ fault.shown := by
  rw [shown, String.toList_append, String.toList_append, List.mem_append, List.mem_append, not_or, not_or]
  refine ⟨⟨?_, by decide⟩, ?_⟩
  · cases fault with
    | emptyApiAddress index =>
      obtain ⟨-, hdigits, -⟩ := Numeral.value_eq_some_iff.1 (Numeral.value_decimal index)
      have hnewline : ¬ Numeral.isDigit '\n' := by decide
      rw [toList_field_emptyApiAddress, List.mem_append, List.mem_append, not_or, not_or]
      exact ⟨by decide, fun h => hnewline (hdigits _ h), by decide⟩
    | _ => decide
  · cases fault with
    | emptyApiAddress index =>
      show '\n' ∉ "length is lower than 1".toList
      decide
    | _ => decide

end FieldFault

/-- A text has one line for each broken rule, each about another field, and no other line. -/
def Reports (report : String) (broken : FieldFault → Prop) : Prop :=
  ∃ faults : List FieldFault, (∀ fault, fault ∈ faults ↔ broken fault)
    ∧ (faults.map FieldFault.field).Nodup
    ∧ report.toList.splitOn '\n' = faults.map FieldFault.shown ++ [[]]

/-- **The lines of a report are those that were put into it.** The last piece is what follows the last line
    end, and is empty. -/
theorem splitOn_lines (faults : List FieldFault) :
    (String.join (faults.map FieldFault.line)).toList.splitOn '\n'
      = faults.map FieldFault.shown ++ [[]] := by
  induction faults with
  | nil => rfl
  | cons fault rest ih =>
    rw [List.map_cons, String.join_cons, String.toList_append, FieldFault.toList_line, List.append_assoc,
      List.singleton_append, List.splitOn_append_cons_self_of_not_mem fault.newline_notMem_shown, ih,
      List.map_cons, List.cons_append]

/-! ## Quoted tags -/

/-- Whether a character is shown as it is between quotes. -/
def Text.isPlain (c : Char) : Bool := quoteChar c == [c]

/-- A text of plain characters stands between quotes as it is. -/
theorem Text.quoted_of_isPlain {text : String} (h : ∀ c ∈ text.toList, isPlain c) :
    quoted text = "\"" ++ text ++ "\"" := by
  have hplain : ∀ c ∈ text.toList, quoteChar c = [c] := fun c hc => eq_of_beq (h c hc)
  have hchars : text.toList.flatMap quoteChar = text.toList := by
    rw [List.flatMap_def, List.map_congr_left hplain, ← List.flatMap_def, List.flatMap_singleton']
  rw [← String.toList_inj, quoted, String.toList_ofList, hchars, String.toList_append,
    String.toList_append]
  rfl

/-- What matches the pattern of tags has plain characters only. -/
theorem AgentTag.quoted_eq {text : String} (h : text.toList ∈ Pattern.tag.matches') :
    Text.quoted text = "\"" ++ text ++ "\"" := by
  obtain ⟨kind, digits, hspelled⟩ := AgentTag.mem_pattern_iff.1 h
  have hword : ∀ c ∈ kind.word, Text.isPlain c := by
    cases kind with
    | machine => exact List.all_eq_true.1 (by decide)
    | controller => exact List.all_eq_true.1 (by decide)
  have hdash : Text.isPlain '-' := by decide
  have hdigits : ∀ c ∈ Pattern.digits, Text.isPlain c := List.all_eq_true.1 (by decide)
  refine Text.quoted_of_isPlain ?_
  rw [hspelled.text_eq, List.forall_mem_append, List.forall_mem_cons]
  exact ⟨hword, hdash, fun c hc => hdigits c (Numeral.isDigit_iff_mem.1 (hspelled.all_digits c hc))⟩

namespace AgentConfig

variable {text : String} {line body version : List Char} {layout : Layout}

/-! ## Records -/

/-- **A record is accepted exactly if it is valid.** The number of the tag is not among the rules that are
    reported together, since it is looked at behind them. -/
theorem exists_ofLayout_iff : (∃ config, ofLayout layout = .ok config) ↔ layout.Valid := by
  rw [Layout.valid_iff, ← Layout.faults_eq_nil_iff]
  unfold ofLayout
  constructor
  · rintro ⟨config, h⟩
    split at h
    · next hfaults =>
      refine ⟨hfaults, ?_⟩
      split at h
      · cases h
      · next tag htag => exact (AgentTag.exists_ofText?_iff.1 ⟨tag, htag⟩).2
    · cases h
  · rintro ⟨hfaults, hnumber⟩
    have hvalid := Layout.valid_iff.2 ⟨Layout.faults_eq_nil_iff.1 hfaults, hnumber⟩
    obtain ⟨tag, htag⟩ := AgentTag.exists_ofText?_iff.2 ⟨hvalid.tag_matches, hnumber⟩
    simp only [hfaults, htag]
    exact ⟨_, rfl⟩

/-- A record that breaks rules is answered by a report on all of them. -/
theorem ofLayout_of_broken (h : ∃ fault, layout.Breaks fault) : ∃ fault,
    ofLayout layout = .error (.invalidConfig fault) ∧ Reports fault.message layout.Breaks := by
  have hfaults : layout.faults ≠ [] := by
    intro hnil
    obtain ⟨fault, hbreaks⟩ := h
    exact Layout.faults_eq_nil_iff.1 hnil fault hbreaks
  refine ⟨.fields layout.faults, ?_, layout.faults, fun _ => Layout.mem_faults_iff, ?_,
    splitOn_lines layout.faults⟩
  · unfold ofLayout
    split
    · next hnil => exact absurd hnil hfaults
    · rfl
  · exact layout.nodup_faults.map FieldFault.field_injective

/-- Only when no rule is broken, the number of the tag may be what is wrong. -/
theorem ofLayout_of_large (h : ∀ fault, ¬ layout.Breaks fault)
    (hlarge : 2 ^ 64 ≤ Numeral.denoted (AgentTag.digitsOf layout.tag)) :
    ofLayout layout = .error (.invalidConfig (.notATag layout.tag)) := by
  have htag : AgentTag.ofText? layout.tag = none := by
    refine Option.eq_none_iff_forall_ne_some.2 fun tag htag => ?_
    obtain ⟨-, hnumber⟩ := AgentTag.exists_ofText?_iff.1 ⟨tag, htag⟩
    omega
  simp only [ofLayout, Layout.faults_eq_nil_iff.2 h, htag]

/-! ## Texts -/

/-- Every text has a first line. -/
theorem exists_firstLine (text : List Char) : ∃ line body, FirstLine text line body :=
  ⟨_, _, splitHeader_eq_iff.1 rfl⟩

/-- Behind the known version, a rest that does not decode is reported with its fault. -/
theorem parse_of_undecoded (hline : FirstLine text.toList line body)
    (hversion : NamesVersion line knownVersion) {fault : DecodeFault}
    (hdecode : Yaml.decodeText Layout.ofNode body = .error fault) :
    parse text = .error (.corruption resource (.undecodable fault)) := by
  simp only [parse, splitHeader_eq_iff.2 hline, versionOf_eq_some_iff.2 hversion, if_pos, hdecode]

/-- Behind the known version, a rest that decodes is accepted or refused as a record. -/
theorem parse_of_decoded (hline : FirstLine text.toList line body)
    (hversion : NamesVersion line knownVersion)
    (hdecode : Yaml.decodeText Layout.ofNode body = .ok layout) : parse text = ofLayout layout := by
  simp only [parse, splitHeader_eq_iff.2 hline, versionOf_eq_some_iff.2 hversion, if_pos, hdecode]

/-- Another version is refused whatever stands behind the first line. -/
theorem parse_of_other (hline : FirstLine text.toList line body) (hversion : NamesVersion line version)
    (hother : version ≠ knownVersion) :
    parse text = .error (.unsupportedFormat (String.ofList version)) := by
  simp only [parse, splitHeader_eq_iff.2 hline, versionOf_eq_some_iff.2 hversion, if_neg hother]

/-- So is a first line without the lead. -/
theorem parse_of_unnamed (hline : FirstLine text.toList line body)
    (hlead : ¬ headerLead <+: Text.trimEnd line) :
    parse text = .error (.corruption resource .missingHeader) := by
  have hnone : versionOf line = none := by
    refine Option.eq_none_iff_forall_ne_some.2 fun version hversion => hlead ?_
    exact exists_namesVersion_iff.1 ⟨version, versionOf_eq_some_iff.1 hversion⟩
  simp only [parse, splitHeader_eq_iff.2 hline, hnone]

/-- **The texts that are accepted.** Each condition is looked at only where those before it hold, so the
    cases are taken in the order of the program. -/
theorem exists_parse_iff : (∃ config, parse text = .ok config) ↔
    ∃ line body layout, FirstLine text.toList line body ∧ NamesVersion line knownVersion
      ∧ Yaml.decodeText Layout.ofNode body = .ok layout ∧ layout.Valid := by
  constructor
  · rintro ⟨config, hparse⟩
    obtain ⟨line, body, hline⟩ := exists_firstLine text.toList
    by_cases hlead : headerLead <+: Text.trimEnd line
    · obtain ⟨version, hversion⟩ := exists_namesVersion_iff.2 hlead
      by_cases hknown : version = knownVersion
      · -- only from here on the body is looked at
        obtain rfl := hknown
        cases hdecode : Yaml.decodeText Layout.ofNode body with
        | error fault =>
          rw [parse_of_undecoded hline hversion hdecode] at hparse
          cases hparse
        | ok layout =>
          rw [parse_of_decoded hline hversion hdecode] at hparse
          exact ⟨line, body, layout, hline, hversion, hdecode, exists_ofLayout_iff.1 ⟨config, hparse⟩⟩
      · rw [parse_of_other hline hversion hknown] at hparse
        cases hparse
    · rw [parse_of_unnamed hline hlead] at hparse
      cases hparse
  · rintro ⟨line, body, layout, hline, hversion, hdecode, hvalid⟩
    rw [parse_of_decoded hline hversion hdecode]
    exact exists_ofLayout_iff.2 hvalid

/-! ## The shortest configurations -/

def tagKey : List Char := ['t', 'a', 'g']

/-- A record of which nothing but the tag is given. -/
def tagLine (tag : String) : List Char :=
  Registry.keyText tagKey (Yaml.scalar 2 tag.toList ++ Yaml.lineFeed tag.toList)

theorem tokens_tagLine (tag : String) : Yaml.tokens (tagLine tag)
    = (.mappingBlock :: (Registry.fieldTokens tagKey (Yaml.styleOf tag.toList) tag.toList
        ++ [.blockEnd, .streamEnd]), true) := by
  have hstart : Yaml.Lexer.Before true 0 (tagLine tag) (-1) [] [] (Yaml.Lexer.start (tagLine tag)) :=
    @Yaml.Lexer.before_line _ ⟨0, 0, 0⟩ (-1) [] [] rfl
  have hreadable : (tagLine tag).all Yaml.isReadable = true := by
    have hscalar : (Yaml.scalar 2 tag.toList).all Yaml.isReadable = true := by
      rw [List.all_eq_true]
      exact fun c hc => Yaml.isReadable_of_mem_scalar hc
    have hfeed : (Yaml.lineFeed tag.toList).all Yaml.isReadable = true := by
      unfold Yaml.lineFeed
      split <;> rfl
    have hkey : tagKey.all Yaml.isReadable = true := by decide
    simp only [tagLine, Registry.keyText, List.all_append, List.all_cons, hscalar, hfeed, hkey]
    decide
  have hbefore : Yaml.Lexer.Before true 0 (Registry.keyText tagKey (Yaml.scalar (0 + 2) tag.toList
      ++ (Yaml.lineFeed tag.toList ++ (List.replicate 0 ' ' ++ [])))) (-1) [] []
      (Yaml.Lexer.start (tagLine tag)) := by
    simpa [tagLine] using hstart
  obtain ⟨s, hleads, hend⟩ :=
    Registry.leads_textField hbefore (by decide) (by decide) (Nat.le_refl 0) rfl
  rw [Registry.tokens_of_leads hreadable hleads hend (.block (by decide) .base)]
  simp [Registry.openedFor, Registry.outerOf]

theorem decode_tagLine (tag : String) :
    Yaml.decodeText Layout.ofNode (tagLine tag) = .ok { tag := tag } := by
  have hread : Yaml.Document.read (tagLine tag) = ⟨.mapping none
      (Registry.fieldNodes tagKey (Yaml.styleOf tag.toList) tag.toList), true⟩ := by
    rw [Yaml.Document.read, tokens_tagLine]
    rfl
  have hlayout : Layout.ofNode (.mapping none
      (Registry.fieldNodes tagKey (Yaml.styleOf tag.toList) tag.toList))
        = .ok { tag := String.ofList tag.toList } := rfl
  rw [String.ofList_toList] at hlayout
  exact Registry.decodeText_eq_ok hread hlayout

/-- A text with the lead and a version in its first line. -/
def headed (version body : List Char) : String := String.ofList (headerLead ++ version ++ '\n' :: body)

theorem firstLine_headed (hunbroken : '\n' ∉ version) :
    FirstLine (headed version body).toList (headerLead ++ version) body := by
  have hlead : '\n' ∉ headerLead := by decide
  rw [headed, String.toList_ofList]
  refine .ended fun h => ?_
  rcases List.mem_append.1 h with h | h
  · exact hlead h
  · exact hunbroken h

theorem namesVersion_headed {first last : Char} (hfirst : version.head? = some first)
    (hlast : version.getLast? = some last) (hblack : ¬ Text.isWhite first ∧ ¬ Text.isWhite last) :
    NamesVersion (headerLead ++ version) version := by
  have hne : version ≠ [] := by
    rintro rfl
    cases hfirst
  refine ⟨[], [], by simp, nofun, nofun, hne, fun c hc => ?_, fun c hc => ?_⟩
  · rw [← Option.some.inj (hfirst.symm.trans hc)]
    exact hblack.1
  · rw [← Option.some.inj (hlast.symm.trans hc)]
    exact hblack.2

/-! ## Acceptance -/

/-- **The texts that are accepted, and what the others are told.**  The first line names the known version,
    the rest decodes, and the record is valid.  Behind another version nothing is decoded, and neither is
    behind a first line that names none.  A record that breaks rules is reported with one line for each.
    The number of the tag is not one of these rules: it is looked at when none is broken. -/
theorem accepts_exactly_valid (text : String) :
    ((∃ config, parse text = .ok config) ↔
      ∃ line body layout, FirstLine text.toList line body ∧ NamesVersion line knownVersion
        ∧ Yaml.decodeText Layout.ofNode body = .ok layout ∧ layout.Valid)
    ∧ ∀ line body, FirstLine text.toList line body →
      (NamesVersion line knownVersion →
        (∀ fault, Yaml.decodeText Layout.ofNode body = .error fault →
          parse text = .error (.corruption resource (.undecodable fault)))
        ∧ ∀ layout, Yaml.decodeText Layout.ofNode body = .ok layout →
          ((∃ fault, layout.Breaks fault) → ∃ fault,
            parse text = .error (.invalidConfig fault) ∧ Reports fault.message layout.Breaks)
          ∧ ((∀ fault, ¬ layout.Breaks fault) →
            2 ^ 64 ≤ Numeral.denoted (AgentTag.digitsOf layout.tag) → ∃ fault,
              parse text = .error (.invalidConfig fault)
                ∧ fault.message = "\"" ++ layout.tag ++ "\" is not a valid agent tag"))
      ∧ (∀ version, NamesVersion line version → version ≠ knownVersion →
          parse text = .error (.unsupportedFormat (String.ofList version)))
      ∧ (¬ headerLead <+: Text.trimEnd line →
          parse text = .error (.corruption resource .missingHeader)) := by
  refine ⟨exists_parse_iff, fun line body hline => ⟨fun hversion => ⟨?_, fun layout hdecode => ⟨?_, ?_⟩⟩,
    fun version hversion hother => parse_of_other hline hversion hother,
    fun hlead => parse_of_unnamed hline hlead⟩⟩
  · exact fun fault hdecode => parse_of_undecoded hline hversion hdecode
  · intro hbroken
    rw [parse_of_decoded hline hversion hdecode]
    exact ofLayout_of_broken hbroken
  · intro hunbroken hlarge
    have htag : layout.tag.toList ∈ Pattern.tag.matches' := by
      by_contra hunmatched
      exact hunbroken _ (.badTag hunmatched)
    refine ⟨.notATag layout.tag, ?_, ?_⟩
    · rw [parse_of_decoded hline hversion hdecode]
      exact ofLayout_of_large hunbroken hlarge
    · rw [ConfigFault.message, AgentTag.quoted_eq htag, String.append_assoc]
      rfl

/-- One text that is accepted, and one for each of the ways to be refused. -/
theorem accepts_exactly_valid_short :
    (∃ config, parse (headed knownVersion (tagLine "machine-0")) = .ok config)
    ∧ (∃ fault, parse (headed knownVersion (tagLine "unit-0")) = .error (.invalidConfig fault)
      ∧ Reports fault.message (Layout.Breaks { tag := "unit-0" }))
    ∧ (∃ fault, parse (headed knownVersion (tagLine "machine-18446744073709551616"))
        = .error (.invalidConfig fault)
      ∧ fault.message = "\"machine-18446744073709551616\" is not a valid agent tag")
    ∧ parse (headed knownVersion []) = .error (.corruption resource (.undecodable (.missingField "tag")))
    ∧ parse (headed ['1', '.', '1', '8'] []) = .error (.unsupportedFormat (String.ofList ['1', '.', '1', '8']))
    ∧ parse "tag: machine-0" = .error (.corruption resource .missingHeader) := by
  have hfirst : ∀ body, FirstLine (headed knownVersion body).toList (headerLead ++ knownVersion) body :=
    fun _ => firstLine_headed (by decide)
  have hknown : NamesVersion (headerLead ++ knownVersion) knownVersion :=
    namesVersion_headed rfl rfl (by decide)
  refine ⟨?_, ?_, ?_, ?_, ?_, ?_⟩
  · obtain ⟨haccepted, -⟩ := accepts_exactly_valid (headed knownVersion (tagLine "machine-0"))
    have hvalid : Layout.Valid { tag := "machine-0" } := by
      refine Layout.valid_iff.2 ⟨Layout.faults_eq_nil_iff.1 (by decide), by decide⟩
    exact haccepted.2 ⟨_, _, _, hfirst _, hknown, decode_tagLine "machine-0", hvalid⟩
  · obtain ⟨-, hrefused⟩ := accepts_exactly_valid (headed knownVersion (tagLine "unit-0"))
    obtain ⟨hread, -⟩ := hrefused _ _ (hfirst _)
    obtain ⟨hbroken, -⟩ := (hread hknown).2 _ (decode_tagLine "unit-0")
    exact hbroken ⟨.badTag, .badTag fun h => absurd (fitsTag_iff.2 h) (by decide)⟩
  · obtain ⟨-, hrefused⟩ :=
      accepts_exactly_valid (headed knownVersion (tagLine "machine-18446744073709551616"))
    obtain ⟨hread, -⟩ := hrefused _ _ (hfirst _)
    obtain ⟨-, hlarge⟩ := (hread hknown).2 _ (decode_tagLine "machine-18446744073709551616")
    exact hlarge (Layout.faults_eq_nil_iff.1 (by decide)) (by decide)
  · obtain ⟨-, hrefused⟩ := accepts_exactly_valid (headed knownVersion [])
    obtain ⟨hread, -⟩ := hrefused _ _ (hfirst _)
    exact (hread hknown).1 _ rfl
  · obtain ⟨-, hrefused⟩ := accepts_exactly_valid (headed ['1', '.', '1', '8'] [])
    obtain ⟨-, hother, -⟩ := hrefused _ _ (firstLine_headed (by decide))
    exact hother _ (namesVersion_headed rfl rfl (by decide)) (by decide)
  · obtain ⟨-, hrefused⟩ := accepts_exactly_valid "tag: machine-0"
    obtain ⟨-, -, hunnamed⟩ := hrefused _ _ (.last (by decide))
    exact hunnamed (by decide)

end AgentConfig

end QuorumRescue
