/-
  What an address literal looks like.

  Evidence may be an address literal without brackets, and nothing else with colons in it is taken for
  one.  To know that no literal is also an address with a port, two facts about literals are enough:
  they are made of hexadecimal digits, colons and points, and they have two colons at least.  This file
  reads them off the grammar (`literal_of_isIpv6Literal`), which has groups of digits, runs of groups
  with a gap between them, and four octets in the place of the last two groups.

  1. **The specification** is `Passes`: from one place in a text to another there are only characters of
     literals, with so many colons among them.  It says nothing about what was read on the way.

  2. **The readers** of the grammar all drop a stretch of such characters from the start of the text.
     `Passes` composes (`Passes.trans`), so each reader has one lemma, `passes_` and its name, which is
     made from those of its parts; no reader is opened twice.

  3. **The crux** is the count for a run of groups (`passes_readGroups`).  Each group comes with a colon
     in front, but for the first one of the text, and for the second of the two that four octets stand
     for.  The induction is on how many groups there is room for.  It shows that so many groups come
     with as many colons but two at most.

  4. **So a literal has two colons**: in full it has eight groups, which is more than enough, and where
     groups are left out, two colons stand in their place (`passes_readIpv6`).  There is no bracket,
     since it is no character of literals (`notMem_of_isIpv6Literal`).
-/
import QuorumRescue.Network.Ip

namespace QuorumRescue.Network

/-- The characters that literals are made of. -/
def isLiteralChar (c : Char) : Bool :=
  (Numeral.digitValueIn 16 c).isSome || c == ':' || c == '.'

/-- From one place in a text to another there are only characters of literals, with some colons. -/
def Passes (colons : Nat) (text rest : List Char) : Prop :=
  ∃ passed, text = passed ++ rest ∧ (∀ c ∈ passed, isLiteralChar c) ∧ colons ≤ passed.count ':'

theorem Passes.refl (text : List Char) : Passes 0 text text := ⟨[], rfl, nofun, Nat.le_refl 0⟩

/-- **Stretches add up**, and so do their colons. -/
theorem Passes.trans {m n : Nat} {a b c : List Char} (h : Passes m a b) (h' : Passes n b c) :
    Passes (m + n) a c := by
  obtain ⟨first, rfl, hfirst, hm⟩ := h
  obtain ⟨second, rfl, hsecond, hn⟩ := h'
  refine ⟨first ++ second, by rw [List.append_assoc], ?_, ?_⟩
  · intro c hc
    rcases List.mem_append.1 hc with hc | hc
    · exact hfirst c hc
    · exact hsecond c hc
  · rw [List.count_append]
    omega

/-- A stretch with so many colons has fewer, too. -/
theorem Passes.mono {m n : Nat} {text rest : List Char} (h : Passes n text rest) (hle : m ≤ n) :
    Passes m text rest := by
  obtain ⟨passed, htext, hchars, hcount⟩ := h
  exact ⟨passed, htext, hchars, Nat.le_trans hle hcount⟩

/-- A lead that is taken off is a stretch with the colons that are in it. -/
theorem passes_of_dropLead {lead text rest : List Char} (h : Text.dropLead lead text = some rest)
    (hlead : lead.all isLiteralChar) : Passes (lead.count ':') text rest :=
  ⟨lead, Text.dropLead_eq_some.1 h, List.all_eq_true.1 hlead, Nat.le_refl _⟩

/-! ## Numerals and octets -/

/-- Digits of a smaller base are digits of a greater one. -/
theorem isLiteralChar_of_digit {base : Nat} {c : Char} (hbase : base ≤ 16)
    (h : (Numeral.digitValueIn base c).isSome) : isLiteralChar c := by
  obtain ⟨d, hd⟩ := Option.isSome_iff_exists.1 h
  obtain ⟨hvalue, hlt⟩ := Option.filter_eq_some_iff.1 hd
  have hsixteen : Numeral.digitValueIn 16 c = some d := by
    refine Option.filter_eq_some_iff.2 ⟨hvalue, ?_⟩
    have hlt : d < base := of_decide_eq_true hlt
    exact decide_eq_true (by omega)
  simp [isLiteralChar, hsixteen]

/-- Digits of any base up to sixteen are characters of literals. -/
theorem passes_readDigits {base most n : Nat} {text run rest : List Char} (hbase : base ≤ 16)
    (h : readDigits base most text = some (n, run, rest)) : Passes 0 text rest := by
  simp only [readDigits] at h
  split at h
  · obtain ⟨value, -, heq⟩ := Option.map_eq_some_iff.1 h
    simp only [Prod.mk.injEq] at heq
    obtain ⟨-, -, rfl⟩ := heq
    refine ⟨text.takeWhile _, List.takeWhile_append_dropWhile.symm, ?_, Nat.zero_le _⟩
    intro c hc
    exact isLiteralChar_of_digit hbase (List.all_eq_true.1 List.all_takeWhile c hc)
  · cases h

theorem passes_readOctet {text rest : List Char} {octet : UInt8}
    (h : readOctet text = some (octet, rest)) : Passes 0 text rest := by
  unfold readOctet at h
  split at h
  · next hdigits =>
    split at h
    · obtain ⟨-, rfl⟩ := Prod.mk.inj (Option.some.inj h)
      exact passes_readDigits (by decide) hdigits
    · cases h
  · cases h

theorem passes_readPointOctet {text rest : List Char} {octet : UInt8}
    (h : readPointOctet text = some (octet, rest)) : Passes 0 text rest := by
  obtain ⟨body, hpoint, hoctet⟩ := Option.bind_eq_some_iff.1 h
  exact (passes_of_dropLead hpoint rfl).trans (passes_readOctet hoctet)

/-- So four octets are a stretch of literal characters without any. -/
theorem passes_readIpv4 {text rest : List Char} {ip : Ipv4}
    (h : readIpv4 text = some (ip, rest)) : Passes 0 text rest := by
  unfold readIpv4 at h
  obtain ⟨⟨a, text₁⟩, ha, h⟩ := Option.bind_eq_some_iff.1 h
  obtain ⟨⟨b, text₂⟩, hb, h⟩ := Option.bind_eq_some_iff.1 h
  obtain ⟨⟨c, text₃⟩, hc, h⟩ := Option.bind_eq_some_iff.1 h
  obtain ⟨⟨d, text₄⟩, hd, h⟩ := Option.bind_eq_some_iff.1 h
  obtain ⟨-, rfl⟩ := Prod.mk.inj (Option.some.inj h)
  exact (((passes_readOctet ha).trans (passes_readPointOctet hb)).trans
    (passes_readPointOctet hc)).trans (passes_readPointOctet hd)

theorem passes_readGroup {text rest : List Char} {group : UInt16}
    (h : readGroup text = some (group, rest)) : Passes 0 text rest := by
  obtain ⟨⟨n, run, left⟩, hdigits, heq⟩ := Option.map_eq_some_iff.1 h
  obtain ⟨-, rfl⟩ := Prod.mk.inj heq
  exact passes_readDigits (by decide) hdigits

/-! ## Runs of groups -/

/-- What separates a group from what stands before it: a colon, but nothing at the start. -/
theorem passes_separator {first : Bool} {text body : List Char}
    (h : (if first then some text else Text.dropLead [':'] text) = some body) :
    Passes (if first then 0 else 1) text body := by
  cases first with
  | true =>
    obtain rfl := Option.some.inj h
    exact .refl text
  | false => exact passes_of_dropLead h rfl

/-- **A run of groups has a colon for each group**, but for the first one of the text and for the second
one of four octets. -/
theorem passes_readGroups (room : Nat) (first : Bool) (text : List Char) :
    ∃ colons, Passes colons text (readGroups room first text).rest
      ∧ (readGroups room first text).groups.length ≤ colons + 1 + if first then 1 else 0 := by
  induction room generalizing first text with
  | zero => exact ⟨0, .refl text, Nat.zero_le _⟩
  | succ room ih =>
    unfold readGroups
    split
    · exact ⟨0, .refl text, Nat.zero_le _⟩
    · next body hbody =>
      have hseparator := passes_separator hbody
      split
      · next ip rest hip =>
        have hpoints : readIpv4 body = some (ip, rest) := by
          split at hip
          · cases hip
          · exact hip
        refine ⟨_, hseparator.trans (passes_readIpv4 hpoints), ?_⟩
        cases first <;> simp [Ipv4.groups]
      · split
        · exact ⟨0, .refl text, Nat.zero_le _⟩
        · next group rest hgroup =>
          -- what follows a group is not at the start of the text any more
          obtain ⟨colons, hmore, hlength⟩ := ih false rest
          refine ⟨_, (hseparator.trans (passes_readGroup hgroup)).trans hmore, ?_⟩
          simp only [List.length_cons]
          cases first <;> simp at hlength ⊢ <;> omega

/-! ## Literals -/

/-- A literal in full has eight groups, and a shortened one has the two colons in the place of the
groups that are left out. -/
theorem passes_readIpv6 {text : List Char} {groups : List UInt16}
    (h : readIpv6 text = some groups) : Passes 2 text [] := by
  unfold readIpv6 at h
  obtain ⟨colons, hhead, hlength⟩ := passes_readGroups 8 true text
  simp only at h
  split at h
  · -- eight groups have seven colons between them
    next height =>
    split at h
    · next hempty =>
      rw [List.isEmpty_iff.1 hempty] at hhead
      have hmany : 2 ≤ colons := by simp only [if_true] at hlength; omega
      exact hhead.mono hmany
    · cases h
  · split at h
    · cases h
    · split at h
      · cases h
      · -- otherwise the gap alone has two
        next body hgap =>
        split at h
        · next hempty =>
          obtain ⟨more, htail, -⟩ := passes_readGroups
            (7 - (readGroups 8 true text).groups.length) true body
          rw [List.isEmpty_iff.1 hempty] at htail
          have hcolons := passes_of_dropLead hgap rfl
          refine ((hhead.trans hcolons).trans htail).mono ?_
          show 2 ≤ colons + 2 + more
          omega
        · cases h

/-- **A literal is made of hexadecimal digits, colons and points, with two colons at least.** It is what
    passes when groups are read, whether there is a gap or not. -/
theorem literal_of_isIpv6Literal {text : List Char} (h : isIpv6Literal text) :
    (∀ c ∈ text, isLiteralChar c) ∧ 2 ≤ text.count ':' := by
  have hread : ∃ groups, readIpv6 text = some groups := by
    unfold isIpv6Literal Ip.read at h
    split at h
    · next ip heq =>
      split at heq
      · split at heq <;> cases heq
      · obtain ⟨groups, hgroups, -⟩ := Option.map_eq_some_iff.1 heq
        exact ⟨groups, hgroups⟩
    · cases h
  obtain ⟨groups, hgroups⟩ := hread
  obtain ⟨passed, htext, hchars, hcount⟩ := passes_readIpv6 hgroups
  rw [List.append_nil] at htext
  rw [htext]
  exact ⟨hchars, hcount⟩

/-- There is nothing else in a literal, and no bracket in particular. -/
theorem notMem_of_isIpv6Literal {text : List Char} {c : Char} (h : isIpv6Literal text)
    (hc : isLiteralChar c = false) : c ∉ text := by
  intro hmem
  have hchar := (literal_of_isIpv6Literal h).1 c hmem
  rw [hc] at hchar
  cases hchar

end QuorumRescue.Network
