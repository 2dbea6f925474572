/-
  The grammar of addresses.

  Addresses come from three sides: a member's address is on record with its port, the advertised ones
  are in the configuration with theirs, and the machine's own come without.  They meet where the
  survivor is looked for, which compares hosts.  So it matters that the host of an address does not
  depend on the form that it comes in.

  1. **The specification** is `Written`, which has the address put together from a host and a port, in
     one of two forms.  Without brackets, a single colon stands between them, so the host has none of
     its own and does not look like the start of the other form (`StandsBare`).  In brackets, the host
     may be anything without a closing bracket.  A port is anything without a colon (`IsPort`).  Nothing
     is split in these definitions.

  2. **Splitting** finds exactly the host and the port that an address was written with
     (`split_eq_ok_iff`).  From that one equivalence follows the rest of `split_exactly_written`: there
     is only one way to have written an address, printing and splitting undo each other, and what was
     not written so is refused with the text as it is.  Over characters, it is the first one that
     decides which form is tried (`splitChars_eq_ok_iff`).

  3. **Evidence** may be a host alone, and is then its own host.  That is so for a text without a colon,
     and for an address literal with colons, which would otherwise be split at its last one.

  4. **The crux** is that these cases do not overlap: no literal is an address in one of the two forms
     (`Written.not_literal`).  A literal has two colons at least and no bracket, while a bare address
     has one colon and the other form begins with a bracket.  So what splitting finds in an address is
     also what it is evidence for, a host is found again with a port and without (`StandsFor`), and
     evidence fails only where there is a colon, no literal, and nothing to split
     (`same_host_in_all_forms`).
-/
import QuorumRescue.Proofs.Literal
import QuorumRescue.Survivor

namespace QuorumRescue

namespace Address

/-! ## Over characters -/

/-- Behind an opening bracket, the host goes up to the first closing one, and the port is behind the colon
    that has to follow. -/
theorem splitBracketed_eq_ok_iff {body host port : List Char} :
    splitBracketed body = .ok (host, port) ↔
      body = host ++ ']' :: ':' :: port ∧ ']' ∉ host ∧ ':' ∉ port := by
  unfold splitBracketed
  constructor
  · intro h
    split at h
    · cases h
    · next front tail hfirst =>
      obtain ⟨rfl, hfront⟩ := Text.splitFirst_eq_some.1 hfirst
      split at h
      · cases h
      · next back hback =>
        obtain rfl := Text.dropLead_eq_some.1 hback
        split at h
        · cases h
        · next hcolon =>
          obtain ⟨rfl, rfl⟩ := Prod.mk.inj (Except.ok.inj h)
          exact ⟨rfl, hfront, by simpa using hcolon⟩
  · rintro ⟨rfl, hhost, hport⟩
    have hfirst : Text.splitFirst ']' (host ++ ']' :: ':' :: port) = some (host, ':' :: port) :=
      Text.splitFirst_eq_some.2 ⟨rfl, hhost⟩
    simp [hfirst, Text.dropLead, hport]

/-- Without brackets the text is cut at its last colon, and it must be the only one. -/
theorem splitPlain_eq_ok_iff {text host port : List Char} :
    splitPlain text = .ok (host, port) ↔ text = host ++ ':' :: port ∧ ':' ∉ host ∧ ':' ∉ port := by
  unfold splitPlain
  constructor
  · intro h
    split at h
    · cases h
    · next front back hlast =>
      obtain ⟨rfl, hback⟩ := Text.splitLast_eq_some.1 hlast
      split at h
      · cases h
      · next hcolon =>
        obtain ⟨rfl, rfl⟩ := Prod.mk.inj (Except.ok.inj h)
        exact ⟨rfl, by simpa using hcolon, hback⟩
  · rintro ⟨rfl, hhost, hport⟩
    have hlast : Text.splitLast ':' (host ++ ':' :: port) = some (host, port) :=
      Text.splitLast_eq_some.2 ⟨rfl, hport⟩
    simp [hlast, hhost]

/-- The first character decides which form is tried, and a host that starts with a bracket cannot stand
without another. -/
theorem splitChars_eq_ok_iff {text host port : List Char} :
    splitChars text = .ok (host, port) ↔
      (text = host ++ ':' :: port ∧ ':' ∉ host ∧ host.head? ≠ some '[' ∧ ':' ∉ port)
        ∨ (text = '[' :: (host ++ ']' :: ':' :: port) ∧ ']' ∉ host ∧ ':' ∉ port) := by
  unfold splitChars
  split
  · next body hlead =>
    obtain rfl : text = '[' :: body := Text.dropLead_eq_some.1 hlead
    -- a text with a bracket at its head has no host without one, and the other way round
    have hnotplain : ¬ ('[' :: body = host ++ ':' :: port ∧ ':' ∉ host ∧ host.head? ≠ some '['
        ∧ ':' ∉ port) := by
      rintro ⟨htext, -, hhead, -⟩
      cases host with
      | nil => cases htext
      | cons c rest =>
        obtain ⟨rfl, -⟩ := List.cons.inj htext
        exact hhead rfl
    rw [splitBracketed_eq_ok_iff, or_iff_right hnotplain, List.cons.injEq]
    simp
  · next hlead =>
    have hnotbracketed : ¬ (text = '[' :: (host ++ ']' :: ':' :: port) ∧ ']' ∉ host ∧ ':' ∉ port) := by
      rintro ⟨rfl, -, -⟩
      cases hlead
    rw [splitPlain_eq_ok_iff, or_iff_left hnotbracketed]
    constructor
    · rintro ⟨rfl, hhost, hport⟩
      refine ⟨rfl, hhost, ?_, hport⟩
      intro hhead
      obtain ⟨rest, rfl⟩ : ∃ rest, host = '[' :: rest := List.head?_eq_some_iff.1 hhead
      cases hlead
    · rintro ⟨htext, hhost, -, hport⟩
      exact ⟨htext, hhost, hport⟩

/-! ## Written forms -/

/-- Host and port with a colon between them. -/
def plainText (host port : String) : String := host ++ ":" ++ port

/-- The same, with the host in brackets. -/
def bracketedText (host port : String) : String := "[" ++ host ++ "]:" ++ port

/-- A host that needs no brackets: it has no colon, and does not look like the bracketed form. -/
def StandsBare (host : String) : Prop := ':' ∉ host.toList ∧ host.toList.head? ≠ some '['

/-- A text that can stand as a port.  Only a colon is excluded. -/
def IsPort (port : String) : Prop := ':' ∉ port.toList

instance (host : String) : Decidable (StandsBare host) :=
  inferInstanceAs (Decidable (':' ∉ host.toList ∧ host.toList.head? ≠ some '['))

instance (port : String) : Decidable (IsPort port) := inferInstanceAs (Decidable (':' ∉ port.toList))

/-- An address that is written with a host and a port, in one of the two forms. -/
def Written (address host port : String) : Prop :=
  (address = plainText host port ∧ StandsBare host ∧ IsPort port)
    ∨ (address = bracketedText host port ∧ ']' ∉ host.toList ∧ IsPort port)

theorem toList_plainText (host port : String) :
    (plainText host port).toList = host.toList ++ ':' :: port.toList := by
  simp [plainText]

theorem toList_bracketedText (host port : String) :
    (bracketedText host port).toList = '[' :: (host.toList ++ ']' :: ':' :: port.toList) := by
  simp [bracketedText]

/-- Splitting a string is splitting its characters. -/
theorem split_eq_ok_iff_chars {address host port : String} :
    split address = .ok (host, port)
      ↔ splitChars address.toList = .ok (host.toList, port.toList) := by
  unfold split
  cases splitChars address.toList with
  | error fault => simp [Except.map]
  | ok parts =>
    obtain ⟨front, back⟩ := parts
    simp only [Except.map, Except.ok.injEq, Prod.mk.injEq]
    constructor
    · rintro ⟨rfl, rfl⟩
      exact ⟨String.toList_ofList.symm, String.toList_ofList.symm⟩
    · rintro ⟨rfl, rfl⟩
      exact ⟨String.ofList_toList, String.ofList_toList⟩

/-- **Splitting finds the host and the port that an address was written with.** The two ways of writing
    exclude each other, since a host without brackets has no bracket at its head, so there is one answer at
    most. -/
theorem split_eq_ok_iff {address host port : String} :
    split address = .ok (host, port) ↔ Written address host port := by
  rw [split_eq_ok_iff_chars, splitChars_eq_ok_iff, ← toList_plainText, ← toList_bracketedText,
    String.toList_inj, String.toList_inj, Written, StandsBare, IsPort, and_assoc]

/-- A printed address without brackets is split into what it was printed from. -/
theorem split_plainText {host port : String} (hbare : StandsBare host) (hport : IsPort port) :
    split (plainText host port) = .ok (host, port) :=
  split_eq_ok_iff.2 (Or.inl ⟨rfl, hbare, hport⟩)

/-- So is one with brackets, whose host may have colons. -/
theorem split_bracketedText {host port : String} (hhost : ']' ∉ host.toList) (hport : IsPort port) :
    split (bracketedText host port) = .ok (host, port) :=
  split_eq_ok_iff.2 (Or.inr ⟨rfl, hhost, hport⟩)

/-- What was not written with a host and a port is not split. -/
theorem exists_fault_iff {address : String} :
    (∃ fault, split address = .error fault) ↔ ¬ ∃ host port, Written address host port := by
  simp only [← split_eq_ok_iff]
  constructor
  · rintro ⟨fault, hfault⟩ ⟨host, port, hparts⟩
    rw [hfault] at hparts
    cases hparts
  · intro hnone
    cases hsplit : split address with
    | error fault => exact ⟨fault, rfl⟩
    | ok parts => exact absurd ⟨parts.1, parts.2, hsplit⟩ hnone

end Address

/-! ## Members -/

/-- The host of a member is what its address splits into. -/
theorem Member.host_eq_ok_iff {member : Member} {host : String} :
    member.host = .ok host ↔ ∃ port, Address.split member.address = .ok (host, port) := by
  unfold Member.host
  split
  · next found port hsplit => simp [hsplit, eq_comm]
  · next fault hsplit => simp [hsplit]

/-- Where it cannot be split, the member's address is reported as it is. -/
theorem Member.host_eq_error_iff {member : Member} {failure : Failure} :
    member.host = .error failure
      ↔ ∃ fault, Address.split member.address = .error fault
        ∧ failure = .invalidAddress member.address fault := by
  unfold Member.host
  split
  · next found port hsplit => simp [hsplit]
  · next fault hsplit => simp [hsplit, eq_comm]

namespace Address

/-- **Splitting accepts exactly what is written with a host and a port, and loses nothing.**  It finds
the two parts that were written, there is no other way to have written them, and whatever is refused
is reported as it is. -/
theorem split_exactly_written :
    (∀ address host port, split address = .ok (host, port) ↔ Written address host port)
    ∧ (∀ address host port host' port', Written address host port → Written address host' port' →
        host = host' ∧ port = port')
    ∧ (∀ host port, IsPort port →
        (StandsBare host → split (plainText host port) = .ok (host, port))
          ∧ (']' ∉ host.toList → split (bracketedText host port) = .ok (host, port)))
    ∧ ∀ address, (¬ ∃ host port, Written address host port) →
        ∃ fault, split address = .error fault
          ∧ ∀ member : Member, member.address = address →
            member.host = .error (.invalidAddress address fault) := by
  refine ⟨fun _ _ _ => split_eq_ok_iff, ?_, ?_, ?_⟩
  · intro address host port host' port' h h'
    have hparts := split_eq_ok_iff.2 h
    rw [split_eq_ok_iff.2 h'] at hparts
    obtain ⟨hhost, hport⟩ := Prod.mk.inj (Except.ok.inj hparts)
    exact ⟨hhost.symm, hport.symm⟩
  · intro host port hport
    constructor
    · intro hbare
      exact split_plainText hbare hport
    · intro hhost
      exact split_bracketedText hhost hport
  · intro address hnone
    obtain ⟨fault, hfault⟩ := exists_fault_iff.2 hnone
    refine ⟨fault, hfault, ?_⟩
    rintro member rfl
    exact Member.host_eq_error_iff.2 ⟨fault, hfault, rfl⟩

/-- A host with colons is found between its brackets, and without them nothing is. -/
theorem split_exactly_written_colons :
    split (bracketedText "fe80::1" "17666") = .ok ("fe80::1", "17666")
      ∧ ∃ fault, split "fe80::1:17666" = .error fault
        ∧ (⟨1, "fe80::1:17666", .voter⟩ : Member).host
          = .error (.invalidAddress "fe80::1:17666" fault) := by
  obtain ⟨hsplit, hunique, hprinted, hrefused⟩ := split_exactly_written
  refine ⟨(hprinted "fe80::1" "17666" (by decide)).2 (by decide), ?_⟩
  have hnone : ¬ ∃ host port, Written "fe80::1:17666" host port := by
    rintro ⟨host, port, hwritten⟩
    have hparts := (hsplit _ _ _).2 hwritten
    have hfault : split "fe80::1:17666" = .error .tooManyColons := by rfl
    rw [hfault] at hparts
    cases hparts
  obtain ⟨fault, hfault, hmember⟩ := hrefused "fe80::1:17666" hnone
  exact ⟨fault, hfault, hmember _ rfl⟩

/-! ## Literals are not addresses -/

/-- What is written with a host and a port has a colon, and is no literal: a literal has two colons
outside of brackets. -/
theorem Written.not_literal {address host port : String} (h : Written address host port) :
    ':' ∈ address.toList ∧ ¬ Network.isIpv6Literal address.toList := by
  rcases h with ⟨rfl, ⟨hhost, -⟩, hport⟩ | ⟨rfl, -, -⟩
  · rw [toList_plainText]
    refine ⟨by simp, fun hliteral => ?_⟩
    have hcolons := (Network.literal_of_isIpv6Literal hliteral).2
    rw [List.count_append, List.count_cons_self, List.count_eq_zero.2 hhost,
      List.count_eq_zero.2 hport] at hcolons
    omega
  · rw [toList_bracketedText]
    refine ⟨by simp, fun hliteral => ?_⟩
    exact Network.notMem_of_isIpv6Literal hliteral rfl List.mem_cons_self

/-- A text without a colon is a host, and so is a literal; all other hosts have a port beside them. -/
theorem host_eq (address : String) :
    host address = if ':' ∈ address.toList ∧ ¬ Network.isIpv6Literal address.toList then
        (split address).map (·.1)
      else .ok address := by
  have hself : String.ofList address.toList = address := String.ofList_toList
  unfold host hostChars split
  by_cases hcolon : ':' ∈ address.toList
  · by_cases hliteral : Network.isIpv6Literal address.toList
    · simp [hcolon, hliteral, Except.map, hself]
    · simp only [hcolon, hliteral]
      cases splitChars address.toList <;> simp [Except.map, hcolon]
  · simp [hcolon, Except.map, hself]

end Address

namespace Evidence

open Address

/-- Evidence that has no port is its own host. -/
theorem host_of_bare {address : String}
    (h : ':' ∈ address.toList → Network.isIpv6Literal address.toList) :
    host address = .ok address := by
  have hnot : ¬ (':' ∈ address.toList ∧ ¬ Network.isIpv6Literal address.toList) :=
    fun ⟨hcolon, hliteral⟩ => hliteral (h hcolon)
  simp only [host, Address.host_eq, if_neg hnot]

/-- Evidence with a port is split as a member's address is. -/
theorem host_of_split {address name port : String} (h : split address = .ok (name, port)) :
    host address = .ok name := by
  have hwritten := split_eq_ok_iff.1 h
  simp only [host, Address.host_eq, if_pos hwritten.not_literal, h, Except.map]

/-- Evidence has no host exactly where there is a colon, no literal, and nothing to split. -/
theorem host_eq_error_iff {address : String} {failure : Failure} :
    host address = .error failure ↔
      (':' ∈ address.toList ∧ ¬ Network.isIpv6Literal address.toList)
        ∧ ∃ fault, split address = .error fault ∧ failure = .invalidAddress address fault := by
  by_cases hsplit : ':' ∈ address.toList ∧ ¬ Network.isIpv6Literal address.toList
  · simp only [host, Address.host_eq, if_pos hsplit]
    cases split address with
    | error fault => simp [Except.map, hsplit, eq_comm]
    | ok parts => simp [Except.map]
  · simp only [host, Address.host_eq, hsplit, false_and]
    exact ⟨nofun, nofun⟩

end Evidence

namespace Address

/-- In all its forms an address stands for one host: a member's address, evidence with another port,
and evidence without one. -/
def StandsFor (text : String → String) (host : String) : Prop :=
  ∀ port port', IsPort port → IsPort port' →
    (∀ member : Member, member.address = text port → member.host = .ok host)
      ∧ Evidence.host (text port') = .ok host
      ∧ Evidence.host host = .ok host

/-- A host that is found with any port stands for itself in all forms, if it may stand alone. -/
theorem standsFor_of_split {text : String → String} {host : String}
    (h : ∀ port, IsPort port → split (text port) = .ok (host, port))
    (hbare : ':' ∈ host.toList → Network.isIpv6Literal host.toList) : StandsFor text host := by
  intro port port' hport hport'
  refine ⟨?_, Evidence.host_of_split (h port' hport'), Evidence.host_of_bare hbare⟩
  intro member haddress
  refine Member.host_eq_ok_iff.2 ⟨port, ?_⟩
  rw [haddress]
  exact h port hport

/-- **A host is the same in all forms.**  What splitting finds in an address is also what it is evidence
for.  A host that stands bare and a literal are found again with and without a port.  And evidence
fails only where there is a colon, no literal, and nothing to split. -/
theorem same_host_in_all_forms :
    (∀ address host port, split address = .ok (host, port) → Evidence.host address = .ok host)
    ∧ (∀ host, StandsBare host → StandsFor (plainText host) host)
    ∧ (∀ host, Network.isIpv6Literal host.toList → StandsFor (bracketedText host) host)
    ∧ ∀ address failure, Evidence.host address = .error failure ↔
        (':' ∈ address.toList ∧ ¬ Network.isIpv6Literal address.toList)
          ∧ ∃ fault, split address = .error fault ∧ failure = .invalidAddress address fault := by
  refine ⟨fun _ _ _ => Evidence.host_of_split, ?_, ?_, fun _ _ => Evidence.host_eq_error_iff⟩
  · intro host hbare
    apply standsFor_of_split
    · intro port hport
      exact split_plainText hbare hport
    · intro hcolon
      exact absurd hcolon hbare.1
  · intro host hliteral
    apply standsFor_of_split
    · intro port hport
      have hclosed : ']' ∉ host.toList := Network.notMem_of_isIpv6Literal hliteral rfl
      exact split_bracketedText hclosed hport
    · intro _
      exact hliteral

/-- A literal in brackets names the same host as the literal alone, and a host name the same as with a
port; a literal with a port but without brackets names none. -/
theorem same_host_in_all_forms_literal :
    Network.isIpv6Literal "fe80::10.0.0.1".toList
      ∧ (⟨1, "[fe80::10.0.0.1]:17666", .voter⟩ : Member).host = .ok "fe80::10.0.0.1"
      ∧ Evidence.host "fe80::10.0.0.1" = .ok "fe80::10.0.0.1"
      ∧ Evidence.host "controller-0:17070" = .ok "controller-0"
      ∧ ∃ failure, Evidence.host "[fe80::1]" = .error failure := by
  obtain ⟨hsplit, hbare, hliterals, hfails⟩ := same_host_in_all_forms
  have hliteral : Network.isIpv6Literal "fe80::10.0.0.1".toList := by decide
  obtain ⟨hmember, -, hself⟩ := hliterals _ hliteral "17666" "17070" (by decide) (by decide)
  obtain ⟨-, hname, -⟩ := hbare "controller-0" (by decide) "17666" "17070" (by decide) (by decide)
  exact ⟨hliteral, hmember _ rfl, hself, hname, _,
    (hfails "[fe80::1]" _).2 ⟨by decide, _, rfl, rfl⟩⟩

end Address

end QuorumRescue
