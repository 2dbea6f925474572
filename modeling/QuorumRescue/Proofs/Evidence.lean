/-
  What a machine knows of itself, and what it is good for.

  When nothing is advertised that tells who is to survive, the machine is asked for its own addresses.
  The answer comes from a listing of its interfaces, whose order is not fixed and which may name an
  address several times, in several forms.  This file says what is taken from such a listing, and that
  it makes good evidence.

  1. **The specification.** `IsExternal` says which texts are the machine's: four octets, as they are or
     mapped into an address of eight groups (`mapped`), on an interface that is up and leads outside,
     and not among those that never leave the machine (`Exposes`), written as decimal numbers with
     points between them (`dotted`).  The order of a listing and the way its entries are filtered do not
     occur in it.

  2. **The listing.** The texts that are found are exactly these, in order and each once
     (`externalAddresses_eq_ok_iff`), and there is a failure exactly if there are none.  Since this
     fixes the list, it does not matter how a listing is ordered and what it repeats
     (`externalAddresses_congr`).

  3. **The crux** for the search is that a text of four octets has no colon (`colon_notMem_dotted`), so
     that each of them is a host of its own, and reading one never fails.

  4. **The search.** `Identified` says what a search by a listing comes to.  It never fails for its
     evidence: what is invalid is a member's address, and the members that match are those with one of
     the texts for a host.

  5. **The result.** `own_addresses_settle` has the listing and the search together.
-/
import QuorumRescue.Network.Interface
import QuorumRescue.Proofs.Numeral
import QuorumRescue.Proofs.Resolution

namespace QuorumRescue

namespace Network

variable {entries other : List Interface} {ip : Ipv4} {text : String}

/-! ## Four octets -/

/-- The address `::ffff:a.b.c.d`, which stands for the four octets. -/
def mapped (ip : Ipv4) : Ip := .v6 ([0, 0, 0, 0, 0, 0xFFFF] ++ ip.groups)

theorem octets_of_group (a b : UInt8) :
    UInt8.ofNat ((UInt16.ofNat (a.toNat * 256 + b.toNat)).toNat / 256) = a
      ∧ UInt8.ofNat ((UInt16.ofNat (a.toNat * 256 + b.toNat)).toNat % 256) = b := by
  have ha := a.toNat_lt
  have hb := b.toNat_lt
  have hsmall : a.toNat * 256 + b.toNat < 2 ^ 16 := by omega
  have hhigh : (a.toNat * 256 + b.toNat) / 256 = a.toNat := by omega
  have hlow : (a.toNat * 256 + b.toNat) % 256 = b.toNat := by omega
  rw [UInt16.toNat_ofNat_of_lt' hsmall, hhigh, hlow, UInt8.ofNat_toNat, UInt8.ofNat_toNat]
  exact ⟨rfl, rfl⟩

theorem group_of_octets (g : UInt16) :
    UInt16.ofNat ((UInt8.ofNat (g.toNat / 256)).toNat * 256 + (UInt8.ofNat (g.toNat % 256)).toNat) = g := by
  have hg := g.toNat_lt
  have hhigh : g.toNat / 256 < 2 ^ 8 := by omega
  have hlow : g.toNat % 256 < 2 ^ 8 := by omega
  have hwhole : g.toNat / 256 * 256 + g.toNat % 256 = g.toNat := by omega
  rw [UInt8.toNat_ofNat_of_lt' hhigh, UInt8.toNat_ofNat_of_lt' hlow, hwhole, UInt16.ofNat_toNat]

/-- **Only four octets themselves and the address they are mapped to stand for them.** The two octets of a
    group can be taken apart and put together again, so no other address of eight groups does. -/
theorem asIpv4_eq_some_iff {address : Ip} :
    address.asIpv4 = some ip ↔ address = .v4 ip ∨ address = mapped ip := by
  constructor
  · intro h
    unfold Ip.asIpv4 at h
    split at h
    · exact Or.inl (congrArg Ip.v4 (Option.some.inj h))
    · next hi lo =>
      obtain rfl := Option.some.inj h
      refine Or.inr ?_
      simp only [mapped, Ipv4.groups, group_of_octets]
      rfl
    · cases h
  · rintro (rfl | rfl)
    · rfl
    · obtain ⟨h1, h2⟩ := octets_of_group ip.first ip.second
      obtain ⟨h3, h4⟩ := octets_of_group ip.third ip.fourth
      simp only [mapped, Ipv4.groups, List.cons_append, List.nil_append, Ip.asIpv4, h1, h2, h3, h4]

/-- The four octets as decimal numbers, with points between them. -/
def dotted (ip : Ipv4) : String :=
  toString ip.first.toNat ++ "." ++ toString ip.second.toNat ++ "." ++ toString ip.third.toNat ++ "."
    ++ toString ip.fourth.toNat

theorem toText_eq_dotted (ip : Ipv4) : String.ofList ip.toText = dotted ip := by
  have hpoint : ".".toList = ['.'] := rfl
  rw [← String.toList_inj, String.toList_ofList, Ipv4.toText, dotted]
  simp only [String.toList_append, hpoint, Numeral.toList_toString, List.append_assoc,
    List.cons_append, List.nil_append]

/-- A text of four octets has no colon. -/
theorem colon_notMem_dotted (ip : Ipv4) : ':' ∉ (dotted ip).toList := by
  have hdecimal : ∀ n, ':' ∉ Numeral.decimal n := by
    intro n hcolon
    obtain ⟨-, hdigits, -⟩ := Numeral.value_eq_some_iff.1 (Numeral.value_decimal n)
    exact absurd (hdigits _ hcolon) (by decide)
  rw [← toText_eq_dotted, String.toList_ofList, Ipv4.toText]
  simp [hdecimal]

/-! ## The texts of a listing -/

/-- Four octets that say where the machine is: they stand on an interface that is up and leads outside, and
are not among those that never leave the machine. -/
structure Exposes (entry : Interface) (ip : Ipv4) : Prop where
  up : entry.up = true
  outside : entry.loopback = false
  address : entry.address = some (.v4 ip) ∨ entry.address = some (mapped ip)
  leaves : ip.first ≠ 127

/-- A text that an entry of the listing gives for the machine. -/
def IsExternal (entries : List Interface) (text : String) : Prop :=
  ∃ entry ∈ entries, ∃ ip, Exposes entry ip ∧ text = dotted ip

/-- **An entry gives the octets that it exposes**, and no others. -/
theorem external_eq_some_iff {entry : Interface} : entry.external = some ip ↔ Exposes entry ip := by
  -- the addresses that never leave the machine are known by their first octet
  have hloopback : ∀ octets : Ipv4, !octets.isLoopback ↔ octets.first ≠ 127 := by
    intro octets
    simp [Ipv4.isLoopback]
  unfold Interface.external
  constructor
  · intro h
    split at h
    · next hflags =>
      simp only [Bool.and_eq_true, Bool.not_eq_true'] at hflags
      obtain ⟨hfound, hleaves⟩ := Option.filter_eq_some_iff.1 h
      obtain ⟨address, haddress, hstands⟩ := Option.bind_eq_some_iff.1 hfound
      refine ⟨hflags.1, hflags.2, ?_, (hloopback ip).1 hleaves⟩
      rw [haddress, Option.some.injEq, Option.some.injEq]
      exact asIpv4_eq_some_iff.1 hstands
    · cases h
  · rintro ⟨hup, houtside, haddress, hleaves⟩
    have hfound : entry.address.bind Ip.asIpv4 = some ip := by
      rcases haddress with haddress | haddress
      · rw [haddress]
        exact asIpv4_eq_some_iff.2 (Or.inl rfl)
      · rw [haddress]
        exact asIpv4_eq_some_iff.2 (Or.inr rfl)
    have hflags : (entry.up && !entry.loopback) = true := by rw [hup, houtside]; rfl
    rw [if_pos hflags, hfound, Option.filter_eq_some_iff]
    exact ⟨rfl, (hloopback ip).2 hleaves⟩

/-- The texts of a listing, in order and each once. -/
def foundIn (entries : List Interface) : List String :=
  Ordered.ofList ((entries.filterMap Interface.external).map fun ip => String.ofList ip.toText)

theorem mem_foundIn_iff : text ∈ foundIn entries ↔ IsExternal entries text := by
  rw [foundIn, Ordered.mem_ofList]
  simp only [List.mem_map, List.mem_filterMap, toText_eq_dotted, external_eq_some_iff]
  constructor
  · rintro ⟨ip, ⟨entry, hentry, hexposes⟩, rfl⟩
    exact ⟨entry, hentry, ip, hexposes, rfl⟩
  · rintro ⟨entry, hentry, ip, hexposes, rfl⟩
    exact ⟨ip, ⟨entry, hentry, hexposes⟩, rfl⟩

theorem foundIn_eq_nil_iff : foundIn entries = [] ↔ ¬ ∃ text, IsExternal entries text := by
  rw [List.eq_nil_iff_forall_not_mem, not_exists]
  exact forall_congr' fun text => not_congr mem_foundIn_iff

theorem externalAddresses_eq (entries : List Interface) : externalAddresses entries
    = if foundIn entries = [] then .error noAddress else .ok (foundIn entries) := by
  unfold externalAddresses
  split
  · next hnil =>
    have hnil : foundIn entries = [] := hnil
    rw [if_pos hnil]
  · next hne =>
    have hne : foundIn entries ≠ [] := hne
    rw [if_neg hne]
    rfl

/-- **The texts that are found are those of the external addresses**, in order and each once.  An ascending
    list is known by its members, so this fixes the answer. -/
theorem externalAddresses_eq_ok_iff {found : List String} : externalAddresses entries = .ok found ↔
    (∃ text, IsExternal entries text) ∧ found.Pairwise (· < ·)
      ∧ ∀ text, text ∈ found ↔ IsExternal entries text := by
  have hordered : (foundIn entries).Pairwise (· < ·) := Ordered.pairwise_ofList _
  rw [externalAddresses_eq]
  constructor
  · intro h
    split at h
    · cases h
    · next hne =>
      obtain rfl := Except.ok.inj h
      exact ⟨not_not.1 (mt foundIn_eq_nil_iff.2 hne), hordered, fun _ => mem_foundIn_iff⟩
  · rintro ⟨hsome, hascending, hmem⟩
    have hsame : foundIn entries = found :=
      hordered.eq_of_mem_iff hascending fun text => mem_foundIn_iff.trans (hmem text).symm
    rw [if_neg (mt foundIn_eq_nil_iff.1 (not_not.2 hsome)), hsame]

/-- **Without an external address there is nothing to go by**, and nothing else is ever wrong. -/
theorem externalAddresses_eq_error_iff {failure : Failure} : externalAddresses entries = .error failure ↔
    (¬ ∃ text, IsExternal entries text) ∧ failure = .notFound "external IPv4 address" := by
  rw [externalAddresses_eq, ← foundIn_eq_nil_iff]
  by_cases hnil : foundIn entries = []
  · simp [hnil, noAddress, eq_comm]
  · simp [hnil]

/-- It does not matter how a listing is ordered and what it repeats. -/
theorem externalAddresses_congr (h : ∀ entry, entry ∈ entries ↔ entry ∈ other) :
    externalAddresses entries = externalAddresses other := by
  have hexternal : ∀ text, IsExternal entries text ↔ IsExternal other text := by
    intro text
    simp only [IsExternal, h]
  have hsame : foundIn entries = foundIn other := by
    refine List.Pairwise.eq_of_mem_iff (Ordered.pairwise_ofList _) (Ordered.pairwise_ofList _) ?_
    exact fun text => mem_foundIn_iff.trans ((hexternal text).trans mem_foundIn_iff.symm)
  rw [externalAddresses_eq, externalAddresses_eq, hsame]

/-- Each text is a host of its own. -/
theorem host_of_isExternal (h : IsExternal entries text) : Evidence.host text = .ok text := by
  obtain ⟨entry, -, ip, -, rfl⟩ := h
  exact Evidence.host_of_bare fun hcolon => absurd hcolon (colon_notMem_dotted ip)

end Network

namespace Survivor

open Network

variable {entries : List Interface} {members : List Member} {advertised hosts : List String}
  {result : Except Failure Member}

/-! ## Members and the machine's own hosts -/

/-- A member's address has one of the machine's own texts for a host. -/
def Owned (entries : List Interface) (member : Member) : Prop :=
  ∃ host port, Address.split member.address = .ok (host, port) ∧ IsExternal entries host

/-- A member's address has another host. -/
def Foreign (entries : List Interface) (member : Member) : Prop :=
  ∃ host port, Address.split member.address = .ok (host, port) ∧ ¬ IsExternal entries host

/-- Whose host is known is either owned or foreign. -/
theorem owned_iff {member : Member} {host port : String}
    (h : Address.split member.address = .ok (host, port)) :
    Owned entries member ↔ IsExternal entries host := by
  constructor
  · rintro ⟨other, port', hother, hexternal⟩
    rw [h] at hother
    obtain ⟨rfl, -⟩ := Prod.mk.inj (Except.ok.inj hother)
    exact hexternal
  · intro hexternal
    exact ⟨host, port, h, hexternal⟩

theorem isAt_iff_owned (h : ∀ host, host ∈ hosts ↔ IsExternal entries host) {member : Member} :
    IsAt hosts member ↔ Owned entries member := by
  constructor
  · rintro ⟨host, hmem, hhost⟩
    obtain ⟨port, hsplit⟩ := Member.host_eq_ok_iff.1 hhost
    exact ⟨host, port, hsplit, (h host).1 hmem⟩
  · rintro ⟨host, port, hsplit, hexternal⟩
    exact ⟨host, (h host).2 hexternal, Member.host_eq_ok_iff.2 ⟨port, hsplit⟩⟩

theorem elsewhere_iff_foreign (h : ∀ host, host ∈ hosts ↔ IsExternal entries host) {member : Member} :
    Elsewhere hosts member ↔ Foreign entries member := by
  constructor
  · rintro ⟨host, hhost, hout⟩
    obtain ⟨port, hsplit⟩ := Member.host_eq_ok_iff.1 hhost
    exact ⟨host, port, hsplit, fun hexternal => hout ((h host).2 hexternal)⟩
  · rintro ⟨host, port, hsplit, hother⟩
    exact ⟨host, Member.host_eq_ok_iff.2 ⟨port, hsplit⟩, fun hmem => hother ((h host).1 hmem)⟩

/-! ## What ends a search -/

/-- A search is ended by the first member that is not known to be elsewhere, or by nobody. -/
theorem search_cases (hosts : List String) (members : List Member) :
    (∀ m ∈ members, Elsewhere hosts m) ∨ (∃ m, FirstWith (IsAt hosts) (Elsewhere hosts) members m)
      ∨ ∃ m fault, FirstWith (fun m => Address.split m.address = .error fault) (Elsewhere hosts) members m := by
  induction members with
  | nil => exact Or.inl nofun
  | cons head rest ih =>
    cases hsplit : Address.split head.address with
    | error fault => exact Or.inr (Or.inr ⟨head, fault, firstWith_cons.2 (Or.inl ⟨rfl, hsplit⟩)⟩)
    | ok parts =>
      have hhost : head.host = .ok parts.1 := Member.host_eq_ok_iff.2 ⟨parts.2, hsplit⟩
      by_cases hmem : parts.1 ∈ hosts
      · exact Or.inr (Or.inl ⟨head, firstWith_cons.2 (Or.inl ⟨rfl, parts.1, hmem, hhost⟩)⟩)
      · -- the head is elsewhere, so it is the rest that matters
        have hhead : Elsewhere hosts head := ⟨parts.1, hhost, hmem⟩
        rcases ih with hall | ⟨m, hfirst⟩ | ⟨m, fault, hfirst⟩
        · exact Or.inl (List.forall_mem_cons.2 ⟨hhead, hall⟩)
        · exact Or.inr (Or.inl ⟨m, firstWith_cons.2 (Or.inr ⟨hhead, hfirst⟩)⟩)
        · exact Or.inr (Or.inr ⟨m, fault, firstWith_cons.2 (Or.inr ⟨hhead, hfirst⟩)⟩)

/-- A search at known hosts reports an invalid address only for a member, the first that is not known to
be elsewhere. -/
theorem Searched.exists_invalid {address : String} {fault : AddressFault}
    (h : Searched members hosts (.error (.invalidAddress address fault))) :
    ∃ m, m.address = address
      ∧ FirstWith (fun m => Address.split m.address = .error fault) (Elsewhere hosts) members m := by
  rcases search_cases hosts members with hall | ⟨m, hfirst⟩ | ⟨m, cause, hfirst⟩
  · cases h.nobody hall
  · cases (h.found m).2 hfirst
  · have hresult := h.malformed m cause hfirst
    obtain ⟨rfl, rfl⟩ := Failure.invalidAddress.inj (Except.error.inj hresult)
    exact ⟨m, rfl, hfirst⟩

/-! ## Searching by a listing -/

/-- What a search by a listing of interfaces comes to. -/
structure Identified (entries : List Interface) (members : List Member) (result : Except Failure Member) :
    Prop where
  missing : (¬ ∃ text, IsExternal entries text) →
    result = .error (.notFound "external IP address to identify this node")
  found : ∀ member, result = .ok member ↔ FirstWith (Owned entries) (Foreign entries) members member
  invalid : ∀ address fault, result = .error (.invalidAddress address fault) →
    ∃ member ∈ members, member.address = address ∧ Address.split member.address = .error fault
  nobody : (∃ text, IsExternal entries text) → (∀ m ∈ members, Foreign entries m) →
    ∃ hosts, (∀ host, host ∈ hosts ↔ IsExternal entries host)
      ∧ result = .error (.leaderNotFound members.length hosts)

/-- With external addresses, the evidence is always good, and the search goes by all of them. -/
theorem searched_of_external (h : ∃ text, IsExternal entries text)
    (hneeds : NeedsMachine members advertised) :
    ∃ hosts, (∀ host, host ∈ hosts ↔ IsExternal entries host)
      ∧ Searched members hosts (resolve members advertised (externalAddresses entries)) := by
  have hown : externalAddresses entries = .ok (foundIn entries) :=
    externalAddresses_eq_ok_iff.2 ⟨h, Ordered.pairwise_ofList _, fun _ => mem_foundIn_iff⟩
  -- each external text is its own host, so the evidence is good and the hosts are the texts
  have hhost : ∀ address ∈ foundIn entries, Evidence.host address = .ok address :=
    fun address hmem => host_of_isExternal (mem_foundIn_iff.1 hmem)
  have hgood : ¬ ∃ address ∈ foundIn entries, Malformed address := by
    rintro ⟨address, hmem, failure, hfails⟩
    rw [hhost address hmem] at hfails
    cases hfails
  have hresolve : resolve members advertised (externalAddresses entries)
      = among members (.ok (foundIn entries)) := by
    rw [resolve_of_needsMachine hneeds, hown]
    rfl
  obtain ⟨hosts, -, hmem, hsearched⟩ := (settled_among members (foundIn entries)).wellFormed hgood
  refine ⟨hosts, fun host => ?_, hresolve ▸ hsearched⟩
  rw [hmem, ← mem_foundIn_iff]
  constructor
  · rintro ⟨address, haddress, hself⟩
    rw [hhost address haddress] at hself
    exact Except.ok.inj hself ▸ haddress
  · intro hfound
    exact ⟨host, hfound, hhost host hfound⟩

/-- **A search that asks the machine comes to what `Identified` says.** Without an external address the
    failure to find one is put in words of the search; with one, the search goes by all external texts as
    hosts. -/
theorem identified (hneeds : NeedsMachine members advertised) :
    Identified entries members (resolve members advertised (externalAddresses entries)) := by
  by_cases h : ∃ text, IsExternal entries text
  · obtain ⟨hosts, hhosts, hsearched⟩ := searched_of_external h hneeds
    -- the hosts that are searched at are the external texts, so both relations are the same
    have hat : IsAt hosts = Owned entries := funext fun _ => propext (isAt_iff_owned hhosts)
    have helse : Elsewhere hosts = Foreign entries := funext fun _ => propext (elsewhere_iff_foreign hhosts)
    constructor
    · intro hnone
      exact absurd h hnone
    · intro member
      rw [← hat, ← helse]
      exact hsearched.found member
    · intro address fault hresult
      rw [hresult] at hsearched
      obtain ⟨member, haddress, before, after, rfl, hsplit, -⟩ := hsearched.exists_invalid
      exact ⟨member, List.mem_append_right _ List.mem_cons_self, haddress, hsplit⟩
    · intro _ hall
      rw [← helse] at hall
      exact ⟨hosts, hhosts, hsearched.nobody hall⟩
  · -- without an external text the machine has no answer, and nobody is owned
    have hresult : resolve members advertised (externalAddresses entries)
        = .error (.notFound "external IP address to identify this node") := by
      rw [resolve_of_needsMachine hneeds, externalAddresses_eq_error_iff.2 ⟨h, rfl⟩]
      rfl
    rw [hresult]
    constructor
    · intro _
      rfl
    · intro member
      refine ⟨nofun, ?_⟩
      rintro ⟨before, after, -, ⟨host, port, -, hexternal⟩, -⟩
      exact absurd ⟨host, hexternal⟩ h
    · exact nofun
    · intro hsome
      exact absurd hsome h

/-- A member that the search comes to is the one exactly if its host is one of the machine's own. -/
theorem Identified.matches_iff (h : Identified entries members result) {before after : List Member}
    {member : Member} {host port : String} (hsplit : members = before ++ member :: after)
    (hbefore : ∀ m ∈ before, Foreign entries m)
    (hhost : Address.split member.address = .ok (host, port)) :
    result = .ok member ↔ IsExternal entries host := by
  rw [h.found, ← owned_iff hhost]
  constructor
  · rintro ⟨-, -, -, howned, -⟩
    exact howned
  · intro howned
    exact ⟨before, after, hsplit, howned, hbefore⟩

/-- **The machine's own addresses, and the search that goes by them.**  The texts that are found are those of
the external addresses, in order and each once, and the machine is said to have none exactly if there are
none.  A listing may be ordered otherwise or repeat itself.  Each text is a host of its own, so a search
that asks the machine fails for a member's address or not for an address at all, and a member that it
comes to matches exactly if its host is one of the texts. -/
theorem own_addresses_settle (entries : List Interface) :
    (∀ found, externalAddresses entries = .ok found ↔ (∃ text, IsExternal entries text)
      ∧ found.Pairwise (· < ·) ∧ ∀ text, text ∈ found ↔ IsExternal entries text)
    ∧ (∀ failure, externalAddresses entries = .error failure ↔ (¬ ∃ text, IsExternal entries text)
      ∧ failure = .notFound "external IPv4 address")
    ∧ (∀ other, (∀ entry, entry ∈ entries ↔ entry ∈ other) →
      externalAddresses entries = externalAddresses other)
    ∧ (∀ text, IsExternal entries text → Evidence.host text = .ok text)
    ∧ ∀ members advertised, NeedsMachine members advertised →
      Identified entries members (resolve members advertised (externalAddresses entries))
      ∧ ∀ before member after host port, members = before ++ member :: after →
        (∀ m ∈ before, Foreign entries m) → Address.split member.address = .ok (host, port) →
        (resolve members advertised (externalAddresses entries) = .ok member ↔ IsExternal entries host) := by
  refine ⟨fun _ => externalAddresses_eq_ok_iff, fun _ => externalAddresses_eq_error_iff,
    fun _ h => externalAddresses_congr h, fun _ h => host_of_isExternal h,
    fun members advertised hneeds => ⟨identified hneeds, ?_⟩⟩
  intro before member after host port hsplit hbefore hhost
  exact (identified hneeds).matches_iff hsplit hbefore hhost

/-- A machine with the address of the second of two members, and another one in eight groups. -/
def pairListing : List Interface :=
  [⟨"lo", true, true, some (.v4 ⟨127, 0, 0, 1⟩)⟩, ⟨"eth0", true, false, some (.v4 ⟨10, 0, 0, 2⟩)⟩,
   ⟨"eth1", true, false, some (.v6 [0, 0, 0, 0, 0, 0xFFFF, 0xC0A8, 4])⟩,
   ⟨"eth2", false, false, some (.v4 ⟨10, 0, 0, 1⟩)⟩]

/-- The interface that leads nowhere and the one that is down give nothing. -/
theorem foundIn_pairListing : foundIn pairListing = ["10.0.0.2", "192.168.0.4"] := by
  have hexternal : pairListing.filterMap Interface.external = [⟨10, 0, 0, 2⟩, ⟨192, 168, 0, 4⟩] := by decide
  have hfirst : String.ofList (Ipv4.toText ⟨10, 0, 0, 2⟩) = "10.0.0.2" := by
    simp [Ipv4.toText, Numeral.decimal, Numeral.digitChar]
  have hsecond : String.ofList (Ipv4.toText ⟨192, 168, 0, 4⟩) = "192.168.0.4" := by
    simp [Ipv4.toText, Numeral.decimal, Numeral.digitChar]
  rw [foundIn, hexternal, List.map_cons, List.map_cons, List.map_nil, hfirst, hsecond]
  decide

/-- It is the second member, in whatever order its addresses are listed. -/
theorem own_addresses_settle_pair :
    externalAddresses pairListing = .ok ["10.0.0.2", "192.168.0.4"]
    ∧ externalAddresses pairListing.reverse = externalAddresses pairListing
    ∧ Evidence.host "192.168.0.4" = .ok "192.168.0.4"
    ∧ resolve Setup.pairMembers ["10.0.0.1:17070", "10.0.0.2:17070"] (externalAddresses pairListing)
        = .ok ⟨2, "10.0.0.2:17666", .voter⟩ := by
  have hfound : externalAddresses pairListing = .ok ["10.0.0.2", "192.168.0.4"] := by
    rw [externalAddresses_eq, foundIn_pairListing]
    rfl
  have hneeds : NeedsMachine Setup.pairMembers ["10.0.0.1:17070", "10.0.0.2:17070"] := Or.inr (by decide)
  obtain ⟨hexact, -, horder, hhosts, hsearch⟩ := own_addresses_settle pairListing
  obtain ⟨-, -, hmem⟩ := (hexact _).1 hfound
  have hfirst : Foreign pairListing ⟨1, "10.0.0.1:17666", .voter⟩ := by
    refine ⟨"10.0.0.1", "17666", rfl, fun hexternal => ?_⟩
    exact absurd ((hmem "10.0.0.1").2 hexternal) (by decide)
  refine ⟨hfound, (horder _ fun entry => List.mem_reverse.symm).symm, hhosts _ ((hmem _).1 (by decide)), ?_⟩
  obtain ⟨-, hmatches⟩ := hsearch Setup.pairMembers _ hneeds
  refine (hmatches [⟨1, "10.0.0.1:17666", .voter⟩] ⟨2, "10.0.0.2:17666", .voter⟩ [] "10.0.0.2" "17666" rfl
    ?_ rfl).2 ((hmem _).1 (by decide))
  intro m hm
  rwa [List.mem_singleton.1 hm]

end Survivor

end QuorumRescue
