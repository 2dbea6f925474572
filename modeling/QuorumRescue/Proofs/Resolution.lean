/-
  What the search for the survivor comes to.

  The search goes by a set of addresses, which are the advertised ones or the machine's own, through
  members whose addresses may be of any form.  Several things can be wrong at once, and then it matters
  which of them is reported.  This file fixes the answer of a search for any members and any evidence.

  1. **The specification.** Four answers compete, and `Settled` lists them with the conditions.  An
     address of the evidence that names no host spoils all of it, and of several such addresses the
     least one is reported.  Otherwise the members are tried in their order, and the first one that is
     not known to be elsewhere ends the search (`Searched`): it is the survivor if it is at one of the
     hosts, and an invalid address if it is nowhere.  Where everybody is elsewhere there is no leader,
     and the report has the hosts.

  2. **The evidence.** Hosts are found in order and each once, so it does not matter how the evidence is
     ordered and what it repeats.  It is tried in order, so the first address that names no host is the
     least of them (`hostSet_of_malformed`).  That is the crux: the evidence is a set, and which address
     is reported depends on how the set is gone through.

  3. **The members.** The search goes along the list, and each element passes it on or ends it.
     `FirstWith` has this for any property that stops and any that passes, and the three ways to end are
     three instances.

  4. **The machine** takes part in the statement as somebody who may answer differently each time:
     `resolveAsking` asks it in the course of the search.  It is asked if the advertised addresses
     cannot tell (`NeedsMachine`), and then once.

  5. **The result** is `resolve_settled`.
-/
import QuorumRescue.Proofs.Address
import QuorumRescue.Proofs.Choice

namespace QuorumRescue.Survivor

variable {members : List Member} {advertised addresses hosts : List String}

/-! ## The hosts of the evidence -/

/-- Hosts that are found are found for each address. -/
theorem map_host_of_hostsOf (h : hostsOf addresses = .ok hosts) :
    addresses.map Evidence.host = hosts.map .ok := by
  induction addresses generalizing hosts with
  | nil =>
    obtain rfl := Except.ok.inj h
    rfl
  | cons head rest ih =>
    unfold hostsOf at h
    split at h
    · cases h
    · next host hhead =>
      split at h
      · cases h
      · next more hrest =>
        obtain rfl := Except.ok.inj h
        rw [List.map_cons, List.map_cons, hhead, ih hrest]

/-- Hosts that are not found fail with the first address that names none. -/
theorem firstWith_of_hostsOf {failure : Failure}
    (h : hostsOf addresses = .error failure) :
    ∃ address, FirstWith (fun a => Evidence.host a = .error failure)
      (fun a => ∃ host, Evidence.host a = .ok host) addresses address := by
  induction addresses with
  | nil => cases h
  | cons head rest ih =>
    unfold hostsOf at h
    split at h
    · next hhead =>
      obtain rfl := Except.error.inj h
      exact ⟨head, firstWith_cons.2 (Or.inl ⟨rfl, hhead⟩)⟩
    · next host hhead =>
      split at h
      · next hrest =>
        obtain rfl := Except.error.inj h
        obtain ⟨address, hfirst⟩ := ih hrest
        exact ⟨address, firstWith_cons.2 (Or.inr ⟨⟨host, hhead⟩, hfirst⟩)⟩
      · cases h

/-- An address that names no host. -/
def Malformed (address : String) : Prop := ∃ failure, Evidence.host address = .error failure

/-- The least of the addresses that name no host. -/
structure LeastMalformed (addresses : List String) (address : String) (fault : AddressFault) : Prop where
  mem : address ∈ addresses
  malformed : Evidence.host address = .error (.invalidAddress address fault)
  least : ∀ other ∈ addresses, Malformed other → address ≤ other

/-- **The least address without a host spoils the evidence.** The evidence is tried in ascending order, so
    whatever is tried before the first one that fails is less than it, and names a host. -/
theorem hostSet_of_malformed (h : ∃ address ∈ addresses, Malformed address) :
    ∃ address fault, LeastMalformed addresses address fault
      ∧ hostSet addresses = .error (.invalidAddress address fault) := by
  cases hhosts : hostsOf (Ordered.ofList addresses) with
  | ok hosts =>
    -- every address would have a host then
    exfalso
    obtain ⟨address, hmem, failure, hfails⟩ := h
    have hhost : Evidence.host address ∈ hosts.map Except.ok := by
      rw [← map_host_of_hostsOf hhosts]
      exact List.mem_map_of_mem (Ordered.mem_ofList.2 hmem)
    obtain ⟨host, -, hok⟩ := List.mem_map.1 hhost
    rw [hfails] at hok
    cases hok
  | error failure =>
    obtain ⟨address, before, after, hsplit, hfails, hbefore⟩ := firstWith_of_hostsOf hhosts
    obtain ⟨-, fault, -, rfl⟩ := Evidence.host_eq_error_iff.1 hfails
    refine ⟨address, fault, ⟨?_, hfails, ?_⟩, by simp only [hostSet, hhosts, Except.map]⟩
    · rw [← Ordered.mem_ofList, hsplit]
      simp
    · intro other hmem hother
      -- whatever is less than the first one that fails comes before it, and has a host
      have hordered := Ordered.pairwise_ofList addresses
      rw [hsplit] at hordered
      rw [← Ordered.mem_ofList, hsplit] at hmem
      rcases List.mem_append.1 hmem with hmem | hmem
      · obtain ⟨host, hhost⟩ := hbefore other hmem
        obtain ⟨cause, hcause⟩ := hother
        rw [hhost] at hcause
        cases hcause
      · rcases List.mem_cons.1 hmem with rfl | hmem
        · exact String.le_refl _
        · have hafter := (List.pairwise_append.1 hordered).2.1
          exact Std.le_of_lt ((List.pairwise_cons.1 hafter).1 other hmem)

/-- **Otherwise the hosts of the evidence are known**, in order and each once.  Two addresses may name one
    host. -/
theorem hostSet_of_wellFormed (h : ¬ ∃ address ∈ addresses, Malformed address) :
    ∃ hosts, hostSet addresses = .ok hosts ∧ hosts.Pairwise (· < ·)
      ∧ ∀ host, host ∈ hosts ↔ ∃ address ∈ addresses, Evidence.host address = .ok host := by
  cases hhosts : hostsOf (Ordered.ofList addresses) with
  | error failure =>
    obtain ⟨address, before, after, hsplit, hfails, -⟩ := firstWith_of_hostsOf hhosts
    have hmem : address ∈ Ordered.ofList addresses := by
      rw [hsplit]
      simp
    exact absurd ⟨address, Ordered.mem_ofList.1 hmem, failure, hfails⟩ h
  | ok hosts =>
    have hmap := map_host_of_hostsOf hhosts
    refine ⟨Ordered.ofList hosts, by simp only [hostSet, hhosts, Except.map],
      Ordered.pairwise_ofList hosts, fun host => ?_⟩
    calc host ∈ Ordered.ofList hosts
        ↔ Except.ok host ∈ hosts.map (Except.ok : String → Except Failure String) := by
          rw [Ordered.mem_ofList]
          simp
      _ ↔ Except.ok host ∈ (Ordered.ofList addresses).map Evidence.host := by rw [hmap]
      _ ↔ ∃ address ∈ addresses, Evidence.host address = .ok host := by
          simp only [List.mem_map, Ordered.mem_ofList]

/-! ## The search among the members -/

/-- Nobody is found where everybody is elsewhere. -/
theorem firstAt_of_elsewhere (h : ∀ m ∈ members, Elsewhere hosts m) :
    firstAt hosts members = .ok none := by
  induction members with
  | nil => rfl
  | cons head rest ih =>
    obtain ⟨host, hhost, hout⟩ := h head List.mem_cons_self
    have hrest := ih fun m hm => h m (List.mem_cons_of_mem _ hm)
    simp [firstAt, hhost, hout, hrest]

/-- The first member that is not known to be elsewhere ends the search, if its address is none. -/
theorem firstAt_of_malformed {member : Member} {fault : AddressFault}
    (h : FirstWith (fun m => Address.split m.address = .error fault) (Elsewhere hosts) members member) :
    firstAt hosts members = .error (.invalidAddress member.address fault) := by
  induction members with
  | nil => exact absurd h firstWith_nil
  | cons head rest ih =>
    rcases firstWith_cons.1 h with ⟨rfl, hfault⟩ | ⟨⟨host, hhost, hout⟩, hrest⟩
    · have hhost : head.host = .error (.invalidAddress head.address fault) :=
        Member.host_eq_error_iff.2 ⟨fault, hfault, rfl⟩
      simp only [firstAt, hhost]
    · simp [firstAt, hhost, hout, ih hrest]

/-- The search once the evidence is there, or is known to be missing. -/
def among (members : List Member) : Except Failure (List String) → Except Failure Member
  | .error failure => .error failure
  | .ok addresses =>
      match hostSet addresses with
      | .error failure => .error failure
      | .ok hosts =>
          match firstAt hosts members with
          | .error failure => .error failure
          | .ok (some member) => .ok member
          | .ok none => .error (.leaderNotFound members.length hosts)

/-- What a search at known hosts comes to. -/
structure Searched (members : List Member) (hosts : List String) (result : Except Failure Member) :
    Prop where
  found : ∀ member, result = .ok member ↔ IsFirstAt hosts members member
  malformed : ∀ member fault,
    FirstWith (fun m => Address.split m.address = .error fault) (Elsewhere hosts) members member →
      result = .error (.invalidAddress member.address fault)
  nobody : (∀ m ∈ members, Elsewhere hosts m) → result = .error (.leaderNotFound members.length hosts)

/-- What a search by some evidence comes to.  Malformed evidence is reported whatever the members are,
and any other has hosts to search at. -/
structure Settled (members : List Member) (addresses : List String) (result : Except Failure Member) :
    Prop where
  malformed : (∃ address ∈ addresses, Malformed address) →
    ∃ address fault, LeastMalformed addresses address fault
      ∧ result = .error (.invalidAddress address fault)
  wellFormed : (¬ ∃ address ∈ addresses, Malformed address) →
    ∃ hosts, hosts.Pairwise (· < ·)
      ∧ (∀ host, host ∈ hosts ↔ ∃ address ∈ addresses, Evidence.host address = .ok host)
      ∧ Searched members hosts result

/-- **A search by some evidence comes to what `Settled` says.** -/
theorem settled_among (members : List Member) (addresses : List String) :
    Settled members addresses (among members (.ok addresses)) where
  malformed h := by
    obtain ⟨address, fault, hleast, hset⟩ := hostSet_of_malformed h
    exact ⟨address, fault, hleast, by simp only [among, hset]⟩
  wellFormed h := by
    obtain ⟨hosts, hset, hordered, hmem⟩ := hostSet_of_wellFormed h
    refine ⟨hosts, hordered, hmem, ⟨?_, ?_, ?_⟩⟩
    · intro member
      rw [← firstAt_eq_some_iff]
      simp only [among, hset]
      cases hfirst : firstAt hosts members with
      | error failure => simp
      | ok answer => cases answer <;> simp
    · intro member fault hfirst
      simp only [among, hset, firstAt_of_malformed hfirst]
    · intro hall
      simp only [among, hset, firstAt_of_elsewhere hall]

/-! ## Asking the machine -/

/-- The search, where the machine is asked for its addresses in the course of it.  `ask` may answer
differently each time, and `σ` is whatever else it depends on and leaves behind. -/
def resolveAsking {σ : Type} (members : List Member) (advertised : List String)
    (ask : σ → σ × Except Failure (List String)) (state : σ) : σ × Except Failure Member :=
  if asksMachine members advertised then
    match ask state with
    | (state, own) => (state, among members (ownEvidence own))
  else (state, among members (.ok advertised))

/-- The advertised addresses cannot tell which machine this is: there is a single member, or several
addresses. -/
def NeedsMachine (members : List Member) (advertised : List String) : Prop :=
  members.length = 1 ∨ 1 < advertised.length

theorem asksMachine_iff : asksMachine members advertised ↔ NeedsMachine members advertised := by
  simp [asksMachine, NeedsMachine]

/-- Where the machine is needed, it is asked, and the search goes by its answer. -/
theorem resolve_of_needsMachine (h : NeedsMachine members advertised)
    (own : Except Failure (List String)) :
    resolve members advertised own = among members (ownEvidence own) := by
  show among members (evidence members advertised own) = among members (ownEvidence own)
  rw [evidence, if_pos (asksMachine_iff.2 h)]

/-- Otherwise its answer does not count. -/
theorem resolve_of_not_needsMachine (h : ¬ NeedsMachine members advertised)
    (own : Except Failure (List String)) :
    resolve members advertised own = among members (.ok advertised) := by
  show among members (evidence members advertised own) = among members (.ok advertised)
  rw [evidence, if_neg (mt asksMachine_iff.1 h)]

theorem resolveAsking_of_needsMachine (h : NeedsMachine members advertised) {σ : Type}
    (ask : σ → σ × Except Failure (List String)) (state : σ) :
    resolveAsking members advertised ask state
      = ((ask state).1, resolve members advertised (ask state).2) := by
  rw [resolveAsking, if_pos (asksMachine_iff.2 h), resolve_of_needsMachine h]

theorem resolveAsking_of_not_needsMachine (h : ¬ NeedsMachine members advertised) {σ : Type}
    (ask : σ → σ × Except Failure (List String)) (state : σ) (own : Except Failure (List String)) :
    resolveAsking members advertised ask state = (state, resolve members advertised own) := by
  rw [resolveAsking, if_neg (mt asksMachine_iff.1 h), resolve_of_not_needsMachine h]

/-! ## The whole search -/

/-- **What the search comes to, and what it asks.**  The machine is asked once if the advertised addresses
cannot tell, and not at all otherwise.  Its addresses or the advertised ones settle the search; that
it has no address is put in words of the search, and any other failure of it is passed on. -/
theorem resolve_settled (members : List Member) (advertised : List String) :
    (NeedsMachine members advertised →
      (∀ (σ : Type) (ask : σ → σ × Except Failure (List String)) (state : σ),
        resolveAsking members advertised ask state
          = ((ask state).1, resolve members advertised (ask state).2))
      ∧ (∀ addresses, Settled members addresses (resolve members advertised (.ok addresses)))
      ∧ (∀ what, resolve members advertised (.error (.notFound what))
          = .error (.notFound "external IP address to identify this node"))
      ∧ ∀ failure, (∀ what, failure ≠ .notFound what) →
          resolve members advertised (.error failure) = .error failure)
    ∧ (¬ NeedsMachine members advertised → ∀ own,
      (∀ (σ : Type) (ask : σ → σ × Except Failure (List String)) (state : σ),
        resolveAsking members advertised ask state = (state, resolve members advertised own))
      ∧ Settled members advertised (resolve members advertised own)) := by
  constructor
  · intro hneeds
    refine ⟨fun σ ask state => resolveAsking_of_needsMachine hneeds ask state, ?_, ?_, ?_⟩
    · intro addresses
      rw [resolve_of_needsMachine hneeds]
      exact settled_among members addresses
    · intro what
      rw [resolve_of_needsMachine hneeds]
      rfl
    · intro failure hother
      rw [resolve_of_needsMachine hneeds]
      cases failure with
      | notFound what => exact absurd rfl (hother what)
      | _ => rfl
  · intro hneeds own
    refine ⟨fun σ ask state => resolveAsking_of_not_needsMachine hneeds ask state own, ?_⟩
    rw [resolve_of_not_needsMachine hneeds]
    exact settled_among members advertised

/-- A machine that counts how often it is asked, and has the address of the second of two members. -/
def countingMachine (asked : Nat) : Nat × Except Failure (List String) :=
  (asked + 1, .ok ["192.168.0.4", "10.0.0.2"])

/-- With two advertised addresses the machine is asked, once, and the second member is found.  With one
it is not, and the first is.  One that has too many colons is reported, whoever the members are. -/
theorem resolve_settled_pair :
    resolveAsking Setup.pairMembers ["10.0.0.1:17070", "10.0.0.2:17070"] countingMachine 0
        = (1, .ok ⟨2, "10.0.0.2:17666", .voter⟩)
      ∧ resolveAsking Setup.pairMembers ["10.0.0.1:17070"] countingMachine 0
        = (0, .ok ⟨1, "10.0.0.1:17666", .voter⟩)
      ∧ ∃ fault, resolve Setup.pairMembers ["10.0.0.1:17070:"] (.ok [])
        = .error (.invalidAddress "10.0.0.1:17070:" fault) := by
  have hasked : NeedsMachine Setup.pairMembers ["10.0.0.1:17070", "10.0.0.2:17070"] :=
    Or.inr (by decide)
  have hone : ∀ address, ¬ NeedsMachine Setup.pairMembers [address] := by
    rintro address (hlength | hlength) <;> simp [Setup.pairMembers] at hlength
  refine ⟨?_, ?_, ?_⟩
  · rw [((resolve_settled Setup.pairMembers _).1 hasked).1 Nat countingMachine 0]
    rfl
  · rw [((resolve_settled Setup.pairMembers _).2 (hone _) (.ok [])).1 Nat countingMachine 0]
    rfl
  · have hsettled := ((resolve_settled Setup.pairMembers _).2 (hone "10.0.0.1:17070:") (.ok [])).2
    obtain ⟨address, fault, hleast, hresult⟩ :=
      hsettled.malformed ⟨_, List.mem_singleton_self _, _, rfl⟩
    obtain rfl := List.mem_singleton.1 hleast.mem
    exact ⟨fault, hresult⟩

end QuorumRescue.Survivor
