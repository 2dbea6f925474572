/-
  The choice of the survivor.

  A collapse throws all members out of the log but one, so a plan must not take the wrong one for the
  machine it is made on.  This file says on whom planning decides, when it decides at all, and what has
  no say in it.

  1. **The evidence.** A collapse rests on one advertised address.  `Evident` says whom it is evidence
     for: the first member at the host that the address names, provided that every member before it is
     known to be somewhere else.  A member before it whose address cannot be read could be the one, and
     then nobody is evident.

  2. **The decision.** `Decided` has the two actions with the exact condition for each, and failure
     otherwise: several members are collapsed to the evident one, a single member is left as it is
     whatever is advertised, and nothing else is ever decided.

  3. **The crux** is that the search finds the evident member and no other (`resolve_eq_ok_iff`).  The
     search goes through the list once, so it follows by induction from what happens at the head: the
     head stops the search, or is known to be elsewhere and passes it on (`firstAt_cons_eq_some_iff`).

  4. **What has no say.** The machine is asked for its own addresses only with a single member or with
     several advertised addresses, and neither of them comes that far (`choose_asking`).  The time of
     day is only written down.  Of the members at one host, a log on disk has the one with the smallest
     id first, so that one is evident (`id_le_of_evident`).

  5. **The result** is put together in `plan_decides`.
-/
import QuorumRescue.Proofs.Clock
import QuorumRescue.Proofs.Membership
import QuorumRescue.Proofs.Recovery

namespace QuorumRescue

/-! ## The search -/

namespace Survivor

variable {members : List Member} {survivor : Member}

section

variable {α : Type}

/-- The first element of a list that `stops`, where all elements before it are known to `pass`. -/
def FirstWith (stops pass : α → Prop) (items : List α) (a : α) : Prop :=
  ∃ before after, items = before ++ a :: after ∧ stops a ∧ ∀ b ∈ before, pass b

/-- Whoever is first in a list stands at its head, or is first in the rest while the head passes. -/
theorem firstWith_cons {stops pass : α → Prop} {head a : α} {rest : List α} :
    FirstWith stops pass (head :: rest) a ↔
      (head = a ∧ stops a) ∨ pass head ∧ FirstWith stops pass rest a := by
  constructor
  · rintro ⟨before, after, heq, hat, hbefore⟩
    cases before with
    | nil => exact Or.inl ⟨(List.cons.inj heq).1, hat⟩
    | cons first before =>
      obtain ⟨rfl, rfl⟩ := List.cons.inj heq
      exact Or.inr ⟨hbefore head List.mem_cons_self, before, after, rfl, hat,
        fun b hb => hbefore b (List.mem_cons_of_mem _ hb)⟩
  · rintro (⟨rfl, hat⟩ | ⟨hhead, before, after, rfl, hat, hbefore⟩)
    · exact ⟨[], rest, rfl, hat, nofun⟩
    · refine ⟨head :: before, after, rfl, hat, fun b hb => ?_⟩
      rcases List.mem_cons.1 hb with rfl | hb
      · exact hhead
      · exact hbefore b hb

theorem firstWith_nil {stops pass : α → Prop} {a : α} : ¬ FirstWith stops pass [] a := by
  rintro ⟨before, after, heq, -⟩
  simp at heq

end

/-- A member is at one of some hosts. -/
def IsAt (hosts : List String) (member : Member) : Prop := ∃ host ∈ hosts, member.host = .ok host

/-- A member is known to be at another host. -/
def Elsewhere (hosts : List String) (member : Member) : Prop :=
  ∃ other, member.host = .ok other ∧ other ∉ hosts

/-- A member is the first one at any of some hosts, and all members before it are known to be at
others. -/
def IsFirstAt (hosts : List String) : (members : List Member) → (survivor : Member) → Prop :=
  FirstWith (IsAt hosts) (Elsewhere hosts)

/-- The search does not look further than the head, unless the head is elsewhere. -/
theorem firstAt_cons_eq_some_iff {hosts : List String} {head : Member} {rest : List Member} :
    firstAt hosts (head :: rest) = .ok (some survivor) ↔ (head = survivor ∧ IsAt hosts survivor)
      ∨ Elsewhere hosts head ∧ firstAt hosts rest = .ok (some survivor) := by
  cases hhost : head.host with
  | error failure =>
    -- a head without a host ends the search, since it might have been the one
    have hnowhere : ¬ (head = survivor ∧ IsAt hosts survivor) := by
      rintro ⟨rfl, host, -, hat⟩
      rw [hhost] at hat
      cases hat
    simp [firstAt, hhost, hnowhere, Elsewhere]
  | ok host =>
    by_cases hin : host ∈ hosts
    · have hfirst : firstAt hosts (head :: rest) = .ok (some head) := by
        simp [firstAt, hhost, hin]
      rw [hfirst]
      constructor
      · intro h
        obtain rfl := Option.some.inj (Except.ok.inj h)
        exact Or.inl ⟨rfl, host, hin, hhost⟩
      · rintro (⟨rfl, -⟩ | ⟨⟨other, hother, hout⟩, -⟩)
        · rfl
        · obtain rfl := Except.ok.inj (hhost.symm.trans hother)
          exact absurd hin hout
    · have hskip : firstAt hosts (head :: rest) = firstAt hosts rest := by
        simp [firstAt, hhost, hin]
      rw [hskip]
      constructor
      · exact fun h => Or.inr ⟨⟨host, hhost, hin⟩, h⟩
      · rintro (⟨rfl, other, hother, hat⟩ | ⟨-, h⟩)
        · obtain rfl := Except.ok.inj (hhost.symm.trans hat)
          exact absurd hother hin
        · exact h

/-- **The search finds the first member at one of the hosts**, and only if nobody before it could have
been meant. -/
theorem firstAt_eq_some_iff {hosts : List String} :
    firstAt hosts members = .ok (some survivor) ↔ IsFirstAt hosts members survivor := by
  induction members with
  | nil => exact iff_of_false nofun firstWith_nil
  | cons head rest ih => rw [firstAt_cons_eq_some_iff, IsFirstAt, firstWith_cons, ih, IsFirstAt]

/-- Whom advertised addresses are evidence for: there is a single address, and the member is the first
one at its host, with all members before it known to be at other hosts. -/
def Evident (advertised : List String) (members : List Member) (survivor : Member) : Prop :=
  ∃ address host, advertised = [address] ∧ Evidence.host address = .ok host
    ∧ IsFirstAt [host] members survivor

theorem evident_single {address : String} :
    Evident [address] members survivor ↔
      ∃ host, Evidence.host address = .ok host ∧ IsFirstAt [host] members survivor := by
  constructor
  · rintro ⟨_, host, heq, hhost, hfirst⟩
    obtain rfl := (List.cons.inj heq).1
    exact ⟨host, hhost, hfirst⟩
  · rintro ⟨host, hhost, hfirst⟩
    exact ⟨address, host, rfl, hhost, hfirst⟩

theorem hostSet_single (address : String) :
    hostSet [address] = (Evidence.host address).map fun host => [host] := by
  simp only [hostSet, Ordered.ofList, List.foldl_cons, List.foldl_nil, Ordered.insert, hostsOf]
  cases Evidence.host address <;> rfl

/-- **Among several members, one advertised address at most decides.**  No address is evidence for
nobody. -/
theorem resolve_eq_ok_iff {advertised : List String} (own : Except Failure (List String))
    (hm : 2 ≤ members.length) (ha : advertised.length ≤ 1) :
    resolve members advertised own = .ok survivor ↔ Evident advertised members survivor := by
  rw [resolve, evidence_of_few own hm ha]
  cases advertised with
  | nil =>
    -- without an address there is no host to be found at
    have hnobody : ∀ found, firstAt [] members ≠ .ok (some found) := by
      intro found h
      obtain ⟨_, _, -, ⟨_, hin, -⟩, -⟩ := firstAt_eq_some_iff.1 h
      cases hin
    have hnot : ¬ Evident [] members survivor := by
      rintro ⟨_, _, hnil, -⟩
      cases hnil
    have hset : hostSet [] = .ok [] := rfl
    simp only [hset]
    cases hfirst : firstAt [] members with
    | error failure => simp [hnot]
    | ok answer =>
      cases answer with
      | none => simp [hnot]
      | some found => exact absurd hfirst (hnobody found)
  | cons address more =>
    obtain rfl : more = [] := List.eq_nil_of_length_eq_zero (Nat.le_zero.1 (Nat.le_of_succ_le_succ ha))
    rw [evident_single]
    simp only [hostSet_single]
    cases hhost : Evidence.host address with
    | error failure => simp [Except.map]
    | ok host =>
      -- with a host, what is found is the first member at it, and the other answers are failures
      simp only [Except.map, Except.ok.injEq, exists_eq_left', ← firstAt_eq_some_iff]
      cases firstAt [host] members with
      | error failure => simp
      | ok answer => cases answer <;> simp

end Survivor

namespace Setup

open Survivor

/-! ## The decision -/

/-- What is decided about the members of a log: to collapse several of them to the one that is
evident, to leave a single one as it is, and nothing else. -/
structure Decided (advertised : List String) (members : List Member)
    (result : Except Failure Outcome) : Prop where
  collapse : ∀ survivor, (∃ outcome, result = .ok outcome ∧ outcome.action = .collapse survivor)
    ↔ 2 ≤ members.length ∧ Evident advertised members survivor
  single : ∀ only, (∃ outcome, result = .ok outcome ∧ outcome.action = .alreadySingle only)
    ↔ members = [only]
  otherwise : (∀ survivor, ¬ (2 ≤ members.length ∧ Evident advertised members survivor)) →
    (∀ only, members ≠ [only]) → ∃ failure, result = .error failure

variable {setup : Setup} {advertised : List String} {members : List Member} {deadline : Deadline}
  {site made : Site}

/-- What is evident rests on one address. -/
theorem choose_eq_collapse_iff {survivor : Member} :
    setup.choose advertised members = .ok (.collapse survivor)
      ↔ 2 ≤ members.length ∧ Evident advertised members survivor := by
  rw [choose_eq_ok_iff]
  constructor
  · rintro (⟨_, _, he⟩ | ⟨other, hm, ha, hresolve, he⟩)
    · cases he
    · obtain rfl := Action.collapse.inj he
      exact ⟨hm, (resolve_eq_ok_iff setup.ownAddresses hm ha).1 hresolve⟩
  · rintro ⟨hm, hevident⟩
    have ha : advertised.length ≤ 1 := by
      obtain ⟨_, _, rfl, -⟩ := hevident
      exact Nat.le_refl 1
    exact Or.inr ⟨survivor, hm, ha, (resolve_eq_ok_iff setup.ownAddresses hm ha).2 hevident, rfl⟩

/-- A single member is left as it is, and only that. -/
theorem choose_eq_single_iff {only : Member} :
    setup.choose advertised members = .ok (.alreadySingle only) ↔ members = [only] := by
  rw [choose_eq_ok_iff]
  constructor
  · rintro (⟨member, hmembers, he⟩ | ⟨_, _, _, _, he⟩)
    · rw [hmembers, Action.alreadySingle.inj he]
    · cases he
  · rintro rfl
    exact Or.inl ⟨only, rfl, rfl⟩

/-- **Choosing decides**, whatever the outcome says beside its action.  Planning and choosing differ in what
    is reported along with the action, so the statement is about any way to report it. -/
theorem decided_choose (setup : Setup) (advertised : List String) (members : List Member)
    (outcome : Action → Outcome) (h : ∀ action, (outcome action).action = action) :
    Decided advertised members ((setup.choose advertised members).map outcome) := by
  have haction : ∀ action, (∃ o, (setup.choose advertised members).map outcome = .ok o
      ∧ o.action = action) ↔ setup.choose advertised members = .ok action := by
    intro action
    cases setup.choose advertised members with
    | error failure => simp [Except.map]
    | ok chosen => simp [Except.map, h]
  refine ⟨fun survivor => ?_, fun only => ?_, fun hcollapse hsingle => ?_⟩
  · rw [haction, choose_eq_collapse_iff]
  · rw [haction, choose_eq_single_iff]
  · cases hchoose : setup.choose advertised members with
    | error failure => exact ⟨failure, rfl⟩
    | ok action =>
      cases action with
      | alreadySingle only => exact absurd (choose_eq_single_iff.1 hchoose) (hsingle only)
      | collapse survivor => exact absurd (choose_eq_collapse_iff.1 hchoose) (hcollapse survivor)

/-! ## The machine is not asked -/

/-- The same setup, with another answer from the machine. -/
def asking (setup : Setup) (own : Except Failure (List String)) : Setup :=
  { setup with ownAddresses := own }

/-- Choosing does not depend on what the machine would say. -/
theorem choose_asking (own : Except Failure (List String)) :
    (setup.asking own).choose advertised members = setup.choose advertised members := by
  match members with
  | [] => rfl
  | [only] => rfl
  | first :: second :: rest =>
    have hm : 2 ≤ (first :: second :: rest).length := by simp
    unfold choose
    split
    · rfl
    · rfl
    · split
      · rfl
      · next hfew =>
        -- what is left has one address at most, so the evidence is what is advertised
        have ha : advertised.length ≤ 1 := by omega
        rw [Survivor.resolve, Survivor.resolve, evidence_of_few _ hm ha, evidence_of_few _ hm ha]

/-- Neither does planning depend on what the machine would say. -/
theorem plan_asking (own : Except Failure (List String)) :
    (setup.asking own).plan advertised deadline site = setup.plan advertised deadline site := by
  have hdecide : ∀ site, (setup.asking own).decide advertised deadline site
      = setup.decide advertised deadline site := by
    intro site
    have hmembers : (setup.asking own).members deadline site = setup.members deadline site := rfl
    simp only [decide, hmembers, choose_asking]
  have hensure : (setup.asking own).ensureDir site = setup.ensureDir site := rfl
  simp only [plan, hensure, hdecide]

/-- Nor does recovering. -/
theorem recover_asking (own : Except Failure (List String)) (now : String) :
    (setup.asking own).recover now advertised deadline site
      = setup.recover now advertised deadline site := by
  simp only [recover, plan_asking]

/-! ## The order of the log -/

/-- A log on disk lists its members in the order of their ids. -/
theorem members_increasing {directory : LogDirectory} (hlog : site.log = .onDisk directory)
    (hread : setup.members deadline site = .ok members) :
    members.Pairwise fun a b => a.id < b.id := by
  have hanswer : directory.readMembers site.tree = .ok members := by
    simp only [Setup.members, hlog, ConsensusLog.read, Pending.within] at hread
    by_cases hlimit : setup.readLimit deadline = .expired
    · simp [hlimit] at hread
    · simpa [hlimit] using hread
  obtain ⟨home, record, -, rfl⟩ := LogDirectory.readMembers_eq_ok_iff.1 hanswer
  exact record.stored.membership.members_increasing

/-- In a list in order of ids, whoever is evident has the smallest id of all at the same host. -/
theorem id_le_of_evident {survivor : Member} (h : Evident advertised members survivor)
    (hids : members.Pairwise fun a b => a.id < b.id) :
    ∃ host, survivor.host = .ok host ∧ ∀ m ∈ members, m.host = .ok host → survivor.id ≤ m.id := by
  obtain ⟨_, host, -, -, before, after, rfl, ⟨_, hsame, hat⟩, hbefore⟩ := h
  obtain rfl := List.mem_singleton.1 hsame
  refine ⟨_, hat, fun m hm hhost => ?_⟩
  rcases List.mem_append.1 hm with hm | hm
  · obtain ⟨other, hother, hout⟩ := hbefore m hm
    obtain rfl := Except.ok.inj (hother.symm.trans hhost)
    exact absurd (List.mem_singleton_self other) hout
  · rcases List.mem_cons.1 hm with rfl | hm
    · exact UInt64.le_refl _
    · have hrest := (List.pairwise_append.1 hids).2.1
      exact UInt64.le_of_lt ((List.pairwise_cons.1 hrest).1 m hm)

/-! ## Planning -/

/-- **What planning decides, and on what.**  Where the data directory can be made and the log can be
read, the action is the one that the members and the advertised addresses leave.  What the machine
says of itself counts neither for planning nor for recovering, and the time of day only for the record
that is written.  On disk, the survivor has the smallest id of all members at its host. -/
theorem plan_decides (setup : Setup) (advertised : List String) (site : Site) :
    (∀ made members, setup.ensureDir site = (made, .ok ()) →
      setup.members .live made = .ok members →
      ∃ result, setup.plan advertised .live site = (made, result)
        ∧ Decided advertised members result
        ∧ ∀ directory survivor, made.log = .onDisk directory →
          Evident advertised members survivor →
          ∃ host, survivor.host = .ok host
            ∧ ∀ m ∈ members, m.host = .ok host → survivor.id ≤ m.id)
    ∧ ∀ own deadline now now',
      (setup.asking own).plan advertised deadline site = setup.plan advertised deadline site
        ∧ Site.Alike ((setup.asking own).recover now advertised deadline site)
          (setup.recover now' advertised deadline site) := by
  constructor
  · intro made members hdir hread
    refine ⟨_, plan_of_members hdir hread, decided_choose setup advertised members _ fun _ => rfl, ?_⟩
    intro directory survivor hlog hevident
    exact id_le_of_evident hevident (members_increasing hlog hread)
  · intro own deadline now now'
    refine ⟨plan_asking own, ?_⟩
    rw [recover_asking]
    exact recover_alike setup advertised deadline site now now'

/-- Of two members, the one at the advertised host is decided on. -/
theorem plan_decides_pair :
    ∃ result, pairSetup.plan pairAdvertised .live
        (.inDirectory pairSetup.dir (pairTree (.file ByteArray.empty)))
          = (.inDirectory pairSetup.dir (pairTree (.file ByteArray.empty)), result)
      ∧ Decided pairAdvertised pairMembers result
      ∧ (∃ outcome, result = .ok outcome
          ∧ outcome.action = .collapse ⟨1, "10.0.0.1:17666", .voter⟩)
      ∧ ∀ m ∈ pairMembers, m.host = .ok "10.0.0.1" → 1 ≤ m.id := by
  have hholds := holds_pairTree (.file ByteArray.empty)
  have hdir : pairSetup.ensureDir (.inDirectory pairSetup.dir (pairTree (.file ByteArray.empty)))
      = (.inDirectory pairSetup.dir (pairTree (.file ByteArray.empty)), .ok ()) := by
    simp only [ensureDir, Site.inDirectory,
      Tree.makeDirectories_of_isDirectory hholds.isHome.isDirectory]
  have hlimit : pairSetup.readLimit .live ≠ .expired := by decide
  have hread : pairSetup.members .live
      (.inDirectory pairSetup.dir (pairTree (.file ByteArray.empty))) = .ok pairMembers := by
    rw [members_inDirectory hlimit, hholds.readMembers]
    rfl
  have hevident : Evident pairAdvertised pairMembers ⟨1, "10.0.0.1:17666", .voter⟩ :=
    ⟨"10.0.0.1:17070", "10.0.0.1", rfl, rfl, [], [⟨2, "10.0.0.2:17666", .voter⟩], rfl,
      ⟨"10.0.0.1", List.mem_singleton_self _, rfl⟩, fun _ hm => absurd hm List.not_mem_nil⟩
  obtain ⟨result, hplan, hdecided, hsmallest⟩ :=
    (plan_decides pairSetup pairAdvertised _).1 _ _ hdir hread
  refine ⟨result, hplan, hdecided, (hdecided.collapse _).2 ⟨Nat.le_refl 2, hevident⟩, ?_⟩
  obtain ⟨host, hhost, hids⟩ := hsmallest ⟨pairSetup.dir⟩ _ rfl hevident
  obtain rfl : "10.0.0.1" = host := Except.ok.inj hhost
  exact hids

end Setup

end QuorumRescue
