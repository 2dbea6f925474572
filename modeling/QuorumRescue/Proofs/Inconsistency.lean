/-
  What an inconsistent state tells about the log.

  When a write fails behind a force, there is no way back, and the failure says so: the log now holds
  only one node, which it names, and has to be repaired by hand.  The operator acts on that name, so it
  matters whether it is true.  But it is not read from the log.  It is the first of the members that
  were written, or the member that a recovery has left some time ago.  This file says exactly when it
  can be believed, for each of the three operations that may report it.

  1. **The specification** is `Site.HoldsOnly`: reading the log finds one member, who has the id that
     was named.

  2. **The crux** is to have the log in terms of the ids that were forced last (`Lists`), since it then
     holds only one node exactly if it can be read and there is no other id among them
     (`Lists.holdsOnly_iff`).  What can be read is each id once, in their order, so a list that names
     one id twice is no exception.

  3. **The recovery** can be believed, since it writes one member and reports at once
     (`Course.reported`).  **Writing a list** can be believed exactly if the list has no other id than
     the first (`Writing.reported`).  **Rewriting the node's own record** can be believed exactly if
     nobody else has been forced since the recovery, as far as the log can be read at all.  What has
     been done since is any session; `standing` keeps the ids that were forced last while it goes on.

  4. **The result.** `inconsistentState_tells` has the three conditions.  They are not always met:
     `inconsistentState_misleads` has two voters on record where one is announced, by a list and by a
     recovery that was not the last word.
-/
import QuorumRescue.Proofs.Agreement
import QuorumRescue.Proofs.Run
import QuorumRescue.Proofs.Standing

namespace QuorumRescue

open QuorumRescue.Tree

/-- Reading the log finds one member, who has the id. -/
def Site.HoldsOnly (site : Site) (id : UInt64) : Prop :=
  ∃ member, (site.log.read site.tree).within .live = some (.ok [member]) ∧ member.id = id

/-! ## Reading the list -/

namespace LogDirectory

variable {log : LogDirectory} {tree : Tree} {ids : List UInt64} {id : UInt64}

theorem holdsOnly_iff_read : (Site.inDirectory log.path tree).HoldsOnly id ↔
    ∃ member, log.readMembers tree = .ok [member] ∧ member.id = id := by
  simp [Site.HoldsOnly, Site.inDirectory, ConsensusLog.read, Pending.within]

/-- What is read with a free lock are members with the ids on record, each id once. -/
theorem Lists.exists_readMembers (h : log.Lists tree ids) (hfree : log.Free tree) : ∃ members,
    log.readMembers tree = .ok members
      ∧ members.Pairwise (fun a b => a.id < b.id)
      ∧ ∀ id, id ∈ members.map (·.id) ↔ id ∈ ids := by
  obtain ⟨record, hrecord, hids⟩ := h.recorded
  obtain ⟨home, hhome, hfile⟩ := exists_home_of_readRecord h.directory hrecord
  have hholds : log.Holds tree home record :=
    ⟨hhome, hfile, hfree.unlocked _ (hhome.inside lockName isPlainName_lockName)⟩
  refine ⟨_, hholds.readMembers, Membership.members_increasing _, fun id => ?_⟩
  rw [ids_members, hids]

/-- **The log holds only one node** exactly if it can be read and there is no other id on record.  Members
    are read in the order of their ids and each once, so several of them have several ids. -/
theorem Lists.holdsOnly_iff (h : log.Lists tree ids) :
    (Site.inDirectory log.path tree).HoldsOnly id ↔ log.Free tree ∧ ∀ other ∈ ids, other = id := by
  rw [holdsOnly_iff_read]
  constructor
  · rintro ⟨member, hread, rfl⟩
    obtain ⟨home, record, hholds, -⟩ := readMembers_eq_ok_iff.1 hread
    refine ⟨hholds.free, fun other hother => ?_⟩
    obtain ⟨members, hmembers, -, hids⟩ := h.exists_readMembers hholds.free
    obtain rfl := Except.ok.inj (hread.symm.trans hmembers)
    simpa using (hids other).2 hother
  · rintro ⟨hfree, hsame⟩
    obtain ⟨members, hread, hincreasing, hids⟩ := h.exists_readMembers hfree
    have hall : ∀ m ∈ members, m.id = id := fun m hm =>
      hsame _ ((hids m.id).1 (List.mem_map_of_mem hm))
    match members with
    | [] =>
      obtain ⟨other, hother⟩ := List.exists_mem_of_ne_nil ids h.nonempty
      have hmem := (hids other).2 hother
      cases hmem
    | [only] => exact ⟨only, hread, hall only List.mem_cons_self⟩
    | first :: second :: rest =>
      -- two members with one id would not be in order
      have hlt : first.id < second.id := (List.pairwise_cons.1 hincreasing).1 _ List.mem_cons_self
      rw [hall first (by simp), hall second (by simp)] at hlt
      exact absurd hlt (UInt64.lt_irrefl id)

end LogDirectory

/-! ## Roots -/

theorem Failure.root_of_isPlain {failure : Failure} (h : failure.isPlain) : failure.root = failure := by
  cases failure <;> first | rfl | cases h

/-- A plain failure is no inconsistent state, whatever step it is annotated with. -/
theorem Failure.root_during_ne {source : Failure} (h : source.isPlain) (step : Step) (id : UInt64)
    (cause : Failure) : (source.during step).root ≠ .inconsistentState id cause := by
  intro hroot
  have hsource : source = .inconsistentState id cause := (root_of_isPlain h).symm.trans hroot
  rw [hsource] at h
  cases h

namespace Setup

open LogDirectory RegistryDirectory

variable {setup : Setup} {tree after : Tree} {members : List Member} {survivor : UInt64}
  {cause : Failure}

/-! ## Reports -/

/-- An inconsistent state is reported by a list to which the log has been forced. -/
theorem Writing.reported {now : String} {deadline : Deadline} {failure : Failure}
    (h : setup.Writing now members tree deadline after (.error failure))
    (hroot : failure.root = .inconsistentState survivor cause) :
    setup.log.force now members tree = (after, .ok ()) := by
  cases h with
  | late tooLate => cases hroot
  | refused force => exact absurd hroot (Failure.root_during_ne (isPlain_of_force force) _ _ _)
  | halfway force blocked => exact force

/-- One is reported by a recovery for the survivor that the log has been forced to. -/
theorem Course.reported {now : String} {advertised : List String} {deadline : Deadline}
    {failure : Failure} (h : setup.Course now advertised deadline tree after (.error failure))
    (hroot : failure.root = .inconsistentState survivor cause) :
    setup.log.Lists after [survivor] ∧ setup.log.Free after := by
  cases h with
  | refused refusal =>
    obtain ⟨step, source, rfl, -, hplain⟩ := refusal
    exact absurd hroot (Failure.root_during_ne hplain _ _ _)
  | late => cases hroot
  | halfway chosen live force blocked =>
    obtain ⟨rfl, -⟩ := Failure.inconsistentState.inj hroot
    exact ⟨lists_of_force force.force, force.holds.free⟩

/-- After a collapse that was done, the log lists the member that is left. -/
theorem Course.applied {now : String} {advertised : List String} {deadline : Deadline}
    {outcome : Outcome} (h : setup.Course now advertised deadline tree after (.ok outcome))
    (happlied : outcome.applied = true) :
    setup.log.Lists after [outcome.action.remaining.id] ∧ setup.log.Free after := by
  cases h with
  | single => cases happlied
  | done chosen live force room =>
    exact ⟨(lists_of_force force.force).undisturbed
      (undisturbed_registered force.holds.isHome room _),
      (holds_registered force.holds room _).free⟩

/-- **What an inconsistent state tells about the log.**  A recovery that reports one has left the log
with the survivor alone.  When a list has been written, the report is true exactly if all members of
the list have the id that is reported.  When the node's own record is rewritten after a recovery,
whatever else was done in between, it is true exactly if the log can be read and those that it was
forced to last, as far as the answers tell, have no other id; and it can be read unless another
instance has taken the lock. -/
theorem inconsistentState_tells (setup : Setup) (tree : Tree) :
    (∀ now advertised deadline site failure survivor cause,
      setup.recover now advertised deadline (.inDirectory setup.dir tree) = (site, .error failure) →
      failure.root = .inconsistentState survivor cause → site.HoldsOnly survivor)
    ∧ (∀ now members deadline site failure survivor cause,
      (Site.inDirectory setup.dir tree).setMembers now members deadline = (site, .error failure) →
      failure.root = .inconsistentState survivor cause →
      (site.HoldsOnly survivor ↔ ∀ m ∈ members, m.id = survivor))
    ∧ ∀ now advertised deadline site outcome,
      setup.recover now advertised deadline (.inDirectory setup.dir tree) = (site, .ok outcome) →
      ∀ operations, ∃ after told,
        setup.performAll operations site = (.inDirectory setup.dir after, told)
          ∧ ∀ left failure survivor cause,
            (Site.inDirectory setup.dir after).rewriteInfo outcome = (left, .error failure) →
            failure.root = .inconsistentState survivor cause →
            (left.HoldsOnly survivor ↔
                setup.log.Free after ∧ ∀ id ∈ standing [survivor] told, id = survivor)
              ∧ (.takeLock ∉ operations → setup.log.Free after) := by
  refine ⟨?_, ?_, ?_⟩
  · intro now advertised deadline site failure survivor cause hrecover hroot
    obtain ⟨left, rfl, hcourse⟩ := course_of_recover hrecover
    obtain ⟨hlists, hfree⟩ := hcourse.reported hroot
    exact hlists.holdsOnly_iff.2 ⟨hfree, by simp⟩
  · intro now members deadline site failure survivor cause hset hroot
    obtain ⟨left, result, hset', hwriting⟩ := setup.setMembers_writing now members deadline tree
    rw [hset] at hset'
    obtain ⟨rfl, rfl⟩ := Prod.mk.inj hset'
    have hforce := hwriting.reported hroot
    obtain ⟨home, first, rest, last, membership, -, -, -, -, hholds, -⟩ := force_eq_ok hforce
    have hiff : (Site.inDirectory setup.dir left).HoldsOnly survivor ↔
        setup.log.Free left ∧ ∀ id ∈ members.map (·.id), id = survivor :=
      (lists_of_force hforce).holdsOnly_iff
    simpa only [hholds.free, true_and, List.forall_mem_map] using hiff
  · intro now advertised deadline site outcome hrecover operations
    obtain ⟨middle, rfl, hcourse⟩ := course_of_recover hrecover
    by_cases happlied : outcome.applied = true
    · obtain ⟨hlists, hfree⟩ := hcourse.applied happlied
      obtain ⟨after, told, hrun, hlast, hstays⟩ := setup.performAll_lists operations hlists
      refine ⟨after, told, hrun, fun left failure survivor cause hrewrite hroot => ?_⟩
      obtain ⟨left', result, hrewrite', hrewriting⟩ := setup.rewriteInfo_rewriting outcome after
      rw [hrewrite] at hrewrite'
      obtain ⟨rfl, rfl⟩ := Prod.mk.inj hrewrite'
      cases hrewriting with
      | blocked applied fails =>
        obtain ⟨rfl, -⟩ := Failure.inconsistentState.inj hroot
        exact ⟨hlast.holdsOnly_iff, hstays hfree⟩
    · -- nothing was collapsed, so there is nothing to be rewritten either
      obtain ⟨after, told, hrun, -⟩ := setup.performAll_advanced operations middle
      refine ⟨after, told, hrun, fun left failure survivor cause hrewrite hroot => ?_⟩
      obtain ⟨left', result, hrewrite', hrewriting⟩ := setup.rewriteInfo_rewriting outcome after
      rw [hrewrite] at hrewrite'
      obtain ⟨rfl, rfl⟩ := Prod.mk.inj hrewrite'
      cases hrewriting with
      | blocked applied fails => exact absurd applied happlied

/-! ## Reports that are true, and some that are not -/

/-- A data directory without a record, and with a directory in the place of the registry's file. -/
def blockedTree : Tree :=
  ⟨[(pairHome, .directory), (pairHome.child clusterName, .directory)], []⟩

/-- There any list with a voter goes halfway: the log takes it, and the registry cannot follow. -/
theorem exists_setMembers_blocked (first : Member) (rest : List Member) {membership : Membership}
    (hm : Membership.ofMembers? (first :: rest) = some membership) : ∃ forced,
    (Site.inDirectory pairSetup.dir blockedTree).setMembers "" (first :: rest) .live
        = (.inDirectory pairSetup.dir forced,
            .error ((Failure.inconsistentState first.id
              (.io pairSetup.registry.clusterPath.text .isDirectory)).during .collapseRegistry))
      ∧ pairSetup.log.readMembers forced = .ok membership.members := by
  have hhome : blockedTree.IsHome pairSetup.dir pairHome := .of_locate rfl rfl (by decide)
  obtain ⟨forced, hforce⟩ := @exists_force pairSetup.log _ _ hhome ⟨nofun, nofun⟩ _ rfl "" _ _ _ hm
  obtain ⟨home, _, _, _, membership', -, hm', hhome', -, hholds, honly⟩ := force_eq_ok hforce
  obtain rfl := Except.ok.inj (hhome.located.symm.trans hhome'.located)
  obtain rfl := Option.some.inj (hm.symm.trans hm')
  have hblocked : forced.find? (pairHome.child clusterName) = some .directory :=
    honly.cluster
  refine ⟨forced, ?_, hholds.readMembers⟩
  simp only [Site.setMembers, force_inDirectory hforce, register_eq hholds.isHome, if_pos hblocked]
  rfl

/-- Two members that can be collapsed, with a directory in the place of the node's own record. -/
def stuckTree : Tree where
  entries := [
    (pairHome, .directory),
    (pairHome.child recordName, .file pairRecord.toBytes),
    (pairHome.child infoName, .directory)]
  locked := []

/-- A log that can be forced in such a place, and a registry that can be written but for that
record. -/
structure Stuck (tree : Tree) : Prop where
  holds : ∃ record, pairSetup.log.Holds tree pairHome record
  room : tree.find? (pairHome.child clusterName) ≠ some .directory
  blocked : tree.find? (pairHome.child infoName) = some .directory

/-- The node's own record cannot follow a collapse there. -/
theorem Stuck.rewriteInfo (h : Stuck tree) {outcome : Outcome} (happlied : outcome.applied = true) :
    (Site.inDirectory pairSetup.dir tree).rewriteInfo outcome
      = (.inDirectory pairSetup.dir tree,
          .error ((Failure.inconsistentState outcome.action.remaining.id
            (.io pairSetup.registry.infoPath.text .isDirectory)).during .rewriteInfo)) := by
  obtain ⟨record, hholds⟩ := h.holds
  simp only [Site.rewriteInfo, happlied, if_true, setInfo_eq hholds.isHome, if_pos h.blocked]

/-- Writing log and registry does not clear the place. -/
theorem Stuck.registered {forced : Tree} {record : LogRecord} (h : Stuck tree)
    (hholds : pairSetup.log.Holds forced pairHome record) (honly : OnlyForced pairHome tree forced)
    (members : List Member) : Stuck (registered forced pairHome members) := by
  have hroom : forced.find? (pairHome.child clusterName) ≠ some .directory :=
    honly.cluster ▸ h.room
  refine ⟨⟨record, holds_registered hholds hroom members⟩, ?_, ?_⟩
  · rw [Setup.registered, find?_put_self (Place.isStart_child _ _)]
    exact nofun
  · rw [Setup.registered, find?_put_of_ne (Place.child_ne infoName_ne_clusterName), honly.info]
    exact h.blocked

/-- There a recovery collapses the log to node 1. -/
theorem exists_recover_stuck : ∃ after outcome,
    pairSetup.recover "" pairAdvertised .live (.inDirectory pairSetup.dir stuckTree)
        = (.inDirectory pairSetup.dir after, .ok outcome)
      ∧ Stuck after ∧ outcome.applied = true ∧ outcome.action.remaining.id = 1 := by
  have hholds : pairSetup.log.Holds stuckTree pairHome pairRecord :=
    ⟨.of_locate rfl rfl (by decide), ⟨pairRecord.toBytes, rfl, LogRecord.trusted_force _ _⟩,
      ⟨nofun, fun _ _ => nofun⟩⟩
  have hstuck : Stuck stuckTree := ⟨⟨pairRecord, hholds⟩, nofun, rfl⟩
  obtain ⟨forced, hforced⟩ := exists_forced hholds "" ⟨1, "10.0.0.1:17666", .voter⟩
  have hmake := makeDirectories_of_isDirectory hholds.isHome.isDirectory
  have hrecover := recover_of_collapse hmake ⟨by decide, hholds, choose_pair⟩ hforced
  rw [if_neg hstuck.room] at hrecover
  exact ⟨_, _, hrecover, hstuck.registered hforced.holds hforced.onlyForced _, rfl, rfl⟩

/-- There any list with a voter is written. -/
theorem Stuck.exists_setMembers (h : Stuck tree) (first : Member) (rest : List Member)
    {membership : Membership} (hm : Membership.ofMembers? (first :: rest) = some membership) :
    ∃ after, (Site.inDirectory pairSetup.dir tree).setMembers "" (first :: rest) .live
        = (.inDirectory pairSetup.dir after, .ok ())
      ∧ Stuck after ∧ pairSetup.log.readMembers after = .ok membership.members := by
  obtain ⟨record, hholds⟩ := h.holds
  obtain ⟨forced, hforce, hforced, honly⟩ := force_of_holds hholds "" hm
  have hroom : forced.find? (pairHome.child clusterName) ≠ some .directory :=
    honly.cluster ▸ h.room
  exact ⟨_, setMembers_of_force hforce hforced.isHome hroom, h.registered hforced honly _,
    (holds_registered hforced hroom _).readMembers⟩

/-- A recovery of two members that goes halfway, a list of one member and the node's own record behind
a recovery all report node 1, and the log holds only that node. -/
theorem inconsistentState_tells_pair :
    (∃ site failure, pairSetup.recover "" pairAdvertised .live
          (.inDirectory pairSetup.dir (pairTree .directory)) = (site, .error failure)
        ∧ failure.code = "InconsistentState" ∧ site.HoldsOnly 1)
      ∧ (∃ site failure, (Site.inDirectory pairSetup.dir blockedTree).setMembers ""
            [⟨1, "10.0.0.1:17666", .voter⟩] .live = (site, .error failure)
          ∧ failure.code = "InconsistentState" ∧ site.HoldsOnly 1)
      ∧ ∃ site outcome left failure, pairSetup.recover "" pairAdvertised .live
            (.inDirectory pairSetup.dir stuckTree) = (site, .ok outcome)
          ∧ site.rewriteInfo outcome = (left, .error failure)
          ∧ failure.code = "InconsistentState" ∧ left.HoldsOnly 1 := by
  refine ⟨?_, ?_, ?_⟩
  · obtain ⟨forced, -, hrecover⟩ := exists_recover_pair .directory
    rw [if_pos rfl] at hrecover
    obtain ⟨htrue, -⟩ := inconsistentState_tells pairSetup (pairTree .directory)
    exact ⟨_, _, hrecover, rfl, htrue _ _ _ _ _ _ _ hrecover rfl⟩
  · obtain ⟨forced, hset, -⟩ := exists_setMembers_blocked ⟨1, "10.0.0.1:17666", .voter⟩ [] rfl
    obtain ⟨-, htrue, -⟩ := inconsistentState_tells pairSetup blockedTree
    exact ⟨_, _, hset, rfl, (htrue _ _ _ _ _ _ _ hset rfl).2 (by simp)⟩
  · obtain ⟨after, outcome, hrecover, hstuck, happlied, hid⟩ := exists_recover_stuck
    have hrewrite := hstuck.rewriteInfo happlied
    rw [hid] at hrewrite
    obtain ⟨-, -, htrue⟩ := inconsistentState_tells pairSetup stuckTree
    obtain ⟨last, told, hrun, hreport⟩ := htrue _ _ _ _ _ hrecover []
    obtain ⟨hsite, rfl⟩ := Prod.mk.inj hrun
    obtain rfl : after = last := congrArg Site.tree hsite
    obtain ⟨hiff, hfree⟩ := hreport _ _ _ _ hrewrite rfl
    exact ⟨_, _, _, _, hrecover, hrewrite, rfl, hiff.2 ⟨hfree (by simp), by simp [standing]⟩⟩

/-- **Reports that are not true.**  When two voters have been written and the registry could not
follow, node 1 is reported as the only one, and the log has both.  So it is when the node's own record
cannot follow a recovery to node 1, after which both have been written. -/
theorem inconsistentState_misleads :
    (∃ site failure cause,
      (Site.inDirectory pairSetup.dir blockedTree).setMembers "" pairMembers .live
          = (site, .error failure)
        ∧ failure.root = .inconsistentState 1 cause
        ∧ (site.log.read site.tree).within .live = some (.ok pairMembers)
        ∧ ¬ site.HoldsOnly 1)
      ∧ ∃ site outcome later left failure cause,
        pairSetup.recover "" pairAdvertised .live (.inDirectory pairSetup.dir stuckTree)
            = (site, .ok outcome)
          ∧ site.setMembers "" pairMembers .live = (later, .ok ())
          ∧ later.rewriteInfo outcome = (left, .error failure)
          ∧ failure.root = .inconsistentState 1 cause
          ∧ (left.log.read left.tree).within .live = some (.ok pairMembers)
          ∧ ¬ left.HoldsOnly 1 := by
  have hboth : ∀ tree, pairSetup.log.readMembers tree = .ok pairMembers →
      ¬ (Site.inDirectory pairSetup.dir tree).HoldsOnly 1 := by
    intro tree hread honly
    obtain ⟨member, hmember, -⟩ := holdsOnly_iff_read.1 honly
    have hone := hread.symm.trans hmember
    cases hone
  constructor
  · obtain ⟨forced, hset, hread⟩ := exists_setMembers_blocked ⟨1, "10.0.0.1:17666", .voter⟩
      [⟨2, "10.0.0.2:17666", .voter⟩] rfl
    exact ⟨_, _, _, hset, rfl, congrArg some hread, hboth forced hread⟩
  · obtain ⟨after, outcome, hrecover, hstuck, happlied, hid⟩ := exists_recover_stuck
    obtain ⟨later, hset, hlater, hread⟩ := hstuck.exists_setMembers ⟨1, "10.0.0.1:17666", .voter⟩
      [⟨2, "10.0.0.2:17666", .voter⟩] rfl
    have hrewrite := hlater.rewriteInfo happlied
    rw [hid] at hrewrite
    exact ⟨_, _, _, _, _, _, hrecover, hset, hrewrite, rfl, congrArg some hread, hboth later hread⟩

end Setup

end QuorumRescue
