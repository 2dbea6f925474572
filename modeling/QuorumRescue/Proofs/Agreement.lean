/-
  Log and registry, after both have been written.

  Setting the members writes one list in two places.  Whoever looks at both afterwards expects to find
  the same twice, and planning says when it does not.  This file tells when two lists are found although
  one was written.

  1. **The two readings.** The registry keeps a list as it is, with its order.  The log keeps a
     membership, which knows no order, no id twice and no spares; what it keeps of a list is said by
     `Membership.Keeps`.

  2. **The specification** of a tree to which both have been given a list is `Given`: the log holds a
     record of the membership that the list leaves, and the registry's file reads as the list.  Where
     setting the members succeeds, it has made such a tree (`exists_given`).

  3. **The crux** is which lists survive both: those whose ids ascend and in which nobody is a spare
     (`Given.kept_iff`).  A list whose ids ascend is fixed by its members, so a membership that keeps
     the same members in the order of their ids keeps the same list.

  4. **The result.** After the members have been set, both lists are known, they are the same under this
     very condition, and a plan finds them as they were left and reports a difference exactly when there
     is one (`views_of_setMembers`).  The two examples are a list that both keep, and one written in the
     reverse order, which is read in order from the log and in reverse from the registry.
-/
import QuorumRescue.Proofs.Forcing
import QuorumRescue.Proofs.Recovery
import QuorumRescue.Proofs.Registry

namespace QuorumRescue.Setup

open LogDirectory RegistryDirectory QuorumRescue.Tree

variable {setup : Setup} {now : String} {written : List Member} {deadline later : Deadline}
  {tree : Tree} {site : Site}

/-! ## What is left -/

/-- A tree whose log and registry have both been given a list. -/
structure Given (setup : Setup) (written : List Member) (after : Tree) (home : Place)
    (record : LogRecord) : Prop where
  holds : setup.log.Holds after home record
  kept : Membership.ofMembers? written = some record.stored.membership
  registered : setup.registry.members after = .ok written

/-- Registering does not concern the log. -/
theorem holds_of_register {after : Tree} {home : Place} {record : LogRecord} {members : List Member}
    (h : setup.log.Holds tree home record)
    (hset : setup.registry.setMembers members tree = (after, .ok ())) :
    setup.log.Holds after home record := by
  have hwrite := @writeFile_eq setup.registry tree home h.isHome clusterName isPlainName_clusterName
    (Registry.clusterText members)
  rw [RegistryDirectory.setMembers, hwrite] at hset
  by_cases hd : tree.find? (home.child clusterName) = some .directory
  · rw [if_pos hd] at hset
    cases hset
  · rw [if_neg hd] at hset
    obtain rfl : registered tree home members = after := congrArg Prod.fst hset
    exact holds_registered h hd members

/-- Where the log can be forced to a list and the registry has room for it, both are given it. -/
theorem setMembers_of_force {forced : Tree} {home : Place}
    (hforce : setup.log.force now written tree = (forced, .ok ())) (hhome : forced.IsHome setup.dir home)
    (hd : forced.find? (home.child clusterName) ≠ some .directory) :
    (Site.inDirectory setup.dir tree).setMembers now written .live
      = (.inDirectory setup.dir (registered forced home written), .ok ()) := by
  simp only [Site.setMembers, force_inDirectory hforce, register_eq hhome, if_neg hd]

/-- **Setting the members gives the list to both.** The success of the whole is that of both writes, and the
    second one does not undo the first. -/
theorem exists_given
    (h : (Site.inDirectory setup.dir tree).setMembers now written deadline = (site, .ok ())) :
    ∃ after home record, site = .inDirectory setup.dir after
      ∧ setup.Given written after home record := by
  obtain ⟨after, result, hset, hwriting⟩ := setup.setMembers_writing now written deadline tree
  rw [h] at hset
  obtain ⟨rfl, rfl⟩ := Prod.mk.inj hset
  cases hwriting with
  | done force register =>
    obtain ⟨home, first, rest, last, membership, -, hm, -, -, hholds, -⟩ := force_eq_ok force
    exact ⟨after, home, _, rfl, holds_of_register hholds register, hm, members_of_setMembers register⟩

/-! ## What is found -/

section

variable {after : Tree} {home : Place} {record : LogRecord} {advertised : List String} {outcome : Outcome}

/-- What the log has is what a membership keeps of the list that was written. -/
theorem Given.keeps (h : setup.Given written after home record) :
    Membership.Keeps written record.stored.membership.members := Membership.keeps_members h.kept

/-- The log keeps the very list if it is in the form that a membership has. -/
theorem Given.kept_iff (h : setup.Given written after home record) :
    record.stored.membership.members = written ↔
      (written.Pairwise fun a b => a.id < b.id) ∧ ∀ m ∈ written, m.role ≠ .spare := by
  rw [← Membership.keeps_self_iff]
  constructor
  · intro hsame
    have hkeeps := h.keeps
    rwa [hsame] at hkeeps
  · intro hself
    exact h.keeps.unique hself

/-- Reading the members finds what the membership keeps, as long as there is time to read. -/
theorem Given.members (h : setup.Given written after home record)
    (hlimit : setup.readLimit later ≠ .expired) :
    setup.members later (.inDirectory setup.dir after) = .ok record.stored.membership.members := by
  rw [members_inDirectory hlimit, h.holds.readMembers]

/-- **A plan finds the two lists as they were left.** Nothing is written while planning, and the data
    directory is there already, so the site that the plan reads is the one that was left. -/
theorem Given.plan (h : setup.Given written after home record)
    (hplan : setup.plan advertised later (.inDirectory setup.dir after) = (site, .ok outcome)) :
    outcome.previous = record.stored.membership.members ∧ outcome.registry = some written := by
  have hmake := makeDirectories_of_isDirectory h.holds.isHome.isDirectory
  rcases setup.plan_cases advertised later after with ⟨failure, -, hrefused⟩
    | ⟨made, home', record', action, -, hlimit, -, -⟩
  · rw [hrefused] at hplan
    cases hplan
  · rw [plan_of_holds hmake hlimit h.holds] at hplan
    have hresult := congrArg Prod.snd hplan
    have hregistered : (Site.inDirectory setup.dir after).registered = .ok written := h.registered
    cases hchoose : setup.choose advertised record.stored.membership.members with
    | error failure =>
      rw [hchoose] at hresult
      cases hresult
    | ok action =>
      rw [hchoose] at hresult
      obtain rfl := Except.ok.inj hresult
      exact ⟨rfl, by rw [planned, hregistered]; rfl⟩

theorem diverged_iff {kept : List Member} (hprevious : outcome.previous = kept)
    (hregistry : outcome.registry = some written) : outcome.diverged = true ↔ kept ≠ written := by
  rw [Outcome.diverged, hregistry, hprevious]
  simp only [bne_iff_ne, ne_comm]

end

/-- **After the members have been set, the registry has the list that was written, and the log has what
a membership keeps of it.**  These are the same exactly when the ids of the list ascend and nobody in
it is a spare, and a plan that is made then says that they differ exactly when they do. -/
theorem views_of_setMembers (setup : Setup) (now : String) (written : List Member) (deadline : Deadline)
    (tree : Tree) (site : Site)
    (h : (Site.inDirectory setup.dir tree).setMembers now written deadline = (site, .ok ())) :
    site.registered = .ok written
    ∧ ∃ kept, Membership.Keeps written kept
      ∧ (∀ later, setup.readLimit later ≠ .expired → setup.members later site = .ok kept)
      ∧ (kept = written ↔
          (written.Pairwise fun a b => a.id < b.id) ∧ ∀ m ∈ written, m.role ≠ .spare)
      ∧ ∀ advertised later after outcome,
          setup.plan advertised later site = (after, .ok outcome) →
            outcome.previous = kept ∧ outcome.registry = some written
              ∧ (outcome.diverged = true ↔ kept ≠ written) := by
  obtain ⟨after, home, record, rfl, hgiven⟩ := exists_given h
  refine ⟨hgiven.registered, record.stored.membership.members, hgiven.keeps, ?_, hgiven.kept_iff, ?_⟩
  · intro later hlimit
    exact hgiven.members hlimit
  · intro advertised later after' outcome hplan
    obtain ⟨hprevious, hregistry⟩ := hgiven.plan hplan
    exact ⟨hprevious, hregistry, diverged_iff hprevious hregistry⟩

/-! ## Two lists -/

/-- In an empty directory any list with a voter can be set. -/
theorem exists_setMembers_empty (first : Member) (rest : List Member) {membership : Membership}
    (hm : Membership.ofMembers? (first :: rest) = some membership) :
    ∃ site, (Site.inDirectory pairSetup.dir emptyTree).setMembers "" (first :: rest) .live
      = (site, .ok ()) := by
  have hhome : emptyTree.IsHome pairSetup.dir pairHome := .of_locate rfl rfl (by decide)
  obtain ⟨forced, hforce⟩ := @exists_force pairSetup.log _ _ hhome ⟨nofun, nofun⟩ _ rfl "" _ _ _ hm
  obtain ⟨home, _, _, _, _, -, -, hhome', -, hholds, honly⟩ := force_eq_ok hforce
  obtain rfl := Except.ok.inj (hhome.located.symm.trans hhome'.located)
  have hroom : forced.find? (pairHome.child clusterName) ≠ some .directory := by
    rw [honly.cluster]
    exact nofun
  exact ⟨_, setMembers_of_force hforce hholds.isHome hroom⟩

/-- Two members in order are read alike from both, and no plan finds a difference. -/
theorem views_of_setMembers_ordered : ∃ site,
    (Site.inDirectory pairSetup.dir emptyTree).setMembers "" ordered .live = (site, .ok ())
      ∧ site.registered = .ok ordered
      ∧ pairSetup.members .live site = .ok ordered
      ∧ ∀ advertised later after outcome,
          pairSetup.plan advertised later site = (after, .ok outcome) → outcome.diverged = false := by
  obtain ⟨site, hset⟩ := exists_setMembers_empty ⟨1, "a:1", .voter⟩ [⟨2, "c:1", .standby⟩] rfl
  obtain ⟨hregistered, kept, -, hmembers, hsame, hplan⟩ :=
    views_of_setMembers pairSetup "" ordered .live emptyTree site hset
  obtain rfl : kept = ordered := hsame.2 (by decide)
  refine ⟨site, hset, hregistered, hmembers .live nofun, fun advertised later after outcome h => ?_⟩
  obtain ⟨-, -, hdiverged⟩ := hplan _ _ _ _ h
  rw [Bool.eq_false_iff]
  exact fun htrue => hdiverged.1 htrue rfl

/-- Two voters, the later id first. -/
def reversed : List Member := [⟨2, "10.0.0.2:17666", .voter⟩, ⟨1, "10.0.0.1:17666", .voter⟩]

theorem choose_reversed : pairSetup.choose pairAdvertised reversed.reverse
    = .ok (.collapse ⟨1, "10.0.0.1:17666", .voter⟩) := rfl

/-- The log tells them in the order of their ids, the registry as they were written, and a plan that is
made then finds that the two differ. -/
theorem views_differ_reversed : ∃ site,
    (Site.inDirectory pairSetup.dir emptyTree).setMembers "" reversed .live = (site, .ok ())
      ∧ site.registered = .ok reversed
      ∧ pairSetup.members .live site = .ok reversed.reverse
      ∧ ∃ after outcome,
          pairSetup.plan pairAdvertised .live site = (after, .ok outcome) ∧ outcome.diverged = true := by
  obtain ⟨site, hset⟩ := exists_setMembers_empty ⟨2, "10.0.0.2:17666", .voter⟩
    [⟨1, "10.0.0.1:17666", .voter⟩] rfl
  obtain ⟨after, home, record, rfl, hgiven⟩ := exists_given hset
  have hkept : record.stored.membership.members = reversed.reverse := by
    have hkept := hgiven.kept
    obtain ⟨-, hmembership⟩ := Membership.ofMembers?_eq_some_iff.1 hkept
    rw [hmembership]
    rfl
  have hmembers := @Given.members pairSetup _ .live _ _ _ hgiven nofun
  have hmake := makeDirectories_of_isDirectory hgiven.holds.isHome.isDirectory
  have hplan := @plan_of_holds pairSetup pairAdvertised .live _ _ _ _ hmake nofun hgiven.holds
  rw [hkept, choose_reversed] at hplan
  obtain ⟨hprevious, hregistry⟩ := hgiven.plan hplan
  refine ⟨_, hset, hgiven.registered, hkept ▸ hmembers, _, _, hplan, ?_⟩
  rw [diverged_iff hprevious hregistry, hkept]
  decide

end QuorumRescue.Setup
