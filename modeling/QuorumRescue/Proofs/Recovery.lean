/-
  The course of a recovery on disk.

  The program is written for one operation, which is run when a cluster has lost its quorum and cannot
  be undone.  This file says all that a recovery can do to the files of a machine, for any tree, any
  lock and any deadline.

  1. **The specification of the ways.** A recovery that is not refused rests on a record that the log
     holds, and from there on few things can happen.  A single member is left as it is.  With several,
     the log is forced to the survivor, unless the time is over, and then the registry follows, unless a
     directory is in its file's place.  `Course` lists these five ways with the tree that each of them
     leaves.

  2. **The crux** is that there are no others (`recover_course`).  The proof walks through the recovery
     once.  Where the log can be read it holds a record (`Holds`), and a log that holds a record can be
     forced to anybody (`exists_forced`), so the force is no source of failures any more.  From here on
     a statement on recoveries is a case analysis with five cases.

  3. **Failure.** `MovedBy` says for each step how far the tree has moved when a recovery fails in it.
     Up to the forcing of the log no file is touched.  After it only the registry can fail, and then the
     log has the survivor alone and the registry is as it was.  A failure tells its step, in one layer
     of annotation (`recover_error_tells_step`).

  4. **Success.** The log has the member that was announced, alone.  If that was done just now, it was
     done completely (`Applied`); otherwise no file is different.  Any other recovery in time finds that
     member and leaves everything as it is (`recover_ok_settles`).

  5. **The smallest site** with something to recover stands in the middle: two voters, with anything in
     the place of the registry's file.  It serves as an example here and in other files.
-/
import QuorumRescue.Proofs.Site

namespace QuorumRescue.Setup

open LogDirectory RegistryDirectory QuorumRescue.Tree

variable {setup : Setup} {now : String} {advertised : List String} {deadline : Deadline}
  {tree made forced : Tree} {home : Place} {record : LogRecord} {survivor : Member}

/-! ## Forcing -/

/-- The log of `made`, where it held a record, has been forced to a survivor. -/
structure Forced (setup : Setup) (now : String) (made : Tree) (home : Place) (record : LogRecord)
    (survivor : Member) (forced : Tree) : Prop where
  force : setup.log.force now [{ survivor with role := .voter }] made = (forced, .ok ())
  holds : setup.log.Holds forced home
    (.force now ⟨some (.following record.stored.logId survivor.id),
      .single survivor.id survivor.address⟩)
  onlyForced : OnlyForced home made forced

/-- A log that holds a record can be forced to anybody. -/
theorem exists_forced (h : setup.log.Holds made home record) (now : String) (survivor : Member) :
    ∃ forced, setup.Forced now made home record survivor forced := by
  obtain ⟨forced, hforce, hholds, honly⟩ :=
    force_of_holds h now (Membership.ofMembers?_single survivor.id survivor.address)
  exact ⟨forced, hforce, hholds, honly⟩

theorem readMembers_single {now : String} {stored : StoredMembership} {id : UInt64} {address : String}
    (h : setup.log.Holds tree home (.force now stored))
    (hstored : stored.membership = .single id address) :
    setup.log.readMembers tree = .ok [⟨id, address, .voter⟩] := by
  have hmembers : (LogRecord.force now stored).stored.membership = .single id address := hstored
  rw [h.readMembers, hmembers, Membership.members_single]

/-- A log that was forced to a survivor has the survivor as its only member. -/
theorem Forced.readMembers (h : setup.Forced now made home record survivor forced) :
    setup.log.readMembers forced = .ok [{ survivor with role := .voter }] :=
  readMembers_single h.holds rfl

/-! ## Registering -/

/-- The bytes of the registry's file for a list of members. -/
def clusterBytes (members : List Member) : ByteArray :=
  (String.ofList (Registry.clusterText members)).toUTF8

/-- The registry's file shows whether there are more members than the first. -/
theorem clusterBytes_ne_of_more (first second : Member) (rest : List Member) :
    clusterBytes (first :: second :: rest) ≠ clusterBytes [first] := by
  intro h
  have htext := String.ofList_injective (String.toByteArray_inj.1 h)
  -- what follows the first member's lines would be empty, but it starts with a dash
  simp [Registry.clusterText, Registry.fieldLines] at htext

/-- The tree with the registry's file for a list of members. -/
def registered (tree : Tree) (home : Place) (members : List Member) : Tree :=
  tree.put (home.child clusterName) (.file (clusterBytes members))

/-- Registering members in a home puts the file in its place, unless a directory is there. -/
theorem register_eq {dir : Path} (h : tree.IsHome dir home) (members : List Member) :
    (Site.inDirectory dir tree).register members
      = if tree.find? (home.child clusterName) = some .directory then
          (.inDirectory dir tree,
            .error (.io (RegistryDirectory.mk dir).clusterPath.text .isDirectory))
        else (.inDirectory dir (registered tree home members), .ok ()) := by
  have hwrite := @writeFile_eq ⟨dir⟩ tree home h clusterName isPlainName_clusterName
    (Registry.clusterText members)
  simp only [Site.register, Site.inDirectory, Registry.setMembers, RegistryDirectory.setMembers, hwrite]
  split <;> rfl

/-- The bytes of a node's own record. -/
def infoBytes (member : Member) : ByteArray := (String.ofList (Registry.infoText member)).toUTF8

/-- So does rewriting the node's own record. -/
theorem setInfo_eq {dir : Path} (h : tree.IsHome dir home) (member : Member) :
    (Site.inDirectory dir tree).setInfo member
      = if tree.find? (home.child infoName) = some .directory then
          (.inDirectory dir tree,
            .error (.io (RegistryDirectory.mk dir).infoPath.text .isDirectory))
        else
          (.inDirectory dir (tree.put (home.child infoName) (.file (infoBytes member))), .ok ()) := by
  have hwrite := @writeFile_eq ⟨dir⟩ tree home h infoName isPlainName_infoName
    (Registry.infoText member)
  simp only [Site.setInfo, Site.inDirectory, Registry.setInfo, RegistryDirectory.setInfo, hwrite]
  split <;> rfl

/-- Registering does not concern the log. -/
theorem holds_registered (h : setup.log.Holds tree home record)
    (hd : tree.find? (home.child clusterName) ≠ some .directory) (members : List Member) :
    setup.log.Holds (registered tree home members) home record :=
  h.of_elsewhere clusterName_ne_recordName clusterName_ne_lockName hd _

/-- The registry's file, when it has just been written. -/
theorem read_registered (h : tree.IsHome setup.dir home)
    (hd : tree.find? (home.child clusterName) ≠ some .directory) (members : List Member) :
    (registered tree home members).read setup.registry.clusterPath = .ok (clusterBytes members) :=
  ((h.of_keeps (keepsDirectories_put hd)).read_eq_ok_iff isPlainName_clusterName).2
    (find?_put_self (Place.isStart_child _ _))

/-- Forcing does not concern the registry. -/
theorem Forced.cluster (h : setup.Forced now made home record survivor forced) :
    forced.find? (home.child clusterName) = made.find? (home.child clusterName) :=
  h.onlyForced.cluster

/-- So there is room for the registry's file afterwards if there was before. -/
theorem Forced.room (h : setup.Forced now made home record survivor forced)
    (hd : made.find? (home.child clusterName) ≠ some .directory) :
    forced.find? (home.child clusterName) ≠ some .directory := by
  rwa [h.cluster]

/-! ## Where the log holds a record -/

/-- The log holds a record that can be read in time, and its members leave one survivor. -/
structure Chosen (setup : Setup) (advertised : List String) (deadline : Deadline) (made : Tree)
    (home : Place) (record : LogRecord) (survivor : Member) : Prop where
  inTime : setup.readLimit deadline ≠ .expired
  holds : setup.log.Holds made home record
  chosen : setup.choose advertised record.stored.membership.members = .ok (.collapse survivor)

/-- There are several members, and the evidence is for the survivor. -/
theorem Chosen.resolved (h : setup.Chosen advertised deadline made home record survivor) :
    2 ≤ record.stored.membership.members.length
      ∧ Survivor.resolve record.stored.membership.members advertised setup.ownAddresses
        = .ok survivor := by
  rcases choose_eq_ok_iff.1 h.chosen with ⟨_, _, he⟩ | ⟨other, hseveral, _, hresolve, he⟩
  · cases he
  · rw [Action.collapse.inj he]
    exact ⟨hseveral, hresolve⟩

/-- What a collapse to a survivor comes to, when it has been done. -/
def collapsed (setup : Setup) (made : Tree) (previous : List Member) (survivor : Member) : Outcome :=
  { setup.planned made previous (.collapse survivor) with applied := true }

/-- A single member is left as it is. -/
theorem recover_of_single (hmake : tree.makeDirectories setup.dir = (made, .ok ()))
    (hlimit : setup.readLimit deadline ≠ .expired) (h : setup.log.Holds made home record)
    {only : Member} (hsingle : record.stored.membership.members = [only]) (now : String)
    (advertised : List String) :
    setup.recover now advertised deadline (.inDirectory setup.dir tree)
      = (.inDirectory setup.dir made, .ok (setup.planned made [only] (.alreadySingle only))) := by
  rw [recover, plan_of_holds hmake hlimit h, hsingle]
  rfl

/-- When the time is over, several members are left as they are. -/
theorem recover_of_late (hmake : tree.makeDirectories setup.dir = (made, .ok ()))
    (h : setup.Chosen advertised deadline made home record survivor) (hlate : deadline ≠ .live) :
    setup.recover now advertised deadline (.inDirectory setup.dir tree)
      = (.inDirectory setup.dir made,
          .error ((Failure.deadlineExceeded .collapseLog).during .collapseLog)) := by
  rw [recover, plan_of_holds hmake h.inTime h.holds, h.chosen]
  cases deadline with
  | live => exact absurd rfl hlate
  | short => rfl
  | expired => rfl

/-- In time, the log is forced to the survivor and then the registry follows if it can. -/
theorem recover_of_collapse (hmake : tree.makeDirectories setup.dir = (made, .ok ()))
    (h : setup.Chosen advertised .live made home record survivor)
    (hforced : setup.Forced now made home record survivor forced) :
    setup.recover now advertised .live (.inDirectory setup.dir tree)
      = if made.find? (home.child clusterName) = some .directory then
          (.inDirectory setup.dir forced,
            .error ((Failure.inconsistentState survivor.id
              (.io setup.registry.clusterPath.text .isDirectory)).during .collapseRegistry))
        else
          (.inDirectory setup.dir (registered forced home [{ survivor with role := .voter }]),
            .ok (setup.collapsed made record.stored.membership.members survivor)) := by
  have hforce := force_inDirectory hforced.force
  rw [recover, plan_of_holds hmake h.inTime h.holds, h.chosen]
  simp only [Except.map, Site.carryOut, planned, Outcome.members, Action.remaining, Site.setMembers,
    hforce, register_eq hforced.holds.isHome, hforced.cluster]
  by_cases hd : made.find? (home.child clusterName) = some .directory
  · simp only [if_pos hd]
    rfl
  · simp only [if_neg hd]
    rfl

/-! ## All ways -/

/-- The ways in which a recovery on disk can go once `made` has the data directory, as far as it
could be made, and the trees and answers that they end with. -/
inductive Course (setup : Setup) (now : String) (advertised : List String) (deadline : Deadline)
    (made : Tree) : Tree → Except Failure Outcome → Prop
  | refused {failure : Failure} (refusal : Refusal failure) :
      Course setup now advertised deadline made made (.error failure)
  | single {home : Place} {record : LogRecord} {only : Member}
      (inTime : setup.readLimit deadline ≠ .expired) (holds : setup.log.Holds made home record)
      (members : record.stored.membership.members = [only]) :
      Course setup now advertised deadline made made
        (.ok (setup.planned made [only] (.alreadySingle only)))
  | late {home : Place} {record : LogRecord} {survivor : Member}
      (chosen : setup.Chosen advertised deadline made home record survivor)
      (tooLate : deadline ≠ .live) :
      Course setup now advertised deadline made made
        (.error ((Failure.deadlineExceeded .collapseLog).during .collapseLog))
  | halfway {home : Place} {record : LogRecord} {survivor : Member} {forced : Tree}
      (chosen : setup.Chosen advertised deadline made home record survivor) (live : deadline = .live)
      (force : setup.Forced now made home record survivor forced)
      (blocked : forced.find? (home.child clusterName) = some .directory) :
      Course setup now advertised deadline made forced
        (.error ((Failure.inconsistentState survivor.id
          (.io setup.registry.clusterPath.text .isDirectory)).during .collapseRegistry))
  | done {home : Place} {record : LogRecord} {survivor : Member} {forced : Tree}
      (chosen : setup.Chosen advertised deadline made home record survivor) (live : deadline = .live)
      (force : setup.Forced now made home record survivor forced)
      (room : forced.find? (home.child clusterName) ≠ some .directory) :
      Course setup now advertised deadline made
        (registered forced home [{ survivor with role := .voter }])
        (.ok (setup.collapsed made record.stored.membership.members survivor))

/-- **There are no other ways.** Planning has been taken apart already; what is left is whether there is
    time, and whether the registry has room. -/
theorem recover_course (setup : Setup) (now : String) (advertised : List String)
    (deadline : Deadline) (tree : Tree) : ∃ after result,
      setup.recover now advertised deadline (.inDirectory setup.dir tree)
        = (.inDirectory setup.dir after, result)
        ∧ setup.Course now advertised deadline (tree.makeDirectories setup.dir).1 after result := by
  rcases plan_cases setup advertised deadline tree with ⟨failure, hrefusal, hplan⟩
    | ⟨made, home, record, action, hmake, hlimit, hholds, hchoose⟩
  · refine ⟨_, _, ?_, .refused hrefusal⟩
    rw [recover, hplan]
  · rw [hmake]
    cases action with
    | alreadySingle only =>
      obtain hsingle : record.stored.membership.members = [only] := by
        rcases choose_eq_ok_iff.1 hchoose with ⟨member, hmembers, he⟩ | ⟨_, _, _, _, he⟩
        · rw [hmembers, Action.alreadySingle.inj he]
        · cases he
      exact ⟨_, _, recover_of_single hmake hlimit hholds hsingle now advertised,
        .single hlimit hholds hsingle⟩
    | collapse survivor =>
      have hchosen : setup.Chosen advertised deadline made home record survivor :=
        ⟨hlimit, hholds, hchoose⟩
      by_cases hlive : deadline = .live
      · subst hlive
        obtain ⟨forced, hforced⟩ := exists_forced hholds now survivor
        have hrecover := recover_of_collapse hmake hchosen hforced
        -- only the registry can fail now, and whether it does could be seen beforehand
        by_cases hd : made.find? (home.child clusterName) = some .directory
        · rw [if_pos hd] at hrecover
          have hblocked := hforced.cluster.trans hd
          exact ⟨_, _, hrecover, .halfway hchosen rfl hforced hblocked⟩
        · rw [if_neg hd] at hrecover
          exact ⟨_, _, hrecover, .done hchosen rfl hforced (hforced.room hd)⟩
      · exact ⟨_, _, recover_of_late hmake hchosen hlive, .late hchosen hlive⟩

/-- So a recovery that has been seen to end went one of these ways. -/
theorem course_of_recover {after : Site} {result : Except Failure Outcome}
    (h : setup.recover now advertised deadline (.inDirectory setup.dir tree) = (after, result)) :
    ∃ left, after = .inDirectory setup.dir left
      ∧ setup.Course now advertised deadline (tree.makeDirectories setup.dir).1 left result := by
  obtain ⟨left, result', hrecover, hcourse⟩ := recover_course setup now advertised deadline tree
  rw [h] at hrecover
  obtain ⟨rfl, rfl⟩ := Prod.mk.inj hrecover
  exact ⟨left, rfl, hcourse⟩

/-! ## Two members

The smallest site with something to recover: the log has two voters, and there is something in the
place of the registry's file. -/

/-- Their record. -/
def pairRecord : LogRecord :=
  .force "" ⟨none, ⟨[.ofList [1, 2]], .ofList [(1, "10.0.0.1:17666"), (2, "10.0.0.2:17666")]⟩⟩

/-- The two members. -/
def pairMembers : List Member := [⟨1, "10.0.0.1:17666", .voter⟩, ⟨2, "10.0.0.2:17666", .voter⟩]

def pairHome : Place := ⟨false, ["raft"]⟩

/-- A data directory with their record. -/
def pairTree (cluster : Entry) : Tree where
  entries := [
    (pairHome, .directory),
    (pairHome.child recordName, .file pairRecord.toBytes),
    (pairHome.child clusterName, cluster)]
  locked := []

def pairSetup : Setup := ⟨⟨"raft"⟩, 1000, .ok []⟩

/-- The first of the two is the survivor. -/
def pairAdvertised : List String := ["10.0.0.1:17070"]

theorem choose_pair : pairSetup.choose pairAdvertised pairRecord.stored.membership.members
    = .ok (.collapse ⟨1, "10.0.0.1:17666", .voter⟩) := rfl

theorem holds_pairTree (cluster : Entry) :
    pairSetup.log.Holds (pairTree cluster) pairHome pairRecord where
  isHome := .of_locate rfl rfl (by decide)
  recorded := ⟨pairRecord.toBytes, rfl, LogRecord.trusted_force _ _⟩
  unlocked := ⟨nofun, fun _ _ => nofun⟩

/-- What a recovery of the two comes to. -/
theorem exists_recover_pair (cluster : Entry) : ∃ forced,
    pairSetup.Forced "" (pairTree cluster) pairHome pairRecord ⟨1, "10.0.0.1:17666", .voter⟩ forced
      ∧ pairSetup.recover "" pairAdvertised .live (.inDirectory pairSetup.dir (pairTree cluster))
        = if cluster = .directory then
            (.inDirectory pairSetup.dir forced,
              .error ((Failure.inconsistentState 1
                (.io pairSetup.registry.clusterPath.text .isDirectory)).during .collapseRegistry))
          else
            (.inDirectory pairSetup.dir (registered forced pairHome [⟨1, "10.0.0.1:17666", .voter⟩]),
              .ok (pairSetup.collapsed (pairTree cluster) pairRecord.stored.membership.members
                ⟨1, "10.0.0.1:17666", .voter⟩)) := by
  have hholds := holds_pairTree cluster
  obtain ⟨forced, hforced⟩ := exists_forced hholds "" ⟨1, "10.0.0.1:17666", .voter⟩
  refine ⟨forced, hforced, ?_⟩
  have hmake := makeDirectories_of_isDirectory hholds.isHome.isDirectory
  have hcluster : (pairTree cluster).find? (pairHome.child clusterName) = some cluster := rfl
  rw [recover_of_collapse hmake ⟨by decide, hholds, choose_pair⟩ hforced, hcluster]
  simp only [Option.some.injEq]

/-! ## Failure -/

/-- How far a recovery that failed in a step has moved the tree, and from which cause it failed.  Up
to the forcing of the log itself no file is touched.  After it only the registry can fail: then the
log has the survivor as its only member, a missing lock file may have been made, and everything else
is as it was found once the data directory was there. -/
def MovedBy (setup : Setup) (advertised : List String) (deadline : Deadline) (before after : Tree)
    (source : Failure) : Step → Prop
  | .ensureDataDir | .readMembership | .resolveSurvivor | .collapseLog =>
      SameFiles before after ∧ OnlyMade setup.dir before after
  | .collapseRegistry =>
      ∃ previous survivor cause home,
        setup.members deadline (.inDirectory setup.dir (before.makeDirectories setup.dir).1)
            = .ok previous
          ∧ Survivor.resolve previous advertised setup.ownAddresses = .ok survivor
          ∧ source = .inconsistentState survivor.id cause
          ∧ setup.members deadline (.inDirectory setup.dir after)
            = .ok [{ survivor with role := .voter }]
          ∧ after.IsHome setup.dir home
          ∧ OnlyForced home (before.makeDirectories setup.dir).1 after
          ∧ SameFilesBut [home.child recordName, home.child lockName] before after
  | .rewriteInfo => False

/-- **A failure tells by its one step how far the tree has moved.** The cases are the ways of a recovery
    that end in a failure, and only the last of them has moved anything but missing directories. -/
theorem recover_error_tells_step {after : Site} {failure : Failure}
    (h : setup.recover now advertised deadline (.inDirectory setup.dir tree)
      = (after, .error failure)) :
    ∃ step source left, failure = .stepFailed step source
      ∧ (∀ inner cause, source ≠ .stepFailed inner cause)
      ∧ after = .inDirectory setup.dir left
      ∧ setup.MovedBy advertised deadline tree left source step := by
  have hmade := makeDirectories_onlyMade tree setup.dir
  obtain ⟨left, rfl, hcourse⟩ := course_of_recover h
  cases hcourse with
  | refused refusal =>
    obtain ⟨step, source, rfl, hstep, hplain⟩ := refusal
    refine ⟨step, source, _, rfl, ?_, rfl, ?_⟩
    · rintro inner cause rfl
      cases hplain
    · -- the tree is as planning leaves it
      cases step with
      | ensureDataDir | readMembership | resolveSurvivor => exact ⟨hmade.sameFiles, hmade⟩
      | collapseLog | collapseRegistry | rewriteInfo => cases hstep
  | late => exact ⟨.collapseLog, _, _, rfl, nofun, rfl, hmade.sameFiles, hmade⟩
  | @halfway home record survivor forced chosen live force blocked =>
    refine ⟨.collapseRegistry, _, _, rfl, nofun, rfl, record.stored.membership.members, survivor, _,
      home, ?_, chosen.resolved.2, rfl, ?_, force.holds.isHome, force.onlyForced, ?_⟩
    · rw [members_inDirectory chosen.inTime, chosen.holds.readMembers]
    · rw [members_inDirectory chosen.inTime, force.readMembers]
    · exact hmade.sameFiles.trans_but force.onlyForced.sameFilesBut

/-- With a directory in the place of the registry's file, the log of two members is collapsed and the
registry cannot follow. -/
theorem recover_error_tells_step_pair : ∃ after failure,
    pairSetup.recover "" pairAdvertised .live (.inDirectory pairSetup.dir (pairTree .directory))
        = (after, .error failure)
      ∧ ∃ step source left, failure = .stepFailed step source
        ∧ (∀ inner cause, source ≠ .stepFailed inner cause)
        ∧ after = .inDirectory pairSetup.dir left
        ∧ pairSetup.MovedBy pairAdvertised .live (pairTree .directory) left source step := by
  obtain ⟨forced, -, hrecover⟩ := exists_recover_pair .directory
  rw [if_pos rfl] at hrecover
  exact ⟨_, _, hrecover, recover_error_tells_step hrecover⟩

/-! ## Success -/

/-- Where a single member is on record, a recovery changes nothing, whatever is advertised. -/
theorem recover_of_settled (h : setup.log.Holds tree home record) {only : Member}
    (hsingle : record.stored.membership.members = [only])
    (hlimit : setup.readLimit deadline ≠ .expired) (now : String) (advertised : List String) :
    setup.recover now advertised deadline (.inDirectory setup.dir tree)
      = (.inDirectory setup.dir tree, .ok (setup.planned tree [only] (.alreadySingle only))) :=
  recover_of_single (makeDirectories_of_isDirectory h.isHome.isDirectory) hlimit h hsingle now
    advertised

/-- What a success in which the log was collapsed has done: the only member left was one of several
and votes now, and the registry has it too. -/
structure Applied (setup : Setup) (outcome : Outcome) (after : Tree) : Prop where
  several : 2 ≤ outcome.previous.length
  survived : ∃ old ∈ outcome.previous, outcome.members = [{ old with role := .voter }]
  registered : after.read setup.registry.clusterPath = .ok (clusterBytes outcome.members)

/-- **After a success the matter is settled.**  The log has the member that was announced, alone.  If
that was done just now, it was done completely; otherwise no file is different.  Any other recovery
in time finds that member and leaves everything as it is. -/
theorem recover_ok_settles {after : Site} {outcome : Outcome}
    (h : setup.recover now advertised .live (.inDirectory setup.dir tree) = (after, .ok outcome)) :
    ∃ member, outcome.members = [member]
      ∧ setup.members .live after = .ok [member]
      ∧ setup.members .live (.inDirectory setup.dir (tree.makeDirectories setup.dir).1)
        = .ok outcome.previous
      ∧ (if outcome.applied then setup.Applied outcome after.tree else SameFiles tree after.tree)
      ∧ ∀ now' advertised', setup.recover now' advertised' .live after
          = (after, .ok ⟨[member], after.registered.toOption, .alreadySingle member, false⟩) := by
  have hmade := makeDirectories_onlyMade tree setup.dir
  obtain ⟨left, rfl, hcourse⟩ := course_of_recover h
  cases hcourse with
  | @single home record only inTime holds members =>
    have hread : setup.members .live (.inDirectory setup.dir (tree.makeDirectories setup.dir).1)
        = .ok [only] := by rw [members_inDirectory inTime, holds.readMembers, members]
    exact ⟨only, rfl, hread, hread, hmade.sameFiles,
      fun now' advertised' => recover_of_settled holds members inTime now' advertised'⟩
  | @done home record survivor forced chosen live force room =>
    obtain ⟨hseveral, hresolve⟩ := chosen.resolved
    have hholds := holds_registered force.holds room [{ survivor with role := .voter }]
    refine ⟨{ survivor with role := .voter }, rfl, ?_, ?_, ?_, fun now' advertised' => ?_⟩
    · rw [members_inDirectory chosen.inTime, readMembers_single hholds rfl]
    · rw [members_inDirectory chosen.inTime, chosen.holds.readMembers]
      rfl
    · exact ⟨hseveral, ⟨survivor, Survivor.mem_of_resolve hresolve, rfl⟩,
        read_registered force.holds.isHome room _⟩
    · exact recover_of_settled hholds (Membership.members_single _ _) chosen.inTime now' advertised'

/-- Two members are collapsed to the first of them, and then the matter is settled. -/
theorem recover_ok_settles_pair : ∃ after outcome,
    pairSetup.recover "" pairAdvertised .live
        (.inDirectory pairSetup.dir (pairTree (.file ByteArray.empty))) = (after, .ok outcome)
      ∧ ∃ member, outcome.members = [member]
        ∧ pairSetup.members .live after = .ok [member]
        ∧ pairSetup.members .live (.inDirectory pairSetup.dir
            ((pairTree (.file ByteArray.empty)).makeDirectories pairSetup.dir).1)
          = .ok outcome.previous
        ∧ (if outcome.applied then pairSetup.Applied outcome after.tree
            else SameFiles (pairTree (.file ByteArray.empty)) after.tree)
        ∧ ∀ now' advertised', pairSetup.recover now' advertised' .live after
            = (after, .ok ⟨[member], after.registered.toOption, .alreadySingle member, false⟩) := by
  obtain ⟨forced, -, hrecover⟩ := exists_recover_pair (.file ByteArray.empty)
  rw [if_neg nofun] at hrecover
  exact ⟨_, _, hrecover, recover_ok_settles hrecover⟩

end QuorumRescue.Setup
