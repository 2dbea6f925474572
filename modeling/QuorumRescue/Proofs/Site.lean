/-
  A site on disk.

  A recovery is told for any site, with a log and a registry of any kind.  On disk both share one
  directory of a tree.  This file brings the steps of a recovery down to the tree: each of them is a
  function of the tree, and the site stays in its directory.

  1. **Planning.** It makes the data directory and otherwise only reads (`plan_cases`).  What it accepts
     rests on a record that the log holds, and on the choice made among the members of that record
     (`plan_of_holds`).

  2. **Refusals.** What planning refuses is annotated once with the step that refused it (`Refusal`).  A
     failure underneath a step is plain: it has no step of its own and is nothing that a half done write
     could have left (`Failure.isPlain`).  There is one lemma on this for each function that may fail,
     and each takes the function apart and cites those of the functions that it calls.

  3. **Writing** has more ways to go, since the log is forced before the registry is written.  `Writing`
     and `Rewriting` list them, each with the last thing that was done, and that there are no others is
     proved once for each (`setMembers_writing`, `rewriteInfo_rewriting`).  Whoever has to know what a
     write can do cites these, and never opens the functions.

  4. **The crux** in both is to tell apart what was done from what was answered.  An inconsistent state
     is an answer of a write whose first half was done; a refusal is an answer where nothing was.
-/
import QuorumRescue.Proofs.Log
import QuorumRescue.Recovery

namespace QuorumRescue

/-! ## Files of the registry -/

namespace RegistryDirectory

open QuorumRescue.Tree

theorem isPlainName_clusterName : isPlainName clusterName := by decide
theorem isPlainName_infoName : isPlainName infoName := by decide
theorem clusterName_ne_recordName : clusterName ≠ LogDirectory.recordName := by decide
theorem clusterName_ne_lockName : clusterName ≠ LogDirectory.lockName := by decide
theorem infoName_ne_recordName : infoName ≠ LogDirectory.recordName := by decide
theorem infoName_ne_lockName : infoName ≠ LogDirectory.lockName := by decide
theorem infoName_ne_clusterName : infoName ≠ clusterName := by decide

variable {registry : RegistryDirectory} {tree : Tree} {home : Place}

/-- **Writing a file** fails and leaves the tree as it is, or puts the text's bytes where the file's
path leads. -/
theorem writeFile_cases (registry : RegistryDirectory) (name : String) (text : List Char) (tree : Tree) :
    (∃ failure, registry.writeFile name text tree = (tree, .error failure))
      ∨ ∃ place, tree.locate (registry.path.child name) = .ok place
        ∧ tree.find? place ≠ some .directory
        ∧ registry.writeFile name text tree
          = (tree.put place (.file (String.ofList text).toUTF8), .ok ()) := by
  rw [writeFile]
  rcases tree.replace_cases registry.path name (String.ofList text).toUTF8 with ⟨fault, heq⟩
    | ⟨place, hl, hd, heq⟩
  · left
    rw [heq]
    cases fault <;> exact ⟨_, rfl⟩
  · right
    exact ⟨place, hl, hd, by rw [heq]⟩

/-- A file of the registry is written unless a directory has its name. -/
theorem writeFile_eq (h : tree.IsHome registry.path home) {name : String} (hname : isPlainName name)
    (text : List Char) :
    registry.writeFile name text tree
      = if tree.find? (home.child name) = some .directory then
          (tree, .error (.io (registry.path.child name).text .isDirectory))
        else (tree.put (home.child name) (.file (String.ofList text).toUTF8), .ok ()) := by
  rw [writeFile, h.replace_eq hname]
  by_cases hd : tree.find? (home.child name) = some .directory <;> simp [hd]

end RegistryDirectory

/-- Forcing does not concern the registry. -/
theorem LogDirectory.OnlyForced.cluster {before after : Tree} {home : Place}
    (h : OnlyForced home before after) :
    after.find? (home.child RegistryDirectory.clusterName)
      = before.find? (home.child RegistryDirectory.clusterName) :=
  h.elsewhere _ (Place.child_ne RegistryDirectory.clusterName_ne_recordName)
    (Place.child_ne RegistryDirectory.clusterName_ne_lockName)

theorem LogDirectory.OnlyForced.info {before after : Tree} {home : Place}
    (h : OnlyForced home before after) :
    after.find? (home.child RegistryDirectory.infoName)
      = before.find? (home.child RegistryDirectory.infoName) :=
  h.elsewhere _ (Place.child_ne RegistryDirectory.infoName_ne_recordName)
    (Place.child_ne RegistryDirectory.infoName_ne_lockName)

/-! ## Plain failures -/

/-- A failure without a step and without a write that was half done. -/
def Failure.isPlain : Failure → Bool
  | .stepFailed .. | .inconsistentState .. => false
  | _ => true

/-- Steps do not count for the exit status. -/
theorem Failure.exitCode_stepFailed (step : Step) (source : Failure) :
    (Failure.stepFailed step source).exitCode = source.exitCode := rfl

/-- A plain failure exits with 1. -/
theorem Failure.exitCode_of_isPlain {failure : Failure} (h : failure.isPlain) :
    failure.exitCode = 1 := by
  cases failure <;> first | rfl | cases h

theorem LogDirectory.isPlain_of_readRecord {log : LogDirectory} {tree : Tree} {failure : Failure}
    (h : log.readRecord tree = .error failure) : failure.isPlain := by
  unfold LogDirectory.readRecord at h
  split at h
  · cases h; rfl
  · cases h; rfl
  · split at h <;> cases h
    rfl

theorem LogDirectory.isPlain_of_readMembers {log : LogDirectory} {tree : Tree} {failure : Failure}
    (h : log.readMembers tree = .error failure) : failure.isPlain := by
  unfold LogDirectory.readMembers at h
  split at h
  · split at h
    · cases h; rfl
    · cases h; rfl
    all_goals
      cases hrecord : log.readRecord tree with
      | ok record => simp [hrecord, Except.map] at h
      | error fault =>
        simp only [hrecord, Except.map, Except.error.injEq] at h
        exact h ▸ isPlain_of_readRecord hrecord
  · cases h; rfl

theorem LogDirectory.isPlain_of_write {log : LogDirectory} {tree after : Tree} {now : String}
    {stored : StoredMembership} {failure : Failure}
    (h : log.write now stored tree = (after, .error failure)) : failure.isPlain := by
  unfold LogDirectory.write at h
  split at h
  · cases h
  · cases h; rfl
  · cases h; rfl

theorem LogDirectory.isPlain_of_forceLocked {log : LogDirectory} {tree after : Tree} {now : String}
    {first : Member} {members : List Member} {failure : Failure}
    (h : log.forceLocked now first members tree = (after, .error failure)) : failure.isPlain := by
  unfold LogDirectory.forceLocked at h
  split at h
  · next fault hlast =>
    unfold LogDirectory.lastEntry at hlast
    obtain rfl : fault = failure := Except.error.inj (congrArg Prod.snd h)
    split at hlast
    · cases hlast
    · cases hlast
    · next hrecord =>
      cases hlast
      exact isPlain_of_readRecord hrecord
  · split at h
    · cases h; rfl
    · exact isPlain_of_write h

/-- A force that fails has left nothing half done. -/
theorem LogDirectory.isPlain_of_force {log : LogDirectory} {tree after : Tree} {now : String}
    {members : List Member} {failure : Failure}
    (h : log.force now members tree = (after, .error failure)) : failure.isPlain := by
  unfold LogDirectory.force at h
  split at h
  · cases h; rfl
  · split at h
    · split at h
      · exact isPlain_of_forceLocked h
      · cases h; rfl
      · cases h; rfl
      · cases h; rfl
    · cases h; rfl

/-! ## Finding the survivor -/

namespace Survivor

/-- With one advertised address at most and two members at least, the machine is not asked. -/
theorem evidence_of_few {members : List Member} {advertised : List String}
    (own : Except Failure (List String)) (hm : 2 ≤ members.length) (ha : advertised.length ≤ 1) :
    evidence members advertised own = .ok advertised := by
  have hone : members.length ≠ 1 := by omega
  have hmore : ¬ 1 < advertised.length := by omega
  simp [evidence, asksMachine, hone, hmore]

theorem isPlain_of_hostsOf {addresses : List String} {failure : Failure}
    (h : hostsOf addresses = .error failure) : failure.isPlain := by
  induction addresses with
  | nil => cases h
  | cons address rest ih =>
    simp only [hostsOf] at h
    split at h
    · next hhost =>
      unfold Evidence.host at hhost
      split at hhost <;> cases hhost
      cases h
      rfl
    · split at h
      · next hrest => cases h; exact ih hrest
      · cases h

/-- A search ends with one of the members, with none, or with an address that cannot be taken
apart. -/
theorem firstAt_cases (hosts : List String) (members : List Member) :
    (∃ member ∈ members, firstAt hosts members = .ok (some member))
      ∨ firstAt hosts members = .ok none
      ∨ ∃ failure : Failure, failure.isPlain ∧ firstAt hosts members = .error failure := by
  induction members with
  | nil => exact Or.inr (Or.inl rfl)
  | cons member rest ih =>
    cases hhost : member.host with
    | error failure =>
      refine Or.inr (Or.inr ⟨failure, ?_, by simp [firstAt, hhost]⟩)
      unfold Member.host at hhost
      split at hhost <;> cases hhost
      rfl
    | ok host =>
      by_cases hin : hosts.contains host
      · exact Or.inl ⟨member, List.mem_cons_self, by simp only [firstAt, hhost, if_pos hin]⟩
      · have hskip : firstAt hosts (member :: rest) = firstAt hosts rest := by
          simp only [firstAt, hhost, if_neg hin]
        rw [hskip]
        rcases ih with ⟨found, hmem, hfound⟩ | hnone | herror
        · exact Or.inl ⟨found, List.mem_cons_of_mem _ hmem, hfound⟩
        · exact Or.inr (Or.inl hnone)
        · exact Or.inr (Or.inr herror)

variable {members : List Member} {advertised : List String} {own : Except Failure (List String)}

/-- A survivor is one of the members. -/
theorem mem_of_resolve {survivor : Member} (h : resolve members advertised own = .ok survivor) :
    survivor ∈ members := by
  unfold resolve at h
  split at h
  · cases h
  split at h
  · cases h
  · next hosts _ =>
    rcases firstAt_cases hosts members with ⟨found, hmem, hfound⟩ | hnone | ⟨failure, -, herror⟩
    · simp only [hfound] at h
      exact Except.ok.inj h ▸ hmem
    · simp [hnone] at h
    · simp [herror] at h

theorem isPlain_of_resolve {failure : Failure} (hm : 2 ≤ members.length)
    (ha : advertised.length ≤ 1) (h : resolve members advertised own = .error failure) :
    failure.isPlain := by
  rw [resolve, evidence_of_few own hm ha] at h
  simp only [hostSet] at h
  cases hhosts : hostsOf (Ordered.ofList advertised) with
  | error fault =>
    simp only [hhosts, Except.map, Except.error.injEq] at h
    exact h ▸ isPlain_of_hostsOf hhosts
  | ok hosts =>
    simp only [hhosts, Except.map] at h
    rcases firstAt_cases (Ordered.ofList hosts) members with ⟨found, -, hfound⟩ | hnone
      | ⟨fault, hplain, herror⟩
    · simp [hfound] at h
    · simp only [hnone, Except.error.injEq] at h
      exact h ▸ rfl
    · simp only [herror, Except.error.injEq] at h
      exact h ▸ hplain

end Survivor

/-! ## Planning on disk -/

namespace Setup

/-- The log in the data directory. -/
abbrev log (setup : Setup) : LogDirectory := ⟨setup.dir⟩

/-- The registry in the data directory. -/
abbrev registry (setup : Setup) : RegistryDirectory := ⟨setup.dir⟩

/-- Whether a step comes before anything is written. -/
def isReading : Step → Bool
  | .ensureDataDir | .readMembership | .resolveSurvivor => true
  | .collapseLog | .collapseRegistry | .rewriteInfo => false

/-- A failure of one of the steps that come before anything is written. -/
def Refusal (failure : Failure) : Prop :=
  ∃ step source, failure = .stepFailed step source ∧ isReading step ∧ source.isPlain

theorem refusal_during {step : Step} {source : Failure} (hstep : isReading step)
    (hplain : source.isPlain) : Refusal (source.during step) :=
  ⟨step, source, rfl, hstep, hplain⟩

variable {setup : Setup} {advertised : List String} {deadline : Deadline} {tree made : Tree}
  {home : Place} {record : LogRecord}

theorem members_inDirectory (hlimit : setup.readLimit deadline ≠ .expired) :
    setup.members deadline (.inDirectory setup.dir tree) = setup.log.readMembers tree := by
  simp [members, Site.inDirectory, ConsensusLog.read, Pending.within, hlimit]

theorem members_of_expired (hlimit : setup.readLimit deadline = .expired) :
    setup.members deadline (.inDirectory setup.dir tree)
      = .error (.deadlineExceeded .readMembership) := by
  simp [members, Site.inDirectory, ConsensusLog.read, Pending.within, hlimit]

/-- A single member is left as it is; of several, the survivor is found with one advertised address
at most. -/
theorem choose_eq_ok_iff {members : List Member} {action : Action} :
    setup.choose advertised members = .ok action ↔
      (∃ only, members = [only] ∧ action = .alreadySingle only)
        ∨ ∃ survivor, 2 ≤ members.length ∧ advertised.length ≤ 1
          ∧ Survivor.resolve members advertised setup.ownAddresses = .ok survivor
          ∧ action = .collapse survivor := by
  match members with
  | [] => simp [choose]
  | [only] => simp [choose, eq_comm]
  | first :: second :: rest =>
    have hmany : 2 ≤ (first :: second :: rest).length := by simp
    unfold choose
    split
    · next h => cases h
    · next h => cases h
    · split
      · next hmuch =>
        -- as many addresses as members are more than one
        have hfew : ¬ advertised.length ≤ 1 := by simp only [List.length_cons] at hmuch; omega
        simp [hfew]
      · next hfew =>
        have hone : advertised.length ≤ 1 := by omega
        cases hr : Survivor.resolve (first :: second :: rest) advertised setup.ownAddresses with
        | error failure => simp
        | ok survivor => simp [hone, eq_comm]

/-- What is not chosen is refused. -/
theorem refusal_of_choose {members : List Member} {failure : Failure}
    (h : setup.choose advertised members = .error failure) : Refusal failure := by
  match members with
  | [] =>
    obtain rfl := Except.error.inj h
    exact refusal_during rfl rfl
  | [only] => cases h
  | first :: second :: rest =>
    have hmany : 2 ≤ (first :: second :: rest).length := by simp
    unfold choose at h
    split at h
    · next heq => cases heq
    · cases h
    · split at h
      · obtain rfl := Except.error.inj h
        exact refusal_during rfl rfl
      · next hfew =>
        have hone : advertised.length ≤ 1 := by omega
        split at h
        · next hr =>
          obtain rfl := Except.error.inj h
          exact refusal_during rfl (Survivor.isPlain_of_resolve hmany hone hr)
        · cases h

/-! ## Planning at any site -/

section

variable {site left : Site}

/-- A data directory that is there need not be made. -/
theorem ensureDir_of_isDirectory (h : site.tree.isDirectory setup.dir) :
    setup.ensureDir site = (site, .ok ()) := by
  simp only [ensureDir, Tree.makeDirectories_of_isDirectory h]

/-- Planning leaves the site with its data directory made, as far as that could be done. -/
theorem fst_plan_eq (setup : Setup) (advertised : List String) (deadline : Deadline) (site : Site) :
    (setup.plan advertised deadline site).1 = (setup.ensureDir site).1 := by
  unfold plan
  split
  · next hdir => rw [hdir]
  · next hdir => rw [hdir]

/-- Once there is a data directory and the members have been read, planning is choosing. -/
theorem plan_of_members {members : List Member} (hdir : setup.ensureDir site = (left, .ok ()))
    (hread : setup.members deadline left = .ok members) :
    setup.plan advertised deadline site
      = (left, (setup.choose advertised members).map
          fun action => ⟨members, left.registered.toOption, action, false⟩) := by
  simp only [plan, hdir, decide, hread]
  cases setup.choose advertised members <;> rfl

/-- When the members cannot be read, it fails in the step that reads them. -/
theorem plan_of_unread {failure : Failure} (hdir : setup.ensureDir site = (left, .ok ()))
    (hread : setup.members deadline left = .error failure) (advertised : List String) :
    setup.plan advertised deadline site = (left, .error (failure.during .readMembership)) := by
  simp only [plan, hdir, decide, hread]

/-- A plan rests on the members that the log told, and on nothing that was written. -/
theorem plan_eq_ok {outcome : Outcome}
    (h : setup.plan advertised deadline site = (left, .ok outcome)) :
    setup.ensureDir site = (left, .ok ())
      ∧ ∃ previous action, setup.members deadline left = .ok previous
        ∧ setup.choose advertised previous = .ok action
        ∧ outcome = ⟨previous, left.registered.toOption, action, false⟩ := by
  obtain ⟨made, result, hdir⟩ : ∃ made result, setup.ensureDir site = (made, result) := ⟨_, _, rfl⟩
  cases result with
  | error failure => simp [plan, hdir] at h
  | ok =>
    -- planning leaves what making the data directory has left
    obtain rfl : left = made := by
      have hleft := fst_plan_eq setup advertised deadline site
      rwa [h, hdir] at hleft
    refine ⟨hdir, ?_⟩
    cases hread : setup.members deadline left with
    | error failure =>
      rw [plan_of_unread hdir hread] at h
      cases h
    | ok previous =>
      rw [plan_of_members hdir hread] at h
      cases hchoose : setup.choose advertised previous with
      | error failure => simp [hchoose, Except.map] at h
      | ok action =>
        refine ⟨previous, action, rfl, hchoose, ?_⟩
        rw [hchoose] at h
        exact (Except.ok.inj (Prod.mk.inj h).2).symm

end

/-! ## Planning on disk -/

/-- The outcome that an action is planned as. -/
def planned (setup : Setup) (tree : Tree) (previous : List Member) (action : Action) : Outcome :=
  ⟨previous, (Site.inDirectory setup.dir tree).registered.toOption, action, false⟩

/-- Forcing at the site is forcing the log. -/
theorem force_inDirectory {now : String} {members : List Member} {after : Tree}
    {result : Except Failure Unit}
    (h : setup.log.force now members tree = (after, result)) :
    (Site.inDirectory setup.dir tree).force now members = (.inDirectory setup.dir after, result) := by
  simp only [Site.force, Site.inDirectory, ConsensusLog.force, h]

/-- Making the data directory leaves what could be made of it. -/
theorem fst_ensureDir (setup : Setup) (tree : Tree) :
    (setup.ensureDir (.inDirectory setup.dir tree)).1
      = .inDirectory setup.dir (tree.makeDirectories setup.dir).1 := by
  obtain ⟨made, result, hmake⟩ : ∃ made result, tree.makeDirectories setup.dir = (made, result) :=
    ⟨_, _, rfl⟩
  simp only [ensureDir, Site.inDirectory, hmake]
  cases result <;> rfl

/-- So does asking whether a node has ever run, and whether it is the first one. -/
theorem fst_isExisting (setup : Setup) (tree : Tree) :
    (setup.isExisting (.inDirectory setup.dir tree)).1
      = .inDirectory setup.dir (tree.makeDirectories setup.dir).1 := by
  rw [← fst_ensureDir, isExisting]
  split
  · next heq => rw [heq]
  · next heq => rw [heq]

theorem fst_isBootstrapped (setup : Setup) (deadline : Deadline) (tree : Tree) :
    (setup.isBootstrapped deadline (.inDirectory setup.dir tree)).1
      = .inDirectory setup.dir (tree.makeDirectories setup.dir).1 := by
  rw [← fst_isExisting, isBootstrapped]
  split
  · next heq => rw [heq]
  · next heq => rw [heq]
  · next heq => rw [heq]

/-- So does planning, whether or not it is refused. -/
theorem fst_plan (setup : Setup) (advertised : List String) (deadline : Deadline) (tree : Tree) :
    (setup.plan advertised deadline (.inDirectory setup.dir tree)).1
      = .inDirectory setup.dir (tree.makeDirectories setup.dir).1 := by
  rw [fst_plan_eq, fst_ensureDir]

/-- Once the data directory has been made, planning is deciding. -/
theorem plan_of_made (hmake : tree.makeDirectories setup.dir = (made, .ok ())) :
    setup.plan advertised deadline (.inDirectory setup.dir tree)
      = (.inDirectory setup.dir made, setup.decide advertised deadline (.inDirectory setup.dir made)) := by
  simp [plan, ensureDir, Site.inDirectory, hmake]

/-- **Where the log holds a record, planning is choosing** among the members of the record.  Everything else
    that planning could stumble over is ruled out by there being a record. -/
theorem plan_of_holds (hmake : tree.makeDirectories setup.dir = (made, .ok ()))
    (hlimit : setup.readLimit deadline ≠ .expired) (h : setup.log.Holds made home record) :
    setup.plan advertised deadline (.inDirectory setup.dir tree)
      = (.inDirectory setup.dir made,
          (setup.choose advertised record.stored.membership.members).map
            (setup.planned made record.stored.membership.members)) := by
  have hdir : setup.ensureDir (.inDirectory setup.dir tree) = (.inDirectory setup.dir made, .ok ()) := by
    simp only [ensureDir, Site.inDirectory, hmake]
  have hread : setup.members deadline (.inDirectory setup.dir made)
      = .ok record.stored.membership.members := by
    rw [members_inDirectory hlimit, h.readMembers]
  exact plan_of_members hdir hread

/-- **Planning makes the data directory and reads.**  It is refused, or the log holds a record that
was chosen from. -/
theorem plan_cases (setup : Setup) (advertised : List String) (deadline : Deadline) (tree : Tree) :
    (∃ failure, Refusal failure
        ∧ setup.plan advertised deadline (.inDirectory setup.dir tree)
          = (.inDirectory setup.dir (tree.makeDirectories setup.dir).1, .error failure))
      ∨ ∃ made home record action,
          tree.makeDirectories setup.dir = (made, .ok ())
            ∧ setup.readLimit deadline ≠ .expired
            ∧ setup.log.Holds made home record
            ∧ setup.choose advertised record.stored.membership.members = .ok action := by
  obtain ⟨made, result, hmake⟩ : ∃ made result, tree.makeDirectories setup.dir = (made, result) :=
    ⟨_, _, rfl⟩
  rw [hmake]
  cases result with
  | error fault =>
    refine Or.inl ⟨_, @refusal_during .ensureDataDir (.io setup.dir.text fault) rfl rfl, ?_⟩
    simp [plan, ensureDir, Site.inDirectory, hmake]
  | ok =>
    by_cases hlimit : setup.readLimit deadline = .expired
    · -- the time is over before the members can be read
      refine Or.inl ⟨_, @refusal_during .readMembership (.deadlineExceeded .readMembership)
        rfl rfl, ?_⟩
      rw [plan_of_made hmake]
      simp only [decide, members_of_expired hlimit]
    · cases hread : setup.log.readMembers made with
      | error failure =>
        have hplain := LogDirectory.isPlain_of_readMembers hread
        refine Or.inl ⟨_, @refusal_during .readMembership failure rfl hplain, ?_⟩
        rw [plan_of_made hmake]
        simp only [decide, members_inDirectory hlimit, hread]
      -- members that are read are those of a record that the log holds
      | ok members =>
        obtain ⟨home, record, hholds, -⟩ := LogDirectory.readMembers_eq_ok_iff.1 hread
        cases hchoose : setup.choose advertised record.stored.membership.members with
        | error failure =>
          refine Or.inl ⟨failure, refusal_of_choose hchoose, ?_⟩
          rw [plan_of_holds hmake hlimit hholds, hchoose]
          rfl
        | ok action => exact Or.inr ⟨made, home, record, action, rfl, hlimit, hholds, hchoose⟩

/-! ## Writing on disk -/

section

open RegistryDirectory

variable {after : Tree}

/-- Registering at the site is writing the registry's file. -/
theorem register_inDirectory {members : List Member} {result : Except Failure Unit}
    (h : setup.registry.setMembers members tree = (after, result)) :
    (Site.inDirectory setup.dir tree).register members = (.inDirectory setup.dir after, result) := by
  simp only [Site.register, Site.inDirectory, Registry.setMembers, h]

/-- Setting the node's own record at the site is writing its file. -/
theorem setInfo_inDirectory {member : Member} {result : Except Failure Unit}
    (h : setup.registry.setInfo member tree = (after, result)) :
    (Site.inDirectory setup.dir tree).setInfo member = (.inDirectory setup.dir after, result) := by
  simp only [Site.setInfo, Site.inDirectory, Registry.setInfo, h]

/-- All the ways in which writing members can go on disk, and the trees and answers that they end
with. -/
inductive Writing (setup : Setup) (now : String) (members : List Member) (tree : Tree) :
    Deadline → Tree → Except Failure Unit → Prop
  | late {deadline : Deadline} (tooLate : deadline ≠ .live) :
      Writing setup now members tree deadline tree
        (.error ((Failure.deadlineExceeded .collapseLog).during .collapseLog))
  | refused {left : Tree} {failure : Failure}
      (force : setup.log.force now members tree = (left, .error failure)) :
      Writing setup now members tree .live left (.error (failure.during .collapseLog))
  | halfway {forced : Tree} {cause : Failure}
      (force : setup.log.force now members tree = (forced, .ok ()))
      (blocked : setup.registry.setMembers members forced = (forced, .error cause)) :
      Writing setup now members tree .live forced
        (.error ((Failure.inconsistentState (Site.leadingId members) cause).during
          .collapseRegistry))
  | done {forced left : Tree}
      (force : setup.log.force now members tree = (forced, .ok ()))
      (register : setup.registry.setMembers members forced = (left, .ok ())) :
      Writing setup now members tree .live left (.ok ())

/-- **There are no other ways.** A registry that is not written leaves the tree of the force as it is. -/
theorem setMembers_writing (setup : Setup) (now : String) (members : List Member)
    (deadline : Deadline) (tree : Tree) : ∃ after result,
    (Site.inDirectory setup.dir tree).setMembers now members deadline
        = (.inDirectory setup.dir after, result)
      ∧ setup.Writing now members tree deadline after result := by
  cases deadline with
  | short => exact ⟨tree, _, rfl, .late nofun⟩
  | expired => exact ⟨tree, _, rfl, .late nofun⟩
  | live =>
    obtain ⟨forced, result, hforce⟩ : ∃ forced result,
        setup.log.force now members tree = (forced, result) := ⟨_, _, rfl⟩
    simp only [Site.setMembers, force_inDirectory hforce]
    cases result with
    | error failure => exact ⟨forced, _, rfl, .refused hforce⟩
    | ok done =>
      rcases setup.registry.writeFile_cases clusterName (Registry.clusterText members) forced with
        ⟨cause, hregister⟩ | ⟨place, -, -, hregister⟩
      · simp only [register_inDirectory hregister]
        exact ⟨forced, _, rfl, .halfway hforce hregister⟩
      · simp only [register_inDirectory hregister]
        exact ⟨_, _, rfl, .done hforce hregister⟩

/-- All the ways in which rewriting the node's own record can go on disk, and the trees and answers
that they end with. -/
inductive Rewriting (setup : Setup) (outcome : Outcome) (tree : Tree) :
    Tree → Except Failure Unit → Prop
  | unneeded (unapplied : outcome.applied = false) : Rewriting setup outcome tree tree (.ok ())
  | blocked {cause : Failure} (applied : outcome.applied = true)
      (fails : setup.registry.setInfo outcome.action.remaining tree = (tree, .error cause)) :
      Rewriting setup outcome tree tree
        (.error ((Failure.inconsistentState outcome.action.remaining.id cause).during .rewriteInfo))
  | done {left : Tree} (applied : outcome.applied = true)
      (rewrites : setup.registry.setInfo outcome.action.remaining tree = (left, .ok ())) :
      Rewriting setup outcome tree left (.ok ())

/-- **There are no other ways.** Whether there is anything to rewrite is a matter of the outcome, not of the
    tree. -/
theorem rewriteInfo_rewriting (setup : Setup) (outcome : Outcome) (tree : Tree) : ∃ after result,
    (Site.inDirectory setup.dir tree).rewriteInfo outcome = (.inDirectory setup.dir after, result)
      ∧ setup.Rewriting outcome tree after result := by
  cases happlied : outcome.applied with
  | false =>
    refine ⟨tree, .ok (), ?_, .unneeded happlied⟩
    simp [Site.rewriteInfo, happlied]
  | true =>
    rcases setup.registry.writeFile_cases infoName (Registry.infoText outcome.action.remaining) tree with
      ⟨cause, hset⟩ | ⟨place, -, -, hset⟩
    · refine ⟨tree, _, ?_, .blocked happlied hset⟩
      simp only [Site.rewriteInfo, happlied, if_true, setInfo_inDirectory hset]
    · refine ⟨_, .ok (), ?_, .done happlied hset⟩
      simp only [Site.rewriteInfo, happlied, if_true, setInfo_inDirectory hset]

end

end Setup

end QuorumRescue
