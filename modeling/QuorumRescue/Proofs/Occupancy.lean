/-
  What a failed force lets a directory look like.

  Whether a node has ever run somewhere is told by whether there is anything in its data directory.  A
  force leaves a trace there as soon as it takes the lock, since it makes the lock's file if that is
  missing.  So a force that was refused may be taken for a node, and this file says exactly when it is.

  1. **The questions** are whether a node has run, and whether it is the first of its cluster.
     `AnswersAlike` says that both have the same answers at two sites, failures included.
     `FailsToForce` says how a force can fail: by itself, or as the first step of setting the members.

  2. **Before and behind the lock.** A force that fails has done nothing, or has taken the lock and
     fails with it (`force_error_cases`).  Where the directory had anything in it, one more file makes
     no difference to the first question, and the members that are read are the same
     (`LockMade.readMembers`).  In an empty directory the lock's file is the first, and from then on a
     node seems to have run there (`seems_used`).

  3. **The crux** is which failures come behind the lock in an empty directory.  There is no record to
     be damaged, so there are two (`LockMade.isLate_of_empty`): members without a voter, and a directory
     whose path leaves room for the lock's name but not for the record's.  Neither of them ever comes
     before the lock, so the failure tells whether the lock was taken.

  4. **The result** is `refused_force_shows_iff`, with the two answers before and after.  That a list
     without members is refused before the lock, and a list without voters behind it, is the difference
     that shows in `failed_force_seems_used`.
-/
import QuorumRescue.Proofs.OnFile
import QuorumRescue.Proofs.Recovery

namespace QuorumRescue

open QuorumRescue.Tree

/-! ## Empty directories -/

namespace Tree

variable {tree : Tree} {dir : Path} {home : Place} {name : String}

/-- In a directory without anything inside, no name leads to anything. -/
theorem find?_of_empty (h : tree.hasChildren home = false) (name : String) :
    tree.find? (home.child name) = none := by
  cases hf : tree.find? (home.child name) with
  | none => rfl
  | some entry =>
    rw [hasChildren_of_find? hf] at h
    cases h

/-- A lock that is not taken leaves the tree as it was. -/
theorem tree_of_untaken {after : Tree} {path : Path} {create : Bool} {answer : LockAnswer}
    (h : tree.tryLock path create = (after, answer)) (hanswer : answer ≠ .taken) : after = tree := by
  unfold tryLock at h
  split at h
  · exact (congrArg Prod.fst h).symm
  · exact (congrArg Prod.fst h).symm
  · split at h
    · exact (congrArg Prod.fst h).symm
    · exact (congrArg Prod.fst h).symm
    · split at h
      · exact absurd (congrArg Prod.snd h).symm hanswer
      · exact (congrArg Prod.fst h).symm

/-- Whether a directory is occupied is a matter of its place. -/
theorem isOccupied_eq (hl : tree.locate dir = .ok home) (hd : tree.find? home = some .directory) :
    tree.isOccupied dir = .ok (tree.hasChildren home) := by
  rw [isOccupied, hl]
  simp only [hd]

/-- Only of a directory it can be said whether it is occupied. -/
theorem isDirectory_of_isOccupied {occupied : Bool} (h : tree.isOccupied dir = .ok occupied) :
    tree.isDirectory dir := by
  unfold isOccupied at h
  split at h
  · cases h
  · next place hl =>
    split at h
    · next hd => exact isDirectory_iff.2 ⟨place, hl, hd⟩
    · cases h
    · cases h

end Tree

namespace LogDirectory

variable {log : LogDirectory} {tree after : Tree} {now : String} {members : List Member}
  {failure : Failure} {lock home : Place}

/-! ## Failures behind the lock -/

/-- A force has taken the lock, and fails with it. -/
structure FailsBehindLock (log : LogDirectory) (now : String) (members : List Member)
    (tree after : Tree) (failure : Failure) : Prop where
  directory : tree.isDirectory log.path
  taken : tree.tryLock log.lockPath true = (after, .taken)
  refused : ∃ first rest, members = first :: rest
    ∧ log.forceLocked now first members after = (after, .error failure)

/-- What a force fails for in an empty directory when it has taken the lock. -/
def IsLate (log : LogDirectory) (failure : Failure) : Prop :=
  failure = .internal .noVoter ∨ failure = .io log.recordPath.text .nameTooLong

/-- The lock and the record have different paths, whatever the directory. -/
theorem lockPath_ne_recordPath (log : LogDirectory) : log.lockPath.text ≠ log.recordPath.text := by
  have hnames : lockName ≠ recordName := by decide
  intro h
  unfold lockPath recordPath at h
  by_cases hempty : log.path.text = ""
  · have hchild : ∀ name, log.path.child name = ⟨name⟩ := fun name => by simp [Path.child, hempty]
    rw [hchild, hchild] at h
    exact hnames h
  · rw [Path.child_text hempty, Path.child_text hempty, ← String.toList_inj, String.toList_append,
      String.toList_append] at h
    exact hnames (String.toList_inj.1 (List.append_cancel_left h))

/-- **A force that fails has done nothing, or fails behind the lock.**  Without the lock it fails for other
reasons. -/
theorem force_error_cases (h : log.force now members tree = (after, .error failure)) :
    (after = tree ∧ ¬ log.IsLate failure) ∨ log.FailsBehindLock now members tree after failure := by
  -- what is refused before the lock is neither a missing voter nor a file's fault, but for that of the lock
  have hearly : ∀ cause, cause ≠ .internal .noVoter → (∀ path fault, cause ≠ .io path fault) →
      ¬ log.IsLate cause := by
    rintro cause hvoter hio (rfl | rfl)
    · exact hvoter rfl
    · exact hio _ _ rfl
  cases members with
  | nil =>
    obtain ⟨rfl, hcause⟩ := Prod.mk.inj h
    obtain rfl := Except.error.inj hcause
    exact Or.inl ⟨rfl, hearly _ (by simp) (by simp)⟩
  | cons first rest =>
    by_cases hd : tree.isDirectory log.path = true
    · obtain ⟨locked, answer, htry⟩ : ∃ locked answer,
          tree.tryLock log.lockPath true = (locked, answer) := ⟨_, _, rfl⟩
      rw [force, if_pos hd, htry] at h
      have hsame : answer ≠ .taken → locked = tree := tree_of_untaken htry
      cases answer with
      -- all that is refused from here on is refused with the lock in hand
      | taken =>
        obtain rfl := tree_of_forceLocked_error h
        exact Or.inr ⟨hd, htry, first, rest, rfl, h⟩
      -- the fault is that of the lock's path, which is not the record's
      | failed fault =>
        obtain ⟨rfl, hcause⟩ := Prod.mk.inj h
        obtain rfl := Except.error.inj hcause
        refine Or.inl ⟨hsame (by simp), ?_⟩
        rintro (hvoter | hlong)
        · cases hvoter
        · exact log.lockPath_ne_recordPath (Failure.io.inj hlong).1
      | heldElsewhere =>
        obtain ⟨rfl, hcause⟩ := Prod.mk.inj h
        obtain rfl := Except.error.inj hcause
        exact Or.inl ⟨hsame (by simp), hearly _ (by simp) (by simp)⟩
      | noFile =>
        obtain ⟨rfl, hcause⟩ := Prod.mk.inj h
        obtain rfl := Except.error.inj hcause
        exact Or.inl ⟨hsame (by simp), hearly _ (by simp) (by simp)⟩
    · rw [force, if_neg hd] at h
      obtain ⟨rfl, hcause⟩ := Prod.mk.inj h
      obtain rfl := Except.error.inj hcause
      exact Or.inl ⟨rfl, hearly _ (by simp [unavailable]) (by simp [unavailable])⟩

/-! ## The lock's file -/

/-- The lock's file was missing and has been made. -/
structure LockMade (log : LogDirectory) (tree after : Tree) (home : Place) : Prop where
  located : tree.locate log.path = .ok home
  directory : tree.find? home = some .directory
  lock : tree.locate log.lockPath = .ok (home.child lockName)
  vacant : tree.find? (home.child lockName) = none
  made : after = tree.create (home.child lockName)

/-- Taking the lock makes its file, or does nothing. -/
theorem taken_cases (hd : tree.isDirectory log.path)
    (h : tree.tryLock log.lockPath true = (after, .taken)) :
    after = tree ∨ ∃ home, log.LockMade tree after home := by
  obtain ⟨home, hhome, hdir⟩ := isDirectory_iff.1 hd
  have hcases := tree.tryLock_cases log.lockPath true
  rw [h] at hcases
  rcases hcases with heq | ⟨place, hl, hnone, heq⟩
  · exact Or.inl heq
  · have hplace := hl
    rw [lockPath, locate_child hhome hdir isPlainName_lockName] at hplace
    split at hplace
    · cases hplace
    · obtain rfl := Except.ok.inj hplace
      exact Or.inr ⟨home, hhome, hdir, hl, hnone, heq⟩

/-- In an empty directory it makes the file. -/
theorem lockMade_of_empty (hl : tree.locate log.path = .ok home) (hd : tree.find? home = some .directory)
    (hempty : tree.hasChildren home = false)
    (h : tree.tryLock log.lockPath true = (after, .taken)) : log.LockMade tree after home := by
  have hlocate := locate_child hl hd isPlainName_lockName
  have hnone := find?_of_empty hempty lockName
  split at hlocate
  · rw [tryLock, lockPath, hlocate] at h
    cases h
  · refine ⟨hl, hd, hlocate, hnone, ?_⟩
    rw [tryLock, lockPath, hlocate] at h
    simp only [hnone, if_true] at h
    exact (congrArg Prod.fst h).symm

namespace LockMade

variable (h : log.LockMade tree after home)

include h

theorem keeps : KeepsDirectories tree after := by
  rw [h.made]
  exact keepsDirectories_create h.vacant

theorem locatedAfter : after.locate log.path = .ok home := locate_of_keeps h.keeps h.located

theorem directoryAfter : after.find? home = some .directory := h.keeps home h.directory

/-- From then on there is something in the directory. -/
theorem isOccupied : after.isOccupied log.path = .ok true := by
  have hfile : after.find? (home.child lockName) = some (.file ByteArray.empty) := by
    rw [h.made]
    exact find?_create_self (Place.isStart_child home lockName)
  rw [isOccupied_eq h.locatedAfter h.directoryAfter, hasChildren_of_find? hfile]

/-- The record is as it was. -/
theorem readRecord : log.readRecord after = log.readRecord tree := by
  refine readRecord_congr (read_elsewhere isPlainName_lockName isPlainName_recordName recordName_ne_lockName
    h.lock h.keeps fun place hplace => ?_)
  rw [h.made]
  exact find?_create_of_ne hplace

/-- **Nobody who reads the log can tell the difference**, for nobody has the lock of either.  A reader does
    not make a missing lock file and reads without it, and a file that is there and free can be locked. -/
theorem readMembers : log.readMembers after = log.readMembers tree := by
  have hbefore : Unlocked tree (home.child lockName) := by
    constructor
    · rw [h.vacant]
      exact nofun
    · intro content hfile
      rw [h.vacant] at hfile
      cases hfile
  have hafter : Unlocked after (home.child lockName) := by
    rw [h.made]
    constructor
    · rw [find?_create_self (Place.isStart_child home lockName)]
      exact nofun
    · intro _ _ hmem
      simp [create] at hmem
  have hdir : tree.isDirectory log.path := isDirectory_iff.2 ⟨home, h.located, h.directory⟩
  rw [readMembers_of_located hdir h.lock hbefore,
    readMembers_of_located (h.keeps.isDirectory hdir) (locate_of_keeps h.keeps h.lock) hafter, h.readRecord]

/-- **In a directory that was empty a force fails for one of two reasons.**  There is no record that could
be damaged, and nothing in its place that could not be replaced. -/
theorem isLate_of_empty (hempty : tree.hasChildren home = false) {first : Member} {rest : List Member}
    (hrefused : log.forceLocked now first (first :: rest) after = (after, .error failure)) :
    log.IsLate failure := by
  have hlocate := locate_child h.locatedAfter h.directoryAfter isPlainName_recordName
  by_cases hlong : longestPath ≤ log.path.lead.utf8ByteSize + recordName.utf8ByteSize
  · rw [if_pos hlong] at hlocate
    have hread : after.read log.recordPath = .error .nameTooLong := by
      simp only [Tree.read, entryAt, recordPath, hlocate]
    have hlast : log.lastEntry after = .error (.io log.recordPath.text .nameTooLong) := by
      simp only [lastEntry, LogDirectory.readRecord, hread]
    rw [forceLocked, hlast] at hrefused
    obtain ⟨-, hcause⟩ := Prod.mk.inj hrefused
    exact Or.inr (Except.error.inj hcause).symm
  · have hsize : recordName.utf8ByteSize = 15 := by decide
    have hhome : after.IsHome log.path home :=
      .of_locate h.locatedAfter h.directoryAfter (by omega)
    have hnone : after.find? (home.child recordName) = none := by
      rw [h.made, find?_create_of_ne (Place.child_ne recordName_ne_lockName), find?_of_empty hempty]
    have hread : after.read log.recordPath = .error .missing := by
      simp only [Tree.read, entryAt, recordPath, hhome.inside recordName isPlainName_recordName, hnone]
    have hlast : log.lastEntry after = .ok none := by
      simp only [lastEntry, LogDirectory.readRecord, hread, unavailable]
    have hroom : after.find? (home.child recordName) ≠ some .directory := by
      simp [hnone]
    cases hm : Membership.ofMembers? (first :: rest) with
    | none =>
      simp only [forceLocked, hlast, hm] at hrefused
      obtain ⟨-, hcause⟩ := Prod.mk.inj hrefused
      exact Or.inl (Except.error.inj hcause).symm
    | some membership =>
      -- nothing stands in the way of the record then
      simp only [forceLocked, hlast, hm, write, hhome.replace_eq isPlainName_recordName, if_neg hroom]
        at hrefused
      obtain ⟨-, hcause⟩ := Prod.mk.inj hrefused
      cases hcause

end LockMade

/-- From an empty directory nothing is read. -/
theorem readMembers_of_empty (hl : tree.locate log.path = .ok home)
    (hempty : tree.hasChildren home = false) : ∃ cause, log.readMembers tree = .error cause := by
  cases hread : log.readMembers tree with
  | error cause => exact ⟨cause, rfl⟩
  | ok members =>
    obtain ⟨other, record, hholds, -⟩ := readMembers_eq_ok_iff.1 hread
    obtain rfl := Except.ok.inj (hholds.isHome.located.symm.trans hl)
    obtain ⟨bytes, hfile, -⟩ := hholds.recorded
    rw [find?_of_empty hempty] at hfile
    cases hfile

end LogDirectory

namespace Setup

open LogDirectory

variable {setup : Setup} {now : String} {members : List Member} {tree after : Tree} {failure : Failure}
  {site left : Site} {home : Place} {deadline : Deadline}

/-! ## Two questions about a node -/

/-- Whether a node has run here, and whether it is the first of its cluster, has the same answers at two
sites, failures included. -/
structure AnswersAlike (setup : Setup) (before after : Site) : Prop where
  existing : (setup.isExisting after).2 = (setup.isExisting before).2
  bootstrapped : ∀ deadline, (setup.isBootstrapped deadline after).2 = (setup.isBootstrapped deadline before).2

theorem AnswersAlike.refl (setup : Setup) (site : Site) : setup.AnswersAlike site site :=
  ⟨rfl, fun _ => rfl⟩

/-- In a directory that is there, both are asked without making it. -/
theorem isExisting_of_isOccupied {occupied : Bool} (h : tree.isOccupied setup.dir = .ok occupied) :
    setup.isExisting (.inDirectory setup.dir tree) = (.inDirectory setup.dir tree, .ok occupied) := by
  have hmake : setup.ensureDir (.inDirectory setup.dir tree) = (.inDirectory setup.dir tree, .ok ()) :=
    ensureDir_of_isDirectory (isDirectory_of_isOccupied h)
  have hoccupied : setup.isOccupied (.inDirectory setup.dir tree) = .ok occupied := by
    simp only [Setup.isOccupied, Site.inDirectory, h]
  simp only [isExisting, hmake, hoccupied]

theorem isBootstrapped_of_empty (h : tree.isOccupied setup.dir = .ok false) (deadline : Deadline) :
    (setup.isBootstrapped deadline (.inDirectory setup.dir tree)).2 = .ok false := by
  simp only [isBootstrapped, isExisting_of_isOccupied h]

theorem isBootstrapped_of_occupied (h : tree.isOccupied setup.dir = .ok true) (deadline : Deadline) :
    (setup.isBootstrapped deadline (.inDirectory setup.dir tree)).2
      = (setup.members deadline (.inDirectory setup.dir tree)).map isBootstrapList := by
  simp only [isBootstrapped, isExisting_of_isOccupied h]

/-- The members that are read are the same, or the time is over for both. -/
theorem members_congr (h : setup.log.readMembers after = setup.log.readMembers tree) (deadline : Deadline) :
    setup.members deadline (.inDirectory setup.dir after)
      = setup.members deadline (.inDirectory setup.dir tree) := by
  by_cases hlimit : setup.readLimit deadline = .expired
  · rw [members_of_expired hlimit, members_of_expired hlimit]
  · rw [members_inDirectory hlimit, members_inDirectory hlimit, h]

/-! ## Attempts to force members -/

/-- Forcing members fails, by itself or as the first step of setting them. -/
def FailsToForce (setup : Setup) (now : String) (members : List Member) (tree : Tree) (left : Site)
    (failure : Failure) : Prop :=
  (Site.inDirectory setup.dir tree).force now members = (left, .error failure)
    ∨ ∃ deadline, (Site.inDirectory setup.dir tree).setMembers now members deadline
        = (left, .error (failure.during .collapseLog))

/-- Setting the members fails to force them as forcing them does. -/
theorem failsToForce_cases (h : setup.FailsToForce now members tree left failure) :
    ∃ after, left = .inDirectory setup.dir after
      ∧ ((after = tree ∧ ¬ setup.log.IsLate failure)
        ∨ setup.log.FailsBehindLock now members tree after failure) := by
  rcases h with h | ⟨deadline, h⟩
  · obtain ⟨after, result, hforce⟩ : ∃ after result,
        setup.log.force now members tree = (after, result) := ⟨_, _, rfl⟩
    rw [force_inDirectory hforce] at h
    obtain ⟨rfl, rfl⟩ := Prod.mk.inj h
    exact ⟨after, rfl, force_error_cases hforce⟩
  · obtain ⟨after, result, hset, hwriting⟩ := setMembers_writing setup now members deadline tree
    rw [hset] at h
    obtain ⟨rfl, rfl⟩ := Prod.mk.inj h
    refine ⟨after, rfl, ?_⟩
    -- of the ways of setting the members, only those count that fail in the first step
    generalize hresult : Except.error (failure.during .collapseLog) = result at hwriting
    cases hwriting with
    | late tooLate =>
      obtain ⟨-, rfl⟩ := Failure.stepFailed.inj (Except.error.inj hresult)
      refine Or.inl ⟨rfl, ?_⟩
      rintro (hcause | hcause)
      · cases hcause
      · cases hcause
    | refused force =>
      obtain ⟨-, rfl⟩ := Failure.stepFailed.inj (Except.error.inj hresult)
      exact force_error_cases force
    | halfway force blocked =>
      obtain ⟨hstep, -⟩ := Failure.stepFailed.inj (Except.error.inj hresult)
      cases hstep
    | done force registered => cases hresult

/-- In a directory that has something in it, a failed force is not seen. -/
theorem answersAlike_of_occupied (hmade : setup.log.LockMade tree after home)
    (hoccupied : tree.isOccupied setup.dir = .ok true) :
    setup.AnswersAlike (.inDirectory setup.dir tree) (.inDirectory setup.dir after) := by
  have hafter : after.isOccupied setup.dir = .ok true := hmade.isOccupied
  constructor
  · rw [isExisting_of_isOccupied hoccupied, isExisting_of_isOccupied hafter]
  · intro deadline
    rw [isBootstrapped_of_occupied hoccupied, isBootstrapped_of_occupied hafter,
      members_congr hmade.readMembers]

/-- In an empty directory, a force that fails behind the lock is taken for a node. -/
theorem seems_used (hempty : tree.isOccupied setup.dir = .ok false)
    (h : setup.log.FailsBehindLock now members tree after failure) :
    (setup.isExisting (.inDirectory setup.dir tree)).2 = .ok false
      ∧ (setup.isExisting (.inDirectory setup.dir after)).2 = .ok true
      ∧ ∀ deadline, (setup.isBootstrapped deadline (.inDirectory setup.dir tree)).2 = .ok false
        ∧ ∃ cause, (setup.isBootstrapped deadline (.inDirectory setup.dir after)).2 = .error cause := by
  obtain ⟨home, hl, hd⟩ := isDirectory_iff.1 (isDirectory_of_isOccupied hempty)
  have hnothing : tree.hasChildren home = false := by
    rw [isOccupied_eq hl hd] at hempty
    exact Except.ok.inj hempty
  have hmade := lockMade_of_empty hl hd hnothing h.taken
  have hafter : after.isOccupied setup.dir = .ok true := hmade.isOccupied
  refine ⟨by rw [isExisting_of_isOccupied hempty], by rw [isExisting_of_isOccupied hafter], ?_⟩
  intro deadline
  refine ⟨isBootstrapped_of_empty hempty deadline, ?_⟩
  -- there is something, but no record of it
  obtain ⟨cause, hcause⟩ : ∃ cause, setup.members deadline (.inDirectory setup.dir after) = .error cause := by
    by_cases hlimit : setup.readLimit deadline = .expired
    · exact ⟨_, members_of_expired hlimit⟩
    · have hpath : tree.locate setup.log.path = .ok home := hl
      obtain ⟨cause, hread⟩ := readMembers_of_empty hpath hnothing
      exact ⟨cause, by rw [members_inDirectory hlimit, hmade.readMembers, hread]⟩
  rw [isBootstrapped_of_occupied hafter, hcause]
  exact ⟨cause, rfl⟩

/-- **What a failed force shows.**  Both answers stay as they are, unless the directory is empty and the
failure came behind the lock: the members had no voter, or the directory's path left no room for the
record.  Then a node has not run here before, and seems to have run here afterwards. -/
theorem refused_force_shows_iff (h : setup.FailsToForce now members tree left failure) :
    (setup.AnswersAlike (.inDirectory setup.dir tree) left
      ↔ ¬ (tree.isOccupied setup.dir = .ok false
        ∧ (failure = .internal .noVoter ∨ failure = .io setup.log.recordPath.text .nameTooLong)))
    ∧ (tree.isOccupied setup.dir = .ok false →
      failure = .internal .noVoter ∨ failure = .io setup.log.recordPath.text .nameTooLong →
        (setup.isExisting (.inDirectory setup.dir tree)).2 = .ok false
          ∧ (setup.isExisting left).2 = .ok true
          ∧ ∀ deadline, (setup.isBootstrapped deadline (.inDirectory setup.dir tree)).2 = .ok false
            ∧ ∃ cause, (setup.isBootstrapped deadline left).2 = .error cause) := by
  obtain ⟨after, rfl, hcases⟩ := failsToForce_cases h
  -- late failures never come before the lock
  have hbehind : setup.log.IsLate failure → setup.log.FailsBehindLock now members tree after failure := by
    intro hlate
    rcases hcases with ⟨-, hearly⟩ | hfails
    · exact absurd hlate hearly
    · exact hfails
  refine ⟨⟨?_, ?_⟩, fun hempty hlate => seems_used hempty (hbehind hlate)⟩
  · -- if it shows, whether a node has run is answered with no before and with yes afterwards
    rintro halike ⟨hempty, hlate⟩
    obtain ⟨hbefore, hafter, -⟩ := seems_used hempty (hbehind hlate)
    have hsame := halike.existing
    rw [hbefore, hafter] at hsame
    cases hsame
  · intro hunseen
    rcases hcases with ⟨rfl, -⟩ | hfails
    · exact .refl setup _
    · -- with the lock in hand, its file was there or has been made, and then it counts whether it is the first
      rcases taken_cases hfails.directory hfails.taken with rfl | ⟨home, hmade⟩
      · exact .refl setup _
      · have hoccupied := isOccupied_eq hmade.located hmade.directory
        cases hchildren : tree.hasChildren home with
        | true =>
          rw [hchildren] at hoccupied
          exact answersAlike_of_occupied hmade hoccupied
        | false =>
          rw [hchildren] at hoccupied
          obtain ⟨first, rest, rfl, hrefused⟩ := hfails.refused
          exact absurd ⟨hoccupied, hmade.isLate_of_empty hchildren hrefused⟩ hunseen

/-- A data directory with nothing in it. -/
def emptyHome : Tree := ⟨[(pairHome, .directory)], []⟩

/-- A member that has no vote. -/
def standby : Member := ⟨1, "10.0.0.1:17666", .standby⟩

theorem failsToForce_standby : pairSetup.FailsToForce "" [standby] emptyHome
    (.inDirectory pairSetup.dir (emptyHome.create (pairHome.child lockName))) (.internal .noVoter) :=
  Or.inl rfl

/-- No members at all are refused before anything is touched, and members without a vote afterwards. -/
theorem refused_force_shows_iff_standby :
    pairSetup.AnswersAlike (.inDirectory pairSetup.dir emptyHome) (.inDirectory pairSetup.dir emptyHome)
    ∧ (pairSetup.isExisting (.inDirectory pairSetup.dir emptyHome)).2 = .ok false
    ∧ (pairSetup.isExisting
        (.inDirectory pairSetup.dir (emptyHome.create (pairHome.child lockName)))).2 = .ok true := by
  have hnobody : pairSetup.FailsToForce "" [] emptyHome (.inDirectory pairSetup.dir emptyHome)
      (.internal .emptyMembership) := Or.inr ⟨.live, rfl⟩
  obtain ⟨hunseen, -⟩ := refused_force_shows_iff hnobody
  obtain ⟨-, hseen⟩ := refused_force_shows_iff failsToForce_standby
  obtain ⟨hbefore, hafter, -⟩ := hseen rfl (Or.inl rfl)
  refine ⟨hunseen.2 ?_, hbefore, hafter⟩
  rintro ⟨-, hcause | hcause⟩
  · cases hcause
  · cases hcause

/-- **An empty directory seems used when a force has failed.**  Members without a vote are refused, by
forcing them and by setting them, and nothing has run here.  But the lock's file has been made, so a
node is said to have run, and whether it is the first of its cluster can no longer be answered. -/
theorem failed_force_seems_used : ∃ left,
    (Site.inDirectory pairSetup.dir emptyHome).force "" [standby] = (left, .error (.internal .noVoter))
    ∧ (Site.inDirectory pairSetup.dir emptyHome).setMembers "" [standby] .live
        = (left, .error ((Failure.internal .noVoter).during .collapseLog))
    ∧ (pairSetup.isExisting (.inDirectory pairSetup.dir emptyHome)).2 = .ok false
    ∧ (pairSetup.isExisting left).2 = .ok true
    ∧ (pairSetup.isBootstrapped .live (.inDirectory pairSetup.dir emptyHome)).2 = .ok false
    ∧ (pairSetup.isBootstrapped .live left).2 = .error (.unavailable "raft" .noRecord)
    ∧ ¬ pairSetup.AnswersAlike (.inDirectory pairSetup.dir emptyHome) left := by
  have hbefore : (pairSetup.isExisting (.inDirectory pairSetup.dir emptyHome)).2 = .ok false := rfl
  have hafter : (pairSetup.isExisting
      (.inDirectory pairSetup.dir (emptyHome.create (pairHome.child lockName)))).2 = .ok true := rfl
  refine ⟨_, rfl, rfl, hbefore, hafter, rfl, rfl, fun halike => ?_⟩
  have hsame := halike.existing
  rw [hbefore] at hsame
  cases hafter.symm.trans hsame

end Setup

end QuorumRescue
