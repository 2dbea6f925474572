/-
  The record over whole sessions.

  One force leaves a record that can be trusted, under the leader that was on record before.  A node
  that starts on the log afterwards must find the same after ever so many forces, with failures between
  them, and with other instances that come and go.  This file follows the record over a session, which
  is any list of operations; every beginning of a session is one too.

  1. **The specification.** The forces of a session are those that its answers tell of (`forcedIds`).
     Without any, the record is what it was when the session began, byte for byte.  After some of them
     it is a forced one that can be trusted, under the leader that was on record before, and its index
     has gone up by their number.  `Sound` says of a tree that the record in it, if there is a file in
     its place, passes its checksum.

  2. **The step.** `Advanced` says what one operation does to the log: it moves the record on by one
     entry, or by none at all.  Each operation does one of the two (`perform_advanced`), the failed ones
     and those on the lock included.

  3. **The run.** The induction is on the session.  What carries it is that stretches of a session add
     up: an advance by some forces followed by an advance by others is one by all of them
     (`performAll_advanced`).

  4. **The result** is `performAll_record`.  The session after it has a lock that is taken and dropped,
     two attempts to force that fail, a recovery, and a force by hand: the first member leads, and two
     forces have been counted.
-/
import QuorumRescue.Proofs.Exclusion

namespace QuorumRescue

namespace LogDirectory

variable {log : LogDirectory} {tree before after : Tree}

/-- If there is a file in the place of the record, it is a record of the version that is read, and it
passes its checksum. -/
def Sound (log : LogDirectory) (tree : Tree) : Prop :=
  ∀ bytes, tree.read log.recordPath = .ok bytes → ∃ record, LogRecord.ofBytes bytes = .ok record
    ∧ record.format = LogRecord.currentFormat ∧ record.checksum = record.stored.checksum

/-- Where a record can be read, there is nothing else. -/
theorem sound_of_readRecord {record : LogRecord} (h : log.readRecord tree = .ok record) :
    log.Sound tree := by
  intro bytes hread
  rw [readRecord, hread] at h
  simp only at h
  split at h
  · cases h
  · next trusted htrusted => exact ⟨trusted, LogRecord.trusted_eq_ok_iff.1 htrusted⟩

/-- **A log that has moved on is sound** if it was before.  A forced record passes its checksum, and where
    nothing was forced the record is the same as before. -/
theorem Advanced.sound {ids : List UInt64} (h : log.Advanced before after ids)
    (hsound : log.Sound (log.made before)) : log.Sound after := by
  by_cases hids : ids = []
  · intro bytes hread
    have hfile : log.onFile before = .ok bytes :=
      (h.untouched hids).symm.trans (onFile_of_read hread)
    exact hsound bytes hfile
  · obtain ⟨last, record, -, -, hrecord, -, -⟩ := h.moved hids
    exact sound_of_readRecord hrecord

end LogDirectory

namespace Setup

open LogDirectory RegistryDirectory

/-! ## Sessions -/

/-- **A session moves the log on by its forces.** The induction is on the session, one operation at its
    head, so that each step goes on from what the one before has left. -/
theorem performAll_advanced (setup : Setup) (operations : List Operation) (tree : Tree) :
    ∃ after told, setup.performAll operations (.inDirectory setup.dir tree)
        = (.inDirectory setup.dir after, told)
      ∧ setup.log.Advanced tree after (forcedIds told) := by
  induction operations generalizing tree with
  | nil => exact ⟨tree, [], rfl, (Undisturbed.refl setup.log tree).advanced⟩
  | cons operation rest ih =>
    obtain ⟨middle, answer, hfirst, hmoved⟩ := setup.perform_advanced operation tree
    obtain ⟨after, told, hrest, hmore⟩ := ih middle
    refine ⟨after, (operation, answer) :: told, ?_, ?_⟩
    · rw [performAll_cons hfirst, hrest]
    · have hids : forcedIds ((operation, answer) :: told)
          = (operation.forced answer).toList ++ forcedIds told := List.flatMap_cons
      rw [hids]
      exact hmoved.trans hmore

/-- **The record over a session** that finds none, or one that can be trusted.  At the end there is
again none or one that can be trusted.  Without any force nothing about it has changed.  After some,
the record says that it was forced, all its voters are among its nodes, and there are some; its
entry has the leader of the last one on record before, or else the first node of the first force in
term 0, and its index is as many higher as there were forces, as long as there are such indices.  An
operation from there on that does not force the log leaves the record as it is. -/
theorem performAll_record (setup : Setup) (operations : List Operation) (start : Tree)
    (h : setup.log.Sound (setup.log.made start)) :
    ∃ after told, setup.performAll operations (.inDirectory setup.dir start)
        = (.inDirectory setup.dir after, told)
      ∧ setup.log.Sound after
      ∧ (match forcedIds told with
        | [] => setup.log.onFile after = setup.log.onFile start
        | first :: more => ∃ last record id,
            setup.log.lastEntry (setup.log.made start) = .ok last
              ∧ setup.log.readRecord after = .ok record
              ∧ record.IsForced
              ∧ record.stored.logId = some id
              ∧ id.leader = LogId.leaderFrom last first
              ∧ (LogId.indexFrom last + (more.length + 1) < UInt64.size →
                id.index.toNat = LogId.indexFrom last + (more.length + 1)))
      ∧ ∀ operation, ∃ next answer, setup.perform operation (.inDirectory setup.dir after)
          = (.inDirectory setup.dir next, answer)
        ∧ (operation.forced answer = none → setup.log.onFile next = setup.log.onFile after) := by
  obtain ⟨after, told, hrun, hadvanced⟩ := setup.performAll_advanced operations start
  -- what is known about all forces together is read off for the index and the leader
  refine ⟨after, told, hrun, hadvanced.sound h, ?_, fun operation => ?_⟩
  · cases hids : forcedIds told with
    | nil => exact hadvanced.untouched hids
    | cons first more =>
      rw [hids] at hadvanced
      obtain ⟨last, record, hlast, -, hrecord, hforced, hid⟩ := hadvanced.moved (List.cons_ne_nil _ _)
      obtain ⟨id, hfollowed, hleader, hindex⟩ := LogId.exists_followed last first more
      exact ⟨last, record, id, hlast, hrecord, hforced, hid.trans hfollowed, hleader, hindex⟩
  · obtain ⟨next, answer, hperform, hnext⟩ := setup.perform_advanced operation after
    refine ⟨next, answer, hperform, fun hnone => hnext.untouched ?_⟩
    rw [hnone]
    rfl

/-- Another instance takes the lock, so that the members cannot be forced again, and drops it.  Nobody is
forced by an empty list.  Then the first is forced by a recovery, and the second by hand. -/
def pairSession : List Operation :=
  [.takeLock, .force "" pairMembers, .dropLock, .force "" [], .recover "" pairAdvertised .live,
    .force "" [⟨2, "10.0.0.2:17666", .voter⟩]]

/-- The recovery finds the lock dropped, and leaves a log that can be forced again. -/
theorem exists_recover_released : ∃ settled record outcome,
    pairSetup.recover "" pairAdvertised .live
        (.inDirectory pairSetup.dir (heldTree.released (pairHome.child lockName)))
      = (.inDirectory pairSetup.dir settled, .ok outcome)
    ∧ outcome.applied = true ∧ outcome.action.remaining.id = 1
    ∧ pairSetup.log.Holds settled pairHome record := by
  obtain ⟨forced, hforced⟩ := exists_forced holds_released "" ⟨1, "10.0.0.1:17666", .voter⟩
  have hmake := Tree.makeDirectories_of_isDirectory holds_released.isHome.isDirectory
  have hroom : (heldTree.released (pairHome.child lockName)).find? (pairHome.child clusterName)
      = some (.file ByteArray.empty) := rfl
  have hrecover := recover_of_collapse hmake ⟨by decide, holds_released, choose_pair⟩ hforced
  rw [hroom, if_neg nofun] at hrecover
  have hfree : forced.find? (pairHome.child clusterName) ≠ some .directory :=
    hforced.room (by rw [hroom]; exact nofun)
  exact ⟨_, _, _, hrecover, rfl, rfl, holds_registered hforced.holds hfree _⟩

/-- Two of its operations force the log. -/
theorem forcedIds_pairSession : forcedIds (pairSetup.performAll pairSession
    (.inDirectory pairSetup.dir (pairTree (.file ByteArray.empty)))).2 = [1, 2] := by
  -- one step after the other, each with the site it leaves
  have htake : pairSetup.perform .takeLock
        (.inDirectory pairSetup.dir (pairTree (.file ByteArray.empty)))
      = (.inDirectory pairSetup.dir heldTree, .ok .done) := rfl
  have hrefused : pairSetup.perform (.force "" pairMembers) (.inDirectory pairSetup.dir heldTree)
      = (.inDirectory pairSetup.dir heldTree, .error (.inUse pairSetup.log.path.text)) := by
    simp only [perform, force_inDirectory (held_heldTree.force "" pairMembers)]
    rfl
  have hdrop : pairSetup.perform .dropLock (.inDirectory pairSetup.dir heldTree)
      = (.inDirectory pairSetup.dir (heldTree.released (pairHome.child lockName)), .ok .done) := by
    rw [← held_heldTree.unlockedElsewhere]
    rfl
  have hempty : ∀ tree, pairSetup.perform (.force "" []) (.inDirectory pairSetup.dir tree)
      = (.inDirectory pairSetup.dir tree, .error (.internal .emptyMembership)) := fun _ => rfl
  -- what the recovery leaves is only known by what it holds, and that can be forced again
  obtain ⟨settled, record, outcome, hrecover, happlied, hid, hholds⟩ := exists_recover_released
  obtain ⟨last, hlast⟩ := exists_forced hholds "" ⟨2, "10.0.0.2:17666", .voter⟩
  have hforce : pairSetup.perform (.force "" [⟨2, "10.0.0.2:17666", .voter⟩])
        (.inDirectory pairSetup.dir settled) = (.inDirectory pairSetup.dir last, .ok .done) := by
    simp only [perform, force_inDirectory hlast.force]
    rfl
  have hcollapse : pairSetup.perform (.recover "" pairAdvertised .live)
        (.inDirectory pairSetup.dir (heldTree.released (pairHome.child lockName)))
      = (.inDirectory pairSetup.dir settled, .ok (.outcome outcome)) := by
    simp only [perform, hrecover, telling]
    rfl
  rw [pairSession, performAll_cons htake, performAll_cons hrefused, performAll_cons hdrop,
    performAll_cons (hempty _), performAll_cons hcollapse, performAll_cons hforce]
  simp [forcedIds, Operation.forced, performAll, happlied, hid]

/-- The first member leads, though the second was forced after him, and two forces have been counted. -/
theorem performAll_record_pair : ∃ after told record,
    pairSetup.performAll pairSession (.inDirectory pairSetup.dir (pairTree (.file ByteArray.empty)))
      = (.inDirectory pairSetup.dir after, told)
    ∧ forcedIds told = [1, 2]
    ∧ pairSetup.log.Sound after
    ∧ pairSetup.log.readRecord after = .ok record
    ∧ record.IsForced
    ∧ ∃ id, record.stored.logId = some id ∧ id.leader = ⟨0, 1⟩ ∧ id.index.toNat = 2 := by
  have hholds := holds_pairTree (.file ByteArray.empty)
  have hmade : pairSetup.log.made (pairTree (.file ByteArray.empty))
      = pairTree (.file ByteArray.empty) := made_of_isDirectory hholds.isHome.isDirectory
  have hsound : pairSetup.log.Sound (pairSetup.log.made (pairTree (.file ByteArray.empty))) := by
    rw [hmade]
    exact sound_of_readRecord hholds.readRecord
  obtain ⟨after, told, hrun, hafter, hrecord, -⟩ := performAll_record pairSetup pairSession _ hsound
  have htold : forcedIds told = [1, 2] := by
    have hids := forcedIds_pairSession
    rwa [hrun] at hids
  simp only [htold] at hrecord
  obtain ⟨last, record, id, hlast, hread, hforced, hid, hleader, hindex⟩ := hrecord
  obtain rfl : none = last := by
    rw [hmade, lastEntry, hholds.readRecord] at hlast
    exact Except.ok.inj hlast
  exact ⟨after, told, record, hrun, htold, hafter, hread, hforced, id, hid, hleader, hindex (by decide)⟩

end Setup

end QuorumRescue
