/-
  What stands in the way of a force.

  Forcing overwrites what is on record.  Where that is damaged, it may be all that is left of a cluster,
  so a record that cannot be trusted must stay, and the force must fail.  This file says exactly when it
  does.

  1. **The specification.** A record stands in the way unless there is none, with room for one
     (`Tree.Vacant`), or it can be read.  `Spared` says what a refused force may have changed: a lock
     file that was missing, and nothing else.

  2. **The crux** is that only an absence is put aside.  Forcing does not ask what is on record, but it
     looks at it, since the new entry goes behind the last one.  Of the faults that it finds there it
     ignores one: that there is nothing.  That fault is reported under the same name as a log that
     cannot be opened, so it has to be shown that no other way for a record to be bad is taken for it,
     be it a directory, a torn text, an unknown version or a checksum (`readRecord_error_cases`).

  3. **The lock** comes first and does not show in the record (`readRecord_of_tryLock`).  So reading and
     forcing see the same record or stop at the same lock (`Free.opens`), and what is proved of one
     carries over to the other.

  4. **The result.** With a free lock and a voter in the list, a force succeeds exactly if nothing
     stands in its way.  Otherwise it fails as reading does, and everything is spared.  Without a voter
     it always fails (`force_iff_trusted`).
-/
import QuorumRescue.Proofs.Codec
import QuorumRescue.Proofs.OnFile

namespace QuorumRescue

/-- There is room for a file at a path, and nothing is there. -/
def Tree.Vacant (tree : Tree) (path : Path) : Prop :=
  ∃ place, tree.locate path = .ok place ∧ tree.find? place = none

namespace LogDirectory

open QuorumRescue.Tree

variable {log : LogDirectory} {tree after : Tree} {now : String} {members : List Member}
  {failure : Failure}

/-! ## The lock comes first -/

/-- Taking the lock does not show in the other files of the directory. -/
theorem read_of_tryLock (log : LogDirectory) (tree : Tree) (create : Bool) {name : String}
    (hname : isPlainName name) (hlock : name ≠ lockName) :
    (tree.tryLock log.lockPath create).1.read (log.path.child name)
      = tree.read (log.path.child name) := by
  rcases tree.tryLock_cases log.lockPath create with heq | ⟨place, hl, hnone, heq⟩
  · rw [heq]
  · rw [heq]
    exact read_elsewhere isPlainName_lockName hname hlock hl (keepsDirectories_create hnone)
      fun p hp => find?_create_of_ne hp

theorem readRecord_of_tryLock (log : LogDirectory) (tree : Tree) (create : Bool) :
    log.readRecord (tree.tryLock log.lockPath create).1 = log.readRecord tree :=
  readRecord_congr (log.read_of_tryLock tree create isPlainName_recordName recordName_ne_lockName)

/-- Where the lock is free, reading and forcing get to the same record, or stop at the same lock. -/
theorem Free.opens (h : log.Free tree) (now : String) (first : Member) (rest : List Member) :
    (∃ fault, log.readMembers tree = .error (.io log.lockPath.text fault)
        ∧ log.force now (first :: rest) tree = (tree, .error (.io log.lockPath.text fault)))
      ∨ ∃ locked,
        log.readMembers tree
            = (log.readRecord tree).map (fun record => record.stored.membership.members)
          ∧ log.force now (first :: rest) tree = log.forceLocked now first (first :: rest) locked
          ∧ log.readRecord locked = log.readRecord tree := by
  obtain ⟨home, hhome, hdir⟩ := isDirectory_iff.1 h.directory
  have hlocate := locate_child hhome hdir isPlainName_lockName
  by_cases hlong : longestPath ≤ log.path.lead.utf8ByteSize + lockName.utf8ByteSize
  · rw [if_pos hlong] at hlocate
    have htry : ∀ create, tree.tryLock log.lockPath create = (tree, .failed .nameTooLong) := by
      intro create
      rw [tryLock, lockPath, hlocate]
    refine Or.inl ⟨.nameTooLong, ?_, ?_⟩
    · rw [LogDirectory.readMembers, if_pos h.directory, htry]
    · rw [force, if_pos h.directory, htry]
  · rw [if_neg hlong] at hlocate
    have hfree := h.unlocked _ hlocate
    refine Or.inr ⟨(tree.tryLock log.lockPath true).1,
      readMembers_of_located h.directory hlocate hfree, ?_, log.readRecord_of_tryLock tree true⟩
    rw [force, if_pos h.directory, tryLock_of_located hlocate hfree]
    cases tree.find? (home.child lockName) <;> rfl

/-! ## Faults of the record -/

/-- **Of all faults only an absence is put aside**; the others end the force as they end the reading.  They
    are told apart by their codes, of which an absence has one that no damage has. -/
theorem readRecord_error_cases (h : log.readRecord tree = .error failure) :
    tree.read log.recordPath = .error .missing
      ∨ ((failure.code = "Corruption" ∨ failure.code = "IOError")
        ∧ log.lastEntry tree = .error failure) := by
  have hlast := h
  unfold LogDirectory.readRecord at h
  split at h
  · next hmissing => exact Or.inl hmissing
  · obtain rfl := Except.error.inj h
    exact Or.inr ⟨Or.inr rfl, by rw [lastEntry, hlast]⟩
  · split at h
    · obtain rfl := Except.error.inj h
      exact Or.inr ⟨Or.inl rfl, by rw [lastEntry, hlast]⟩
    · cases h

/-- In a directory, a file can only be missing where there is room for it. -/
theorem vacant_of_missing (hd : tree.isDirectory log.path)
    (h : tree.read log.recordPath = .error .missing) : tree.Vacant log.recordPath := by
  obtain ⟨home, hhome, hdir⟩ := isDirectory_iff.1 hd
  have hlocate := locate_child hhome hdir isPlainName_recordName
  by_cases hlong : longestPath ≤ log.path.lead.utf8ByteSize + recordName.utf8ByteSize
  · rw [if_pos hlong] at hlocate
    simp [Tree.read, entryAt, recordPath, hlocate] at h
  · rw [if_neg hlong] at hlocate
    refine ⟨_, hlocate, ?_⟩
    cases hf : tree.find? (home.child recordName) with
    | none => rfl
    | some entry => cases entry <;> simp [Tree.read, entryAt, recordPath, hlocate, hf] at h

/-- The last entry of a vacant record is none, and of one that is read its own. -/
theorem exists_lastEntry (h : log.Free tree)
    (hgood : tree.Vacant log.recordPath ∨ ∃ read, log.readMembers tree = .ok read) :
    ∃ home last, tree.IsHome log.path home ∧ Unlocked tree (home.child lockName)
      ∧ log.lastEntry tree = .ok last := by
  rcases hgood with ⟨place, hl, hnone⟩ | ⟨read, hread⟩
  · obtain ⟨home, hhome, rfl, hfree⟩ := h.exists_home hl
    have hmissing : tree.read log.recordPath = .error .missing := by
      simp [Tree.read, entryAt, hl, hnone]
    exact ⟨home, none, hhome, hfree, by simp [lastEntry, LogDirectory.readRecord, hmissing, unavailable]⟩
  · obtain ⟨home, record, hholds, -⟩ := readMembers_eq_ok_iff.1 hread
    exact ⟨home, _, hholds.isHome, hholds.unlocked, by rw [lastEntry, hholds.readRecord]⟩

/-! ## What a refused force leaves -/

/-- Nothing is different but a lock file that was missing and has been made, so the record and the
files of the registry read as before. -/
structure Spared (log : LogDirectory) (before after : Tree) : Prop where
  onlyLocked : ∀ place, after.find? place = before.find? place
    ∨ (before.locate log.lockPath = .ok place ∧ before.find? place = none
        ∧ after.find? place = some (.file ByteArray.empty))
  record : after.read log.recordPath = before.read log.recordPath
  cluster : after.read (RegistryDirectory.mk log.path).clusterPath
    = before.read (RegistryDirectory.mk log.path).clusterPath
  info : after.read (RegistryDirectory.mk log.path).infoPath
    = before.read (RegistryDirectory.mk log.path).infoPath

theorem Spared.refl (log : LogDirectory) (tree : Tree) : log.Spared tree tree :=
  ⟨fun _ => Or.inl rfl, rfl, rfl, rfl⟩

theorem spared_of_tryLock (log : LogDirectory) (tree : Tree) (create : Bool) :
    log.Spared tree (tree.tryLock log.lockPath create).1 := by
  refine ⟨?_, log.read_of_tryLock tree create isPlainName_recordName recordName_ne_lockName,
    log.read_of_tryLock tree create RegistryDirectory.isPlainName_clusterName
      RegistryDirectory.clusterName_ne_lockName,
    log.read_of_tryLock tree create RegistryDirectory.isPlainName_infoName
      RegistryDirectory.infoName_ne_lockName⟩
  intro place
  rcases tree.tryLock_cases log.lockPath create with heq | ⟨lock, hl, hnone, heq⟩
  · exact Or.inl (by rw [heq])
  · rw [heq]
    by_cases hp : place = lock
    · subst hp
      exact Or.inr ⟨hl, hnone, find?_create_self (isStart_of_find? (by rw [hnone]; exact nofun))⟩
    · exact Or.inl (find?_create_of_ne hp)

theorem spared_of_force_error (h : log.force now members tree = (after, .error failure)) :
    log.Spared tree after := by
  rcases tree_of_force_error h with rfl | rfl
  · exact .refl log after
  · exact log.spared_of_tryLock tree true

/-! ## Forces -/

/-- A record that is there and cannot be read ends a force with the failure that reading ends with. -/
theorem force_of_untrusted (h : log.Free tree) (now : String) (first : Member) (rest : List Member)
    (hbad : ¬ (tree.Vacant log.recordPath ∨ ∃ read, log.readMembers tree = .ok read)) :
    ∃ failure after, log.readMembers tree = .error failure
      ∧ (failure.code = "Corruption" ∨ failure.code = "IOError")
      ∧ log.force now (first :: rest) tree = (after, .error failure) := by
  obtain ⟨hvacant, hread⟩ := not_or.1 hbad
  rcases h.opens now first rest with ⟨fault, hmembers, hforce⟩ | ⟨locked, hmembers, hforce, hsame⟩
  · exact ⟨_, tree, hmembers, Or.inr rfl, hforce⟩
  · cases hrecord : log.readRecord tree with
    | ok record => exact absurd ⟨_, hmembers.trans (by rw [hrecord, Except.map])⟩ hread
    | error failure =>
      rcases readRecord_error_cases hrecord with hmissing | ⟨hcode, hlast⟩
      · exact absurd (vacant_of_missing h.directory hmissing) hvacant
      · refine ⟨failure, locked, ?_, hcode, ?_⟩
        · rw [hmembers, hrecord, Except.map]
        · have hlast' : log.lastEntry locked = .error failure := by
            rw [← hlast, lastEntry, lastEntry, hsame]
          rw [hforce, forceLocked, hlast']

/-- **A record that cannot be trusted is never overwritten.**  Where the lock is free, members with a
voter among them can be forced if nothing is in the place of the record, or it can be read, and only
then.  Otherwise the force fails as reading does, for what is there is damaged or no file that can be
read, and the record and the registry's files are as they were.  Members without a voter are never
forced, wherever it is tried. -/
theorem force_iff_trusted (log : LogDirectory) (now : String) (members : List Member) (tree : Tree) :
    (log.Free tree → (∃ m ∈ members, m.role = .voter) →
      ((∃ after, log.force now members tree = (after, .ok ())) ↔
          tree.Vacant log.recordPath ∨ ∃ read, log.readMembers tree = .ok read)
        ∧ (¬ (tree.Vacant log.recordPath ∨ ∃ read, log.readMembers tree = .ok read) →
          ∃ failure after, log.readMembers tree = .error failure
            ∧ (failure.code = "Corruption" ∨ failure.code = "IOError")
            ∧ log.force now members tree = (after, .error failure)
            ∧ log.Spared tree after))
      ∧ ((∀ m ∈ members, m.role ≠ .voter) → ∃ failure after,
          log.force now members tree = (after, .error failure) ∧ log.Spared tree after) := by
  constructor
  · intro hfree hvoter
    obtain ⟨first, rest, rfl⟩ : ∃ first rest, members = first :: rest := by
      obtain ⟨m, hm, -⟩ := hvoter
      exact List.exists_cons_of_ne_nil (List.ne_nil_of_mem hm)
    have hrefused := force_of_untrusted hfree now first rest
    constructor
    · constructor
      · -- a force that succeeds is not one that was refused
        rintro ⟨after, hforce⟩
        by_contra hbad
        obtain ⟨failure, left, -, -, herror⟩ := hrefused hbad
        rw [hforce] at herror
        cases herror
      · intro hgood
        obtain ⟨home, last, hhome, hunlocked, hlast⟩ := exists_lastEntry hfree hgood
        exact exists_force hhome hunlocked hlast now
          (Membership.ofMembers?_eq_some_iff.2 ⟨hvoter, rfl⟩)
    · intro hbad
      obtain ⟨failure, after, hread, hcode, hforce⟩ := hrefused hbad
      exact ⟨failure, after, hread, hcode, hforce, spared_of_force_error hforce⟩
  · intro hnone
    obtain ⟨after, result, hforce⟩ : ∃ after result,
        log.force now members tree = (after, result) := ⟨_, _, rfl⟩
    cases result with
    | error failure => exact ⟨failure, after, hforce, spared_of_force_error hforce⟩
    -- what a force leaves is a membership of the list, which has a voter
    | ok done =>
      obtain ⟨home, first, rest, last, membership, -, hm, -⟩ := force_eq_ok hforce
      obtain ⟨⟨voter, hmem, hvotes⟩, -⟩ := Membership.ofMembers?_eq_some_iff.1 hm
      exact absurd hvotes (hnone voter hmem)

/-- A record that was torn after its first byte stays, with the failure that reading tells; the joint
record gives way to a voter, but not to a spare. -/
theorem force_iff_trusted_torn :
    (∃ after, loneLog.force "" [⟨1, "a:1", .voter⟩] (loneTree ⟨#[0x7B]⟩)
        = (after, .error (.corruption "raft/membership.json" (.undecodable .malformed)))
      ∧ loneLog.Spared (loneTree ⟨#[0x7B]⟩) after)
      ∧ (∃ after, loneLog.force "" [⟨1, "a:1", .voter⟩] (loneTree jointRecord.toBytes)
        = (after, .ok ()))
      ∧ ∃ failure after, loneLog.force "" [⟨1, "a:1", .spare⟩] (loneTree jointRecord.toBytes)
          = (after, .error failure)
        ∧ loneLog.Spared (loneTree jointRecord.toBytes) after := by
  have hvoter : ∃ m ∈ [Member.mk 1 "a:1" .voter], m.role = .voter :=
    ⟨_, List.mem_singleton_self _, rfl⟩
  refine ⟨?_, ?_, ?_⟩
  · have hread : loneLog.readMembers (loneTree ⟨#[0x7B]⟩)
        = .error (.corruption "raft/membership.json" (.undecodable .malformed)) :=
      (free_loneTree _).readMembers_of_damage (read_loneTree _) rfl
    obtain ⟨hforced, hrefused⟩ :=
      (force_iff_trusted loneLog "" _ (loneTree ⟨#[0x7B]⟩)).1 (free_loneTree _) hvoter
    obtain ⟨failure, after, hread', -, hforce, hspared⟩ := hrefused (by
      rintro (⟨place, hl, hnone⟩ | ⟨read, hok⟩)
      · have hfile := read_loneTree ⟨#[0x7B]⟩
        simp [Tree.read, entryAt, hl, hnone] at hfile
      · rw [hread] at hok
        cases hok)
    obtain rfl := Except.error.inj (hread.symm.trans hread')
    exact ⟨after, hforce, hspared⟩
  · obtain ⟨home, hholds⟩ := (free_loneTree jointRecord.toBytes).holds (read_loneTree _)
      (LogRecord.trusted_eq_ok_iff.2 ⟨LogRecord.ofBytes_toBytes _, rfl, rfl⟩)
    exact ((force_iff_trusted loneLog "" _ _).1 (free_loneTree _) hvoter).1.2
      (Or.inr ⟨_, hholds.readMembers⟩)
  · exact (force_iff_trusted loneLog "" _ _).2 (by
      intro m hm
      rw [List.mem_singleton.1 hm]
      decide)

end LogDirectory

end QuorumRescue
