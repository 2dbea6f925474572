/-
  Reading and forcing a log on disk.

  All that is known of a cluster is what its log says, and a recovery is one write to it.  This file
  says when a log can be read, when it can be forced, and what forcing leaves, in terms of a few places
  of a home.  What is done to a log elsewhere in the project is derived from here, without looking into
  reading, locking or writing again.

  1. **The specification.** `Holds` says of a log and a record that the directory is a home, that what
     is in the record's place is the record and can be trusted, and that nobody else has the lock
     (`Unlocked`).  `OnlyLocked` and `OnlyForced` say how a tree has changed: at most by a lock file
     that was missing, and by that and the record.

  2. **Reading.** A log can be read exactly when it holds a record (`readMembers_eq_ok_iff`), so
     whatever is proved of `Holds` is proved of all logs that can be read.

  3. **The crux** is `force_eq_ok`: forcing that succeeds leaves a log that holds the record of the
     list, one entry after the last one that was on record, and nothing else has changed but for the
     lock.  Forcing takes the lock first, and the record is only looked at behind it.  So each fact
     about the record is proved in the tree with the lock and carried back, since the lock file is not
     the record (`OnlyLocked.atRecord`).

  4. **When it succeeds.** It does for any list with a voter where the lock is free and there is no
     record, or one that can be trusted (`exists_force`).  A log that can be read can therefore be
     forced (`force_of_holds`).

  5. **What leaves it alone.** What is done to other files of the directory does not concern `Holds`
     (`Holds.of_elsewhere`), so the record that was forced is still the one on disk when the registry is
     written.
-/
import QuorumRescue.LogDirectory
import QuorumRescue.Proofs.Home
import QuorumRescue.Proofs.Record

namespace QuorumRescue

namespace LogDirectory

open QuorumRescue.Tree

theorem isPlainName_recordName : isPlainName recordName := by decide
theorem isPlainName_lockName : isPlainName lockName := by decide
theorem recordName_ne_lockName : recordName ≠ lockName := by decide

/-! ## A log that can be read -/

/-- Nobody else has the lock at a place, and nothing that could not be locked is there. -/
structure Unlocked (tree : Tree) (lock : Place) : Prop where
  noDirectory : tree.find? lock ≠ some .directory
  free : ∀ content, tree.find? lock = some (.file content) → lock ∉ tree.locked

/-- The log in a home has a record that can be trusted, and is not in use. -/
structure Holds (log : LogDirectory) (tree : Tree) (home : Place) (record : LogRecord) : Prop where
  isHome : tree.IsHome log.path home
  recorded : ∃ bytes, tree.find? (home.child recordName) = some (.file bytes)
    ∧ LogRecord.trusted bytes = .ok record
  unlocked : Unlocked tree (home.child lockName)

variable {log : LogDirectory} {tree locked after : Tree} {home : Place} {record : LogRecord}
  {now : String} {stored : StoredMembership} {members : List Member}

theorem Holds.readRecord (h : log.Holds tree home record) : log.readRecord tree = .ok record := by
  obtain ⟨bytes, hfile, htrusted⟩ := h.recorded
  have hread : tree.read log.recordPath = .ok bytes :=
    (h.isHome.read_eq_ok_iff isPlainName_recordName).2 hfile
  rw [LogDirectory.readRecord, hread]
  simp only [htrusted]

/-- What trying for the lock comes to where it is free. -/
theorem tryLock_of_located {lock : Place} (hl : tree.locate log.lockPath = .ok lock)
    (hfree : Unlocked tree lock) (create : Bool) :
    tree.tryLock log.lockPath create
      = match tree.find? lock with
        | some _ => (tree, .taken)
        | none => if create then (tree.create lock, .taken) else (tree, .noFile) := by
  rw [Tree.tryLock, hl]
  cases hf : tree.find? lock with
  | none => simp [hf]
  | some entry =>
    cases entry with
    | directory => exact absurd hf hfree.noDirectory
    | file content => simp [hf, hfree.free content hf]

theorem tryLock_of_unlocked (h : tree.IsHome log.path home)
    (hfree : Unlocked tree (home.child lockName)) (create : Bool) :
    tree.tryLock log.lockPath create
      = match tree.find? (home.child lockName) with
        | some _ => (tree, .taken)
        | none => if create then (tree.create (home.child lockName), .taken) else (tree, .noFile) :=
  tryLock_of_located (h.inside lockName isPlainName_lockName) hfree create

/-- Where the lock is free, reading is a matter of the record. -/
theorem readMembers_of_located {lock : Place} (hd : tree.isDirectory log.path)
    (hl : tree.locate log.lockPath = .ok lock) (hfree : Unlocked tree lock) :
    log.readMembers tree
      = (log.readRecord tree).map fun record => record.stored.membership.members := by
  rw [LogDirectory.readMembers, if_pos hd, tryLock_of_located hl hfree false]
  cases tree.find? lock <;> rfl

theorem Holds.readMembers (h : log.Holds tree home record) :
    log.readMembers tree = .ok record.stored.membership.members := by
  rw [readMembers_of_located h.isHome.isDirectory (h.isHome.inside lockName isPlainName_lockName)
    h.unlocked, h.readRecord, Except.map]

/-- The directory of a log is there, and nobody else has its lock. -/
structure Free (log : LogDirectory) (tree : Tree) : Prop where
  directory : tree.isDirectory log.path
  unlocked : ∀ lock, tree.locate log.lockPath = .ok lock → Unlocked tree lock

/-- Where the path of the record can be followed, the directory is a home. -/
theorem Free.exists_home (h : log.Free tree) {place : Place}
    (hl : tree.locate log.recordPath = .ok place) : ∃ home, tree.IsHome log.path home
      ∧ place = home.child recordName ∧ Unlocked tree (home.child lockName) := by
  obtain ⟨home, hhome, rfl⟩ := exists_isHome h.directory isPlainName_recordName (by decide) hl
  exact ⟨home, hhome, rfl, h.unlocked _ (hhome.inside lockName isPlainName_lockName)⟩

/-- A record that can be read lies in the home of the log. -/
theorem exists_home_of_readRecord (hd : tree.isDirectory log.path)
    (hr : log.readRecord tree = .ok record) : ∃ home, tree.IsHome log.path home
      ∧ ∃ bytes, tree.find? (home.child recordName) = some (.file bytes)
        ∧ LogRecord.trusted bytes = .ok record := by
  unfold LogDirectory.readRecord at hr
  split at hr
  · cases hr
  · cases hr
  · next bytes hread =>
    split at hr
    · cases hr
    · next record' htrusted =>
      obtain rfl := Except.ok.inj hr
      obtain ⟨place, hl⟩ := exists_locate_of_read hread
      obtain ⟨home, hhome, -⟩ := exists_isHome hd isPlainName_recordName (by decide) hl
      exact ⟨home, hhome, bytes, (hhome.read_eq_ok_iff isPlainName_recordName).1 hread, htrusted⟩

/-- **A log can be read exactly when it holds a record**, and then the record's members are read.  That the
    paths of all files can be followed is a consequence: the record's is the longest, and it was read. -/
theorem readMembers_eq_ok_iff {members : List Member} : log.readMembers tree = .ok members ↔
    ∃ home record, log.Holds tree home record ∧ record.stored.membership.members = members := by
  constructor
  · intro h
    unfold LogDirectory.readMembers at h
    split at h
    · next hd =>
      have hrecord : ∃ record, log.readRecord tree = .ok record
          ∧ record.stored.membership.members = members := by
        cases hr : log.readRecord tree with
        | error failure => split at h <;> simp [hr, Except.map] at h
        | ok record =>
          refine ⟨record, rfl, ?_⟩
          split at h <;> simp_all [Except.map]
      obtain ⟨record, hr, hmembers⟩ := hrecord
      obtain ⟨home, hhome, hfile⟩ := exists_home_of_readRecord hd hr
      -- otherwise trying for the lock would have come to an error
      refine ⟨home, record, ⟨hhome, hfile, ⟨fun hdir => ?_, fun content hlock hheld => ?_⟩⟩, hmembers⟩
      · simp [Tree.tryLock, lockPath, hhome.inside lockName isPlainName_lockName, hdir] at h
      · simp [Tree.tryLock, lockPath, hhome.inside lockName isPlainName_lockName, hlock, hheld] at h
    · cases h
  · rintro ⟨home, record, h, rfl⟩
    exact h.readMembers

/-- The home of a log that can be read is where its record is. -/
theorem exists_holds_of_readMembers {members : List Member}
    (h : log.readMembers tree = .ok members) (hhome : tree.IsHome log.path home) :
    ∃ record, log.Holds tree home record ∧ record.stored.membership.members = members := by
  obtain ⟨other, record, hholds, hmembers⟩ := readMembers_eq_ok_iff.1 h
  obtain rfl := Except.ok.inj (hholds.isHome.located.symm.trans hhome.located)
  exact ⟨record, hholds, hmembers⟩

/-! ## Changes elsewhere -/

/-- A file of another name in the same directory has no say in the log. -/
theorem Holds.of_elsewhere (h : log.Holds tree home record) {name : String}
    (hrecord : name ≠ recordName) (hlock : name ≠ lockName)
    (hd : tree.find? (home.child name) ≠ some .directory) (content : ByteArray) :
    log.Holds (tree.put (home.child name) (.file content)) home record := by
  have hother : ∀ other, name ≠ other →
      (tree.put (home.child name) (.file content)).find? (home.child other)
        = tree.find? (home.child other) := fun other hne =>
    find?_put_of_ne (Place.child_ne hne.symm)
  refine ⟨h.isHome.of_keeps (keepsDirectories_put hd), ?_, ⟨?_, ?_⟩⟩
  · rw [hother _ hrecord]
    exact h.recorded
  · rw [hother _ hlock]
    exact h.unlocked.noDirectory
  · intro other ho
    rw [hother _ hlock] at ho
    exact h.unlocked.free other ho

/-! ## The lock -/

/-- Nothing is different but a lock file that was missing and has been made. -/
structure OnlyLocked (home : Place) (before after : Tree) : Prop where
  elsewhere : ∀ place, place ≠ home.child lockName → after.find? place = before.find? place
  lock : after.find? (home.child lockName) = before.find? (home.child lockName)
    ∨ (before.find? (home.child lockName) = none
        ∧ after.find? (home.child lockName) = some (.file ByteArray.empty))

/-- The lock file is not the record. -/
theorem OnlyLocked.atRecord (h : OnlyLocked home tree locked) :
    locked.find? (home.child recordName) = tree.find? (home.child recordName) :=
  h.elsewhere _ (Place.child_ne recordName_ne_lockName)

/-- A lock that is free can be taken. -/
theorem exists_taken (h : tree.IsHome log.path home) (hfree : Unlocked tree (home.child lockName)) :
    ∃ locked, tree.tryLock log.lockPath true = (locked, .taken) := by
  rw [tryLock_of_unlocked h hfree true]
  cases tree.find? (home.child lockName) with
  | none => exact ⟨_, rfl⟩
  | some entry => exact ⟨_, rfl⟩

/-- A lock that was taken is a file that nobody else holds, and nothing else was touched. -/
theorem tryLock_eq_taken (h : tree.IsHome log.path home)
    (htry : tree.tryLock log.lockPath true = (locked, .taken)) :
    Unlocked locked (home.child lockName) ∧ OnlyLocked home tree locked := by
  rw [Tree.tryLock, lockPath, h.inside lockName isPlainName_lockName] at htry
  cases hf : tree.find? (home.child lockName) with
  | some entry =>
    cases entry with
    | directory => simp [hf] at htry
    | file content =>
      by_cases hheld : home.child lockName ∈ tree.locked
      · simp [hf, hheld] at htry
      · obtain rfl : tree = locked := by simpa [hf, hheld] using htry
        exact ⟨⟨by rw [hf]; exact nofun, fun _ _ => hheld⟩, ⟨fun _ _ => rfl, Or.inl rfl⟩⟩
  | none =>
    obtain rfl : tree.create (home.child lockName) = locked := by simpa [hf] using htry
    have hself : (tree.create (home.child lockName)).find? (home.child lockName)
        = some (.file ByteArray.empty) := find?_create_self (Place.isStart_child _ _)
    refine ⟨⟨by rw [hself]; exact nofun, fun _ _ => by simp [create]⟩,
      ⟨fun place hp => find?_create_of_ne hp, Or.inr ⟨hf, hself⟩⟩⟩

/-- The lock of a log that holds a record can be taken, and the log still holds the record. -/
theorem Holds.lock (h : log.Holds tree home record) : ∃ locked,
    tree.tryLock log.lockPath true = (locked, .taken) ∧ log.Holds locked home record
      ∧ OnlyLocked home tree locked := by
  obtain ⟨locked, htry⟩ := exists_taken h.isHome h.unlocked
  obtain ⟨hfree, honly⟩ := tryLock_eq_taken h.isHome htry
  have hkeeps := keepsDirectories_tryLock tree log.lockPath true
  rw [htry] at hkeeps
  refine ⟨locked, htry, ⟨h.isHome.of_keeps hkeeps, ?_, hfree⟩, honly⟩
  rw [honly.atRecord]
  exact h.recorded

/-! ## Forcing -/

/-- Nothing is different but the record, and a lock file that was missing and has been made. -/
structure OnlyForced (home : Place) (before after : Tree) : Prop where
  elsewhere : ∀ place, place ≠ home.child recordName → place ≠ home.child lockName →
    after.find? place = before.find? place
  lock : after.find? (home.child lockName) = before.find? (home.child lockName)
    ∨ (before.find? (home.child lockName) = none
        ∧ after.find? (home.child lockName) = some (.file ByteArray.empty))

theorem OnlyForced.sameFilesBut {before after : Tree} (h : OnlyForced home before after) :
    SameFilesBut [home.child recordName, home.child lockName] before after := by
  intro place hp content
  obtain ⟨hrecord, hlock⟩ : place ≠ home.child recordName ∧ place ≠ home.child lockName := by
    simpa using hp
  rw [h.elsewhere place hrecord hlock]

/-- The record is a matter of what is read in its place. -/
theorem readRecord_congr (h : after.read log.recordPath = tree.read log.recordPath) :
    log.readRecord after = log.readRecord tree := by
  rw [LogDirectory.readRecord, LogDirectory.readRecord, h]

/-- The last entry on record depends on the record's place alone. -/
theorem lastEntry_congr (h : tree.IsHome log.path home) (hafter : after.IsHome log.path home)
    (heq : after.find? (home.child recordName) = tree.find? (home.child recordName)) :
    log.lastEntry after = log.lastEntry tree := by
  rw [lastEntry, lastEntry, readRecord_congr (h.read_congr hafter isPlainName_recordName heq)]

/-- A directory in the record's place would be found when the last entry is asked for. -/
theorem noDirectory_of_lastEntry (h : tree.IsHome log.path home) {last : Option LogId}
    (hlast : log.lastEntry tree = .ok last) :
    tree.find? (home.child recordName) ≠ some .directory := by
  intro hdir
  have hread : tree.read log.recordPath = .error .isDirectory := by
    simp [Tree.read, entryAt, recordPath, h.inside recordName isPlainName_recordName, hdir]
  simp [lastEntry, LogDirectory.readRecord, hread] at hlast

/-- Forcing leaves all directories where they are. -/
theorem OnlyForced.keepsDirectories {before after : Tree} (h : OnlyForced home before after)
    (hd : before.find? (home.child recordName) ≠ some .directory) :
    KeepsDirectories before after := by
  intro place hplace
  have hrecord : place ≠ home.child recordName := by
    rintro rfl
    exact hd hplace
  by_cases hlock : place = home.child lockName
  · subst hlock
    rcases h.lock with heq | ⟨hnone, -⟩
    · exact heq.trans hplace
    · rw [hnone] at hplace
      cases hplace
  · exact (h.elsewhere place hrecord hlock).trans hplace

/-- A record in the place of what was there makes the log hold it, if the lock is free. -/
theorem holds_put (h : tree.IsHome log.path home) (hfree : Unlocked tree (home.child lockName))
    (hd : tree.find? (home.child recordName) ≠ some .directory) (now : String)
    (stored : StoredMembership) :
    log.Holds (tree.put (home.child recordName) (.file (LogRecord.force now stored).toBytes)) home
      (.force now stored) := by
  have hlock : (tree.put (home.child recordName) (.file (LogRecord.force now stored).toBytes)).find?
      (home.child lockName) = tree.find? (home.child lockName) :=
    find?_put_of_ne (Place.child_ne recordName_ne_lockName.symm)
  refine ⟨h.of_keeps (keepsDirectories_put hd), ⟨_, ?_, LogRecord.trusted_force now stored⟩,
    ⟨?_, fun content hc => ?_⟩⟩
  · exact find?_put_self (Place.isStart_child _ _)
  · rw [hlock]
    exact hfree.noDirectory
  · rw [hlock] at hc
    exact hfree.free content hc

/-- Writing a record fails alike at all times, or puts it in the same place. -/
theorem write_at (log : LogDirectory) (stored : StoredMembership) (tree : Tree) :
    (∃ failure, ∀ now, log.write now stored tree = (tree, .error failure))
      ∨ ∃ place, tree.locate log.recordPath = .ok place ∧ tree.find? place ≠ some .directory
        ∧ ∀ now, log.write now stored tree
          = (tree.put place (.file (LogRecord.force now stored).toBytes), .ok ()) := by
  rcases (SameButBytes.refl tree).replace log.path recordName with ⟨fault, hfails⟩ | ⟨place, hl, hd, hdone⟩
  · cases fault with
    | directory fault =>
      refine Or.inl ⟨.io log.path.text fault, fun now => ?_⟩
      simp only [write, (hfails (LogRecord.force now stored).toBytes ByteArray.empty).1]
    | file fault =>
      refine Or.inl ⟨.io log.recordPath.text fault, fun now => ?_⟩
      simp only [write, (hfails (LogRecord.force now stored).toBytes ByteArray.empty).1]
  · refine Or.inr ⟨place, hl, hd, fun now => ?_⟩
    simp only [write, (hdone (LogRecord.force now stored).toBytes ByteArray.empty).1]

/-- A record that was written is in the place of the old one, which was no directory. -/
theorem write_eq_ok (hd : tree.isDirectory log.path) (h : log.write now stored tree = (after, .ok ())) :
    ∃ home, tree.IsHome log.path home
      ∧ tree.find? (home.child recordName) ≠ some .directory
      ∧ after = tree.put (home.child recordName) (.file (LogRecord.force now stored).toBytes) := by
  rcases log.write_at stored tree with ⟨failure, hfails⟩ | ⟨place, hl, hdir, hdone⟩
  · rw [hfails now] at h
    cases h
  · obtain ⟨home, hhome, rfl⟩ := exists_isHome hd isPlainName_recordName (by decide) hl
    rw [hdone now] at h
    exact ⟨home, hhome, hdir, (congrArg Prod.fst h).symm⟩

/-- A record that could not be written has changed nothing. -/
theorem tree_of_write_error {failure : Failure}
    (h : log.write now stored tree = (after, .error failure)) : after = tree := by
  rcases log.write_at stored tree with ⟨fault, hfails⟩ | ⟨place, -, -, hdone⟩
  · rw [hfails now] at h
    exact (congrArg Prod.fst h).symm
  · rw [hdone now] at h
    cases h

/-- What forcing does when the lock has been taken. -/
theorem forceLocked_eq_ok {first : Member} (hd : tree.isDirectory log.path)
    (h : log.forceLocked now first members tree = (after, .ok ())) :
    ∃ home last membership, tree.IsHome log.path home
      ∧ tree.find? (home.child recordName) ≠ some .directory
      ∧ log.lastEntry tree = .ok last
      ∧ Membership.ofMembers? members = some membership
      ∧ after = tree.put (home.child recordName)
          (.file (LogRecord.force now ⟨some (.following last first.id), membership⟩).toBytes) := by
  unfold forceLocked at h
  cases hlast : log.lastEntry tree with
  | error failure => simp [hlast] at h
  | ok last =>
    cases hm : Membership.ofMembers? members with
    | none => simp [hlast, hm] at h
    | some membership =>
      simp only [hlast, hm] at h
      obtain ⟨home, hhome, hdir, rfl⟩ := write_eq_ok hd h
      exact ⟨home, last, membership, hhome, hdir, rfl, rfl, rfl⟩

/-- **Forcing that succeeds** leaves a log that holds the record of the list, one entry after the last
one that was on record. -/
theorem force_eq_ok (h : log.force now members tree = (after, .ok ())) :
    ∃ home first rest last membership, members = first :: rest
      ∧ Membership.ofMembers? members = some membership
      ∧ tree.IsHome log.path home
      ∧ log.lastEntry tree = .ok last
      ∧ log.Holds after home (.force now ⟨some (.following last first.id), membership⟩)
      ∧ OnlyForced home tree after := by
  cases members with
  | nil => cases h
  | cons first rest =>
    by_cases hd : tree.isDirectory log.path = true
    · rw [force, if_pos hd] at h
      have hkeeps := keepsDirectories_tryLock tree log.lockPath true
      split at h
      · next locked htry =>
        rw [htry] at hkeeps
        obtain ⟨home', last, membership, hhome', hdir, hlast, hm, rfl⟩ :=
          forceLocked_eq_ok (hkeeps.isDirectory hd) h
        -- the home was one before the lock was taken
        obtain ⟨home, hhome⟩ := isHome_of_located hd isPlainName_recordName (by decide)
          (hhome'.inside recordName isPlainName_recordName)
        obtain rfl := Except.ok.inj ((hhome.of_keeps hkeeps).located.symm.trans hhome'.located)
        obtain ⟨hfree, honly⟩ := tryLock_eq_taken hhome htry
        refine ⟨home, first, rest, last, membership, rfl, hm, hhome, ?_,
          holds_put hhome' hfree hdir now _, ⟨fun place hrecord hlock => ?_, ?_⟩⟩
        · rw [← lastEntry_congr hhome hhome' honly.atRecord, hlast]
        · rw [find?_put_of_ne hrecord, honly.elsewhere place hlock]
        · rw [find?_put_of_ne (Place.child_ne recordName_ne_lockName.symm)]
          exact honly.lock
      · cases h
      · cases h
      · cases h
    · rw [force, if_neg hd] at h
      cases h

/-- **A log can be forced** to any list with a voter when its lock is free and it has no record, or one
that can be trusted. -/
theorem exists_force (h : tree.IsHome log.path home) (hfree : Unlocked tree (home.child lockName))
    {last : Option LogId} (hlast : log.lastEntry tree = .ok last) (now : String) {first : Member}
    {rest : List Member} {membership : Membership}
    (hm : Membership.ofMembers? (first :: rest) = some membership) :
    ∃ after, log.force now (first :: rest) tree = (after, .ok ()) := by
  obtain ⟨locked, htry⟩ := exists_taken h hfree
  obtain ⟨-, honly⟩ := tryLock_eq_taken h htry
  have hkeeps := keepsDirectories_tryLock tree log.lockPath true
  rw [htry] at hkeeps
  have hlocked := h.of_keeps hkeeps
  have hlast' := (lastEntry_congr h hlocked honly.atRecord).trans hlast
  have hd := noDirectory_of_lastEntry hlocked hlast'
  rw [force, if_pos h.isDirectory, htry]
  simp only [forceLocked, hlast', hm, write, hlocked.replace_eq isPlainName_recordName, if_neg hd]
  exact ⟨_, rfl⟩

/-- A log that holds a record can be forced, and holds the list's record from then on. -/
theorem force_of_holds (h : log.Holds tree home record) (now : String) {first : Member}
    {rest : List Member} {membership : Membership}
    (hm : Membership.ofMembers? (first :: rest) = some membership) : ∃ after,
      log.force now (first :: rest) tree = (after, .ok ())
        ∧ log.Holds after home
            (.force now ⟨some (.following record.stored.logId first.id), membership⟩)
        ∧ OnlyForced home tree after := by
  have hlast : log.lastEntry tree = .ok record.stored.logId := by rw [lastEntry, h.readRecord]
  obtain ⟨after, hforce⟩ := exists_force h.isHome h.unlocked hlast now hm
  obtain ⟨home', first', rest', last, membership', hcons, hm', hhome, hlast', hholds, honly⟩ :=
    force_eq_ok hforce
  obtain ⟨rfl, rfl⟩ := List.cons.inj hcons
  obtain rfl := Option.some.inj (hm.symm.trans hm')
  obtain rfl := Except.ok.inj (h.isHome.located.symm.trans hhome.located)
  obtain rfl := Except.ok.inj (hlast.symm.trans hlast')
  exact ⟨after, hforce, hholds, honly⟩

end LogDirectory

/-! ## A single voter -/

/-- The membership of one voter. -/
def Membership.single (id : UInt64) (address : String) : Membership :=
  ⟨[.ofList [id]], .ofList [(id, address)]⟩

theorem Membership.ofMembers?_single (id : UInt64) (address : String) :
    ofMembers? [⟨id, address, .voter⟩] = some (single id address) := rfl

theorem Membership.members_single (id : UInt64) (address : String) :
    (single id address).members = [⟨id, address, .voter⟩] := by
  simp [single, members, hasVote, IdSet.ofList, IdMap.ofList, IdMap.put, IdMap.putEntry, IdMap.empty,
    IdMap.ids]

end QuorumRescue
