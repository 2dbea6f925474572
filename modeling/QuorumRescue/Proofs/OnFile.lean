/-
  What is on file in a log's directory.

  Operations come and go, and the record of the log stays on file until it is forced.  To follow a
  record over a session, one has to know of each operation what it does to the record, and nothing else.
  This file has the two relations that say so, and the laws by which they add up.

  1. **The specification.** `onFile` is what is read in the place of the record, once the directories on
     the way are there; looking for it before would only tell that something on the way is missing.
     `Undisturbed` says that it is the same, and `Advanced` what a number of forces come to, whatever
     was done in between: a forced record (`LogRecord.IsForced`) with an entry that follows the last one
     on file as many times as there were forces (`LogId.followed`).

  2. **What leaves it alone.** Making directories, taking a lock and writing the registry change other
     places, and directories stay where they are (`undisturbed_elsewhere`).  A force that fails has
     taken the lock at most (`tree_of_force_error`).

  3. **The crux** is that stretches of a run go on where the last one has ended (`Advanced.trans`).  The
     second stretch starts from the last entry that the first has left, and it is the same leader's, so
     only the index has to be counted on.

  4. **The count.** Forces keep the leader and count up the index by one each, as long as there are such
     indices (`LogId.exists_followed`).
-/
import QuorumRescue.Proofs.Membership
import QuorumRescue.Proofs.Site

namespace QuorumRescue

/-! ## Entries that follow -/

namespace LogId

/-- The last entry after forces by lists led by `ids`, one after the other. -/
def followed (last : Option LogId) (ids : List UInt64) : Option LogId :=
  ids.foldl (fun last id => some (.following last id)) last

/-- The leader of the entries that follow: that of the last entry, or else the first node forced into
a log without any entry, in term 0. -/
def leaderFrom (last : Option LogId) (first : UInt64) : LeaderId :=
  match last with
  | some id => id.leader
  | none => ⟨0, first⟩

/-- The index of the last entry, which is 0 without any. -/
def indexFrom (last : Option LogId) : Nat :=
  match last with
  | some id => id.index.toNat
  | none => 0

theorem leader_following (last : Option LogId) (first : UInt64) :
    (following last first).leader = leaderFrom last first := by
  cases last <;> rfl

theorem index_following {last : Option LogId} {first : UInt64}
    (h : indexFrom last + 1 < UInt64.size) :
    (following last first).index.toNat = indexFrom last + 1 := by
  cases last with
  | none => rfl
  | some id =>
    have hbound : id.index.toNat + 1 < UInt64.size := h
    show (id.index + 1).toNat = id.index.toNat + 1
    rw [UInt64.toNat_add]
    exact Nat.mod_eq_of_lt hbound

/-- **Forces keep the leader and count up the index.** The leader is settled by the first force, and the
    induction on the others goes on from there. -/
theorem exists_followed (last : Option LogId) (first : UInt64) (more : List UInt64) : ∃ id,
    followed last (first :: more) = some id
      ∧ id.leader = leaderFrom last first
      ∧ (indexFrom last + (more.length + 1) < UInt64.size →
        id.index.toNat = indexFrom last + (more.length + 1)) := by
  induction more generalizing last first with
  | nil => exact ⟨following last first, rfl, leader_following last first, index_following⟩
  | cons second more ih =>
    obtain ⟨id, hid, hleader, hindex⟩ := ih (some (following last first)) second
    refine ⟨id, hid, hleader.trans (leader_following last first), fun hbound => ?_⟩
    rw [List.length_cons] at hbound ⊢
    have hfirst : (following last first).index.toNat = indexFrom last + 1 :=
      index_following (by omega)
    have hfrom : indexFrom (some (following last first)) = indexFrom last + 1 := hfirst
    rw [hfrom] at hindex
    rw [hindex (by omega)]
    omega

end LogId

/-- What any record looks like that a force has left. -/
structure LogRecord.IsForced (record : LogRecord) : Prop where
  forced : record.forced = true
  voters : ∃ voters, record.stored.membership.configs = [voters] ∧ voters.ids ≠ []
    ∧ ∀ id ∈ voters.ids, id ∈ record.stored.membership.nodes.ids

/-- All voters of a list are among its nodes. -/
theorem LogRecord.isForced_force {members : List Member} {membership : Membership}
    (h : Membership.ofMembers? members = some membership) (now : String) (logId : Option LogId) :
    (LogRecord.force now ⟨logId, membership⟩).IsForced := by
  obtain ⟨⟨voter, hmem, hvotes⟩, rfl⟩ := Membership.ofMembers?_eq_some_iff.1 h
  refine ⟨rfl, Membership.votersOf members, rfl, ?_, fun id hid => ?_⟩
  · have hvoter : voter.id ∈ (Membership.votersOf members).ids :=
      Membership.mem_votersOf.2 ⟨voter, hmem, rfl, hvotes⟩
    exact List.ne_nil_of_mem hvoter
  · obtain ⟨m, hm, hmid, -⟩ := Membership.mem_votersOf.1 hid
    exact Membership.mem_ids_nodesOf.2 ⟨m, hm, hmid⟩

namespace LogDirectory

open QuorumRescue.Tree

variable {log : LogDirectory} {tree before after : Tree}

/-! ## The record in its place -/

/-- The tree with the log's directory, as far as it can be made. -/
def made (log : LogDirectory) (tree : Tree) : Tree := (tree.makeDirectories log.path).1

/-- What is in the place of the record, once the directory is there. -/
def onFile (log : LogDirectory) (tree : Tree) : Except IoFault ByteArray :=
  (log.made tree).read log.recordPath

theorem made_again (log : LogDirectory) (tree : Tree) : log.made (log.made tree) = log.made tree := by
  rw [made, made, makeDirectories_again]

theorem made_of_isDirectory (h : tree.isDirectory log.path) : log.made tree = tree := by
  rw [made, makeDirectories_of_isDirectory h]

/-- A record that can be read is on file. -/
theorem onFile_of_read {bytes : ByteArray} (h : tree.read log.recordPath = .ok bytes) :
    log.onFile tree = .ok bytes := by
  obtain ⟨place, hl⟩ := exists_locate_of_read h
  have hmade : log.made tree = tree := makeDirectories_of_locate_child isPlainName_recordName hl
  rw [onFile, hmade, h]

theorem lastEntry_of_onFile (h : log.onFile after = log.onFile before) :
    log.lastEntry (log.made after) = log.lastEntry (log.made before) := by
  rw [lastEntry, lastEntry, readRecord_congr h]

/-! ## Operations that leave it there -/

/-- What is on file is the same, and all directories are still there. -/
structure Undisturbed (log : LogDirectory) (before after : Tree) : Prop where
  onFile : log.onFile after = log.onFile before
  keeps : KeepsDirectories before after

theorem Undisturbed.refl (log : LogDirectory) (tree : Tree) : log.Undisturbed tree tree :=
  ⟨rfl, .refl tree⟩

theorem Undisturbed.trans {a b c : Tree} (hab : log.Undisturbed a b) (hbc : log.Undisturbed b c) :
    log.Undisturbed a c :=
  ⟨hbc.onFile.trans hab.onFile, hab.keeps.trans hbc.keeps⟩

/-- Where the directory is there, what is on file is what is read. -/
theorem Undisturbed.read (h : log.Undisturbed before after) (hdir : before.isDirectory log.path) :
    after.read log.recordPath = before.read log.recordPath := by
  have honfile := h.onFile
  rwa [LogDirectory.onFile, LogDirectory.onFile, made_of_isDirectory (h.keeps.isDirectory hdir),
    made_of_isDirectory hdir] at honfile

/-- Making the directory shows what is on file, and changes nothing about it. -/
theorem undisturbed_made (log : LogDirectory) (tree : Tree) :
    log.Undisturbed tree (log.made tree) := by
  refine ⟨?_, fun place h => ?_⟩
  · rw [LogDirectory.onFile, made_again, LogDirectory.onFile]
  · rcases makeDirectories_onlyMade tree log.path place with heq | ⟨-, hnone, -⟩
    · exact heq.trans h
    · rw [hnone] at h
      cases h

/-- **What is done in the place of another file does not show in the record.** This is the law that all
    other operations are put under: the lock's and the registry's files have other names. -/
theorem undisturbed_elsewhere {name : String} {place : Place} (hname : isPlainName name)
    (hne : name ≠ recordName) (hl : tree.locate (log.path.child name) = .ok place)
    (hkeeps : KeepsDirectories tree after)
    (hsame : ∀ p, p ≠ place → after.find? p = tree.find? p) : log.Undisturbed tree after := by
  have hread : after.read log.recordPath = tree.read log.recordPath :=
    read_elsewhere hname isPlainName_recordName hne.symm hl hkeeps hsame
  have hbefore : log.made tree = tree := makeDirectories_of_locate_child hname hl
  have hafter : log.made after = after :=
    makeDirectories_of_locate_child hname (locate_of_keeps hkeeps hl)
  refine ⟨?_, hkeeps⟩
  rw [LogDirectory.onFile, LogDirectory.onFile, hbefore, hafter, hread]

theorem undisturbed_tryLock (log : LogDirectory) (tree : Tree) (create : Bool) :
    log.Undisturbed tree (tree.tryLock log.lockPath create).1 := by
  rcases tree.tryLock_cases log.lockPath create with heq | ⟨place, hl, hnone, heq⟩
  · rw [heq]
    exact .refl log tree
  · rw [heq]
    exact undisturbed_elsewhere isPlainName_lockName recordName_ne_lockName.symm hl
      (keepsDirectories_create hnone) fun p hp => find?_create_of_ne hp

theorem undisturbed_withLocked (log : LogDirectory) (tree : Tree) (locked : List Place) :
    log.Undisturbed tree (tree.withLocked locked) := by
  refine ⟨?_, .refl tree⟩
  rw [LogDirectory.onFile, LogDirectory.onFile, made, made, makeDirectories_withLocked,
    read_withLocked]

/-- The files of the registry are other files. -/
theorem undisturbed_writeFile (log : LogDirectory) {name : String} (hname : isPlainName name)
    (hne : name ≠ recordName) (text : List Char) (tree : Tree) :
    log.Undisturbed tree ((RegistryDirectory.mk log.path).writeFile name text tree).1 := by
  rcases (RegistryDirectory.mk log.path).writeFile_cases name text tree with ⟨failure, heq⟩
    | ⟨place, hl, hd, heq⟩
  · rw [heq]
    exact .refl log tree
  · rw [heq]
    exact undisturbed_elsewhere hname hne hl (keepsDirectories_put hd) fun p hp => find?_put_of_ne hp

/-- Where the lock has been taken, a force that fails changes nothing more. -/
theorem tree_of_forceLocked_error {now : String} {first : Member} {members : List Member}
    {failure : Failure} (h : log.forceLocked now first members tree = (after, .error failure)) :
    after = tree := by
  unfold forceLocked at h
  split at h
  · exact (congrArg Prod.fst h).symm
  · split at h
    · exact (congrArg Prod.fst h).symm
    · exact tree_of_write_error h

/-- **Forcing that fails** has taken the lock at most.  The record is written last, and that is one step, so
    there is no force that fails with the record half written. -/
theorem tree_of_force_error {now : String} {members : List Member} {failure : Failure}
    (h : log.force now members tree = (after, .error failure)) :
    after = tree ∨ after = (tree.tryLock log.lockPath true).1 := by
  cases members with
  | nil => exact Or.inl (congrArg Prod.fst h).symm
  | cons first rest =>
    by_cases hd : tree.isDirectory log.path = true
    · right
      obtain ⟨locked, answer, htry⟩ : ∃ locked answer,
          tree.tryLock log.lockPath true = (locked, answer) := ⟨_, _, rfl⟩
      rw [force, if_pos hd, htry] at h
      rw [htry]
      cases answer with
      | taken => exact tree_of_forceLocked_error h
      | failed fault => exact (congrArg Prod.fst h).symm
      | heldElsewhere => exact (congrArg Prod.fst h).symm
      | noFile => exact (congrArg Prod.fst h).symm
    · rw [force, if_neg hd] at h
      exact Or.inl (congrArg Prod.fst h).symm

theorem undisturbed_of_force_error {now : String} {members : List Member} {failure : Failure}
    (h : log.force now members tree = (after, .error failure)) : log.Undisturbed tree after := by
  rcases tree_of_force_error h with rfl | rfl
  · exact .refl log after
  · exact log.undisturbed_tryLock tree true

/-! ## Operations that move it on -/

/-- What there is on file after forces by lists led by `ids`, whatever else was done: without any, the
same as before; otherwise a forced record, as many entries after the last one that was on file. -/
structure Advanced (log : LogDirectory) (before after : Tree) (ids : List UInt64) : Prop where
  keeps : KeepsDirectories before after
  untouched : ids = [] → log.onFile after = log.onFile before
  moved : ids ≠ [] → ∃ last record, log.lastEntry (log.made before) = .ok last
    ∧ after.isDirectory log.path
    ∧ log.readRecord after = .ok record
    ∧ record.IsForced
    ∧ record.stored.logId = LogId.followed last ids

theorem Undisturbed.advanced (h : log.Undisturbed before after) : log.Advanced before after [] :=
  ⟨h.keeps, fun _ => h.onFile, fun hne => absurd rfl hne⟩

/-- Where a log holds what it was forced to, it has moved on by one entry. -/
theorem Holds.advanced {home : Place} {now : String} {first : UInt64} {members : List Member}
    {membership : Membership} {last : Option LogId}
    (h : log.Holds after home (.force now ⟨some (.following last first), membership⟩))
    (hm : Membership.ofMembers? members = some membership)
    (hlast : log.lastEntry (log.made before) = .ok last) (hkeeps : KeepsDirectories before after) :
    log.Advanced before after [first] := by
  refine ⟨hkeeps, nofun, fun _ => ⟨last, _, hlast, h.isHome.isDirectory, h.readRecord, ?_, rfl⟩⟩
  exact LogRecord.isForced_force hm now _

/-- A forced record that is left alone stays. -/
theorem Advanced.undisturbed {a b c : Tree} {ids : List UInt64} (hab : log.Advanced a b ids)
    (hbc : log.Undisturbed b c) : log.Advanced a c ids := by
  refine ⟨hab.keeps.trans hbc.keeps, fun hnil => hbc.onFile.trans (hab.untouched hnil),
    fun hne => ?_⟩
  obtain ⟨last, record, hlast, hdir, hrecord, hforced, hid⟩ := hab.moved hne
  exact ⟨last, record, hlast, hbc.keeps.isDirectory hdir,
    (readRecord_congr (hbc.read hdir)).trans hrecord, hforced, hid⟩

/-- **One stretch after another.**  The second goes on from the entry that the first has left. -/
theorem Advanced.trans {a b c : Tree} {ids more : List UInt64} (hab : log.Advanced a b ids)
    (hbc : log.Advanced b c more) : log.Advanced a c (ids ++ more) := by
  by_cases hmore : more = []
  · rw [hmore, List.append_nil]
    exact hab.undisturbed ⟨hbc.untouched hmore, hbc.keeps⟩
  · refine ⟨hab.keeps.trans hbc.keeps, fun hnil => absurd (List.append_eq_nil_iff.1 hnil).2 hmore,
      fun _ => ?_⟩
    obtain ⟨last, record, hlast, hdir, hrecord, hforced, hid⟩ := hbc.moved hmore
    by_cases hids : ids = []
    · have hsame := lastEntry_of_onFile (hab.untouched hids)
      rw [hids, List.nil_append]
      exact ⟨last, record, hsame ▸ hlast, hdir, hrecord, hforced, hid⟩
    · obtain ⟨first, middle, hfirst, hdir', hmiddle, -, hid'⟩ := hab.moved hids
      -- what the first stretch has left is what the second finds
      have hfound : last = LogId.followed first ids := by
        rw [made_of_isDirectory hdir', lastEntry, hmiddle] at hlast
        exact (Except.ok.inj hlast).symm.trans hid'
      refine ⟨first, record, hfirst, hdir, hrecord, hforced, ?_⟩
      rw [hid, hfound, LogId.followed, LogId.followed, LogId.followed, List.foldl_append]

end LogDirectory

end QuorumRescue
