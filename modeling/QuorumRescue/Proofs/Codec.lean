/-
  Records of any origin.

  Forcing only ever writes records of one set of voters.  But the record that it finds was written by
  the consensus log itself, and that one writes others: while a membership is being changed there are
  two sets of voters, a log that was never started has none, and the id of the entry may be missing.  A
  record that recovery could not read for such a reason would be refused just when it is needed.

  1. **The statement** (`LogRecord.reads_as_written`) is about every value of the record: any sets,
     empty ones and several of them, nodes under any ids up to the highest, addresses with any
     characters, and any text in the place of the checksum.  Its file is indented and its checksum is
     taken over a compact text, so two forms are read back by one reader.

  2. **Acceptance.** A record of the version that is read, with the checksum of its own membership, is
     accepted in any directory whose lock is free.  Every node in it is listed once, in the order of
     ids, under its address, and as a voter if any set has it.

  3. **The crux** lies below, in `Proofs.Record` and `Proofs.Json.Written`: that reading undoes writing
     for all values and all layouts.  Here it is combined with what it takes to get at a file: a log
     that has its record on file and nobody's lock `Holds` it (`LogDirectory.Free.holds`), and a log
     that holds a record lists its members.

  4. **An awkward record** shows that nothing was left out by accident: two sets at once, beside one
     without any, a node in none of them, the highest id, addresses that have to be escaped, and no
     entry.
-/
import QuorumRescue.Proofs.Log
import QuorumRescue.Proofs.Membership

namespace QuorumRescue

open LogDirectory

/-! ## Records that are accepted -/

/-- Where the lock is free, a record that can be trusted is read. -/
theorem LogDirectory.Free.holds {log : LogDirectory} {tree : Tree} {bytes : ByteArray}
    {record : LogRecord} (h : log.Free tree) (hread : tree.read log.recordPath = .ok bytes)
    (htrusted : LogRecord.trusted bytes = .ok record) : ∃ home, log.Holds tree home record := by
  obtain ⟨place, hl⟩ := Tree.exists_locate_of_read hread
  obtain ⟨home, hhome, -, hfree⟩ := h.exists_home hl
  have hfile := (hhome.read_eq_ok_iff isPlainName_recordName).1 hread
  exact ⟨home, hhome, ⟨bytes, hfile, htrusted⟩, hfree⟩

/-- A record that cannot be trusted is reported with its damage. -/
theorem LogDirectory.Free.readMembers_of_damage {log : LogDirectory} {tree : Tree}
    {bytes : ByteArray} {damage : Damage} (h : log.Free tree)
    (hread : tree.read log.recordPath = .ok bytes)
    (hdamage : LogRecord.trusted bytes = .error damage) :
    log.readMembers tree = .error (.corruption log.recordPath.text damage) := by
  obtain ⟨place, hl⟩ := Tree.exists_locate_of_read hread
  obtain ⟨home, hhome, -, hfree⟩ := h.exists_home hl
  rw [readMembers_of_located h.directory (hhome.inside lockName isPlainName_lockName) hfree,
    LogDirectory.readRecord, hread]
  simp only [hdamage, Except.map]

/-- The members of a membership, one for each node. -/
theorem Membership.members_eq (membership : Membership) : membership.members
    = membership.nodes.entries.map fun e =>
      ⟨e.1, e.2, if ∃ voters ∈ membership.configs, e.1 ∈ voters.ids then .voter else .standby⟩ := by
  simp only [members, hasVote_iff]

/-- **A record is read as it was written**, whatever it says; and so is the membership in it, from the
text that the checksum covers.  If the record is of the version that is read and its checksum is that
of its membership, then a log with a free lock that has it on file lists the nodes in the order of
their ids, each under its address, and those are voters that are in any of the sets. -/
theorem LogRecord.reads_as_written (record : LogRecord) :
    ofBytes record.toBytes = .ok record
      ∧ Json.decode StoredMembership.ofDraft record.stored.toJson.compact = .ok record.stored
      ∧ (record.format = 1 → record.checksum = Digest.sha256 record.stored.toJson.compact →
        ∀ (log : LogDirectory) (tree : Tree), log.Free tree →
          tree.read log.recordPath = .ok record.toBytes →
          log.readMembers tree = .ok (record.stored.membership.nodes.entries.map fun e =>
              ⟨e.1, e.2, if ∃ voters ∈ record.stored.membership.configs, e.1 ∈ voters.ids
                then .voter else .standby⟩)
            ∧ record.stored.membership.nodes.entries.Pairwise fun a b => a.1 < b.1) := by
  refine ⟨ofBytes_toBytes record, record.stored.decode_compact, ?_⟩
  intro hformat hsum log tree hfree hread
  refine ⟨?_, record.stored.membership.nodes.increasing⟩
  obtain ⟨home, hholds⟩ := hfree.holds hread
    (trusted_eq_ok_iff.2 ⟨ofBytes_toBytes record, hformat, hsum⟩)
  rw [hholds.readMembers, Membership.members_eq]

/-! ## A joint membership

Two sets of voters at once, beside one without any; a node that is in none of them; the highest id
there is; addresses that have to be escaped; and no entry. -/

/-- A log in a directory of its own. -/
def loneLog : LogDirectory := ⟨⟨"raft"⟩⟩

def loneHome : Place := ⟨false, ["raft"]⟩

/-- Its directory, with nothing but a file in the place of the record. -/
def loneTree (bytes : ByteArray) : Tree :=
  ⟨[(loneHome, .directory), (loneHome.child recordName, .file bytes)], []⟩

theorem isHome_loneTree (bytes : ByteArray) : (loneTree bytes).IsHome loneLog.path loneHome :=
  .of_locate rfl rfl (by decide)

theorem free_loneTree (bytes : ByteArray) : loneLog.Free (loneTree bytes) := by
  refine ⟨(isHome_loneTree bytes).isDirectory, fun lock hl => ?_⟩
  obtain rfl := Except.ok.inj
    (((isHome_loneTree bytes).inside lockName isPlainName_lockName).symm.trans hl)
  exact ⟨nofun, fun _ _ => nofun⟩

theorem read_loneTree (bytes : ByteArray) :
    (loneTree bytes).read loneLog.recordPath = .ok bytes :=
  ((isHome_loneTree bytes).read_eq_ok_iff isPlainName_recordName).2 rfl

/-- A membership in the middle of a change. -/
def jointMembership : StoredMembership where
  logId := none
  membership := {
    configs := [.ofList [1, 18446744073709551615], .ofList [], .ofList [3, 1]]
    nodes := .ofList [(18446744073709551615, "\"größe\"\t\\😀"), (2, ""), (3, "\x01\n"), (1, "a:1")] }

def jointRecord : LogRecord := ⟨1, false, none, jointMembership, jointMembership.checksum⟩

/-- It is read back, and accepted. -/
theorem reads_as_written_joint :
    LogRecord.ofBytes jointRecord.toBytes = .ok jointRecord
      ∧ loneLog.readMembers (loneTree jointRecord.toBytes)
        = .ok [⟨1, "a:1", .voter⟩, ⟨2, "", .standby⟩, ⟨3, "\x01\n", .voter⟩,
            ⟨18446744073709551615, "\"größe\"\t\\😀", .voter⟩] := by
  obtain ⟨hback, -, haccepted⟩ := jointRecord.reads_as_written
  obtain ⟨hmembers, -⟩ := haccepted rfl rfl loneLog (loneTree jointRecord.toBytes)
    (free_loneTree _) (read_loneTree _)
  exact ⟨hback, hmembers⟩

end QuorumRescue
