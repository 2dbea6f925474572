/-
  A list that has been forced is read back.

  Forcing writes a membership over the one in the log, whatever that was.  What has been written is only
  of use if it is found again: in the order of the ids, each id once, with nobody lost who could vote.

  1. **What a membership keeps** of a list is `Membership.Keeps`: nobody twice, the last address of each
     id, a voter for each that was a voter anywhere, no spares, and ids that ascend.

  2. **The crux** is what a successful force leaves (`force_eq_ok`): the directory is a home, its lock
     was free, the record that was there before could be trusted, and now the log holds the record of
     the list that was forced.  To hold a record is to be read as it (`Holds.readMembers`), so neither
     the codec nor the checksum occurs here.

  3. **The result.** The next reading gives what a membership keeps of the list.  What a reading gives
     has that form already, so forcing it again changes nothing in what is read
     (`readMembers_of_force`).
-/
import QuorumRescue.Proofs.Log
import QuorumRescue.Proofs.Membership

namespace QuorumRescue

namespace LogDirectory

/-! ## Reading back -/

/-- **Reading undoes forcing**, up to what a membership keeps of a list; and where a list with a voter
has just been read, forcing it succeeds and the same list is read again. -/
theorem readMembers_of_force (log : LogDirectory) (now : String) :
    (∀ members tree after, log.force now members tree = (after, .ok ()) →
      ∃ kept, log.readMembers after = .ok kept ∧ Membership.Keeps members kept)
    ∧ ∀ members tree, log.readMembers tree = .ok members → (∃ m ∈ members, m.role = .voter) →
      ∃ after, log.force now members tree = (after, .ok ())
        ∧ log.readMembers after = .ok members := by
  constructor
  · intro members tree after h
    obtain ⟨home, first, rest, last, membership, -, hm, -, -, hholds, -⟩ := force_eq_ok h
    exact ⟨membership.members, hholds.readMembers, Membership.keeps_members hm⟩
  · intro members tree hread hvoter
    obtain ⟨home, record, hholds, hmembers⟩ := readMembers_eq_ok_iff.1 hread
    have hm := Membership.ofMembers?_eq_some_iff.2 ⟨hvoter, rfl⟩
    -- what was read is in the form that is kept
    have hself : Membership.Keeps members members :=
      hmembers ▸ Membership.keeps_self record.stored.membership
    have hkept := (Membership.keeps_members hm).unique hself
    cases members with
    | nil => obtain ⟨m, hmem, -⟩ := hvoter; cases hmem
    | cons first rest =>
      obtain ⟨after, hforce, hafter, -⟩ := force_of_holds hholds now hm
      exact ⟨after, hforce, hafter.readMembers.trans (congrArg Except.ok hkept)⟩

/-! ## An example -/

/-- An empty directory. -/
def emptyTree : Tree := ⟨[(⟨false, ["raft"]⟩, .directory)], []⟩

/-- A list that is out of order and names an id twice. -/
def unordered : List Member := [⟨2, "b:1", .spare⟩, ⟨1, "a:1", .voter⟩, ⟨2, "c:1", .standby⟩]

/-- What is kept of it. -/
def ordered : List Member := [⟨1, "a:1", .voter⟩, ⟨2, "c:1", .standby⟩]

theorem ofMembers?_unordered : ∃ membership, Membership.ofMembers? unordered = some membership
    ∧ membership.members = ordered := ⟨_, rfl, rfl⟩

/-- An empty log is forced to the first list, read, and forced to what was read. -/
theorem readMembers_of_force_unordered : ∃ after,
    (LogDirectory.mk ⟨"raft"⟩).force "" unordered emptyTree = (after, .ok ())
      ∧ (∃ kept, (LogDirectory.mk ⟨"raft"⟩).readMembers after = .ok kept
        ∧ Membership.Keeps unordered kept)
      ∧ ∃ again, (LogDirectory.mk ⟨"raft"⟩).force "" ordered after = (again, .ok ())
        ∧ (LogDirectory.mk ⟨"raft"⟩).readMembers again = .ok ordered := by
  have hhome : emptyTree.IsHome ⟨"raft"⟩ ⟨false, ["raft"]⟩ := .of_locate rfl rfl (by decide)
  obtain ⟨membership, hm, hmembers⟩ := ofMembers?_unordered
  obtain ⟨after, hforce⟩ := @exists_force ⟨⟨"raft"⟩⟩ _ _ hhome ⟨nofun, nofun⟩ _ rfl "" _ _ _ hm
  have hread : (LogDirectory.mk ⟨"raft"⟩).readMembers after = .ok ordered := by
    obtain ⟨_, _, _, _, membership', -, hm', -, -, hholds, -⟩ := force_eq_ok hforce
    obtain rfl := Option.some.inj (hm.symm.trans hm')
    exact hholds.readMembers.trans (congrArg Except.ok hmembers)
  have hvoter : ∃ m ∈ ordered, m.role = .voter := ⟨_, List.mem_cons_self, rfl⟩
  exact ⟨after, hforce, (readMembers_of_force _ "").1 _ _ _ hforce,
    (readMembers_of_force _ "").2 _ _ hread hvoter⟩

end LogDirectory

end QuorumRescue
