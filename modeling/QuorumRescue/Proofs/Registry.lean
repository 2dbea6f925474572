/-
  What a registry keeps.

  A registry is two files in a directory: all members, and the node's own record.  It is shared with
  other programs, so it must keep what it is given, exactly and in order, and leave the rest of the
  directory alone.

  1. **The specification** of a change to one file is `Tree.OnlyAt`: nothing is different but what is
     where the file's path leads.

  2. **One file.** Writing one of the two files puts its bytes where the file's path leads, or leaves
     the tree as it is (`onlyAt_of_writeFile`, `tree_of_writeFile_error`).  The bytes are there to be
     read afterwards (`readFile_of_writeFile`).  The other file has another name in the same directory,
     so it reads as before (`readFile_elsewhere`).  All four are about any file name and any way to
     decode what is in it.

  3. **The crux** is that the bytes are read as what they were written for, whatever the addresses are.
     That is the round trip of the YAML text, which is proved for itself.

  4. **The result** is `reads_back_what_was_set`, for any registry, tree, list and record.  The members
     of the example have addresses that need all forms of a scalar.
-/
import QuorumRescue.Proofs.Records
import QuorumRescue.Proofs.Site

namespace QuorumRescue

open QuorumRescue.Tree

/-! ## One file -/

/-- Nothing is different but what is where a path leads. -/
def Tree.OnlyAt (path : Path) (before after : Tree) : Prop :=
  (∃ place, before.locate path = .ok place
    ∧ ∀ other, other ≠ place → after.find? other = before.find? other)
  ∧ after.locked = before.locked

/-- The bytes that were put in the place of a file are read from it. -/
theorem Tree.read_put {tree : Tree} {path : Path} {place : Place} {content : ByteArray}
    (hl : tree.locate path = .ok place) (hd : tree.find? place ≠ some .directory) :
    (tree.put place (.file content)).read path = .ok content := by
  have hafter : (tree.put place (.file content)).locate path = .ok place :=
    locate_of_keeps (keepsDirectories_put hd) hl
  have hfile := @find?_put_self tree place (.file content) (isStart_of_find? hd)
  simp only [read, entryAt, hafter, hfile]

namespace RegistryDirectory

section

variable {registry : RegistryDirectory} {name other : String} {text : List Char} {tree after : Tree}
  {α : Type} {what : String} {decode : ByteArray → Except DecodeFault α}

/-- A write that succeeds puts the text where the file's path leads. -/
theorem exists_place_of_writeFile (h : registry.writeFile name text tree = (after, .ok ())) :
    ∃ place, tree.locate (registry.path.child name) = .ok place ∧ tree.find? place ≠ some .directory
      ∧ after = tree.put place (.file (String.ofList text).toUTF8) := by
  rcases registry.writeFile_cases name text tree with ⟨failure, heq⟩ | ⟨place, hl, hd, heq⟩
  · rw [heq] at h
    cases h
  · rw [heq] at h
    exact ⟨place, hl, hd, (congrArg Prod.fst h).symm⟩

/-- A write that fails changes nothing. -/
theorem tree_of_writeFile_error {failure : Failure}
    (h : registry.writeFile name text tree = (after, .error failure)) : after = tree := by
  rcases registry.writeFile_cases name text tree with ⟨failure, heq⟩ | ⟨place, -, -, heq⟩
  · rw [heq] at h
    exact (congrArg Prod.fst h).symm
  · rw [heq] at h
    cases h

/-- A write changes its own file only. -/
theorem onlyAt_of_writeFile (h : registry.writeFile name text tree = (after, .ok ())) :
    OnlyAt (registry.path.child name) tree after := by
  obtain ⟨place, hl, -, rfl⟩ := exists_place_of_writeFile h
  exact ⟨⟨place, hl, fun other hother => find?_put_of_ne hother⟩, rfl⟩

/-- What was written is read, if its bytes are those of a value. -/
theorem readFile_of_writeFile {value : α} (h : registry.writeFile name text tree = (after, .ok ()))
    (hdecode : decode (String.ofList text).toUTF8 = .ok value) :
    readFile what (registry.path.child name) decode after = .ok value := by
  obtain ⟨place, hl, hd, rfl⟩ := exists_place_of_writeFile h
  simp only [readFile, read_put hl hd, hdecode]

/-- A file with another name is read as before. -/
theorem readFile_elsewhere (h : registry.writeFile name text tree = (after, .ok ()))
    (hname : isPlainName name) (hother : isPlainName other) (hne : other ≠ name) :
    readFile what (registry.path.child other) decode after
      = readFile what (registry.path.child other) decode tree := by
  obtain ⟨place, hl, hd, rfl⟩ := exists_place_of_writeFile h
  have hread := read_elsewhere hname hother hne hl (keepsDirectories_put hd)
    fun p hp => @find?_put_of_ne tree place p (.file (String.ofList text).toUTF8) hp
  simp only [readFile, hread]

/-! ## Both files -/

/-- Members that were set are read back. -/
theorem members_of_setMembers {members : List Member}
    (h : registry.setMembers members tree = (after, .ok ())) : registry.members after = .ok members :=
  readFile_of_writeFile h (Registry.readCluster_clusterText members)

/-- So is a record that was set. -/
theorem info_of_setInfo {member : Member} (h : registry.setInfo member tree = (after, .ok ())) :
    registry.info after = .ok member :=
  readFile_of_writeFile h (Registry.readInfo_infoText member)

end

/-- **A registry reads back what was set**: any list of members and any record, exactly and in order.
Setting the one changes nothing but its own file, so the other is read as before.  If it fails, it
changes nothing at all. -/
theorem reads_back_what_was_set (registry : RegistryDirectory) (tree : Tree) :
    (∀ members after, registry.setMembers members tree = (after, .ok ()) →
      registry.members after = .ok members ∧ registry.info after = registry.info tree
        ∧ OnlyAt registry.clusterPath tree after)
    ∧ (∀ member after, registry.setInfo member tree = (after, .ok ()) →
      registry.info after = .ok member ∧ registry.members after = registry.members tree
        ∧ OnlyAt registry.infoPath tree after)
    ∧ (∀ members after failure, registry.setMembers members tree = (after, .error failure) →
      after = tree)
    ∧ ∀ member after failure, registry.setInfo member tree = (after, .error failure) →
      after = tree := by
  refine ⟨?_, ?_, ?_, ?_⟩
  · intro members after h
    have hinfo : registry.info after = registry.info tree :=
      readFile_elsewhere h isPlainName_clusterName isPlainName_infoName infoName_ne_clusterName
    exact ⟨members_of_setMembers h, hinfo, onlyAt_of_writeFile h⟩
  · intro member after h
    have hmembers : registry.members after = registry.members tree :=
      readFile_elsewhere h isPlainName_infoName isPlainName_clusterName infoName_ne_clusterName.symm
    exact ⟨info_of_setInfo h, hmembers, onlyAt_of_writeFile h⟩
  · intro members after failure h
    exact tree_of_writeFile_error h
  · intro member after failure h
    exact tree_of_writeFile_error h

/-- Members whose addresses need all forms of a scalar. -/
def awkwardMembers : List Member :=
  [⟨3, "10.0.0.1:17666", .voter⟩, ⟨3, "", .standby⟩, ⟨0, "null", .spare⟩,
    ⟨18446744073709551615, " it's: #1\n\n", .voter⟩, ⟨1, "two\nlines", .voter⟩, ⟨2, "\t\"\\\u0085", .spare⟩]

/-- They are read back, first in the file of all members and then as a record of one. -/
theorem reads_back_awkward : ∃ registry : RegistryDirectory,
    (∃ after, registry.setMembers awkwardMembers Tree.empty = (after, .ok ())
      ∧ registry.members after = .ok awkwardMembers ∧ registry.info after = registry.info Tree.empty
      ∧ OnlyAt registry.clusterPath Tree.empty after)
    ∧ ∀ member ∈ awkwardMembers, ∃ after,
      registry.setInfo member Tree.empty = (after, .ok ())
        ∧ registry.info after = .ok member ∧ registry.members after = registry.members Tree.empty
        ∧ OnlyAt registry.infoPath Tree.empty after := by
  have hhome : Tree.empty.IsHome ⟨"."⟩ ⟨false, []⟩ := .of_locate rfl rfl (by decide)
  obtain ⟨hmembers, hinfo, -, -⟩ := reads_back_what_was_set ⟨⟨"."⟩⟩ Tree.empty
  refine ⟨⟨⟨"."⟩⟩, ?_, fun member _ => ?_⟩
  · have hset := @writeFile_eq ⟨⟨"."⟩⟩ Tree.empty ⟨false, []⟩ hhome clusterName isPlainName_clusterName
      (Registry.clusterText awkwardMembers)
    rw [if_neg nofun] at hset
    exact ⟨_, hset, hmembers _ _ hset⟩
  · have hset := @writeFile_eq ⟨⟨"."⟩⟩ Tree.empty ⟨false, []⟩ hhome infoName isPlainName_infoName
      (Registry.infoText member)
    rw [if_neg nofun] at hset
    exact ⟨_, hset, hinfo _ _ hset⟩

end RegistryDirectory

end QuorumRescue
