/-
  Interrupted recoveries.

  A recovery can be interrupted anywhere, and it is said that it can then simply be run again.  This
  file says for each point of interruption what running it again comes to.  At one of them the saying is
  not true.

  1. **The specification.** A recovery that collapses the cluster makes missing directories, takes the
     lock, forces the log and writes the registry.  A `Cut` is a point in between, and `Cut.leaves` is
     the tree that is left there.  Both writes put a finished file in the place of the old one, so a cut
     during a write leaves the old file and, at most, a draft beside it.

  2. **The crux** is that a run reads the log, and nothing else, to find out what there is to do.  So
     there are two kinds of cuts.  Before the log is forced nothing has been lost: the directories go on
     to be made where that was interrupted (`makeDirectories_makeSome`), the lock and a draft are no
     obstacle (`Ready.locked`), and the run starts over (`recover_starts_over`).  Once the log is forced
     it has a single member, and nothing is left to do (`recover_ends_at_once`).  After both writes that
     is right.  Between them it is not: the registry is never written.

  3. **The result.** `recover_again_iff` says so for every cut.  The run that is run again succeeds, the
     log has the survivor alone, and the registry's file has the survivor too unless the cut was between
     the two writes, where it is right only if it was before.  `recover_again_leaves_registry` has a
     registry that lists two members for good after such a cut.
-/
import QuorumRescue.Proofs.Recovery

namespace QuorumRescue

/-! ## Parts of writes -/

namespace Tree

/-- The tree when directories have been made for the first names of a path. -/
def makeSome (tree : Tree) (path : Path) (count : Nat) : Tree :=
  match start path with
  | .error _ => tree
  | .ok here => (tree.makeAlong here (path.names.take count)).1

/-- **Making a directory goes on where it was interrupted.** What was made is there, and making what is
    there does nothing. -/
theorem makeDirectories_makeSome (tree : Tree) (path : Path) (count : Nat) :
    (tree.makeSome path count).makeDirectories path = tree.makeDirectories path := by
  unfold makeSome makeDirectories
  cases start path with
  | error fault => rfl
  | ok here => exact makeAlong_resume tree here path.names count

/-- A directory that is there after it was made has been made without a fault. -/
theorem makeDirectories_eq_ok {tree : Tree} {path : Path}
    (h : (tree.makeDirectories path).1.isDirectory path) :
    tree.makeDirectories path = ((tree.makeDirectories path).1, .ok ()) := by
  have hagain := makeDirectories_again tree path
  rw [makeDirectories_of_isDirectory h] at hagain
  exact hagain.symm

/-- The tree with a draft in a directory, if there was one, under a name that was free. -/
def withDraft (tree : Tree) (dir : Path) (draft : Option ByteArray) : Tree :=
  match draft, tree.locate (dir.child draftName) with
  | some bytes, .ok place =>
      if tree.find? place = none then tree.put place (.file bytes) else tree
  | _, _ => tree

theorem isPlainName_draftName : isPlainName draftName := by decide

/-- A draft is one more file in a home, or none. -/
theorem withDraft_cases {tree : Tree} {dir : Path} {home : Place} (h : tree.IsHome dir home)
    (draft : Option ByteArray) :
    tree.withDraft dir draft = tree
      ∨ ∃ bytes, tree.find? (home.child draftName) = none
          ∧ tree.withDraft dir draft = tree.put (home.child draftName) (.file bytes) := by
  cases draft with
  | none => exact Or.inl rfl
  | some bytes =>
    simp only [withDraft, h.inside draftName isPlainName_draftName]
    by_cases hf : tree.find? (home.child draftName) = none
    · exact Or.inr ⟨bytes, hf, if_pos hf⟩
    · exact Or.inl (if_neg hf)

/-- A draft has no say in the other files of a home. -/
theorem find?_withDraft {tree : Tree} {dir : Path} {home : Place} (h : tree.IsHome dir home)
    (draft : Option ByteArray) {name : String} (hname : name ≠ draftName) :
    (tree.withDraft dir draft).find? (home.child name) = tree.find? (home.child name) := by
  rcases withDraft_cases h draft with heq | ⟨bytes, -, heq⟩
  · rw [heq]
  · rw [heq, find?_put_of_ne (Place.child_ne hname)]

end Tree

/-- A draft has no say in the log either. -/
theorem LogDirectory.Holds.withDraft {log : LogDirectory} {tree : Tree} {home : Place}
    {record : LogRecord} (h : log.Holds tree home record) (draft : Option ByteArray) :
    log.Holds (tree.withDraft log.path draft) home record := by
  rcases Tree.withDraft_cases h.isHome draft with heq | ⟨bytes, hfree, heq⟩
  · rwa [heq]
  · rw [heq]
    have hd : tree.find? (home.child Tree.draftName) ≠ some .directory := by rw [hfree]; exact nofun
    exact h.of_elsewhere (by decide) (by decide) hd _

namespace Setup

open LogDirectory RegistryDirectory QuorumRescue.Tree

/-! ## Cuts -/

/-- The points at which a run that collapses the cluster can be interrupted: when some of the
missing directories have been made, when the log has been locked but not forced, when it has been
forced but the registry not written, be it that writing failed, and when all is done.  A draft is what
had been written of the next file. -/
inductive Cut
  | making (count : Nat)
  | locked (draft : Option ByteArray)
  | forced (draft : Option ByteArray)
  | registered

/-- Whether the log has been forced and the registry not yet written. -/
def Cut.isBetween : Cut → Bool
  | .forced _ => true
  | _ => false

/-- The tree that a run leaves that is cut off on its way to a list of members. -/
def Cut.leaves (setup : Setup) (now : String) (members : List Member) (tree : Tree) : Cut → Tree
  | .making count => tree.makeSome setup.dir count
  | .locked draft =>
      ((tree.makeDirectories setup.dir).1.tryLock setup.log.lockPath true).1.withDraft setup.dir draft
  | .forced draft =>
      (setup.log.force now members (tree.makeDirectories setup.dir).1).1.withDraft setup.dir draft
  | .registered =>
      (setup.registry.setMembers members
        (setup.log.force now members (tree.makeDirectories setup.dir).1).1).1

variable {setup : Setup} {now : String} {advertised : List String} {tree made forced : Tree}
  {home : Place} {record : LogRecord} {survivor : Member}

/-! ## Running again -/

/-- A tree on which a run for a survivor is done completely. -/
structure Ready (setup : Setup) (advertised : List String) (made : Tree) (home : Place)
    (record : LogRecord) (survivor : Member) : Prop
    extends Chosen setup advertised .live made home record survivor where
  room : made.find? (home.child clusterName) ≠ some .directory

/-- A recovery that was applied has found the tree ready, and leaves what it forced and registered. -/
theorem ready_of_applied {after : Site} {outcome : Outcome}
    (h : setup.recover now advertised .live (.inDirectory setup.dir tree) = (after, .ok outcome))
    (happlied : outcome.applied = true) : ∃ home record survivor forced,
      setup.Ready advertised (tree.makeDirectories setup.dir).1 home record survivor
        ∧ setup.Forced now (tree.makeDirectories setup.dir).1 home record survivor forced
        ∧ outcome.members = [{ survivor with role := .voter }]
        ∧ after = .inDirectory setup.dir (registered forced home outcome.members) := by
  obtain ⟨left, rfl, hcourse⟩ := course_of_recover h
  cases hcourse with
  | single => cases happlied
  | @done home record survivor forced chosen live force room =>
    rw [force.cluster] at room
    exact ⟨home, record, survivor, forced, ⟨chosen, room⟩, force, rfl, rfl⟩

/-- The registry's file is not different when a run is cut off between the two writes. -/
theorem Forced.read_between (h : setup.Forced now made home record survivor forced)
    (hhome : made.IsHome setup.dir home) (draft : Option ByteArray) :
    (forced.withDraft setup.dir draft).read setup.registry.clusterPath
      = made.read setup.registry.clusterPath := by
  have hdraft := (h.holds.withDraft draft).isHome
  refine hhome.read_congr hdraft isPlainName_clusterName ?_
  rw [find?_withDraft h.holds.isHome draft (by decide), h.cluster]

/-- The last cut is behind both writes. -/
theorem Forced.leaves_registered
    (h : setup.Forced now (tree.makeDirectories setup.dir).1 home record survivor forced)
    (hd : (tree.makeDirectories setup.dir).1.find? (home.child clusterName) ≠ some .directory) :
    Cut.registered.leaves setup now [{ survivor with role := .voter }] tree
      = registered forced home [{ survivor with role := .voter }] := by
  rw [Cut.leaves, h.force, RegistryDirectory.setMembers,
    writeFile_eq h.holds.isHome isPlainName_clusterName, if_neg (h.room hd)]
  rfl

/-- A run that is not interrupted comes to the last cut. -/
theorem recover_leaves_registered {after : Site} {outcome : Outcome}
    (h : setup.recover now advertised .live (.inDirectory setup.dir tree) = (after, .ok outcome))
    (happlied : outcome.applied = true) :
    after = .inDirectory setup.dir (Cut.registered.leaves setup now outcome.members tree) := by
  obtain ⟨home, record, survivor, forced, hready, hforced, hmembers, hafter⟩ :=
    ready_of_applied h happlied
  rw [hafter, hmembers, hforced.leaves_registered hready.room]

/-- **Where the tree is ready, a run starts over** and is done completely.  Nothing is known of the tree but
    that it is ready, so it does not matter how far an earlier run has come. -/
theorem recover_starts_over (hmake : tree.makeDirectories setup.dir = (made, .ok ()))
    (h : setup.Ready advertised made home record survivor) (later : String) : ∃ again result,
      setup.recover later advertised .live (.inDirectory setup.dir tree)
        = (.inDirectory setup.dir again, .ok result)
        ∧ setup.members .live (.inDirectory setup.dir again) = .ok [{ survivor with role := .voter }]
        ∧ again.read setup.registry.clusterPath
          = .ok (clusterBytes [{ survivor with role := .voter }]) := by
  obtain ⟨forced, hforced⟩ := exists_forced h.holds later survivor
  have hrecover := recover_of_collapse hmake h.toChosen hforced
  rw [if_neg h.room] at hrecover
  have hroom := hforced.room h.room
  refine ⟨_, _, hrecover, ?_, read_registered hforced.holds.isHome hroom _⟩
  rw [members_inDirectory h.inTime]
  exact readMembers_single (holds_registered hforced.holds hroom _) rfl

/-- Taking the lock and leaving a draft do not make the tree less ready. -/
theorem Ready.locked (h : setup.Ready advertised made home record survivor)
    (draft : Option ByteArray) :
    setup.Ready advertised ((made.tryLock setup.log.lockPath true).1.withDraft setup.dir draft) home
      record survivor := by
  obtain ⟨locked, htry, hholds, honly⟩ := h.holds.lock
  rw [htry]
  refine ⟨⟨h.inTime, hholds.withDraft draft, h.chosen⟩, ?_⟩
  rw [find?_withDraft hholds.isHome draft (by decide),
    honly.elsewhere _ (Place.child_ne clusterName_ne_lockName)]
  exact h.room

/-- Where the survivor is alone on record, a run ends at once. -/
theorem recover_ends_at_once {stored : StoredMembership}
    (h : setup.log.Holds tree home (.force now stored))
    (hstored : stored.membership = .single survivor.id survivor.address)
    (hlimit : setup.readLimit .live ≠ .expired) (later : String) (advertised : List String) :
    ∃ result,
      setup.recover later advertised .live (.inDirectory setup.dir tree)
        = (.inDirectory setup.dir tree, .ok result)
        ∧ setup.members .live (.inDirectory setup.dir tree)
          = .ok [{ survivor with role := .voter }] := by
  have hread := readMembers_single h hstored
  have hsingle := Except.ok.inj (h.readMembers.symm.trans hread)
  refine ⟨_, recover_of_settled h hsingle hlimit later advertised, ?_⟩
  rw [members_inDirectory hlimit, hread]

/-- **An interrupted run that is run again** succeeds, and the log has the survivor alone.  The
registry's file has the survivor too, unless the run was cut off between the two writes: then nothing
more is done, and the file is right only if it was before. -/
theorem recover_again_iff {after : Site} {outcome : Outcome}
    (h : setup.recover now advertised .live (.inDirectory setup.dir tree) = (after, .ok outcome))
    (happlied : outcome.applied = true) (cut : Cut) (later : String) : ∃ again result,
      setup.recover later advertised .live
          (.inDirectory setup.dir (cut.leaves setup now outcome.members tree)) = (again, .ok result)
        ∧ setup.members .live again = .ok outcome.members
        ∧ (cut.isBetween = true →
          again = .inDirectory setup.dir (cut.leaves setup now outcome.members tree))
        ∧ (again.tree.read setup.registry.clusterPath = .ok (clusterBytes outcome.members)
          ↔ cut.isBetween = false
            ∨ (tree.makeDirectories setup.dir).1.read setup.registry.clusterPath
              = .ok (clusterBytes outcome.members)) := by
  obtain ⟨home, record, survivor, forced, hready, hforced, hmembers, -⟩ := ready_of_applied h happlied
  have hmake := makeDirectories_eq_ok hready.holds.isHome.isDirectory
  rw [hmembers]
  cases cut with
  | making count =>
    -- the missing directories are made, and the run starts over
    have hagain := (makeDirectories_makeSome tree setup.dir count).trans hmake
    obtain ⟨again, result, hrecover, hread, hcluster⟩ := recover_starts_over hagain hready later
    exact ⟨_, result, hrecover, hread, nofun, iff_of_true hcluster (Or.inl rfl)⟩
  | locked draft =>
    -- the run depends neither on a lock that is free again nor on the draft
    have hlocked := hready.locked draft
    have hagain := makeDirectories_of_isDirectory hlocked.holds.isHome.isDirectory
    obtain ⟨again, result, hrecover, hread, hcluster⟩ := recover_starts_over hagain hlocked later
    exact ⟨_, result, hrecover, hread, nofun, iff_of_true hcluster (Or.inl rfl)⟩
  | forced draft =>
    -- the log has a single member, so the run ends before it comes to the registry
    have hleaves : (Cut.forced draft).leaves setup now [{ survivor with role := .voter }] tree
        = forced.withDraft setup.dir draft := by rw [Cut.leaves, hforced.force]
    have hholds := hforced.holds.withDraft draft
    have hcluster := hforced.read_between hready.holds.isHome draft
    obtain ⟨result, hrecover, hread⟩ :=
      recover_ends_at_once hholds rfl hready.inTime later advertised
    rw [hleaves]
    refine ⟨_, result, hrecover, hread, fun _ => rfl, ?_⟩
    constructor
    · exact fun hread => Or.inr (hcluster.symm.trans hread)
    · rintro (hfalse | hread)
      · cases hfalse
      · exact hcluster.trans hread
  | registered =>
    -- all is done, so there is nothing left to do
    have hroom := hforced.room hready.room
    have hholds := holds_registered hforced.holds hroom [{ survivor with role := .voter }]
    have hcluster := read_registered hforced.holds.isHome hroom [{ survivor with role := .voter }]
    obtain ⟨result, hrecover, hread⟩ :=
      recover_ends_at_once hholds rfl hready.inTime later advertised
    rw [hforced.leaves_registered hready.room]
    exact ⟨_, result, hrecover, hread, nofun, iff_of_true hcluster (Or.inl rfl)⟩

/-- Two members are collapsed after all when the first run was cut off before it forced the log. -/
theorem recover_again_iff_pair : ∃ after outcome,
    pairSetup.recover "" pairAdvertised .live
        (.inDirectory pairSetup.dir (pairTree (.file ByteArray.empty))) = (after, .ok outcome)
      ∧ outcome.applied = true
      ∧ ∃ again result,
        pairSetup.recover "" pairAdvertised .live (.inDirectory pairSetup.dir
            ((Cut.locked none).leaves pairSetup "" outcome.members (pairTree (.file ByteArray.empty))))
          = (again, .ok result)
        ∧ pairSetup.members .live again = .ok outcome.members
        ∧ ((Cut.locked none).isBetween = true → again = .inDirectory pairSetup.dir
          ((Cut.locked none).leaves pairSetup "" outcome.members (pairTree (.file ByteArray.empty))))
        ∧ (again.tree.read pairSetup.registry.clusterPath = .ok (clusterBytes outcome.members)
          ↔ (Cut.locked none).isBetween = false
            ∨ ((pairTree (.file ByteArray.empty)).makeDirectories pairSetup.dir).1.read
                pairSetup.registry.clusterPath = .ok (clusterBytes outcome.members)) := by
  obtain ⟨forced, -, hrecover⟩ := exists_recover_pair (.file ByteArray.empty)
  rw [if_neg nofun] at hrecover
  exact ⟨_, _, hrecover, rfl, recover_again_iff hrecover rfl (.locked none) ""⟩

/-- **Between the two writes an interruption is not made up for.**  Two members would be collapsed
and registered.  Cut off when the log has been forced, the run is run again without a complaint, and
the registry still lists both. -/
theorem recover_again_leaves_registry : ∃ after outcome again result,
    pairSetup.recover "" pairAdvertised .live
        (.inDirectory pairSetup.dir (pairTree (.file (clusterBytes pairMembers))))
        = (after, .ok outcome)
      ∧ outcome.applied = true
      ∧ after.tree.read pairSetup.registry.clusterPath = .ok (clusterBytes outcome.members)
      ∧ pairSetup.recover "" pairAdvertised .live (.inDirectory pairSetup.dir
          ((Cut.forced none).leaves pairSetup "" outcome.members
            (pairTree (.file (clusterBytes pairMembers))))) = (again, .ok result)
      ∧ again.tree.read pairSetup.registry.clusterPath = .ok (clusterBytes pairMembers)
      ∧ again.tree.read pairSetup.registry.clusterPath ≠ .ok (clusterBytes outcome.members) := by
  obtain ⟨forced, hforced, hrecover⟩ := exists_recover_pair (.file (clusterBytes pairMembers))
  rw [if_neg nofun] at hrecover
  have hfile : forced.find? (pairHome.child clusterName) = some (.file (clusterBytes pairMembers)) :=
    hforced.cluster.trans rfl
  have hroom : forced.find? (pairHome.child clusterName) ≠ some .directory := by
    rw [hfile]
    exact nofun
  have hmake := makeDirectories_of_isDirectory
    (holds_pairTree (.file (clusterBytes pairMembers))).isHome.isDirectory
  -- the cut leaves the tree that was forced, with the registry that lists both
  have hleaves : (Cut.forced none).leaves pairSetup "" [⟨1, "10.0.0.1:17666", .voter⟩]
      (pairTree (.file (clusterBytes pairMembers))) = forced := by
    rw [Cut.leaves, hmake, hforced.force]
    rfl
  have hboth : forced.read pairSetup.registry.clusterPath = .ok (clusterBytes pairMembers) :=
    (hforced.holds.isHome.read_eq_ok_iff isPlainName_clusterName).2 hfile
  obtain ⟨result, hagain, -⟩ :=
    recover_ends_at_once hforced.holds rfl (by decide) "" pairAdvertised
  refine ⟨_, _, .inDirectory pairSetup.dir forced, result, hrecover, rfl, ?_, ?_, hboth, ?_⟩
  · exact read_registered hforced.holds.isHome hroom _
  · rw [← hagain]
    exact congrArg _ (congrArg (Site.inDirectory pairSetup.dir) hleaves)
  · intro hone
    exact clusterBytes_ne_of_more _ _ [] (Except.ok.inj (hboth.symm.trans hone))

end Setup

end QuorumRescue
