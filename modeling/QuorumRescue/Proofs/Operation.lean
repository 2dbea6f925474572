/-
  Operations at a site.

  Everything that can be asked for at a site is an `Operation`, and a session is a list of them, each
  with the answer that it got.  Another instance may take or drop the log's lock in between, which is an
  operation too.  This file says what any of them does to the log; the induction over sessions then has
  a single step to go by.

  1. **The specification.** Who watches a session only sees answers.  They are enough to tell which
     operations have forced the log, and with whom as the first member (`Operation.forced`): a success
     does, and so does a failure of the step that comes after.

  2. **The crux** is that this is exactly what moves the log on (`perform_advanced`).  Forcing, setting
     the members and recovering are taken apart by the ways that they can go; what they do behind the
     force, to the registry, concerns other files.  All other operations leave the record on file as it
     is.

  3. **The step** is stated for any operation, on any tree, and with any answer.  The proof has one case
     for each operation, and each case is a lemma from above or from the file on what is on file.
-/
import QuorumRescue.Proofs.OnFile
import QuorumRescue.Proofs.Recovery

namespace QuorumRescue

/-! ## Another instance -/

namespace Tree

/-- Another instance takes the lock of a file, which it makes if it is missing, unless it is held. -/
def lockedElsewhere (tree : Tree) (path : Path) : Tree :=
  match tree.tryLock path true with
  | (tree, .taken) =>
      match tree.locate path with
      | .ok place => tree.withLocked (place :: tree.locked)
      | .error _ => tree
  | (tree, _) => tree

/-- Whoever held the lock of a file drops it. -/
def unlockedElsewhere (tree : Tree) (path : Path) : Tree :=
  match tree.locate path with
  | .ok place => tree.withLocked (tree.locked.filter fun p => p ≠ place)
  | .error _ => tree

end Tree

/-! ## Operations and their answers -/

/-- What can be asked for at a site. -/
inductive Operation
  | ensureDir
  | isExisting
  | isBootstrapped (deadline : Deadline)
  | members (deadline : Deadline)
  | readLog
  | registered
  | info
  | plan (advertised : List String) (deadline : Deadline)
  | recover (now : String) (advertised : List String) (deadline : Deadline)
  | force (now : String) (members : List Member)
  | setMembers (now : String) (members : List Member) (deadline : Deadline)
  | register (members : List Member)
  | setInfo (member : Member)
  | rewriteInfo (outcome : Outcome)
  | takeLock
  | dropLock

/-- What is answered. -/
inductive Answer
  | done
  | flag (flag : Bool)
  | members (members : List Member)
  | member (member : Member)
  | outcome (outcome : Outcome)

namespace Setup

/-- The site that an operation leaves, with what it tells as an answer. -/
def telling {α : Type} (tell : α → Answer) (result : Site × Except Failure α) :
    Site × Except Failure Answer := (result.1, result.2.map tell)

/-- Performs an operation.  A log that is read without a limit is waited for. -/
def perform (setup : Setup) (operation : Operation) (site : Site) : Site × Except Failure Answer :=
  match operation with
  | .ensureDir => telling (fun _ => .done) (setup.ensureDir site)
  | .isExisting => telling .flag (setup.isExisting site)
  | .isBootstrapped deadline => telling .flag (setup.isBootstrapped deadline site)
  | .members deadline => (site, (setup.members deadline site).map .members)
  | .readLog =>
      match (site.log.read site.tree).within .live with
      | some answer => (site, answer.map .members)
      | none => (site, .error (.deadlineExceeded .readMembership))
  | .registered => (site, site.registered.map .members)
  | .info => (site, site.info.map .member)
  | .plan advertised deadline => telling .outcome (setup.plan advertised deadline site)
  | .recover now advertised deadline =>
      telling .outcome (setup.recover now advertised deadline site)
  | .force now members => telling (fun _ => .done) (site.force now members)
  | .setMembers now members deadline =>
      telling (fun _ => .done) (site.setMembers now members deadline)
  | .register members => telling (fun _ => .done) (site.register members)
  | .setInfo member => telling (fun _ => .done) (site.setInfo member)
  | .rewriteInfo outcome => telling (fun _ => .done) (site.rewriteInfo outcome)
  | .takeLock =>
      ({ site with tree := site.tree.lockedElsewhere (LogDirectory.mk setup.dir).lockPath }, .ok .done)
  | .dropLock =>
      ({ site with tree := site.tree.unlockedElsewhere (LogDirectory.mk setup.dir).lockPath },
        .ok .done)

/-- Performs operations in turn; tells each of them with its answer. -/
def performAll (setup : Setup) :
    List Operation → Site → Site × List (Operation × Except Failure Answer)
  | [], site => (site, [])
  | operation :: rest, site =>
      match setup.perform operation site with
      | (site, answer) =>
          match setup.performAll rest site with
          | (site, told) => (site, (operation, answer) :: told)

/-- A session goes on where its first operation has left the site. -/
theorem performAll_cons {setup : Setup} {operation : Operation} {site middle : Site}
    {answer : Except Failure Answer} (h : setup.perform operation site = (middle, answer))
    (rest : List Operation) : setup.performAll (operation :: rest) site
      = ((setup.performAll rest middle).1, (operation, answer) :: (setup.performAll rest middle).2) := by
  simp only [performAll, h]

end Setup

/-- The first of the members that an operation has forced onto the log, as told by its answer.  A
failure of the registry's step comes when the log has been forced. -/
def Operation.forced (operation : Operation) (answer : Except Failure Answer) : Option UInt64 :=
  match operation, answer with
  | .force _ list, .ok _ => list.head?.map (·.id)
  | .setMembers _ list _, .ok _ => list.head?.map (·.id)
  | .setMembers _ list _, .error (.stepFailed .collapseRegistry _) => list.head?.map (·.id)
  | .recover _ _ _, .ok (.outcome outcome) =>
      if outcome.applied then some outcome.action.remaining.id else none
  | .recover _ _ _, .error (.stepFailed .collapseRegistry (.inconsistentState id _)) => some id
  | _, _ => none

/-- The forces in what was told, each by the first of the members. -/
def forcedIds (told : List (Operation × Except Failure Answer)) : List UInt64 :=
  told.flatMap fun entry => (entry.1.forced entry.2).toList

/-! ## Operations on disk -/

open QuorumRescue.Tree

namespace LogDirectory

/-- Another instance may make the lock file, and nothing else. -/
theorem undisturbed_lockedElsewhere (log : LogDirectory) (tree : Tree) :
    log.Undisturbed tree (tree.lockedElsewhere log.lockPath) := by
  have hlock := log.undisturbed_tryLock tree true
  obtain ⟨locked, answer, htry⟩ : ∃ locked answer,
      tree.tryLock log.lockPath true = (locked, answer) := ⟨_, _, rfl⟩
  rw [htry] at hlock
  rw [lockedElsewhere, htry]
  cases answer with
  | taken =>
    simp only
    split
    · exact hlock.trans (log.undisturbed_withLocked locked _)
    · exact hlock
  | noFile => exact hlock
  | heldElsewhere => exact hlock
  | failed fault => exact hlock

theorem undisturbed_unlockedElsewhere (log : LogDirectory) (tree : Tree) :
    log.Undisturbed tree (tree.unlockedElsewhere log.lockPath) := by
  rw [unlockedElsewhere]
  split
  · exact log.undisturbed_withLocked tree _
  · exact .refl log tree

/-- A force that succeeds moves the log on by one entry. -/
theorem advanced_of_force {log : LogDirectory} {tree after : Tree} {now : String}
    {members : List Member}
    (h : log.force now members tree = (after, .ok ())) :
    log.Advanced tree after (members.head?.map (·.id)).toList := by
  obtain ⟨home, first, rest, last, membership, rfl, hm, hhome, hlast, hholds, honly⟩ := force_eq_ok h
  have hmade : log.made tree = tree := made_of_isDirectory hhome.isDirectory
  exact hholds.advanced hm (by rw [hmade]; exact hlast)
    (honly.keepsDirectories (noDirectory_of_lastEntry hhome hlast))

end LogDirectory

namespace Setup

open LogDirectory RegistryDirectory

variable {setup : Setup} {tree after : Tree}

/-- The registry's files are none of the log's. -/
theorem undisturbed_register (setup : Setup) (members : List Member) (tree : Tree) :
    setup.log.Undisturbed tree (setup.registry.setMembers members tree).1 :=
  setup.log.undisturbed_writeFile isPlainName_clusterName clusterName_ne_recordName _ tree

theorem undisturbed_setInfo (setup : Setup) (member : Member) (tree : Tree) :
    setup.log.Undisturbed tree (setup.registry.setInfo member tree).1 :=
  setup.log.undisturbed_writeFile isPlainName_infoName infoName_ne_recordName _ tree

/-- Nor is the registry's file where it is known to have been put in its place. -/
theorem undisturbed_registered {home : Place} (h : tree.IsHome setup.dir home)
    (room : tree.find? (home.child clusterName) ≠ some .directory) (members : List Member) :
    setup.log.Undisturbed tree (registered tree home members) :=
  undisturbed_elsewhere isPlainName_clusterName clusterName_ne_recordName
    (h.inside clusterName isPlainName_clusterName) (keepsDirectories_put room)
    fun _ hp => find?_put_of_ne hp

/-- **Rewriting the node's own record leaves the log alone.** -/
theorem Rewriting.undisturbed {outcome : Outcome} {result : Except Failure Unit}
    (h : setup.Rewriting outcome tree after result) : setup.log.Undisturbed tree after := by
  cases h with
  | unneeded unapplied => exact .refl setup.log tree
  | blocked applied fails => exact .refl setup.log tree
  | done applied rewrites =>
    have hinfo := setup.undisturbed_setInfo outcome.action.remaining tree
    rwa [rewrites] at hinfo

/-- **Writing members moves the log on** unless it is refused, whatever becomes of the registry.  An answer
    that blames the registry's step tells that the step before was done. -/
theorem setMembers_advanced (setup : Setup) (now : String) (members : List Member)
    (deadline : Deadline) (tree : Tree) : ∃ after result,
    (Site.inDirectory setup.dir tree).setMembers now members deadline
        = (.inDirectory setup.dir after, result)
      ∧ setup.log.Advanced tree after
        ((Operation.setMembers now members deadline).forced (result.map fun _ => .done)).toList := by
  obtain ⟨after, result, hset, hwriting⟩ := setup.setMembers_writing now members deadline tree
  refine ⟨after, result, hset, ?_⟩
  cases hwriting with
  | late => exact (Undisturbed.refl setup.log tree).advanced
  | refused force => exact (undisturbed_of_force_error force).advanced
  | halfway force blocked => exact advanced_of_force force
  | @done forced left force register =>
    have hregistered := setup.undisturbed_register members forced
    rw [register] at hregistered
    exact (advanced_of_force force).undisturbed hregistered

/-- **A recovery moves the log on** when it has collapsed it, whether or not the registry follows.  The id
    is that of the survivor, who is named by the outcome or by the failure. -/
theorem recover_advanced (setup : Setup) (now : String) (advertised : List String)
    (deadline : Deadline) (tree : Tree) : ∃ after result,
    setup.recover now advertised deadline (.inDirectory setup.dir tree)
        = (.inDirectory setup.dir after, result)
      ∧ setup.log.Advanced tree after
        ((Operation.recover now advertised deadline).forced (result.map .outcome)).toList := by
  have hmade := (setup.log.undisturbed_made tree).advanced
  obtain ⟨after, result, hrecover, hcourse⟩ :=
    recover_course setup now advertised deadline tree
  refine ⟨after, result, hrecover, ?_⟩
  cases hcourse with
  | refused refusal =>
    obtain ⟨step, source, rfl, hreading, -⟩ := refusal
    cases step with
    | ensureDataDir | readMembership | resolveSurvivor => exact hmade
    | collapseLog | collapseRegistry | rewriteInfo => cases hreading
  | single => exact hmade
  | late => exact hmade
  | halfway chosen live force => exact hmade.trans (advanced_of_force force.force)
  | done chosen live force room =>
    exact (hmade.trans (advanced_of_force force.force)).undisturbed
      (undisturbed_registered force.holds.isHome room _)

/-! ## Any operation -/

/-- **What an operation does to the log, its answer tells.** The cases are the operations.  All but three of
    them leave what is on file, and for the three there are lemmas of their own. -/
theorem perform_advanced (setup : Setup) (operation : Operation) (tree : Tree) : ∃ after answer,
    setup.perform operation (.inDirectory setup.dir tree) = (.inDirectory setup.dir after, answer)
      ∧ setup.log.Advanced tree after (operation.forced answer).toList := by
  have hread := (Undisturbed.refl setup.log tree).advanced
  have hmade := (setup.log.undisturbed_made tree).advanced
  -- reading leaves the tree, asking and planning make the data directory, the rest writes
  cases operation with
  | members | registered | info => exact ⟨tree, _, rfl, hread⟩
  | readLog => exact ⟨tree, _, rfl, hread⟩
  | ensureDir => exact ⟨_, _, Prod.ext (fst_ensureDir setup tree) rfl, hmade⟩
  | isExisting => exact ⟨_, _, Prod.ext (fst_isExisting setup tree) rfl, hmade⟩
  | isBootstrapped deadline =>
    exact ⟨_, _, Prod.ext (fst_isBootstrapped setup deadline tree) rfl, hmade⟩
  | plan advertised deadline =>
    exact ⟨_, _, Prod.ext (fst_plan setup advertised deadline tree) rfl, hmade⟩
  | register members =>
    exact ⟨_, _, rfl, (setup.undisturbed_register members tree).advanced⟩
  | setInfo member => exact ⟨_, _, rfl, (setup.undisturbed_setInfo member tree).advanced⟩
  | rewriteInfo outcome =>
    obtain ⟨after, result, hrewrite, hrewriting⟩ := setup.rewriteInfo_rewriting outcome tree
    refine ⟨after, result.map fun _ => .done, ?_, hrewriting.undisturbed.advanced⟩
    simp only [perform, hrewrite, telling]
  | takeLock =>
    exact ⟨_, _, rfl, (setup.log.undisturbed_lockedElsewhere tree).advanced⟩
  | dropLock =>
    exact ⟨_, _, rfl, (setup.log.undisturbed_unlockedElsewhere tree).advanced⟩
  | recover now advertised deadline =>
    obtain ⟨after, result, hrecover, hadvanced⟩ :=
      setup.recover_advanced now advertised deadline tree
    exact ⟨after, _, by simp only [perform, hrecover, telling], hadvanced⟩
  | setMembers now members deadline =>
    obtain ⟨after, result, hset, hadvanced⟩ := setup.setMembers_advanced now members deadline tree
    exact ⟨after, _, by simp only [perform, hset, telling], hadvanced⟩
  | force now members =>
    obtain ⟨after, result, hforce⟩ : ∃ after result,
        setup.log.force now members tree = (after, result) := ⟨_, _, rfl⟩
    refine ⟨after, result.map fun _ => .done, ?_, ?_⟩
    · simp only [perform, force_inDirectory hforce, telling]
    · cases result with
      | error failure => exact (undisturbed_of_force_error hforce).advanced
      | ok done => exact advanced_of_force hforce

end Setup

end QuorumRescue
