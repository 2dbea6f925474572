/-
  The members that stand on record.

  An operator who sees a report about the log has seen other answers before, and has to know what they
  come to: whom the log lists now.  This file tells it from the answers alone.

  1. **The specification.** The answer to an operation tells whom it has forced, if anybody
     (`Operation.forcedMembers`).  So a session is followed on two levels: on disk, where trees change,
     and on paper, where each answer that tells of a force replaces the ids that were noted before
     (`standing`).  `Lists` ties the two together: the record can be trusted, and its nodes are those
     with the noted ids.

  2. **One operation** keeps it (`perform_lists`).  What an answer tells of a force is on record, since
     the operations that force have been taken apart by their ways (`lists_of_forcedMembers`), and an
     answer that tells of no force belongs to an operation that has left the record alone
     (`perform_advanced`).

  3. **The crux** is that nobody at the site keeps the lock.  Whether a list can be read is another
     matter than whether it is there, since somebody else may have the lock.  But whatever is asked for
     at the site itself gives the lock back, whether it succeeds or fails, so it stays free as long as
     no other instance takes it (`perform_free`).

  4. **Whole sessions.** Both are carried along a session by one induction, which has the shape of
     `standing` (`performAll_lists`).
-/
import QuorumRescue.Proofs.Operation

namespace QuorumRescue

open QuorumRescue.Tree LogDirectory RegistryDirectory

/-! ## Whom an operation has forced -/

/-- The ids of the members that an operation has forced onto the log, as told by its answer. -/
def Operation.forcedMembers (operation : Operation) (answer : Except Failure Answer) :
    Option (List UInt64) :=
  match operation, answer with
  | .force _ list, .ok _ => some (list.map (·.id))
  | .setMembers _ list _, .ok _ => some (list.map (·.id))
  | .setMembers _ list _, .error (.stepFailed .collapseRegistry _) => some (list.map (·.id))
  | .recover _ _ _, .ok (.outcome outcome) =>
      if outcome.applied then some [outcome.action.remaining.id] else none
  | .recover _ _ _, .error (.stepFailed .collapseRegistry (.inconsistentState id _)) => some [id]
  | _, _ => none

/-- The first of them is the one that the new entry is led by. -/
theorem Operation.forced_eq (operation : Operation) (answer : Except Failure Answer) :
    operation.forced answer = (operation.forcedMembers answer).bind List.head? := by
  cases operation with
  | force now list => cases answer <;> cases list <;> rfl
  | setMembers now list deadline =>
    cases answer with
    | ok answer => cases list <;> rfl
    | error failure =>
      cases failure with
      | stepFailed step source => cases step <;> cases list <;> rfl
      | _ => rfl
  | recover now advertised deadline =>
    cases answer with
    | ok answer =>
      cases answer with
      | outcome outcome =>
        show (if outcome.applied then _ else _) = Option.bind (if outcome.applied then _ else _) _
        cases outcome.applied <;> rfl
      | _ => rfl
    | error failure =>
      cases failure with
      | stepFailed step source => cases step <;> cases source <;> rfl
      | _ => rfl
  | _ => rfl

/-- The ids on record after a session, of which the answers are told, if there were `ids` before. -/
def standing (ids : List UInt64) : List (Operation × Except Failure Answer) → List UInt64
  | [] => ids
  | (operation, answer) :: rest => standing ((operation.forcedMembers answer).getD ids) rest

/-! ## What the log lists -/

namespace LogDirectory

variable {log : LogDirectory} {tree after : Tree} {ids : List UInt64} {home : Place}
  {record : LogRecord}

/-- The record can be trusted, and its nodes are those with some ids, of which there is one at
least. -/
structure Lists (log : LogDirectory) (tree : Tree) (ids : List UInt64) : Prop where
  directory : tree.isDirectory log.path
  recorded : ∃ record, log.readRecord tree = .ok record
    ∧ ∀ id, id ∈ record.stored.membership.nodes.ids ↔ id ∈ ids
  nonempty : ids ≠ []

/-- The ids of members are those of the nodes, in order. -/
theorem ids_members (membership : Membership) :
    membership.members.map (·.id) = membership.nodes.ids := by
  rw [Membership.members, List.map_map, IdMap.ids]
  rfl

/-- **A log lists whom it was forced to.** -/
theorem lists_of_force {now : String} {members : List Member}
    (h : log.force now members tree = (after, .ok ())) : log.Lists after (members.map (·.id)) := by
  obtain ⟨home, first, rest, last, membership, rfl, hm, -, -, hholds, -⟩ := force_eq_ok h
  obtain ⟨-, rfl⟩ := Membership.ofMembers?_eq_some_iff.1 hm
  refine ⟨hholds.isHome.isDirectory, ⟨_, hholds.readRecord, fun id => ?_⟩, by simp⟩
  exact Membership.mem_ids_nodesOf.trans List.mem_map.symm

/-- What does not disturb the record leaves the list. -/
theorem Lists.undisturbed (h : log.Lists tree ids) (hsame : log.Undisturbed tree after) :
    log.Lists after ids := by
  obtain ⟨record, hrecord, hids⟩ := h.recorded
  exact ⟨hsame.keeps.isDirectory h.directory,
    ⟨record, (readRecord_congr (hsame.read h.directory)).trans hrecord, hids⟩, h.nonempty⟩

/-! ## A lock that stays free -/

/-- The lock of a log that holds a record is free. -/
theorem Holds.free (h : log.Holds tree home record) : log.Free tree := by
  refine ⟨h.isHome.isDirectory, fun lock hl => ?_⟩
  obtain rfl := Except.ok.inj ((h.isHome.inside lockName isPlainName_lockName).symm.trans hl)
  exact h.unlocked

/-- The path of the lock leads to one place as long as directories stay. -/
theorem Free.of_keeps (h : log.Free tree) (hkeeps : KeepsDirectories tree after)
    (hlock : ∀ lock, tree.locate log.lockPath = .ok lock → Unlocked tree lock →
      Unlocked after lock) : log.Free after := by
  obtain ⟨home, hhome, hdir⟩ := isDirectory_iff.1 h.directory
  refine ⟨hkeeps.isDirectory h.directory, fun lock hl => ?_⟩
  have hsame : tree.locate log.lockPath = .ok lock := by
    rw [← hl, lockPath, locate_child hhome hdir isPlainName_lockName,
      locate_child (locate_of_keeps hkeeps hhome) (hkeeps home hdir) isPlainName_lockName]
  exact hlock lock hsame (h.unlocked lock hsame)

/-- A lock file that is made for a while is free again. -/
theorem Free.of_tryLock (h : log.Free tree) (create : Bool) :
    log.Free (tree.tryLock log.lockPath create).1 := by
  refine h.of_keeps (keepsDirectories_tryLock tree log.lockPath create) fun lock hl hfree => ?_
  rcases tree.tryLock_cases log.lockPath create with heq | ⟨place, hplace, hnone, heq⟩
  · rw [heq]
    exact hfree
  · obtain rfl := Except.ok.inj (hplace.symm.trans hl)
    have hself : (tree.create place).find? place = some (.file ByteArray.empty) :=
      find?_create_self (isStart_of_find? (by rw [hnone]; exact nofun))
    rw [heq]
    exact ⟨by rw [hself]; exact nofun, fun _ _ => by simp [Tree.create]⟩

/-- Another file of the directory is not the lock. -/
theorem Free.of_put (h : log.Free tree) {name : String} {place : Place} (hname : isPlainName name)
    (hne : name ≠ lockName) (hl : tree.locate (log.path.child name) = .ok place)
    (hd : tree.find? place ≠ some .directory) (content : ByteArray) :
    log.Free (tree.put place (.file content)) := by
  refine h.of_keeps (keepsDirectories_put hd) fun lock hlock hfree => ?_
  have hother : lock ≠ place := by
    obtain ⟨home, rfl, haround⟩ := exists_around hname hl
    rw [lockPath, haround tree (.refl tree) lockName isPlainName_lockName] at hlock
    split at hlock
    · cases hlock
    · obtain rfl := Except.ok.inj hlock
      exact Place.child_ne hne.symm
  have hsame : (tree.put place (.file content)).find? lock = tree.find? lock :=
    find?_put_of_ne hother
  refine ⟨by rw [hsame]; exact hfree.noDirectory, fun found hfound => ?_⟩
  rw [hsame] at hfound
  exact hfree.free found hfound

theorem Free.of_writeFile (h : log.Free tree) {name : String} (hname : isPlainName name)
    (hne : name ≠ lockName) (text : List Char) :
    log.Free ((RegistryDirectory.mk log.path).writeFile name text tree).1 := by
  rcases (RegistryDirectory.mk log.path).writeFile_cases name text tree with ⟨failure, heq⟩
    | ⟨place, hl, hd, heq⟩
  · rw [heq]
    exact h
  · rw [heq]
    exact h.of_put hname hne hl hd _

/-- Dropping a lock leaves it free. -/
theorem Free.of_unlockedElsewhere (h : log.Free tree) :
    log.Free (tree.unlockedElsewhere log.lockPath) := by
  rw [Tree.unlockedElsewhere]
  split
  · next place hplace =>
    refine h.of_keeps (.refl tree) fun lock _ hfree => ⟨hfree.noDirectory, fun content hc => ?_⟩
    intro hmem
    exact hfree.free content hc (List.mem_filter.1 hmem).1
  · exact h

/-- Forcing gives the lock back, whether or not it succeeds. -/
theorem Free.of_force {now : String} {members : List Member} {result : Except Failure Unit}
    (h : log.Free tree) (hforce : log.force now members tree = (after, result)) :
    log.Free after := by
  cases result with
  | error failure =>
    rcases tree_of_force_error hforce with rfl | rfl
    · exact h
    · exact h.of_tryLock true
  | ok done =>
    obtain ⟨home, first, rest, last, membership, -, -, -, -, hholds, -⟩ := force_eq_ok hforce
    exact hholds.free

end LogDirectory

namespace Setup

variable {setup : Setup} {tree after : Tree} {ids : List UInt64}

/-! ## One operation -/

/-- **What an answer tells of a force is on record.** The cases are the three operations that force, by
    their ways; in the ways that force nothing the answer does not tell of a force. -/
theorem lists_of_forcedMembers {operation : Operation} {answer : Except Failure Answer}
    (h : setup.perform operation (.inDirectory setup.dir tree)
      = (.inDirectory setup.dir after, answer))
    (hforced : operation.forcedMembers answer = some ids) : setup.log.Lists after ids := by
  cases operation with
  | force now members =>
    obtain ⟨left, result, hforce⟩ : ∃ left result,
        setup.log.force now members tree = (left, result) := ⟨_, _, rfl⟩
    simp only [perform, force_inDirectory hforce, telling] at h
    obtain ⟨hsite, rfl⟩ := Prod.mk.inj h
    obtain rfl : left = after := congrArg Site.tree hsite
    cases result with
    | error failure => cases hforced
    | ok done =>
      obtain rfl := Option.some.inj hforced
      exact lists_of_force hforce
  | setMembers now members deadline =>
    obtain ⟨left, result, hset, hwriting⟩ := setup.setMembers_writing now members deadline tree
    simp only [perform, hset, telling] at h
    obtain ⟨hsite, rfl⟩ := Prod.mk.inj h
    obtain rfl : left = after := congrArg Site.tree hsite
    cases hwriting with
    | late => cases hforced
    | refused => cases hforced
    | halfway force blocked =>
      obtain rfl := Option.some.inj hforced
      exact lists_of_force force
    | @done forced _ force register =>
      obtain rfl := Option.some.inj hforced
      have hregistered := setup.undisturbed_register members forced
      rw [register] at hregistered
      exact (lists_of_force force).undisturbed hregistered
  | recover now advertised deadline =>
    obtain ⟨left, result, hrecover, hcourse⟩ :=
      setup.recover_course now advertised deadline tree
    simp only [perform, hrecover, telling] at h
    obtain ⟨hsite, rfl⟩ := Prod.mk.inj h
    obtain rfl : left = after := congrArg Site.tree hsite
    cases hcourse with
    -- a refusal comes from a reading step, so its answer tells of no force
    | refused refusal =>
      obtain ⟨step, source, rfl, hreading, -⟩ := refusal
      cases step with
      | ensureDataDir | readMembership | resolveSurvivor => cases hforced
      | collapseLog | collapseRegistry | rewriteInfo => cases hreading
    | single => cases hforced
    | late => cases hforced
    | halfway chosen live force =>
      obtain rfl := Option.some.inj hforced
      exact lists_of_force force.force
    -- the registry is written behind the force, and does not touch what is on file
    | done chosen live force room =>
      obtain rfl := Option.some.inj hforced
      exact (lists_of_force force.force).undisturbed
        (undisturbed_registered force.holds.isHome room _)
  -- no other answer tells of a force
  | _ => cases hforced

/-- **One operation** leaves whom it has forced, or else those who were there before.  Which of the two it
    is can be told from the answer. -/
theorem perform_lists (setup : Setup) (operation : Operation) (h : setup.log.Lists tree ids) :
    ∃ after answer,
      setup.perform operation (.inDirectory setup.dir tree) = (.inDirectory setup.dir after, answer)
        ∧ setup.log.Lists after ((operation.forcedMembers answer).getD ids) := by
  obtain ⟨after, answer, hperform, hadvanced⟩ := setup.perform_advanced operation tree
  refine ⟨after, answer, hperform, ?_⟩
  cases hforced : operation.forcedMembers answer with
  | some others => exact lists_of_forcedMembers hperform hforced
  | none =>
    have hnone : operation.forced answer = none := by rw [operation.forced_eq, hforced]; rfl
    rw [hnone] at hadvanced
    exact h.undisturbed ⟨hadvanced.untouched rfl, hadvanced.keeps⟩

/-- The registry's files are none of the lock's. -/
theorem free_of_register {members : List Member} {result : Except Failure Unit}
    (h : setup.log.Free tree)
    (hset : setup.registry.setMembers members tree = (after, result)) : setup.log.Free after := by
  have hwritten : setup.log.Free (setup.registry.setMembers members tree).1 :=
    h.of_writeFile isPlainName_clusterName clusterName_ne_lockName _
  rwa [hset] at hwritten

theorem free_of_setInfo {member : Member} {result : Except Failure Unit} (h : setup.log.Free tree)
    (hset : setup.registry.setInfo member tree = (after, result)) : setup.log.Free after := by
  have hwritten : setup.log.Free (setup.registry.setInfo member tree).1 :=
    h.of_writeFile isPlainName_infoName infoName_ne_lockName _
  rwa [hset] at hwritten

/-- **No operation at the site keeps the lock.** The cases are the operations.  A lock file may be made on
    the way, but it is free when the operation has ended. -/
theorem perform_free (setup : Setup) {operation : Operation} (h : setup.log.Free tree)
    (hne : operation ≠ .takeLock) :
    setup.log.Free (setup.perform operation (.inDirectory setup.dir tree)).1.tree := by
  have hmade : (tree.makeDirectories setup.dir).1 = tree := made_of_isDirectory h.directory
  cases operation with
  | members | readLog | registered | info => exact h
  -- the directory is there, so making it changes nothing; this goes for all that begins with it
  | ensureDir =>
    show setup.log.Free (setup.ensureDir (.inDirectory setup.dir tree)).1.tree
    rw [fst_ensureDir, hmade]
    exact h
  | isExisting =>
    show setup.log.Free (setup.isExisting (.inDirectory setup.dir tree)).1.tree
    rw [fst_isExisting, hmade]
    exact h
  | isBootstrapped deadline =>
    show setup.log.Free (setup.isBootstrapped deadline (.inDirectory setup.dir tree)).1.tree
    rw [fst_isBootstrapped, hmade]
    exact h
  | plan advertised deadline =>
    show setup.log.Free (setup.plan advertised deadline (.inDirectory setup.dir tree)).1.tree
    rw [fst_plan, hmade]
    exact h
  | register members => exact free_of_register h rfl
  | setInfo member => exact free_of_setInfo h rfl
  | takeLock => exact absurd rfl hne
  | dropLock => exact h.of_unlockedElsewhere
  -- what forces the log takes the lock and gives it back, whichever way it goes
  | force now members =>
    obtain ⟨left, result, hforce⟩ : ∃ left result,
        setup.log.force now members tree = (left, result) := ⟨_, _, rfl⟩
    simp only [perform, force_inDirectory hforce, telling]
    exact h.of_force hforce
  | setMembers now members deadline =>
    obtain ⟨left, result, hset, hwriting⟩ := setup.setMembers_writing now members deadline tree
    simp only [perform, hset, telling]
    cases hwriting with
    | late => exact h
    | refused force => exact h.of_force force
    | halfway force blocked => exact h.of_force force
    | done force register => exact free_of_register (h.of_force force) register
  | rewriteInfo outcome =>
    obtain ⟨left, result, hrewrite, hrewriting⟩ := setup.rewriteInfo_rewriting outcome tree
    simp only [perform, hrewrite, telling]
    cases hrewriting with
    | unneeded unapplied => exact h
    | blocked applied fails => exact h
    | done applied rewrites => exact free_of_setInfo h rewrites
  | recover now advertised deadline =>
    obtain ⟨left, result, hrecover, hcourse⟩ :=
      setup.recover_course now advertised deadline tree
    simp only [perform, hrecover, telling]
    rw [hmade] at hcourse
    cases hcourse with
    | refused refusal => exact h
    | single => exact h
    | late => exact h
    | halfway chosen live force => exact force.holds.free
    | done chosen live force room => exact (holds_registered force.holds room _).free

/-! ## Whole sessions -/

/-- **A session leaves on record whom it has forced last**, as its answers tell, or else those who were
there before.  The lock stays free unless another instance takes it. -/
theorem performAll_lists (setup : Setup) (operations : List Operation)
    (h : setup.log.Lists tree ids) : ∃ after told,
      setup.performAll operations (.inDirectory setup.dir tree) = (.inDirectory setup.dir after, told)
        ∧ setup.log.Lists after (standing ids told)
        ∧ (setup.log.Free tree → .takeLock ∉ operations → setup.log.Free after) := by
  induction operations generalizing tree ids with
  | nil => exact ⟨tree, [], rfl, h, fun hfree _ => hfree⟩
  | cons operation rest ih =>
    obtain ⟨middle, answer, hfirst, hlists⟩ := setup.perform_lists operation h
    obtain ⟨after, told, hrest, hlast, hstays⟩ := ih hlists
    refine ⟨after, (operation, answer) :: told, ?_, hlast, fun hfree hnone => ?_⟩
    · rw [performAll_cons hfirst, hrest]
    · obtain ⟨hne, hnone⟩ := not_or.1 (mt List.mem_cons.2 hnone)
      have hmiddle := setup.perform_free hfree (Ne.symm hne)
      rw [hfirst] at hmiddle
      exact hstays hmiddle hnone

end Setup

end QuorumRescue
