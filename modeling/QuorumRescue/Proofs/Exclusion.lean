/-
  A log that another instance has locked.

  A running instance holds the lock of its log.  As long as it does, a recovery must not get at the log,
  and neither may anything else that needs it; and when the lock is dropped, nothing must have come of
  the attempts.

  1. **The specification.** `Held` says that the lock's file is in the log's directory and locked by
     somebody else.  `needsLog` tells the operations that read or force the log, and `refusal` has the
     reason that each of them fails for: the lock is held, unless its time was over before that could be
     seen, or there was nobody to force in the first place.

  2. **One operation.** Reading fails as soon as the lock has been tried, and so does all that reads
     first: planning, recovering, asking for the first node.  Forcing fails at the same point, and the
     registry is not written before the log has been forced.  So the site is left exactly as it was, and
     not only its files (`perform_held`).

  3. **A session.** The induction is on the operations that are tried.  Since each of them leaves the
     very same site, the log is still held before the next one, and nothing else has to be carried
     along.

  4. **The result.** Any number of such operations leaves the site as it is, and when the lock is
     dropped the session goes on in the tree in which nobody ever had it (`released`), with the answers
     that it would have had there (`performAll_held`).
-/
import QuorumRescue.Proofs.Operation

namespace QuorumRescue

open QuorumRescue.Tree

/-! ## A lock that is held -/

/-- The same tree, where nobody has locked the file at a place. -/
def Tree.released (tree : Tree) (place : Place) : Tree :=
  tree.withLocked (tree.locked.filter fun p => p ≠ place)

namespace LogDirectory

/-- Another instance holds the lock of a log: the lock's file is in the log's directory, and it is
locked. -/
structure Held (log : LogDirectory) (tree : Tree) (lock : Place) : Prop where
  directory : tree.isDirectory log.path
  located : tree.locate log.lockPath = .ok lock
  present : ∃ content, tree.find? lock = some (.file content)
  locked : lock ∈ tree.locked

variable {log : LogDirectory} {tree : Tree} {lock : Place}

/-- Trying for the lock shows who has it, whether or not a missing file would be made. -/
theorem Held.tryLock (h : log.Held tree lock) (create : Bool) :
    tree.tryLock log.lockPath create = (tree, .heldElsewhere) := by
  obtain ⟨content, hfile⟩ := h.present
  have hheld : tree.locked.contains lock = true := List.contains_iff_mem.2 h.locked
  simp only [Tree.tryLock, h.located, hfile, hheld, if_true]

/-- The log cannot be read. -/
theorem Held.readMembers (h : log.Held tree lock) :
    log.readMembers tree = .error (log.unavailable .lockHeld) := by
  rw [LogDirectory.readMembers, if_pos h.directory, h.tryLock false]

/-- Why members are not forced onto a log that another instance holds.  That there are none is seen
first. -/
def refusedForce (log : LogDirectory) : List Member → Failure
  | [] => .internal .emptyMembership
  | _ :: _ => .inUse log.path.text

/-- Nor can it be forced. -/
theorem Held.force (h : log.Held tree lock) (now : String) (members : List Member) :
    log.force now members tree = (tree, .error (log.refusedForce members)) := by
  cases members with
  | nil => rfl
  | cons first rest =>
    rw [LogDirectory.force, if_pos h.directory, h.tryLock true]
    rfl

/-- The lock's file shows that a node has run here. -/
theorem Held.isOccupied (h : log.Held tree lock) : tree.isOccupied log.path = .ok true := by
  obtain ⟨home, hhome, hdir⟩ := isDirectory_iff.1 h.directory
  obtain ⟨content, hfile⟩ := h.present
  have hlock : lock = home.child lockName := by
    have hl := h.located
    rw [lockPath, locate_child hhome hdir isPlainName_lockName] at hl
    split at hl
    · cases hl
    · exact (Except.ok.inj hl).symm
  subst hlock
  simp only [Tree.isOccupied, hhome, hdir, hasChildren_of_find? hfile]

/-- Dropping the lock leaves the tree in which it is not held. -/
theorem Held.unlockedElsewhere (h : log.Held tree lock) :
    tree.unlockedElsewhere log.lockPath = tree.released lock := by
  rw [Tree.unlockedElsewhere, h.located]
  rfl

end LogDirectory

/-! ## Operations that need the log -/

/-- Whether an operation reads or forces the log. -/
def Operation.needsLog : Operation → Bool
  | .members _ | .isBootstrapped _ | .plan .. | .recover .. | .readLog | .force .. | .setMembers .. =>
      true
  | _ => false

namespace Setup

open LogDirectory

variable {setup : Setup} {tree : Tree} {lock : Place}

/-- Why members cannot be read while another instance holds the log: the lock is held, unless the time
was over before that could be seen. -/
def refusedRead (setup : Setup) (deadline : Deadline) : Failure :=
  if setup.readLimit deadline = .expired then .deadlineExceeded .readMembership
  else setup.log.unavailable .lockHeld

/-- What an operation that needs the log comes to while another instance holds it, apart from the step
that it fails in.  Writing members looks at the deadline before it looks at the log. -/
def refusal (setup : Setup) : Operation → Failure
  | .force _ members => setup.log.refusedForce members
  | .setMembers _ members .live => setup.log.refusedForce members
  | .setMembers _ _ _ => .deadlineExceeded .collapseLog
  | .members deadline | .isBootstrapped deadline | .plan _ deadline | .recover _ _ deadline =>
      setup.refusedRead deadline
  | _ => setup.log.unavailable .lockHeld

theorem members_of_held (h : setup.log.Held tree lock) (deadline : Deadline) :
    setup.members deadline (.inDirectory setup.dir tree) = .error (setup.refusedRead deadline) := by
  by_cases hlimit : setup.readLimit deadline = .expired
  · rw [members_of_expired hlimit, refusedRead, if_pos hlimit]
  · rw [members_inDirectory hlimit, h.readMembers, refusedRead, if_neg hlimit]

/-- Nothing can be planned, and the step that fails is the reading. -/
theorem plan_of_held (h : setup.log.Held tree lock) (advertised : List String)
    (deadline : Deadline) : setup.plan advertised deadline (.inDirectory setup.dir tree)
      = (.inDirectory setup.dir tree,
          .error ((setup.refusedRead deadline).during .readMembership)) := by
  exact plan_of_unread (ensureDir_of_isDirectory h.directory) (members_of_held h deadline) advertised

theorem isBootstrapped_of_held (h : setup.log.Held tree lock) (deadline : Deadline) :
    setup.isBootstrapped deadline (.inDirectory setup.dir tree)
      = (.inDirectory setup.dir tree, .error (setup.refusedRead deadline)) := by
  have hmake : setup.ensureDir (.inDirectory setup.dir tree)
      = (.inDirectory setup.dir tree, .ok ()) := ensureDir_of_isDirectory h.directory
  have hoccupied : setup.isOccupied (.inDirectory setup.dir tree) = .ok true := by
    have hlog : tree.isOccupied setup.dir = .ok true := h.isOccupied
    simp only [Setup.isOccupied, Site.inDirectory, hlog]
  simp only [isBootstrapped, isExisting, hmake, hoccupied, members_of_held h]
  rfl

theorem root_refusedRead (setup : Setup) (deadline : Deadline) :
    (setup.refusedRead deadline).root = setup.refusedRead deadline := by
  rw [refusedRead]
  split <;> rfl

theorem root_refusedForce (log : LogDirectory) (members : List Member) :
    (log.refusedForce members).root = log.refusedForce members := by
  cases members <;> rfl

/-- **An operation that needs a log which is held** fails and leaves everything as it is.  The cases are the
    operations; most of them read the members first, and stop there. -/
theorem perform_held (h : setup.log.Held tree lock) {operation : Operation}
    (hneeds : operation.needsLog) : ∃ failure,
    setup.perform operation (.inDirectory setup.dir tree)
        = (.inDirectory setup.dir tree, .error failure)
      ∧ failure.root = setup.refusal operation := by
  cases operation with
  | members deadline =>
    refine ⟨_, ?_, setup.root_refusedRead deadline⟩
    simp only [perform, members_of_held h]
    rfl
  | isBootstrapped deadline =>
    refine ⟨_, ?_, setup.root_refusedRead deadline⟩
    simp only [perform, isBootstrapped_of_held h]
    rfl
  -- planning and recovering stop in the reading step, and a step does not change the root
  | plan advertised deadline =>
    refine ⟨(setup.refusedRead deadline).during .readMembership, ?_, setup.root_refusedRead deadline⟩
    simp only [perform, plan_of_held h]
    rfl
  | recover now advertised deadline =>
    refine ⟨(setup.refusedRead deadline).during .readMembership, ?_, setup.root_refusedRead deadline⟩
    simp only [perform, Setup.recover, plan_of_held h]
    rfl
  | readLog =>
    have hread : (Site.inDirectory setup.dir tree).log.read (Site.inDirectory setup.dir tree).tree
        = .soon (setup.log.readMembers tree) := rfl
    refine ⟨setup.log.unavailable .lockHeld, ?_, rfl⟩
    rw [perform, hread, h.readMembers]
    rfl
  | force now members =>
    refine ⟨_, ?_, root_refusedForce setup.log members⟩
    simp only [perform, force_inDirectory (h.force now members)]
    rfl
  -- only in time the log is tried at all
  | setMembers now members deadline =>
    cases deadline with
    | live =>
      refine ⟨(setup.log.refusedForce members).during .collapseLog, ?_,
        root_refusedForce setup.log members⟩
      simp only [perform, Site.setMembers, force_inDirectory (h.force now members)]
      rfl
    | short | expired => exact ⟨_, rfl, rfl⟩
  -- the others do not need the log
  | ensureDir | isExisting | registered | info | register | setInfo | rewriteInfo | takeLock
    | dropLock => cases hneeds

/-! ## Sessions -/

/-- A session can be cut anywhere. -/
theorem performAll_append (setup : Setup) (first second : List Operation) (site : Site) :
    setup.performAll (first ++ second) site
      = ((setup.performAll second (setup.performAll first site).1).1,
          (setup.performAll first site).2
            ++ (setup.performAll second (setup.performAll first site).1).2) := by
  induction first generalizing site with
  | nil => rfl
  | cons operation rest ih => simp only [List.cons_append, performAll, ih]

/-- **While another instance holds the log, nothing gets past the lock.**  However many operations that
need the log are tried, the site stays exactly as it is, and each of them fails for the reason that the
lock gives, or because its time was over.  When the lock is dropped, the session goes on as if it had
begun where nobody held it. -/
theorem performAll_held (h : setup.log.Held tree lock) {operations : List Operation}
    (hneed : ∀ operation ∈ operations, operation.needsLog) :
    ∃ told, setup.performAll operations (.inDirectory setup.dir tree)
        = (.inDirectory setup.dir tree, told)
      ∧ told.map (·.1) = operations
      ∧ (∀ entry ∈ told, ∃ failure, entry.2 = .error failure
        ∧ failure.root = setup.refusal entry.1)
      ∧ ∀ later, setup.performAll (operations ++ .dropLock :: later) (.inDirectory setup.dir tree)
        = ((setup.performAll later (.inDirectory setup.dir (tree.released lock))).1,
          told ++ (.dropLock, .ok .done)
            :: (setup.performAll later (.inDirectory setup.dir (tree.released lock))).2) := by
  -- the induction is on the session; what carries it is that no operation moves the site
  have hrun : ∃ told, setup.performAll operations (.inDirectory setup.dir tree)
        = (.inDirectory setup.dir tree, told)
      ∧ told.map (·.1) = operations
      ∧ ∀ entry ∈ told, ∃ failure, entry.2 = .error failure
        ∧ failure.root = setup.refusal entry.1 := by
    induction operations with
    | nil => exact ⟨[], rfl, rfl, fun _ hmem => absurd hmem List.not_mem_nil⟩
    | cons operation rest ih =>
      obtain ⟨failure, hfirst, hroot⟩ := perform_held h (hneed operation List.mem_cons_self)
      obtain ⟨told, hrest, hnames, hall⟩ :=
        ih fun other hother => hneed other (List.mem_cons_of_mem _ hother)
      refine ⟨(operation, .error failure) :: told, ?_, ?_, ?_⟩
      · rw [performAll_cons hfirst, hrest]
      · rw [List.map_cons, hnames]
      · intro entry hentry
        rcases List.mem_cons.1 hentry with rfl | hentry
        · exact ⟨failure, rfl, hroot⟩
        · exact hall entry hentry
  obtain ⟨told, hheld, hnames, hall⟩ := hrun
  refine ⟨told, hheld, hnames, hall, fun later => ?_⟩
  have hdrop : setup.perform .dropLock (.inDirectory setup.dir tree)
      = (.inDirectory setup.dir (tree.released lock), .ok .done) := by
    rw [← h.unlockedElsewhere]
    rfl
  rw [performAll_append, hheld]
  rw [performAll_cons hdrop]

/-- Two members whose log is held by a running instance. -/
def heldTree : Tree :=
  ((pairTree (.file ByteArray.empty)).put (pairHome.child lockName) (.file ByteArray.empty)).withLocked
    [pairHome.child lockName]

theorem held_heldTree : pairSetup.log.Held heldTree (pairHome.child lockName) :=
  ⟨rfl, rfl, ⟨ByteArray.empty, rfl⟩, List.mem_singleton_self _⟩

/-- Their record is there when the lock has been dropped. -/
theorem holds_released :
    pairSetup.log.Holds (heldTree.released (pairHome.child lockName)) pairHome pairRecord := by
  have hrecord : (heldTree.released (pairHome.child lockName)).find? (pairHome.child recordName)
      = some (.file pairRecord.toBytes) :=
    @find?_put_of_ne (pairTree (.file ByteArray.empty)) (pairHome.child lockName)
      (pairHome.child recordName) _ (Place.child_ne recordName_ne_lockName)
  exact ⟨.of_locate rfl rfl (by decide), ⟨pairRecord.toBytes, hrecord, LogRecord.trusted_force _ _⟩,
    nofun, fun _ _ => by simp [released, withLocked, heldTree]⟩

/-- Everything that needs the log, with arguments that would be good ones otherwise. -/
def heldOperations : List Operation :=
  [.members .live, .isBootstrapped .live, .plan pairAdvertised .live,
    .recover "" pairAdvertised .live, .readLog, .force "" pairMembers,
    .setMembers "" pairMembers .live, .recover "" pairAdvertised .expired]

/-- Their log can be neither read nor forced; when the lock is dropped, they are still two. -/
theorem performAll_held_pair : ∃ told,
    pairSetup.performAll heldOperations (.inDirectory pairSetup.dir heldTree)
        = (.inDirectory pairSetup.dir heldTree, told)
      ∧ told.map (·.1) = heldOperations
      ∧ (∀ entry ∈ told, ∃ failure, entry.2 = .error failure
        ∧ failure.root = pairSetup.refusal entry.1)
      ∧ (pairSetup.performAll (heldOperations ++ [.dropLock, .members .live])
          (.inDirectory pairSetup.dir heldTree)).2
        = told ++ [(.dropLock, .ok .done), (.members .live, .ok (.members pairMembers))] := by
  have hread : pairSetup.members .live
      (.inDirectory pairSetup.dir (heldTree.released (pairHome.child lockName)))
        = .ok pairMembers := by
    rw [members_inDirectory (by decide), holds_released.readMembers]
    rfl
  obtain ⟨told, hrun, hnames, hall, hlater⟩ :=
    @performAll_held _ _ _ held_heldTree heldOperations (by decide)
  refine ⟨told, hrun, hnames, hall, ?_⟩
  rw [hlater [.members .live]]
  simp only [performAll, perform, hread]
  rfl

end Setup

end QuorumRescue
