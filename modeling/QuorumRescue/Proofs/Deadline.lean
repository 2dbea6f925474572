/-
  What a deadline stops.

  A recovery that is cut off in the middle leaves log and registry at odds.  So a deadline counts until
  the log is forced and not any more after that, and this file proves that it is kept that way, for
  every kind of log and of registry that a site may have.

  1. **The specification.** `Site.Written` lists the ways of a write and `Setup.Ran` those of a
     recovery, each with what it attempts in the order of the attempts (`Attempt`), the site it leaves
     and the answer it gives.  A write is too late and attempts nothing; or the log cannot be forced; or
     it can, and the registry has its say.  A recovery is refused while planning, leaves a single member
     alone, or goes on to a write.

  2. **The crux** is that the functions go these ways and no others (`setMembers_eq_iff`,
     `recover_eq_iff`).  That every run goes one of them is a walk through the functions
     (`exists_written`, `exists_ran`); that each way gives what it says is a computation along it; and
     since functions give one answer, both together are an equivalence.  From here on nothing looks into
     the functions any more.

  3. **Too late.** When the time is over, nothing has been attempted (`Written.of_late`, `Ran.of_late`).
     Only a log that is ready at once can still answer, so a success is that of a single member which
     was left as it is (`Ran.ready_of_expired`).  A stalled log never answers, however much time there
     is.

  4. **Too far.** Once the log has been forced, the registry is written too, and its answer alone
     decides between a success and an inconsistent state (`DecidedByRegistry`).

  5. **The result.** `deadline_stops_before_force` has all of it, for both functions.
-/
import QuorumRescue.Proofs.Recovery

namespace QuorumRescue

/-- Something that is done to the log or to the registry, with what comes of it. -/
inductive Attempt
  | force (members : List Member) (answer : Except Failure Unit)
  | register (members : List Member) (answer : Except Failure Unit)

/-! ## Writing -/

namespace Site

variable {now : String} {members : List Member} {deadline : Deadline} {site between left : Site}
  {attempts : List Attempt} {answer result : Except Failure Unit}

/-- What is said when it is too late to force the log. -/
def tooLate : Failure := (Failure.deadlineExceeded .collapseLog).during .collapseLog

/-- What is said after the log has been forced, by the answer of the registry. -/
def afterForce (members : List Member) : Except Failure Unit → Except Failure Unit
  | .ok () => .ok ()
  | .error cause =>
      .error ((Failure.inconsistentState (leadingId members) cause).during .collapseRegistry)

/-- The ways of a write: the time is over, the log cannot be forced, or the registry has its say. -/
inductive Written (now : String) (members : List Member) (site : Site) :
    Deadline → List Attempt → Site → Except Failure Unit → Prop
  | late {deadline : Deadline} (past : deadline ≠ .live) :
      Written now members site deadline [] site (.error tooLate)
  | refused {left : Site} {failure : Failure}
      (force : site.force now members = (left, .error failure)) :
      Written now members site .live [.force members (.error failure)] left
        (.error (failure.during .collapseLog))
  | forced {between left : Site} {answer : Except Failure Unit}
      (force : site.force now members = (between, .ok ()))
      (register : between.register members = (left, answer)) :
      Written now members site .live [.force members (.ok ()), .register members answer] left
        (afterForce members answer)

theorem setMembers_of_late (past : deadline ≠ .live) :
    site.setMembers now members deadline = (site, .error tooLate) := by
  cases deadline with
  | live => exact absurd rfl past
  | short => rfl
  | expired => rfl

theorem setMembers_of_forced (force : site.force now members = (between, .ok ()))
    (register : between.register members = (left, answer)) :
    site.setMembers now members .live = (left, afterForce members answer) := by
  simp only [setMembers, force, register]
  cases answer <;> rfl

/-- A write that goes one of these ways leaves that site and gives that answer. -/
theorem Written.setMembers_eq (h : Written now members site deadline attempts left result) :
    site.setMembers now members deadline = (left, result) := by
  cases h with
  | late past => exact setMembers_of_late past
  | refused force => simp only [setMembers, force]
  | forced force register => exact setMembers_of_forced force register

/-- When the time is over, there is only one way. -/
theorem Written.of_late (h : Written now members site deadline attempts left result)
    (past : deadline ≠ .live) : attempts = [] ∧ left = site ∧ result = .error tooLate := by
  cases h with
  | late => exact ⟨rfl, rfl, rfl⟩
  | refused => exact absurd rfl past
  | forced => exact absurd rfl past

/-- **Every write goes one of these ways.** The way is found by asking in the order of the function: whether
    there is time, whether the log can be forced, and what the registry answers. -/
theorem exists_written (now : String) (members : List Member) (deadline : Deadline) (site : Site) :
    ∃ attempts left result, Written now members site deadline attempts left result := by
  by_cases hlive : deadline = .live
  · subst hlive
    obtain ⟨between, forcing, hforce⟩ : ∃ between forcing,
        site.force now members = (between, forcing) := ⟨_, _, rfl⟩
    cases forcing with
    | error failure => exact ⟨_, _, _, .refused hforce⟩
    | ok =>
      obtain ⟨left, answer, hregister⟩ : ∃ left answer,
          between.register members = (left, answer) := ⟨_, _, rfl⟩
      exact ⟨_, _, _, .forced hforce hregister⟩
  · exact ⟨[], site, _, .late hlive⟩

/-- **Writing goes exactly these ways.** One direction is that there is a way for every write, the other
    that a way gives what the function gives. -/
theorem setMembers_eq_iff : site.setMembers now members deadline = (left, result) ↔
    ∃ attempts, Written now members site deadline attempts left result := by
  constructor
  · intro h
    obtain ⟨attempts, after, answer, hwritten⟩ := exists_written now members deadline site
    rw [hwritten.setMembers_eq] at h
    obtain ⟨rfl, rfl⟩ := Prod.mk.inj h
    exact ⟨attempts, hwritten⟩
  · rintro ⟨attempts, h⟩
    exact h.setMembers_eq

end Site

/-! ## Recovering -/

namespace Setup

variable {setup : Setup} {now : String} {advertised : List String} {deadline : Deadline}
  {site left : Site} {attempts : List Attempt} {result : Except Failure Outcome}

/-- The ways of a recovery: planning refuses, a single member is left as it is, or the log and the
registry are written. -/
inductive Ran (setup : Setup) (now : String) (advertised : List String) (deadline : Deadline)
    (site : Site) : List Attempt → Site → Except Failure Outcome → Prop
  | refused {left : Site} {failure : Failure}
      (plan : setup.plan advertised deadline site = (left, .error failure)) :
      Ran setup now advertised deadline site [] left (.error failure)
  | single {left : Site} {outcome : Outcome} {only : Member}
      (plan : setup.plan advertised deadline site = (left, .ok outcome))
      (action : outcome.action = .alreadySingle only) :
      Ran setup now advertised deadline site [] left (.ok outcome)
  | collapsing {made left : Site} {outcome : Outcome} {survivor : Member} {attempts : List Attempt}
      {answer : Except Failure Unit}
      (plan : setup.plan advertised deadline site = (made, .ok outcome))
      (action : outcome.action = .collapse survivor)
      (write : made.Written now outcome.members deadline attempts left answer) :
      Ran setup now advertised deadline site attempts left
        (answer.map fun _ => { outcome with applied := true })

/-- A recovery that goes one of these ways leaves that site and gives that answer. -/
theorem Ran.recover_eq (h : setup.Ran now advertised deadline site attempts left result) :
    setup.recover now advertised deadline site = (left, result) := by
  cases h with
  | refused plan => simp only [recover, plan]
  | single plan action => simp only [recover, plan, Site.carryOut, action]
  | @collapsing _ _ _ _ _ answer plan action write =>
    simp only [recover, plan, Site.carryOut, action, write.setMembers_eq]
    cases answer <;> rfl

/-- **Every recovery goes one of these ways.** What a recovery attempts is what its write attempts, and
    without one it attempts nothing. -/
theorem exists_ran (setup : Setup) (now : String) (advertised : List String) (deadline : Deadline)
    (site : Site) :
    ∃ attempts left result, setup.Ran now advertised deadline site attempts left result := by
  obtain ⟨made, planned, hplan⟩ : ∃ made planned,
      setup.plan advertised deadline site = (made, planned) := ⟨_, _, rfl⟩
  cases planned with
  | error failure => exact ⟨_, _, _, .refused hplan⟩
  | ok outcome =>
    cases haction : outcome.action with
    | alreadySingle only => exact ⟨_, _, _, .single hplan haction⟩
    | collapse survivor =>
      obtain ⟨attempts, left, answer, hwritten⟩ :=
        Site.exists_written now outcome.members deadline made
      exact ⟨_, _, _, .collapsing hplan haction hwritten⟩

/-- **Recovering goes exactly these ways.** -/
theorem recover_eq_iff : setup.recover now advertised deadline site = (left, result) ↔
    ∃ attempts, setup.Ran now advertised deadline site attempts left result := by
  constructor
  · intro h
    obtain ⟨attempts, after, answer, hran⟩ := exists_ran setup now advertised deadline site
    rw [hran.recover_eq] at h
    obtain ⟨rfl, rfl⟩ := Prod.mk.inj h
    exact ⟨attempts, hran⟩
  · rintro ⟨attempts, h⟩
    exact h.recover_eq

/-! ## Too late -/

/-- What is left when the time is over: nothing has been attempted, and the data directory is there if
it could be made. -/
theorem Ran.of_late (h : setup.Ran now advertised deadline site attempts left result)
    (past : deadline ≠ .live) : attempts = [] ∧ left = (setup.ensureDir site).1 := by
  have hmade : ∀ made planned, setup.plan advertised deadline site = (made, planned) →
      made = (setup.ensureDir site).1 := by
    intro made planned hplan
    rw [← fst_plan_eq setup advertised deadline site, hplan]
  cases h with
  | refused plan => exact ⟨rfl, hmade _ _ plan⟩
  | single plan _ => exact ⟨rfl, hmade _ _ plan⟩
  | collapsing plan _ write =>
    obtain ⟨rfl, rfl, -⟩ := write.of_late past
    exact ⟨rfl, hmade _ _ plan⟩

/-- Who succeeds although the time is over has found a single member, and has left it as it is. -/
theorem Ran.single_of_late {outcome : Outcome}
    (h : setup.Ran now advertised deadline site attempts left (.ok outcome)) (past : deadline ≠ .live) :
    ∃ only, outcome.action = .alreadySingle only
      ∧ setup.plan advertised deadline site = (left, .ok outcome) := by
  generalize hresult : (Except.ok outcome : Except Failure Outcome) = result at h
  cases h with
  | refused => cases hresult
  | @single _ planned only plan action =>
    obtain rfl := Except.ok.inj hresult
    exact ⟨only, action, plan⟩
  | collapsing _ _ write =>
    obtain ⟨-, -, rfl⟩ := write.of_late past
    cases hresult

/-- Members that are read when the time is over were ready at once. -/
theorem ready_of_members {members : List Member} (h : setup.members .expired site = .ok members) :
    site.log.read site.tree = .ready (.ok members) := by
  have hlimit : setup.readLimit .expired = .expired := by simp [readLimit]
  unfold Setup.members at h
  rw [hlimit] at h
  cases hread : site.log.read site.tree with
  | ready value =>
    simp only [hread, Pending.within] at h
    rw [h]
  | soon value => simp [hread, Pending.within] at h
  | never => simp [hread, Pending.within] at h

/-- **A success after the deadline** is that of a log which was ready at once and has a single member.  A
    log on disk is never ready at once, so on disk there is no success after the deadline. -/
theorem Ran.ready_of_expired {outcome : Outcome}
    (h : setup.Ran now advertised .expired site attempts left (.ok outcome)) :
    ∃ only, left.log.read left.tree = .ready (.ok [only])
      ∧ outcome = ⟨[only], left.registered.toOption, .alreadySingle only, false⟩ := by
  obtain ⟨only, haction, hplan⟩ := h.single_of_late (by decide)
  obtain ⟨-, previous, action, hread, hchoose, rfl⟩ := plan_eq_ok hplan
  obtain rfl : action = .alreadySingle only := haction
  rcases choose_eq_ok_iff.1 hchoose with ⟨member, rfl, he⟩ | ⟨_, _, _, _, he⟩
  · obtain rfl := Action.alreadySingle.inj he
    exact ⟨only, ready_of_members hread, rfl⟩
  · cases he

/-! ## A stalled log -/

/-- A stalled log never tells its members, however much time there is. -/
theorem members_of_stalled (hlog : site.log = .stalled) :
    setup.members deadline site = .error (.deadlineExceeded .readMembership) := by
  simp only [Setup.members, hlog, ConsensusLog.read, Pending.within]

/-- Making the data directory does not concern the log. -/
theorem log_of_ensureDir {made : Site} {result : Except Failure Unit}
    (h : setup.ensureDir site = (made, result)) : made.log = site.log := by
  unfold ensureDir at h
  split at h
  · obtain ⟨rfl, -⟩ := Prod.mk.inj h
    rfl
  · obtain ⟨rfl, -⟩ := Prod.mk.inj h
    rfl

/-- With a stalled log, planning makes the data directory and fails in the reading step. -/
theorem plan_of_stalled {made : Site} (hlog : site.log = .stalled)
    (hdir : setup.ensureDir site = (made, .ok ())) (advertised : List String) (deadline : Deadline) :
    setup.plan advertised deadline site
      = (made, .error ((Failure.deadlineExceeded .readMembership).during .readMembership)) := by
  have hmade : made.log = .stalled := (log_of_ensureDir hdir).trans hlog
  exact plan_of_unread hdir (members_of_stalled hmade) advertised

end Setup

/-! ## Before and after the log is forced -/

/-- Once the log has been forced, the registry is written too, and its answer alone decides. -/
def DecidedByRegistry {α : Type} (attempts : List Attempt) (result : Except Failure α) : Prop :=
  ∀ members, .force members (.ok ()) ∈ attempts →
    ∃ answer, attempts = [.force members (.ok ()), .register members answer]
      ∧ ((∃ value, result = .ok value) ↔ answer = .ok ())
      ∧ ∀ cause, answer = .error cause → result = .error
          ((Failure.inconsistentState (Site.leadingId members) cause).during .collapseRegistry)

/-- What a write comes to after the log was forced is decided by the registry. -/
theorem Site.Written.decidedByRegistry {now : String} {members : List Member} {deadline : Deadline}
    {site left : Site} {attempts : List Attempt} {result : Except Failure Unit}
    (h : Written now members site deadline attempts left result) :
    DecidedByRegistry attempts result := by
  intro forcedTo hforced
  cases h with
  | late => cases hforced
  | refused => simp at hforced
  | @forced _ _ answer force register =>
    obtain rfl : forcedTo = members := by simpa using hforced
    refine ⟨answer, rfl, ?_, ?_⟩
    · cases answer <;> simp [afterForce]
    · rintro cause rfl
      rfl

/-- So is what a recovery comes to, since its only attempts are those of its write. -/
theorem Setup.Ran.decidedByRegistry {setup : Setup} {now : String} {advertised : List String}
    {deadline : Deadline} {site left : Site} {attempts : List Attempt}
    {result : Except Failure Outcome} (h : setup.Ran now advertised deadline site attempts left result) :
    DecidedByRegistry attempts result := by
  intro forcedTo hforced
  cases h with
  | refused => cases hforced
  | single => cases hforced
  | @collapsing _ _ outcome _ _ answer _ _ write =>
    obtain ⟨registered, hattempts, hok, hfails⟩ := write.decidedByRegistry forcedTo hforced
    refine ⟨registered, hattempts, ?_, ?_⟩
    · rw [← hok]
      cases answer <;> simp [Except.map]
    · intro cause hcause
      rw [hfails cause hcause]
      rfl

namespace Setup

/-- **A deadline stops a collapse before it begins and never after.**  When the time is over, nothing is
attempted: writing is refused, and a recovery leaves the site with its data directory.  It succeeds
then only for a log that is ready at once and has a single member.  With a stalled log, planning and
recovering fail in the reading step.  And once the log has been forced, the registry alone decides. -/
theorem deadline_stops_before_force (setup : Setup) (now : String) (advertised : List String)
    (members : List Member) (site : Site) :
    (∀ deadline left result, site.setMembers now members deadline = (left, result)
      ↔ ∃ attempts, site.Written now members deadline attempts left result)
    ∧ (∀ deadline left result, setup.recover now advertised deadline site = (left, result)
      ↔ ∃ attempts, setup.Ran now advertised deadline site attempts left result)
    ∧ (∀ deadline, deadline ≠ .live →
      (∀ attempts left result, site.Written now members deadline attempts left result →
        attempts = [] ∧ left = site ∧ result = .error Site.tooLate)
      ∧ ∀ attempts left result, setup.Ran now advertised deadline site attempts left result →
        attempts = [] ∧ left = (setup.ensureDir site).1)
    ∧ (∀ attempts left outcome, setup.Ran now advertised .expired site attempts left (.ok outcome) →
      ∃ only, left.log.read left.tree = .ready (.ok [only])
        ∧ outcome = ⟨[only], left.registered.toOption, .alreadySingle only, false⟩)
    ∧ (∀ deadline made, site.log = .stalled → setup.ensureDir site = (made, .ok ()) →
      setup.plan advertised deadline site
          = (made, .error ((Failure.deadlineExceeded .readMembership).during .readMembership))
        ∧ setup.recover now advertised deadline site
          = (made, .error ((Failure.deadlineExceeded .readMembership).during .readMembership)))
    ∧ ∀ deadline attempts left,
      (∀ result, site.Written now members deadline attempts left result →
        DecidedByRegistry attempts result)
      ∧ ∀ result, setup.Ran now advertised deadline site attempts left result →
        DecidedByRegistry attempts result := by
  refine ⟨fun _ _ _ => Site.setMembers_eq_iff, fun _ _ _ => recover_eq_iff, ?_,
    fun _ _ _ h => h.ready_of_expired, ?_, fun _ _ _ => ⟨fun _ h => h.decidedByRegistry,
      fun _ h => h.decidedByRegistry⟩⟩
  · intro deadline past
    constructor
    · intro attempts left result h
      exact h.of_late past
    · intro attempts left result h
      exact h.of_late past
  · intro deadline made hlog hdir
    have hplan := plan_of_stalled hlog hdir advertised deadline
    exact ⟨hplan, (Ran.refused hplan).recover_eq⟩

/-- A site with a log in memory, and with a registry that cannot be written. -/
def siteInMemory (members : List Member) : Site :=
  ⟨pairTree (.file ByteArray.empty), .inMemory members none none,
    .inMemory none none { setMembers := some (.notFound "registry") }⟩

/-- A site with a stalled log. -/
def stalledSite : Site :=
  ⟨pairTree (.file ByteArray.empty), .stalled, .inMemory none none {}⟩

/-- With a log in memory, two members are not written after the deadline.  In time they are, and then
everything hangs on the registry.  A single member is still found, and a stalled log fails in time. -/
theorem deadline_stops_before_force_inMemory :
    (siteInMemory []).setMembers "" pairMembers .expired = (siteInMemory [], .error Site.tooLate)
      ∧ ((siteInMemory []).setMembers "" pairMembers .live).2
        = .error ((Failure.inconsistentState 1 (.notFound "registry")).during .collapseRegistry)
      ∧ (∃ only registered, (pairSetup.recover "" pairAdvertised .expired
          (siteInMemory [⟨1, "10.0.0.1:17666", .voter⟩])).2
        = .ok ⟨[only], registered, .alreadySingle only, false⟩)
      ∧ pairSetup.recover "" pairAdvertised .live stalledSite = (stalledSite,
        .error ((Failure.deadlineExceeded .readMembership).during .readMembership)) := by
  obtain ⟨hwrite, -, hlate, -, -, hdecided⟩ :=
    deadline_stops_before_force pairSetup "" pairAdvertised pairMembers (siteInMemory [])
  -- the data directory is there already, whatever the log and the registry are
  have hmake : ∀ log registry, pairSetup.ensureDir ⟨pairTree (.file ByteArray.empty), log, registry⟩
      = (⟨pairTree (.file ByteArray.empty), log, registry⟩, .ok ()) := by
    intro log registry
    have hhome := (holds_pairTree (.file ByteArray.empty)).isHome
    exact ensureDir_of_isDirectory hhome.isDirectory
  refine ⟨?_, ?_, ?_, ?_⟩
  · obtain ⟨attempts, hwritten⟩ := (hwrite .expired _ _).1 rfl
    obtain ⟨-, hleft, hresult⟩ := (hlate .expired (by decide)).1 _ _ _ hwritten
    exact Prod.ext hleft hresult
  · -- in time the log is forced, and the registry answers as it was set up to
    have hwritten : (siteInMemory []).Written "" pairMembers .live
        [.force pairMembers (.ok ()), .register pairMembers (.error (.notFound "registry"))] _ _ :=
      .forced rfl rfl
    obtain ⟨answer, hattempts, -, hfails⟩ :=
      (hdecided .live _ _).1 _ hwritten pairMembers List.mem_cons_self
    have hanswer : .error (.notFound "registry") = answer := by simpa using hattempts
    rw [(hwrite .live _ _).2 ⟨_, hwritten⟩]
    exact hfails _ hanswer.symm
  · -- a log in memory is ready at once, so its single member is found although the time is over
    obtain ⟨-, hrun, -, hready, -⟩ := deadline_stops_before_force pairSetup "" pairAdvertised
      pairMembers (siteInMemory [⟨1, "10.0.0.1:17666", .voter⟩])
    have hrecover : ∃ outcome, pairSetup.recover "" pairAdvertised .expired
        (siteInMemory [⟨1, "10.0.0.1:17666", .voter⟩])
          = (siteInMemory [⟨1, "10.0.0.1:17666", .voter⟩], .ok outcome) := by
      simp only [recover, plan, siteInMemory, hmake]
      exact ⟨_, rfl⟩
    obtain ⟨outcome, hrecover⟩ := hrecover
    obtain ⟨attempts, hran⟩ := (hrun _ _ _).1 hrecover
    obtain ⟨only, -, rfl⟩ := hready _ _ _ hran
    exact ⟨only, _, by rw [hrecover]⟩
  · obtain ⟨-, -, -, -, hstalled, -⟩ :=
      deadline_stops_before_force pairSetup "" pairAdvertised pairMembers stalledSite
    exact (hstalled .live stalledSite rfl (hmake _ _)).2

end Setup

end QuorumRescue
