/-
  What the exit status tells about the disk.

  The operator who sees a recovery fail has to know whether the log has been collapsed: with the log as
  it was, the recovery can be run again, and with the log collapsed and a file beside it unwritten, that
  file has to be seen to by hand.  The exit status says which.  This file proves that it does, of every
  call whose arguments are understood, over all trees, environments and inputs.

  1. **The specification.** `Tells` has one clause for each status.  With 0, nothing had to be done and
     no file is different (`Unneeded`), or all is done and reported (`Completed`).  With 1, no file is
     different.  With 2, the log has the survivor alone, but a file beside it could not be written
     (`HalfDone`).  With 101, the clock cannot show the deadline and the run broke off before it touched
     anything (`BrokenOff`).  There are no others.  The files that may be different are named, and so is
     all that was printed.

  2. **What is printed first.** Who is asked for a confirmation sees the warning and the question, and
     that is written where the report is going to be.  So what is printed begins with what the operator
     was asked (`asked_eq`), and a failed run that has asked is not silent (`call_halfDone_not_silent`).

  3. **The crux** is what a run may have done when it ends with 2.  A run consists of the confirmation,
     the configuration, the deadline, the recovery and the node's own record.  The first three change
     nothing; where one of them fails, it breaks off or says so plainly (`Failure.isPlain`), which does
     not give a 2.  The recovery goes one of the ways of `Setup.Course`, and only the way that has
     forced the log and could not write the registry fails with a 2.  The node's own record is touched
     behind a collapse that was done, and there a failure gives a 2 again (`rewriteInfo_cases`).

  4. **The assembly.** One lemma says for each of these ways that the run tells the truth
     (`tells_of_overflow`, `tells_of_dryRun`, `tells_of_done`, `tells_of_recover`), `run_tells` puts
     them together, and `call_tells` adds what comes before a run: the question, its answer and the
     printing.

  5. **The machine.** The last section has a machine with a configured agent and a log of two members.
     What is in the place of the registry's file decides whether a confirmed run ends there with 0 or
     with 2.
-/
import QuorumRescue.CommandLine
import QuorumRescue.Proofs.Config
import QuorumRescue.Proofs.Recovery

namespace QuorumRescue

/-! ## The configuration -/

namespace AgentConfig

theorem isPlain_of_ofLayout {layout : Layout} {failure : Failure}
    (h : ofLayout layout = .error failure) : failure.isPlain := by
  unfold ofLayout at h
  split at h
  · split at h <;> cases h
    rfl
  · cases h
    rfl

theorem isPlain_of_parse {text : String} {failure : Failure} (h : parse text = .error failure) :
    failure.isPlain := by
  simp only [parse] at h
  split at h
  · cases h
    rfl
  · split at h
    · split at h
      · cases h
        rfl
      · exact isPlain_of_ofLayout h
    · cases h
      rfl

theorem isPlain_of_read {path : Path} {tree : Tree} {failure : Failure}
    (h : read path tree = .error failure) : failure.isPlain := by
  unfold read at h
  split at h
  · cases h
    rfl
  · split at h
    · cases h
      rfl
    · next text _ =>
      cases hparse : parse text with
      | error fault =>
        simp only [hparse, Except.map, Except.error.injEq] at h
        exact h ▸ isPlain_of_parse hparse
      | ok config => simp [hparse, Except.map] at h

theorem isPlain_of_apiAddresses {config : AgentConfig} {failure : Failure}
    (h : config.apiAddresses = .error failure) : failure.isPlain := by
  unfold apiAddresses at h
  split at h <;> cases h
  rfl

end AgentConfig

namespace CommandLine

open LogDirectory RegistryDirectory QuorumRescue.Tree

/-- **A configuration that cannot be had fails plainly**, with the log untouched.  So a run that ends there
    ends with 1. -/
theorem Options.isPlain_of_config {options : Options} {tree : Tree} {failure : Failure}
    (h : options.config tree = .error failure) : failure.isPlain := by
  unfold Options.config at h
  split at h
  · cases h
    rfl
  · split at h
    · next hread =>
      cases h
      exact AgentConfig.isPlain_of_read hread
    · split at h
      · next haddresses =>
        cases h
        exact AgentConfig.isPlain_of_apiAddresses haddresses
      · cases h

/-! ## What is told -/

/-- The log of a directory has been collapsed to one of several members, as an outcome says, and no
files but those with certain names in the directory are different. -/
structure Collapsed (dir : Path) (before after : Tree) (outcome : Outcome) (names : List String) :
    Prop where
  found : (LogDirectory.mk dir).readMembers (before.makeDirectories dir).1 = .ok outcome.previous
  several : 2 ≤ outcome.previous.length
  survived : ∃ old ∈ outcome.previous, outcome.action = .collapse old
  applied : outcome.applied = true
  recorded : (LogDirectory.mk dir).readMembers after = .ok outcome.members
  elsewhere : ∃ home, after.IsHome dir home ∧ SameFilesBut (names.map home.child) before after

/-- What a recovery that has forced the log comes to, whatever files it goes on to write. -/
theorem collapsed_of_chosen {setup : Setup} {advertised : List String} {deadline : Deadline}
    {tree after : Tree} {home : Place} {record : LogRecord} {survivor : Member} {names : List String}
    (h : setup.Chosen advertised deadline (tree.makeDirectories setup.dir).1 home record survivor)
    (hread : setup.log.readMembers after = .ok [{ survivor with role := .voter }])
    (hafter : after.IsHome setup.dir home)
    (hsame : SameFilesBut (names.map home.child) tree after) :
    Collapsed setup.dir tree after (setup.collapsed (tree.makeDirectories setup.dir).1
      record.stored.membership.members survivor) names where
  found := h.holds.readMembers
  several := h.resolved.1
  survived := ⟨survivor, Survivor.mem_of_resolve h.resolved.2, rfl⟩
  applied := rfl
  recorded := hread
  elsewhere := ⟨home, hafter, hsame⟩

/-- The registry's file in a directory lists the members that an outcome leaves. -/
def Registered (dir : Path) (after : Tree) (outcome : Outcome) : Prop :=
  after.read (RegistryDirectory.mk dir).clusterPath = .ok (Setup.clusterBytes outcome.members)

/-- The node's own record in a directory is that of the member that an outcome leaves. -/
def Rewritten (dir : Path) (after : Tree) (outcome : Outcome) : Prop :=
  after.read (RegistryDirectory.mk dir).infoPath = .ok (Setup.infoBytes outcome.action.remaining)

/-- The registry has been written when a recovery is done. -/
theorem collapsed_of_done {setup : Setup} {now : String} {advertised : List String}
    {deadline : Deadline} {tree forced : Tree} {home : Place} {record : LogRecord} {survivor : Member}
    (h : setup.Chosen advertised deadline (tree.makeDirectories setup.dir).1 home record survivor)
    (hforced : setup.Forced now (tree.makeDirectories setup.dir).1 home record survivor forced)
    (hroom : forced.find? (home.child clusterName) ≠ some .directory) :
    Collapsed setup.dir tree (Setup.registered forced home [{ survivor with role := .voter }])
        (setup.collapsed (tree.makeDirectories setup.dir).1 record.stored.membership.members survivor)
        [clusterName, recordName, lockName]
      ∧ Registered setup.dir (Setup.registered forced home [{ survivor with role := .voter }])
        (setup.collapsed (tree.makeDirectories setup.dir).1 record.stored.membership.members
          survivor) := by
  have hmade := (makeDirectories_onlyMade tree setup.dir).sameFiles
  have hholds := Setup.holds_registered hforced.holds hroom [{ survivor with role := .voter }]
  refine ⟨collapsed_of_chosen h (Setup.readMembers_single hholds rfl) hholds.isHome ?_, ?_⟩
  · exact (hmade.trans_but hforced.onlyForced.sameFilesBut).put _ _
  · exact Setup.read_registered hforced.holds.isHome hroom _

/-- **After a collapse the node's own record is rewritten** and nothing else, unless a directory is in
its file's place. -/
theorem rewriteInfo_cases {dir : Path} {tree left : Tree} {outcome : Outcome} {names : List String}
    (h : Collapsed dir tree left outcome names) (hregistered : Registered dir left outcome) :
    (∃ failure, (Site.inDirectory dir left).rewriteInfo outcome
          = (.inDirectory dir left, .error failure)
        ∧ failure.exitCode = 2)
      ∨ ∃ last, (Site.inDirectory dir left).rewriteInfo outcome = (.inDirectory dir last, .ok ())
        ∧ Collapsed dir tree last outcome (infoName :: names)
        ∧ Registered dir last outcome
        ∧ Rewritten dir last outcome := by
  obtain ⟨home, hhome, hsame⟩ := h.elsewhere
  obtain ⟨record, hholds, hmembers⟩ := exists_holds_of_readMembers h.recorded hhome
  have hset := Setup.setInfo_eq hhome outcome.action.remaining
  by_cases hd : left.find? (home.child infoName) = some .directory
  · rw [if_pos hd] at hset
    have hfails : (Site.inDirectory dir left).rewriteInfo outcome = (.inDirectory dir left,
        .error ((Failure.inconsistentState outcome.action.remaining.id
          (.io (RegistryDirectory.mk dir).infoPath.text .isDirectory)).during .rewriteInfo)) := by
      simp only [Site.rewriteInfo, h.applied, if_true, hset]
    exact Or.inl ⟨_, hfails, rfl⟩
  · rw [if_neg hd] at hset
    have hlast := hholds.of_elsewhere infoName_ne_recordName infoName_ne_lockName hd
      (Setup.infoBytes outcome.action.remaining)
    -- the log and the registry's file are other files of the same directory
    have hrecorded := hlast.readMembers.trans (congrArg Except.ok hmembers)
    have hcluster := hhome.read_congr hlast.isHome isPlainName_clusterName
      (find?_put_of_ne (Place.child_ne infoName_ne_clusterName.symm))
    have hinfo := (hlast.isHome.read_eq_ok_iff isPlainName_infoName).2
      (find?_put_self (Place.isStart_child _ _))
    refine Or.inr ⟨_, ?_, ?_, hcluster.trans hregistered, hinfo⟩
    · simp only [Site.rewriteInfo, h.applied, if_true, hset]
    · exact { h with
        recorded := hrecorded
        elsewhere := ⟨home, hlast.isHome, hsame.put _ _⟩ }

/-- The log of a directory has a single member. -/
def IsSingle (dir : Path) (tree : Tree) : Prop :=
  ∃ only, (LogDirectory.mk dir).readMembers (tree.makeDirectories dir).1 = .ok [only]

/-! ## What is printed first -/

@[simp] theorem Ending.exitCode_after (printed : String) (ending : Ending) :
    (ending.after printed).exitCode = ending.exitCode := rfl

@[simp] theorem Ending.stdout_after (printed : String) (ending : Ending) :
    (ending.after printed).stdout = printed ++ ending.stdout := rfl

namespace Options

/-- **What is written to ask for a confirmation** is the warning with the lead to the answer, if there is a
terminal and the run is neither dry nor was the yes given in advance. -/
theorem asked_eq (options : Options) (world : World) : options.asked world
    = if options.asks ∧ world.typed.isSome then Prompt.warning ++ " [y/n] " else "" := by
  unfold asked consulted Prompt.consult asks
  cases options.dryRun with
  | true => rfl
  | false =>
    cases options.yes with
    | true => rfl
    | false => cases world.typed <;> rfl

/-! ## The deadline -/

/-- **The deadline can be set exactly if the clock can show it.**  The seconds alone are never too many then,
since the clock shows fewer. -/
theorem deadline_eq_ok_iff {options : Options} {clock : Clock} {deadline : Deadline} :
    options.deadline clock = .ok deadline ↔ clock.uptime + options.timeout.toNat * steps < 2 ^ 63
      ∧ deadline = if options.timeout = 0 then .expired else .live := by
  have hsize : UInt64.size = 2 ^ 64 := rfl
  unfold Options.deadline
  simp only
  by_cases hduration : UInt64.size ≤ options.timeout.toNat * steps
  · rw [if_pos hduration]
    exact iff_of_false nofun fun h => by omega
  · rw [if_neg hduration]
    by_cases hinstant : UInt64.size / 2 ≤ clock.uptime + options.timeout.toNat * steps
    · rw [if_pos hinstant]
      exact iff_of_false nofun fun h => by omega
    · have hshown : clock.uptime + options.timeout.toNat * steps < 2 ^ 63 := by omega
      rw [if_neg hinstant, Except.ok.injEq, eq_comm]
      exact (and_iff_right hshown).symm

/-- Where the deadline cannot be set, the clock cannot show it. -/
theorem le_of_deadline_eq_error {options : Options} {clock : Clock} {overflow : Overflow}
    (h : options.deadline clock = .error overflow) :
    2 ^ 63 ≤ clock.uptime + options.timeout.toNat * steps := by
  refine Nat.le_of_not_lt fun hshown => ?_
  rw [deadline_eq_ok_iff.2 ⟨hshown, rfl⟩] at h
  cases h

/-! ## What the exit status means -/

/-- Nothing had to be done: the run was dry, the operator said no, or there was a single member. -/
def Unneeded (options : Options) (world : World) (before : Tree) : Prop :=
  options.dryRun = true
    ∨ options.confirmed world = .ok false
    ∨ ∃ tag config advertised, options.config before = .ok (tag, config, advertised)
      ∧ IsSingle (Setup.dirIn config.dataDir) before

/-- Everything was done that was asked for, and reported. -/
def Completed (options : Options) (world : World) (before after : Tree) (stdout : String) : Prop :=
  options.dryRun = false
    ∧ ∃ tag config advertised outcome, options.config before = .ok (tag, config, advertised)
      ∧ Registered (Setup.dirIn config.dataDir) after outcome
      ∧ stdout = options.asked world ++ Report.render outcome tag.toText
      ∧ if options.rewriteInfo then
          Collapsed (Setup.dirIn config.dataDir) before after outcome
              [infoName, clusterName, recordName, lockName]
            ∧ Rewritten (Setup.dirIn config.dataDir) after outcome
        else
          Collapsed (Setup.dirIn config.dataDir) before after outcome
            [clusterName, recordName, lockName]

/-- The log was collapsed, but what should have followed could not: the registry, and then nothing
was reported, or the node's own record, and then the report was out already. -/
def HalfDone (options : Options) (world : World) (before after : Tree) (stdout : String) : Prop :=
  options.dryRun = false
    ∧ ∃ tag config advertised outcome, options.config before = .ok (tag, config, advertised)
      ∧ (Collapsed (Setup.dirIn config.dataDir) before after outcome [recordName, lockName]
          ∧ stdout = options.asked world
        ∨ options.rewriteInfo = true
          ∧ Collapsed (Setup.dirIn config.dataDir) before after outcome
            [clusterName, recordName, lockName]
          ∧ Registered (Setup.dirIn config.dataDir) after outcome
          ∧ stdout = options.asked world ++ Report.render outcome tag.toText)

/-- The run broke off before it had touched anything, since the clock cannot show its deadline. -/
def BrokenOff (options : Options) (world : World) (before after : Tree) (stdout : String) : Prop :=
  after = before ∧ stdout = options.asked world
    ∧ 2 ^ 63 ≤ world.clock.uptime + options.timeout.toNat * steps

/-- What the exit status tells. -/
def Tells (options : Options) (world : World) (before after : Tree) (ending : Ending) : Prop :=
  match ending.exitCode with
  | 0 =>
      SameFiles before after ∧ options.Unneeded world before
        ∨ options.Completed world before after ending.stdout
  | 1 => SameFiles before after
  | 2 => options.HalfDone world before after ending.stdout
  | 101 => options.BrokenOff world before after ending.stdout
  | _ => False

variable {options : Options} {world : World} {before after : Tree} {ending : Ending}

theorem tells_of_unneeded (hcode : ending.exitCode = 0) (hsame : SameFiles before after)
    (h : options.Unneeded world before) : options.Tells world before after ending := by
  rw [Tells, hcode]
  exact Or.inl ⟨hsame, h⟩

theorem tells_of_completed (hcode : ending.exitCode = 0)
    (h : options.Completed world before after ending.stdout) :
    options.Tells world before after ending := by
  rw [Tells, hcode]
  exact Or.inr h

theorem tells_of_unchanged (hcode : ending.exitCode = 1) (h : SameFiles before after) :
    options.Tells world before after ending := by
  rw [Tells, hcode]
  exact h

theorem tells_of_halfDone (hcode : ending.exitCode = 2)
    (h : options.HalfDone world before after ending.stdout) :
    options.Tells world before after ending := by
  rw [Tells, hcode]
  exact h

theorem tells_of_brokenOff (hcode : ending.exitCode = 101)
    (h : options.BrokenOff world before after ending.stdout) :
    options.Tells world before after ending := by
  rw [Tells, hcode]
  exact h

/-! ## A confirmed run -/

variable {tree left : Tree} {tag : AgentTag} {config : AgentConfig} {advertised : List String}
  {deadline : Deadline} {outcome : Outcome} {failure : Failure}

/-- A deadline that cannot be set ends the run. -/
theorem run_of_overflow {overflow : Overflow} (hconfig : options.config tree = .ok (tag, config, advertised))
    (hdeadline : options.deadline world.clock = .error overflow) :
    options.run world tree = (tree, overflow.ending) := by
  simp only [run, hconfig, hdeadline]

/-- A recovery that fails ends the run. -/
theorem run_of_error (hconfig : options.config tree = .ok (tag, config, advertised))
    (hdeadline : options.deadline world.clock = .ok deadline)
    (houtcome : options.outcome world (options.setup world config) advertised deadline
        (.inDirectory (Setup.dirIn config.dataDir) tree)
      = (.inDirectory (Setup.dirIn config.dataDir) left, .error failure)) :
    options.run world tree = (left, failed "" failure) := by
  have hdir : (options.setup world config).dir = Setup.dirIn config.dataDir := rfl
  simp only [run, hconfig, hdeadline, hdir, houtcome]
  rfl

/-- After a recovery that succeeds, the run ends as rewriting the node's own record does. -/
theorem run_of_ok (hconfig : options.config tree = .ok (tag, config, advertised))
    (hdeadline : options.deadline world.clock = .ok deadline)
    (houtcome : options.outcome world (options.setup world config) advertised deadline
        (.inDirectory (Setup.dirIn config.dataDir) tree)
      = (.inDirectory (Setup.dirIn config.dataDir) left, .ok outcome)) {last : Tree}
    {result : Except Failure Unit}
    (hfollow : options.follow outcome (.inDirectory (Setup.dirIn config.dataDir) left)
      = (.inDirectory (Setup.dirIn config.dataDir) last, result)) :
    options.run world tree
      = (last, match result with
        | .ok () => { exitCode := 0, stdout := Report.render outcome tag.toText }
        | .error failure => failed (Report.render outcome tag.toText) failure) := by
  have hdir : (options.setup world config).dir = Setup.dirIn config.dataDir := rfl
  simp only [run, hconfig, hdeadline, hdir, houtcome, hfollow]
  cases result <;> rfl

/-- Nothing follows an outcome that was not applied. -/
theorem follow_of_unapplied (h : outcome.applied = false) (site : Site) :
    options.follow outcome site = (site, .ok ()) := by
  simp [follow, Site.rewriteInfo, h]

/-- A recovery that was refused has changed no file and exits with 1. -/
theorem tells_of_refusal (h : Setup.Refusal failure) (hsame : SameFiles before after)
    (asked printed : String) :
    options.Tells world before after ((failed printed failure).after asked) := by
  obtain ⟨step, source, rfl, -, hplain⟩ := h
  exact tells_of_unchanged ((Failure.exitCode_stepFailed step source).trans
    (Failure.exitCode_of_isPlain hplain)) hsame

/-- What a run tells that was asked for and confirmed. -/
def RunTells (options : Options) (world : World) (tree : Tree) : Prop :=
  options.Tells world tree (options.run world tree).1
    ((options.run world tree).2.after (options.asked world))

/-- A run without a deadline tells the truth. -/
theorem tells_of_overflow {overflow : Overflow}
    (hconfig : options.config tree = .ok (tag, config, advertised))
    (hdeadline : options.deadline world.clock = .error overflow) : options.RunTells world tree := by
  rw [RunTells, run_of_overflow hconfig hdeadline]
  exact tells_of_brokenOff rfl ⟨rfl, String.append_empty, le_of_deadline_eq_error hdeadline⟩

/-- **A dry run tells the truth.** It fails plainly, or it reports what would be done, and it has touched no
    file either way. -/
theorem tells_of_dryRun (hconfig : options.config tree = .ok (tag, config, advertised))
    (hdeadline : options.deadline world.clock = .ok deadline) (hdry : options.dryRun = true) :
    options.RunTells world tree := by
  have hmade := (makeDirectories_onlyMade tree (Setup.dirIn config.dataDir)).sameFiles
  have houtcome : options.outcome world (options.setup world config) advertised deadline
        (.inDirectory (Setup.dirIn config.dataDir) tree)
      = (options.setup world config).plan advertised deadline
        (.inDirectory (options.setup world config).dir tree) := if_pos hdry
  rcases Setup.plan_cases (options.setup world config) advertised deadline tree with
    ⟨failure, hrefusal, hplan⟩ | ⟨made, home, record, action, hmake, hlimit, hholds, hchoose⟩
  · rw [RunTells, run_of_error hconfig hdeadline (houtcome.trans hplan)]
    exact tells_of_refusal hrefusal hmade _ ""
  · -- a plan is never applied, so the node's own record is left alone
    have hplan := @Setup.plan_of_holds _ advertised _ _ _ _ _ hmake hlimit hholds
    rw [hchoose] at hplan
    rw [RunTells, run_of_ok hconfig hdeadline (houtcome.trans hplan) (follow_of_unapplied rfl _)]
    have hfst : (tree.makeDirectories (Setup.dirIn config.dataDir)).1 = made :=
      congrArg Prod.fst hmake
    exact tells_of_unneeded rfl (hfst ▸ hmade) (Or.inl hdry)

/-- **A run that has forced the log and written the registry tells the truth**, whatever becomes of
the node's own record. -/
theorem tells_of_done (hconfig : options.config tree = .ok (tag, config, advertised))
    (hdeadline : options.deadline world.clock = .ok deadline) (hwet : options.dryRun = false)
    (houtcome : options.outcome world (options.setup world config) advertised deadline
        (.inDirectory (Setup.dirIn config.dataDir) tree)
      = (.inDirectory (Setup.dirIn config.dataDir) left, .ok outcome))
    (hcollapsed : Collapsed (Setup.dirIn config.dataDir) tree left outcome
      [clusterName, recordName, lockName])
    (hregistered : Registered (Setup.dirIn config.dataDir) left outcome) :
    options.RunTells world tree := by
  by_cases hrewrite : options.rewriteInfo = true
  · have hfollow : options.follow outcome (.inDirectory (Setup.dirIn config.dataDir) left)
        = (Site.inDirectory (Setup.dirIn config.dataDir) left).rewriteInfo outcome := if_pos hrewrite
    rcases rewriteInfo_cases hcollapsed hregistered with ⟨failure, hfails, hcode⟩
      | ⟨last, hdone, hcollapsed, hregistered, hrewritten⟩
    · -- the report is out already when the node's own record cannot follow
      rw [RunTells, run_of_ok hconfig hdeadline houtcome (hfollow.trans hfails)]
      exact tells_of_halfDone hcode ⟨hwet, tag, config, advertised, outcome, hconfig,
        Or.inr ⟨hrewrite, hcollapsed, hregistered, rfl⟩⟩
    · rw [RunTells, run_of_ok hconfig hdeadline houtcome (hfollow.trans hdone)]
      refine tells_of_completed rfl
        ⟨hwet, tag, config, advertised, outcome, hconfig, hregistered, rfl, ?_⟩
      rw [if_pos hrewrite]
      exact ⟨hcollapsed, hrewritten⟩
  · have hfollow : options.follow outcome (.inDirectory (Setup.dirIn config.dataDir) left)
        = (.inDirectory (Setup.dirIn config.dataDir) left, .ok ()) := if_neg hrewrite
    rw [RunTells, run_of_ok hconfig hdeadline houtcome hfollow]
    refine tells_of_completed rfl
      ⟨hwet, tag, config, advertised, outcome, hconfig, hregistered, rfl, ?_⟩
    rw [if_neg hrewrite]
    exact hcollapsed

/-- **A run that is not dry tells the truth.** The cases are the five ways of a recovery; the two that
    succeed go on to the node's own record. -/
theorem tells_of_recover (hconfig : options.config tree = .ok (tag, config, advertised))
    (hdeadline : options.deadline world.clock = .ok deadline) (hwet : options.dryRun = false) :
    options.RunTells world tree := by
  have hmade := (makeDirectories_onlyMade tree (Setup.dirIn config.dataDir)).sameFiles
  obtain ⟨left, result, hrecover, hcourse⟩ := Setup.recover_course (options.setup world config)
    world.clock.now advertised deadline tree
  -- a run that is not dry does what a recovery does, and so it has its five ways
  have houtcome : options.outcome world (options.setup world config) advertised deadline
        (.inDirectory (Setup.dirIn config.dataDir) tree)
      = (.inDirectory (Setup.dirIn config.dataDir) left, result) := by
    rw [outcome, hwet]
    exact hrecover
  cases hcourse with
  | refused refusal =>
    rw [RunTells, run_of_error hconfig hdeadline houtcome]
    exact tells_of_refusal refusal hmade _ ""
  | @single home record only inTime holds members =>
    rw [RunTells, run_of_ok hconfig hdeadline houtcome (follow_of_unapplied rfl _)]
    have hsingle : IsSingle (Setup.dirIn config.dataDir) tree :=
      ⟨only, holds.readMembers.trans (by rw [members])⟩
    exact tells_of_unneeded rfl hmade (Or.inr (Or.inr ⟨tag, config, advertised, hconfig, hsingle⟩))
  | late =>
    rw [RunTells, run_of_error hconfig hdeadline houtcome]
    exact tells_of_unchanged rfl hmade
  -- the log was forced and the registry was not written: nothing has been reported
  | @halfway home record survivor forced chosen live force blocked =>
    rw [RunTells, run_of_error hconfig hdeadline houtcome]
    have hsame := hmade.trans_but force.onlyForced.sameFilesBut
    have hcollapsed := @collapsed_of_chosen _ _ _ _ _ _ _ _ [recordName, lockName] chosen
      force.readMembers force.holds.isHome hsame
    exact tells_of_halfDone rfl ⟨hwet, tag, config, advertised, _, hconfig,
      Or.inl ⟨hcollapsed, String.append_empty⟩⟩
  | done chosen live force room =>
    obtain ⟨hcollapsed, hregistered⟩ := collapsed_of_done chosen force room
    exact tells_of_done hconfig hdeadline hwet houtcome hcollapsed hregistered

/-- Every confirmed run tells the truth. -/
theorem run_tells (options : Options) (world : World) (tree : Tree) : options.RunTells world tree := by
  cases hconfig : options.config tree with
  | error failure =>
    have hrun : options.run world tree = (tree, failed "" failure) := by simp only [run, hconfig]
    rw [RunTells, hrun]
    exact tells_of_unchanged (Failure.exitCode_of_isPlain (isPlain_of_config hconfig)) (.refl tree)
  | ok found =>
    obtain ⟨tag, config, advertised⟩ := found
    cases hdeadline : options.deadline world.clock with
    | error overflow => exact tells_of_overflow hconfig hdeadline
    | ok deadline =>
      cases hdry : options.dryRun with
      | true => exact tells_of_dryRun hconfig hdeadline hdry
      | false => exact tells_of_recover hconfig hdeadline hdry

end Options

/-- **The exit status of every call tells the truth about the disk**, and about what was printed behind the
question to the operator. -/
theorem call_tells {args : List String} {options : Options}
    (h : Options.ofArgs args = .ok options) (world : World) (tree : Tree) :
    options.Tells world tree (call args world tree).1 (call args world tree).2 := by
  have hcall : call args world tree = options.start world tree := by rw [call, h]
  rw [hcall, Options.start, Options.answered]
  cases hanswer : options.confirmed world with
  | error fault => exact Options.tells_of_unchanged rfl (.refl tree)
  | ok yes =>
    cases yes with
    | false => exact Options.tells_of_unneeded rfl (.refl tree) (Or.inr (Or.inl hanswer))
    | true => exact Options.run_tells options world tree

/-! ## A machine whose log has two members

The agent of the first member is configured next to the log of the two, and the operator is asked and says
yes.  What is in the place of the registry's file decides how the run ends. -/

/-- The configuration of the agent, behind its first line. -/
def pairBody : List Char := "tag: machine-0\ndatadir: base\napiaddresses:\n- 10.0.0.1:17070\n".toList

/-- The body reads as a configuration with three settings. -/
theorem decode_pairBody : Yaml.decodeText AgentConfig.Layout.ofNode pairBody
    = .ok { tag := "machine-0", dataDir := "base", advertised := Setup.pairAdvertised } := by
  have hdecode : (Yaml.decodeText AgentConfig.Layout.ofNode pairBody).toOption
      = some { tag := "machine-0", dataDir := "base", advertised := Setup.pairAdvertised } := by
    decide +kernel
  cases h : Yaml.decodeText AgentConfig.Layout.ofNode pairBody with
  | error fault =>
    rw [h] at hdecode
    cases hdecode
  | ok layout =>
    rw [h] at hdecode
    exact congrArg Except.ok (Option.some.inj hdecode)

/-- The directory of the agents and of the log. -/
def pairBase : Place := ⟨false, ["base"]⟩

/-- The files of the machine. -/
def pairMachine (cluster : Entry) : Tree where
  entries := [
    (pairBase, .directory),
    (pairBase.child "agents", .directory),
    ((pairBase.child "agents").child "machine-0", .directory),
    (((pairBase.child "agents").child "machine-0").child AgentTag.configName,
      .file (AgentConfig.headed AgentConfig.knownVersion pairBody).toUTF8),
    (pairBase.child "raft", .directory),
    ((pairBase.child "raft").child recordName, .file Setup.pairRecord.toBytes),
    ((pairBase.child "raft").child clusterName, cluster)]
  locked := []

def pairArgs : List String := ["--path", "base", "machine-0"]

def pairOptions : Options := ⟨"machine-0", false, ⟨"base"⟩, 10, false, false, "info", .text⟩

/-- A yes is typed. -/
def pairWorld : World := ⟨⟨"", 0⟩, .ok [], some [0x79, 0x0A]⟩

def pairConfig : AgentConfig where
  tag := ⟨.machine, 0⟩
  dataDir := ⟨"base"⟩
  logDir := ⟨AgentConfig.defaultLogDir⟩
  caCert := ""
  controller := none
  model := none
  advertised := Setup.pairAdvertised
  serving := none
  path := some ⟨"base/agents/machine-0/agent.conf"⟩

/-- The machine's agent is configured, whatever is in the place of the registry's file. -/
theorem config_pair (cluster : Entry) : pairOptions.config (pairMachine cluster)
    = .ok (⟨.machine, 0⟩, pairConfig, Setup.pairAdvertised) := by
  have htag : AgentTag.ofText? pairOptions.tag = some ⟨.machine, 0⟩ := by decide
  have hpath : AgentTag.configPath ⟨.machine, 0⟩ pairOptions.path = ⟨"base/agents/machine-0/agent.conf"⟩ := by
    decide +kernel
  have hfile : (pairMachine cluster).read ⟨"base/agents/machine-0/agent.conf"⟩
      = .ok (AgentConfig.headed AgentConfig.knownVersion pairBody).toUTF8 := rfl
  have hparse : AgentConfig.parse (AgentConfig.headed AgentConfig.knownVersion pairBody)
      = .ok { pairConfig with path := none } := by
    rw [AgentConfig.parse_of_decoded (AgentConfig.firstLine_headed (by decide))
      (AgentConfig.namesVersion_headed rfl rfl (by decide)) decode_pairBody]
    rfl
  have hread : AgentConfig.read ⟨"base/agents/machine-0/agent.conf"⟩ (pairMachine cluster)
      = .ok pairConfig := by
    simp only [AgentConfig.read, hfile, Json.fromUTF8?_toUTF8, hparse]
    rfl
  simp only [Options.config, htag, hpath, hread]
  rfl

theorem holds_pairMachine (cluster : Entry) :
    (pairOptions.setup pairWorld pairConfig).log.Holds (pairMachine cluster) (pairBase.child "raft")
      Setup.pairRecord where
  isHome := .of_locate rfl rfl (by decide)
  recorded := ⟨Setup.pairRecord.toBytes, rfl, LogRecord.trusted_force _ _⟩
  unlocked := ⟨nofun, fun _ _ => nofun⟩

/-- What the recovery on that machine comes to. -/
theorem exists_outcome_pair (cluster : Entry) : ∃ left result,
    pairOptions.outcome pairWorld (pairOptions.setup pairWorld pairConfig) Setup.pairAdvertised .live
        (.inDirectory (Setup.dirIn pairConfig.dataDir) (pairMachine cluster))
      = (.inDirectory (Setup.dirIn pairConfig.dataDir) left, result)
    ∧ if cluster = .directory then ∃ failure, result = .error failure ∧ failure.exitCode = 2
      else ∃ outcome, result = .ok outcome := by
  have hholds := holds_pairMachine cluster
  obtain ⟨forced, hforced⟩ := Setup.exists_forced hholds "" ⟨1, "10.0.0.1:17666", .voter⟩
  have hmake := makeDirectories_of_isDirectory hholds.isHome.isDirectory
  have hcluster : (pairMachine cluster).find? ((pairBase.child "raft").child clusterName) = some cluster :=
    rfl
  have hchoose : (pairOptions.setup pairWorld pairConfig).choose Setup.pairAdvertised
      Setup.pairRecord.stored.membership.members = .ok (.collapse ⟨1, "10.0.0.1:17666", .voter⟩) := rfl
  have hrecover := Setup.recover_of_collapse hmake ⟨by decide, hholds, hchoose⟩ hforced
  rw [hcluster] at hrecover
  rw [Options.outcome, if_neg nofun]
  by_cases hd : cluster = .directory
  · rw [if_pos (congrArg some hd)] at hrecover
    exact ⟨_, _, hrecover, by rw [if_pos hd]; exact ⟨_, rfl, rfl⟩⟩
  · rw [if_neg (mt Option.some.inj hd)] at hrecover
    exact ⟨_, _, hrecover, by rw [if_neg hd]; exact ⟨_, rfl⟩⟩

/-- The confirmed run ends with 2, in silence, if the registry's file cannot be written, and with 0 if it can.
The lock of the log is missing, so forcing makes it. -/
theorem run_pair (cluster : Entry) :
    (pairOptions.run pairWorld (pairMachine cluster)).2.exitCode = (if cluster = .directory then 2 else 0)
      ∧ (cluster = .directory → (pairOptions.run pairWorld (pairMachine cluster)).2.stdout = "") := by
  have hdeadline : pairOptions.deadline pairWorld.clock = .ok .live := rfl
  obtain ⟨left, result, houtcome, hresult⟩ := exists_outcome_pair cluster
  by_cases hd : cluster = .directory
  · rw [if_pos hd] at hresult
    obtain ⟨failure, rfl, hcode⟩ := hresult
    rw [Options.run_of_error (config_pair cluster) hdeadline houtcome, if_pos hd]
    exact ⟨hcode, fun _ => rfl⟩
  · rw [if_neg hd] at hresult
    obtain ⟨outcome, rfl⟩ := hresult
    rw [Options.run_of_ok (config_pair cluster) hdeadline houtcome rfl, if_neg hd]
    exact ⟨rfl, fun h => absurd h hd⟩

/-- The question comes first of what is printed. -/
theorem call_pair (cluster : Entry) : call pairArgs pairWorld (pairMachine cluster)
    = ((pairOptions.run pairWorld (pairMachine cluster)).1,
      (pairOptions.run pairWorld (pairMachine cluster)).2.after (Prompt.warning ++ " [y/n] ")) := by
  have hargs : Options.ofArgs pairArgs = .ok pairOptions := rfl
  have hanswer : pairOptions.confirmed pairWorld = .ok true := by decide +kernel
  simp only [call, hargs, Options.start, Options.answered, hanswer, Options.asked_eq]
  rfl

theorem exitCode_call_pair (cluster : Entry) : (call pairArgs pairWorld (pairMachine cluster)).2.exitCode
    = if cluster = .directory then 2 else 0 := by
  rw [call_pair, Ending.exitCode_after, (run_pair cluster).1]

/-- What is said of the two endings: a yes was typed, the log was collapsed, and with a directory in the place
of the registry's file the rest could not follow. -/
theorem call_tells_pair : Options.ofArgs pairArgs = .ok pairOptions
    ∧ (call pairArgs pairWorld (pairMachine (.file ByteArray.empty))).2.exitCode = 0
    ∧ pairOptions.Tells pairWorld (pairMachine (.file ByteArray.empty))
      (call pairArgs pairWorld (pairMachine (.file ByteArray.empty))).1
      (call pairArgs pairWorld (pairMachine (.file ByteArray.empty))).2
    ∧ pairOptions.HalfDone pairWorld (pairMachine .directory)
      (call pairArgs pairWorld (pairMachine .directory)).1
      (call pairArgs pairWorld (pairMachine .directory)).2.stdout := by
  have hdone := exitCode_call_pair (.file ByteArray.empty)
  have hhalf := exitCode_call_pair .directory
  rw [if_neg nofun] at hdone
  rw [if_pos rfl] at hhalf
  have htells := @call_tells pairArgs pairOptions rfl pairWorld
  have htwo := htells (pairMachine .directory)
  rw [Options.Tells, hhalf] at htwo
  exact ⟨rfl, hdone, htells _, htwo⟩

/-- The exit status 2 of a run without rewriting the node's own record does not mean that nothing was printed:
the operator has been asked. -/
theorem call_halfDone_not_silent : Options.ofArgs pairArgs = .ok pairOptions
    ∧ (call pairArgs pairWorld (pairMachine .directory)).2.exitCode = 2
    ∧ pairOptions.rewriteInfo = false
    ∧ (call pairArgs pairWorld (pairMachine .directory)).2.stdout = Prompt.warning ++ " [y/n] "
    ∧ (call pairArgs pairWorld (pairMachine .directory)).2.stdout ≠ "" := by
  have hcode := exitCode_call_pair .directory
  rw [if_pos rfl] at hcode
  have hprinted : (call pairArgs pairWorld (pairMachine .directory)).2.stdout = Prompt.warning ++ " [y/n] " := by
    rw [call_pair, Ending.stdout_after, (run_pair _).2 rfl, String.append_empty]
  refine ⟨rfl, hcode, rfl, hprinted, ?_⟩
  rw [hprinted]
  decide

end CommandLine

end QuorumRescue
