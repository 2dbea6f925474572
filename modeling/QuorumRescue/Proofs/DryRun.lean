/-
  Dry runs.

  An operator who is about to throw members out of a log asks first what would happen.  The answer is
  only worth something if the real run then does this and nothing else, and if asking has changed
  nothing.  This file proves both.

  1. **The prediction.** A recovery is planned first and carried out next.  So a plan that fails is the
     recovery's failure, and a plan that succeeds is the recovery's outcome but for the note that it has
     been applied (`Site.carryOut_eq_ok`).  Of what follows after the plan, only failures are not
     foretold.

  2. **The report.** A report on a plan to collapse ends with the registry's file as the recovery is
     going to leave it, since report and registry write the members that the outcome leaves with one and
     the same function (`Report.render_of_collapse`, `read_of_recover`).

  3. **The crux** of the other half is what a dry run leaves behind.  It stops at the plan, and a plan
     makes the data directory.  `OnlyMade` says of two trees that they differ in directories alone, each
     missing before and on the way of that path; it also holds of every tree in between, while the
     directories are made one after the other (`makeSome_onlyMade`).

  4. **The program.** A dry run from the command line does what planning does, whatever else was asked
     for: there is nothing to rewrite after an outcome that was not applied (`fst_start_of_dryRun`).

  5. **The result.** `plan_predicts` puts the parts together.
-/
import QuorumRescue.Proofs.ExitCode
import QuorumRescue.Proofs.Interruption

namespace QuorumRescue

/-! ## Directories made one by one -/

namespace Tree

/-- Fewer names lead through fewer places. -/
theorem mem_along_of_take {here place : Place} {names : List String} {count : Nat}
    (h : place ∈ along here (names.take count)) : place ∈ along here names := by
  induction names generalizing here count with
  | nil => simpa using h
  | cons name rest ih =>
    cases count with
    | zero => cases h
    | succ count =>
      rw [List.take_succ_cons] at h
      cases hstep : step here name with
      | error fault => simp [along, hstep] at h
      | ok next =>
        simp only [along, hstep, List.mem_cons] at h ⊢
        exact h.imp_right ih

/-- Until a directory has been made, there are only some of the directories on its way. -/
theorem makeSome_onlyMade (tree : Tree) (path : Path) (count : Nat) :
    OnlyMade path tree (tree.makeSome path count) := by
  intro place
  unfold makeSome onTheWay
  cases start path with
  | error fault => exact Or.inl rfl
  | ok here =>
    rcases @makeAlong_find? tree here (path.names.take count) place with heq | ⟨hmem, hnone, hdir⟩
    · exact Or.inl heq
    · exact Or.inr ⟨mem_along_of_take hmem, hnone, hdir⟩

end Tree

/-! ## The report on a plan -/

/-- A report on a collapse that has not been applied ends with the registry's text. -/
theorem Report.render_of_collapse {outcome : Outcome} {survivor : Member}
    (haction : outcome.action = .collapse survivor) (hdry : outcome.applied = false) (tag : String) :
    ∃ lead, render outcome tag = lead ++ clusterText outcome := by
  have hconclusion : conclusion outcome tag
      = "surviving node: " ++ survivor.toText ++ "\n\n"
        ++ ("dry run: cluster.yaml would become\n\n" ++ clusterText outcome) := by
    simp only [conclusion, haction, hdry]
    rfl
  refine ⟨views outcome ++ ("surviving node: " ++ survivor.toText ++ "\n\n"
    ++ "dry run: cluster.yaml would become\n\n"), ?_⟩
  rw [render, hconclusion]
  simp only [String.append_assoc]

/-! ## Plan and recovery -/

/-- Carrying out an outcome that succeeds notes that it was applied, if there was something to do. -/
theorem Site.carryOut_eq_ok {now : String} {outcome done : Outcome} {deadline : Deadline}
    {site after : Site} (h : site.carryOut now outcome deadline = (after, .ok done)) :
    (∃ only, outcome.action = .alreadySingle only ∧ done = outcome)
      ∨ ∃ survivor, outcome.action = .collapse survivor
        ∧ done = { outcome with applied := true } := by
  rw [carryOut] at h
  cases haction : outcome.action with
  | alreadySingle only =>
    simp only [haction] at h
    exact Or.inl ⟨only, rfl, (Except.ok.inj (Prod.mk.inj h).2).symm⟩
  | collapse survivor =>
    simp only [haction] at h
    split at h
    · cases h
    · exact Or.inr ⟨survivor, rfl, (Except.ok.inj (Prod.mk.inj h).2).symm⟩

namespace Setup

open LogDirectory RegistryDirectory QuorumRescue.Tree

variable {setup : Setup} {now : String} {advertised : List String} {deadline : Deadline}
  {site after : Site}

/-- A plan has not been applied. -/
theorem plan_unapplied {planned : Outcome}
    (h : setup.plan advertised deadline site = (after, .ok planned)) : planned.applied = false := by
  obtain ⟨-, previous, action, -, -, rfl⟩ := plan_eq_ok h
  rfl

/-- After a recovery that was applied, the registry's file has the text of the members left. -/
theorem read_of_recover {tree : Tree} {done : Outcome}
    (h : setup.recover now advertised deadline (.inDirectory setup.dir tree) = (after, .ok done))
    (happlied : done.applied = true) :
    after.tree.read setup.registry.clusterPath = .ok (Report.clusterText done).toUTF8 := by
  obtain ⟨left, rfl, hcourse⟩ := course_of_recover h
  cases hcourse with
  | single => cases happlied
  | done chosen live force room => exact read_registered force.holds.isHome room _

/-- What was planned as a collapse, and has been done, is in the registry's file as the report on the
plan shows it: both are the text of the members left. -/
theorem report_of_recover {tree : Tree} {planned : Outcome} {survivor : Member}
    (hdry : planned.applied = false) (haction : planned.action = .collapse survivor)
    (h : setup.recover now advertised deadline (.inDirectory setup.dir tree)
      = (after, .ok { planned with applied := true })) : ∃ text,
    after.tree.read setup.registry.clusterPath = .ok text.toUTF8
      ∧ ∀ tag, ∃ lead, Report.render planned tag = lead ++ text := by
  have htext : Report.clusterText { planned with applied := true } = Report.clusterText planned := rfl
  have hread := read_of_recover h rfl
  rw [htext] at hread
  exact ⟨Report.clusterText planned, hread, Report.render_of_collapse haction hdry⟩

end Setup

namespace CommandLine.Options

open QuorumRescue.Tree

/-- A dry run leaves the tree as it is or makes the data directory, as far as that can be done. -/
theorem fst_start_of_dryRun {options : Options} (hdry : options.dryRun = true) (world : World)
    (tree : Tree) : (options.start world tree).1 = tree
      ∨ ∃ tag config advertised, options.config tree = .ok (tag, config, advertised)
        ∧ (options.start world tree).1 = (tree.makeDirectories (Setup.dirIn config.dataDir)).1 := by
  have hstart : (options.start world tree).1 = (options.run world tree).1 := by
    simp only [start, answered, confirmed, consulted, hdry, if_true]
  rw [hstart]
  cases hconfig : options.config tree with
  | error failure =>
    refine Or.inl ?_
    simp only [run, hconfig]
  | ok found =>
    obtain ⟨tag, config, advertised⟩ := found
    cases hdeadline : options.deadline world.clock with
    | error overflow => exact Or.inl (congrArg Prod.fst (run_of_overflow hconfig hdeadline))
    | ok deadline =>
      refine Or.inr ⟨tag, config, advertised, rfl, ?_⟩
      obtain ⟨made, result, hplan⟩ : ∃ made result, (options.setup world config).plan advertised
          deadline (.inDirectory (Setup.dirIn config.dataDir) tree) = (made, result) := ⟨_, _, rfl⟩
      have hmade : .inDirectory (Setup.dirIn config.dataDir)
          (tree.makeDirectories (Setup.dirIn config.dataDir)).1 = made := by
        have hfst := Setup.fst_plan (options.setup world config) advertised deadline tree
        exact hfst.symm.trans (congrArg Prod.fst hplan)
      have houtcome : options.outcome world (options.setup world config) advertised deadline
          (.inDirectory (Setup.dirIn config.dataDir) tree) = (made, result) := by
        rw [outcome, if_pos hdry, hplan]
      rw [← hmade] at houtcome hplan
      cases result with
      | error failure => rw [run_of_error hconfig hdeadline houtcome]
      | ok planned =>
        -- whether or not it was asked for, there is nothing to rewrite
        have hfollow := @follow_of_unapplied options planned (Setup.plan_unapplied hplan)
          (.inDirectory (Setup.dirIn config.dataDir)
            (tree.makeDirectories (Setup.dirIn config.dataDir)).1)
        rw [run_of_ok hconfig hdeadline houtcome hfollow]

end CommandLine.Options

/-! ## Prediction -/

namespace Setup

open QuorumRescue.Tree CommandLine

/-- **A dry run predicts the real one.**  Where planning fails, the recovery fails with the same.  Where
both succeed, the recovery's outcome is the plan, applied if it was to collapse; and then the report on
the plan ends with what is in the registry's file.  A dry run of the program, whatever else was asked
for, changes no file, and makes nothing but directories that are missing on the way of the data
directory, as it goes and in the end. -/
theorem plan_predicts (setup : Setup) (now : String) (advertised : List String)
    (deadline : Deadline) (tree : Tree) :
    (∀ site failure, setup.plan advertised deadline (.inDirectory setup.dir tree)
        = (site, .error failure) →
      setup.recover now advertised deadline (.inDirectory setup.dir tree) = (site, .error failure))
    ∧ (∀ site planned after done, setup.plan advertised deadline (.inDirectory setup.dir tree)
        = (site, .ok planned) →
      setup.recover now advertised deadline (.inDirectory setup.dir tree) = (after, .ok done) →
        done = { planned with applied := done.applied }
        ∧ (done.applied = true ↔ ∃ survivor, planned.action = .collapse survivor)
        ∧ ((∃ survivor, planned.action = .collapse survivor) → ∃ text,
          after.tree.read setup.registry.clusterPath = .ok text.toUTF8
            ∧ ∀ tag, ∃ lead, Report.render planned tag = lead ++ text))
    ∧ ∀ (options : Options) (world : World), options.dryRun = true →
      SameFiles tree (options.start world tree).1
        ∧ ((options.start world tree).1 = tree
          ∨ ∃ tag config advertised, options.config tree = .ok (tag, config, advertised)
            ∧ OnlyMade (dirIn config.dataDir) tree (options.start world tree).1
            ∧ ∀ count, OnlyMade (dirIn config.dataDir) tree
              (tree.makeSome (dirIn config.dataDir) count)) := by
  refine ⟨fun site failure hplan => ?_, fun site planned after done hplan hrecover => ?_,
    fun options world hdry => ?_⟩
  · rw [recover, hplan]
  · have hdry := plan_unapplied hplan
    have hcarry : site.carryOut now planned deadline = (after, .ok done) := by
      rw [recover, hplan] at hrecover
      exact hrecover
    rcases Site.carryOut_eq_ok hcarry with ⟨only, haction, rfl⟩ | ⟨survivor, haction, rfl⟩
    · -- a single member: nothing was to be done, and nothing was
      have hno : ¬ ∃ survivor, done.action = .collapse survivor := by
        rintro ⟨survivor, hcollapse⟩
        rw [haction] at hcollapse
        cases hcollapse
      refine ⟨rfl, ⟨fun happlied => ?_, fun h => absurd h hno⟩, fun h => absurd h hno⟩
      rw [hdry] at happlied
      cases happlied
    · exact ⟨rfl, ⟨fun _ => ⟨survivor, haction⟩, fun _ => rfl⟩,
        fun _ => report_of_recover hdry haction hrecover⟩
  · -- a dry run of the program gets no further than to the data directory
    rcases Options.fst_start_of_dryRun hdry world tree with heq | ⟨tag, config, found, hconfig, heq⟩
    · rw [heq]
      exact ⟨.refl tree, Or.inl rfl⟩
    · have hmade := makeDirectories_onlyMade tree (dirIn config.dataDir)
      rw [heq]
      exact ⟨hmade.sameFiles, Or.inr ⟨tag, config, found, hconfig, hmade,
        makeSome_onlyMade tree (dirIn config.dataDir)⟩⟩

/-- With one advertised address two members are collapsed as planned; without any, planning fails and so
does the recovery; and a dry run, which would go on to the node's own record, changes no file. -/
theorem plan_predicts_pair :
    (∃ planned after done, pairSetup.plan pairAdvertised .live
          (.inDirectory pairSetup.dir (pairTree (.file ByteArray.empty)))
        = (.inDirectory pairSetup.dir (pairTree (.file ByteArray.empty)), .ok planned)
      ∧ pairSetup.recover "" pairAdvertised .live
          (.inDirectory pairSetup.dir (pairTree (.file ByteArray.empty))) = (after, .ok done)
      ∧ done = { planned with applied := true }
      ∧ ∃ text, after.tree.read pairSetup.registry.clusterPath = .ok text.toUTF8
        ∧ ∀ tag, ∃ lead, Report.render planned tag = lead ++ text)
    ∧ (∃ site failure, pairSetup.plan [] .live
          (.inDirectory pairSetup.dir (pairTree (.file ByteArray.empty))) = (site, .error failure)
      ∧ pairSetup.recover "" [] .live
          (.inDirectory pairSetup.dir (pairTree (.file ByteArray.empty))) = (site, .error failure))
    ∧ SameFiles (pairTree (.file ByteArray.empty)) (Options.start
        ⟨"machine-0", false, ⟨"/var/lib/controller"⟩, 10, true, true, "info", .text⟩
        ⟨"", .ok [], none⟩ (pairTree (.file ByteArray.empty))).1 := by
  have hholds := holds_pairTree (.file ByteArray.empty)
  have hmake : (pairTree (.file ByteArray.empty)).makeDirectories pairSetup.dir
      = (pairTree (.file ByteArray.empty), .ok ()) :=
    makeDirectories_of_isDirectory hholds.isHome.isDirectory
  have hlimit : pairSetup.readLimit .live ≠ .expired := by decide
  refine ⟨?_, ?_, ?_⟩
  · have hplan := @plan_of_holds _ pairAdvertised _ _ _ _ _ hmake hlimit hholds
    rw [choose_pair] at hplan
    obtain ⟨forced, -, hrecover⟩ := exists_recover_pair (.file ByteArray.empty)
    rw [if_neg nofun] at hrecover
    obtain ⟨hdone, happlied, htext⟩ :=
      (plan_predicts pairSetup "" pairAdvertised .live _).2.1 _ _ _ _ hplan hrecover
    exact ⟨_, _, _, hplan, hrecover, hdone, htext ⟨_, rfl⟩⟩
  · have hplan := @plan_of_holds _ [] _ _ _ _ _ hmake hlimit hholds
    obtain ⟨failure, hchoose⟩ : ∃ failure,
        pairSetup.choose [] pairRecord.stored.membership.members = .error failure := ⟨_, rfl⟩
    rw [hchoose] at hplan
    exact ⟨_, _, hplan, (plan_predicts pairSetup "" [] .live _).1 _ _ hplan⟩
  · exact ((plan_predicts pairSetup "" [] .live _).2.2 _ _ rfl).1

end Setup

end QuorumRescue
