/-
  The registry has no say.

  The log decides what is done, and the registry is only shown and overwritten.  So a registry that is
  damaged, out of date or missing must not keep a cluster from being recovered, or steer the recovery
  another way.  The statement is on two trees that differ in nothing but the registry's files, with any
  bytes in them, and follows both runs to their ends.

  1. **The specification.** `SameButRegistry` says where two trees may differ: in the file of members,
     where neither has a directory, and in the bytes of the node's own record.  `SameRecovery` says what
     two recoveries may differ in afterwards: in what is told of the registry (`Outcome.blind`), and in
     the time of the record.  The registry itself is the same afterwards, where the collapse was done.

  2. **The crux** is that the relation says where trees may differ by where the registry's paths lead.
     So there are two cases (`SameButRegistry.cases`).  Where the paths of a home's files can be
     followed, in one tree and hence in the other, they lead right inside one place, and every file but
     the registry's is the same.  Where they cannot, the trees do not differ at all.  In both, the
     record and the lock are found alike (`atFile`).

  3. **Planning** reads the log, which is the same.  What it tells of the registry is left aside, and it
     asks for nothing else, not even for whether the registry can be read (`plan_blind`).

  4. **Recovering** goes one of the ways of `Setup.Course`, on both trees the same one.  Only a collapse
     takes some work: it forces both logs to one survivor and writes both registries
     (`sameRecovery_of_collapse`).

  5. **The result** is `registry_has_no_say`.
-/
import QuorumRescue.Proofs.Clock
import QuorumRescue.Proofs.Recovery

namespace QuorumRescue

open LogDirectory RegistryDirectory QuorumRescue.Tree

/-! ## Trees that differ in the registry -/

namespace Tree

variable {a b : Tree}

/-- Where the same is at every place, the same directories are made, with the same result. -/
theorem makeAlong_congr (h : ∀ place, a.find? place = b.find? place) (here : Place)
    (names : List String) :
    (∀ place, (a.makeAlong here names).1.find? place = (b.makeAlong here names).1.find? place)
      ∧ (a.makeAlong here names).2 = (b.makeAlong here names).2 := by
  induction names generalizing a b here with
  | nil => exact ⟨h, rfl⟩
  | cons name rest ih =>
    cases hstep : step here name with
    | error fault => simpa [makeAlong, hstep] using h
    | ok next =>
      cases hfind : b.find? next with
      | some entry =>
        cases entry with
        | file content => simpa [makeAlong, hstep, h next, hfind] using h
        | directory =>
          simp only [makeAlong, hstep, h next, hfind]
          exact ih h next
      | none =>
        simp only [makeAlong, hstep, h next, hfind]
        refine ih (fun place => ?_) next
        by_cases hp : place = next
        · subst hp
          have hs : place.isStart = false := isStart_of_find? (hfind ▸ (Option.some_ne_none _).symm)
          rw [find?_put_self hs, find?_put_self hs]
        · rw [find?_put_of_ne hp, find?_put_of_ne hp, h place]

theorem makeDirectories_congr (h : ∀ place, a.find? place = b.find? place) (path : Path) :
    (∀ place, (a.makeDirectories path).1.find? place = (b.makeDirectories path).1.find? place)
      ∧ (a.makeDirectories path).2 = (b.makeDirectories path).2 := by
  unfold makeDirectories
  cases start path with
  | error fault => exact ⟨h, rfl⟩
  | ok here => exact makeAlong_congr h here path.names

/-- Two trees differ in nothing but a registry: in its file of members, where neither has a directory,
and in the bytes of the node's own record. -/
structure SameButRegistry (registry : RegistryDirectory) (a b : Tree) : Prop where
  locked : a.locked = b.locked
  places : ∀ place, a.find? place = b.find? place
    ∨ (a.locate registry.clusterPath = .ok place
        ∧ a.find? place ≠ some .directory ∧ b.find? place ≠ some .directory)
    ∨ (a.locate registry.infoPath = .ok place
        ∧ ∃ x y, a.find? place = some (.file x) ∧ b.find? place = some (.file y))

namespace SameButRegistry

variable {registry : RegistryDirectory}

/-- The same directories are in both. -/
theorem directory_iff (h : SameButRegistry registry a b) (place : Place) :
    a.find? place = some .directory ↔ b.find? place = some .directory := by
  rcases h.places place with heq | ⟨-, ha, hb⟩ | ⟨-, x, y, ha, hb⟩
  · rw [heq]
  · simp only [ha, hb]
  · simp only [ha, hb, Option.some.injEq, reduceCtorEq]

/-- **Either the trees are the same, or files of the directory can be found in both**, right inside
one place. -/
theorem cases (h : SameButRegistry registry a b) :
    (∀ place, a.find? place = b.find? place)
      ∨ ∃ home : Place, (∃ name place, isPlainName name
            ∧ a.locate (registry.path.child name) = .ok place
            ∧ b.locate (registry.path.child name) = .ok place)
          ∧ (∀ name place, isPlainName name → a.locate (registry.path.child name) = .ok place →
            place = home.child name)
          ∧ ∀ name, isPlainName name →
            a.locate (registry.path.child name) = b.locate (registry.path.child name) := by
  have hkeeps : KeepsDirectories a b := fun place => (h.directory_iff place).1
  by_cases hlocated : ∃ name place, isPlainName name
      ∧ a.locate (registry.path.child name) = .ok place
  · obtain ⟨name, place, hname, hl⟩ := hlocated
    obtain ⟨home, rfl, haround⟩ := exists_around hname hl
    refine Or.inr ⟨home, ⟨name, _, hname, hl, locate_of_keeps hkeeps hl⟩,
      fun other place hother ho => ?_, fun other hother => ?_⟩
    · rw [haround a (.refl a) other hother] at ho
      split at ho
      · cases ho
      · exact (Except.ok.inj ho).symm
    · rw [haround a (.refl a) other hother, haround b hkeeps other hother]
  · refine Or.inl fun place => ?_
    rcases h.places place with heq | ⟨hl, -⟩ | ⟨hl, -⟩
    · exact heq
    · exact absurd ⟨_, _, isPlainName_clusterName, hl⟩ hlocated
    · exact absurd ⟨_, _, isPlainName_infoName, hl⟩ hlocated

/-- **Files of other names are the same**, and so are the ways to them.  This is all that is needed of the
    log's files, since the record and the lock have other names than the registry's. -/
theorem atFile (h : SameButRegistry registry a b) {name : String} (hname : isPlainName name)
    (hcluster : name ≠ clusterName) (hinfo : name ≠ infoName) :
    a.locate (registry.path.child name) = b.locate (registry.path.child name)
      ∧ ∀ place, a.locate (registry.path.child name) = .ok place →
        a.find? place = b.find? place := by
  rcases h.cases with hsame | ⟨home, -, hinside, hlocate⟩
  · have hbytes : SameButBytes a b := fun place => Or.inl (hsame place)
    exact ⟨hbytes.locate_congr _, fun place _ => hsame place⟩
  · refine ⟨hlocate name hname, fun place hl => ?_⟩
    obtain rfl := hinside name place hname hl
    rcases h.places (home.child name) with heq | ⟨hother, -⟩ | ⟨hother, -⟩
    · exact heq
    · exact absurd (Place.child_inj.1 (hinside _ _ isPlainName_clusterName hother)) hcluster
    · exact absurd (Place.child_inj.1 (hinside _ _ isPlainName_infoName hother)) hinfo

theorem read_eq (h : SameButRegistry registry a b) {name : String} (hname : isPlainName name)
    (hcluster : name ≠ clusterName) (hinfo : name ≠ infoName) :
    a.read (registry.path.child name) = b.read (registry.path.child name) := by
  obtain ⟨hlocate, hfind⟩ := h.atFile hname hcluster hinfo
  unfold read entryAt
  rw [← hlocate]
  cases hl : a.locate (registry.path.child name) with
  | error fault => rfl
  | ok place => simp only [hfind place hl]

theorem isDirectory_iff (h : SameButRegistry registry a b) (path : Path) :
    a.isDirectory path ↔ b.isDirectory path :=
  ⟨KeepsDirectories.isDirectory fun place => (h.directory_iff place).1,
    KeepsDirectories.isDirectory fun place => (h.directory_iff place).2⟩

/-- Making the data directory leaves no other difference, and has the same result. -/
theorem makeDirectories (h : SameButRegistry registry a b) :
    SameButRegistry registry (a.makeDirectories registry.path).1 (b.makeDirectories registry.path).1
      ∧ (a.makeDirectories registry.path).2 = (b.makeDirectories registry.path).2 := by
  rcases h.cases with hsame | ⟨home, ⟨name, place, hname, ha, hb⟩, -⟩
  · obtain ⟨hplaces, hresult⟩ := makeDirectories_congr hsame registry.path
    refine ⟨⟨?_, fun place => Or.inl (hplaces place)⟩, hresult⟩
    rw [makeDirectories_locked, makeDirectories_locked, h.locked]
  · -- where files can be found there is nothing to be made
    rw [makeDirectories_of_locate_child hname ha, makeDirectories_of_locate_child hname hb]
    refine ⟨h, ?_⟩
    by_cases hempty : registry.path.text = ""
    · simp [Tree.makeDirectories, start, hempty]
    · rw [makeDirectories_of_isDirectory (isDirectory_of_locate_child hempty hname ha),
        makeDirectories_of_isDirectory (isDirectory_of_locate_child hempty hname hb)]

end SameButRegistry

end Tree

/-! ## The log beside it -/

namespace LogDirectory

variable {log : LogDirectory} {a b : Tree} {home : Place} {record : LogRecord}

/-- A log that holds a record does so whatever is in the registry. -/
theorem Holds.of_sameButRegistry (h : log.Holds a home record)
    (hsame : SameButRegistry ⟨log.path⟩ a b) : log.Holds b home record := by
  have hat : ∀ name, isPlainName name → name ≠ clusterName → name ≠ infoName →
      b.find? (home.child name) = a.find? (home.child name) := fun name hname hcluster hinfo =>
    ((hsame.atFile hname hcluster hinfo).2 _ (h.isHome.inside name hname)).symm
  have hlock := hat lockName isPlainName_lockName clusterName_ne_lockName.symm
    infoName_ne_lockName.symm
  refine ⟨h.isHome.of_keeps fun place => (hsame.directory_iff place).1, ?_, ⟨?_, ?_⟩⟩
  · rw [hat recordName isPlainName_recordName clusterName_ne_recordName.symm
      infoName_ne_recordName.symm]
    exact h.recorded
  · rw [hlock]
    exact h.unlocked.noDirectory
  · rw [hlock, ← hsame.locked]
    exact h.unlocked.free

/-- A log is read alike whatever is in the registry. -/
theorem readMembers_of_sameButRegistry (hsame : SameButRegistry ⟨log.path⟩ a b) :
    log.readMembers a = log.readMembers b := by
  have hread : a.read log.recordPath = b.read log.recordPath :=
    hsame.read_eq isPlainName_recordName clusterName_ne_recordName.symm infoName_ne_recordName.symm
  obtain ⟨hlocate, hfind⟩ : a.locate log.lockPath = b.locate log.lockPath
      ∧ ∀ place, a.locate log.lockPath = .ok place → a.find? place = b.find? place :=
    hsame.atFile isPlainName_lockName clusterName_ne_lockName.symm infoName_ne_lockName.symm
  have htry : (a.tryLock log.lockPath false).2 = (b.tryLock log.lockPath false).2 := by
    unfold Tree.tryLock
    rw [← hlocate, ← hsame.locked]
    cases hl : a.locate log.lockPath with
    | error fault => cases fault <;> rfl
    | ok place =>
      simp only [← hfind place hl]
      cases a.find? place with
      | none => rfl
      | some entry => cases entry <;> rfl
  have hdir := hsame.isDirectory_iff log.path
  simp only [readMembers, htry, readRecord_congr hread, hdir]

/-- The bytes of a record that has been forced. -/
theorem read_of_force {now : String} {members : List Member} {stored : StoredMembership}
    (h : log.force now members a = (b, .ok ())) (hholds : log.Holds b home (.force now stored)) :
    b.find? (home.child recordName) = some (.file (LogRecord.force now stored).toBytes) := by
  rcases log.force_at members a with ⟨after, failure, hforce⟩ | ⟨locked, place, written, hl, hd, hforce⟩
  · rw [hforce now] at h
    cases h
  · obtain rfl := (congrArg Prod.fst ((hforce now).symm.trans h)).symm
    have hkeeps := @keepsDirectories_put locked place
      (.file (LogRecord.force now written).toBytes) hd
    obtain rfl := Except.ok.inj ((hholds.isHome.inside recordName isPlainName_recordName).symm.trans
      (locate_of_keeps hkeeps hl))
    have hself := @find?_put_self locked _ (.file (LogRecord.force now written).toBytes)
      (Place.isStart_child home recordName)
    -- what was written can be trusted, so it is the record that the log is known to hold
    obtain ⟨bytes, hbytes, htrusted⟩ := hholds.recorded
    obtain rfl := Entry.file.inj (Option.some.inj (hself.symm.trans hbytes))
    rw [LogRecord.trusted_force] at htrusted
    rw [hself, Except.ok.inj htrusted]

end LogDirectory

/-! ## Deciding without it -/

/-- An outcome without what the registry says. -/
def Outcome.blind (outcome : Outcome) : Outcome := { outcome with registry := none }

namespace Setup

variable {setup : Setup} {advertised : List String} {deadline : Deadline} {a b : Tree}

/-- A decision rests on the members in the log. -/
theorem decide_blind {site other : Site}
    (h : setup.members deadline site = setup.members deadline other) :
    (setup.decide advertised deadline site).map Outcome.blind
      = (setup.decide advertised deadline other).map Outcome.blind := by
  unfold decide
  rw [h]
  cases setup.members deadline other with
  | error failure => rfl
  | ok previous =>
    simp only
    cases setup.choose advertised previous <;> rfl

/-- **Planning does not ask the registry**, so no failure of the registry is one of planning.  What the
    registry says goes into the report, and there it may be missing. -/
theorem plan_blind (site : Site) (other : Registry) :
    (setup.plan advertised deadline { site with registry := other }).2.map Outcome.blind
      = (setup.plan advertised deadline site).2.map Outcome.blind := by
  obtain ⟨made, result, hmake⟩ : ∃ made result,
      site.tree.makeDirectories setup.dir = (made, result) := ⟨_, _, rfl⟩
  simp only [plan, ensureDir, hmake]
  cases result with
  | error fault => rfl
  | ok => exact decide_blind rfl

theorem members_of_sameButRegistry (h : SameButRegistry setup.registry a b) :
    setup.members deadline (.inDirectory setup.dir a)
      = setup.members deadline (.inDirectory setup.dir b) := by
  by_cases hlimit : setup.readLimit deadline = .expired
  · rw [members_of_expired hlimit, members_of_expired hlimit]
  · rw [members_inDirectory hlimit, members_inDirectory hlimit, readMembers_of_sameButRegistry h]

/-- Planning on both trees comes to the same. -/
theorem plan_of_sameButRegistry (h : SameButRegistry setup.registry a b) :
    (setup.plan advertised deadline (.inDirectory setup.dir a)).2.map Outcome.blind
      = (setup.plan advertised deadline (.inDirectory setup.dir b)).2.map Outcome.blind := by
  obtain ⟨hmade, hresult⟩ := h.makeDirectories
  obtain ⟨made, result, hmake⟩ : ∃ made result, a.makeDirectories setup.dir = (made, result) :=
    ⟨_, _, rfl⟩
  obtain ⟨made', result', hmake'⟩ : ∃ made' result', b.makeDirectories setup.dir = (made', result') :=
    ⟨_, _, rfl⟩
  simp only [hmake, hmake'] at hmade hresult
  subst hresult
  cases result with
  | error fault => simp only [plan, ensureDir, Site.inDirectory, hmake, hmake']
  | ok =>
    rw [plan_of_made hmake, plan_of_made hmake']
    exact decide_blind (members_of_sameButRegistry hmade)

/-! ## Recovering without it -/

/-- Two readings of a record differ at most in when it was forced. -/
def SameButForcedAt (read read' : Except IoFault ByteArray) : Prop :=
  read = read' ∨ ∃ stored now now', read = .ok (LogRecord.force now stored).toBytes
    ∧ read' = .ok (LogRecord.force now' stored).toBytes

/-- Two recoveries have come to the same result, but for what the registry said, and to the same
record, but for the time; and where they were done, to the same registry. -/
structure SameRecovery (setup : Setup) (p q : Site × Except Failure Outcome) : Prop where
  result : p.2.map Outcome.blind = q.2.map Outcome.blind
  record : SameButForcedAt (p.1.tree.read setup.log.recordPath) (q.1.tree.read setup.log.recordPath)
  cluster : ∀ outcome, p.2 = .ok outcome → outcome.applied = true →
    p.1.tree.read setup.registry.clusterPath = q.1.tree.read setup.registry.clusterPath

variable {now now' : String} {made made' forced forced' : Tree} {home : Place} {record : LogRecord}
  {survivor : Member}

/-- Recoveries that have done nothing but to make the data directory. -/
theorem sameRecovery_of_made (h : SameButRegistry setup.registry a b)
    {result result' : Except Failure Outcome}
    (hresult : result.map Outcome.blind = result'.map Outcome.blind)
    (hidle : ∀ outcome, result = .ok outcome → outcome.applied = false) :
    setup.SameRecovery (.inDirectory setup.dir a, result) (.inDirectory setup.dir b, result') where
  result := hresult
  record := Or.inl (h.read_eq isPlainName_recordName clusterName_ne_recordName.symm
    infoName_ne_recordName.symm)
  cluster outcome hok happlied := by
    rw [hidle outcome hok] at happlied
    cases happlied

/-- The record of a log that was forced to a survivor. -/
theorem Forced.read_record (h : setup.Forced now made home record survivor forced) :
    forced.read setup.log.recordPath = .ok (LogRecord.force now
      ⟨some (.following record.stored.logId survivor.id),
        .single survivor.id survivor.address⟩).toBytes :=
  (h.holds.isHome.read_eq_ok_iff isPlainName_recordName).2 (read_of_force h.force h.holds)

/-- Registering leaves the record as it was. -/
theorem read_record_registered (h : setup.log.Holds forced home record)
    (hroom : forced.find? (home.child clusterName) ≠ some .directory) (members : List Member) :
    (registered forced home members).read setup.log.recordPath = forced.read setup.log.recordPath :=
  h.isHome.read_congr (h.isHome.of_keeps (keepsDirectories_put hroom)) isPlainName_recordName
    (find?_put_of_ne (Place.child_ne clusterName_ne_recordName.symm))

/-- **Collapsing both trees to one survivor comes to the same**, in the log and in the registry.  Either
    both registries have room for the file or neither has, and then both recoveries stop halfway. -/
theorem sameRecovery_of_collapse (h : SameButRegistry setup.registry made made')
    (hmake : a.makeDirectories setup.dir = (made, .ok ()))
    (hmake' : b.makeDirectories setup.dir = (made', .ok ()))
    (hchosen : setup.Chosen advertised .live made home record survivor) :
    setup.SameRecovery (setup.recover now advertised .live (.inDirectory setup.dir a))
      (setup.recover now' advertised .live (.inDirectory setup.dir b)) := by
  have hchosen' : setup.Chosen advertised .live made' home record survivor :=
    ⟨hchosen.inTime, hchosen.holds.of_sameButRegistry h, hchosen.chosen⟩
  obtain ⟨forced, hforced⟩ := exists_forced hchosen.holds now survivor
  obtain ⟨forced', hforced'⟩ := exists_forced hchosen'.holds now' survivor
  have hrecord : ∀ {x y : Except IoFault ByteArray}, x = forced.read setup.log.recordPath →
      y = forced'.read setup.log.recordPath → SameButForcedAt x y := by
    rintro x y rfl rfl
    exact Or.inr ⟨_, now, now', hforced.read_record, hforced'.read_record⟩
  rw [recover_of_collapse hmake hchosen hforced, recover_of_collapse hmake' hchosen' hforced']
  -- a directory in the place of the registry's file would be one in both trees
  simp only [← h.directory_iff]
  by_cases hd : made.find? (home.child clusterName) = some .directory
  · simp only [if_pos hd]
    exact ⟨rfl, hrecord rfl rfl, nofun⟩
  · have hroom := hforced.room hd
    have hroom' := hforced'.room fun hd' => hd ((h.directory_iff _).2 hd')
    simp only [if_neg hd]
    refine ⟨rfl, hrecord (read_record_registered hforced.holds hroom _)
      (read_record_registered hforced'.holds hroom' _), fun _ _ _ => ?_⟩
    exact (read_registered hforced.holds.isHome hroom _).trans
      (read_registered hforced'.holds.isHome hroom' _).symm

/-- **Recovering from both trees comes to the same**, whichever way it goes.  The way is that of the first
    tree; the second one goes it, too, since the same members are read and the same is chosen. -/
theorem recover_of_sameButRegistry (h : SameButRegistry setup.registry a b) :
    setup.SameRecovery (setup.recover now advertised deadline (.inDirectory setup.dir a))
      (setup.recover now' advertised deadline (.inDirectory setup.dir b)) := by
  have hplans := @plan_of_sameButRegistry setup advertised deadline a b h
  obtain ⟨hmade, hresult⟩ := h.makeDirectories
  rcases plan_cases setup advertised deadline a with ⟨failure, -, hplan⟩
    | ⟨made, home, record, action, hmake, hlimit, hholds, hchoose⟩
  · -- what is refused on one tree is refused on the other
    obtain ⟨site, result, hplan'⟩ : ∃ site result,
        setup.plan advertised deadline (.inDirectory setup.dir b) = (site, result) := ⟨_, _, rfl⟩
    have hsite := fst_plan setup advertised deadline b
    rw [hplan, hplan'] at hplans
    rw [hplan'] at hsite
    obtain rfl : site = _ := hsite
    cases result with
    | ok outcome => cases hplans
    | error failure' =>
      obtain rfl : failure = failure' := Except.error.inj hplans
      rw [recover, recover, hplan, hplan']
      exact sameRecovery_of_made hmade rfl fun _ hok => by cases hok
  · rw [hmake] at hmade hresult
    obtain ⟨made', hmake'⟩ : ∃ made', b.makeDirectories setup.dir = (made', .ok ()) :=
      ⟨_, Prod.ext rfl hresult.symm⟩
    rw [hmake'] at hmade
    have hholds' := hholds.of_sameButRegistry hmade
    rcases choose_eq_ok_iff.1 hchoose with ⟨only, hsingle, rfl⟩ | ⟨survivor, -, -, -, rfl⟩
    · rw [recover_of_single hmake hlimit hholds hsingle, recover_of_single hmake' hlimit hholds' hsingle]
      refine sameRecovery_of_made hmade rfl fun outcome hok => ?_
      rw [← Except.ok.inj hok]
      rfl
    · have hchosen : setup.Chosen advertised deadline made home record survivor :=
        ⟨hlimit, hholds, hchoose⟩
      by_cases hlive : deadline = .live
      · subst hlive
        exact sameRecovery_of_collapse hmade hmake hmake' hchosen
      · rw [recover_of_late hmake hchosen hlive,
          recover_of_late hmake' ⟨hlimit, hholds', hchoose⟩ hlive]
        exact sameRecovery_of_made hmade rfl fun _ hok => by cases hok

/-- **The registry never steers the decision.**  On two trees that differ in nothing but the registry,
plans come to the same, and so do recoveries, whatever the times: the same failure or the same outcome,
the same record but for its time, and the same registry where the collapse was done.  And a plan is the
same with any other registry, be it one that cannot be read at all. -/
theorem registry_has_no_say (setup : Setup) (advertised : List String) (deadline : Deadline) :
    (∀ a b, SameButRegistry setup.registry a b →
      (setup.plan advertised deadline (.inDirectory setup.dir a)).2.map Outcome.blind
          = (setup.plan advertised deadline (.inDirectory setup.dir b)).2.map Outcome.blind
        ∧ ∀ now now', setup.SameRecovery
            (setup.recover now advertised deadline (.inDirectory setup.dir a))
            (setup.recover now' advertised deadline (.inDirectory setup.dir b)))
    ∧ ∀ (site : Site) (other : Registry),
      (setup.plan advertised deadline { site with registry := other }).2.map Outcome.blind
        = (setup.plan advertised deadline site).2.map Outcome.blind := by
  constructor
  · intro a b h
    constructor
    · exact plan_of_sameButRegistry h
    · intro now now'
      exact recover_of_sameButRegistry h
  · exact plan_blind

/-- The two members without a registry. -/
def bareTree : Tree where
  entries := [(pairHome, .directory), (pairHome.child recordName, .file pairRecord.toBytes)]
  locked := []

/-- A missing registry and one with any content are no other difference. -/
theorem sameButRegistry_bareTree (content : ByteArray) :
    SameButRegistry pairSetup.registry bareTree (pairTree (.file content)) where
  locked := rfl
  places place := by
    by_cases hp : place = pairHome.child clusterName
    · subst hp
      exact Or.inr (Or.inl ⟨rfl, nofun, nofun⟩)
    · left
      have hne : pairHome.child clusterName ≠ place := fun he => hp he.symm
      simp [find?, bareTree, pairTree, List.find?_cons, hne]

/-- Without a registry the two members are collapsed as beside one that is no YAML, and a registry that
is itself set up to fail does not keep them from being planned for. -/
theorem registry_has_no_say_pair :
    (SameButRegistry pairSetup.registry bareTree (pairTree (.file "\t".toUTF8))
      ∧ (pairSetup.plan pairAdvertised .live (.inDirectory pairSetup.dir bareTree)).2.map Outcome.blind
        = (pairSetup.plan pairAdvertised .live
            (.inDirectory pairSetup.dir (pairTree (.file "\t".toUTF8)))).2.map Outcome.blind
      ∧ pairSetup.SameRecovery
          (pairSetup.recover "" pairAdvertised .live (.inDirectory pairSetup.dir bareTree))
          (pairSetup.recover "" pairAdvertised .live
            (.inDirectory pairSetup.dir (pairTree (.file "\t".toUTF8)))))
    ∧ (pairSetup.plan pairAdvertised .live ⟨bareTree, .onDisk pairSetup.log,
          .inMemory none none ⟨some (.internal .noVoter), none, none⟩⟩).2.map Outcome.blind
        = (pairSetup.plan pairAdvertised .live
            (.inDirectory pairSetup.dir bareTree)).2.map Outcome.blind := by
  obtain ⟨hsame, hother⟩ := registry_has_no_say pairSetup pairAdvertised .live
  obtain ⟨hplan, hrecover⟩ := hsame _ _ (sameButRegistry_bareTree "\t".toUTF8)
  exact ⟨⟨sameButRegistry_bareTree _, hplan, hrecover "" ""⟩,
    hother (.inDirectory pairSetup.dir bareTree) _⟩

end Setup

end QuorumRescue
