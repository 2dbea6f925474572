/-
  Recovering at different times.

  Planning is said to be the same at any time of day, and recovering to be the same but for the time
  that is written down.  The time goes into the record of a forced membership, in the middle of a
  recovery, with the registry still to come; so this is a statement about two runs that go on side by
  side after they have begun to differ.

  1. **The specification.** Two sites are `SameButTime` if they have the same kinds of log and registry,
     the same locks, and the same files except for one, which on both sides is the log's record, forced
     from one stored membership at two times.  Two runs are `Alike` if they give one answer and leave
     such sites.

  2. **The crux** is that what follows the record does not look at it.  Trees that differ in the bytes
     of files only lead all paths to the same places (`locate_congr`), so whatever is written next is
     written in both or in neither, and what was the same but for the time stays so (`SameButTime.put`).

  3. **The results** go up by one function at a time: forcing fails alike at all times or puts records
     that differ in the time (`force_at`), and so registering, setting the members, carrying out and
     recovering are alike (`Setup.recover_alike`).
-/
import QuorumRescue.Proofs.Log
import QuorumRescue.Recovery

namespace QuorumRescue

open QuorumRescue.Tree

/-! ## Forcing at any time -/

namespace LogDirectory

/-- **The time of day is only written down.**  Forcing fails alike at all times, or puts a record in
the same place that differs in the time. -/
theorem force_at (log : LogDirectory) (members : List Member) (tree : Tree) :
    (∃ after failure, ∀ now, log.force now members tree = (after, .error failure))
      ∨ ∃ (locked : Tree) (place : Place) (stored : StoredMembership),
        locked.locate log.recordPath = .ok place ∧ locked.find? place ≠ some .directory
        ∧ ∀ now, log.force now members tree
          = (locked.put place (.file (LogRecord.force now stored).toBytes), .ok ()) := by
  cases members with
  | nil => exact Or.inl ⟨_, _, fun _ => rfl⟩
  | cons first rest =>
    by_cases hd : tree.isDirectory log.path = true
    · obtain ⟨locked, answer, htry⟩ : ∃ locked answer,
          tree.tryLock log.lockPath true = (locked, answer) := ⟨_, _, rfl⟩
      simp only [force, if_pos hd, htry]
      cases answer with
      | failed fault => exact Or.inl ⟨_, _, fun _ => rfl⟩
      | heldElsewhere => exact Or.inl ⟨_, _, fun _ => rfl⟩
      | noFile => exact Or.inl ⟨_, _, fun _ => rfl⟩
      -- the entry, the membership and the place are the same at all times; only the record has the time in it
      | taken =>
        simp only [forceLocked]
        cases log.lastEntry locked with
        | error failure => exact Or.inl ⟨_, _, fun _ => rfl⟩
        | ok last =>
          cases Membership.ofMembers? (first :: rest) with
          | none => exact Or.inl ⟨_, _, fun _ => rfl⟩
          | some membership =>
            rcases log.write_at ⟨some (.following last first.id), membership⟩ locked with
              ⟨failure, hfails⟩ | ⟨place, hl, hdir, hdone⟩
            · exact Or.inl ⟨locked, failure, hfails⟩
            · exact Or.inr ⟨locked, place, _, hl, hdir, hdone⟩
    · simp only [force, if_neg hd]
      exact Or.inl ⟨_, _, fun _ => rfl⟩

end LogDirectory

namespace Site

/-! ## Sites that differ in a time -/

/-- Two sites differ in nothing but the time of day in the record of their log. -/
structure SameButTime (a b : Site) : Prop where
  log : a.log = b.log
  registry : a.registry = b.registry
  locked : a.tree.locked = b.tree.locked
  files : ∀ place, a.tree.find? place = b.tree.find? place
    ∨ ∃ directory stored now now', a.log = .onDisk directory
      ∧ a.tree.locate directory.recordPath = .ok place
      ∧ a.tree.find? place = some (.file (LogRecord.force now stored).toBytes)
      ∧ b.tree.find? place = some (.file (LogRecord.force now' stored).toBytes)

variable {a b : Site}

theorem SameButTime.refl (a : Site) : SameButTime a a := ⟨rfl, rfl, rfl, fun _ => Or.inl rfl⟩

theorem SameButTime.sameButBytes (h : SameButTime a b) : SameButBytes a.tree b.tree := by
  intro place
  rcases h.files place with heq | ⟨_, _, _, _, -, -, ha, hb⟩
  · exact Or.inl heq
  · exact Or.inr ⟨_, _, ha, hb⟩

/-- Sites stay the same but for the time when the same is put in the same place. -/
theorem SameButTime.put (h : SameButTime a b) {place : Place}
    (hd : a.tree.find? place ≠ some .directory) (entry : Entry) :
    SameButTime { a with tree := a.tree.put place entry }
      { b with tree := b.tree.put place entry } := by
  refine ⟨h.log, h.registry, h.locked, fun other => ?_⟩
  by_cases ho : other = place
  · subst ho
    have hs := isStart_of_find? hd
    exact Or.inl ((find?_put_self hs).trans (find?_put_self hs).symm)
  · simp only [find?_put_of_ne ho]
    rcases h.files other with heq | ⟨directory, stored, now, now', hlog, hl, ha, hb⟩
    · exact Or.inl heq
    · exact Or.inr ⟨directory, stored, now, now', hlog,
        locate_of_keeps (keepsDirectories_put hd) hl, ha, hb⟩

/-- Two operations come to the same result, at sites that differ in a time at most. -/
def Alike {α : Type} (p q : Site × Except Failure α) : Prop := p.2 = q.2 ∧ SameButTime p.1 q.1

theorem Alike.refl {α : Type} (p : Site × Except Failure α) : Alike p p := ⟨rfl, .refl p.1⟩

/-- Runs that are alike fail alike or succeed alike. -/
theorem Alike.cases {α : Type} {p q : Site × Except Failure α} (h : Alike p q) :
    (∃ a b failure, p = (a, .error failure) ∧ q = (b, .error failure) ∧ SameButTime a b)
      ∨ ∃ a b value, p = (a, .ok value) ∧ q = (b, .ok value) ∧ SameButTime a b := by
  obtain ⟨a, result⟩ := p
  obtain ⟨b, result'⟩ := q
  obtain ⟨hresult, hsame⟩ := h
  obtain rfl : result = result' := hresult
  cases result with
  | error failure => exact Or.inl ⟨a, b, failure, rfl, rfl, hsame⟩
  | ok value => exact Or.inr ⟨a, b, value, rfl, rfl, hsame⟩

/-! ## Operations at two times -/

theorem force_alike (site : Site) (members : List Member) (now now' : String) :
    Alike (site.force now members) (site.force now' members) := by
  cases hlog : site.log with
  | inMemory current readFailure forceFailure =>
    cases forceFailure <;> simp [force, hlog, ConsensusLog.force, Alike.refl]
  | stalled => simp [force, hlog, ConsensusLog.force, Alike.refl]
  | onDisk directory =>
    rcases directory.force_at members site.tree with ⟨after, failure, hforce⟩
      | ⟨locked, place, stored, hl, hd, hforce⟩
    · simp [force, hlog, ConsensusLog.force, hforce, Alike.refl]
    · have hs := isStart_of_find? hd
      simp only [force, hlog, ConsensusLog.force, hforce]
      refine ⟨rfl, rfl, rfl, rfl, fun other => ?_⟩
      by_cases ho : other = place
      · subst ho
        exact Or.inr ⟨directory, stored, now, now', rfl,
          locate_of_keeps (keepsDirectories_put hd) hl, find?_put_self hs, find?_put_self hs⟩
      · exact Or.inl ((find?_put_of_ne ho).trans (find?_put_of_ne ho).symm)

/-- The registry is written alike at sites that differ in a time. -/
theorem SameButTime.register (h : SameButTime a b) (members : List Member) :
    Alike (a.register members) (b.register members) := by
  have hregistry := h.registry
  cases ha : a.registry with
  | inMemory current info failures =>
    rw [ha] at hregistry
    simp only [Site.register, ha, ← hregistry, Registry.setMembers]
    cases failures.setMembers with
    | some failure => exact ⟨rfl, h.log, rfl, h.locked, h.files⟩
    | none => exact ⟨rfl, h.log, rfl, h.locked, h.files⟩
  -- paths lead to the same places, so both files are replaced or neither is
  | onDisk directory =>
    rw [ha] at hregistry
    simp only [Site.register, ha, ← hregistry, Registry.setMembers, RegistryDirectory.setMembers,
      RegistryDirectory.writeFile]
    rcases h.sameButBytes.replace directory.path RegistryDirectory.clusterName with ⟨fault, hfails⟩
      | ⟨place, hl, hd, hdone⟩
    · obtain ⟨hra, hrb⟩ := hfails (String.ofList (Registry.clusterText members)).toUTF8
        (String.ofList (Registry.clusterText members)).toUTF8
      simp only [hra, hrb]
      cases fault <;> exact ⟨rfl, h.log, rfl, h.locked, h.files⟩
    · obtain ⟨hra, hrb⟩ := hdone (String.ofList (Registry.clusterText members)).toUTF8
        (String.ofList (Registry.clusterText members)).toUTF8
      have hput := h.put hd (.file (String.ofList (Registry.clusterText members)).toUTF8)
      simp only [hra, hrb]
      exact ⟨rfl, hput.log, rfl, hput.locked, hput.files⟩

theorem setMembers_alike (site : Site) (members : List Member) (deadline : Deadline)
    (now now' : String) :
    Alike (site.setMembers now members deadline) (site.setMembers now' members deadline) := by
  cases deadline with
  | short => exact .refl _
  | expired => exact .refl _
  | live =>
    simp only [setMembers]
    rcases (site.force_alike members now now').cases with ⟨a, b, failure, ha, hb, hsame⟩
      | ⟨a, b, done, ha, hb, hsame⟩
    · simp only [ha, hb]
      exact ⟨rfl, hsame⟩
    · simp only [ha, hb]
      rcases (hsame.register members).cases with ⟨a, b, failure, ha, hb, hsame⟩
        | ⟨a, b, done, ha, hb, hsame⟩
      · simp only [ha, hb]
        exact ⟨rfl, hsame⟩
      · simp only [ha, hb]
        exact ⟨rfl, hsame⟩

theorem carryOut_alike (site : Site) (outcome : Outcome) (deadline : Deadline) (now now' : String) :
    Alike (site.carryOut now outcome deadline) (site.carryOut now' outcome deadline) := by
  simp only [carryOut]
  cases outcome.action with
  | alreadySingle only => exact .refl _
  | collapse survivor =>
    rcases (site.setMembers_alike outcome.members deadline now now').cases with
      ⟨a, b, failure, ha, hb, hsame⟩ | ⟨a, b, done, ha, hb, hsame⟩
    · simp only [ha, hb]
      exact ⟨rfl, hsame⟩
    · simp only [ha, hb]
      exact ⟨rfl, hsame⟩

end Site

/-- **A recovery does not depend on its time**, but for the time that is written down.  Planning takes no
    time at all; what is carried out is alike step by step. -/
theorem Setup.recover_alike (setup : Setup) (advertised : List String) (deadline : Deadline)
    (site : Site) (now now' : String) :
    Site.Alike (setup.recover now advertised deadline site)
      (setup.recover now' advertised deadline site) := by
  simp only [recover]
  split
  · exact .refl _
  · exact Site.carryOut_alike _ _ deadline now now'

end QuorumRescue
