/-
  What the operations on a file tree leave alone.

  Nearly all that is promised of a recovery is about files that are not touched.  This file has the
  relations in which such promises are made, and says of each operation on a tree which of them it
  keeps.

  1. **The places.** Every operation puts something at one place at a time, so everything about a tree
     is known from `find?` at that place and at all others (`find?_put_self`, `find?_put_of_ne`).

  2. **The relations.** Directories stay directories (`KeepsDirectories`), which is all that following a
     path depends on.  No regular file is different (`SameFiles`), or none but at certain places
     (`SameFilesBut`).  Nothing is different but for missing directories on the way of a path
     (`OnlyMade`).  Two trees differ in the bytes of files only (`SameButBytes`).

  3. **The crux** is making a directory, the only operation that changes several places.  It goes down
     the path name by name, so all about it is by induction on the names: it makes what is missing on
     the way and nothing else (`makeAlong_find?`), the path leads somewhere afterwards
     (`walk_makeAlong`), making what is there does nothing (`makeAlong_of_walk`), and it goes on where
     it was interrupted (`makeAlong_resume`).

  4. **Paths.** A path that can be followed leads to the same place as long as directories stay
     (`locate_of_keeps`).  Trees that differ in the bytes of files only lead all paths to the same
     places (`locate_congr`), so whatever is written is written in both or in neither.

  5. **Locks.** Who has locked what makes no difference to what is read or made.
-/
import QuorumRescue.Tree

namespace QuorumRescue.Tree

/-! ## One place changed -/

theorem find?_put_self {tree : Tree} {place : Place} {entry : Entry} (h : place.isStart = false) :
    (tree.put place entry).find? place = some entry := by
  simp [find?, put, h]

theorem find?_put_of_ne {tree : Tree} {place other : Place} {entry : Entry} (h : other ≠ place) :
    (tree.put place entry).find? other = tree.find? other := by
  have hfind : (tree.entries.filter fun e => e.1 ≠ place).find? (fun e => e.1 = other)
      = tree.entries.find? fun e => e.1 = other := by
    rw [List.find?_filter]
    congr 1
    funext e
    by_cases he : e.1 = other
    · simp [he, h]
    · simp [he]
  simp only [find?, put, List.find?_cons, Ne.symm h, decide_false, hfind]

theorem find?_start {tree : Tree} {place : Place} (h : place.isStart) :
    tree.find? place = some .directory := by simp [find?, h]

/-- What is not a directory is not one of the starting points. -/
theorem isStart_of_find? {tree : Tree} {place : Place} (h : tree.find? place ≠ some .directory) :
    place.isStart = false := by
  cases hs : place.isStart with
  | false => rfl
  | true => exact absurd (find?_start hs) h

theorem find?_create_self {tree : Tree} {place : Place} (h : place.isStart = false) :
    (tree.create place).find? place = some (.file ByteArray.empty) :=
  find?_put_self h

theorem find?_create_of_ne {tree : Tree} {place other : Place} (h : other ≠ place) :
    (tree.create place).find? other = tree.find? other :=
  find?_put_of_ne h

/-! ## Directories stay -/

/-- Every directory of the first tree is one of the second. -/
def KeepsDirectories (before after : Tree) : Prop :=
  ∀ place, before.find? place = some .directory → after.find? place = some .directory

theorem KeepsDirectories.refl (tree : Tree) : KeepsDirectories tree tree := fun _ h => h

theorem KeepsDirectories.trans {a b c : Tree} (hab : KeepsDirectories a b)
    (hbc : KeepsDirectories b c) : KeepsDirectories a c :=
  fun place h => hbc place (hab place h)

theorem keepsDirectories_put {tree : Tree} {place : Place} {entry : Entry}
    (h : tree.find? place ≠ some .directory) : KeepsDirectories tree (tree.put place entry) := by
  intro other ho
  have hne : other ≠ place := by rintro rfl; exact h ho
  rw [find?_put_of_ne hne, ho]

theorem keepsDirectories_create {tree : Tree} {place : Place} (h : tree.find? place = none) :
    KeepsDirectories tree (tree.create place) := by
  have hne : tree.find? place ≠ some .directory := by rw [h]; exact nofun
  exact fun other ho => keepsDirectories_put hne other ho

/-- **A path that can be followed leads to the same place** as long as directories stay.  What is in the
    last place does not matter, since a walk only looks at the directories that it leaves. -/
theorem walk_of_keeps {before after : Tree} (h : KeepsDirectories before after)
    {here place : Place} {names : List String} (hw : before.walk here names = .ok place) :
    after.walk here names = .ok place := by
  induction names generalizing here with
  | nil => exact hw
  | cons name rest ih =>
    simp only [walk] at hw ⊢
    split at hw
    · cases hw
    · cases hw
    · next hdir =>
      rw [h here hdir]
      split at hw
      · cases hw
      · next next hstep =>
        simp only
        exact ih hw

theorem locate_of_keeps {before after : Tree} (h : KeepsDirectories before after) {path : Path}
    {place : Place} (hl : before.locate path = .ok place) : after.locate path = .ok place := by
  unfold locate at hl ⊢
  split at hl
  · cases hl
  · exact walk_of_keeps h hl

/-- A path is known to be a directory by where it leads. -/
theorem isDirectory_iff {tree : Tree} {path : Path} :
    tree.isDirectory path
      ↔ ∃ place, tree.locate path = .ok place ∧ tree.find? place = some .directory := by
  unfold isDirectory entryAt
  constructor
  · intro h
    cases hl : tree.locate path with
    | error fault => simp [hl] at h
    | ok place =>
      refine ⟨place, rfl, ?_⟩
      cases hf : tree.find? place with
      | none => simp [hl, hf] at h
      | some entry => cases entry <;> simp_all
  · rintro ⟨place, hl, hf⟩
    simp [hl, hf]

/-- A path that leads to a directory still does. -/
theorem KeepsDirectories.isDirectory {before after : Tree} (h : KeepsDirectories before after)
    {path : Path} (hd : before.isDirectory path) : after.isDirectory path := by
  obtain ⟨place, hl, hp⟩ := isDirectory_iff.1 hd
  exact isDirectory_iff.2 ⟨place, locate_of_keeps h hl, h place hp⟩

/-- Trying for a lock leaves the tree as it is, or makes the file that was missing. -/
theorem tryLock_cases (tree : Tree) (path : Path) (create : Bool) :
    (tree.tryLock path create).1 = tree
      ∨ ∃ place, tree.locate path = .ok place ∧ tree.find? place = none
        ∧ (tree.tryLock path create).1 = tree.create place := by
  unfold tryLock
  split
  · exact Or.inl rfl
  · exact Or.inl rfl
  · next place hl =>
    cases hf : tree.find? place with
    | some entry => cases entry <;> exact Or.inl rfl
    | none =>
      cases create with
      | true => exact Or.inr ⟨place, hl, hf, rfl⟩
      | false => exact Or.inl rfl

/-- Trying for a lock leaves all directories where they are. -/
theorem keepsDirectories_tryLock (tree : Tree) (path : Path) (create : Bool) :
    KeepsDirectories tree (tree.tryLock path create).1 := by
  rcases tree.tryLock_cases path create with heq | ⟨place, -, hnone, heq⟩
  · rw [heq]
    exact .refl tree
  · rw [heq]
    exact keepsDirectories_create hnone

/-! ## Making directories -/

/-- The places that names lead through, one after the other. -/
def along (here : Place) : List String → List Place
  | [] => []
  | name :: rest =>
      match step here name with
      | .error _ => []
      | .ok next => next :: along next rest

/-- The places on the way of a path, its end included. -/
def onTheWay (path : Path) : List Place :=
  match start path with
  | .error _ => []
  | .ok here => along here path.names

/-- Nothing is different but for missing directories on the way of a path. -/
def OnlyMade (path : Path) (before after : Tree) : Prop :=
  ∀ place, after.find? place = before.find? place
    ∨ (place ∈ onTheWay path ∧ before.find? place = none ∧ after.find? place = some .directory)

/-- No regular file is changed, added or removed. -/
def SameFiles (before after : Tree) : Prop :=
  ∀ place content, after.find? place = some (.file content) ↔ before.find? place = some (.file content)

/-- No regular file is changed, added or removed, but at some places. -/
def SameFilesBut (places : List Place) (before after : Tree) : Prop :=
  ∀ place, place ∉ places → ∀ content,
    after.find? place = some (.file content) ↔ before.find? place = some (.file content)

theorem OnlyMade.refl (path : Path) (tree : Tree) : OnlyMade path tree tree := fun _ => Or.inl rfl

theorem SameFiles.refl (tree : Tree) : SameFiles tree tree := fun _ _ => Iff.rfl

/-- **Making directories changes no file.** -/
theorem OnlyMade.sameFiles {path : Path} {before after : Tree} (h : OnlyMade path before after) :
    SameFiles before after := by
  intro place content
  rcases h place with heq | ⟨-, hnone, hdir⟩
  · rw [heq]
  · rw [hnone, hdir]
    exact ⟨nofun, nofun⟩

theorem SameFiles.trans_but {a b c : Tree} {places : List Place} (hab : SameFiles a b)
    (hbc : SameFilesBut places b c) : SameFilesBut places a c :=
  fun place hp content => (hbc place hp content).trans (hab place content)

theorem SameFilesBut.put {before after : Tree} {places : List Place}
    (h : SameFilesBut places before after) (place : Place) (entry : Entry) :
    SameFilesBut (place :: places) before (after.put place entry) := by
  intro other ho content
  have hne : other ≠ place := fun he => ho (he ▸ List.mem_cons_self)
  rw [find?_put_of_ne hne]
  exact h other (fun hmem => ho (List.mem_cons_of_mem _ hmem)) content

/-- **Making directories makes missing directories** on the way, and does nothing else.  It stops at the
    first name that leads to a file, and leaves what was made until then. -/
theorem makeAlong_find? {tree : Tree} {here : Place} {names : List String} (place : Place) :
    (tree.makeAlong here names).1.find? place = tree.find? place
      ∨ (place ∈ along here names ∧ tree.find? place = none
          ∧ (tree.makeAlong here names).1.find? place = some .directory) := by
  induction names generalizing tree here with
  | nil => exact Or.inl rfl
  | cons name rest ih =>
    cases hstep : step here name with
    | error fault => simp [makeAlong, hstep]
    | ok next =>
      have halong : along here (name :: rest) = next :: along next rest := by simp [along, hstep]
      cases hfind : tree.find? next with
      | some entry =>
        cases entry with
        | file content => simp [makeAlong, hstep, hfind]
        | directory =>
          have hmake : tree.makeAlong here (name :: rest) = tree.makeAlong next rest := by
            simp [makeAlong, hstep, hfind]
          rw [hmake, halong]
          rcases @ih tree next with h | ⟨hmem, hnone, hdir⟩
          · exact Or.inl h
          · exact Or.inr ⟨List.mem_cons_of_mem _ hmem, hnone, hdir⟩
      | none =>
        have hmake : tree.makeAlong here (name :: rest)
            = (tree.put next .directory).makeAlong next rest := by simp [makeAlong, hstep, hfind]
        have hself : (tree.put next .directory).find? next = some .directory :=
          find?_put_self (isStart_of_find? (by rw [hfind]; exact nofun))
        rw [hmake, halong]
        -- the way may come back to a directory that was made on it, which is then left as it is
        by_cases hp : place = next
        · subst hp
          rcases @ih (tree.put place .directory) place with h | ⟨-, hnone, -⟩
          · exact Or.inr ⟨List.mem_cons_self, hfind, h.trans hself⟩
          · rw [hself] at hnone; cases hnone
        · have hother : (tree.put next .directory).find? place = tree.find? place := find?_put_of_ne hp
          rcases @ih (tree.put next .directory) next with h | ⟨hmem, hnone, hdir⟩
          · exact Or.inl (h.trans hother)
          · exact Or.inr ⟨List.mem_cons_of_mem _ hmem, hother ▸ hnone, hdir⟩

theorem makeAlong_locked (tree : Tree) (here : Place) (names : List String) :
    (tree.makeAlong here names).1.locked = tree.locked := by
  fun_induction makeAlong tree here names <;> simp_all [put]

theorem keepsDirectories_makeAlong (tree : Tree) (here : Place) (names : List String) :
    KeepsDirectories tree (tree.makeAlong here names).1 := by
  intro place h
  rcases @makeAlong_find? tree here names place with heq | ⟨-, hnone, -⟩
  · rw [heq, h]
  · rw [hnone] at h; cases h

/-- When all directories have been made, the names lead to the last of them. -/
theorem walk_makeAlong {tree after : Tree} {here : Place} {names : List String}
    (hhere : tree.find? here = some .directory)
    (h : tree.makeAlong here names = (after, .ok ())) :
    ∃ place, after.walk here names = .ok place ∧ after.find? place = some .directory := by
  induction names generalizing tree here with
  | nil =>
    obtain ⟨rfl, -⟩ := Prod.mk.inj h
    exact ⟨here, rfl, hhere⟩
  | cons name rest ih =>
    -- what has been made is still there when the rest has been made
    have hkeep : KeepsDirectories tree after := by
      have := keepsDirectories_makeAlong tree here (name :: rest)
      rwa [h] at this
    cases hstep : step here name with
    | error fault => simp [makeAlong, hstep] at h
    | ok next =>
      have hwalk : after.walk here (name :: rest) = after.walk next rest := by
        simp [walk, hkeep here hhere, hstep]
      rw [hwalk]
      cases hfind : tree.find? next with
      | some entry =>
        cases entry with
        | file content => simp [makeAlong, hstep, hfind] at h
        | directory =>
          simp only [makeAlong, hstep, hfind] at h
          exact ih hfind h
      | none =>
        simp only [makeAlong, hstep, hfind] at h
        exact ih (find?_put_self (isStart_of_find? (by rw [hfind]; exact nofun))) h

/-- Where names can be followed to a directory, everything on the way is one. -/
theorem find?_of_walk {tree : Tree} {here place : Place} {names : List String}
    (hw : tree.walk here names = .ok place) (hp : tree.find? place = some .directory) :
    tree.find? here = some .directory := by
  cases names with
  | nil =>
    obtain rfl : here = place := by simpa [walk] using hw
    exact hp
  | cons name rest =>
    simp only [walk] at hw
    split at hw
    · cases hw
    · cases hw
    · assumption

/-- **Making directories that are there does nothing.** In particular, the second time does nothing. -/
theorem makeAlong_of_walk {tree : Tree} {here place : Place} {names : List String}
    (hw : tree.walk here names = .ok place) (hp : tree.find? place = some .directory) :
    tree.makeAlong here names = (tree, .ok ()) := by
  induction names generalizing here with
  | nil => rfl
  | cons name rest ih =>
    have hhere := find?_of_walk hw hp
    cases hstep : step here name with
    | error fault => simp [walk, hhere, hstep] at hw
    | ok next =>
      simp only [walk, hhere, hstep] at hw
      simp only [makeAlong, hstep, find?_of_walk hw hp]
      exact ih hw

/-- Making directories goes on where it was interrupted: after some of the names it makes what is
left. -/
theorem makeAlong_resume (tree : Tree) (here : Place) (names : List String) (count : Nat) :
    (tree.makeAlong here (names.take count)).1.makeAlong here names = tree.makeAlong here names := by
  induction names generalizing tree here count with
  | nil => simp [makeAlong]
  | cons name rest ih =>
    cases count with
    | zero => rfl
    | succ count =>
      rw [List.take_succ_cons]
      cases hstep : step here name with
      | error fault => simp [makeAlong, hstep]
      | ok next =>
        -- a directory that the first run found or made is still there when the second comes by
        cases hfind : tree.find? next with
        | some entry =>
          cases entry with
          | file content => simp [makeAlong, hstep, hfind]
          | directory =>
            have hkeep := keepsDirectories_makeAlong tree next (rest.take count) next hfind
            simp only [makeAlong, hstep, hfind, hkeep]
            exact ih tree next count
        | none =>
          have hself : (tree.put next .directory).find? next = some .directory :=
            find?_put_self (isStart_of_find? (by rw [hfind]; exact nofun))
          have hkeep := keepsDirectories_makeAlong (tree.put next .directory) next
            (rest.take count) next hself
          simp only [makeAlong, hstep, hfind, hkeep]
          exact ih (tree.put next .directory) next count

/-! ## The directory of a path -/

/-- **Making the directory of a path** changes nothing else. -/
theorem makeDirectories_onlyMade (tree : Tree) (path : Path) :
    OnlyMade path tree (tree.makeDirectories path).1 := by
  intro place
  unfold makeDirectories onTheWay
  cases start path with
  | error fault => exact Or.inl rfl
  | ok here => exact makeAlong_find? place

theorem makeDirectories_locked (tree : Tree) (path : Path) :
    (tree.makeDirectories path).1.locked = tree.locked := by
  unfold makeDirectories
  cases start path with
  | error fault => rfl
  | ok here => exact makeAlong_locked tree here path.names

theorem find?_of_start {tree : Tree} {path : Path} {here : Place} (h : start path = .ok here) :
    tree.find? here = some .directory := by
  unfold start at h
  split at h
  · cases h
  split at h
  · cases h
  split at h
  · cases h
  · obtain rfl := Except.ok.inj h
    exact find?_start rfl

/-- A directory that has been made is there. -/
theorem isDirectory_makeDirectories {tree after : Tree} {path : Path}
    (h : tree.makeDirectories path = (after, .ok ())) : after.isDirectory path := by
  unfold makeDirectories at h
  cases hs : start path with
  | error fault => simp [hs] at h
  | ok here =>
    simp only [hs] at h
    obtain ⟨place, hw, hp⟩ := walk_makeAlong (find?_of_start hs) h
    exact isDirectory_iff.2 ⟨place, by simp [locate, hs, hw], hp⟩

/-- A directory that is there need not be made. -/
theorem makeDirectories_of_isDirectory {tree : Tree} {path : Path} (h : tree.isDirectory path) :
    tree.makeDirectories path = (tree, .ok ()) := by
  obtain ⟨place, hl, hp⟩ := isDirectory_iff.1 h
  unfold locate at hl
  unfold makeDirectories
  cases hs : start path with
  | error fault => simp [hs] at hl
  | ok here =>
    simp only [hs] at hl
    exact makeAlong_of_walk hl hp

/-- Making a directory a second time comes to the same. -/
theorem makeDirectories_again (tree : Tree) (path : Path) :
    (tree.makeDirectories path).1.makeDirectories path = tree.makeDirectories path := by
  unfold makeDirectories
  cases start path with
  | error fault => rfl
  | ok here =>
    have hagain := makeAlong_resume tree here path.names path.names.length
    rwa [List.take_length] at hagain

/-! ## Trees that differ in bytes -/

variable {a b : Tree}

/-- The same is at every place, but for the bytes of files. -/
def SameButBytes (a b : Tree) : Prop :=
  ∀ place, a.find? place = b.find? place
    ∨ ∃ x y, a.find? place = some (.file x) ∧ b.find? place = some (.file y)

theorem SameButBytes.refl (a : Tree) : SameButBytes a a := fun _ => Or.inl rfl

/-- What is at a place is nothing, a directory, or a file, in both trees alike. -/
theorem SameButBytes.cases (h : SameButBytes a b) (place : Place) :
    (a.find? place = none ∧ b.find? place = none)
      ∨ (a.find? place = some .directory ∧ b.find? place = some .directory)
      ∨ ∃ x y, a.find? place = some (.file x) ∧ b.find? place = some (.file y) := by
  rcases h place with heq | hfiles
  · rw [← heq]
    cases a.find? place with
    | none => exact Or.inl ⟨rfl, rfl⟩
    | some entry =>
      cases entry with
      | directory => exact Or.inr (Or.inl ⟨rfl, rfl⟩)
      | file x => exact Or.inr (Or.inr ⟨x, x, rfl, rfl⟩)
  · exact Or.inr (Or.inr hfiles)

theorem SameButBytes.walk_congr (h : SameButBytes a b) (here : Place) (names : List String) :
    a.walk here names = b.walk here names := by
  induction names generalizing here with
  | nil => rfl
  | cons name rest ih =>
    rcases h.cases here with ⟨ha, hb⟩ | ⟨ha, hb⟩ | ⟨x, y, ha, hb⟩
    · simp only [walk, ha, hb]
    · simp only [walk, ha, hb]
      cases step here name with
      | error fault => rfl
      | ok next => exact ih next
    · simp only [walk, ha, hb]

/-- **Paths do not depend on the bytes of files.** A walk asks of a place whether it is a directory, and no
    more. -/
theorem SameButBytes.locate_congr (h : SameButBytes a b) (path : Path) : a.locate path = b.locate path := by
  unfold locate
  cases start path with
  | error fault => rfl
  | ok here => exact h.walk_congr here path.names

/-- A file is replaced in both trees or in neither, whatever its new bytes are. -/
theorem SameButBytes.replace (h : SameButBytes a b) (dir : Path) (name : String) :
    (∃ fault, ∀ x y, a.replace dir name x = (a, .error fault)
        ∧ b.replace dir name y = (b, .error fault))
      ∨ ∃ place, a.locate (dir.child name) = .ok place ∧ a.find? place ≠ some .directory
        ∧ ∀ x y, a.replace dir name x = (a.put place (.file x), .ok ())
          ∧ b.replace dir name y = (b.put place (.file y), .ok ()) := by
  unfold Tree.replace
  rw [← h.locate_congr, ← h.locate_congr]
  cases a.locate (dir.child draftName) with
  | error fault => exact Or.inl ⟨_, fun _ _ => ⟨rfl, rfl⟩⟩
  | ok =>
    cases a.locate (dir.child name) with
    | error fault => exact Or.inl ⟨_, fun _ _ => ⟨rfl, rfl⟩⟩
    | ok place =>
      rcases h.cases place with ⟨ha, hb⟩ | ⟨ha, hb⟩ | ⟨_, _, ha, hb⟩
      · exact Or.inr ⟨place, rfl, by simp [ha], fun _ _ => ⟨by simp [ha], by simp [hb]⟩⟩
      · exact Or.inl ⟨.file .isDirectory, fun _ _ => ⟨by simp [ha], by simp [hb]⟩⟩
      · exact Or.inr ⟨place, rfl, by simp [ha], fun _ _ => ⟨by simp [ha], by simp [hb]⟩⟩

/-- **Replacing a file** fails and leaves the tree as it is, or puts the bytes where the file's path
leads. -/
theorem replace_cases (tree : Tree) (dir : Path) (name : String) (content : ByteArray) :
    (∃ fault, tree.replace dir name content = (tree, .error fault))
      ∨ ∃ place, tree.locate (dir.child name) = .ok place ∧ tree.find? place ≠ some .directory
        ∧ tree.replace dir name content = (tree.put place (.file content), .ok ()) := by
  rcases (SameButBytes.refl tree).replace dir name with ⟨fault, hfails⟩ | ⟨place, hl, hd, hdone⟩
  · exact Or.inl ⟨fault, (hfails content content).1⟩
  · exact Or.inr ⟨place, hl, hd, (hdone content content).1⟩

/-! ## Locks of others -/

/-- The same tree, with other files locked. -/
def withLocked (tree : Tree) (locked : List Place) : Tree := { tree with locked := locked }

theorem sameButBytes_withLocked (tree : Tree) (locked : List Place) :
    SameButBytes (tree.withLocked locked) tree := fun _ => Or.inl rfl

/-- Who has locked what makes no difference to what is read. -/
theorem read_withLocked (tree : Tree) (locked : List Place) (path : Path) :
    (tree.withLocked locked).read path = tree.read path := by
  unfold read entryAt
  rw [(sameButBytes_withLocked tree locked).locate_congr]
  rfl

theorem makeAlong_withLocked (tree : Tree) (locked : List Place) (here : Place)
    (names : List String) : ((tree.withLocked locked).makeAlong here names).1
      = (tree.makeAlong here names).1.withLocked locked := by
  induction names generalizing tree here with
  | nil => rfl
  | cons name rest ih =>
    cases hstep : step here name with
    | error fault => simp [makeAlong, hstep]
    | ok next =>
      have hsame : (tree.withLocked locked).find? next = tree.find? next := rfl
      cases hfind : tree.find? next with
      | some entry =>
        cases entry with
        | file content => simp [makeAlong, hstep, hsame, hfind]
        | directory =>
          simp only [makeAlong, hstep, hsame, hfind]
          exact ih tree next
      | none =>
        simp only [makeAlong, hstep, hsame, hfind]
        exact ih (tree.put next .directory) next

/-- Nor to which directories are made. -/
theorem makeDirectories_withLocked (tree : Tree) (locked : List Place) (path : Path) :
    ((tree.withLocked locked).makeDirectories path).1
      = (tree.makeDirectories path).1.withLocked locked := by
  unfold makeDirectories
  cases start path with
  | error fault => rfl
  | ok here => exact makeAlong_withLocked tree locked here path.names

end QuorumRescue.Tree
