/-
  The files of one directory.

  The program names its files by paths, and a path may lead astray in many ways: it may be empty or too
  long, go through a file, or not lead anywhere.  But all of the program's own files lie in one data
  directory and have short, plain names.  This file turns questions about their paths into questions
  about single places, once and for all, so that no proof about a log or a registry has to follow a
  path.

  1. **The specification.** `IsHome` says that the path of a directory leads to a place where there is
     one, and the paths of all files in it right inside.  Its `inside` is a statement on every plain
     name (`isPlainName`), which says nothing but itself and is no longer than the record's.

  2. **The crux** is that one path is enough (`exists_isHome`).  Where the path of the directory leads
     somewhere, the path of a file in it leads to the place right inside, unless it has become too long
     (`locate_child`).  How long it gets depends on the name alone, and all names are at most as long as
     the record's; so where the path of the record can be followed, the paths of all files can.

  3. **Making homes.** Directories that stay keep a home (`IsHome.of_keeps`).  Whether a path is too
     long does not depend on the tree, so a directory that is made in one tree is a home if a file's
     path could be followed in another (`isHome_of_located`).

  4. **Using homes.** Reading and replacing a file are about one place (`IsHome.read_eq_ok_iff`,
     `IsHome.replace_eq`).

  5. **Without a home.** Where nothing is known about the directory, a file's path that can be followed
     still says where the others lead (`exists_around`), which is enough to tell files apart
     (`read_elsewhere`).
-/
import QuorumRescue.Proofs.Tree

namespace QuorumRescue

/-! ## Paths of files in a directory -/

namespace Path

theorem stretches_ne_nil (text : List Char) : stretches text ≠ [] := by
  cases text with
  | nil => simp [stretches]
  | cons c rest =>
    simp only [stretches]
    split
    · split <;> simp
    · simp

/-- Stretches on both sides of a separator stay what they are. -/
theorem stretches_append (before after : List Char) :
    stretches (before ++ '/' :: after) = stretches before ++ stretches after := by
  induction before with
  | nil =>
    cases h : stretches after with
    | nil => exact absurd h (stretches_ne_nil after)
    | cons first more => simp [stretches, h]
  | cons c rest ih =>
    cases h : stretches rest with
    | nil => exact absurd h (stretches_ne_nil rest)
    | cons first more =>
      simp only [List.cons_append, stretches, ih, h]
      split <;> rfl

/-- A text without separators is one stretch. -/
theorem stretches_of_not_mem {text : List Char} (h : '/' ∉ text) : stretches text = [text] := by
  induction text with
  | nil => rfl
  | cons c rest ih =>
    obtain ⟨hc, hrest⟩ : '/' ≠ c ∧ '/' ∉ rest := by simpa using h
    simp [stretches, ih hrest, hc.symm]

/-- The bytes that the path of a file has beside the file's name. -/
def lead (dir : Path) : String :=
  if dir.text.toList.getLast? = some '/' then dir.text else dir.text ++ "/"

theorem child_text {dir : Path} (h : dir.text ≠ "") (name : String) :
    (dir.child name).text = dir.lead ++ name := by
  have he : dir.text.isEmpty = false := by simpa using h
  by_cases hlast : dir.text.toList.getLast? = some '/' <;> simp [child, lead, he, hlast]

/-- The names in the paths of a directory and of a file in it. -/
theorem exists_trunk {dir : Path} (h : dir.text ≠ "") :
    ∃ trunk, (dir.names = trunk ∨ dir.names = trunk ++ [""])
      ∧ ∀ name : String, '/' ∉ name.toList → (dir.child name).names = trunk ++ [name] := by
  by_cases hlast : dir.text.toList.getLast? = some '/'
  · -- the empty name behind a trailing separator gives way to the file's name
    obtain ⟨text, htext⟩ : ∃ text, dir.text.toList = text ++ ['/'] := by
      obtain ⟨text, htext⟩ := List.getLast?_eq_some_iff.1 hlast
      exact ⟨text, htext⟩
    refine ⟨(stretches text).map String.ofList, Or.inr ?_, fun name hname => ?_⟩
    · rw [names, htext, stretches_append]
      simp [stretches]
    · rw [names, child_text h, lead, if_pos hlast, String.toList_append, htext, List.append_assoc,
        List.singleton_append, stretches_append, stretches_of_not_mem hname]
      simp
  · refine ⟨dir.names, Or.inl rfl, fun name hname => ?_⟩
    have hslash : (dir.text ++ "/" ++ name).toList = dir.text.toList ++ '/' :: name.toList := by simp
    rw [names, child_text h, lead, if_neg hlast, hslash, stretches_append, stretches_of_not_mem hname]
    simp [names]

end Path

/-! ## Places of files in a directory -/

namespace Place

theorem child_inj {place : Place} {a b : String} : place.child a = place.child b ↔ a = b := by
  simp [child]

theorem child_ne {place : Place} {a b : String} (h : a ≠ b) : place.child a ≠ place.child b :=
  fun he => h (child_inj.1 he)

theorem isStart_child (place : Place) (name : String) : (place.child name).isStart = false := by
  simp [isStart, child]

end Place

namespace Tree

/-- A name that says nothing but itself, and is no longer than the record's. -/
def isPlainName (name : String) : Bool :=
  name != "" && name != "." && name != ".." && name.utf8ByteSize ≤ 15
    && name.toList.all fun c => c != '/' && c != Char.ofNat 0

/-- What makes a name plain, in the form in which it is used. -/
theorem isPlainName_iff {name : String} : isPlainName name ↔
    (name ≠ "" ∧ name ≠ "." ∧ name ≠ "..") ∧ name.utf8ByteSize ≤ 15
      ∧ '/' ∉ name.toList ∧ Char.ofNat 0 ∉ name.toList := by
  simp only [isPlainName, Bool.and_eq_true, bne_iff_ne, ne_eq, decide_eq_true_eq, List.all_eq_true]
  constructor
  · rintro ⟨⟨⟨⟨h1, h2⟩, h3⟩, h4⟩, h5⟩
    exact ⟨⟨h1, h2, h3⟩, h4, fun h => (h5 _ h).1 rfl, fun h => (h5 _ h).2 rfl⟩
  · rintro ⟨⟨h1, h2, h3⟩, h4, h5, h6⟩
    exact ⟨⟨⟨⟨h1, h2⟩, h3⟩, h4⟩, fun c hc => ⟨by rintro rfl; exact h5 hc, by rintro rfl; exact h6 hc⟩⟩

theorem step_of_isPlainName {name : String} (h : isPlainName name) (here : Place) :
    step here name = .ok (here.child name) := by
  obtain ⟨⟨h1, h2, h3⟩, h4, -⟩ := isPlainName_iff.1 h
  have hlong : ¬ longestName < name.utf8ByteSize := by unfold longestName; omega
  simp [step, h1, h2, h3, hlong]

theorem walk_append {tree : Tree} {here place : Place} {names : List String}
    (h : tree.walk here names = .ok place) (more : List String) :
    tree.walk here (names ++ more) = tree.walk place more := by
  induction names generalizing here with
  | nil =>
    obtain rfl : here = place := by simpa [walk] using h
    rfl
  | cons name rest ih =>
    simp only [List.cons_append, walk] at h ⊢
    split at h
    · cases h
    · cases h
    · split at h
      · cases h
      · exact ih h

/-- A trailing separator leads nowhere else. -/
theorem walk_of_walk_append_nil {tree : Tree} {here place : Place} {names : List String}
    (h : tree.walk here (names ++ [""]) = .ok place) : tree.walk here names = .ok place := by
  induction names generalizing here with
  | nil =>
    simp only [List.nil_append, walk, step] at h
    split at h
    · cases h
    · cases h
    · simpa [walk] using h
  | cons name rest ih =>
    simp only [List.cons_append, walk] at h ⊢
    split at h
    · cases h
    · cases h
    · split at h
      · cases h
      · exact ih h

theorem start_eq_ok {path : Path} {here : Place} (h : start path = .ok here) :
    path.text ≠ "" ∧ Char.ofNat 0 ∉ path.text.toList ∧ path.text.utf8ByteSize < longestPath
      ∧ here = ⟨path.isAbsolute, []⟩ := by
  unfold start at h
  split at h
  · cases h
  split at h
  · cases h
  split at h
  · cases h
  · next h1 h2 h3 => exact ⟨by simpa using h1, by simpa using h2, by omega, (Except.ok.inj h).symm⟩

/-- A file's path starts where the path of its directory does, if it is not too long. -/
theorem start_child {dir : Path} {here : Place} (h : start dir = .ok here) {name : String}
    (hname : isPlainName name) : start (dir.child name)
      = if longestPath ≤ dir.lead.utf8ByteSize + name.utf8ByteSize then .error .nameTooLong
        else .ok here := by
  obtain ⟨hne, hnul, -, rfl⟩ := start_eq_ok h
  obtain ⟨-, -, -, hnul'⟩ := isPlainName_iff.1 hname
  -- whether or not a separator is put in between, what is added to the text has no zero
  have hlead : ∃ more, (dir.child name).text.toList = dir.text.toList ++ more
      ∧ Char.ofNat 0 ∉ more := by
    rw [Path.child_text hne, Path.lead]
    split
    · exact ⟨name.toList, by simp, hnul'⟩
    · exact ⟨'/' :: name.toList, by simp, by simpa using hnul'⟩
  obtain ⟨more, hmore, hfree⟩ := hlead
  obtain ⟨c, rest, hc⟩ : ∃ c rest, dir.text.toList = c :: rest := by
    cases hl : dir.text.toList with
    | nil => exact absurd (String.toList_eq_nil_iff.1 hl) hne
    | cons c rest => exact ⟨c, rest, rfl⟩
  have hempty : (dir.child name).text.isEmpty = false := by
    have : (dir.child name).text ≠ "" := by
      intro he
      rw [he, hc] at hmore
      cases hmore
    simpa using this
  have hzero : Char.ofNat 0 ∉ (dir.child name).text.toList := by
    rw [hmore, List.mem_append, not_or]
    exact ⟨hnul, hfree⟩
  have hsize : (dir.child name).text.utf8ByteSize = dir.lead.utf8ByteSize + name.utf8ByteSize := by
    rw [Path.child_text hne, String.utf8ByteSize_append]
  have habs : (dir.child name).isAbsolute = dir.isAbsolute := by
    simp [Path.isAbsolute, hmore, hc]
  simp [start, hempty, hzero, hsize, habs]

/-- **Where a directory's path leads somewhere, the path of a file in it leads right inside**, if it
is not too long. -/
theorem locate_child {tree : Tree} {dir : Path} {home : Place} (hl : tree.locate dir = .ok home)
    (hd : tree.find? home = some .directory) {name : String} (hname : isPlainName name) :
    tree.locate (dir.child name)
      = if longestPath ≤ dir.lead.utf8ByteSize + name.utf8ByteSize then .error .nameTooLong
        else .ok (home.child name) := by
  obtain ⟨-, -, hslash, -⟩ := isPlainName_iff.1 hname
  unfold locate at hl ⊢
  cases hs : start dir with
  | error fault => simp [hs] at hl
  | ok here =>
    simp only [hs] at hl
    rw [start_child hs hname]
    by_cases hlong : longestPath ≤ dir.lead.utf8ByteSize + name.utf8ByteSize
    · simp [hlong]
    · simp only [if_neg hlong]
      obtain ⟨trunk, htrunk, hchild⟩ := Path.exists_trunk (start_eq_ok hs).1
      have hwalk : tree.walk here trunk = .ok home := by
        rcases htrunk with h | h
        · rwa [h] at hl
        · rw [h] at hl; exact walk_of_walk_append_nil hl
      have hlast : tree.walk home [name] = .ok (home.child name) := by
        simp [walk, hd, step_of_isPlainName hname]
      rw [hchild name hslash]
      exact (walk_append hwalk [name]).trans hlast

/-- What a name leads to is inside. -/
theorem hasChildren_of_find? {tree : Tree} {place : Place} {name : String} {entry : Entry}
    (h : tree.find? (place.child name) = some entry) : tree.hasChildren place = true := by
  rw [find?, Place.isStart_child, if_neg Bool.false_ne_true, Option.map_eq_some_iff] at h
  obtain ⟨e, he, -⟩ := h
  have hplace : e.1 = place.child name := by simpa using List.find?_some he
  refine List.any_eq_true.2 ⟨e, List.mem_of_find?_eq_some he, ?_⟩
  rw [hplace, Place.isStart_child]
  simp [Place.child]

/-! ## Homes -/

/-- The path of a directory leads to a place, and the paths of all files in it right inside. -/
structure IsHome (tree : Tree) (dir : Path) (home : Place) : Prop where
  located : tree.locate dir = .ok home
  directory : tree.find? home = some .directory
  inside : ∀ name, isPlainName name → tree.locate (dir.child name) = .ok (home.child name)

theorem IsHome.of_keeps {before after : Tree} {dir : Path} {home : Place}
    (h : before.IsHome dir home) (hk : KeepsDirectories before after) : after.IsHome dir home where
  located := locate_of_keeps hk h.located
  directory := hk home h.directory
  inside name hname := locate_of_keeps hk (h.inside name hname)

theorem IsHome.isDirectory {tree : Tree} {dir : Path} {home : Place} (h : tree.IsHome dir home) :
    tree.isDirectory dir := isDirectory_iff.2 ⟨home, h.located, h.directory⟩

/-- A directory whose path leaves room for the record's name is a home. -/
theorem IsHome.of_locate {tree : Tree} {dir : Path} {home : Place} (hl : tree.locate dir = .ok home)
    (hd : tree.find? home = some .directory) (hroom : dir.lead.utf8ByteSize + 15 < longestPath) :
    tree.IsHome dir home := by
  refine ⟨hl, hd, fun name hname => ?_⟩
  obtain ⟨-, hshort, -⟩ := isPlainName_iff.1 hname
  rw [locate_child hl hd hname, if_neg (by omega)]

/-- **One longest name that can be followed is enough for all.** The others are no longer, so their paths
    are not too long either. -/
theorem exists_isHome {tree : Tree} {dir : Path} {place : Place} (hd : tree.isDirectory dir)
    {name : String} (hname : isPlainName name) (hlong : name.utf8ByteSize = 15)
    (hl : tree.locate (dir.child name) = .ok place) :
    ∃ home, tree.IsHome dir home ∧ place = home.child name := by
  obtain ⟨home, hhome, hdir⟩ := isDirectory_iff.1 hd
  rw [locate_child hhome hdir hname] at hl
  split at hl
  · cases hl
  · next hroom =>
    obtain rfl := Except.ok.inj hl
    exact ⟨home, .of_locate hhome hdir (by omega), rfl⟩

/-- Whether a path is too long does not depend on the tree, so a directory is a home as soon as the
longest of its files' paths can be followed in any tree. -/
theorem isHome_of_located {tree other : Tree} {dir : Path} {place : Place} {name : String}
    (hd : tree.isDirectory dir) (hname : isPlainName name) (hlong : name.utf8ByteSize = 15)
    (hl : other.locate (dir.child name) = .ok place) : ∃ home, tree.IsHome dir home := by
  obtain ⟨home, hhome, hdir⟩ := isDirectory_iff.1 hd
  obtain ⟨here, hstart⟩ : ∃ here, start dir = .ok here := by
    unfold locate at hhome
    cases hs : start dir with
    | error fault => simp [hs] at hhome
    | ok here => exact ⟨here, rfl⟩
  have hroom : dir.lead.utf8ByteSize + 15 < longestPath := by
    unfold locate at hl
    rw [start_child hstart hname] at hl
    by_cases hlonger : longestPath ≤ dir.lead.utf8ByteSize + name.utf8ByteSize
    · rw [if_pos hlonger] at hl
      cases hl
    · omega
  exact ⟨home, .of_locate hhome hdir hroom⟩

/-! ## Operations on the files of a home -/

namespace IsHome

variable {tree : Tree} {dir : Path} {home : Place} {name : String}

/-- What is read is what is in the file's place. -/
theorem read_eq_ok_iff (h : tree.IsHome dir home) (hname : isPlainName name) {content : ByteArray} :
    tree.read (dir.child name) = .ok content ↔ tree.find? (home.child name) = some (.file content) := by
  simp only [read, entryAt, h.inside name hname]
  cases hf : tree.find? (home.child name) with
  | none => simp
  | some entry => cases entry <;> simp

/-- A file of a home is read alike where the same is in its place. -/
theorem read_congr {after : Tree} (h : tree.IsHome dir home) (hafter : after.IsHome dir home)
    (hname : isPlainName name) (heq : after.find? (home.child name) = tree.find? (home.child name)) :
    after.read (dir.child name) = tree.read (dir.child name) := by
  simp only [read, entryAt, h.inside name hname, hafter.inside name hname, heq]

/-- Bytes are put in a file's place unless a directory is there. -/
theorem replace_eq (h : tree.IsHome dir home) (hname : isPlainName name) (content : ByteArray) :
    tree.replace dir name content
      = if tree.find? (home.child name) = some .directory then (tree, .error (.file .isDirectory))
        else (tree.put (home.child name) (.file content), .ok ()) := by
  rw [replace, h.inside draftName (by decide)]
  simp only [h.inside name hname]
  cases hf : tree.find? (home.child name) with
  | none => simp
  | some entry => cases entry <;> simp

end IsHome

/-! ## Where a file's path leads, if it does

A file's path may lead somewhere although its directory is not known to be one, since the empty path
names nothing and the paths of its files are good ones nevertheless. -/

section

variable {tree after : Tree} {dir : Path} {name other : String} {place : Place}

/-- A path that is read can be followed. -/
theorem exists_locate_of_read {path : Path} {bytes : ByteArray} (h : tree.read path = .ok bytes) :
    ∃ place, tree.locate path = .ok place := by
  cases hl : tree.locate path with
  | error fault => simp [Tree.read, entryAt, hl] at h
  | ok place => exact ⟨place, rfl⟩

/-- The last of several names is one step from the directory that the others lead to. -/
theorem walk_concat_eq_ok {here : Place} {names : List String}
    (h : tree.walk here (names ++ [name]) = .ok place) : ∃ home,
      tree.walk here names = .ok home ∧ tree.find? home = some .directory
        ∧ step home name = .ok place := by
  induction names generalizing here with
  | nil =>
    simp only [List.nil_append, walk] at h
    split at h
    · cases h
    · cases h
    · next hdir =>
      cases hstep : step here name with
      | error fault => simp [hstep] at h
      | ok next =>
        simp only [hstep] at h
        exact ⟨here, rfl, hdir, hstep.trans h⟩
  | cons first rest ih =>
    simp only [List.cons_append, walk] at h ⊢
    split at h
    · cases h
    · cases h
    · split at h
      · cases h
      · exact ih h

/-- If a file's path can be followed at all, so can that of its directory. -/
theorem start_of_child {here : Place} (hne : dir.text ≠ "")
    (h : start (dir.child name) = .ok here) : start dir = .ok here := by
  obtain ⟨-, hnul, hsize, rfl⟩ := start_eq_ok h
  -- the path of the directory is the beginning of the file's path
  obtain ⟨more, hmore⟩ : ∃ more, (dir.child name).text = dir.text ++ more := by
    rw [Path.child_text hne, Path.lead]
    split
    · exact ⟨name, rfl⟩
    · exact ⟨"/" ++ name, by rw [String.append_assoc]⟩
  obtain ⟨c, rest, hc⟩ : ∃ c rest, dir.text.toList = c :: rest := by
    cases hl : dir.text.toList with
    | nil => exact absurd (String.toList_eq_nil_iff.1 hl) hne
    | cons c rest => exact ⟨c, rest, rfl⟩
  have hempty : dir.text.isEmpty = false := by simpa using hne
  have hzero : Char.ofNat 0 ∉ dir.text.toList := by
    rw [hmore, String.toList_append, List.mem_append, not_or] at hnul
    exact hnul.1
  have hshort : dir.text.utf8ByteSize < longestPath := by
    rw [hmore, String.utf8ByteSize_append] at hsize
    omega
  have habs : (dir.child name).isAbsolute = dir.isAbsolute := by
    simp [Path.isAbsolute, hmore, hc]
  simp [start, hempty, hzero, hshort, habs]

/-- Where a file's path leads somewhere, the path of its directory leads to a directory. -/
theorem isDirectory_of_locate_child (hne : dir.text ≠ "") (hname : isPlainName name)
    (h : tree.locate (dir.child name) = .ok place) : tree.isDirectory dir := by
  obtain ⟨-, -, hslash, -⟩ := isPlainName_iff.1 hname
  unfold locate at h
  cases hs : start (dir.child name) with
  | error fault => simp [hs] at h
  | ok here =>
    obtain ⟨trunk, htrunk, hchild⟩ := Path.exists_trunk hne
    simp only [hs, hchild name hslash] at h
    obtain ⟨home, hwalk, hdir, -⟩ := walk_concat_eq_ok h
    refine isDirectory_iff.2 ⟨home, ?_, hdir⟩
    simp only [locate, start_of_child hne hs]
    rcases htrunk with heq | heq
    · rw [heq, hwalk]
    · rw [heq, walk_append hwalk]
      simp [walk, hdir, step]

/-- The files of the empty path are right at the starting point. -/
theorem locate_child_of_empty (hempty : dir.text = "") (hname : isPlainName name) (tree : Tree) :
    tree.locate (dir.child name) = .ok (Place.child ⟨false, []⟩ name) := by
  obtain ⟨⟨hne, -⟩, hshort, hslash, hnul⟩ := isPlainName_iff.1 hname
  have hchild : dir.child name = ⟨name⟩ := by simp [Path.child, hempty]
  have hstart : start ⟨name⟩ = .ok ⟨false, []⟩ := by
    have hhead : name.toList.head? ≠ some '/' := fun h => hslash (List.mem_of_head? h)
    have hlong : ¬ longestPath ≤ name.utf8ByteSize := by unfold longestPath; omega
    simp [start, hne, hnul, hlong, Path.isAbsolute, hhead]
  have hnames : Path.names ⟨name⟩ = [name] := by
    simp [Path.names, Path.stretches_of_not_mem hslash]
  have hroot : tree.find? ⟨false, []⟩ = some .directory := find?_start rfl
  simp [hchild, locate, hstart, hnames, walk, hroot, step_of_isPlainName hname]

/-- **If one file's path leads somewhere, the paths of all files lead right inside one place**, then
and as long as directories stay, unless they are too long. -/
theorem exists_around (hname : isPlainName name) (h : tree.locate (dir.child name) = .ok place) :
    ∃ home : Place, place = home.child name
      ∧ ∀ after, KeepsDirectories tree after → ∀ other, isPlainName other →
        after.locate (dir.child other)
          = if longestPath ≤ dir.lead.utf8ByteSize + other.utf8ByteSize then .error .nameTooLong
            else .ok (home.child other) := by
  by_cases hempty : dir.text = ""
  · rw [locate_child_of_empty hempty hname] at h
    refine ⟨⟨false, []⟩, (Except.ok.inj h).symm, fun after _ other hother => ?_⟩
    obtain ⟨-, hshort, -⟩ := isPlainName_iff.1 hother
    have hlead : dir.lead.utf8ByteSize = 1 := by rw [Path.lead, hempty]; rfl
    have hroom : ¬ longestPath ≤ dir.lead.utf8ByteSize + other.utf8ByteSize := by
      unfold longestPath
      omega
    rw [locate_child_of_empty hempty hother, if_neg hroom]
  · obtain ⟨home, hhome, hdir⟩ :=
      isDirectory_iff.1 (isDirectory_of_locate_child hempty hname h)
    rw [locate_child hhome hdir hname] at h
    split at h
    · cases h
    · exact ⟨home, (Except.ok.inj h).symm, fun after hkeeps other hother =>
        locate_child (locate_of_keeps hkeeps hhome) (hkeeps home hdir) hother⟩

/-- **A change in the place of one file does not show in another.** It is enough that the first file's path
    can be followed; if the second one's is too long, it is too long before and after. -/
theorem read_elsewhere (hname : isPlainName name) (hother : isPlainName other) (hne : other ≠ name)
    (hl : tree.locate (dir.child name) = .ok place) (hkeeps : KeepsDirectories tree after)
    (hsame : ∀ p, p ≠ place → after.find? p = tree.find? p) :
    after.read (dir.child other) = tree.read (dir.child other) := by
  obtain ⟨home, rfl, haround⟩ := exists_around hname hl
  simp only [read, entryAt, haround after hkeeps other hother, haround tree (.refl tree) other hother]
  by_cases hlong : longestPath ≤ dir.lead.utf8ByteSize + other.utf8ByteSize
  · simp only [if_pos hlong]
  · simp only [if_neg hlong, hsame _ (Place.child_ne hne)]

/-- Where a file's path leads somewhere, there is nothing to be made for its directory. -/
theorem makeDirectories_of_locate_child (hname : isPlainName name)
    (h : tree.locate (dir.child name) = .ok place) : (tree.makeDirectories dir).1 = tree := by
  by_cases hempty : dir.text = ""
  · simp [makeDirectories, start, hempty]
  · rw [makeDirectories_of_isDirectory (isDirectory_of_locate_child hempty hname h)]

end

end Tree

end QuorumRescue
