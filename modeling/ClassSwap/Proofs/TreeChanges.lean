import ClassSwap.FileTree
import ClassSwap.Proofs.Attempts
import ClassSwap.Proofs.PathText

namespace ClassSwap.FileTree

open ClassSwap.Path (names parts IsPart isAbsolute)

variable {tree before after made start : FileTree} {here place q : Place} {path name : String}
  {list front : List String} {content : Bytes} {at_ : Located}

def enter (place : Place) (part : String) : Place :=
  if part == "." then place
  else if part == ".." then place.dropLast
  else place ++ [part]

def startOf (here : Place) (path : String) : Place := if isAbsolute path then [] else here

theorem enter_dot (place : Place) : enter place "." = place := rfl

theorem foldl_enter_filter (list : List String) (place : Place) :
    (list.filter (· != ".")).foldl enter place = list.foldl enter place := by
  induction list generalizing place with
  | nil => rfl
  | cons part rest ih =>
    by_cases dot : part = "."
    · simp [dot, ih, enter_dot]
    · simp [dot, ih]

/-- The way along some of the parts of a path is one along some of its names. -/
theorem exists_prefix_of_filter {all : List String} (some_ : list <+: all.filter (· != "."))
    (place : Place) :
    ∃ front, front <+: all ∧ front.foldl enter place = list.foldl enter place := by
  obtain ⟨back, eq⟩ := some_
  obtain ⟨front, rest, rfl, rfl, -⟩ := List.filter_eq_append_iff.mp eq.symm
  exact ⟨front, List.prefix_append front rest, (foldl_enter_filter front place).symm⟩

/-- The way along some of the parts of a path is one along some of its names. -/
theorem exists_prefix_names (some_ : list <+: parts path) (place : Place) :
    ∃ front, front <+: names path ∧ front.foldl enter place = list.foldl enter place := by
  rcases Path.parts_cases path with ⟨rest, names, -, eq⟩ | ⟨-, eq⟩
  · rw [eq, List.prefix_cons_iff] at some_
    rcases some_ with rfl | ⟨more, rfl, some_⟩
    · exact ⟨[], List.nil_prefix, rfl⟩
    · obtain ⟨front, among, same⟩ := exists_prefix_of_filter some_ place
      exact ⟨"." :: front, names ▸ List.cons_prefix_cons.mpr ⟨rfl, among⟩, same⟩
  · exact exists_prefix_of_filter (eq ▸ some_) place

theorem placeOfText_eq (here : Place) (path : String) :
    placeOfText here path = (names path).foldl enter (startOf here path) := by
  have own : placeOfText here path = (parts path).foldl enter (startOf here path) := rfl
  rw [own]
  rcases Path.parts_cases path with ⟨rest, names, -, eq⟩ | ⟨-, eq⟩
  · rw [names, eq, List.foldl_cons, List.foldl_cons, foldl_enter_filter]
  · rw [eq, foldl_enter_filter]

/-- A name that stays: neither `.` nor `..`. -/
def Stays (name : String) : Prop := name ≠ "." ∧ name ≠ ".."

instance (name : String) : Decidable (Stays name) := inferInstanceAs (Decidable (_ ∧ _))

theorem foldl_enter_of_stays (stay : ∀ name ∈ list, Stays name) (place : Place) :
    list.foldl enter place = place ++ list := by
  induction list generalizing place with
  | nil => simp
  | cons name rest ih =>
    obtain ⟨one, two⟩ := stay name List.mem_cons_self
    rw [List.foldl_cons, ih fun n mem => stay n (List.mem_cons_of_mem name mem)]
    simp [enter, one, two]

/-- The places that a path leads through, its own place included. -/
def Along (here : Place) (path : String) (q : Place) : Prop :=
  ∃ front, front <+: names path ∧ q = front.foldl enter (startOf here path)

theorem along_self (here : Place) (path : String) : Along here path (placeOfText here path) :=
  ⟨names path, List.prefix_rfl, placeOfText_eq here path⟩

/-- The way along the first parts of a path is a part of its way. -/
theorem Along.of_parts {front : String} (along : Along here front q)
    (among : names front <+: parts path) (absolute : isAbsolute front = isAbsolute path) :
    Along here path q := by
  obtain ⟨first, first_, rfl⟩ := along
  obtain ⟨front', among', same⟩ := exists_prefix_names (first_.trans among) (startOf here path)
  refine ⟨front', among', ?_⟩
  rw [same, startOf, startOf, absolute]

/-- The way to the parent is a part of the way. -/
theorem Along.of_parent {above : String} (along : Along here above q)
    (parent : Path.parent? path = some above) : Along here path q := by
  obtain ⟨-, absolute, eq⟩ := Path.parent?_eq_some parent
  refine along.of_parts ?_ absolute
  rw [eq, Path.names_ofParts (Path.tidy_parts path).dropLast.part]
  exact List.dropLast_prefix _

def Around (here : Place) (path : String) (q : Place) : Prop :=
  ∃ above, Path.parent? path = some above ∧ Along here above q

theorem Around.along (around : Around here path q) : Along here path q := by
  obtain ⟨above, parent, along⟩ := around
  exact along.of_parent parent

theorem takesName_iff : takesName name = true ↔ name.utf8ByteSize ≤ maxName :=
  decide_eq_true_iff

section Lookup

variable [Limits]

theorem takesName_of_le (small : name.utf8ByteSize ≤ 2) : takesName name = true := by
  rw [takesName, Option.all_eq_true]
  exact fun most mem => decide_eq_true (Nat.le_trans small (Limits.dots most mem))

theorem takesPath_of_le {other : String} (size : path.utf8ByteSize ≤ other.utf8ByteSize)
    (taken : takesPath other = true) : takesPath path = true := by
  rw [takesPath, Option.all_eq_true] at taken ⊢
  intro most mem
  exact decide_eq_true (Nat.le_trans size (of_decide_eq_true (taken most mem)))

theorem walk_cons (here_ : tree.find? here = some .directory)
    (short : takesName name = true) :
    tree.walk here (name :: list) = tree.walk (enter here name) list := by
  simp only [walk, here_, enter, short, Bool.not_true, Bool.false_eq_true, if_false]
  split
  · rfl
  · split <;> rfl

theorem walk_cons_eq_ok (h : tree.walk here (name :: list) = .ok place) :
    tree.find? here = some .directory ∧ takesName name = true := by
  simp only [walk] at h
  split at h
  next => cases h
  next => cases h
  next here_ =>
    refine ⟨here_, ?_⟩
    split at h
    next dot => exact eq_of_beq dot ▸ takesName_of_le (by decide)
    next =>
      split at h
      next dots => exact eq_of_beq dots ▸ takesName_of_le (by decide)
      next =>
        split at h
        next => cases h
        next short => simpa using short

/-- A walk is good exactly if all places on the way are directories and no name is too long. -/
theorem walk_eq_ok_iff :
    tree.walk here list = .ok place ↔ place = list.foldl enter here ∧
      ∀ front name back, list = front ++ name :: back →
        tree.find? (front.foldl enter here) = some .directory ∧ takesName name = true := by
  induction list generalizing here with
  | nil =>
    refine ⟨fun h => ?_, fun ⟨eq, _⟩ => ?_⟩
    · cases h
      exact ⟨rfl, fun front name back eq => by simp at eq⟩
    · rw [eq]
      rfl
  | cons first rest ih =>
    constructor
    · intro h
      obtain ⟨here_, short⟩ := walk_cons_eq_ok h
      rw [walk_cons here_ short, ih] at h
      refine ⟨h.1, fun front name back eq => ?_⟩
      cases front with
      | nil =>
        obtain ⟨rfl, -⟩ := List.cons.inj eq
        exact ⟨here_, short⟩
      | cons _ front =>
        obtain ⟨rfl, tail⟩ := List.cons.inj eq
        exact h.2 front name back tail
    · rintro ⟨eq, open_⟩
      obtain ⟨here_, short⟩ : tree.find? here = some .directory ∧ takesName first = true :=
        open_ [] first rest rfl
      rw [walk_cons here_ short, ih]
      exact ⟨eq, fun front name back eq => open_ (first :: front) name back (by rw [eq]; rfl)⟩

structure Sound (path : String) : Prop where
  plain : '\x00' ∉ path.toList
  some_ : path ≠ ""
  short : takesPath path = true

def asksDirectory (path : String) : Bool :=
  path.toList.getLast? == some '/' || (names path).getLast? == some "." ||
    (names path).getLast? == some ".."

theorem locate_eq (sound : Sound path) :
    tree.locate here path = do
      let place ← tree.walk (startOf here path) (names path)
      return ⟨place, asksDirectory path⟩ := by
  have plain : path.toList.contains '\x00' = false := by simpa using sound.plain
  have some_ : path.isEmpty = false := by simpa using sound.some_
  simp only [locate, plain, some_, sound.short]
  rfl

theorem sound_of_locate (h : tree.locate here path = .ok at_) : Sound path := by
  by_cases nul : path.toList.contains '\x00' = true
  · simp only [locate, nul, if_true] at h
    cases h
  by_cases empty : path.isEmpty = true
  · simp only [locate, nul, empty, if_true] at h
    cases h
  by_cases short : takesPath path = true
  · exact ⟨by simpa using nul, by simpa using empty, short⟩
  · simp only [locate, nul, empty, short, Bool.not_false, if_true] at h
    cases h

/-- A path that is looked up leads to the place that its text names. -/
theorem locate_eq_ok (h : tree.locate here path = .ok at_) :
    Sound path ∧ tree.walk (startOf here path) (names path) = .ok (placeOfText here path) ∧
      at_ = ⟨placeOfText here path, asksDirectory path⟩ := by
  have sound := sound_of_locate h
  rw [locate_eq sound] at h
  cases walked : tree.walk (startOf here path) (names path) with
  | error e =>
    rw [walked] at h
    cases h
  | ok place =>
    obtain ⟨rfl, -⟩ := walk_eq_ok_iff.mp walked
    rw [walked] at h
    cases h
    rw [placeOfText_eq]
    exact ⟨sound, rfl, rfl⟩

/-- All directories of one tree are directories of the other one. -/
def Keeps (before after : FileTree) : Prop :=
  ∀ place, before.find? place = some .directory → after.find? place = some .directory

theorem Keeps.locate (kept : Keeps before after) (h : before.locate here path = .ok at_) :
    after.locate here path = .ok at_ := by
  obtain ⟨sound, walked, rfl⟩ := locate_eq_ok h
  obtain ⟨eq, open_⟩ := walk_eq_ok_iff.mp walked
  have walked' : after.walk (startOf here path) (names path) = .ok (placeOfText here path) :=
    walk_eq_ok_iff.mpr ⟨eq, fun front name back eq =>
      ⟨kept _ (open_ front name back eq).1, (open_ front name back eq).2⟩⟩
  rw [locate_eq sound, walked']
  rfl

theorem isDirectory_iff : tree.isDirectory here path = true ↔
    (∃ at_, tree.locate here path = .ok at_) ∧
      tree.find? (placeOfText here path) = some .directory := by
  unfold isDirectory
  cases located : tree.locate here path with
  | error e => simp
  | ok at_ =>
    obtain ⟨-, -, rfl⟩ := locate_eq_ok located
    simp

theorem Keeps.isDirectory (kept : Keeps before after) (h : before.isDirectory here path = true) :
    after.isDirectory here path = true := by
  obtain ⟨⟨at_, located⟩, found⟩ := isDirectory_iff.mp h
  exact isDirectory_iff.mpr ⟨⟨at_, kept.locate located⟩, kept _ found⟩

/-- All places that the path of a directory leads through are directories. -/
theorem Along.directory (along : Along here path q) (h : tree.isDirectory here path = true) :
    tree.find? q = some .directory := by
  obtain ⟨front, ⟨back, eq⟩, rfl⟩ := along
  obtain ⟨⟨at_, located⟩, found⟩ := isDirectory_iff.mp h
  obtain ⟨-, walked, -⟩ := locate_eq_ok located
  cases back with
  | nil =>
    rw [List.append_nil] at eq
    rwa [eq, ← placeOfText_eq]
  | cons name back => exact ((walk_eq_ok_iff.mp walked).2 front name back eq.symm).1

end Lookup

theorem find?_put (tree : FileTree) {place q : Place} (named : place ≠ []) (entry : Entry) :
    (tree.put place entry).find? q = if q = place then some entry else tree.find? q := by
  by_cases same : q = place
  · subst same
    simp [find?, put, named]
  · simp only [same, if_false, find?, put, Table.get?_put_of_ne _ _ same]

/-- How a tree comes to be another one: by directories that are made where nothing was and files
that are written where no directory is. -/
inductive Grows (dirs files : Place → Prop) (start : FileTree) : FileTree → Prop
  | start : Grows dirs files start start
  | directory {tree : FileTree} {place : Place} (grown : Grows dirs files start tree)
      (free : tree.find? place = none) (allowed : dirs place) :
      Grows dirs files start (tree.put place .directory)
  | file {tree : FileTree} {place : Place} (grown : Grows dirs files start tree)
      (open_ : tree.find? place ≠ some .directory) (allowed : files place) (content : Bytes)
      (executable : Bool) : Grows dirs files start (tree.put place (.file content executable))

namespace Grows

variable {dirs files dirs' files' : Place → Prop} {content : Bytes} {executable : Bool}

theorem trans (first : Grows dirs files start before) (later : Grows dirs files before after) :
    Grows dirs files start after := by
  induction later with
  | start => exact first
  | directory _ free allowed ih => exact ih.directory free allowed
  | file _ open_ allowed content executable ih => exact ih.file open_ allowed content executable

theorem ne_nil_of_find? {entry : Option Entry} (other : tree.find? place = entry)
    (no : entry ≠ some .directory) : place ≠ [] := by
  rintro rfl
  exact no other.symm

theorem keeps (grown : Grows dirs files start after) : Keeps start after := by
  induction grown with
  | start => exact fun _ found => found
  | directory _ free _ ih =>
    intro q found
    rw [find?_put _ (ne_nil_of_find? free nofun)]
    split
    · rfl
    · exact ih q found
  | file _ open_ _ content executable ih =>
    intro q found
    rw [find?_put _ (ne_nil_of_find? rfl open_)]
    split
    next same => exact absurd (same ▸ ih q found) open_
    next => exact ih q found

/-- No directory is made where there was one from the start. -/
theorem weaken (grown : Grows dirs files start after)
    (dirs_ : ∀ q, dirs q → start.find? q ≠ some .directory → dirs' q)
    (files_ : ∀ q, files q → start.find? q ≠ some .directory → files' q) :
    Grows dirs' files' start after := by
  induction grown with
  | start => exact .start
  | directory grown free allowed ih =>
    refine ih.directory free (dirs_ _ allowed fun found => ?_)
    rw [grown.keeps _ found] at free
    cases free
  | file grown open_ allowed content executable ih =>
    have fresh := files_ _ allowed fun found => open_ (grown.keeps _ found)
    exact ih.file open_ fresh content executable

/-- What is at a place was there, or it has come in. -/
theorem entry_cases (grown : Grows dirs files start after) (q : Place) :
    after.find? q = start.find? q ∨ (after.find? q = some .directory ∧ dirs q) ∨
      ∃ content executable, after.find? q = some (.file content executable) ∧ files q := by
  induction grown with
  | start => exact .inl rfl
  | @directory tree place _ free allowed ih =>
    rw [find?_put _ (ne_nil_of_find? free nofun)]
    split
    next same => exact .inr (.inl ⟨rfl, same ▸ allowed⟩)
    next => exact ih
  | @file tree place _ open_ allowed content executable ih =>
    rw [find?_put _ (ne_nil_of_find? rfl open_)]
    split
    next same => exact .inr (.inr ⟨content, executable, rfl, same ▸ allowed⟩)
    next => exact ih

/-- A file where nothing is written is there afterwards exactly if it was there before. -/
theorem file_iff (grown : Grows dirs files start after) (other : ¬files q) :
    after.find? q = some (.file content executable) ↔
      start.find? q = some (.file content executable) := by
  induction grown with
  | start => rfl
  | @directory tree place _ free _ ih =>
    rw [find?_put _ (ne_nil_of_find? free nofun), ← ih]
    split
    next same => simp [same, free]
    next => rfl
  | @file tree place _ open_ allowed _ _ ih =>
    rw [find?_put _ (ne_nil_of_find? rfl open_), ← ih, if_neg]
    rintro rfl
    exact other allowed

end Grows

section Calls

variable [Limits]

theorem makeDirectory_eq_ok (h : tree.makeDirectory here path = .ok made) :
    (∃ at_, tree.locate here path = .ok at_) ∧ tree.find? (placeOfText here path) = none ∧
      made = tree.put (placeOfText here path) .directory := by
  obtain ⟨at_, located, h⟩ := bind_eq_ok.mp h
  obtain ⟨-, -, rfl⟩ := locate_eq_ok located
  split at h
  next => cases h
  next free =>
    obtain ⟨-, h⟩ := seq_eq_ok.mp h
    exact ⟨⟨_, located⟩, free, (Except.ok.inj h).symm⟩

theorem write_eq_ok (h : tree.write here path content = .ok made) :
    tree.locate here path = .ok ⟨placeOfText here path, false⟩ ∧
      tree.find? (placeOfText here path) ≠ some .directory ∧
      ∃ executable, made = tree.put (placeOfText here path) (.file content executable) := by
  obtain ⟨at_, located, h⟩ := bind_eq_ok.mp h
  obtain ⟨-, -, rfl⟩ := locate_eq_ok located
  rw [located]
  split at h
  next => cases h
  next executable found =>
    split at h
    next => cases h
    next plain =>
      have plain : asksDirectory path = false := by simpa using plain
      exact ⟨by rw [plain], by simp [found], executable, (Except.ok.inj h).symm⟩
  next free =>
    obtain ⟨-, h⟩ := seq_eq_ok.mp h
    split at h
    next => cases h
    next plain =>
      have plain : asksDirectory path = false := by simpa using plain
      exact ⟨by rw [plain], by simp [free], false, (Except.ok.inj h).symm⟩

theorem makeDirectories_grows (tree : FileTree) (here : Place) (path : String) (depth : Nat) :
    Grows (Along here path) (fun _ => False) tree (tree.makeDirectories here path depth).1 := by
  induction depth generalizing tree path with
  | zero => exact .start
  | succ depth ih =>
    have one {tree made : FileTree} (h : tree.makeDirectory here path = .ok made) :
        Grows (Along here path) (fun _ => False) tree made := by
      obtain ⟨-, free, rfl⟩ := makeDirectory_eq_ok h
      exact .directory .start free (along_self here path)
    simp only [makeDirectories]
    split
    next => exact .start
    next =>
      split
      next made => exact one made
      next =>
        split
        next => exact .start
        next above parent =>
          have grown : Grows (Along here path) (fun _ => False) tree
              (tree.makeDirectories here above depth).1 :=
            (ih tree above).weaken (fun _ along _ => along.of_parent parent) (fun _ no _ => no)
          split
          next result => rwa [result] at grown
          next result =>
            rw [result] at grown
            split
            next made => exact grown.trans (one made)
            next => exact grown
      next => exact .start

theorem makeDirectory_isDirectory (h : tree.makeDirectory here path = .ok made) :
    made.isDirectory here path = true := by
  obtain ⟨⟨at_, located⟩, free, rfl⟩ := makeDirectory_eq_ok h
  have grown : Grows (fun _ => True) (fun _ => True) tree
      (tree.put (placeOfText here path) .directory) := .directory .start free trivial
  refine isDirectory_iff.mpr ⟨⟨at_, grown.keeps.locate located⟩, ?_⟩
  rw [find?_put _ (Grows.ne_nil_of_find? free nofun), if_pos rfl]

theorem makeDirectories_isDirectory {depth : Nat} (named : path ≠ "")
    (h : tree.makeDirectories here path depth = (made, .ok ())) :
    made.isDirectory here path = true := by
  have checked {tree : FileTree} {e : OsError} (h : (tree, if tree.isDirectory here path then
      Except.ok () else .error e) = (made, .ok ())) : made.isDirectory here path = true := by
    obtain ⟨rfl, check⟩ := Prod.mk.inj h
    by_contra other
    rw [if_neg other] at check
    cases check
  cases depth with
  | zero => cases h
  | succ depth =>
    simp only [makeDirectories] at h
    split at h
    next empty => exact absurd (by simpa using empty) named
    next =>
      split at h
      next one =>
        cases h
        exact makeDirectory_isDirectory one
      next =>
        split at h
        next => cases h
        next =>
          split at h
          next => cases h
          next =>
            split at h
            next one =>
              cases h
              exact makeDirectory_isDirectory one
            next => exact checked h
      next => exact checked h

/-- A file is written when the directories around it are there, or not at all. -/
theorem writeWithParents_cases (tree : FileTree) (here : Place) (path : String) (content : Bytes) :
    ∃ middle, Grows (Around here path) (fun _ => False) tree middle ∧
      ((∃ e, tree.writeWithParents here path content = (middle, .error e)) ∨
        ∃ made, middle.write here path content = .ok made ∧
          tree.writeWithParents here path content = (made, .ok ())) := by
  have around : Grows (Around here path) (fun _ => False) tree
      (if ((Path.parent? path).getD "").isEmpty then (tree, .ok ())
        else tree.createAll here ((Path.parent? path).getD "") :
          FileTree × Except OsError Unit).1 := by
    split
    next => exact .start
    next named =>
      cases parent : Path.parent? path with
      | none => simp [parent] at named
      | some above =>
        exact (makeDirectories_grows tree here above _).weaken
          (fun _ along _ => ⟨above, parent, along⟩) (fun _ no _ => no)
  simp only [writeWithParents]
  split
  next middle e failed => exact ⟨middle, by rwa [failed] at around, .inl ⟨e, rfl⟩⟩
  next middle done =>
    refine ⟨middle, by rwa [done] at around, ?_⟩
    split
    next made written => exact .inr ⟨made, written, rfl⟩
    next e _ => exact .inl ⟨e, rfl⟩

/-- All that writing a file with the directories around it does; a failure changes no file. -/
theorem writeWithParents_around (tree : FileTree) (here : Place) (path : String)
    (content : Bytes) :
    Grows (Around here path)
      (fun q => (tree.writeWithParents here path content).2 = .ok () ∧ q = placeOfText here path)
      tree (tree.writeWithParents here path content).1 := by
  obtain ⟨middle, grown, result⟩ := writeWithParents_cases tree here path content
  rcases result with ⟨e, eq⟩ | ⟨made, written, eq⟩
  · rw [eq]
    exact grown.weaken (fun _ around _ => around) nofun
  · obtain ⟨-, open_, executable, rfl⟩ := write_eq_ok written
    rw [eq]
    exact (grown.weaken (fun _ around _ => around) nofun).file open_ ⟨rfl, rfl⟩ content executable

theorem writeWithParents_grows (tree : FileTree) (here : Place) (path : String) (content : Bytes) :
    Grows (Along here path) (· = placeOfText here path) tree
      (tree.writeWithParents here path content).1 :=
  (writeWithParents_around tree here path content).weaken (fun _ around _ => around.along)
    fun _ own _ => own.2

theorem read_eq_ok {executable : Bool} (located : tree.locate here path = .ok ⟨place, false⟩)
    (found : tree.find? place = some (.file content executable)) :
    tree.read here path = .ok content := by
  simp [read, located, found, bind, Except.bind, pure, Except.pure]

theorem writeWithParents_ok (h : tree.writeWithParents here path content = (made, .ok ())) :
    made.locate here path = .ok ⟨placeOfText here path, false⟩ ∧
      ∃ executable, made.find? (placeOfText here path) = some (.file content executable) := by
  obtain ⟨middle, -, ⟨e, eq⟩ | ⟨made', written, eq⟩⟩ :=
    writeWithParents_cases tree here path content
  · rw [eq] at h
    cases h
  · obtain ⟨rfl, -⟩ := Prod.mk.inj (eq.symm.trans h)
    obtain ⟨located, open_, executable, rfl⟩ := write_eq_ok written
    have grown : Grows (fun _ => True) (fun _ => True) middle
        (middle.put (placeOfText here path) (.file content executable)) :=
      .file .start open_ trivial content executable
    refine ⟨grown.keeps.locate located, executable, ?_⟩
    rw [find?_put _ (Grows.ne_nil_of_find? rfl open_), if_pos rfl]

end Calls

def StrictlyBelow (place q : Place) : Prop := ∃ rest, rest ≠ [] ∧ q = place ++ rest

/-- A path that goes on from a base by names that stay. -/
structure GoesOn (base path : String) (rest : List String) : Prop where
  eq : names path = names base ++ rest
  same : isAbsolute path = isAbsolute base
  stays : ∀ name ∈ rest, Stays name

namespace GoesOn

variable {base : String} {rest : List String}

theorem refl (base : String) : GoesOn base base [] := ⟨by simp, rfl, nofun⟩

theorem join (h : GoesOn base path rest) (some_ : path ≠ "") (relative : isAbsolute name = false)
    (stays : ∀ n ∈ names name, Stays n) :
    GoesOn base (Path.join path name) (rest ++ names name) := by
  refine ⟨?_, (Path.isAbsolute_join relative some_).trans h.same, fun n mem => ?_⟩
  · rw [Path.names_join relative, h.eq, List.append_assoc]
  · exact (List.mem_append.mp mem).elim (h.stays n) (stays n)

theorem placeOf (h : GoesOn base path rest) (here : Place) :
    placeOfText here path = placeOfText here base ++ rest := by
  have starts : startOf here path = startOf here base := by rw [startOf, startOf, h.same]
  rw [placeOfText_eq, placeOfText_eq, h.eq, starts, List.foldl_append, foldl_enter_of_stays h.stays]

/-- The way leads along the base or strictly below it. -/
theorem along (h : GoesOn base path rest) (along : Along here path q) :
    Along here base q ∨ ∃ front, front ≠ [] ∧ front <+: rest ∧
      q = placeOfText here base ++ front := by
  obtain ⟨front, ⟨back, eq⟩, rfl⟩ := along
  have starts : startOf here path = startOf here base := by rw [startOf, startOf, h.same]
  rw [h.eq] at eq
  rcases List.append_eq_append_iff.mp eq with ⟨more, own, -⟩ | ⟨more, rfl, beyond⟩
  · exact .inl ⟨front, ⟨more, own.symm⟩, by rw [starts]⟩
  · cases more with
    | nil => exact .inl ⟨names base, List.prefix_rfl, by rw [List.append_nil, starts]⟩
    | cons first more =>
      refine .inr ⟨first :: more, List.cons_ne_nil first more, ⟨back, beyond.symm⟩, ?_⟩
      rw [List.foldl_append, starts, placeOfText_eq, foldl_enter_of_stays fun n mem =>
        h.stays n (beyond ▸ List.mem_append_left back mem)]

end GoesOn

/-- What grows along a path below a directory grows strictly below it. -/
theorem Grows.strictlyBelow [Limits] {base : String} {rest : List String} {files : Place → Prop}
    (grown : Grows (Along here path) files before after) (below : GoesOn base path rest)
    (there : before.isDirectory here base = true)
    (files_ : ∀ q, files q → StrictlyBelow (placeOfText here base) q) :
    Grows (StrictlyBelow (placeOfText here base)) (StrictlyBelow (placeOfText here base)) before
      after := by
  refine grown.weaken (fun q along other => ?_) fun q own _ => files_ q own
  rcases below.along along with inside | ⟨front, some_, -, rfl⟩
  · exact absurd (inside.directory there) other
  · exact ⟨front, some_, rfl⟩

end ClassSwap.FileTree
