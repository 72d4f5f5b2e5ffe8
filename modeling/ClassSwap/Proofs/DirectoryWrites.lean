import ClassSwap.Proofs.TreeChanges
import Mathlib.Data.List.Induction
import Mathlib.Data.String.Basic

namespace ClassSwap.FileTree

open ClassSwap.Path (names parts IsPart isAbsolute ofParts Tidy)

variable {tree middle made : FileTree} {here place q : Place} {base path name : String}
  {list : List String}

theorem parent?_of_parts {front : List String} (eq : parts path = front ++ [name]) :
    Path.parent? path = some (ofParts (isAbsolute path) front) := by
  rw [Path.parent?, eq]
  split
  next none_ => simp at none_
  next => rw [List.dropLast_concat]

theorem GoesOn.parts_eq (below : GoesOn base path list) : parts path = parts base ++ list := by
  have later : list.filter (· != ".") = list :=
    List.filter_eq_self.mpr fun name mem => bne_iff_ne.mpr (below.stays name mem).1
  rcases Path.parts_cases base with ⟨rest, names_, relative, eq⟩ | ⟨first, eq⟩
  · rcases Path.parts_cases path with ⟨rest', names', -, eq'⟩ | ⟨root | other, -⟩
    · rw [below.eq, names_, List.cons_append, List.cons.injEq] at names'
      rw [eq, eq', ← names'.2, List.filter_append, later, List.cons_append]
    · rw [below.same, relative] at root
      cases root
    · simp [below.eq, names_] at other
  · rcases Path.parts_cases path with ⟨rest', names', relative, -⟩ | ⟨-, eq'⟩
    · rw [below.eq] at names'
      rw [below.same] at relative
      rcases first with root | other
      · rw [relative] at root
        cases root
      · cases own : names base with
        | nil =>
          rw [own, List.nil_append] at names'
          exact absurd rfl (below.stays "." (by simp [names'])).1
        | cons one more =>
          rw [own, List.cons_append] at names'
          exact absurd (by rw [own, (List.cons.inj names').1]; rfl) other
    · rw [eq, eq', below.eq, List.filter_append, later]

def textBelow (base : String) (list : List String) : String :=
  ofParts (isAbsolute base) (parts base ++ list)

theorem GoesOn.parent? (below : GoesOn base path (list ++ [name])) :
    Path.parent? path = some (textBelow base list) := by
  have parts_ : parts path = parts base ++ list ++ [name] := by
    rw [List.append_assoc]
    exact below.parts_eq
  rw [parent?_of_parts parts_, below.same]
  rfl

theorem GoesOn.along_of_front {front : List String} (below : GoesOn base path list)
    (among : front <+: list) : Along here path (placeOfText here base ++ front) := by
  refine ⟨names base ++ front, ?_, ?_⟩
  · rw [below.eq]
    exact (List.prefix_append_right_inj _).mpr among
  · rw [List.foldl_append, startOf, below.same, foldl_enter_of_stays fun n mem =>
      below.stays n (among.subset mem), placeOfText_eq]
    rfl

/-- No file is in the way along these names. -/
def Open (tree : FileTree) (place : Place) (list : List String) : Prop :=
  ∀ front, front <+: list →
    tree.find? (place ++ front) = some .directory ∨ tree.find? (place ++ front) = none

theorem Open.front {front : List String} (open_ : Open tree place list)
    (among : front <+: list) : Open tree place front :=
  fun first first_ => open_ first (first_.trans among)

theorem Grows.same_or_directory {dirs : Place → Prop}
    (grown : Grows dirs (fun _ => False) tree made) (q : Place) :
    made.find? q = tree.find? q ∨ made.find? q = some .directory ∧ dirs q := by
  rcases grown.entry_cases q with same | directory | ⟨_, _, -, no⟩
  · exact .inl same
  · exact .inr directory
  · exact no.elim

variable [Limits]

/-- The text of some parts of a path is a path if it is not empty. -/
theorem Sound.ofParts (sound : Sound path) (some_ : list.Sublist (names path))
    (named : Path.ofParts (isAbsolute path) list ≠ "") :
    Sound (Path.ofParts (isAbsolute path) list) := by
  have shorter := Path.toList_ofParts_sublist some_
  have size := String.utf8Len_le_of_sublist shorter
  rw [← String.utf8ByteSize_ofList, ← String.utf8ByteSize_ofList, String.ofList_toList,
    String.ofList_toList] at size
  exact ⟨fun mem => sound.plain (shorter.subset mem), named, takesPath_of_le size sound.short⟩

/-- Names that a path can go on with. -/
structure Onward (list : List String) : Prop where
  part : ∀ name ∈ list, IsPart name
  stays : ∀ name ∈ list, Stays name
  short : ∀ name ∈ list, takesName name = true

theorem Onward.front {front : List String} (onward : Onward list) (among : front <+: list) :
    Onward front :=
  ⟨fun name mem => onward.part name (among.subset mem),
    fun name mem => onward.stays name (among.subset mem),
    fun name mem => onward.short name (among.subset mem)⟩

theorem Onward.tidy (onward : Onward list) (base : String) :
    Tidy (isAbsolute base) (parts base ++ list) := by
  have own := Path.tidy_parts base
  have later : "." ∉ list := fun mem => (onward.stays "." mem).1 rfl
  refine ⟨fun p mem => (List.mem_append.mp mem).elim (own.part p) (onward.part p), fun mem => ?_,
    fun root mem => (List.mem_append.mp mem).elim (own.first root) later⟩
  cases parts_ : parts base with
  | nil =>
    rw [parts_, List.nil_append] at mem
    exact later (List.mem_of_mem_tail mem)
  | cons first rest =>
    rw [parts_, List.cons_append, List.tail_cons] at mem
    exact (List.mem_append.mp mem).elim (by simpa [parts_] using own.later) later

theorem names_textBelow (onward : Onward list) (base : String) :
    names (textBelow base list) = parts base ++ list :=
  Path.names_ofParts (onward.tidy base).part

theorem isAbsolute_textBelow (onward : Onward list) (base : String) :
    isAbsolute (textBelow base list) = isAbsolute base :=
  Path.isAbsolute_ofParts (onward.tidy base).part

theorem placeOf_textBelow (onward : Onward list) (here : Place) (base : String) :
    placeOfText here (textBelow base list) = placeOfText here base ++ list := by
  have start : placeOfText here base = (parts base).foldl enter (startOf here base) := rfl
  rw [placeOfText_eq, names_textBelow onward, startOf, isAbsolute_textBelow onward,
    List.foldl_append, foldl_enter_of_stays onward.stays, start, startOf]

theorem textBelow_ne_empty (some_ : base ≠ "") (onward : Onward list) :
    textBelow base list ≠ "" := by
  intro empty
  have relative := isAbsolute_textBelow onward base
  have none_ := names_textBelow onward base
  rw [empty] at relative none_
  exact Path.parts_ne_nil some_ relative.symm (List.append_eq_nil_iff.mp none_.symm).1

theorem parent?_textBelow (onward : Onward (list ++ [name])) (base : String) :
    Path.parent? (textBelow base (list ++ [name])) = some (textBelow base list) := by
  have parts_ : parts (textBelow base (list ++ [name])) = parts base ++ list ++ [name] := by
    rw [List.append_assoc]
    exact Path.parts_ofParts (onward.tidy base)
  rw [parent?_of_parts parts_, isAbsolute_textBelow onward]
  rfl

/-- All directories on the way have texts that the system takes. -/
theorem GoesOn.sound (below : GoesOn base path list) (sound : Sound path) (some_ : base ≠ "")
    (onward : Onward list) {front : List String} (among : front <+: list) :
    Sound (textBelow base front) := by
  have named := textBelow_ne_empty some_ (onward.front among)
  rw [textBelow, ← below.same] at named ⊢
  refine sound.ofParts ?_ named
  rw [below.eq]
  exact (Path.parts_sublist base).append among.sublist

theorem walk_append (tree : FileTree) (here : Place) (front back : List String) :
    tree.walk here (front ++ back) =
      (tree.walk here front).bind fun place => tree.walk place back := by
  induction front generalizing here with
  | nil => rfl
  | cons name rest ih =>
    simp only [List.cons_append, walk]
    split
    next => rfl
    next => rfl
    next =>
      split
      next => exact ih here
      next =>
        split
        next => exact ih here.dropLast
        next =>
          split
          next => rfl
          next => exact ih (here ++ [name])

/-- Where no file is in the way, a walk is good or finds a directory missing. -/
theorem walk_open (stays : ∀ n ∈ list ++ [name], Stays n)
    (short : ∀ n ∈ list ++ [name], takesName n = true) (open_ : Open tree place list) :
    tree.walk place (list ++ [name]) = .ok (place ++ (list ++ [name])) ∨
      tree.walk place (list ++ [name]) = .error .notFound ∧
        ∃ front, front <+: list ∧ tree.find? (place ++ front) = none := by
  induction list generalizing place with
  | nil =>
    rcases open_ [] List.prefix_rfl with there | none_
    · rw [List.append_nil] at there
      obtain ⟨one, two⟩ := stays name (by simp)
      left
      rw [List.nil_append, walk_cons there (short name (by simp)), enter]
      simp [one, two, walk]
    · refine .inr ⟨?_, [], List.prefix_rfl, none_⟩
      rw [List.append_nil] at none_
      simp [walk, none_]
  | cons first rest ih =>
    rcases open_ [] List.nil_prefix with there | none_
    · rw [List.append_nil] at there
      obtain ⟨one, two⟩ := stays first (by simp)
      have entered : enter place first = place ++ [first] := by simp [enter, one, two]
      have onwards : Open tree (place ++ [first]) rest := fun front among => by
        rw [List.append_assoc]
        exact open_ (first :: front) (List.cons_prefix_cons.mpr ⟨rfl, among⟩)
      have later := ih (fun n mem => stays n (by simp_all)) (fun n mem => short n (by simp_all))
        onwards
      rw [List.cons_append, walk_cons there (short first (by simp)), entered]
      rcases later with ok | ⟨missing, front, among, none_⟩
      · rw [List.append_assoc] at ok
        exact .inl ok
      · rw [List.append_assoc] at none_
        exact .inr ⟨missing, first :: front, List.cons_prefix_cons.mpr ⟨rfl, among⟩, none_⟩
    · refine .inr ⟨?_, [], List.nil_prefix, none_⟩
      rw [List.append_nil] at none_
      simp [walk, none_]

section Below

variable (there : tree.isDirectory here base = true) (below : GoesOn base path (list ++ [name]))
  (sound : Sound path) (short : ∀ n ∈ list ++ [name], takesName n = true)
include there below sound short

/-- A path below a directory is looked up, unless a directory on its way is missing. -/
theorem locate_below (open_ : Open tree (placeOfText here base) list) :
    tree.locate here path = .ok ⟨placeOfText here path, asksDirectory path⟩ ∨
      tree.locate here path = .error .notFound ∧
        ∃ front, front <+: list ∧ tree.find? (placeOfText here base ++ front) = none := by
  obtain ⟨⟨at_, located⟩, -⟩ := isDirectory_iff.mp there
  obtain ⟨-, walked, -⟩ := locate_eq_ok located
  have starts : startOf here path = startOf here base := by rw [startOf, startOf, below.same]
  have whole : tree.walk (startOf here path) (names path) =
      tree.walk (placeOfText here base) (list ++ [name]) := by
    rw [starts, below.eq, walk_append, walked]
    rfl
  rw [locate_eq sound, whole, below.placeOf]
  rcases walk_open below.stays short open_ with ok | ⟨missing, gap⟩
  · exact .inl (by rw [ok]; rfl)
  · exact .inr ⟨by rw [missing]; rfl, gap⟩

/-- Once its directories are there, a path leads to its place. -/
theorem locate_of_directories (all : ∀ front, front <+: list →
      tree.find? (placeOfText here base ++ front) = some .directory) :
    tree.locate here path = .ok ⟨placeOfText here path, asksDirectory path⟩ := by
  rcases locate_below there below sound short fun front among => .inl (all front among) with
    ok | ⟨-, front, among, none_⟩
  · exact ok
  · rw [all front among] at none_
    cases none_

end Below

theorem onward_nil : Onward [] := ⟨nofun, nofun, nofun⟩

theorem isDirectory_of_along (sound : Sound path)
    (short : ∀ n ∈ names path, takesName n = true)
    (all : ∀ q, Along here path q → tree.find? q = some .directory) :
    tree.isDirectory here path = true := by
  have walked : tree.walk (startOf here path) (names path) = .ok (placeOfText here path) := by
    refine walk_eq_ok_iff.mpr ⟨placeOfText_eq here path, fun front name back eq => ?_⟩
    exact ⟨all _ ⟨front, eq ▸ List.prefix_append front _, rfl⟩, short name (by simp [eq])⟩
  refine isDirectory_iff.mpr
    ⟨⟨⟨placeOfText here path, asksDirectory path⟩, ?_⟩, all _ (along_self here path)⟩
  rw [locate_eq sound, walked]
  rfl

/-- A directory can be written without what carries no meaning in its path. -/
theorem isDirectory_textBelow_nil (there : tree.isDirectory here base = true) :
    tree.isDirectory here (textBelow base []) = true := by
  obtain ⟨⟨at_, located⟩, -⟩ := isDirectory_iff.mp there
  obtain ⟨sound, walked, -⟩ := locate_eq_ok located
  have own : names (textBelow base []) = parts base := by
    rw [names_textBelow onward_nil, List.append_nil]
  refine isDirectory_of_along ((GoesOn.refl base).sound sound sound.some_ onward_nil
    List.prefix_rfl) (fun n mem => ?_) fun q along => ?_
  · rw [own] at mem
    obtain ⟨front, back, eq⟩ := List.append_of_mem ((Path.parts_sublist base).subset mem)
    exact ((walk_eq_ok_iff.mp walked).2 front n back eq).2
  · have same := isAbsolute_textBelow onward_nil base
    exact (along.of_parts (own ▸ List.prefix_rfl) same).directory there

/-- There is a directory at the path, or one can be made there. -/
def Settles (tree : FileTree) (here : Place) (path : String) : Prop :=
  (∃ made, tree.makeDirectory here path = .ok made) ∨
    tree.makeDirectory here path = .error .alreadyExists ∧ tree.isDirectory here path = true

theorem settles_of_isDirectory (there : tree.isDirectory here path = true) :
    Settles tree here path := by
  obtain ⟨⟨at_, located⟩, found⟩ := isDirectory_iff.mp there
  obtain ⟨-, -, rfl⟩ := locate_eq_ok located
  exact .inr ⟨by simp only [makeDirectory, located, found, bind, Except.bind]; rfl, there⟩

theorem settles_of_open {at_ : Located} (located : tree.locate here path = .ok at_)
    (around : tree.find? (placeOfText here path).dropLast = some .directory)
    (open_ : tree.find? (placeOfText here path) = some .directory ∨
      tree.find? (placeOfText here path) = none) : Settles tree here path := by
  rcases open_ with found | free
  · exact settles_of_isDirectory (isDirectory_iff.mpr ⟨⟨at_, located⟩, found⟩)
  · obtain ⟨-, -, rfl⟩ := locate_eq_ok located
    left
    simp [makeDirectory, located, free, requireParent, around, bind, Except.bind, pure, Except.pure]

theorem Settles.makeDirectories (h : Settles tree here path) (depth : Nat) :
    (tree.makeDirectories here path (depth + 1)).2 = .ok () := by
  rw [FileTree.makeDirectories]
  split
  · rfl
  · rcases h with ⟨made, eq⟩ | ⟨eq, there⟩
    · rw [eq]
    · rw [eq]
      simp [there]

/-- If a directory is missing around it, those are made first. -/
theorem makeDirectories_of_above {depth : Nat} {above : String} (named : path ≠ "")
    (missing : tree.makeDirectory here path = .error .notFound)
    (parent : Path.parent? path = some above)
    (around : tree.makeDirectories here above depth = (middle, .ok ()))
    (settles : Settles middle here path) :
    (tree.makeDirectories here path (depth + 1)).2 = .ok () := by
  have some_ : path.isEmpty = false := by simpa using named
  rw [FileTree.makeDirectories, some_, missing]
  simp only [Bool.false_eq_true, if_false, parent, around]
  rcases settles with ⟨made, eq⟩ | ⟨eq, there⟩
  · rw [eq]
  · rw [eq]
    simp [there]

theorem goesOn_textBelow (onward : Onward list) (base : String) :
    GoesOn (textBelow base []) (textBelow base list) list := by
  refine ⟨?_, ?_, onward.stays⟩
  · rw [names_textBelow onward, names_textBelow onward_nil, List.append_nil]
  · rw [isAbsolute_textBelow onward, isAbsolute_textBelow onward_nil]

theorem directories_textBelow {front : List String} (onward : Onward list)
    (there : tree.isDirectory here (textBelow base list) = true) (among : front <+: list) :
    tree.find? (placeOfText here base ++ front) = some .directory := by
  have along : Along here _ _ := (goesOn_textBelow onward base).along_of_front among
  rw [placeOf_textBelow onward_nil, List.append_nil] at along
  exact along.directory there

/-- A path that is looked up has a directory around it. -/
theorem GoesOn.directory_of_located {at_ : Located} (below : GoesOn base path (list ++ [name]))
    (located : tree.locate here path = .ok at_) :
    tree.find? (placeOfText here base ++ list) = some .directory := by
  obtain ⟨-, walked, -⟩ := locate_eq_ok located
  have last := ((walk_eq_ok_iff.mp walked).2 (names base ++ list) name []
    (by rw [below.eq, List.append_assoc])).1
  rwa [List.foldl_append, startOf, below.same, foldl_enter_of_stays fun n mem =>
    below.stays n (List.mem_append_left _ mem), ← startOf, ← placeOfText_eq] at last

theorem textBelow_textBelow_nil (base : String) (list : List String) :
    textBelow (textBelow base []) list = textBelow base list := by
  have parts_ : parts (textBelow base []) = parts base := by
    rw [textBelow, List.append_nil]
    exact Path.parts_ofParts (Path.tidy_parts base)
  rw [textBelow, parts_, isAbsolute_textBelow onward_nil, textBelow]

/-- Once the directories around it have been made, a path leads to its place. -/
theorem locate_of_made {depth : Nat} (there : tree.isDirectory here base = true)
    (below : GoesOn base path (list ++ [name])) (sound : Sound path)
    (onward : Onward (list ++ [name])) (named : textBelow base list ≠ "")
    (result : tree.makeDirectories here (textBelow base list) depth = (middle, .ok ())) :
    Grows (Along here (textBelow base list)) (fun _ => False) tree middle ∧
      middle.find? (placeOfText here path).dropLast = some .directory ∧
      middle.locate here path = .ok ⟨placeOfText here path, asksDirectory path⟩ := by
  have grown := makeDirectories_grows tree here (textBelow base list) depth
  rw [result] at grown
  have made := makeDirectories_isDirectory named result
  have all : ∀ front, front <+: list →
      middle.find? (placeOfText here base ++ front) = some .directory := fun front among =>
    directories_textBelow (onward.front (List.prefix_append list [name])) made among
  have around : (placeOfText here path).dropLast = placeOfText here base ++ list := by
    rw [below.placeOf, ← List.append_assoc, List.dropLast_concat]
  refine ⟨grown, around ▸ all list List.prefix_rfl, ?_⟩
  exact locate_of_directories (grown.keeps.isDirectory there) below sound onward.short all

/-- All directories below one that is there can be made where no file is in the way. -/
theorem makeDirectories_ok {depth : Nat} (there : tree.isDirectory here base = true)
    (onward : Onward list) (sound : ∀ front, front <+: list → Sound (textBelow base front))
    (open_ : Open tree (placeOfText here base) list) (deep : list.length < depth) :
    (tree.makeDirectories here (textBelow base list) depth).2 = .ok () := by
  have base_ := isDirectory_textBelow_nil there
  have place_ : placeOfText here (textBelow base []) = placeOfText here base := by
    rw [placeOf_textBelow onward_nil, List.append_nil]
  rw [← place_] at open_
  induction list using List.reverseRecOn generalizing depth with
  | nil =>
    obtain ⟨less, rfl⟩ : ∃ less, depth = less + 1 := ⟨depth - 1, by omega⟩
    exact (settles_of_isDirectory base_).makeDirectories less
  | append_singleton list name ih =>
    obtain ⟨less, rfl⟩ : ∃ less, depth = less + 1 := ⟨depth - 1, by omega⟩
    have front_ : list <+: list ++ [name] := List.prefix_append _ _
    have below := goesOn_textBelow onward base
    have own := sound _ List.prefix_rfl
    have place := below.placeOf here
    rcases locate_below base_ below own onward.short (open_.front front_) with
      located | ⟨missing, -⟩
    · refine (settles_of_open located ?_ (place ▸ open_ _ List.prefix_rfl)).makeDirectories less
      rw [place, ← List.append_assoc, List.dropLast_concat]
      exact below.directory_of_located located
    · obtain ⟨middle, result⟩ : ∃ middle,
          tree.makeDirectories here (textBelow base list) less = (middle, .ok ()) := by
        refine ⟨_, Prod.ext rfl ?_⟩
        exact ih (onward.front front_) (fun front among => sound front (among.trans front_))
          (open_.front front_) (by simpa using deep)
      have named := (sound list front_).some_
      rw [← textBelow_textBelow_nil] at result named
      obtain ⟨grown, around, located⟩ := locate_of_made base_ below own onward named result
      rw [textBelow_textBelow_nil] at result
      refine makeDirectories_of_above own.some_ ?_ (parent?_textBelow onward base) result
        (settles_of_open located around ?_)
      · simp [makeDirectory, missing, bind, Except.bind]
      · rcases grown.same_or_directory (placeOfText here (textBelow base (list ++ [name]))) with
          same | ⟨found, -⟩
        · rw [same, place]
          exact open_ _ List.prefix_rfl
        · exact .inl found

theorem write_ok {content : Bytes}
    (located : tree.locate here path = .ok ⟨placeOfText here path, false⟩)
    (around : tree.find? (placeOfText here path).dropLast = some .directory)
    (free : tree.find? (placeOfText here path) ≠ some .directory) :
    ∃ made, tree.write here path content = .ok made := by
  cases found : tree.find? (placeOfText here path) with
  | none =>
    simp [write, located, found, requireParent, around, bind, Except.bind, pure, Except.pure]
  | some entry =>
    cases entry with
    | directory => exact absurd found free
    | file => simp [write, located, found, bind, Except.bind, pure, Except.pure]

/-- A file below a directory can be written, with the directories around it, if the system takes its
path and its names, no file is in the way and no directory has its name. -/
theorem writeWithParents_succeeds (there : tree.isDirectory here base = true)
    (below : GoesOn base path (list ++ [name])) (sound : Sound path)
    (plain : asksDirectory path = false)
    (short : ∀ n ∈ list ++ [name], takesName n = true)
    (open_ : Open tree (placeOfText here base) list)
    (free : tree.find? (placeOfText here path) ≠ some .directory) (content : Bytes) :
    ∃ made, tree.writeWithParents here path content = (made, .ok ()) := by
  have named : base ≠ "" := by
    obtain ⟨⟨at_, located⟩, -⟩ := isDirectory_iff.mp there
    exact (sound_of_locate located).some_
  have whole : Onward (list ++ [name]) := by
    refine ⟨fun n mem => ?_, below.stays, short⟩
    have among : n ∈ names path := by
      rw [below.eq]
      exact List.mem_append_right _ mem
    exact Path.isPart_of_mem_names among
  have front_ : list <+: list ++ [name] := List.prefix_append _ _
  have onward := whole.front front_
  have texts (front : List String) (among : front <+: list) : Sound (textBelow base front) :=
    below.sound sound named whole (among.trans front_)
  obtain ⟨middle, result⟩ : ∃ middle,
      tree.createAll here (textBelow base list) = (middle, .ok ()) := by
    refine ⟨_, Prod.ext rfl (makeDirectories_ok there onward texts open_ ?_)⟩
    have parts_ : parts (textBelow base list) = parts base ++ list :=
      Path.parts_ofParts (onward.tidy base)
    rw [parts_, List.length_append]
    omega
  obtain ⟨grown, around, located⟩ :=
    locate_of_made there below sound whole (texts list List.prefix_rfl).some_ result
  rw [plain] at located
  obtain ⟨written, eq⟩ : ∃ made, middle.write here path content = .ok made := by
    refine write_ok located around fun taken => ?_
    rcases grown.same_or_directory (placeOfText here path) with same | ⟨-, along⟩
    · exact free (same ▸ taken)
    · rcases (goesOn_textBelow onward base).along along with inside | ⟨front, -, among, eq⟩
      · exact free (inside.directory (isDirectory_textBelow_nil there))
      · rw [placeOf_textBelow onward_nil, List.append_nil, below.placeOf] at eq
        have long := among.length_le
        rw [← List.append_cancel_left eq, List.length_append, List.length_singleton] at long
        omega
  have some_ : (textBelow base list).isEmpty = false := by
    simpa using (texts list List.prefix_rfl).some_
  refine ⟨written, ?_⟩
  rw [writeWithParents, below.parent?, Option.getD_some, some_]
  simp only [Bool.false_eq_true, if_false, result, eq]

end ClassSwap.FileTree
