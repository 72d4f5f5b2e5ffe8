import ClassSwap.Compile.Javac
import ClassSwap.Proofs.BatchWrites
import ClassSwap.Proofs.ClassPaths
import ClassSwap.Proofs.DirectoryWrites
import Mathlib.Data.List.Nodup

namespace ClassSwap

open ClassSwap.Path (names isAbsolute)

namespace Table

variable {κ α : Type} [DecidableEq κ] {t : Table κ α} {key : κ}

theorem put_of_get?_eq_none (new : t.get? key = none) (value : α) :
    t.put key value = t ++ [(key, value)] := by
  induction t with
  | nil => rfl
  | cons entry rest ih =>
    rw [get?_cons] at new
    split at new
    next => cases new
    next other => rw [put, if_neg other, ih new, List.cons_append]

theorem mem_of_get?_eq_some {value : α} (found : t.get? key = some value) : (key, value) ∈ t := by
  induction t with
  | nil => cases found
  | cons entry rest ih =>
    rw [get?_cons] at found
    split at found
    next own =>
      cases found
      exact own ▸ List.mem_cons_self
    next => exact List.mem_cons_of_mem entry (ih found)

end Table

namespace FileTree

variable {tree made : FileTree} {here base place : Place} {list : List String} {path : String}
  {content : Bytes} {executable : Bool} {entry : Entry}

theorem get?_of_find? (named : list ≠ []) :
    tree.find? (base ++ list) = tree.entries.get? (base ++ list) := by
  rw [find?, if_neg]
  simp [named]

theorem mem_below (named : list ≠ []) (found : tree.find? (base ++ list) = some entry) :
    (list, entry) ∈ tree.below base := by
  rw [get?_of_find? named] at found
  refine List.mem_filterMap.mpr ⟨_, Table.mem_of_get?_eq_some found, ?_⟩
  simp [named]

theorem mem_filesBelow (named : list ≠ [])
    (found : tree.find? (base ++ list) = some (.file content executable)) :
    (list, content) ∈ tree.filesBelow base :=
  List.mem_filterMap.mpr ⟨_, mem_below named found, rfl⟩

theorem entries_put (free : tree.find? place = none) (entry : Entry) :
    (tree.put place entry).entries = tree.entries ++ [(place, entry)] := by
  have named := Grows.ne_nil_of_find? free nofun
  rw [find?, if_neg (by simpa using named)] at free
  exact Table.put_of_get?_eq_none free entry

theorem filesBelow_put_directory (free : tree.find? place = none) :
    (tree.put place .directory).filesBelow base = tree.filesBelow base := by
  rw [filesBelow, filesBelow, below, below, entries_put free, List.filterMap_append,
    List.filterMap_append]
  simp

theorem filesBelow_put_file (named : list ≠ []) (free : tree.find? (base ++ list) = none) :
    (tree.put (base ++ list) (.file content executable)).filesBelow base =
      tree.filesBelow base ++ [(list, content)] := by
  rw [filesBelow, filesBelow, below, below, entries_put free, List.filterMap_append,
    List.filterMap_append]
  simp [named]

/-- Directories that are made leave the files as they are. -/
theorem Grows.filesBelow {dirs : Place → Prop} (grown : Grows dirs (fun _ => False) tree made)
    (base : Place) : made.filesBelow base = tree.filesBelow base := by
  induction grown with
  | start => rfl
  | directory _ free _ ih => rw [filesBelow_put_directory free, ih]
  | file _ _ no => exact no.elim

/-- A file that is new comes in behind those that are there. -/
theorem filesBelow_writeWithParents [Limits] {here : Place}
    (wrote : tree.writeWithParents here path content = (made, .ok ()))
    (place_ : placeOfText here path = base ++ list) (named : list ≠ [])
    (free : tree.find? (base ++ list) = none) :
    made.filesBelow base = tree.filesBelow base ++ [(list, content)] := by
  obtain ⟨middle, grown, ⟨e, eq⟩ | ⟨made', written, eq⟩⟩ :=
    writeWithParents_cases tree here path content
  · rw [eq] at wrote
    cases wrote
  · obtain ⟨rfl, -⟩ := Prod.mk.inj (eq.symm.trans wrote)
    obtain ⟨-, open_, executable, rfl⟩ := write_eq_ok written
    rw [place_] at open_ ⊢
    have free' : middle.find? (base ++ list) = none := by
      rcases grown.same_or_directory (base ++ list) with same | ⟨taken, -⟩
      · exact same.trans free
      · exact absurd taken open_
    rw [filesBelow_put_file named free', grown.filesBelow]

end FileTree

namespace Naming

open ClassName (FileEnding Filed WellFormed)
open FileTree (GoesOn Stays asksDirectory)

variable {strategy : Naming} {c d : ClassName} {suffix base : String}

def below (strategy : Naming) (suffix : String) (c : ClassName) : Place :=
  names (strategy.resolve "" c suffix)

theorem join_empty (name : String) : Path.join "" name = name := by
  simp [Path.join]

theorem resolve_eq_join (several : strategy ≠ .custom) (base : String) (c : ClassName)
    (suffix : String) :
    strategy.resolve base c suffix = Path.join base (strategy.resolve "" c suffix) := by
  cases strategy with
  | fullyQualified | directories => simp only [resolve, join_empty]
  | custom => exact absurd rfl several

theorem below_fullyQualified (formed : c.WellFormed) (h : FileEnding suffix) :
    below .fullyQualified suffix c = [c.text ++ suffix] := by
  have flat : '/' ∉ (c.text ++ suffix).toList := by
    rw [String.toList_append, List.mem_append, not_or]
    exact ⟨formed.filed.flat, h.flat⟩
  rw [below, resolve, join_empty, names, splitOnChar_of_notMem flat]
  simp [h.ne_empty]

theorem below_directories (c : ClassName) (suffix : String) :
    below .directories suffix c = names (c.internalName ++ suffix) := by
  rw [below, resolve, join_empty]

theorem head_of_wellFormed (formed : c.WellFormed) :
    ∃ first rest, c.text.toList = first :: rest ∧ first ≠ '.' ∧ first ≠ '/' := by
  cases own : c.text.toList with
  | nil => exact absurd rfl (formed [] (by rw [own]; exact List.mem_cons_self)).1
  | cons first rest =>
    have plain := formed.filed.not_rooted
    simp only [ClassName.Rooted, own, List.head?_cons, Option.some.injEq, not_or] at plain
    exact ⟨first, rest, rfl, plain.1, plain.2⟩

/-- The names on the way to the file of a class have no dot, and its own name has no dot in
front. -/
theorem below_eq (several : strategy ≠ .custom) (formed : c.WellFormed) (h : FileEnding suffix) :
    ∃ front stem, below strategy suffix c = front ++ [stem ++ suffix] ∧
      (∀ n ∈ front, '.' ∉ n.toList) ∧ ∃ first rest, stem.toList = first :: rest ∧ first ≠ '.' := by
  cases strategy with
  | fullyQualified =>
    obtain ⟨first, rest, eq, plain, -⟩ := head_of_wellFormed formed
    exact ⟨[], c.text, below_fullyQualified formed h, nofun, first, rest, eq, plain⟩
  | directories =>
    obtain ⟨front, last, own, eq⟩ := formed.filed.names_file h
    refine ⟨_, _, (below_directories c suffix).trans eq, fun n mem => ?_, ?_⟩
    · obtain ⟨piece, among, rfl⟩ := List.mem_map.mp mem
      rw [String.toList_ofList]
      exact notMem_of_mem_splitOnChar (own ▸ List.mem_append_left _ among)
    · have among : last ∈ splitOnChar '.' c.text.toList := own ▸ List.mem_append_right _ (by simp)
      obtain ⟨first, rest, eq⟩ := List.exists_cons_of_ne_nil (formed last among).1
      refine ⟨first, rest, by rw [String.toList_ofList, eq], fun dot => ?_⟩
      exact notMem_of_mem_splitOnChar among (by simp [eq, dot])
  | custom => exact absurd rfl several

theorem below_injective (several : strategy ≠ .custom) (formed : c.WellFormed)
    (formed' : d.WellFormed) (h : FileEnding suffix)
    (same : below strategy suffix c = below strategy suffix d) : c = d := by
  cases strategy with
  | fullyQualified =>
    rw [below_fullyQualified formed h, below_fullyQualified formed' h] at same
    have text : c.text = d.text := by simpa using same
    rcases c with ⟨text⟩
    rcases d with ⟨text'⟩
    exact congrArg ClassName.mk ‹_›
  | directories =>
    rw [below_directories, below_directories] at same
    exact formed.filed.eq_of_names formed'.filed h same
  | custom => exact absurd rfl several

/-- The path of a class is relative, ends with the suffix and has no other characters than the class
and the suffix but slashes. -/
theorem resolve_text (several : strategy ≠ .custom) (formed : c.WellFormed)
    (h : FileEnding suffix) :
    isAbsolute (strategy.resolve "" c suffix) = false ∧
      ∃ front, (strategy.resolve "" c suffix).toList = front ++ suffix.toList ∧
        ∀ x ∈ front, x = '/' ∨ x ∈ c.text.toList := by
  cases strategy with
  | fullyQualified =>
    obtain ⟨first, rest, eq, -, relative⟩ := head_of_wellFormed formed
    rw [resolve, join_empty]
    refine ⟨?_, c.text.toList, String.toList_append, fun x mem => .inr mem⟩
    simp [isAbsolute, eq, relative]
  | directories =>
    rw [resolve, join_empty]
    refine ⟨formed.filed.relative h, c.internalName.toList, String.toList_append, fun x mem => ?_⟩
    rw [ClassName.internalName, String.toList_ofList, replaceChar] at mem
    obtain ⟨y, among, rfl⟩ := List.mem_map.mp mem
    split
    · exact .inl rfl
    · exact .inr among
  | custom => exact absurd rfl several

theorem stays_of_head {stem : String} {first : Char} {rest : List Char}
    (eq : stem.toList = first :: rest) (plain : first ≠ '.') (suffix : String) :
    Stays (stem ++ suffix) := by
  have head : (stem ++ suffix).toList.head? = some first := by simp [eq]
  constructor <;> intro dots <;> rw [dots] at head <;> exact plain (by simpa using head.symm)

theorem goesOn_resolve (several : strategy ≠ .custom) (formed : c.WellFormed)
    (h : FileEnding suffix) (named : base ≠ "") :
    GoesOn base (strategy.resolve base c suffix) (below strategy suffix c) := by
  have stays : ∀ n ∈ below strategy suffix c, Stays n := by
    obtain ⟨front, stem, eq, plain, first, rest, head, own⟩ := below_eq several formed h
    intro n mem
    rw [eq, List.mem_append, List.mem_singleton] at mem
    rcases mem with mem | rfl
    · have free := plain n mem
      constructor <;> rintro rfl <;> exact free (by decide)
    · exact stays_of_head head own suffix
  rw [resolve_eq_join several]
  exact (GoesOn.refl base).join named (resolve_text several formed h).1 stays

theorem asksDirectory_resolve (several : strategy ≠ .custom) (formed : c.WellFormed)
    (h : FileEnding suffix) (named : base ≠ "") :
    asksDirectory (strategy.resolve base c suffix) = false := by
  have ends : (strategy.resolve base c suffix).toList.getLast? ≠ some '/' := by
    obtain ⟨-, front, eq, -⟩ := resolve_text several formed h
    obtain ⟨more, whole⟩ := Path.exists_join_eq base (strategy.resolve "" c suffix)
    have some_ : suffix.toList ≠ [] := mt String.toList_eq_nil_iff.mp h.some_
    rw [resolve_eq_join several, whole, String.toList_append, eq, ← List.append_assoc,
      List.getLast?_append_of_ne_nil _ some_]
    exact fun slash => h.flat (List.mem_of_getLast? slash)
  have below := goesOn_resolve several formed h named
  obtain ⟨front, stem, eq, -⟩ := below_eq several formed h
  have last : (names (strategy.resolve base c suffix)).getLast? = some (stem ++ suffix) := by
    rw [below.eq, eq, ← List.append_assoc, List.getLast?_concat]
  obtain ⟨one, two⟩ := below.stays (stem ++ suffix) (by rw [eq]; simp)
  simp [asksDirectory, ends, last, one, two]

theorem mem_join {x : Char} {name : String} (mem : x ∈ (Path.join base name).toList) :
    x ∈ base.toList ∨ x = '/' ∨ x ∈ name.toList := by
  unfold Path.join at mem
  split at mem
  · exact .inr (.inr mem)
  · split at mem
    · rw [String.toList_append, List.mem_append] at mem
      exact mem.imp_right .inr
    · rw [String.toList_append, String.toList_append, List.mem_append, List.mem_append] at mem
      rcases mem with (mem | mem) | mem
      · exact .inl mem
      · exact .inr (.inl (List.mem_singleton.mp mem))
      · exact .inr (.inr mem)

end Naming

namespace Save

open FileTree (GoesOn Grows Limits Sound asksDirectory placeOfText takesName)

variable {here : Place} {base path : String} {list : List String} {stock : List (Place × Bytes)}
  {tree made : FileTree} {content : Bytes}

/-- Directories without a dot in their names, and a file with a dot in its name. -/
def Dotted (list : List String) : Prop :=
  ∃ front name, list = front ++ [name] ∧ (∀ n ∈ front, '.' ∉ n.toList) ∧ '.' ∈ name.toList

theorem Dotted.ne_nil (dotted : Dotted list) : list ≠ [] := by
  obtain ⟨front, name, rfl, -⟩ := dotted
  simp

variable [Limits]

/-- The path of a file that goes on from a base by these names. -/
structure Savable (base path : String) (list : List String) : Prop where
  below : GoesOn base path list
  dotted : Dotted list
  file : asksDirectory path = false
  sound : Sound path
  short : ∀ name ∈ list, takesName name = true

structure Furnished (here : Place) (base : String) (stock : List (Place × Bytes))
    (tree : FileTree) : Prop where
  there : tree.isDirectory here base = true
  files : tree.filesBelow (placeOfText here base) = stock
  found : ∀ e ∈ stock, ∃ executable,
    tree.find? (placeOfText here base ++ e.1) = some (.file e.2 executable)
  dotted : ∀ e ∈ stock, Dotted e.1
  plain : ∀ list, list ≠ [] → tree.find? (placeOfText here base ++ list) = some .directory →
    ∀ name ∈ list, '.' ∉ name.toList

theorem furnished_nil (there : tree.isDirectory here base = true)
    (empty : tree.below (placeOfText here base) = []) : Furnished here base [] tree where
  there := there
  files := by rw [FileTree.filesBelow, empty]; rfl
  found := nofun
  dotted := nofun
  plain list named found := by
    have mem := FileTree.mem_below named found
    rw [empty] at mem
    cases mem

namespace Furnished

variable (h : Furnished here base stock tree) (savable : Savable base path list)
include h savable

/-- The files are not in the way of a further one. -/
theorem writable (content : Bytes) :
    ∃ made, tree.writeWithParents here path content = (made, .ok ()) := by
  obtain ⟨front, name, eq, plain, dot⟩ := savable.dotted
  have below := savable.below
  have short := savable.short
  rw [eq] at below short
  refine FileTree.writeWithParents_succeeds h.there below savable.sound savable.file short ?_ ?_
    content
  · intro some_ among
    by_cases start : some_ = []
    · rw [start, List.append_nil]
      exact .inl (FileTree.isDirectory_iff.mp h.there).2
    cases found : tree.find? (placeOfText here base ++ some_) with
    | none => exact .inr rfl
    | some entry =>
      cases entry with
      | directory => exact .inl rfl
      | file content executable =>
        have mem := FileTree.mem_filesBelow start found
        obtain ⟨front', name', rfl, -, dot'⟩ := h.dotted _ (h.files ▸ mem)
        exact absurd dot' (plain name' (among.subset (by simp)))
  · intro taken
    rw [below.placeOf] at taken
    exact h.plain _ (by simp) taken name (by simp) dot

theorem write (new : list ∉ stock.map (·.1))
    (wrote : tree.writeWithParents here path content = (made, .ok ())) :
    Furnished here base (stock ++ [(list, content)]) made := by
  have named := savable.dotted.ne_nil
  have place := savable.below.placeOf here
  have grown := FileTree.writeWithParents_around tree here path content
  rw [wrote] at grown
  obtain ⟨executable, own⟩ := (FileTree.writeWithParents_ok wrote).2
  have free : tree.find? (placeOfText here base ++ list) = none := by
    cases found : tree.find? (placeOfText here base ++ list) with
    | none => rfl
    | some entry =>
      cases entry with
      | directory =>
        obtain ⟨front, name, eq, -, dot⟩ := savable.dotted
        exact absurd dot (h.plain list named found name (by simp [eq]))
      | file content executable =>
        have mem := FileTree.mem_filesBelow named found
        rw [h.files] at mem
        exact absurd (List.mem_map_of_mem mem) new
  refine ⟨grown.keeps.isDirectory h.there, ?_, fun e mem => ?_, fun e mem => ?_,
    fun list' named' found => ?_⟩
  · rw [FileTree.filesBelow_writeWithParents wrote place named free, h.files]
  · rcases List.mem_append.mp mem with old | own_
    · obtain ⟨executable, found⟩ := h.found e old
      refine ⟨executable, (grown.file_iff ?_).mpr found⟩
      rintro ⟨-, same⟩
      rw [place] at same
      exact new (List.mem_map.mpr ⟨e, old, List.append_cancel_left same⟩)
    · obtain rfl := List.mem_singleton.mp own_
      exact ⟨executable, place ▸ own⟩
  · rcases List.mem_append.mp mem with old | own_
    · exact h.dotted e old
    · obtain rfl := List.mem_singleton.mp own_
      exact savable.dotted
  · rcases grown.entry_cases (placeOfText here base ++ list') with
      kept | ⟨-, around⟩ | ⟨_, _, file, -⟩
    · exact h.plain list' named' (kept ▸ found)
    · rcases savable.below.along around.along with inside | ⟨front, -, among, eq⟩
      · exact h.plain list' named' (inside.directory h.there)
      · obtain rfl := List.append_cancel_left eq
        obtain ⟨front, name, parts_, plain, -⟩ := savable.dotted
        rw [parts_, List.prefix_concat_iff] at among
        rcases among with whole | among
        · rw [whole, ← parts_, ← place, own] at found
          cases found
        · exact fun n mem => plain n (among.subset mem)
    · rw [file] at found
      cases found

end Furnished

theorem Furnished.read (h : Furnished here base stock tree) (below : GoesOn base path list)
    (located : tree.locate here path = .ok ⟨placeOfText here path, false⟩)
    (mem : (list, content) ∈ stock) : tree.read here path = .ok content := by
  obtain ⟨executable, found⟩ := h.found _ mem
  rw [← below.placeOf] at found
  exact FileTree.read_eq_ok located found

theorem furnished_writeEach (pathOf : ClassName → String) (listOf : ClassName → List String)
    (items : List Item) (h : Furnished here base stock tree)
    (savable : ∀ item ∈ items, Savable base (pathOf item.className) (listOf item.className))
    (apart : (stock.map (·.1) ++ items.map (listOf ·.className)).Nodup) :
    (∀ r ∈ (writeEach tree here pathOf items).2, r.isSaved) ∧
      Furnished here base (stock ++ items.map fun item => (listOf item.className, item.content))
        (writeEach tree here pathOf items).1 := by
  induction items generalizing stock tree with
  | nil =>
    rw [List.map_nil, List.append_nil]
    exact ⟨nofun, h⟩
  | cons item items ih =>
    have own := savable item List.mem_cons_self
    obtain ⟨made, wrote⟩ := h.writable own item.content
    have new : listOf item.className ∉ stock.map (·.1) := fun mem =>
      (List.nodup_append.mp apart).2.2 _ mem _ List.mem_cons_self rfl
    have more := h.write own new wrote
    obtain ⟨eq, -, -, saved⟩ := writeOne_eq tree here (pathOf item.className) item
    rw [wrote] at eq saved
    obtain rfl : _ = made := eq
    obtain ⟨all, full⟩ := ih more (fun other mem => savable other (List.mem_cons_of_mem item mem))
      (by simpa using apart)
    rw [writeEach_cons]
    refine ⟨fun r mem => ?_, by simpa using full⟩
    rcases List.mem_cons.mp mem with rfl | mem
    · exact saved.mpr rfl
    · exact all r mem

end Save

namespace Javac

open ClassName (Filed WellFormed isSuffix_classSuffix)

variable {c : ClassName} {files : List ClassFile} {tree : FileTree} {place : Place}

/-- A class file has more to its name than the suffix. -/
theorem isClassFile_iff : isClassFile place = true ↔
    ∃ front stem, stem ≠ "" ∧ place = front ++ [stem ++ ClassName.classSuffix] := by
  constructor
  · intro kind
    unfold isClassFile at kind
    split at kind
    next name last =>
      obtain ⟨front, rfl⟩ := List.getLast?_eq_some_iff.mp last
      rcases splitAtLast_cases '.' name.toList with ⟨-, split⟩ | ⟨stem, suffix, eq, -, split⟩
      · simp [Path.splitName, split] at kind
      · cases stem with
        | nil => simp [Path.splitName, split] at kind
        | cons c stem =>
          simp only [Path.splitName, split, beq_iff_eq, Option.some.injEq] at kind
          refine ⟨front, String.ofList (c :: stem), by simp, ?_⟩
          rw [List.append_cancel_left_eq, List.cons.injEq, and_iff_left rfl, ← String.toList_inj,
            eq, String.toList_append, String.toList_ofList, ← String.toList_ofList (l := suffix),
            kind]
          rfl
    next => cases kind
  · rintro ⟨front, stem, some_, rfl⟩
    obtain ⟨c, rest, own⟩ := List.exists_cons_of_ne_nil (mt String.toList_eq_nil_iff.mp some_)
    have split : splitAtLast '.' (stem ++ ClassName.classSuffix).toList =
        some (c :: rest, ['c', 'l', 'a', 's', 's']) := by
      rw [String.toList_append, own]
      exact splitAtLast_append (by decide)
    rw [isClassFile, List.getLast?_concat]
    simp only [Path.splitName, split]
    rfl

theorem isClassFile_names (formed : c.WellFormed) : isClassFile (names c.classFilePath) = true := by
  obtain ⟨front, last, own, eq⟩ := formed.filed.names_file isSuffix_classSuffix.toFileEnding
  have some_ : last ≠ [] := (formed last (own ▸ List.mem_append_right _ (by simp))).1
  exact isClassFile_iff.mpr ⟨_, String.ofList last, by simpa using some_, eq⟩

/-- A class is named by the place of its file. -/
theorem classOfPlace_names (filed : c.Filed) : classOfPlace (names c.classFilePath) = c := by
  obtain ⟨front, last, own, eq⟩ := filed.names_file isSuffix_classSuffix.toFileEnding
  have stem : (if ClassName.classSuffix.toList.isSuffixOf
        (String.ofList last ++ ClassName.classSuffix).toList then
      (String.ofList last ++ ClassName.classSuffix).toList.take
        ((String.ofList last ++ ClassName.classSuffix).toList.length -
          ClassName.classSuffix.toList.length)
      else (String.ofList last ++ ClassName.classSuffix).toList) = last := by
    rw [if_pos (by simp [List.isSuffixOf_iff_suffix])]
    simp
  have text : (".".intercalate (front.map String.ofList ++ [String.ofList last])).toList =
      c.text.toList := by
    rw [String.toList_intercalate, ← intercalate_splitOnChar '.' c.text.toList, own]
    simp [Function.comp_def]
  rw [ClassName.classFilePath, eq, classOfPlace]
  simp only [List.getLast?_concat, Option.getD_some, List.dropLast_concat, stem]
  rcases c with ⟨name⟩
  exact congrArg ClassName.mk (String.toList_inj.mp text)

/-- Where the class files of some classes are and no other files, exactly these are collected. -/
theorem collect_perm (formed : ∀ c ∈ files, c.className.WellFormed)
    (below : tree.filesBelow place =
      files.map fun c => (names c.className.classFilePath, c.bytes)) :
    (collect tree place).Perm files := by
  have all : (tree.filesBelow place).filter (fun f => isClassFile f.1) = tree.filesBelow place := by
    simp only [below, List.filter_eq_self, List.forall_mem_map]
    exact fun c mem => isClassFile_names (formed c mem)
  have back : (tree.filesBelow place).map (fun f => (⟨classOfPlace f.1, f.2⟩ : ClassFile)) =
      files := by
    rw [below, List.map_map]
    refine (List.map_congr_left fun c mem => ?_).trans (List.map_id files)
    simp [classOfPlace_names (formed c mem).filed]
  have sorted := (List.mergeSort_perm (tree.filesBelow place)
    fun a b => placeLe a.1 b.1).map fun f => (⟨classOfPlace f.1, f.2⟩ : ClassFile)
  rwa [back, ← all] at sorted

end Javac

namespace Save

open FileTree (Limits Sound placeOfText takesName takesPath)

variable {strategy : Naming} {suffix base : String} {files : List ClassFile} {tree : FileTree}
  {here : Place} {c : ClassName}

/-- A suffix that sets the name of a file apart from those of directories. -/
structure DotSuffix (suffix : String) : Prop where
  dot : suffix.toList.head? = some '.'
  flat : '/' ∉ suffix.toList
  plain : '\x00' ∉ suffix.toList

theorem DotSuffix.ending (h : DotSuffix suffix) : ClassName.FileEnding suffix := by
  refine ⟨h.flat, ?_⟩
  rintro rfl
  cases h.dot

section

variable [Limits]

theorem savable_resolve (several : strategy ≠ .custom) (h : DotSuffix suffix)
    (formed : c.WellFormed) (plain : '\x00' ∉ c.text.toList)
    (there : tree.isDirectory here base = true)
    (path : takesPath (strategy.resolve base c suffix) = true)
    (short : ∀ name ∈ strategy.below suffix c, takesName name = true) :
    Savable base (strategy.resolve base c suffix) (strategy.below suffix c) := by
  obtain ⟨⟨at_, located⟩, -⟩ := FileTree.isDirectory_iff.mp there
  have sound := FileTree.sound_of_locate located
  have below := Naming.goesOn_resolve several formed h.ending sound.some_
  have stays := Naming.asksDirectory_resolve several formed h.ending sound.some_
  refine ⟨below, ?_, stays, ⟨?_, ?_, path⟩, short⟩
  · obtain ⟨front, stem, eq, plain, -⟩ := Naming.below_eq several formed h.ending
    refine ⟨front, stem ++ suffix, eq, plain, ?_⟩
    rw [String.toList_append]
    exact List.mem_append_right _ (List.mem_of_head? h.dot)
  · intro mem
    obtain ⟨-, front, text, own⟩ := Naming.resolve_text several formed h.ending
    rw [Naming.resolve_eq_join several] at mem
    rcases Naming.mem_join mem with mem | slash | mem
    · exact sound.plain mem
    · cases slash
    · rw [text, List.mem_append] at mem
      rcases mem with mem | mem
      · exact (own _ mem).elim nofun plain
      · exact h.plain mem
  · rw [Naming.resolve_eq_join several]
    exact Path.join_ne_empty sound.some_

theorem writeClassFiles_eq (several : strategy ≠ .custom) :
    writeClassFiles tree here base strategy suffix files =
      ((writeEach tree here (fun c => strategy.resolve base c suffix)
        (files.map Item.ofClassFile)).1,
      .ok ((writeEach tree here (fun c => strategy.resolve base c suffix)
        (files.map Item.ofClassFile)).2.foldl SaveReport.add
          (.start (files.map Item.ofClassFile).length))) :=
  if_neg fun refused => several refused.1

/-- When all items have been saved, the path of each leads to its own place. -/
theorem locate_of_all_saved {pathOf : ClassName → String} {items : List Item}
    (all : ∀ r ∈ (writeEach tree here pathOf items).2, r.isSaved) {item : Item}
    (mem : item ∈ items) :
    (writeEach tree here pathOf items).1.locate here (pathOf item.className) =
      .ok ⟨placeOfText here (pathOf item.className), false⟩ := by
  have attempted : (item.className, pathOf item.className) ∈
      (writeEach tree here pathOf items).2.map fun r => (r.className, r.path) := by
    rw [results_writeEach]
    exact List.mem_map_of_mem (f := fun item : Item => (item.className, pathOf item.className)) mem
  obtain ⟨r, among, same⟩ := List.mem_map.mp attempted
  rw [← (Prod.mk.inj same).2]
  exact writeEach_located among (all r among)

/-- A batch whose names and paths are not too long is saved whole, and found again. -/
theorem saved_of_fits (several : strategy ≠ .custom) (h : DotSuffix suffix)
    (distinct : (files.map (·.className)).Nodup)
    (formed : ∀ c ∈ files, c.className.WellFormed ∧ '\x00' ∉ c.className.text.toList)
    (there : tree.isDirectory here base = true)
    (empty : tree.below (placeOfText here base) = [])
    (fits : ∀ c ∈ files, takesPath (strategy.resolve base c.className suffix) = true ∧
      ∀ name ∈ strategy.below suffix c.className, takesName name = true) :
    let run := writeClassFiles tree here base strategy suffix files
    ∃ report, run.2 = .ok report ∧
      report.outcome = (if files = [] then .noneSaved else .allSaved) ∧
      run.1.filesBelow (placeOfText here base) =
        files.map (fun c => (strategy.below suffix c.className, c.bytes)) ∧
      (files.map fun c => strategy.below suffix c.className).Nodup ∧
      (∀ c ∈ files, run.1.read here (strategy.resolve base c.className suffix) = .ok c.bytes) ∧
      (strategy = .directories → suffix = ClassName.classSuffix →
        (Javac.collect run.1 (placeOfText here base)).Perm files) := by
  intro run
  have apart : (files.map fun c => strategy.below suffix c.className).Nodup := by
    refine List.pairwise_map.mpr ((List.pairwise_map.mp distinct).imp_of_mem ?_)
    intro c d mem mem' other same
    exact other (Naming.below_injective several (formed c mem).1 (formed d mem').1 h.ending same)
  have savable (c : ClassFile) (mem : c ∈ files) : Savable base
      (strategy.resolve base c.className suffix) (strategy.below suffix c.className) :=
    savable_resolve several h (formed c mem).1 (formed c mem).2 there (fits c mem).1 (fits c mem).2
  have accounted := accounted_writeEach tree here (fun c => strategy.resolve base c suffix)
    (files.map Item.ofClassFile)
  obtain ⟨all, full⟩ := furnished_writeEach (fun c => strategy.resolve base c suffix)
    (strategy.below suffix) (files.map Item.ofClassFile) (furnished_nil there empty) (by
      intro item mem
      obtain ⟨c, among, rfl⟩ := List.mem_map.mp mem
      exact savable c among) (by
      rw [List.map_nil, List.nil_append, List.map_map]
      exact apart)
  rw [List.nil_append, List.map_map] at full
  have eq : run = _ := writeClassFiles_eq several
  rw [eq]
  refine ⟨_, rfl, ?_, full.files, apart, fun c mem => ?_, ?_⟩
  · split
    next none_ =>
      subst none_
      exact accounted.noneSaved.mpr nofun
    next some_ =>
      refine accounted.allSaved.mpr ⟨by simpa using some_, ?_⟩
      rw [SaveReport.foldl_add]
      exact all
  · have among : Item.ofClassFile c ∈ files.map Item.ofClassFile := List.mem_map_of_mem mem
    have located := locate_of_all_saved all among
    exact full.read (savable c mem).below located (List.mem_map.mpr ⟨c, mem, rfl⟩)
  · rintro rfl rfl
    refine Javac.collect_perm (fun c mem => (formed c mem).1) ?_
    rw [full.files]
    refine List.map_congr_left fun c _ => ?_
    rw [Function.comp_apply, Naming.below_directories]
    rfl

/-- Where names and paths may be of any length, every batch of well-formed classes is saved whole
into an empty directory, named in full or by package: the directory has exactly one file for each
class, with its bytes. The class files by package are found again under their names. -/
theorem saved_whole (unlimited : Limits.name = none ∧ Limits.path = none)
    (several : strategy ≠ .custom) (h : DotSuffix suffix)
    (distinct : (files.map (·.className)).Nodup)
    (formed : ∀ c ∈ files, c.className.WellFormed ∧ '\x00' ∉ c.className.text.toList)
    (there : tree.isDirectory here base = true)
    (empty : tree.below (placeOfText here base) = []) :
    let run := writeClassFiles tree here base strategy suffix files
    ∃ report, run.2 = .ok report ∧
      report.outcome = (if files = [] then .noneSaved else .allSaved) ∧
      run.1.filesBelow (placeOfText here base) =
        files.map (fun c => (strategy.below suffix c.className, c.bytes)) ∧
      (files.map fun c => strategy.below suffix c.className).Nodup ∧
      (∀ c ∈ files, run.1.read here (strategy.resolve base c.className suffix) = .ok c.bytes) ∧
      (strategy = .directories → suffix = ClassName.classSuffix →
        (Javac.collect run.1 (placeOfText here base)).Perm files) :=
  saved_of_fits several h distinct formed there empty fun _ _ =>
    ⟨by rw [takesPath, unlimited.2]; rfl, fun _ _ => by rw [takesName, unlimited.1]; rfl⟩

end

abbrev unlimited : Limits := ⟨none, none, nofun⟩

def emptyOut : FileTree := ⟨[(["out"], .directory)]⟩

/-- One class is named like the package of the other one. -/
theorem saved_whole_nested :
    ∃ report, (@writeClassFiles unlimited emptyOut [] "/out" .directories ".class"
        [⟨⟨"p.A"⟩, [1]⟩, ⟨⟨"p.A.B"⟩, [2]⟩]).2 = .ok report ∧ report.outcome = .allSaved := by
  obtain ⟨report, made, outcome, -⟩ := @saved_whole .directories ".class" "/out"
    [⟨⟨"p.A"⟩, [1]⟩, ⟨⟨"p.A.B"⟩, [2]⟩] emptyOut [] unlimited ⟨rfl, rfl⟩ (by decide)
    ⟨by decide, by decide, by decide⟩ (by decide) (by decide +kernel) (by decide +kernel)
    (by decide +kernel)
  exact ⟨report, made, outcome⟩

theorem none_saved_of_empty_batch :
    @FileTree.isDirectory unlimited emptyOut [] "/out" = true ∧
      emptyOut.below (placeOfText [] "/out") = [] ∧
      ∃ report, (@writeClassFiles unlimited emptyOut [] "/out" .directories ".class" []).2 =
        .ok report ∧ report.outcome ≠ .allSaved :=
  ⟨by decide +kernel, by decide +kernel, ⟨0, 0, none, []⟩, rfl, by decide⟩

end Save

end ClassSwap
