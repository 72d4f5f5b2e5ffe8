import ClassSwap.Proofs.ClassPaths
import ClassSwap.Proofs.CompilerWork

namespace ClassSwap.Javac

open ClassName (Filed IsSuffix isSuffix_sourceSuffix isSuffix_classSuffix)
open FileTree (Grows GoesOn placeOfText)
open ClassSwap.Path (names isAbsolute)

variable {σ : Type} {host : Host} {scratch : Scratch} {provider : Provider σ} {b b' : Bench σ}
  {units : List SourceUnit} {u v : SourceUnit} {sources : List String} {path text : String}
  {start before after : FileTree} {here : Place} {dirs files : Place → Prop}

theorem sources_ne_empty (scratch : Scratch) : scratch.sources ≠ "" := by
  intro empty
  have part : "src" ∈ names scratch.sources := by
    rw [Scratch.sources, Path.names_join (by decide)]
    exact List.mem_append_right _ (by decide)
  rw [empty] at part
  cases part

theorem goesOn_sourcePath (scratch : Scratch) (formed : u.className.WellFormed) :
    GoesOn scratch.sources (sourcePath scratch u)
      (names (u.className.topLevel.internalName ++ ClassName.sourceSuffix)) := by
  have below := (GoesOn.refl scratch.sources).join (sources_ne_empty scratch)
    (formed.filed_topLevel.relative isSuffix_sourceSuffix.toFileEnding)
    (ClassName.names_file isSuffix_sourceSuffix _).2
  rwa [List.nil_append] at below

theorem placeOf_sourcePath_iff (here : Place) (formed : u.className.WellFormed)
    (formed' : v.className.WellFormed) :
    placeOfText here (sourcePath scratch u) = placeOfText here (sourcePath scratch v) ↔
      u.className.topLevel = v.className.topLevel := by
  refine ⟨fun same => ?_, fun same => by rw [sourcePath, sourcePath, same]⟩
  rw [(goesOn_sourcePath scratch formed).placeOf,
    (goesOn_sourcePath scratch formed').placeOf] at same
  exact formed.filed_topLevel.eq_of_names formed'.filed_topLevel isSuffix_sourceSuffix.toFileEnding
    (List.append_cancel_left same)

theorem sourcePath_iff (formed : u.className.WellFormed) (formed' : v.className.WellFormed) :
    sourcePath scratch u = sourcePath scratch v ↔
      u.className.topLevel = v.className.topLevel :=
  ⟨fun same => (placeOf_sourcePath_iff [] formed formed').mp (congrArg (placeOfText []) same),
    fun same => by rw [sourcePath, sourcePath, same]⟩

/-- Whatever a class is called and wherever its file goes, it is no source file. -/
theorem placeOf_classFile (here : Place) (base : String) (c : ClassName) :
    ∃ front stem, placeOfText here (Path.join base c.classFilePath) =
      front ++ [stem ++ ClassName.classSuffix] := by
  obtain ⟨⟨front, stem, eq⟩, stays⟩ := ClassName.names_file isSuffix_classSuffix c
  obtain ⟨whole, ends⟩ : ∃ whole, names (Path.join base c.classFilePath) =
      whole ++ [stem ++ ClassName.classSuffix] := by
    cases absolute : isAbsolute c.classFilePath with
    | true => exact ⟨front, by rw [Path.join_of_isAbsolute absolute]; exact eq⟩
    | false =>
      refine ⟨names base ++ front, ?_⟩
      rw [Path.names_join absolute, List.append_assoc]
      exact congrArg (names base ++ ·) eq
  have stay : ∀ name ∈ [stem ++ ClassName.classSuffix], FileTree.Stays name := fun name mem =>
    stays name (eq ▸ List.mem_append_right front mem)
  rw [FileTree.placeOfText_eq, ends, List.foldl_append, FileTree.foldl_enter_of_stays stay]
  exact ⟨_, stem, rfl⟩

theorem placeOf_sourcePath_ne (formed : u.className.WellFormed) (here : Place) (base : String)
    (c : ClassName) :
    placeOfText here (sourcePath scratch u) ≠
      placeOfText here (Path.join base c.classFilePath) := by
  intro same
  obtain ⟨⟨front, stem, eq⟩, -⟩ :=
    ClassName.names_file isSuffix_sourceSuffix u.className.topLevel
  obtain ⟨front', stem', eq'⟩ := placeOf_classFile here base c
  rw [(goesOn_sourcePath scratch formed).placeOf, eq, eq', ← List.append_assoc] at same
  have last : stem ++ ClassName.sourceSuffix = stem' ++ ClassName.classSuffix :=
    (List.append_inj' same rfl).2 |> List.cons.inj |>.1
  have ends := congrArg (fun text : String => text.toList.getLast?) last
  simp [ClassName.sourceSuffix, ClassName.classSuffix] at ends

/-- The file at a path has this text. -/
structure Holds (here : Place) (tree : FileTree) (path text : String) : Prop where
  located : tree.locate here path = .ok ⟨placeOfText here path, false⟩
  found : ∃ executable,
    tree.find? (placeOfText here path) = some (.file (Utf8.ofString text) executable)

theorem Holds.read (h : Holds here before path text) :
    before.read here path = .ok (Utf8.ofString text) := by
  obtain ⟨executable, found⟩ := h.found
  exact FileTree.read_eq_ok h.located found

theorem Holds.grows (h : Holds here before path text) (grown : Grows dirs files before after)
    (other : ¬files (placeOfText here path)) : Holds here after path text := by
  obtain ⟨executable, found⟩ := h.found
  exact ⟨grown.keeps.locate h.located, executable, (grown.file_iff other).mpr found⟩

theorem writeSources_eq_ok (h : (writeSources host scratch units).run.run b = (.ok sources, b')) :
    sources = units.map (sourcePath scratch) ∧
      Grows (fun _ => True)
        (fun q => ∃ u ∈ units, q = placeOfText host.directory (sourcePath scratch u))
        b.files b'.files ∧
      ∀ front u back, units = front ++ u :: back →
        (∀ v ∈ back, placeOfText host.directory (sourcePath scratch u) ≠
          placeOfText host.directory (sourcePath scratch v)) →
        Holds host.directory b'.files (sourcePath scratch u) u.text := by
  induction units generalizing b sources with
  | nil =>
    cases h
    exact ⟨rfl, .start, fun front u back eq => by simp at eq⟩
  | cons u rest ih =>
    obtain ⟨_, middle, written, h⟩ := bind_eq_ok h
    obtain ⟨paths, last, later, h⟩ := bind_eq_ok h
    obtain ⟨rfl, rfl⟩ := pure_eq_ok h
    obtain ⟨paths_, grown, holds⟩ := ih later
    obtain ⟨done, -⟩ := change_eq_ok written
    have first := FileTree.writeWithParents_grows b.files host.directory (sourcePath scratch u)
      (Utf8.ofString u.text)
    rw [done] at first
    obtain ⟨located, found⟩ := FileTree.writeWithParents_ok done
    refine ⟨by rw [paths_, List.map_cons], ?_, ?_⟩
    · refine Grows.trans (first.weaken (fun _ _ _ => trivial) fun q own _ => ?_)
        (grown.weaken (fun _ all _ => all) fun q among _ => ?_)
      · exact ⟨u, List.mem_cons_self, own⟩
      · obtain ⟨v, mem, eq⟩ := among
        exact ⟨v, List.mem_cons_of_mem u mem, eq⟩
    · intro front v back eq apart
      cases front with
      | nil =>
        obtain ⟨rfl, rfl⟩ := List.cons.inj eq
        exact Holds.grows ⟨located, found⟩ grown fun ⟨w, mem, same⟩ => apart w mem same
      | cons _ front =>
        obtain ⟨rfl, tail⟩ := List.cons.inj eq
        exact holds front v back tail apart

def ClassPlace (here : Place) (directory : String) (q : Place) : Prop :=
  ∃ c : ClassName, q = placeOfText here (Path.join directory c.classFilePath)

/-- Since the start only class files were written. -/
def OnlyClasses (host : Host) (directory : String) (start : FileTree) (b : Bench σ) : Prop :=
  Grows (fun _ => True) (ClassPlace host.directory directory) start b.files

theorem onlyClasses_writeFile {directory : String}
    (own : ClassPlace host.directory directory (placeOfText host.directory path)) (bytes : Bytes) :
    Stable (OnlyClasses host directory start) (writeFile host path bytes : Work σ Unit) := by
  intro b grown
  rw [writeFile, run_change]
  exact grown.trans ((FileTree.writeWithParents_grows _ _ _ _).weaken (fun _ _ _ => trivial)
    fun q same _ => same ▸ own)

theorem onlyClasses_materialize (directory : String) (wanted : List ClassName) :
    Stable (OnlyClasses host directory start) (materialize host provider directory wanted) := by
  refine Stable.bind (w := report _ _) (fun _ grown => grown) fun _ => ?_
  induction wanted with
  | nil => exact stable_pure ()
  | cons c rest ih =>
    refine Stable.bind (w := resolve provider c) (fun _ grown => grown) fun result => ?_
    split
    next bytes => exact (onlyClasses_writeFile ⟨c, rfl⟩ bytes).bind fun _ => ih
    next => exact Stable.bind (w := utter _) (fun _ grown => grown) fun _ => ih
    next => exact (stable_throw _).bind fun _ => ih

theorem layOut_eq_ok (h : (layOut host units scratch).run.run b = (.ok sources, b')) :
    ∃ middle, (writeSources host scratch units).run.run middle = (.ok sources, b') := by
  obtain ⟨_, _, _, h⟩ := bind_eq_ok h
  obtain ⟨_, _, _, h⟩ := bind_eq_ok h
  obtain ⟨_, middle, _, h⟩ := bind_eq_ok h
  exact ⟨middle, h⟩

/-- When the compiler starts, the path that it is given for a unit leads to the text of the last
unit of the same outermost class. So the paths are all different exactly if the outermost classes
are, and then each unit has its own text at its path. -/
theorem sources_in_place (host : Host) (provider : Provider σ) (units : List SourceUnit)
    (scratch : Scratch) (b b' : Bench σ) (sources : List String)
    (formed : ∀ u ∈ units, u.className.WellFormed)
    (ready : (prepare host provider units scratch).run.run b = (.ok sources, b')) :
    sources = units.map (sourcePath scratch) ∧
      (∀ front u back, units = front ++ u :: back →
        (∀ v ∈ back, u.className.topLevel ≠ v.className.topLevel) →
        b'.files.read host.directory (sourcePath scratch u) = .ok (Utf8.ofString u.text)) ∧
      (sources.Nodup ↔ (units.map (·.className.topLevel)).Nodup) ∧
      (sources.Nodup → ∀ u ∈ units,
        b'.files.read host.directory (sourcePath scratch u) = .ok (Utf8.ofString u.text)) := by
  obtain ⟨paths, laid, out, h⟩ := bind_eq_ok ready
  rw [run_get_bind] at h
  obtain ⟨_, filled, materialized, h⟩ := bind_eq_ok h
  obtain ⟨rfl, rfl⟩ := pure_eq_ok h
  obtain ⟨middle, written⟩ := layOut_eq_ok out
  obtain ⟨paths_, -, holds⟩ := writeSources_eq_ok written
  have grown : OnlyClasses host scratch.classes laid.files b' := by
    have only : Stable (OnlyClasses host scratch.classes laid.files)
        (materialize host provider scratch.classes _) :=
      onlyClasses_materialize scratch.classes
        (Dependencies.select units (provider.names laid.state))
    have grown := only laid .start
    rwa [materialized] at grown
  have last (front : List SourceUnit) (u : SourceUnit) (back : List SourceUnit)
      (eq : units = front ++ u :: back)
      (apart : ∀ v ∈ back, u.className.topLevel ≠ v.className.topLevel) :
      b'.files.read host.directory (sourcePath scratch u) = .ok (Utf8.ofString u.text) := by
    have own := formed u (by simp [eq])
    have held := holds front u back eq fun v mem same =>
      apart v mem ((placeOf_sourcePath_iff _ own (formed v (by simp [eq, mem]))).mp same)
    refine (held.grows grown ?_).read
    rintro ⟨c, same⟩
    exact placeOf_sourcePath_ne own host.directory scratch.classes c same
  have nodup : sources.Nodup ↔ (units.map (·.className.topLevel)).Nodup := by
    rw [paths_, List.Nodup, List.Nodup, List.pairwise_map, List.pairwise_map]
    exact List.Pairwise.iff_of_mem fun {u v} mem mem' =>
      not_congr (sourcePath_iff (formed u mem) (formed v mem'))
  refine ⟨paths_, last, nodup, fun different u mem => ?_⟩
  obtain ⟨front, back, eq⟩ := List.append_of_mem mem
  have apart := nodup.mp different
  rw [eq, List.map_append, List.map_cons] at apart
  have own := (List.nodup_cons.mp (List.nodup_append.mp apart).2.1).1
  exact last front u back eq fun v mem same => own (List.mem_map.mpr ⟨v, mem, same.symm⟩)

/-- A target that has nothing, and a directory for temporary files. -/
def emptyBench : Bench FixedClasses := { state := ⟨[], 0⟩, files := ⟨[(["tmp"], .directory)]⟩ }

def twoClasses : List SourceUnit := [⟨⟨"p.A"⟩, "a", none⟩, ⟨⟨"p.B$C"⟩, "b", none⟩]

def twoClassesReady : Bench FixedClasses :=
  ((prepare bareHost FixedClasses.provider twoClasses ⟨"/tmp"⟩).run.run emptyBench).2

theorem sources_in_place_two :
    ["/tmp/src/p/A.java", "/tmp/src/p/B.java"].Nodup ∧
      twoClassesReady.files.read [] "/tmp/src/p/B.java" = .ok (Utf8.ofString "b") := by
  have done : ((prepare bareHost FixedClasses.provider twoClasses ⟨"/tmp"⟩).run.run emptyBench).1 =
      .ok ["/tmp/src/p/A.java", "/tmp/src/p/B.java"] := by decide +kernel
  have ready : (prepare bareHost FixedClasses.provider twoClasses ⟨"/tmp"⟩).run.run emptyBench =
      (.ok ["/tmp/src/p/A.java", "/tmp/src/p/B.java"], twoClassesReady) := by
    rw [twoClassesReady, ← done, Prod.eta]
  have formed : ∀ u ∈ twoClasses, u.className.WellFormed := by decide +kernel
  obtain ⟨-, -, -, own⟩ := sources_in_place bareHost FixedClasses.provider twoClasses ⟨"/tmp"⟩
    emptyBench twoClassesReady _ formed ready
  have different : ["/tmp/src/p/A.java", "/tmp/src/p/B.java"].Nodup := by decide
  refine ⟨different, ?_⟩
  have read := own different ⟨⟨"p.B$C"⟩, "b", none⟩ (by decide)
  have path : sourcePath ⟨"/tmp"⟩ ⟨⟨"p.B$C"⟩, "b", none⟩ = "/tmp/src/p/B.java" := by
    decide +kernel
  rw [path] at read
  exact read

def nestedPair : List SourceUnit := [⟨⟨"p.A"⟩, "a", none⟩, ⟨⟨"p.A$B"⟩, "b", none⟩]

theorem source_overwritten :
    (∀ u ∈ nestedPair, u.className.WellFormed) ∧
      ((prepare bareHost FixedClasses.provider nestedPair ⟨"/tmp"⟩).run.run emptyBench).1 =
        .ok ["/tmp/src/p/A.java", "/tmp/src/p/A.java"] ∧
      ((prepare bareHost FixedClasses.provider nestedPair ⟨"/tmp"⟩).run.run emptyBench).2.files.read
        [] "/tmp/src/p/A.java" = .ok (Utf8.ofString "b") := by
  decide +kernel

end ClassSwap.Javac
