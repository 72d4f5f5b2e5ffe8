import ClassSwap.Proofs.ClassPaths
import ClassSwap.Proofs.CompilerWork
import ClassSwap.Proofs.ReferenceReadings

namespace ClassSwap

namespace Source

variable {x rest : List Char} {names : List (List Char)} {found : Import} {text name : String}

def StartsName (text : String) : Prop := ∃ c, text.toList.head? = some c ∧ isNameStart c = true

theorem startsName_dotted (taken : takeDotted? x = some (names, rest)) :
    StartsName (dotted names) := by
  obtain ⟨first, more, tail, identifier, rfl, -⟩ := takeDotted?_eq_some taken
  cases x with
  | nil => cases identifier
  | cons c x =>
    simp only [takeIdentifier?] at identifier
    split at identifier
    next start =>
      obtain ⟨rfl, -⟩ := by simpa using identifier
      exact ⟨c, by simp [toList_dotted, spell], start⟩
    next => cases identifier

theorem startsName_importTail? {isStatic : Bool}
    (taken : importTail? isStatic x = some (found, rest)) : StartsName found.name := by
  obtain ⟨⟨names, rest'⟩, name, taken⟩ := Option.bind_eq_some_iff.mp taken
  dsimp only at taken
  split at taken
  next =>
    cases taken
    exact startsName_dotted name
  next => cases taken

theorem startsName_importAt? (taken : importAt? x = some (found, rest)) :
    StartsName found.name := by
  obtain ⟨rest₁, -, taken⟩ := Option.bind_eq_some_iff.mp taken
  obtain ⟨rest₂, -, taken⟩ := Option.bind_eq_some_iff.mp taken
  dsimp only at taken
  split at taken
  next tail statically =>
    cases taken
    obtain ⟨rest₃, -, taken⟩ := Option.bind_eq_some_iff.mp statically
    exact startsName_importTail? taken
  next => exact startsName_importTail? taken

theorem startsName_importsFrom {atStart : Bool} {tries : Nat}
    (mem : found ∈ importsFrom atStart tries x) : StartsName found.name := by
  induction tries generalizing atStart x with
  | zero =>
    simp only [importsFrom] at mem
    split at mem
    next =>
      obtain ⟨⟨_, rest⟩, taken, rfl⟩ := Option.map_eq_some_iff.mp (Option.mem_toList.mp mem)
      exact startsName_importAt? taken
    next => cases mem
  | succ tries ih =>
    simp only [importsFrom] at mem
    split at mem
    next first rest taken =>
      rcases List.mem_cons.mp mem with rfl | mem
      · split at taken
        next => exact startsName_importAt? taken
        next => cases taken
      · exact ih mem
    next =>
      split at mem
      next => cases mem
      next => exact ih mem

theorem startsName_qualifiedFrom {tries : Nat} (mem : name ∈ qualifiedFrom tries x) :
    StartsName name := by
  induction tries generalizing x with
  | zero => cases mem
  | succ tries ih =>
    cases x with
    | nil => cases mem
    | cons c x =>
      simp only [qualifiedFrom] at mem
      split at mem
      next taken =>
        rcases List.mem_cons.mp mem with rfl | mem
        · exact startsName_dotted taken
        · exact ih mem
      next => exact ih mem

end Source

namespace Dependencies

open Source

variable {units : List SourceUnit} {u : SourceUnit} {loaded candidates : List ClassName}
  {c : ClassName} {reference : String}

theorem startsName_references (mem : reference ∈ references u.text) : StartsName reference := by
  rcases List.mem_append.mp mem with mem | mem
  · obtain ⟨found, among, rfl⟩ := List.mem_map.mp mem
    exact startsName_importsFrom (List.mem_filter.mp among).1
  · exact startsName_qualifiedFrom mem

theorem Shortened.head? {n : Nat} {name kept : List Char} {x : Char} (h : Shortened n name kept)
    (head : name.head? = some x) (other : x ≠ '.') : kept.head? = some x := by
  obtain ⟨rest, rfl, -, dot⟩ := h
  cases kept with
  | nil => exact absurd (dot x head) other
  | cons => exact head

theorem Respelled.head? {n : Nat} {name s : List Char} {x : Char} (h : Respelled n name s)
    (head : name.head? = some x) (other : x ≠ '.') : s.head? = some x := by
  obtain ⟨front, back, rfl, -, rfl⟩ := h
  cases front with
  | cons => exact head
  | nil =>
    cases back with
    | nil => cases head
    | cons first rest =>
      obtain rfl : first = x := Option.some.inj head
      simp [replaceChar, other]

theorem ne_of_isNameStart {x : Char} (start : isNameStart x = true) : x ≠ '.' ∧ x ≠ '/' := by
  constructor <;> rintro rfl <;> exact absurd start (by decide)

theorem not_rooted_of_startsName (starts : StartsName c.text) : ¬c.Rooted := by
  obtain ⟨x, head, start⟩ := starts
  simp [ClassName.Rooted, head, ne_of_isNameStart start]

theorem resolve?_not_rooted (starts : StartsName reference)
    (resolved : resolve? candidates reference = some c) : ¬c.Rooted := by
  obtain ⟨r, rfl, -⟩ := resolve?_eq_some_iff.mp resolved
  obtain ⟨x, head, start⟩ := starts
  have other := (ne_of_isNameStart start).1
  refine not_rooted_of_startsName ⟨x, ?_, start⟩
  rw [Reading.className, String.toList_ofList]
  exact r.respelled.head? (r.shortened.head? head other) other

/-- No class that is brought in has a rooted name, unless it has no package and neither has a
unit. -/
theorem select_not_rooted (plain : ∀ u ∈ units, ¬u.className.Rooted)
    (foreign : ∀ u ∈ units, u.className.packageText = "" →
      ∀ d ∈ loaded, d.packageText = "" → ¬d.Rooted)
    (selected : c ∈ select units loaded) : ¬c.Rooted := by
  obtain ⟨-, d, picked, family⟩ := mem_select.mp selected
  rw [← ClassName.rooted_topLevel, ← family, ClassName.rooted_topLevel]
  cases picked with
  | named u mem reference written resolved =>
    exact resolve?_not_rooted (startsName_references written) resolved
  | seen u mem package candidate =>
    rcases List.mem_cons.mp package with own | imported
    · by_cases unnamed : d.packageText = ""
      · exact foreign u mem (own ▸ unnamed) d (mem_eligible.mp candidate).loaded unnamed
      · rw [ClassName.Rooted, ClassName.head?_of_packageText unnamed, own,
          ← ClassName.head?_of_packageText (own ▸ unnamed)]
        exact plain u mem
    · obtain ⟨found, among, name⟩ := List.mem_map.mp imported
      obtain ⟨x, head, start⟩ := startsName_importsFrom (List.mem_filter.mp among).1
      rw [name] at head
      have some_ : d.packageText ≠ "" := by
        intro empty
        rw [empty] at head
        cases head
      refine not_rooted_of_startsName ⟨x, ?_, start⟩
      rw [ClassName.head?_of_packageText some_, head]

theorem isPlatform_of_rooted (rooted : c.Rooted) : c.isPlatform = false := by
  have unrooted : ∀ p ∈ ClassName.platformPackages, p.toList ≠ [] ∧
      p.toList.head? ≠ some '.' ∧ p.toList.head? ≠ some '/' := by decide
  rw [ClassName.isPlatform, List.any_eq_false]
  intro p platform
  rw [List.isPrefixOf_iff_prefix]
  rintro ⟨rest, text⟩
  obtain ⟨some_, noDot, noSlash⟩ := unrooted p platform
  rw [ClassName.Rooted, ← text, List.head?_append_of_ne_nil _ some_] at rooted
  exact rooted.elim noDot noSlash

theorem mem_select_of_rooted (plain : ∀ u ∈ units, ¬u.className.Rooted) (mem : u ∈ units)
    (bare : u.className.packageText = "") (listed : c ∈ loaded) (unnamed : c.packageText = "")
    (rooted : c.Rooted) : c ∈ select units loaded := by
  have may : Eligible units loaded c := by
    refine ⟨listed, isPlatform_of_rooted rooted, fun v among same => plain v among ?_⟩
    rw [← ClassName.rooted_topLevel, same, ClassName.rooted_topLevel]
    exact rooted
  refine mem_select.mpr ⟨may, c, .seen u mem ?_ (mem_eligible.mpr may), rfl⟩
  rw [unnamed, ← bare]
  exact List.mem_cons_self

end Dependencies

namespace Javac

open FileTree (Grows placeOfText StrictlyBelow GoesOn)
open ClassSwap.Path (names isAbsolute)

variable {σ : Type} {host : Host} {scratch : Scratch} {start : FileTree} {path : String}
  {rest : List String} {c : ClassName}

theorem goesOn_sources (named : scratch.root ≠ "") : GoesOn scratch.root scratch.sources ["src"] :=
  (GoesOn.refl scratch.root).join named rfl (by decide)

theorem goesOn_classes (named : scratch.root ≠ "") :
    GoesOn scratch.root scratch.classes ["classpath"] :=
  (GoesOn.refl scratch.root).join named rfl (by decide)

theorem goesOn_output (named : scratch.root ≠ "") : GoesOn scratch.root scratch.output ["out"] :=
  (GoesOn.refl scratch.root).join named rfl (by decide)

/-- All that was made and written since is strictly below the scratch directory. -/
def Confined (host : Host) (scratch : Scratch) (start : FileTree) (b : Bench σ) : Prop :=
  Grows (StrictlyBelow (placeOfText host.directory scratch.root))
    (StrictlyBelow (placeOfText host.directory scratch.root)) start b.files

theorem confined_makeDirectory (there : start.isDirectory host.directory scratch.root = true)
    (below : GoesOn scratch.root path rest) :
    Stable (Confined host scratch start) (makeDirectory host path : Work σ Unit) := by
  intro b confined
  rw [makeDirectory, run_change]
  exact confined.trans ((FileTree.makeDirectories_grows _ _ _ _).strictlyBelow below
    (confined.keeps.isDirectory there) nofun)

theorem confined_writeFile (there : start.isDirectory host.directory scratch.root = true)
    (below : GoesOn scratch.root path rest) (some_ : rest ≠ []) (content : Bytes) :
    Stable (Confined host scratch start) (writeFile host path content : Work σ Unit) := by
  intro b confined
  rw [writeFile, run_change]
  refine confined.trans ((FileTree.writeWithParents_grows _ _ _ _).strictlyBelow below
    (confined.keeps.isDirectory there) fun q own => ⟨rest, some_, ?_⟩)
  rw [own, below.placeOf]

/-- The file of a class with a plain name goes on from the directory it is put into. -/
theorem goesOn_file {suffix : String} (suffixed : ClassName.IsSuffix suffix) (plain : ¬c.Rooted)
    (below : GoesOn scratch.root path rest) (named : path ≠ "") :
    GoesOn scratch.root (Path.join path (c.internalName ++ suffix))
      (rest ++ names (c.internalName ++ suffix)) := by
  refine below.join named ?_ (ClassName.names_file suffixed c).2
  rw [← Bool.not_eq_true, ClassName.isAbsolute_file_iff suffixed.toFileEnding]
  exact plain

theorem confined_writeSources (there : start.isDirectory host.directory scratch.root = true)
    (named : scratch.root ≠ "") (units : List SourceUnit)
    (plain : ∀ u ∈ units, ¬u.className.Rooted) :
    Stable (Confined host scratch start) (writeSources host scratch units : Work σ _) := by
  induction units with
  | nil => exact stable_pure []
  | cons u rest ih =>
    have outer : ¬u.className.topLevel.Rooted := by
      rw [ClassName.rooted_topLevel]
      exact plain u List.mem_cons_self
    have file := goesOn_file ClassName.isSuffix_sourceSuffix outer (goesOn_sources named)
      (Path.join_ne_empty named)
    refine (confined_writeFile there file (by simp) _).bind fun _ => ?_
    exact (ih fun v mem => plain v (List.mem_cons_of_mem u mem)).bind fun _ => stable_pure _

theorem confined_fillClasses (there : start.isDirectory host.directory scratch.root = true)
    (named : scratch.root ≠ "") (provider : Provider σ) (wanted : List ClassName)
    (plain : ∀ c ∈ wanted, ¬c.Rooted) :
    Stable (Confined host scratch start)
      (fillClasses host provider scratch.classes wanted) := by
  induction wanted with
  | nil => exact stable_pure ()
  | cons c rest ih =>
    have later := ih fun d mem => plain d (List.mem_cons_of_mem c mem)
    have resolved : Stable (Confined host scratch start) (resolve provider c) :=
      fun _ confined => confined
    refine resolved.bind fun result => ?_
    have file := goesOn_file ClassName.isSuffix_classSuffix (plain c List.mem_cons_self)
      (goesOn_classes named) (Path.join_ne_empty named)
    split
    next => exact (confined_writeFile there file (by simp) _).bind fun _ => later
    next => exact Stable.bind (w := utter _) (fun _ confined => confined) fun _ => later
    next => exact (stable_throw _).bind fun _ => later

theorem confined_layOut (there : start.isDirectory host.directory scratch.root = true)
    (named : scratch.root ≠ "") (units : List SourceUnit)
    (plain : ∀ u ∈ units, ¬u.className.Rooted) :
    Stable (Confined host scratch start) (layOut host units scratch : Work σ _) :=
  (confined_makeDirectory there (goesOn_sources named)).bind fun _ =>
    (confined_makeDirectory there (goesOn_classes named)).bind fun _ =>
      (confined_makeDirectory there (goesOn_output named)).bind fun _ =>
        confined_writeSources there named units plain

theorem confined_materialize (there : start.isDirectory host.directory scratch.root = true)
    (named : scratch.root ≠ "") (provider : Provider σ) (wanted : List ClassName)
    (plain : ∀ c ∈ wanted, ¬c.Rooted) :
    Stable (Confined host scratch start) (materialize host provider scratch.classes wanted) :=
  Stable.bind (w := report _ _) (fun _ confined => confined) fun _ =>
    confined_fillClasses there named provider wanted plain

/-- Names that may be worked with: no unit has a rooted name, and beside a unit without a package no
class without one that is listed has. -/
structure Tame (units : List SourceUnit) (listed : List ClassName) : Prop where
  own : ∀ u ∈ units, ¬u.className.Rooted
  foreign : ∀ u ∈ units, u.className.packageText = "" →
    ∀ c ∈ listed, c.packageText = "" → ¬c.Rooted

/-- Beside units with plain names just these are the lists that bring in no rooted name. -/
theorem tame_iff {units : List SourceUnit} {listed : List ClassName}
    (plain : ∀ u ∈ units, ¬u.className.Rooted) :
    Tame units listed ↔ ∀ c ∈ Dependencies.select units listed, ¬c.Rooted :=
  ⟨fun tame _ selected => Dependencies.select_not_rooted plain tame.foreign selected,
    fun unrooted => ⟨plain, fun _ mem bare c among unnamed rooted => unrooted c
      (Dependencies.mem_select_of_rooted plain mem bare among unnamed rooted) rooted⟩⟩

theorem confined_prepare (there : start.isDirectory host.directory scratch.root = true)
    (named : scratch.root ≠ "") (provider : Provider σ) (units : List SourceUnit) (b : Bench σ)
    (tame : Tame units (provider.names b.state)) (confined : Confined host scratch start b) :
    Confined host scratch start ((prepare host provider units scratch).run.run b).2 := by
  have laid : Stable (fun b' => Confined host scratch start b' ∧ b'.state = b.state)
      (layOut host units scratch) :=
    (confined_layOut there named units tame.own).and
      (stable_layOut_state b.state host units scratch)
  refine laid.bind_then (fun _ held => held.1) (fun sources b' held => ?_) b ⟨confined, rfl⟩
  have plain := (tame_iff tame.own).mp tame
  rw [← held.2] at plain
  exact ((confined_materialize there named provider _ plain).bind fun _ => stable_pure sources) b'
    held.1

/-- A scratch directory is made where nothing was, and all that is made and written before the
compiler runs is strictly below it, whatever bytes the target serves: with units that have a package
whatever it lists, and with other units if it lists no class without a package and with a rooted
name. -/
theorem scratch_confined (host : Host) (settings : Javac) (provider : Provider σ)
    (units : List SourceUnit) (b made : Bench σ) (scratch : Scratch)
    (fresh : (makeScratch host settings).run.run b = (.ok scratch, made))
    (tame : Tame units (provider.names b.state)) :
    b.files.find? (placeOfText host.directory scratch.root) = none ∧
      made.files = b.files.put (placeOfText host.directory scratch.root) .directory ∧
      Grows (StrictlyBelow (placeOfText host.directory scratch.root))
        (StrictlyBelow (placeOfText host.directory scratch.root)) made.files
        ((prepare host provider units scratch).run.run made).2.files := by
  obtain ⟨one, same⟩ := makeScratch_eq_ok fresh
  obtain ⟨⟨at_, located⟩, free, eq⟩ := FileTree.makeDirectory_eq_ok one
  have there := FileTree.makeDirectory_isDirectory one
  have named := (FileTree.sound_of_locate located).some_
  have state : made.state = b.state := (congrArg Bench.state same).trans rfl
  rw [← state] at tame
  exact ⟨free, eq, confined_prepare there named provider units made tame .start⟩

/-- A target that lists a class whose name starts with a slash. -/
def workbench : Bench FixedClasses :=
  { state := ⟨[(⟨"/tmp/escape"⟩, [1])], 0⟩, files := ⟨[(["tmp"], .directory)]⟩ }

def corner : Scratch := ⟨"/tmp/hotline-javac-000000"⟩

def cleared : Bench FixedClasses := ((makeScratch bareHost {}).run.run workbench).2

theorem corner_made : (makeScratch bareHost {}).run.run workbench = (.ok corner, cleared) :=
  Prod.ext (by decide +kernel) rfl

/-- With a unit in a package nothing of such a class is written. -/
def packagedUnit : SourceUnit := ⟨⟨"app.Main"⟩, "package app; class Main \x7b\x7d", none⟩

theorem scratch_confined_packaged :
    Tame [packagedUnit] [⟨"/tmp/escape"⟩] ∧
      Grows (StrictlyBelow (placeOfText [] "/tmp/hotline-javac-000000"))
        (StrictlyBelow (placeOfText [] "/tmp/hotline-javac-000000")) cleared.files
        ((prepare bareHost FixedClasses.provider [packagedUnit] corner).run.run
          cleared).2.files := by
  have tame : Tame [packagedUnit] [⟨"/tmp/escape"⟩] :=
    ⟨by decide +kernel, by decide +kernel⟩
  have names : FixedClasses.provider.names workbench.state = [⟨"/tmp/escape"⟩] := by
    simp [FixedClasses.provider, workbench, ClassName.sort, Table.keys]
  exact ⟨tame, (scratch_confined bareHost {} FixedClasses.provider [packagedUnit] workbench cleared
    corner corner_made (names ▸ tame)).2.2⟩

def bareUnit : SourceUnit := ⟨⟨"Main"⟩, "class Main \x7b\x7d", none⟩

theorem select_bareUnit :
    Dependencies.select [bareUnit] [⟨"/tmp/escape"⟩] = [⟨"/tmp/escape"⟩] := by
  have once : Dependencies.select [bareUnit] [⟨"/tmp/escape"⟩] =
      ClassName.sortedSet [⟨"/tmp/escape"⟩] := by
    refine ClassName.sortedSet_congr fun c => ClassName.mem_sortedSet.symm.trans ⟨fun mem => ?_, ?_⟩
    · exact (Dependencies.mem_select.mp mem).1.loaded
    · intro mem
      rw [List.mem_singleton.mp mem]
      exact Dependencies.mem_select.mpr ⟨Dependencies.mem_eligible.mp (by decide +kernel), _,
        .seen bareUnit List.mem_cons_self (by decide +kernel) (by decide +kernel), rfl⟩
  rw [once]
  simp [ClassName.sortedSet, ClassName.sort, ClassName.dropRepeated]

def laidOut : Bench FixedClasses := ((layOut bareHost [bareUnit] corner).run.run cleared).2

theorem laidOut_done : (layOut bareHost [bareUnit] corner).run.run cleared =
    (.ok ["/tmp/hotline-javac-000000/src/Main.java"], laidOut) := by
  have done : ((layOut bareHost [bareUnit] corner).run.run cleared).1 =
      .ok ["/tmp/hotline-javac-000000/src/Main.java"] := by decide +kernel
  rw [laidOut, ← done, Prod.eta]

theorem file_escapes_scratch :
    (makeScratch bareHost {}).run.run workbench = (.ok corner, cleared) ∧
      ¬StrictlyBelow (placeOfText [] corner.root) ["tmp", "escape.class"] ∧
      cleared.files.find? ["tmp", "escape.class"] = none ∧
      ((prepare bareHost FixedClasses.provider [bareUnit] corner).run.run cleared).2.files.find?
        ["tmp", "escape.class"] = some (.file [1] false) := by
  refine ⟨corner_made, ?_, by decide +kernel, ?_⟩
  · rintro ⟨rest, -, eq⟩
    have place : placeOfText [] corner.root = ["tmp", "hotline-javac-000000"] := by decide +kernel
    rw [place] at eq
    exact absurd (List.cons.inj (List.cons.inj eq).2).1 (by decide)
  · have names : FixedClasses.provider.names laidOut.state = [⟨"/tmp/escape"⟩] := by
      obtain ⟨-, made⟩ := makeScratch_eq_ok corner_made
      have state : cleared.state = workbench.state := (congrArg Bench.state made).trans rfl
      rw [laidOut, stable_layOut_state workbench.state bareHost [bareUnit] corner cleared state]
      simp [FixedClasses.provider, workbench, ClassName.sort, Table.keys]
    rw [prepare, run_bind laidOut_done, run_get_bind, names, select_bareUnit]
    decide +kernel

end Javac

end ClassSwap
