import ClassSwap.Proofs.CompilerWork
import ClassSwap.Proofs.CompileReports
import ClassSwap.Proofs.DirectoryWalk
import Mathlib.Data.List.Forall2

namespace ClassSwap.Javac

variable {tree tree_ : FileTree} {output output_ : Place} {list : Place} {content : Bytes}

theorem placeLe_total (a b : Place) : (placeLe a b || placeLe b a) = true := by
  induction a generalizing b with
  | nil => rfl
  | cons x a ih =>
    cases b with
    | nil => rfl
    | cons y b =>
      simp only [placeLe]
      by_cases same : x = y
      · simpa [same] using ih b
      · have total := String.le_total x y
        simpa [same, Ne.symm same] using total

theorem placeLe_trans (a b c : Place) (ab : placeLe a b = true) (bc : placeLe b c = true) :
    placeLe a c = true := by
  induction a generalizing b c with
  | nil => rfl
  | cons x a ih =>
    cases b with
    | nil => cases ab
    | cons y b =>
      cases c with
      | nil => cases bc
      | cons z c =>
        simp only [placeLe] at ab bc ⊢
        by_cases first : x = y
        · subst first
          rw [if_pos rfl] at ab
          by_cases second : x = z
          · rw [if_pos second] at bc ⊢
            exact ih b c ab bc
          · rwa [if_neg second] at bc ⊢
        · rw [if_neg first, decide_eq_true_eq] at ab
          by_cases second : y = z
          · subst second
            rwa [if_neg first, decide_eq_true_eq]
          · rw [if_neg second, decide_eq_true_eq] at bc
            have apart : x ≠ z := fun same => first (String.le_antisymm ab (same ▸ bc))
            rw [if_neg apart, decide_eq_true_eq]
            exact String.le_trans ab bc

theorem placeLe_antisymm {a b : Place} (ab : placeLe a b = true) (ba : placeLe b a = true) :
    a = b := by
  induction a generalizing b with
  | nil =>
    cases b with
    | nil => rfl
    | cons => cases ba
  | cons x a ih =>
    cases b with
    | nil => cases ab
    | cons y b =>
      simp only [placeLe] at ab ba
      by_cases same : x = y
      · rw [if_pos same] at ab
        rw [if_pos same.symm] at ba
        rw [same, ih ab ba]
      · rw [if_neg same, decide_eq_true_eq] at ab
        rw [if_neg (Ne.symm same), decide_eq_true_eq] at ba
        exact absurd (String.le_antisymm ab ba) same

section Sorting

variable {α : Type} (key : α → Place)

theorem pairwise_sorted (all : List α) : (all.mergeSort fun a b => placeLe (key a) (key b)).Pairwise
    fun a b => placeLe (key a) (key b) = true :=
  List.pairwise_mergeSort (fun a b c => placeLe_trans (key a) (key b) (key c))
    (fun a b => placeLe_total (key a) (key b)) all

/-- The same things at places of their own come in the same order. -/
theorem sorted_congr {all others : List α} (apart : (all.map key).Nodup)
    (apart_ : (others.map key).Nodup) (same : ∀ x, x ∈ all ↔ x ∈ others) :
    (all.mergeSort fun a b => placeLe (key a) (key b)) =
      others.mergeSort fun a b => placeLe (key a) (key b) := by
  have perm := (List.perm_ext_iff_of_nodup (apart.of_map _) (apart_.of_map _)).mpr same
  refine List.Perm.eq_of_pairwise (fun a b memA memB ab ba => ?_) (pairwise_sorted key all)
    (pairwise_sorted key others)
    ((List.mergeSort_perm all _).trans (perm.trans (List.mergeSort_perm others _).symm))
  have memA := List.mem_mergeSort.mp memA
  have memB := (same b).mpr (List.mem_mergeSort.mp memB)
  exact List.inj_on_of_nodup_map apart memA memB (placeLe_antisymm ab ba)

end Sorting

/-- The class files below the output directory with their bytes, in the order of their paths. -/
def classFilesBelow (tree : FileTree) (output : Place) : List (Place × Bytes) :=
  ((tree.filesBelow output).filter fun f => isClassFile f.1).mergeSort fun a b => placeLe a.1 b.1

theorem collect_eq (tree : FileTree) (output : Place) :
    collect tree output = (classFilesBelow tree output).map fun f => ⟨classOfPlace f.1, f.2⟩ := rfl

theorem mem_classFilesBelow (proper : tree.Proper) :
    (list, content) ∈ classFilesBelow tree output ↔ isClassFile list = true ∧
      ∃ executable, tree.find? (output ++ list) = some (.file content executable) := by
  have named (kind : isClassFile list = true) : list ≠ [] := by
    rintro rfl
    cases kind
  rw [classFilesBelow, List.mem_mergeSort, List.mem_filter, FileTree.mem_filesBelow_iff proper]
  constructor
  · rintro ⟨⟨-, there⟩, kind⟩
    exact ⟨kind, there⟩
  · rintro ⟨kind, there⟩
    exact ⟨⟨named kind, there⟩, kind⟩

def classPlaces (tree : FileTree) (output : Place) : List Place :=
  (classFilesBelow tree output).map (·.1)

theorem mem_classPlaces (proper : tree.Proper) :
    list ∈ classPlaces tree output ↔ IsClass tree output list := by
  rw [classPlaces, List.mem_map]
  constructor
  · rintro ⟨⟨place, content⟩, mem, rfl⟩
    obtain ⟨kind, executable, there⟩ := (mem_classFilesBelow proper).mp mem
    exact ⟨kind, content, executable, there⟩
  · rintro ⟨kind, content, executable, there⟩
    exact ⟨(list, content), (mem_classFilesBelow proper).mpr ⟨kind, executable, there⟩, rfl⟩

theorem nodup_classFiles (proper : tree.Proper) (output : Place) :
    (((tree.filesBelow output).filter fun f => isClassFile f.1).map (·.1)).Nodup :=
  (FileTree.nodup_filesBelow proper output).sublist (List.filter_sublist.map _)

theorem nodup_classPlaces (proper : tree.Proper) (output : Place) :
    (classPlaces tree output).Nodup :=
  ((List.mergeSort_perm _ _).map _).nodup_iff.mpr (nodup_classFiles proper output)

theorem pairwise_classPlaces (tree : FileTree) (output : Place) :
    (classPlaces tree output).Pairwise fun a b => placeLe a b = true :=
  List.pairwise_map.mpr (pairwise_sorted Prod.fst _)

/-- A class file is behind some name in the output directory. -/
theorem IsClass.front (file : IsClass tree output list) (proper : tree.Proper) :
    ∃ name rest, list = name :: rest ∧ tree.find? (output ++ [name]) ≠ none := by
  obtain ⟨kind, content, executable, there⟩ := file
  cases list with
  | nil => cases kind
  | cons name rest =>
    have whole : tree.find? (output ++ [name] ++ rest) ≠ none := by simp [there]
    exact ⟨name, rest, rfl, proper.there_front whole⟩

theorem Walk.sorted {order : Place → List String} {found : List Place}
    (walk : Walk tree output order [] (order output) found) (proper : tree.Proper)
    (there : tree.find? output = some .directory) (lists : tree.Lists order) :
    found.mergeSort placeLe = classPlaces tree output := by
  obtain ⟨once, listed⟩ := lists output there
  have found_ : (found.map id).Nodup := by
    rw [List.map_id]
    exact walk.nodup proper lists once
  have places : ((classPlaces tree output).map id).Nodup := by
    rw [List.map_id]
    exact nodup_classPlaces proper output
  refine (sorted_congr id found_ places fun q => ?_).trans
    (List.mergeSort_of_pairwise (pairwise_classPlaces tree output))
  rw [walk.mem_iff proper lists, mem_classPlaces proper, and_iff_left_iff_imp]
  intro file
  obtain ⟨name, rest, rfl, known⟩ := file.front proper
  exact ⟨name, (listed name).mpr known, rest, rfl⟩

/-- Two directories have the same files below them. Whether these are programs does not matter. -/
def SameFiles (tree : FileTree) (output : Place) (tree_ : FileTree) (output_ : Place) : Prop :=
  ∀ list content,
    (∃ executable, tree.find? (output ++ list) = some (.file content executable)) ↔
      ∃ executable, tree_.find? (output_ ++ list) = some (.file content executable)

theorem sameFiles_of_filesBelow (proper : tree.Proper) (proper_ : tree_.Proper)
    (there : tree.find? output = some .directory) (there_ : tree_.find? output_ = some .directory)
    (same : ∀ f, f ∈ tree.filesBelow output ↔ f ∈ tree_.filesBelow output_) :
    SameFiles tree output tree_ output_ := by
  intro list content
  rcases eq_or_ne list [] with rfl | named
  · simp [there, there_]
  · have files := same (list, content)
    rwa [FileTree.mem_filesBelow_iff proper, FileTree.mem_filesBelow_iff proper_,
      and_iff_right named, and_iff_right named] at files

theorem collect_congr (proper : tree.Proper) (proper_ : tree_.Proper)
    (same : SameFiles tree output tree_ output_) : collect tree output = collect tree_ output_ := by
  have files : classFilesBelow tree output = classFilesBelow tree_ output_ := by
    refine sorted_congr Prod.fst (nodup_classFiles proper output) (nodup_classFiles proper_ output_)
      fun ⟨list, content⟩ => ?_
    rw [List.mem_filter, List.mem_filter, FileTree.mem_filesBelow_iff proper,
      FileTree.mem_filesBelow_iff proper_, same]
  rw [collect_eq, collect_eq, files]

/-- A compilation with all that it depends on. -/
structure Job (σ : Type) where
  pace : Pace
  host : Host
  settings : Javac
  provider : Provider σ
  units : List SourceUnit
  state : σ
  files : FileTree

namespace Job

variable {σ : Type} {j : Job σ} {made : List ClassFile}

def performance (j : Job σ) : Performance σ :=
  compiler j.host j.settings j.provider j.units j.state j.files

def outcome (j : Job σ) : CompileOutcome :=
  (Pipeline.compileAt j.pace (compiler j.host j.settings) j.provider j.units j.state
    j.files).outcome

/-- With a scratch directory made, or not. -/
def begun (j : Job σ) : Except CompileError Scratch × Bench σ :=
  (makeScratch j.host j.settings).run.run { state := j.state, files := j.files }

/-- With the sources and the class directory written, as far as they can be. -/
def prepared (j : Job σ) (scratch : Scratch) : Except CompileError (List String) × Bench σ :=
  (prepare j.host j.provider j.units scratch).run.run j.begun.2

def ran (j : Job σ) (scratch : Scratch) (sources : List String) :
    Except CompileError Unit × Bench σ :=
  (runCompiler j.host j.settings scratch sources).run.run (j.prepared scratch).2

def left (j : Job σ) (scratch : Scratch) (sources : List String) : FileTree :=
  (j.ran scratch sources).2.files

/-- The program has ended well, and leaves this tree behind with its output at this place. -/
def Leaves (j : Job σ) (tree : FileTree) (output : Place) : Prop :=
  ∃ scratch sources, j.begun.1 = .ok scratch ∧ (j.prepared scratch).1 = .ok sources ∧
    (j.ran scratch sources).1 = .ok () ∧ j.left scratch sources = tree ∧
    tree.openDirectory j.host.directory scratch.output = .ok output

theorem eq_of_fst {α β : Type} {x : α × β} {a : α} (first : x.1 = a) : x = (a, x.2) := by
  rw [← first]

theorem run_collectOutput {host : Host} {scratch : Scratch} {b : Bench σ}
    (opened : b.files.openDirectory host.directory scratch.output = .ok output) :
    (collectOutput host scratch).run.run b = (.ok (collect b.files output), b) := by
  rw [collectOutput, run_get_bind]
  simp only [opened]
  rfl

theorem Leaves.directory (h : j.Leaves tree output) : tree.find? output = some .directory := by
  obtain ⟨_, _, -, -, -, -, opened⟩ := h
  exact FileTree.openDirectory_eq_ok opened

theorem Leaves.ending (h : j.Leaves tree output) :
    j.performance.ending = .returned (.ok (collect tree output)) := by
  obtain ⟨scratch, sources, begun, prepared, ran, rfl, opened⟩ := h
  have made : (makeScratch j.host j.settings).run.run { state := j.state, files := j.files } =
      (.ok scratch, j.begun.2) := eq_of_fst begun
  have ready : (prepare j.host j.provider j.units scratch).run.run j.begun.2 =
      (.ok sources, (j.prepared scratch).2) := eq_of_fst prepared
  have done : (runCompiler j.host j.settings scratch sources).run.run (j.prepared scratch).2 =
      (.ok (), (j.ran scratch sources).2) := eq_of_fst ran
  have worked : (work j.host j.settings j.provider j.units scratch).run.run j.begun.2 =
      (.ok (collect (j.left scratch sources) output), (j.ran scratch sources).2) := by
    rw [work, run_bind ready, run_bind done]
    exact run_collectOutput opened
  unfold performance compiler
  rw [made]
  dsimp only
  rw [worked]

/-- A compiler that returns class files has run its program to a good end. -/
theorem leaves_of_ending (ended : j.performance.ending = .returned (.ok made)) :
    ∃ tree output, j.Leaves tree output := by
  unfold performance compiler at ended
  split at ended
  next => cases ended
  next scratch ready begun =>
    split at ended
    next result left worked =>
      obtain rfl : result = .ok made := by simpa using ended
      rw [work] at worked
      obtain ⟨sources, written, prepared, worked⟩ := bind_eq_ok worked
      obtain ⟨⟨⟩, ran_, ran, collected⟩ := bind_eq_ok worked
      have begun_ : j.begun = (.ok scratch, ready) := begun
      have prepared_ : j.prepared scratch = (.ok sources, written) := by
        rw [Job.prepared, begun_, prepared]
      have last : j.ran scratch sources = (.ok (), ran_) := by rw [Job.ran, prepared_, ran]
      rw [collectOutput, run_get_bind] at collected
      split at collected
      next => cases collected
      next output opened =>
        refine ⟨ran_.files, output, scratch, sources, ?_, ?_, ?_, ?_, opened⟩
        · rw [begun_]
        · rw [prepared_]
        · rw [last]
        · rw [Job.left, last]

theorem outcome_eq (some_ : j.units ≠ []) : ∃ log,
    j.outcome = ⟨Pipeline.judge j.performance.ending, log⟩ :=
  ⟨_, Pipeline.outcome_compileAt j.pace (compiler j.host j.settings) j.provider j.state j.files
    (p := j.performance) some_ rfl⟩

theorem units_of_success (success : j.outcome.isSuccess = true) : j.units ≠ [] := by
  intro none
  rw [outcome, Pipeline.compileAt, none] at success
  cases success

/-- A compilation succeeds exactly if the program leaves class files behind. -/
theorem success_iff : j.outcome.isSuccess = true ↔
    j.units ≠ [] ∧ ∃ tree output, j.Leaves tree output ∧ collect tree output ≠ [] := by
  constructor
  · intro success
    have some_ := units_of_success success
    obtain ⟨log, outcome⟩ := outcome_eq some_
    rw [outcome] at success
    obtain ⟨made, files, ended⟩ := Pipeline.isSuccess_judge.mp success
    obtain ⟨tree, output, leaves⟩ := leaves_of_ending ended
    refine ⟨some_, tree, output, leaves, ?_⟩
    have same := ended.symm.trans leaves.ending
    simp only [CompilerEnd.returned.injEq, Except.ok.injEq] at same
    exact same ▸ files
  · rintro ⟨some_, tree, output, leaves, files⟩
    obtain ⟨log, outcome⟩ := outcome_eq some_
    rw [outcome]
    exact Pipeline.isSuccess_judge.mpr ⟨_, files, leaves.ending⟩

theorem Leaves.classFiles (leaves : j.Leaves tree output) (success : j.outcome.isSuccess = true) :
    j.outcome.classFiles = Pipeline.sortFiles (collect tree output) := by
  obtain ⟨log, outcome⟩ := outcome_eq (units_of_success success)
  rw [outcome] at success ⊢
  obtain ⟨made, some_, ended⟩ := Pipeline.isSuccess_judge.mp success
  have same := ended.symm.trans leaves.ending
  simp only [CompilerEnd.returned.injEq, Except.ok.injEq] at same
  rw [ended, Pipeline.classFiles_judge log some_, same]

end Job

/-- The class files below the output directory are collected, each once and in the order of their
paths, however the system lists directories. Compilations that leave the same files behind come to
the same classes, in the order of their names. -/
theorem classes_collected :
    (∀ (tree : FileTree) (output : Place), tree.Proper → tree.find? output = some .directory →
      ∃ sorted : List Place,
        sorted.Pairwise (fun a b => placeLe a b = true ∧ a ≠ b) ∧
        (∀ list, list ∈ sorted ↔ ∃ front stem content executable, stem ≠ "" ∧
          list = front ++ [stem ++ ClassName.classSuffix] ∧
          tree.find? (output ++ list) = some (.file content executable)) ∧
        List.Forall₂ (fun list file => file.className = classOfPlace list ∧
          ∃ executable, tree.find? (output ++ list) = some (.file file.bytes executable))
          sorted (collect tree output) ∧
        ∀ order, tree.Lists order →
          (∃ found, Walk tree output order [] (order output) found) ∧
          ∀ found, Walk tree output order [] (order output) found →
            found.mergeSort placeLe = sorted) ∧
    ∀ {σ τ : Type} (j : Job σ) (k : Job τ), j.outcome.isSuccess = true →
      k.outcome.isSuccess = true →
      (∃ tree output, j.Leaves tree output) ∧ ∀ tree output, j.Leaves tree output →
        tree.find? output = some .directory ∧
        SortedCopy (collect tree output) j.outcome.classFiles ∧
        ∀ tree_ output_, k.Leaves tree_ output_ → tree.Proper → tree_.Proper →
          SameFiles tree output tree_ output_ → j.outcome.classFiles = k.outcome.classFiles := by
  refine ⟨fun tree output proper there => ⟨classPlaces tree output, ?_, fun list => ?_, ?_,
    fun order lists => ⟨exists_whole_walk there lists, fun found walk =>
      walk.sorted proper there lists⟩⟩, fun j k success success_ => ?_⟩
  · exact (pairwise_classPlaces tree output).and (nodup_classPlaces proper output)
  · rw [mem_classPlaces proper, IsClass, isClassFile_iff]
    constructor
    · rintro ⟨⟨front, stem, some_, own⟩, content, executable, file⟩
      exact ⟨front, stem, content, executable, some_, own, file⟩
    · rintro ⟨front, stem, content, executable, some_, own, file⟩
      exact ⟨⟨front, stem, some_, own⟩, content, executable, file⟩
  · rw [classPlaces, collect_eq, List.forall₂_map_left_iff, List.forall₂_map_right_iff,
      List.forall₂_same]
    exact fun f mem => ⟨rfl, ((mem_classFilesBelow proper).mp mem).2⟩
  · obtain ⟨-, tree, output, leaves, -⟩ := Job.success_iff.mp success
    refine ⟨⟨tree, output, leaves⟩, fun tree output leaves => ?_⟩
    rw [leaves.classFiles success]
    refine ⟨leaves.directory, Pipeline.sortedCopy_sortFiles _,
      fun tree_ output_ leaves_ proper proper_ same => ?_⟩
    rw [leaves_.classFiles success_, collect_congr proper proper_ same]

namespace Scattered

def entries : List (Place × Entry) :=
  [(["x.class"], .directory), (["x.class", "B.class"], .file [2] false),
    ([".class"], .file [3] false), (["A.class"], .file [1] false)]

def outPlace : Place := ["tmp", "hotline-javac-000000", "out"]

/-- A machine whose compiler makes these in one order or in the other. -/
def host (turned : Bool) : Host where
  directory := []
  run _ files _ :=
    let made := entries.map fun e => (outPlace ++ e.1, e.2)
    ⟨⟨files.entries ++ if turned then made.reverse else made⟩, [], [], true, ⟨0⟩⟩

def job (turned : Bool) : Job Unit where
  pace _ := 0
  host := host turned
  settings := { program := "/javac" }
  provider := Pipeline.noClasses
  units := [⟨⟨"p.A"⟩, "", none⟩]
  state := ()
  files := ⟨[(["tmp"], .directory), (["javac"], .file [] true)]⟩

def scratch : Scratch := ⟨"/tmp/hotline-javac-000000"⟩

def sources : List String := ["/tmp/hotline-javac-000000/src/p/A.java"]

def leavings (turned : Bool) : FileTree := (job turned).left scratch sources

theorem runs : ∀ turned,
    (job turned).begun.1 = .ok scratch ∧ ((job turned).prepared scratch).1 = .ok sources ∧
    ((job turned).ran scratch sources).1 = .ok () ∧
    (leavings turned).openDirectory (job turned).host.directory scratch.output = .ok outPlace ∧
    (leavings turned).find? outPlace = some .directory ∧
    (leavings turned).find? (outPlace ++ ["A.class"]) = some (.file [1] false) ∧
    (leavings turned).Proper ∧
    ((leavings turned).filesBelow outPlace).isPerm
      ((leavings true).filesBelow outPlace) = true := by
  decide +kernel

theorem leaves (turned : Bool) : (job turned).Leaves (leavings turned) outPlace := by
  obtain ⟨begun, prepared, ran, opened, -⟩ := runs turned
  exact ⟨scratch, sources, begun, prepared, ran, rfl, opened⟩

theorem success (turned : Bool) : (job turned).outcome.isSuccess = true := by
  obtain ⟨-, -, -, -, -, file, proper, -⟩ := runs turned
  refine Job.success_iff.mpr ⟨List.cons_ne_nil _ _, _, _, leaves turned, fun none => ?_⟩
  have mem := (mem_classFilesBelow proper).mpr ⟨by decide, false, file⟩
  rw [collect_eq, List.map_eq_nil_iff] at none
  rw [none] at mem
  cases mem

end Scattered

open Scattered

theorem classes_collected_scattered :
    let order := fun place => ((leavings true).namesIn place).reverse
    (leavings true).Proper ∧ (leavings true).Lists order ∧
      (∃ found, Walk (leavings true) outPlace order [] (order outPlace) found) ∧
      (job false).outcome.isSuccess = true ∧ (job true).outcome.isSuccess = true ∧
      SameFiles (leavings false) outPlace (leavings true) outPlace ∧
      (job false).outcome.classFiles = (job true).outcome.classFiles := by
  intro order
  obtain ⟨-, -, -, -, there, -, proper, perm⟩ := runs false
  obtain ⟨-, -, -, -, there_, -, proper_, -⟩ := runs true
  have lists : (leavings true).Lists order := by
    intro place directory
    obtain ⟨once, listed⟩ := FileTree.lists_namesIn proper_ place directory
    exact ⟨List.nodup_reverse.mpr once, fun name => List.mem_reverse.trans (listed name)⟩
  have same : SameFiles (leavings false) outPlace (leavings true) outPlace :=
    sameFiles_of_filesBelow proper proper_ there there_ fun f =>
      (List.isPerm_iff.mp perm).mem_iff
  obtain ⟨sorted, -, -, -, walks⟩ := classes_collected.1 (leavings true) outPlace proper_ there_
  have equal := classes_collected.2 (job false) (job true) (success false) (success true)
  obtain ⟨-, -, sameClasses⟩ := equal.2 (leavings false) outPlace (leaves false)
  exact ⟨proper_, lists, (walks order lists).1, success false, success true, same,
    sameClasses (leavings true) outPlace (leaves true) proper proper_ same⟩

end ClassSwap.Javac
