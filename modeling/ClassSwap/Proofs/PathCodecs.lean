import ClassSwap.Proofs.ClassLoop
import ClassSwap.Proofs.JarContents
import ClassSwap.Proofs.SavedClasses

namespace ClassSwap

open ClassSwap.Path (names parts steps stripBase? isAbsolute)
open FileTree (GoesOn Stays)

variable {base path directory : String} {list : List String} {c d : ClassName}

theorem FileTree.GoesOn.steps_eq (below : GoesOn base path list) :
    steps path = steps base ++ list := by
  unfold Path.steps
  rw [below.same, below.parts_eq]
  split
  · rw [List.cons_append]
  · rfl

theorem FileTree.GoesOn.stripBase?_eq (below : GoesOn base path list) :
    stripBase? base path = some list := by
  have whole := below.steps_eq
  have front : (steps base).isPrefixOf (steps path) = true := by
    rw [whole, List.isPrefixOf_iff_prefix]
    exact List.prefix_append _ _
  rw [Path.stripBase?, if_pos front, whole, List.drop_left]

theorem isDown_of_stays {name : String} (stays : Stays name) (part : Path.IsPart name) :
    Path.isDown name = true := by
  have below : name ≠ "/" := fun slash => part.2 (by simp [slash])
  simp [Path.isDown, below, stays.1, stays.2]

/-- The class of a file is told by its place below the output directory alone. -/
theorem Javac.classOfPath?_eq (below : GoesOn base path list) (named : list ≠ []) :
    Javac.classOfPath? base path = some (Javac.classOfPlace list) := by
  have down : list.filter Path.isDown = list := by
    refine List.filter_eq_self.mpr fun name mem => ?_
    have among : name ∈ names path := by
      rw [below.eq]
      exact List.mem_append_right _ mem
    exact isDown_of_stays (below.stays name mem) (Path.isPart_of_mem_names among)
  rw [Javac.classOfPath?, below.stripBase?_eq, Option.map_some, down]
  cases list with
  | nil => exact absurd rfl named
  | cons name rest => rfl

namespace ClassName

theorem Filed.goesOn (filed : c.Filed) (directory : String) :
    GoesOn directory (Path.join directory c.classFilePath) (names c.classFilePath) := by
  rcases eq_or_ne directory "" with rfl | named
  · have relative := filed.relative isSuffix_classSuffix.toFileEnding
    rw [Naming.join_empty]
    exact ⟨by simp, relative, (ClassName.names_file isSuffix_classSuffix c).2⟩
  · exact Javac.goesOn_classFile filed named

theorem Filed.steps_classFile (filed : c.Filed) :
    steps c.classFilePath = names c.classFilePath := by
  have below := (filed.goesOn "").steps_eq
  rwa [Naming.join_empty] at below

theorem Filed.classOfPath?_classFile (filed : c.Filed) (directory : String) :
    Javac.classOfPath? directory (Path.join directory c.classFilePath) = some c := by
  have named : names c.classFilePath ≠ [] := by
    obtain ⟨⟨front, last, eq⟩, -⟩ := ClassName.names_file isSuffix_classSuffix c
    rw [classFilePath, eq]
    exact List.append_ne_nil_of_right_ne_nil _ (List.cons_ne_nil _ _)
  rw [Javac.classOfPath?_eq (filed.goesOn directory) named, Javac.classOfPlace_names filed]

/-- No part of the name is empty, so neither is the last one. -/
theorem WellFormed.told (formed : c.WellFormed) : c.Told := by
  obtain ⟨first, rest, own, -⟩ := Naming.head_of_wellFormed formed
  refine ⟨fun empty => ?_, formed.filed.flat, fun dot => ?_⟩
  · rw [empty] at own
    cases own
  · obtain ⟨front, eq⟩ := List.getLast?_eq_some_iff.mp dot
    have last : [] ∈ splitOnChar '.' c.text.toList := by
      rw [eq, splitOnChar_append]
      exact List.mem_append_right _ List.mem_cons_self
    exact (formed [] last).1 rfl

theorem told_iff (c : ClassName) :
    c.Told ↔ c.text ≠ "" ∧ '/' ∉ c.text.toList ∧ c.text.toList.getLast? ≠ some '.' :=
  ⟨fun told => ⟨told.nonempty, told.flat, told.closed⟩, fun h => ⟨h.1, h.2.1, h.2.2⟩⟩

theorem resolve_directories (directory : String) (c : ClassName) :
    Naming.directories.resolve directory c classSuffix = Path.join directory c.classFilePath := rfl

/-- What is read off the path of a class is this class, so no other class has this path. -/
theorem WellFormed.paths_apart (formed : c.WellFormed) (formed_ : d.WellFormed) (other : d ≠ c) :
    d.internalName ≠ c.internalName ∧ d.classFilePath ≠ c.classFilePath ∧
      ∀ directory, steps (Path.join directory d.classFilePath) ≠
        steps (Path.join directory c.classFilePath) := by
  have own := c.ofInternal_internalName_iff.mpr formed.filed.flat
  have own_ := d.ofInternal_internalName_iff.mpr formed_.filed.flat
  refine ⟨fun same => other ?_, fun same => other ?_, fun directory same => other ?_⟩
  · rw [← own_, same, own]
  · have entry := d.ofEntry?_classFilePath_iff.mpr formed_.told
    rw [same, c.ofEntry?_classFilePath_iff.mpr formed.told] at entry
    exact (Option.some.inj entry).symm
  · have found := formed_.filed.classOfPath?_classFile directory
    rw [Javac.classOfPath?, stripBase?, same, ← stripBase?, ← Javac.classOfPath?,
      formed.filed.classOfPath?_classFile directory] at found
    exact (Option.some.inj found).symm

/-- The class directory, saved classes and archives have the file of a class at the same place, and
it is the place of no other class. -/
theorem class_paths_agree (c : ClassName) :
    ( ofEntry? c.classFilePath = some c ↔
      c.text ≠ "" ∧ '/' ∉ c.text.toList ∧ c.text.toList.getLast? ≠ some '.') ∧
    (c.WellFormed → ofInternal c.internalName = c ∧ ofEntry? c.classFilePath = some c ∧
      (∀ directory,
        Naming.directories.resolve directory c classSuffix =
          Path.join directory c.classFilePath ∧
        stripBase? directory (Path.join directory c.classFilePath) =
          some (steps c.classFilePath) ∧
        Javac.classOfPath? directory (Path.join directory c.classFilePath) = some c) ∧
      ∀ d : ClassName, d.WellFormed → d ≠ c →
        d.internalName ≠ c.internalName ∧ d.classFilePath ≠ c.classFilePath ∧
        ofEntry? d.classFilePath ≠ some c ∧
        ∀ directory,
          steps (Naming.directories.resolve directory d classSuffix) ≠
            steps (Naming.directories.resolve directory c classSuffix) ∧
          Javac.classOfPath? directory (Path.join directory d.classFilePath) ≠ some c) := by
  refine ⟨c.ofEntry?_classFilePath_iff.trans c.told_iff, fun formed => ?_⟩
  have entry := c.ofEntry?_classFilePath_iff.mpr formed.told
  refine ⟨c.ofInternal_internalName_iff.mpr formed.filed.flat, entry, fun directory => ?_,
    fun d formed_ other => ?_⟩
  · have behind := (formed.filed.goesOn directory).stripBase?_eq
    rw [← formed.filed.steps_classFile] at behind
    exact ⟨resolve_directories directory c, behind, formed.filed.classOfPath?_classFile directory⟩
  · obtain ⟨internal, file, place⟩ := formed.paths_apart formed_ other
    refine ⟨internal, file, fun read => ?_, fun directory => ⟨place directory, fun read => ?_⟩⟩
    · rw [d.ofEntry?_classFilePath_iff.mpr formed_.told] at read
      exact other (Option.some.inj read)
    · rw [formed_.filed.classOfPath?_classFile directory] at read
      exact other (Option.some.inj read)

theorem class_paths_agree_suffix_parts :
    let c : ClassName := ⟨"a.class.class"⟩
    let d : ClassName := ⟨"a.class"⟩
    c.WellFormed ∧ d.WellFormed ∧ d ≠ c ∧ ofEntry? c.classFilePath = some c ∧
      Javac.classOfPath? "out/" (Path.join "out/" c.classFilePath) = some c ∧
      steps (Naming.directories.resolve "out/" d classSuffix) ≠
        steps (Naming.directories.resolve "out/" c classSuffix) := by
  intro c d
  have formed : c.WellFormed := by decide
  have formed_ : d.WellFormed := by decide
  have other : d ≠ c := by decide
  obtain ⟨-, entry, places, others⟩ := (class_paths_agree c).2 formed
  exact ⟨formed, formed_, other, entry, (places "out/").2.2,
    ((others d formed_ other).2.2.2 "out/").1⟩

/-- A path has no empty parts, so a name that has some comes back without them. -/
example : Javac.classOfPath? "out" (Path.join "out" (ClassName.mk "a..b").classFilePath) =
    some ⟨"a.b"⟩ := by
  decide

end ClassName

end ClassSwap
