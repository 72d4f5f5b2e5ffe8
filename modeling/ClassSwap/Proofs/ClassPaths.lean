import ClassSwap.Proofs.OutermostClasses
import ClassSwap.Proofs.TreeChanges
import Mathlib.Data.List.Basic

namespace ClassSwap.ClassName

open FileTree (Stays)
open ClassSwap.Path (names isAbsolute IsPart)

variable {c d : ClassName} {suffix : String}

/-- The path of this class starts at the root. -/
def Rooted (c : ClassName) : Prop :=
  c.text.toList.head? = some '.' ∨ c.text.toList.head? = some '/'

/-- The parts of this name are not empty and have no `/`. -/
def WellFormed (c : ClassName) : Prop :=
  ∀ part ∈ splitOnChar '.' c.text.toList, part ≠ [] ∧ '/' ∉ part

/-- The name makes up its own directories: it has no `/`, and no part before the last is empty. -/
structure Filed (c : ClassName) : Prop where
  flat : '/' ∉ c.text.toList
  named : ∀ part ∈ (splitOnChar '.' c.text.toList).dropLast, part ≠ []

instance (c : ClassName) : Decidable c.Rooted := inferInstanceAs (Decidable (_ ∨ _))

instance (c : ClassName) : Decidable c.WellFormed :=
  inferInstanceAs (Decidable (∀ part ∈ splitOnChar '.' c.text.toList, part ≠ [] ∧ '/' ∉ part))

theorem head?_takeWhile_of_ne {text : List Char} {x : Char} (other : x ≠ '$') :
    (text.takeWhile (· ≠ '$')).head? = some x ↔ text.head? = some x := by
  cases text with
  | nil => rfl
  | cons first rest =>
    by_cases dollar : first = '$'
    · simp [dollar, Ne.symm other]
    · simp [dollar]

theorem rooted_topLevel : c.topLevel.Rooted ↔ c.Rooted := by
  rcases c.text_cases with ⟨-, split⟩ | ⟨package, simple, eq, -, split⟩
  · simp only [Rooted, topLevel, split, String.toList_ofList]
    rw [head?_takeWhile_of_ne (by decide), head?_takeWhile_of_ne (by decide)]
  · simp only [Rooted, topLevel, split, String.toList_ofList, eq]
    cases package <;> simp

theorem head?_of_packageText (packaged : c.packageText ≠ "") :
    c.text.toList.head? = c.packageText.toList.head? := by
  rcases c.text_cases with ⟨-, split⟩ | ⟨package, simple, eq, -, split⟩
  · simp [packageText, package?, split] at packaged
  · simp only [packageText, package?, split, Option.map_some, Option.getD_some,
      String.toList_ofList, eq] at packaged ⊢
    cases package with
    | nil => simp at packaged
    | cons => rfl

theorem WellFormed.filed (formed : c.WellFormed) : c.Filed := by
  refine ⟨fun mem => ?_, fun part mem => (formed part (List.dropLast_subset _ mem)).1⟩
  obtain ⟨part, among, inside⟩ := exists_piece_iff.mpr ⟨mem, show '/' ≠ '.' by decide⟩
  exact (formed part among).2 inside

theorem WellFormed.filed_topLevel (formed : c.WellFormed) : c.topLevel.Filed := by
  have filed := formed.filed
  rcases c.text_cases with ⟨free, split⟩ | ⟨package, simple, eq, last, split⟩
  · have text : c.topLevel.text.toList = c.text.toList.takeWhile (· ≠ '$') := by
      simp [topLevel, split]
    have free' : '.' ∉ c.topLevel.text.toList := fun mem =>
      free ((List.takeWhile_subset _) (text ▸ mem))
    refine ⟨fun mem => filed.flat ((List.takeWhile_subset _) (text ▸ mem)), fun part mem => ?_⟩
    rw [splitOnChar_of_notMem free'] at mem
    cases mem
  · have text : c.topLevel.text.toList = package ++ '.' :: simple.takeWhile (· ≠ '$') := by
      simp [topLevel, split]
    have last' : '.' ∉ simple.takeWhile (· ≠ '$') := fun mem => last (List.takeWhile_subset _ mem)
    have flat := filed.flat
    have named := filed.named
    rw [eq] at flat named
    rw [splitOnChar_append, splitOnChar_of_notMem last, List.dropLast_concat] at named
    simp only [List.mem_append, List.mem_cons, not_or] at flat
    refine ⟨?_, ?_⟩
    · simp only [text, List.mem_append, List.mem_cons, not_or]
      exact ⟨flat.1, flat.2.1, fun mem => flat.2.2 (List.takeWhile_subset _ mem)⟩
    · rwa [text, splitOnChar_append, splitOnChar_of_notMem last', List.dropLast_concat]

theorem Filed.not_rooted (filed : c.Filed) : ¬c.Rooted := by
  intro rooted
  cases text : c.text.toList with
  | nil => simp [Rooted, text] at rooted
  | cons first rest =>
    simp only [Rooted, text, List.head?_cons, Option.some.injEq] at rooted
    rcases rooted with rfl | rfl
    · have empty : [] ∈ (splitOnChar '.' c.text.toList).dropLast := by
        rw [text, splitOnChar, if_pos rfl, List.dropLast_cons_of_ne_nil (splitOnChar_ne_nil _ _)]
        exact List.mem_cons_self
      exact filed.named [] empty rfl
    · exact filed.flat (by simp [text])

structure FileEnding (suffix : String) : Prop where
  flat : '/' ∉ suffix.toList
  some_ : suffix ≠ ""

theorem FileEnding.ne_empty (h : FileEnding suffix) (stem : String) : stem ++ suffix ≠ "" :=
  fun empty => h.some_ (String.append_eq_empty_iff.mp empty).2

/-- What the file of a class ends with. -/
structure IsSuffix (suffix : String) : Prop extends FileEnding suffix where
  long : 2 < suffix.length

theorem isSuffix_classSuffix : IsSuffix classSuffix := ⟨⟨by decide, by decide⟩, by decide⟩

theorem isSuffix_sourceSuffix : IsSuffix sourceSuffix := ⟨⟨by decide, by decide⟩, by decide⟩

theorem IsSuffix.stays (h : IsSuffix suffix) (stem : String) : Stays (stem ++ suffix) := by
  have long : 2 < (stem ++ suffix).length := by
    rw [String.length_append]
    exact Nat.lt_of_lt_of_le h.long (Nat.le_add_left _ _)
  constructor <;> intro eq <;> rw [eq] at long <;> exact absurd long (by decide)

theorem dot_notMem_internalName (c : ClassName) : '.' ∉ c.internalName.toList := by
  rw [internalName, String.toList_ofList, replaceChar, List.mem_map]
  rintro ⟨x, -, eq⟩
  split at eq
  · cases eq
  · contradiction

/-- The file of a class is named after the last part of the class; none of the directories on the
way is `.` or `..`. -/
theorem names_file (h : IsSuffix suffix) (c : ClassName) :
    (∃ front last, names (c.internalName ++ suffix) = front ++ [last ++ suffix]) ∧
      ∀ name ∈ names (c.internalName ++ suffix), Stays name := by
  obtain ⟨pieces, last, own, whole⟩ := splitOnChar_append_of_notMem h.flat c.internalName.toList
  have text : String.ofList (last ++ suffix.toList) = String.ofList last ++ suffix := by simp
  have eq : names (c.internalName ++ suffix) =
      (pieces.map String.ofList).filter (· != "") ++ [String.ofList last ++ suffix] := by
    have kept : [String.ofList last ++ suffix].filter (· != "") =
        [String.ofList last ++ suffix] := by simp [h.ne_empty]
    rw [names, String.toList_append, whole, List.map_append, List.map_singleton, text,
      List.filter_append, kept]
  refine ⟨⟨_, _, eq⟩, fun name mem => ?_⟩
  rw [eq, List.mem_append, List.mem_singleton] at mem
  rcases mem with mem | rfl
  · obtain ⟨piece, among, rfl⟩ := List.mem_map.mp (List.mem_filter.mp mem).1
    have free : '.' ∉ piece := fun inside => c.dot_notMem_internalName
      (exists_piece_iff.mp ⟨piece, own ▸ List.mem_append_left [last] among, inside⟩).1
    constructor <;> intro eq <;> rw [← String.toList_inj, String.toList_ofList] at eq <;>
      exact free (by simp [eq])
  · exact h.stays _

theorem isAbsolute_file_iff (h : FileEnding suffix) (c : ClassName) :
    isAbsolute (c.internalName ++ suffix) = true ↔ c.Rooted := by
  have text : (c.internalName ++ suffix).toList =
      replaceChar '.' '/' c.text.toList ++ suffix.toList := by simp [internalName]
  rw [isAbsolute, text, beq_iff_eq]
  cases own : c.text.toList with
  | nil =>
    have other : suffix.toList.head? ≠ some '/' := fun head => h.flat (List.mem_of_head? head)
    simp [replaceChar, Rooted, own, other]
  | cons first rest =>
    by_cases dot : first = '.'
    · simp [replaceChar, Rooted, own, dot]
    · simp [replaceChar, Rooted, own, dot]

theorem Filed.relative (filed : c.Filed) (h : FileEnding suffix) :
    isAbsolute (c.internalName ++ suffix) = false := by
  rw [← Bool.not_eq_true, isAbsolute_file_iff h]
  exact filed.not_rooted

/-- The parts of the name and those of the path. -/
theorem Filed.names_file (filed : c.Filed) (h : FileEnding suffix) :
    ∃ front last, splitOnChar '.' c.text.toList = front ++ [last] ∧
      names (c.internalName ++ suffix) =
        front.map String.ofList ++ [String.ofList last ++ suffix] := by
  obtain ⟨front, last, own, whole⟩ := splitOnChar_append_of_notMem h.flat c.internalName.toList
  have split : splitOnChar '/' c.internalName.toList = splitOnChar '.' c.text.toList := by
    rw [internalName, String.toList_ofList, splitOnChar_replaceChar filed.flat]
  rw [split] at own
  have named : ∀ part ∈ front, part ≠ [] := by
    have named := filed.named
    rwa [own, List.dropLast_concat] at named
  refine ⟨front, last, own, ?_⟩
  rw [names, String.toList_append, whole, List.map_append, List.filter_eq_self.mpr]
  · simp
  · intro part mem
    rw [bne_iff_ne]
    rcases List.mem_append.mp mem with mem | mem
    · obtain ⟨piece, among, rfl⟩ := List.mem_map.mp mem
      exact mt String.ofList_eq_empty_iff.mp (named piece among)
    · simp only [List.map_cons, List.map_nil, List.mem_singleton, String.ofList_append,
        String.ofList_toList] at mem
      exact mem ▸ h.ne_empty _

theorem Filed.eq_of_names (filed : c.Filed) (other : d.Filed) (h : FileEnding suffix)
    (same : names (c.internalName ++ suffix) = names (d.internalName ++ suffix)) : c = d := by
  obtain ⟨front, last, own, eq⟩ := filed.names_file h
  obtain ⟨front', last', own', eq'⟩ := other.names_file h
  rw [eq, eq'] at same
  obtain ⟨fronts, lasts⟩ := List.append_inj' same rfl
  have front_ : front = front' :=
    List.map_injective_iff.mpr (fun _ _ => String.ofList_inj.mp) fronts
  have last_ : last = last' := by
    simpa [← String.toList_inj] using (List.cons.inj lasts).1
  exact eq_of_toList (splitOnChar_injective (by rw [own, own', front_, last_]))

/-- Of the names on the way to a class file only that of the file has a dot. -/
theorem Filed.names_classFile (filed : c.Filed) :
    ∃ list name, names c.classFilePath = list ++ [name] ∧ (∀ n ∈ list, '.' ∉ n.toList) ∧
      '.' ∈ name.toList := by
  obtain ⟨front, last, own, eq⟩ := filed.names_file isSuffix_classSuffix.toFileEnding
  refine ⟨_, _, eq, fun n mem => ?_, by simp [classSuffix]⟩
  obtain ⟨piece, among, rfl⟩ := List.mem_map.mp mem
  rw [String.toList_ofList]
  exact notMem_of_mem_splitOnChar (own ▸ List.mem_append_left _ among)

end ClassSwap.ClassName
