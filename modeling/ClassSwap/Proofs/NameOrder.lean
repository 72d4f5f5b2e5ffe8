import ClassSwap.ClassName
import Mathlib.Data.List.Basic

namespace ClassSwap.ClassName

variable {a b c : ClassName} {names others : List ClassName}

theorem le_iff : le a b = true ↔ a.text ≤ b.text := decide_eq_true_iff

theorem le_refl (a : ClassName) : le a a = true := le_iff.mpr (String.le_refl _)

theorem le_trans (a b c : ClassName) (ab : le a b = true) (bc : le b c = true) : le a c = true :=
  le_iff.mpr (String.le_trans (le_iff.mp ab) (le_iff.mp bc))

theorem le_total (a b : ClassName) : (le a b || le b a) = true := by
  rw [Bool.or_eq_true, le_iff, le_iff]
  exact String.le_total a.text b.text

theorem lt_of_le_of_ne (order : le a b = true) (other : a ≠ b) : a.text < b.text := by
  refine String.not_le.mp fun back => other ?_
  have same : a.text = b.text := String.le_antisymm (le_iff.mp order) back
  exact congrArg ClassName.mk same

theorem pairwise_sort (names : List ClassName) :
    (sort names).Pairwise fun a b => le a b = true :=
  List.pairwise_mergeSort le_trans le_total names

theorem mem_dropRepeated : c ∈ dropRepeated names ↔ c ∈ names := by
  fun_induction dropRepeated names with
  | case1 | case2 => rfl
  | case3 a rest ih => simp [ih]
  | case4 a b rest other ih => simp [ih]

theorem pairwise_dropRepeated (sorted : names.Pairwise fun a b => le a b = true) :
    (dropRepeated names).Pairwise fun a b => a.text < b.text := by
  fun_induction dropRepeated names with
  | case1 => exact .nil
  | case2 a => exact List.pairwise_singleton _ a
  | case3 a rest ih => exact ih sorted.of_cons
  | case4 a b rest other ih =>
    obtain ⟨first, later⟩ := List.pairwise_cons.mp sorted
    refine .cons ?_ (ih later)
    intro c mem
    have before : a.text < b.text := lt_of_le_of_ne (first b List.mem_cons_self) other
    rcases List.mem_cons.mp (mem_dropRepeated.mp mem) with rfl | mem
    · exact before
    · have after : b.text ≤ c.text := le_iff.mp ((List.pairwise_cons.mp later).1 c mem)
      exact String.not_le.mp fun back => String.not_le.mpr before (String.le_trans after back)

theorem mem_sortedSet : c ∈ sortedSet names ↔ c ∈ names :=
  mem_dropRepeated.trans List.mem_mergeSort

theorem pairwise_sortedSet (names : List ClassName) :
    (sortedSet names).Pairwise fun a b => a.text < b.text :=
  pairwise_dropRepeated (pairwise_sort names)

/-- The same names, in whatever order and however often, make up the same sorted set. -/
theorem sortedSet_congr (same : ∀ c, c ∈ names ↔ c ∈ others) :
    sortedSet names = sortedSet others := by
  have once (names : List ClassName) : (sortedSet names).Nodup := by
    refine (pairwise_sortedSet names).imp ?_
    rintro a _ order rfl
    exact String.lt_irrefl _ order
  have antisymm (a b : ClassName) (_ : a ∈ sortedSet names) (_ : b ∈ sortedSet others)
      (ab : a.text < b.text) (ba : b.text < a.text) : a = b := absurd ab (String.lt_asymm ba)
  refine List.Perm.eq_of_pairwise antisymm (pairwise_sortedSet names) (pairwise_sortedSet others) ?_
  refine (List.perm_ext_iff_of_nodup (once names) (once others)).mpr fun c => ?_
  rw [mem_sortedSet, mem_sortedSet, same]

end ClassSwap.ClassName
