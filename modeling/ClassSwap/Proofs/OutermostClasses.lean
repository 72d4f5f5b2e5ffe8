import ClassSwap.Proofs.PathText

namespace ClassSwap.ClassName

variable {c d : ClassName}

theorem eq_of_toList (same : c.text.toList = d.text.toList) : c = d := by
  rcases c with ⟨text⟩
  rcases d with ⟨text'⟩
  exact congrArg ClassName.mk (String.toList_inj.mp same)

theorem text_cases (c : ClassName) :
    ('.' ∉ c.text.toList ∧ c.split = (none, c.text.toList)) ∨
      ∃ package simple, c.text.toList = package ++ '.' :: simple ∧ '.' ∉ simple ∧
        c.split = (some package, simple) := by
  rcases splitAtLast_cases '.' c.text.toList with ⟨free, split⟩ | ⟨package, simple, eq, last, split⟩
  · exact .inl ⟨free, by simp only [ClassName.split, split]⟩
  · exact .inr ⟨package, simple, eq, last, by simp only [ClassName.split, split]⟩

theorem split_injective (same : c.split = d.split) : c = d := by
  refine eq_of_toList ?_
  rcases c.text_cases with ⟨-, split⟩ | ⟨package, simple, own, -, split⟩ <;>
    rcases d.text_cases with ⟨-, split'⟩ | ⟨package', simple', other, -, split'⟩ <;>
    rw [split, split'] at same
  · exact congrArg Prod.snd same
  · cases same
  · cases same
  · cases same
    rw [own, other]

/-- The outermost class is in the package of the class and has of its simple name what comes before
the first `$`. -/
theorem split_topLevel (c : ClassName) :
    c.topLevel.split = (c.split.1, c.split.2.takeWhile (· ≠ '$')) := by
  have kept {simple : List Char} (free : '.' ∉ simple) : '.' ∉ simple.takeWhile (· ≠ '$') :=
    fun mem => free (List.takeWhile_subset _ mem)
  rcases c.text_cases with ⟨free, split⟩ | ⟨package, simple, -, last, split⟩
  · rw [ClassName.split, topLevel, split, String.toList_ofList, splitAtLast_eq_none (kept free)]
  · rw [ClassName.split, topLevel, split, String.toList_ofList, splitAtLast_append (kept last)]

theorem takeWhile_eq_self_iff {simple : List Char} :
    simple.takeWhile (· ≠ '$') = simple ↔ '$' ∉ simple := by
  rw [List.takeWhile_eq_self_iff]
  constructor
  · intro all mem
    simpa using all '$' mem
  · intro free x mem
    rw [decide_eq_true_eq]
    rintro rfl
    exact free mem

theorem isNested_eq_false_iff : c.isNested = false ↔ '$' ∉ c.split.2 := by
  rw [isNested, ← Bool.not_eq_true, List.contains_iff_mem]

/-- Exactly the classes that are not nested are their own outermost classes. -/
theorem topLevel_eq_self_iff : c.topLevel = c ↔ c.isNested = false := by
  rw [isNested_eq_false_iff, ← takeWhile_eq_self_iff]
  constructor
  · intro own
    have split := c.split_topLevel
    rw [own] at split
    exact (congrArg Prod.snd split).symm
  · intro whole
    refine split_injective ?_
    rw [split_topLevel, whole]

theorem topLevel_of_not_nested (flat : c.isNested = false) : c.topLevel = c :=
  topLevel_eq_self_iff.mpr flat

theorem isNested_topLevel (c : ClassName) : c.topLevel.isNested = false := by
  rw [isNested_eq_false_iff, split_topLevel]
  intro mem
  simpa using List.mem_takeWhile_imp mem

/-- The name of the outermost class goes on to that of the class, if at all, with a `$`. -/
theorem exists_text_eq_append (c : ClassName) :
    ∃ rest, c.text = c.topLevel.text ++ rest ∧ ∀ x ∈ rest.toList.head?, x = '$' := by
  refine ⟨String.ofList (c.split.2.dropWhile (· ≠ '$')), ?_, fun x mem => ?_⟩
  · rw [← String.toList_inj, String.toList_append, String.toList_ofList]
    rcases c.text_cases with ⟨-, split⟩ | ⟨package, simple, eq, -, split⟩
    · rw [topLevel, split, String.toList_ofList, List.takeWhile_append_dropWhile]
    · rw [topLevel, split, String.toList_ofList, List.append_assoc, List.cons_append,
        List.takeWhile_append_dropWhile, eq]
  · have first := List.head?_dropWhile_not (fun x => decide (x ≠ '$')) c.split.2
    rw [String.toList_ofList] at mem
    rw [Option.mem_def.mp mem] at first
    simpa using first

theorem simpleName_topLevel_ne_empty_iff :
    c.topLevel.simpleName ≠ "" ↔ c.simpleName ≠ "" ∧ c.simpleName.toList.head? ≠ some '$' := by
  simp only [simpleName, split_topLevel, ne_eq, String.ofList_eq_empty_iff, String.toList_ofList]
  cases c.split.2 with
  | nil => simp
  | cons first rest => by_cases dollar : first = '$' <;> simp [dollar]

/-- The outermost class of a class has the same package, its name is that of the class up to some
`$` or to the end, it is its own outermost class, and it is the class itself exactly if the class is
not nested. It has a simple name exactly if that of the class is not empty and does not begin with
`$`. -/
theorem topLevel_encloses (c : ClassName) :
    c.topLevel.package? = c.package? ∧
    (∃ rest, c.text = c.topLevel.text ++ rest ∧ ∀ x ∈ rest.toList.head?, x = '$') ∧
    c.topLevel.topLevel = c.topLevel ∧
    (c.topLevel = c ↔ c.isNested = false) ∧
    (c.topLevel.simpleName ≠ "" ↔
      c.simpleName ≠ "" ∧ c.simpleName.toList.head? ≠ some '$') := by
  refine ⟨?_, c.exists_text_eq_append, topLevel_of_not_nested c.isNested_topLevel,
    topLevel_eq_self_iff, simpleName_topLevel_ne_empty_iff⟩
  rw [package?, package?, split_topLevel]

/-- A class whose simple name begins with `$`, as those that are made for proxies. -/
theorem topLevel_unnamed :
    (⟨"app.$Proxy7"⟩ : ClassName).simpleName ≠ "" ∧
      (⟨"app.$Proxy7"⟩ : ClassName).topLevel = ⟨"app."⟩ ∧
      (⟨"app.$Proxy7"⟩ : ClassName).topLevel.simpleName = "" := by
  decide

end ClassSwap.ClassName
