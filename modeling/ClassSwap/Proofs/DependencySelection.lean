import ClassSwap.Compile.Dependencies
import ClassSwap.Proofs.NameOrder
import ClassSwap.Proofs.OutermostClasses

namespace ClassSwap

/-- What a unit is compiled from: where it was read from does not matter. -/
def SourceUnit.content (u : SourceUnit) : ClassName × String := (u.className, u.text)

namespace Dependencies

variable {units others : List SourceUnit} {loaded candidates known : List ClassName}
  {c d : ClassName}

/-- A loaded class that the compiler does not have on its own and that is not of a family which is
compiled anyway. -/
structure Eligible (units : List SourceUnit) (loaded : List ClassName) (c : ClassName) : Prop where
  loaded : c ∈ loaded
  foreign : c.isPlatform = false
  apart : ∀ u ∈ units, u.className.topLevel ≠ c.topLevel

theorem mem_eligible : c ∈ eligible units loaded ↔ Eligible units loaded c := by
  simp only [eligible, List.mem_filter, Bool.and_eq_true, Bool.not_eq_true', List.contains_eq_mem,
    decide_eq_false_iff_not, List.mem_map, not_exists, not_and]
  exact ⟨fun ⟨mem, foreign, apart⟩ => ⟨mem, foreign, apart⟩,
    fun ⟨mem, foreign, apart⟩ => ⟨mem, foreign, apart⟩⟩

/-- A class that a unit names, or whose package it sees whole. -/
inductive Direct (units : List SourceUnit) (candidates : List ClassName) (c : ClassName) : Prop
  | named (u : SourceUnit) (mem : u ∈ units) (reference : String)
      (written : reference ∈ references u.text) (resolved : resolve? candidates reference = some c)
  | seen (u : SourceUnit) (mem : u ∈ units) (package : c.packageText ∈ packages u)
      (candidate : c ∈ candidates)

theorem mem_direct : c ∈ direct units candidates ↔ Direct units candidates c := by
  simp only [direct, List.mem_append, List.mem_filterMap, List.mem_flatMap, List.mem_filter,
    List.contains_eq_mem, decide_eq_true_eq]
  constructor
  · rintro (⟨reference, ⟨u, mem, written⟩, resolved⟩ | ⟨candidate, u, mem, package⟩)
    · exact .named u mem reference written resolved
    · exact .seen u mem package candidate
  · rintro (⟨u, mem, reference, written, resolved⟩ | ⟨u, mem, package, candidate⟩)
    · exact .inl ⟨reference, ⟨u, mem, written⟩, resolved⟩
    · exact .inr ⟨candidate, u, mem, package⟩

theorem find?_name (a : ClassName) :
    candidates.find? (· == a) = if a ∈ candidates then some a else none := by
  induction candidates with
  | nil => rfl
  | cons b rest ih =>
    by_cases here : b = a
    · simp [here]
    · simp [here, Ne.symm here, ih]

theorem resolve?_mem {reference : String} (resolved : resolve? candidates reference = some c) :
    c ∈ candidates := by
  obtain ⟨name, _, found⟩ := List.exists_of_findSome?_eq_some resolved
  exact List.mem_of_find?_eq_some found

theorem resolve?_congr (same : ∀ c, c ∈ candidates ↔ c ∈ known) (reference : String) :
    resolve? candidates reference = resolve? known reference := by
  simp only [resolve?, find?_name, same]

theorem Direct.candidate (h : Direct units candidates c) : c ∈ candidates := by
  cases h with
  | named _ _ _ _ resolved => exact resolve?_mem resolved
  | seen _ _ _ candidate => exact candidate

/-- A class is selected exactly if it may be and is of the family of one that is named or seen. -/
theorem mem_select :
    c ∈ select units loaded ↔
      Eligible units loaded c ∧
        ∃ d, Direct units (eligible units loaded) d ∧ d.topLevel = c.topLevel := by
  simp only [select, ClassName.mem_sortedSet, List.mem_append, List.mem_filter, Bool.and_eq_true,
    Bool.or_eq_true, List.contains_eq_mem, decide_eq_true_eq, List.mem_map, mem_direct]
  constructor
  · rintro (picked | ⟨candidate, family, _⟩)
    · exact ⟨mem_eligible.mp picked.candidate, c, picked, rfl⟩
    · exact ⟨mem_eligible.mp candidate, family⟩
  · rintro ⟨may, family⟩
    have candidate := mem_eligible.mpr may
    refine .inr ⟨candidate, family, ?_⟩
    cases flat : c.isNested with
    | true => exact .inl rfl
    | false =>
      rw [ClassName.topLevel_of_not_nested flat]
      exact .inr candidate

/-- All that `units` say, `others` say as well. -/
def Covered (units others : List SourceUnit) : Prop :=
  ∀ u ∈ units, ∃ v ∈ others, v.className = u.className ∧ v.text = u.text

theorem covered_of_content
    (same : ∀ content, content ∈ units.map SourceUnit.content →
      content ∈ others.map SourceUnit.content) : Covered units others := by
  intro u mem
  obtain ⟨v, mem', eq⟩ := List.mem_map.mp (same _ (List.mem_map_of_mem mem))
  exact ⟨v, mem', congrArg Prod.fst eq, congrArg Prod.snd eq⟩

theorem Eligible.of_covered (h : Eligible units loaded c) (covered : Covered others units)
    {more : List ClassName} (kept : c ∈ more) : Eligible others more c := by
  refine ⟨kept, h.foreign, fun u mem => ?_⟩
  obtain ⟨v, mem', name, _⟩ := covered u mem
  exact name ▸ h.apart v mem'

theorem Direct.of_covered (h : Direct units candidates c) (covered : Covered units others)
    (same : ∀ c, c ∈ candidates ↔ c ∈ known) : Direct others known c := by
  cases h with
  | named u mem reference written resolved =>
    obtain ⟨v, mem', _, text⟩ := covered u mem
    exact .named v mem' reference (text ▸ written) (resolve?_congr same reference ▸ resolved)
  | seen u mem package candidate =>
    obtain ⟨v, mem', name, text⟩ := covered u mem
    refine .seen v mem' ?_ ((same c).mp candidate)
    rw [packages, name, text]
    exact package

theorem select_congr (forth : Covered units others) (back : Covered others units)
    (same : ∀ c, c ∈ loaded ↔ c ∈ known) : select units loaded = select others known := by
  have eligible_iff (c : ClassName) : Eligible units loaded c ↔ Eligible others known c :=
    ⟨fun h => h.of_covered back ((same c).mp h.loaded),
      fun h => h.of_covered forth ((same c).mpr h.loaded)⟩
  have candidates (c : ClassName) : c ∈ eligible units loaded ↔ c ∈ eligible others known := by
    rw [mem_eligible, mem_eligible, eligible_iff]
  have direct_iff (c : ClassName) : Direct units (eligible units loaded) c ↔
      Direct others (eligible others known) c :=
    ⟨fun h => h.of_covered forth candidates,
      fun h => h.of_covered back fun c => (candidates c).symm⟩
  have members (c : ClassName) : c ∈ select units loaded ↔ c ∈ select others known := by
    rw [mem_select, mem_select, eligible_iff]
    simp only [direct_iff]
  exact ClassName.sortedSet_congr fun c =>
    ClassName.mem_sortedSet.symm.trans ((members c).trans ClassName.mem_sortedSet)

/-- The selection has only classes that may be given, all of those that share a package with a unit,
and with a class all of its family. It is sorted, and what the units say and which classes are
loaded decide it, in whatever order and however often they come. -/
theorem selection_closed (units : List SourceUnit) (loaded : List ClassName) :
    (select units loaded).Pairwise (fun a b => a.text < b.text) ∧
    (∀ c ∈ select units loaded, Eligible units loaded c) ∧
    (∀ c, Eligible units loaded c → ∀ u ∈ units, u.className.packageText = c.packageText →
      c ∈ select units loaded) ∧
    (∀ c ∈ select units loaded, ∀ d, Eligible units loaded d → d.topLevel = c.topLevel →
      d ∈ select units loaded) ∧
    ∀ (others : List SourceUnit) (known : List ClassName),
      (∀ content, content ∈ units.map SourceUnit.content ↔
        content ∈ others.map SourceUnit.content) →
      (∀ c, c ∈ loaded ↔ c ∈ known) → select units loaded = select others known := by
  refine ⟨ClassName.pairwise_sortedSet _, ?_, ?_, ?_, ?_⟩
  · exact fun c selected => (mem_select.mp selected).1
  · intro c may u mem package
    refine mem_select.mpr ⟨may, c, .seen u mem ?_ (mem_eligible.mpr may), rfl⟩
    rw [packages, package]
    exact List.mem_cons_self
  · intro c selected d may family
    obtain ⟨_, e, picked, relative⟩ := mem_select.mp selected
    exact mem_select.mpr ⟨may, e, picked, relative.trans family.symm⟩
  · intro others known contents classes
    exact select_congr (covered_of_content fun content => (contents content).mp)
      (covered_of_content fun content => (contents content).mpr) classes

def nestedField : SourceUnit := ⟨⟨"Main"⟩, "class Main { lib.Outer.Inner field; }", none⟩

theorem selection_closed_nested :
    (⟨"lib.Outer"⟩ : ClassName) ∈
        select [nestedField] [⟨"lib.Outer"⟩, ⟨"lib.Outer$Inner"⟩, ⟨"Main$1"⟩] ∧
      select [nestedField] [⟨"lib.Outer"⟩, ⟨"lib.Outer$Inner"⟩, ⟨"Main$1"⟩] =
        select [nestedField, nestedField] [⟨"Main$1"⟩, ⟨"lib.Outer$Inner"⟩, ⟨"lib.Outer"⟩] := by
  obtain ⟨_, _, _, family, order⟩ := selection_closed [nestedField]
    [⟨"lib.Outer"⟩, ⟨"lib.Outer$Inner"⟩, ⟨"Main$1"⟩]
  have named : (⟨"lib.Outer$Inner"⟩ : ClassName) ∈
      select [nestedField] [⟨"lib.Outer"⟩, ⟨"lib.Outer$Inner"⟩, ⟨"Main$1"⟩] :=
    mem_select.mpr ⟨mem_eligible.mp (by decide +kernel), _,
      .named nestedField List.mem_cons_self "lib.Outer.Inner" (by decide +kernel)
        (by decide +kernel), rfl⟩
  refine ⟨family _ named _ (mem_eligible.mp (by decide +kernel)) (by decide +kernel),
    order _ _ ?_ ?_⟩
  · simp
  · intro c
    simp only [List.mem_cons, List.not_mem_nil, or_false]
    tauto

end Dependencies

end ClassSwap
