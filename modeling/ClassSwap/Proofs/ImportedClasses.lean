import ClassSwap.Proofs.DependencySelection
import ClassSwap.Proofs.ReferenceReadings

namespace ClassSwap.Dependencies

open Source

variable {units : List SourceUnit} {u : SourceUnit} {loaded candidates : List ClassName}
  {c : ClassName} {d : ImportText} {name s before after : List Char}

/-- A spelling of a name: from some place on its dots are replaced by `$`. -/
def Spelled (name other : List Char) : Prop :=
  ∃ front back, name = front ++ back ∧ other = front ++ replaceChar '.' '$' back

theorem Respelled.spelled {dots : Nat} (h : Respelled dots name s) : Spelled name s := by
  obtain ⟨front, back, whole, -, written⟩ := h
  exact ⟨front, back, whole, written⟩

theorem Spelled.length_eq (h : Spelled name s) : s.length = name.length := by
  obtain ⟨front, back, rfl, rfl⟩ := h
  exact Respelled.length_eq ⟨front, back, rfl, rfl, rfl⟩

/-- The class with a name itself, if it is a candidate, goes before all other readings. -/
theorem resolve?_self (candidate : c ∈ candidates) : resolve? candidates c.text = some c := by
  refine resolve?_eq_some_iff.mpr ⟨⟨0, 0, _, _, shortened_zero.mpr rfl, respelled_zero.mpr rfl⟩,
    by simp [Reading.className], candidate, ?_⟩
  rintro s (fewer | ⟨-, fewer⟩) <;> exact absurd fewer (Nat.not_lt_zero _)

/-- A member of a class is read as the class unless it can be read as a class of its own. -/
theorem resolve?_member {member : List Char} (candidate : c ∈ candidates) (plain : '.' ∉ member)
    (unclaimed : ∀ s, Spelled (c.text.toList ++ '.' :: member) s →
      (⟨String.ofList s⟩ : ClassName) ∉ candidates) :
    resolve? candidates (String.ofList (c.text.toList ++ '.' :: member)) = some c := by
  rw [resolve?_eq_some_iff, String.toList_ofList]
  refine ⟨⟨1, 0, c.text.toList, c.text.toList, (shortened_succ plain).mpr (shortened_zero.mpr rfl),
    respelled_zero.mpr rfl⟩, by simp [Reading.className], candidate, ?_⟩
  rintro s (fewer | ⟨-, fewer⟩)
  · have none : s.members = 0 := Nat.lt_one_iff.mp fewer
    have whole : s.kept = c.text.toList ++ '.' :: member := shortened_zero.mp (none ▸ s.shortened)
    have spelled := s.respelled.spelled
    rw [whole] at spelled
    exact unclaimed s.text spelled
  · exact absurd fewer (Nat.not_lt_zero _)

theorem resolved_selected (mem : u ∈ units) (may : Eligible units loaded c) {reference : String}
    (written : reference ∈ references u.text)
    (resolved : resolve? (eligible units loaded) reference = some c) : c ∈ select units loaded :=
  mem_select.mpr ⟨may, c, .named u mem reference written resolved, rfl⟩

/-- The classes among those that may be given which an import is there for. -/
inductive Wants (units : List SourceUnit) (loaded : List ClassName) (d : ImportText)
    (c : ClassName) : Prop
  /-- `import p.*` wants every class of `p`. -/
  | package (form : d.isStatic = false ∧ d.onDemand = true) (name : c.packageText = dotted d.parts)
  /-- `import N` wants `N`. -/
  | single (form : d.isStatic = false ∧ d.onDemand = false) (name : c.text = dotted d.parts)
  /-- `import static N.*` wants `N`. -/
  | members (form : d.isStatic = true ∧ d.onDemand = true) (name : c.text = dotted d.parts)
  /-- `import static N.m` wants `N` unless `N.m` is itself a class in some spelling. -/
  | member (form : d.isStatic = true ∧ d.onDemand = false) (owner : List (List Char))
      (last : List Char) (named : owner ≠ []) (parts : d.parts = owner ++ [last])
      (name : c.text = dotted owner)
      (unclaimed : ∀ s, Spelled (spell d.parts) s → ¬Eligible units loaded ⟨String.ofList s⟩)

theorem spell_concat {names : List (List Char)} (named : names ≠ []) (last : List Char) :
    spell (names ++ [last]) = spell names ++ '.' :: last := by
  cases names with
  | nil => exact absurd rfl named
  | cons first more => simp [spell]

theorem dot_notMem_identifier (valid : isIdentifier name = true) : '.' ∉ name := by
  obtain ⟨_, _, -, -, ascii⟩ := identifier_cases valid
  exact fun mem => absurd (ascii '.' mem) (by decide)

/-- The name of a declaration is among the references of its text if it is the first thing on its
line or has a dot. -/
theorem mem_references (written : u.text.toList = before ++ d.text after)
    (form : d.isStatic = true ∨ d.onDemand = false)
    (place : StartsLine before ∨ 2 ≤ d.parts.length) : dotted d.parts ∈ references u.text := by
  rw [references, List.mem_append]
  rcases place with line | several
  · refine .inl
      (List.mem_map.mpr ⟨d.found, List.mem_filter.mpr ⟨mem_imports d line written, ?_⟩, rfl⟩)
    simpa [ImportText.found] using form
  · exact .inr (d.mem_qualifiedNames several written)

/-- Every class that an import wants is selected, wherever the import stands in its text: as the
first thing on its line, or, unless it is on demand for a package, with a dot in its name. -/
theorem imported_selected (units : List SourceUnit) (loaded : List ClassName) (u : SourceUnit)
    (mem : u ∈ units) (d : ImportText) (before after : List Char)
    (written : u.text.toList = before ++ d.text after)
    (place : StartsLine before ∨
      (d.isStatic = true ∨ d.onDemand = false) ∧ 2 ≤ d.parts.length) (c : ClassName)
    (may : Eligible units loaded c) (wanted : Wants units loaded d c) :
    c ∈ select units loaded := by
  have candidate := mem_eligible.mpr may
  have reference (form : d.isStatic = true ∨ d.onDemand = false) :=
    mem_references written form (place.imp_right And.right)
  cases wanted with
  | package form name =>
    have line : StartsLine before := by
      refine place.resolve_right fun ⟨other, _⟩ => ?_
      simp [form.1, form.2] at other
    refine mem_select.mpr ⟨may, c, .seen u mem ?_ candidate, rfl⟩
    rw [packages, name]
    refine List.mem_cons_of_mem _ (List.mem_map.mpr ⟨d.found, ?_, rfl⟩)
    exact List.mem_filter.mpr ⟨mem_imports d line written, by simp [ImportText.found, form]⟩
  | single form name =>
    exact resolved_selected mem may (reference (.inr form.2)) (name ▸ resolve?_self candidate)
  | members form name =>
    exact resolved_selected mem may (reference (.inl form.1)) (name ▸ resolve?_self candidate)
  | member form owner last named parts name unclaimed =>
    have spelled : spell d.parts = c.text.toList ++ '.' :: last := by
      rw [parts, spell_concat named, name, toList_dotted]
    have plain : '.' ∉ last := dot_notMem_identifier (d.valid last (by simp [parts]))
    refine resolved_selected mem may (reference (.inl form.1)) ?_
    rw [← String.ofList_toList (s := dotted d.parts), toList_dotted, spelled]
    refine resolve?_member candidate plain fun s mem => ?_
    rw [mem_eligible]
    exact unclaimed s (spelled ▸ mem)

/-- An import that shares its line with the package declaration, and one on a line of its own. -/
def importing : SourceUnit :=
  ⟨⟨"app.Main"⟩, "package app; import static lib.Util.max;\nimport p.*; class Main \x7b \x7d", none⟩

def memberImport : ImportText :=
  { isStatic := true, parts := [['l', 'i', 'b'], ['U', 't', 'i', 'l'], ['m', 'a', 'x']] }

def packageImport : ImportText := { parts := [['p']], onDemand := true }

theorem imported_selected_two_lines :
    (⟨"lib.Util"⟩ : ClassName) ∈ select [importing] [⟨"lib.Util"⟩, ⟨"p.X"⟩] ∧
      (⟨"p.X"⟩ : ClassName) ∈ select [importing] [⟨"lib.Util"⟩, ⟨"p.X"⟩] := by
  have may : ∀ c ∈ eligible [importing] [⟨"lib.Util"⟩, ⟨"p.X"⟩],
      Eligible [importing] [⟨"lib.Util"⟩, ⟨"p.X"⟩] c := fun c mem => mem_eligible.mp mem
  constructor
  · refine imported_selected [importing] _ importing List.mem_cons_self memberImport
      "package app; ".toList "\nimport p.*; class Main \x7b \x7d".toList (by decide)
      (.inr (by decide)) _ (may _ (by decide +kernel)) ?_
    refine .member (by decide) [['l', 'i', 'b'], ['U', 't', 'i', 'l']] ['m', 'a', 'x'] (by decide)
      rfl (by decide) fun s spelled may => ?_
    have long : s.length = 12 := spelled.length_eq
    have short : ∀ c ∈ [(⟨"lib.Util"⟩ : ClassName), ⟨"p.X"⟩], c.text.length ≠ 12 := by decide
    exact short _ may.loaded (by rw [String.length_ofList, long])
  · have line : StartsLine "package app; import static lib.Util.max;\n".toList :=
      ⟨"package app; import static lib.Util.max;\n".toList, [], by decide, nofun, .inr (by decide)⟩
    exact imported_selected [importing] _ importing List.mem_cons_self packageImport _
      " class Main \x7b \x7d".toList (by decide) (.inl line) _ (may _ (by decide +kernel))
      (.package (by decide) (by decide))

/-- An import on demand that follows something else on its line. -/
def importingBehind : SourceUnit :=
  ⟨⟨"app.Main"⟩, "package app; import p.*; class Main \x7b\x7d", none⟩

theorem package_import_missed_behind :
    importingBehind.text.toList = "package app; ".toList ++
        packageImport.text " class Main \x7b\x7d".toList ∧
      Eligible [importingBehind] [⟨"p.X"⟩] ⟨"p.X"⟩ ∧
      Wants [importingBehind] [⟨"p.X"⟩] packageImport ⟨"p.X"⟩ ∧
      ⟨"p.X"⟩ ∉ select [importingBehind] [⟨"p.X"⟩] :=
  ⟨by decide, mem_eligible.mp (by decide +kernel), .package (by decide) (by decide),
    by decide +kernel⟩

end ClassSwap.Dependencies
