import ClassSwap.Proofs.Attempts
import ClassSwap.Proofs.SavedClasses
import Mathlib.Data.List.Nodup

namespace ClassSwap

namespace Table

variable {κ α : Type} [DecidableEq κ] {t : Table κ α} {key : κ}

theorem get?_of_mem {value : α} (distinct : t.keys.Nodup) (mem : (key, value) ∈ t) :
    t.get? key = some value := by
  induction t with
  | nil => cases mem
  | cons entry rest ih =>
    obtain ⟨new, distinct⟩ := List.nodup_cons.mp distinct
    rw [get?_cons]
    rcases List.mem_cons.mp mem with rfl | later
    · exact if_pos rfl
    · have other : entry.1 ≠ key := by
        rintro rfl
        exact new (List.mem_map.mpr ⟨_, later, rfl⟩)
      rw [if_neg other, ih distinct later]

end Table

namespace FileTree

variable {tree : FileTree} {place output list : Place} {name : String} {rest : List String}
  {order : Place → List String} {content : Bytes}

/-- A tree as the system keeps it: each place is taken once, and what is there is in a directory. -/
structure Proper (tree : FileTree) : Prop where
  distinct : tree.entries.keys.Nodup
  held : ∀ place ∈ tree.entries.keys, place ≠ [] ∧ tree.find? place.dropLast = some .directory

instance (tree : FileTree) : Decidable tree.Proper :=
  decidable_of_iff (tree.entries.keys.Nodup ∧
    ∀ place ∈ tree.entries.keys, place ≠ [] ∧ tree.find? place.dropLast = some .directory)
    ⟨fun h => ⟨h.1, h.2⟩, fun h => ⟨h.distinct, h.held⟩⟩

/-- An order in which each directory may list the names in it. -/
def Lists (tree : FileTree) (order : Place → List String) : Prop :=
  ∀ place, tree.find? place = some .directory →
    (order place).Nodup ∧ ∀ name, name ∈ order place ↔ tree.find? (place ++ [name]) ≠ none

theorem mem_keys_of_find? (named : place ≠ []) (there : tree.find? place ≠ none) :
    place ∈ tree.entries.keys := by
  obtain ⟨entry, found⟩ := Option.ne_none_iff_exists'.mp there
  rw [find?, if_neg (by simpa using named)] at found
  exact List.mem_map_of_mem (Table.mem_of_get?_eq_some found)

theorem Proper.directory_above (proper : tree.Proper)
    (there : tree.find? (place ++ name :: rest) ≠ none) : tree.find? place = some .directory := by
  -- from the last name, since each one is in the directory before it
  induction rest using List.reverseRecOn with
  | nil =>
    obtain ⟨-, held⟩ := proper.held _ (mem_keys_of_find? (by simp) there)
    rwa [List.dropLast_concat] at held
  | append_singleton rest last ih =>
    rw [← List.cons_append, ← List.append_assoc] at there
    obtain ⟨-, held⟩ := proper.held _ (mem_keys_of_find? (by simp) there)
    rw [List.dropLast_concat] at held
    exact ih (by simp [held])

theorem Proper.there_front (proper : tree.Proper) (there : tree.find? (place ++ rest) ≠ none) :
    tree.find? place ≠ none := by
  cases rest with
  | nil => rwa [List.append_nil] at there
  | cons name rest =>
    rw [proper.directory_above there]
    exact Option.some_ne_none _

theorem openDirectory_eq_ok {here : Place} {path : String}
    (opened : tree.openDirectory here path = .ok place) : tree.find? place = some .directory := by
  obtain ⟨at_, -, opened⟩ := bind_eq_ok.mp opened
  split at opened
  next => cases opened
  next => cases opened
  next found =>
    cases opened
    exact found

def namesIn (tree : FileTree) (place : Place) : List String :=
  tree.entries.keys.filterMap fun key => if key.dropLast = place then key.getLast? else none

theorem mem_namesIn (proper : tree.Proper) :
    name ∈ tree.namesIn place ↔ tree.find? (place ++ [name]) ≠ none := by
  rw [namesIn, List.mem_filterMap]
  constructor
  · rintro ⟨key, mem, own⟩
    split at own
    next held =>
      have whole := List.dropLast_append_getLast? name own
      obtain ⟨entry, there, rfl⟩ := List.mem_map.mp mem
      have found := Table.get?_of_mem proper.distinct there
      rw [held] at whole
      rw [whole, find?, if_neg (by simpa using (proper.held _ mem).1), found]
      exact Option.some_ne_none _
    next => cases own
  · intro there
    exact ⟨place ++ [name], mem_keys_of_find? (by simp) there, by simp⟩

theorem lists_namesIn (proper : tree.Proper) : tree.Lists tree.namesIn := by
  intro place _
  refine ⟨proper.distinct.filterMap fun one two name own own_ => ?_, fun name => mem_namesIn proper⟩
  split at own
  next held =>
    split at own_
    next held_ =>
      rw [← List.dropLast_append_getLast? name own, ← List.dropLast_append_getLast? name own_, held,
        held_]
    next => cases own_
  next => cases own

theorem mem_below_iff (proper : tree.Proper) {entry : Entry} :
    (list, entry) ∈ tree.below output ↔
      list ≠ [] ∧ tree.find? (output ++ list) = some entry := by
  refine ⟨fun mem => ?_, fun h => mem_below h.1 h.2⟩
  obtain ⟨⟨key, own⟩, there, eq⟩ := List.mem_filterMap.mp mem
  split at eq
  next inside =>
    simp only [Bool.and_eq_true, List.isPrefixOf_iff_prefix, bne_iff_ne] at inside
    obtain ⟨⟨rest, rfl⟩, longer⟩ := inside
    have named : rest ≠ [] := by
      rintro rfl
      exact longer (by simp)
    simp only [List.drop_left, Option.some.injEq, Prod.mk.injEq] at eq
    obtain ⟨rfl, rfl⟩ := eq
    exact ⟨named, (get?_of_find? named).trans (Table.get?_of_mem proper.distinct there)⟩
  next => cases eq

theorem mem_filesBelow_iff (proper : tree.Proper) :
    (list, content) ∈ tree.filesBelow output ↔
      list ≠ [] ∧ ∃ executable, tree.find? (output ++ list) = some (.file content executable) := by
  constructor
  · intro mem
    obtain ⟨⟨names, entry⟩, there, eq⟩ := List.mem_filterMap.mp mem
    cases entry with
    | directory => cases eq
    | file bytes executable =>
      cases eq
      obtain ⟨named, found⟩ := (mem_below_iff proper).mp there
      exact ⟨named, executable, found⟩
  · rintro ⟨named, executable, found⟩
    exact mem_filesBelow named found

theorem map_filterMap_sublist {α β γ : Type} {f : α → Option β} {g : β → γ} {h : α → γ}
    (own : ∀ a b, f a = some b → g b = h a) (all : List α) :
    ((all.filterMap f).map g).Sublist (all.map h) := by
  induction all with
  | nil => exact List.Sublist.refl _
  | cons a rest ih =>
    rw [List.map_cons]
    cases kept : f a with
    | none =>
      rw [List.filterMap_cons_none kept]
      exact ih.cons _
    | some b =>
      rw [List.filterMap_cons_some kept, List.map_cons, own a b kept]
      exact ih.cons_cons _

theorem nodup_filesBelow (proper : tree.Proper) (output : Place) :
    ((tree.filesBelow output).map (·.1)).Nodup := by
  have files : ((tree.filesBelow output).map (·.1)).Sublist ((tree.below output).map (·.1)) := by
    refine map_filterMap_sublist (fun e f eq => ?_) _
    split at eq
    next => cases eq; rfl
    next => cases eq
  have places : ((tree.below output).map (output ++ ·.1)).Sublist tree.entries.keys := by
    refine map_filterMap_sublist (fun e f eq => ?_) _
    split at eq
    next inside =>
      simp only [Bool.and_eq_true, List.isPrefixOf_iff_prefix] at inside
      obtain ⟨rest, whole⟩ := inside.1
      cases eq
      rw [← whole, List.drop_left]
    next => cases eq
  have apart : ((tree.below output).map (·.1)).Nodup := by
    refine List.Nodup.of_map (output ++ ·) ?_
    rw [List.map_map]
    exact proper.distinct.sublist places
  exact apart.sublist files

end FileTree

namespace Javac

open FileTree (Lists)

variable {tree : FileTree} {output list q : Place} {name : String} {names : List String}
  {order : Place → List String} {found : List Place}

/-- A regular file that is a class file, by its place below the output directory. -/
def IsClass (tree : FileTree) (output list : Place) : Prop :=
  isClassFile list = true ∧
    ∃ content executable, tree.find? (output ++ list) = some (.file content executable)

/-- What a walk finds behind these names of one directory. -/
inductive Walk (tree : FileTree) (output : Place) (order : Place → List String) :
    Place → List String → List Place → Prop
  | done (list : Place) : Walk tree output order list [] []
  | directory {list : Place} {name : String} {names : List String} {inside found : List Place}
      (here : tree.find? (output ++ (list ++ [name])) = some .directory)
      (inner : Walk tree output order (list ++ [name]) (order (output ++ (list ++ [name]))) inside)
      (later : Walk tree output order list names found) :
      Walk tree output order list (name :: names) (inside ++ found)
  | classFile {list : Place} {name : String} {names : List String} {found : List Place}
      (here : IsClass tree output (list ++ [name]))
      (later : Walk tree output order list names found) :
      Walk tree output order list (name :: names) ((list ++ [name]) :: found)
  | other {list : Place} {name : String} {names : List String} {found : List Place}
      {content : Bytes} {executable : Bool}
      (here : tree.find? (output ++ (list ++ [name])) = some (.file content executable))
      (plain : isClassFile (list ++ [name]) = false)
      (later : Walk tree output order list names found) :
      Walk tree output order list (name :: names) found

section Behind

variable {rest : List String} {content : Bytes} {executable : Bool}

theorem IsClass.ends (file : IsClass tree output (list ++ name :: rest)) (proper : tree.Proper)
    (here : tree.find? (output ++ (list ++ [name])) = some (.file content executable)) :
    rest = [] := by
  cases rest with
  | nil => rfl
  | cons more rest =>
    obtain ⟨-, _, _, there⟩ := file
    have whole : tree.find? (output ++ (list ++ [name]) ++ more :: rest) ≠ none := by simp [there]
    have above := proper.directory_above whole
    rw [here] at above
    cases above

theorem IsClass.goes_on (file : IsClass tree output (list ++ name :: rest)) (proper : tree.Proper)
    (here : tree.find? (output ++ (list ++ [name])) = some .directory) :
    ∃ more later, rest = more :: later ∧
      tree.find? (output ++ (list ++ [name]) ++ [more]) ≠ none := by
  obtain ⟨-, content, executable, there⟩ := file
  cases rest with
  | nil =>
    rw [here] at there
    cases there
  | cons more later =>
    have whole : tree.find? (output ++ (list ++ [name]) ++ [more] ++ later) ≠ none := by
      simp [there]
    exact ⟨more, later, rfl, proper.there_front whole⟩

end Behind

/-- A walk finds exactly the class files behind the names it is given. -/
theorem Walk.mem_iff (walk : Walk tree output order list names found) (proper : tree.Proper)
    (lists : tree.Lists order) :
    q ∈ found ↔ IsClass tree output q ∧ ∃ name ∈ names, ∃ rest, q = list ++ name :: rest := by
  induction walk generalizing q with
  | done list => simp
  | @directory list name names inside found here inner later ihInner ihLater =>
    refine List.mem_append.trans ((or_congr ihInner ihLater).trans ⟨?_, ?_⟩)
    · rintro (⟨file, more, -, rest, rfl⟩ | ⟨file, other, mem, rest, eq⟩)
      · exact ⟨file, name, List.mem_cons_self, more :: rest, by simp⟩
      · exact ⟨file, other, List.mem_cons_of_mem name mem, rest, eq⟩
    · rintro ⟨file, other, mem, rest, rfl⟩
      rcases List.mem_cons.mp mem with rfl | mem
      · obtain ⟨more, rest, rfl, there⟩ := file.goes_on proper here
        have listed : more ∈ order (output ++ (list ++ [other])) :=
          ((lists _ here).2 more).mpr there
        exact .inl ⟨file, more, listed, rest, by simp⟩
      · exact .inr ⟨file, other, mem, rest, rfl⟩
  | @classFile list name names found here later ih =>
    refine List.mem_cons.trans ((or_congr_right ih).trans ⟨?_, ?_⟩)
    · rintro (rfl | ⟨file, other, mem, rest, eq⟩)
      · exact ⟨here, name, List.mem_cons_self, [], rfl⟩
      · exact ⟨file, other, List.mem_cons_of_mem name mem, rest, eq⟩
    · rintro ⟨file, other, mem, rest, rfl⟩
      rcases List.mem_cons.mp mem with rfl | mem
      · obtain ⟨-, content, executable, there⟩ := here
        rw [file.ends proper there]
        exact .inl rfl
      · exact .inr ⟨file, other, mem, rest, rfl⟩
  | @other list name names found content executable here plain later ih =>
    refine ih.trans (and_congr_right fun file => ⟨?_, ?_⟩)
    · rintro ⟨other, mem, rest, eq⟩
      exact ⟨other, List.mem_cons_of_mem name mem, rest, eq⟩
    · rintro ⟨other, mem, rest, rfl⟩
      rcases List.mem_cons.mp mem with rfl | mem
      · obtain rfl := file.ends proper here
        rw [file.1] at plain
        cases plain
      · exact ⟨other, mem, rest, rfl⟩

theorem Walk.nodup (walk : Walk tree output order list names found) (proper : tree.Proper)
    (lists : tree.Lists order) (once : names.Nodup) : found.Nodup := by
  induction walk with
  | done list => exact List.nodup_nil
  | @directory list name names inside found here inner later ihInner ihLater =>
    obtain ⟨new, once⟩ := List.nodup_cons.mp once
    refine List.nodup_append.mpr ⟨ihInner (lists _ here).1, ihLater once, ?_⟩
    intro q within q_ behind same
    subst same
    obtain ⟨-, _, -, _, rfl⟩ := (inner.mem_iff proper lists).mp within
    obtain ⟨-, other, mem, rest, eq⟩ := (later.mem_iff proper lists).mp behind
    rw [List.append_assoc, List.append_cancel_left_eq, List.singleton_append,
      List.cons.injEq] at eq
    exact new (eq.1 ▸ mem)
  | @classFile list name names found here later ih =>
    obtain ⟨new, once⟩ := List.nodup_cons.mp once
    refine List.nodup_cons.mpr ⟨fun behind => ?_, ih once⟩
    obtain ⟨-, other, mem, rest, eq⟩ := (later.mem_iff proper lists).mp behind
    rw [List.append_cancel_left_eq, List.cons.injEq] at eq
    exact new (eq.1 ▸ mem)
  | other here plain later ih => exact ih (List.nodup_cons.mp once).2

/-- Every walk comes to an end, since no place is deeper than the deepest one. -/
theorem exists_walk (lists : tree.Lists order) (depth : Nat)
    (deepest : ∀ key ∈ tree.entries.keys, key.length ≤ output.length + list.length + depth)
    (there : ∀ name ∈ names, tree.find? (output ++ (list ++ [name])) ≠ none) :
    ∃ found, Walk tree output order list names found := by
  induction depth generalizing list names with
  | zero =>
    cases names with
    | nil => exact ⟨[], .done list⟩
    | cons name names =>
      have key := FileTree.mem_keys_of_find? (by simp) (there name List.mem_cons_self)
      have low := deepest _ key
      simp only [List.length_append, List.length_singleton] at low
      omega
  | succ depth ihDepth =>
    induction names with
    | nil => exact ⟨[], .done list⟩
    | cons name names ihNames =>
      obtain ⟨found, later⟩ := ihNames fun other mem => there other (List.mem_cons_of_mem name mem)
      cases here : tree.find? (output ++ (list ++ [name])) with
      | none => exact absurd here (there name List.mem_cons_self)
      | some entry =>
        cases entry with
        | directory =>
          have deeper : ∀ key ∈ tree.entries.keys,
              key.length ≤ output.length + (list ++ [name]).length + depth := by
            intro key mem
            have low := deepest key mem
            simp only [List.length_append, List.length_singleton]
            omega
          have listed : ∀ other ∈ order (output ++ (list ++ [name])),
              tree.find? (output ++ (list ++ [name] ++ [other])) ≠ none := by
            intro other mem
            rw [← List.append_assoc output]
            exact ((lists _ here).2 other).mp mem
          obtain ⟨inside, inner⟩ := ihDepth deeper listed
          exact ⟨inside ++ found, .directory here inner later⟩
        | file content executable =>
          cases kind : isClassFile (list ++ [name]) with
          | true => exact ⟨_, .classFile ⟨kind, content, executable, here⟩ later⟩
          | false => exact ⟨found, .other here kind later⟩

theorem exists_depth (places : List Place) :
    ∃ depth, ∀ place ∈ places, place.length ≤ depth := by
  induction places with
  | nil => exact ⟨0, nofun⟩
  | cons first places ih =>
    obtain ⟨depth, deepest⟩ := ih
    refine ⟨max first.length depth, fun place mem => ?_⟩
    rcases List.mem_cons.mp mem with rfl | mem
    · exact Nat.le_max_left _ _
    · exact (deepest place mem).trans (Nat.le_max_right _ _)

theorem exists_whole_walk (there : tree.find? output = some .directory)
    (lists : tree.Lists order) : ∃ found, Walk tree output order [] (order output) found := by
  obtain ⟨depth, deepest⟩ := exists_depth tree.entries.keys
  refine exists_walk lists depth (fun key mem => ?_) fun name mem => ?_
  · have low := deepest key mem
    omega
  · exact ((lists output there).2 name).mp mem

end Javac

end ClassSwap
