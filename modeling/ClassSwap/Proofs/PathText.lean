import ClassSwap.ClassName
import Mathlib.Data.List.TakeWhile

namespace ClassSwap

variable {sep : Char} {text before after : List Char}

theorem splitAtLast_append (last : sep ∉ after) :
    splitAtLast sep (before ++ sep :: after) = some (before, after) := by
  have free : ∀ c ∈ after.reverse, decide (c ≠ sep) = true := by
    intro c mem
    rw [decide_eq_true_iff]
    rintro rfl
    exact last (List.mem_reverse.mp mem)
  have whole : (before ++ sep :: after).reverse = after.reverse ++ sep :: before.reverse := by simp
  simp only [splitAtLast, whole]
  rw [List.dropWhile_append_of_pos free, List.takeWhile_append_of_pos free]
  simp

theorem splitAtLast_eq_none (free : sep ∉ text) : splitAtLast sep text = none := by
  cases split : splitAtLast sep text with
  | none => rfl
  | some parts => exact absurd (by simp [splitAtLast_eq split]) free

theorem splitAtLast_cases (sep : Char) (text : List Char) :
    (sep ∉ text ∧ splitAtLast sep text = none) ∨
      ∃ before after, text = before ++ sep :: after ∧ sep ∉ after ∧
        splitAtLast sep text = some (before, after) := by
  by_cases mem : sep ∈ text
  · obtain ⟨after, before, eq, last⟩ := List.eq_append_cons_of_mem (List.mem_reverse.mpr mem)
    have whole : text = before.reverse ++ sep :: after.reverse := by
      rw [← List.reverse_reverse text, eq]
      simp
    have free : sep ∉ after.reverse := fun mem => last (List.mem_reverse.mp mem)
    exact .inr ⟨before.reverse, after.reverse, whole, free, whole ▸ splitAtLast_append free⟩
  · exact .inl ⟨mem, splitAtLast_eq_none mem⟩

theorem splitOnChar_ne_nil (sep : Char) (text : List Char) : splitOnChar sep text ≠ [] := by
  cases text with
  | nil => exact List.cons_ne_nil _ _
  | cons c rest =>
    simp only [splitOnChar]
    split
    · exact List.cons_ne_nil _ _
    · split <;> exact List.cons_ne_nil _ _

theorem splitOnChar_append (before after : List Char) :
    splitOnChar sep (before ++ sep :: after) = splitOnChar sep before ++ splitOnChar sep after := by
  induction before with
  | nil => simp [splitOnChar]
  | cons c rest ih =>
    simp only [List.cons_append, splitOnChar, ih]
    by_cases here : c = sep
    · simp [here]
    · obtain ⟨piece, pieces, eq⟩ := List.exists_cons_of_ne_nil (splitOnChar_ne_nil sep rest)
      simp [here, eq]

theorem splitOnChar_of_notMem (free : sep ∉ text) : splitOnChar sep text = [text] := by
  induction text with
  | nil => rfl
  | cons c rest ih =>
    simp only [List.mem_cons, not_or] at free
    simp [splitOnChar, Ne.symm free.1, ih free.2]

/-- The pieces have all characters of the text but the separators. -/
theorem exists_piece_iff {x : Char} :
    (∃ piece ∈ splitOnChar sep text, x ∈ piece) ↔ x ∈ text ∧ x ≠ sep := by
  induction text with
  | nil => simp [splitOnChar]
  | cons c rest ih =>
    obtain ⟨first, pieces, eq⟩ := List.exists_cons_of_ne_nil (splitOnChar_ne_nil sep rest)
    by_cases here : c = sep
    · have split : splitOnChar sep (c :: rest) = [] :: splitOnChar sep rest := by
        rw [splitOnChar, if_pos here]
      have both : x ∈ c :: rest ∧ x ≠ sep ↔ x ∈ rest ∧ x ≠ sep := by grind
      rw [split, both, ← ih]
      simp
    · have split : splitOnChar sep (c :: rest) = (c :: first) :: pieces := by
        rw [splitOnChar, if_neg here, eq]
      have both : x ∈ c :: rest ∧ x ≠ sep ↔ x = c ∨ x ∈ rest ∧ x ≠ sep := by grind
      rw [split, both, ← ih, eq]
      simp [or_assoc]

theorem notMem_of_mem_splitOnChar {piece : List Char} (mem : piece ∈ splitOnChar sep text) :
    sep ∉ piece := fun inside => (exists_piece_iff.mp ⟨piece, mem, inside⟩).2 rfl

/-- What stands behind the last separator belongs to the last piece. -/
theorem splitOnChar_append_of_notMem (free : sep ∉ after) (text : List Char) :
    ∃ pieces last, splitOnChar sep text = pieces ++ [last] ∧
      splitOnChar sep (text ++ after) = pieces ++ [last ++ after] := by
  rcases splitAtLast_cases sep text with ⟨whole, -⟩ | ⟨front, last, rfl, whole, -⟩
  · have both : sep ∉ text ++ after := by simp [whole, free]
    exact ⟨[], text, splitOnChar_of_notMem whole, splitOnChar_of_notMem both⟩
  · have both : sep ∉ last ++ after := by simp [whole, free]
    refine ⟨splitOnChar sep front, last, ?_, ?_⟩
    · rw [splitOnChar_append, splitOnChar_of_notMem whole]
    · rw [List.append_assoc, List.cons_append, splitOnChar_append, splitOnChar_of_notMem both]

theorem splitOnChar_replaceChar {old new : Char} (free : new ∉ text) :
    splitOnChar new (replaceChar old new text) = splitOnChar old text := by
  induction text with
  | nil => rfl
  | cons c rest ih =>
    simp only [List.mem_cons, not_or] at free
    have later := ih free.2
    by_cases here : c = old
    · simpa [replaceChar, splitOnChar, here] using later
    · simp only [replaceChar, List.map_cons, splitOnChar, here, Ne.symm free.1, if_false] at later ⊢
      rw [later]

theorem intercalate_splitOnChar (sep : Char) (text : List Char) :
    [sep].intercalate (splitOnChar sep text) = text := by
  induction text with
  | nil => rfl
  | cons c rest ih =>
    obtain ⟨piece, pieces, eq⟩ := List.exists_cons_of_ne_nil (splitOnChar_ne_nil sep rest)
    rw [eq] at ih
    simp only [splitOnChar, eq]
    split
    next here => rw [List.intercalate_cons_cons, ih, here]; rfl
    next =>
      cases pieces with
      | nil => simpa using ih
      | cons second more => simpa [List.intercalate_cons_cons] using ih

theorem splitOnChar_injective {other : List Char}
    (same : splitOnChar sep text = splitOnChar sep other) : text = other := by
  rw [← intercalate_splitOnChar sep text, same, intercalate_splitOnChar]

theorem splitOnChar_intercalate {pieces : List (List Char)} (some_ : pieces ≠ [])
    (free : ∀ piece ∈ pieces, sep ∉ piece) :
    splitOnChar sep ([sep].intercalate pieces) = pieces := by
  induction pieces with
  | nil => exact absurd rfl some_
  | cons piece rest ih =>
    have own := splitOnChar_of_notMem (free piece List.mem_cons_self)
    cases rest with
    | nil => simpa using own
    | cons second more =>
      have later := ih (List.cons_ne_nil second more) fun p mem =>
        free p (List.mem_cons_of_mem piece mem)
      rw [List.intercalate_cons_cons, List.append_assoc, List.singleton_append, splitOnChar_append,
        own, later]
      rfl

/-- Some of the pieces make up some of the text. -/
theorem intercalate_sublist {α : Type} {sep : List α} {some_ all : List (List α)}
    (h : some_.Sublist all) : (sep.intercalate some_).Sublist (sep.intercalate all) := by
  induction h with
  | slnil => exact List.Sublist.refl _
  | @cons some_ all piece h ih =>
    rcases eq_or_ne all [] with rfl | more
    · obtain rfl := List.sublist_nil.mp h
      exact List.nil_sublist _
    · rw [List.intercalate_cons_of_ne_nil more]
      exact ih.trans (List.sublist_append_right _ _)
  | @cons_cons some_ all piece h ih =>
    rcases eq_or_ne all [] with rfl | more
    · obtain rfl := List.sublist_nil.mp h
      exact List.Sublist.refl _
    · rw [List.intercalate_cons_of_ne_nil more]
      rcases eq_or_ne some_ [] with rfl | fewer
      · rw [List.intercalate_singleton, List.append_assoc]
        exact List.sublist_append_left _ _
      · rw [List.intercalate_cons_of_ne_nil fewer]
        exact List.Sublist.append_left ih _

namespace Path

variable {path base name : String}

/-- What a look-up follows of a path: all parts, the empty ones left out. -/
def names (path : String) : List String :=
  ((splitOnChar '/' path.toList).map String.ofList).filter (· != "")

def IsPart (part : String) : Prop := part ≠ "" ∧ '/' ∉ part.toList

theorem isPart_of_mem_names {part : String} (mem : part ∈ names path) : IsPart part := by
  obtain ⟨among, some_⟩ := List.mem_filter.mp mem
  obtain ⟨piece, split, rfl⟩ := List.mem_map.mp among
  refine ⟨by simpa using some_, ?_⟩
  rw [String.toList_ofList]
  exact notMem_of_mem_splitOnChar split

theorem names_append (base name : String) :
    names (base ++ "/" ++ name) = names base ++ names name := by
  have text : (base ++ "/" ++ name).toList = base.toList ++ '/' :: name.toList := by simp
  rw [names, text, splitOnChar_append, List.map_append, List.filter_append]
  rfl

@[simp] theorem names_empty : names "" = [] := rfl

theorem names_join (relative : isAbsolute name = false) :
    names (join base name) = names base ++ names name := by
  rw [join, relative]
  simp only [Bool.false_eq_true, if_false, Bool.or_eq_true]
  split
  next bare =>
    rcases bare with empty | ends
    · obtain rfl : base = "" := by simpa using empty
      simp
    · obtain ⟨front, eq⟩ : ∃ front, base = front ++ "/" := by
        obtain ⟨front, eq⟩ := List.getLast?_eq_some_iff.mp (by simpa using ends)
        exact ⟨String.ofList front, by rw [← String.toList_inj, eq]; simp⟩
      have base_ : names base = names front := by
        have split := names_append front ""
        rwa [String.append_empty, ← eq, names_empty, List.append_nil] at split
      rw [base_, eq, names_append]
  next => exact names_append base name

theorem isAbsolute_join (relative : isAbsolute name = false) (some_ : base ≠ "") :
    isAbsolute (join base name) = isAbsolute base := by
  obtain ⟨c, rest, eq⟩ := List.exists_cons_of_ne_nil (mt String.toList_eq_nil_iff.mp some_)
  rw [join, relative]
  simp only [Bool.false_eq_true, if_false]
  split <;> simp [isAbsolute, eq]

theorem join_of_isAbsolute (absolute : isAbsolute name = true) : join base name = name := by
  simp [join, absolute]

theorem exists_join_eq (base name : String) : ∃ front, join base name = front ++ name := by
  unfold join
  split
  · exact ⟨"", by simp⟩
  · split
    · exact ⟨base, rfl⟩
    · exact ⟨base ++ "/", rfl⟩

theorem join_ne_empty (some_ : base ≠ "") : join base name ≠ "" := by
  unfold join
  split
  next absolute =>
    rintro rfl
    cases absolute
  next => split <;> simp [some_]

theorem isAbsolute_eq_false_of_names {rest : List String}
    (first : (splitOnChar '/' path.toList).map String.ofList = "." :: rest) :
    isAbsolute path = false := by
  cases text : path.toList with
  | nil => simp [isAbsolute, text]
  | cons c tail =>
    by_cases root : c = '/'
    · rw [text, root, splitOnChar, if_pos rfl] at first
      exact absurd (List.cons.inj first).1 (by decide)
    · simp [isAbsolute, text, root]

theorem parts_cases (path : String) :
    (∃ rest, names path = "." :: rest ∧ isAbsolute path = false ∧
      parts path = "." :: rest.filter (· != ".")) ∨
    ((isAbsolute path = true ∨ (names path).head? ≠ some ".") ∧
      parts path = (names path).filter (· != ".")) := by
  simp only [parts, names]
  split
  next rest first =>
    refine .inl ⟨rest.filter (· != ""), ?_, isAbsolute_eq_false_of_names first, ?_⟩
    · rw [first]
      rfl
    · rw [List.filter_filter]
      simp only [Bool.and_comm]
  next other =>
    refine .inr ⟨?_, ?_⟩
    · cases text : path.toList with
      | nil => exact .inr (by simp [splitOnChar])
      | cons c tail =>
        by_cases root : c = '/'
        · exact .inl (by simp [isAbsolute, text, root])
        · obtain ⟨piece, pieces, eq⟩ := List.exists_cons_of_ne_nil (splitOnChar_ne_nil '/' tail)
          have split : splitOnChar '/' (c :: tail) = (c :: piece) :: pieces := by
            simp [splitOnChar, root, eq]
          refine .inr fun head => other (pieces.map String.ofList) ?_
          rw [split, List.map_cons, List.filter_cons_of_pos (by simp), List.head?_cons] at head
          rw [text, split, List.map_cons, Option.some.inj head]
    · rw [List.filter_filter]
      simp only [Bool.and_comm]

/-- A list of parts as `parts` makes it. -/
structure Tidy (absolute : Bool) (list : List String) : Prop where
  part : ∀ p ∈ list, IsPart p
  later : "." ∉ list.tail
  first : absolute = true → "." ∉ list

theorem tidy_parts (path : String) : Tidy (isAbsolute path) (parts path) := by
  rcases parts_cases path with ⟨rest, names, relative, eq⟩ | ⟨-, eq⟩
  · rw [eq, relative]
    have among : ("." :: rest.filter (· != ".")) ⊆ ClassSwap.Path.names path := by
      rw [names]
      exact (List.filter_sublist.cons_cons _).subset
    exact ⟨fun p mem => isPart_of_mem_names (among mem), by simp, nofun⟩
  · rw [eq]
    have clean : "." ∉ (names path).filter (· != ".") := by simp
    exact ⟨fun p mem => isPart_of_mem_names (List.mem_filter.mp mem).1,
      fun mem => clean (List.mem_of_mem_tail mem), fun _ => clean⟩

theorem Tidy.dropLast {absolute : Bool} {list : List String} (tidy : Tidy absolute list) :
    Tidy absolute list.dropLast := by
  have fewer := List.dropLast_sublist list
  exact ⟨fun p mem => tidy.part p (fewer.subset mem), fun mem => tidy.later (fewer.tail.subset mem),
    fun root mem => tidy.first root (fewer.subset mem)⟩

theorem toList_ofParts (absolute : Bool) (list : List String) :
    (ofParts absolute list).toList =
      (if absolute then ['/'] else []) ++ ['/'].intercalate (list.map String.toList) := by
  rw [ofParts, String.toList_append, String.toList_intercalate]
  cases absolute <;> rfl

theorem splitOnChar_parts {list : List String} (part : ∀ p ∈ list, IsPart p) (some_ : list ≠ []) :
    (splitOnChar '/' (['/'].intercalate (list.map String.toList))).map String.ofList = list := by
  rw [splitOnChar_intercalate (mt List.map_eq_nil_iff.mp some_), List.map_map]
  · simp [Function.comp_def]
  · intro piece mem
    obtain ⟨p, among, rfl⟩ := List.mem_map.mp mem
    exact (part p among).2

theorem names_ofParts {absolute : Bool} {list : List String} (part : ∀ p ∈ list, IsPart p) :
    names (ofParts absolute list) = list := by
  have kept : list.filter (· != "") = list :=
    List.filter_eq_self.mpr fun p mem => bne_iff_ne.mpr (part p mem).1
  cases list with
  | nil => cases absolute <;> rfl
  | cons p rest =>
    have pieces := splitOnChar_parts part (List.cons_ne_nil p rest)
    cases absolute with
    | true =>
      have root : names (ofParts true (p :: rest)) = ("" :: p :: rest).filter (· != "") := by
        rw [names, toList_ofParts, if_pos rfl, List.singleton_append, splitOnChar, if_pos rfl,
          List.map_cons, pieces, String.ofList_nil]
      rw [root, List.filter_cons_of_neg (by simp), kept]
    | false => rw [names, toList_ofParts, if_neg (by simp), List.nil_append, pieces, kept]

theorem isAbsolute_ofParts {absolute : Bool} {list : List String} (part : ∀ p ∈ list, IsPart p) :
    isAbsolute (ofParts absolute list) = absolute := by
  rw [isAbsolute, toList_ofParts]
  cases absolute with
  | true => rfl
  | false =>
    cases list with
    | nil => rfl
    | cons p rest =>
      obtain ⟨some_, free⟩ := part p List.mem_cons_self
      obtain ⟨c, tail, eq⟩ := List.exists_cons_of_ne_nil (mt String.toList_eq_nil_iff.mp some_)
      have other : c ≠ '/' := by
        rintro rfl
        exact free (by simp [eq])
      cases rest <;> simp [eq, other, List.intercalate_cons_cons]

theorem parts_ofParts {absolute : Bool} {list : List String} (tidy : Tidy absolute list) :
    parts (ofParts absolute list) = list := by
  have clean {rest : List String} (none : "." ∉ rest) : rest.filter (· != ".") = rest := by
    refine List.filter_eq_self.mpr fun p mem => ?_
    rw [bne_iff_ne]
    rintro rfl
    exact none mem
  rcases parts_cases (ofParts absolute list) with ⟨rest, names, -, eq⟩ | ⟨first, eq⟩
  all_goals rw [names_ofParts tidy.part] at *
  · rw [eq, names, clean (by simpa [names] using tidy.later)]
  · rw [isAbsolute_ofParts tidy.part] at first
    rw [eq, clean]
    cases list with
    | nil => exact List.not_mem_nil
    | cons p rest =>
      rcases first with root | other
      · exact tidy.first root
      · rintro mem
        rcases List.mem_cons.mp mem with rfl | mem
        · exact other rfl
        · exact tidy.later mem

/-- The parent of a path has all its parts but the last one. -/
theorem parent?_eq_some {above : String} (parent : parent? path = some above) :
    parts above = (parts path).dropLast ∧ isAbsolute above = isAbsolute path ∧
      above = ofParts (isAbsolute path) (parts path).dropLast := by
  unfold parent? at parent
  split at parent
  next => cases parent
  next =>
    cases parent
    have tidy := (tidy_parts path).dropLast
    exact ⟨parts_ofParts tidy, isAbsolute_ofParts tidy.part, rfl⟩

theorem parts_sublist (path : String) : (parts path).Sublist (names path) := by
  rcases parts_cases path with ⟨rest, names, -, eq⟩ | ⟨-, eq⟩
  · rw [eq, names]
    exact List.filter_sublist.cons_cons _
  · rw [eq]
    exact List.filter_sublist

theorem names_pieces (path : String) :
    ((names path).map String.toList).Sublist (splitOnChar '/' path.toList) := by
  have all : (splitOnChar '/' path.toList).map (String.toList ∘ String.ofList) =
      splitOnChar '/' path.toList := by simp [Function.comp_def]
  have some_ := List.Sublist.map String.toList
    (List.filter_sublist (p := (· != "")) (l := (splitOnChar '/' path.toList).map String.ofList))
  rwa [List.map_map, all] at some_

theorem toList_ofParts_sublist {list : List String} (some_ : list.Sublist (names path)) :
    (ofParts (isAbsolute path) list).toList.Sublist path.toList := by
  have inner {text : String} (some_ : list.Sublist (names text)) :
      (['/'].intercalate (list.map String.toList)).Sublist text.toList := by
    have pieces : (['/'].intercalate (list.map String.toList)).Sublist _ :=
      intercalate_sublist ((some_.map String.toList).trans (names_pieces text))
    rwa [intercalate_splitOnChar] at pieces
  rw [toList_ofParts]
  cases absolute : isAbsolute path with
  | false => exact inner some_
  | true =>
    obtain ⟨tail, text⟩ := List.head?_eq_some_iff.mp (beq_iff_eq.mp absolute)
    have own : names path = names (String.ofList tail) := by simp [names, text, splitOnChar]
    have rest := inner (own ▸ some_)
    rw [String.toList_ofList] at rest
    rw [text]
    exact rest.cons_cons _

theorem parts_ne_nil (some_ : path ≠ "") (relative : isAbsolute path = false) :
    parts path ≠ [] := by
  rcases parts_cases path with ⟨rest, -, -, eq⟩ | ⟨root | first, eq⟩
  · rw [eq]
    exact List.cons_ne_nil _ _
  · rw [relative] at root
    cases root
  · obtain ⟨c, tail, text⟩ := List.exists_cons_of_ne_nil (mt String.toList_eq_nil_iff.mp some_)
    have other : c ≠ '/' := by
      rintro rfl
      simp [isAbsolute, text] at relative
    obtain ⟨piece, among, inside⟩ := exists_piece_iff.mpr
      ⟨show c ∈ path.toList by simp [text], other⟩
    have named : String.ofList piece ∈ names path := by
      refine List.mem_filter.mpr ⟨List.mem_map_of_mem among, ?_⟩
      rw [bne_iff_ne]
      exact mt String.ofList_eq_empty_iff.mp (List.ne_nil_of_mem inside)
    obtain ⟨one, more, list⟩ := List.exists_cons_of_ne_nil (List.ne_nil_of_mem named)
    rw [eq, list, List.filter_cons_of_pos]
    · exact List.cons_ne_nil _ _
    · rw [bne_iff_ne]
      rintro rfl
      exact first (by rw [list]; rfl)

end Path

end ClassSwap
