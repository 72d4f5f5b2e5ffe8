import ClassSwap.Proofs.DependencySelection
import ClassSwap.Proofs.PathText
import ClassSwap.Proofs.ReferenceScan

namespace ClassSwap.Dependencies

open Source

variable {loaded : List ClassName} {c : ClassName} {reference : String}
  {name kept text before after : List Char} {n : Nat}

/-- `kept` is a dotted name without its last `parts` parts. -/
def Shortened (parts : Nat) (name kept : List Char) : Prop :=
  ∃ rest, name = kept ++ rest ∧ rest.count '.' = parts ∧ ∀ c ∈ rest.head?, c = '.'

/-- `text` is a dotted name with its last `dots` dots written as `$`. -/
def Respelled (dots : Nat) (name text : List Char) : Prop :=
  ∃ front back, name = front ++ back ∧ back.count '.' = dots ∧
    text = front ++ replaceChar '.' '$' back

/-- A way to read a reference as the name of a class: the last `members` parts are left off, and of
what is kept the last `nested` dots are written as `$`. -/
structure Reading (reference : List Char) where
  members : Nat
  nested : Nat
  kept : List Char
  text : List Char
  shortened : Shortened members reference kept
  respelled : Respelled nested kept text

namespace Reading

def className {reference : List Char} (r : Reading reference) : ClassName :=
  ⟨String.ofList r.text⟩

/-- A reading goes before those that leave off `members` parts and write `nested` dots as `$`. -/
def Before {reference : List Char} (r : Reading reference) (members nested : Nat) : Prop :=
  r.members < members ∨ r.members = members ∧ r.nested < nested

end Reading

theorem replaceChar_of_notMem {old new : Char} (free : old ∉ name) :
    replaceChar old new name = name := by
  refine (List.map_congr_left fun c mem => ?_).trans (List.map_id name)
  rw [if_neg (by rintro rfl; exact free mem), id]

theorem replaceChar_append (old new : Char) (front back : List Char) :
    replaceChar old new (front ++ back) = replaceChar old new front ++ replaceChar old new back :=
  List.map_append

/-- A text with dots is got from two texts with fewer: what stands before its last dot, and the text
with a `$` in place of that dot. -/
theorem lastDot_induction {motive : List Char → Prop}
    (plain : ∀ text, '.' ∉ text → motive text)
    (dotted : ∀ before after, '.' ∉ after → motive before → motive (before ++ '$' :: after) →
      motive (before ++ '.' :: after)) (text : List Char) : motive text := by
  induction dots : text.count '.' using Nat.strong_induction_on generalizing text with
  | _ dots ih =>
    rcases splitAtLast_cases '.' text with ⟨free, -⟩ | ⟨before, after, rfl, last, -⟩
    · exact plain text free
    · have none := List.count_eq_zero.mpr last
      refine dotted before after last (ih _ ?_ before rfl) (ih _ ?_ _ rfl)
      · simp only [List.count_append, List.count_cons_self] at dots
        omega
      · simp only [List.count_append, List.count_cons_self,
          List.count_cons_of_ne (show '$' ≠ '.' by decide)] at dots ⊢
        omega

theorem shortened_zero : Shortened 0 name kept ↔ kept = name := by
  constructor
  · rintro ⟨rest, rfl, none, first⟩
    cases rest with
    | nil => rw [List.append_nil]
    | cons c rest =>
      obtain rfl := first c rfl
      simp at none
  · rintro rfl
    exact ⟨[], by simp, rfl, nofun⟩

theorem shortened_of_notMem (free : '.' ∉ name) : Shortened n name kept ↔ n = 0 ∧ kept = name := by
  cases n with
  | zero => simp [shortened_zero]
  | succ n =>
    simp only [Nat.add_one_ne_zero, false_and, iff_false]
    rintro ⟨rest, rfl, some_, -⟩
    have none : rest.count '.' = 0 :=
      List.count_eq_zero.mpr fun mem => free (List.mem_append_right kept mem)
    omega

/-- The first part to be left off is the one behind the last dot. -/
theorem shortened_succ (last : '.' ∉ after) :
    Shortened (n + 1) (before ++ '.' :: after) kept ↔ Shortened n before kept := by
  have none := List.count_eq_zero.mpr last
  constructor
  · rintro ⟨rest, eq, count, first⟩
    rcases List.append_eq_append_iff.mp eq with ⟨x, rfl, tail⟩ | ⟨x, rfl, rfl⟩
    · cases x with
      | nil =>
        obtain rfl : rest = '.' :: after := by simpa using tail.symm
        have zero : n = 0 := by simpa [none] using count.symm
        rw [zero, List.append_nil, shortened_zero]
      | cons c x =>
        obtain ⟨-, rfl⟩ : '.' = c ∧ after = x ++ rest := List.cons.inj tail
        rw [List.count_append] at none
        omega
    · refine ⟨x, rfl, ?_, ?_⟩
      · simpa [List.count_append, none] using count
      · cases x with
        | nil => exact nofun
        | cons c x => exact first
  · rintro ⟨rest, rfl, count, first⟩
    refine ⟨rest ++ '.' :: after, by simp, by simp [List.count_append, none, count], ?_⟩
    cases rest with
    | nil => simp
    | cons c rest => exact first

theorem shortenings_of_notMem (free : '.' ∉ name) : shortenings name = [name] := by
  rw [shortenings]
  split
  next split => cases (splitAtLast_eq_none free).symm.trans split
  next => rfl

theorem shortenings_append (last : '.' ∉ after) :
    shortenings (before ++ '.' :: after) =
      (before ++ '.' :: after) :: shortenings before := by
  have cut : splitAtLast '.' (before ++ '.' :: after) = some (before, after) :=
    splitAtLast_append last
  rw [shortenings]
  split
  next split =>
    cases cut.symm.trans split
    rfl
  next split => cases cut.symm.trans split

/-- The shortenings of a name are in the order of what they leave off. -/
theorem getElem?_shortenings :
    (shortenings name)[n]? = some kept ↔ Shortened n name kept := by
  induction name using lastDot_induction generalizing n with
  | plain name free =>
    rw [shortenings_of_notMem free, shortened_of_notMem free]
    cases n <;> simp [eq_comm]
  | dotted before after last ih _ =>
    rw [shortenings_append last]
    cases n with
    | zero => rw [shortened_zero, List.getElem?_cons_zero, Option.some.injEq, eq_comm]
    | succ n => rw [shortened_succ last, List.getElem?_cons_succ, ih]

theorem respelled_zero : Respelled 0 name text ↔ text = name := by
  constructor
  · rintro ⟨front, back, rfl, none, rfl⟩
    rw [replaceChar_of_notMem (List.count_eq_zero.mp none)]
  · rintro rfl
    exact ⟨text, [], by simp, rfl, by simp [replaceChar]⟩

theorem respelled_of_notMem (free : '.' ∉ name) : Respelled n name text ↔ n = 0 ∧ text = name := by
  cases n with
  | zero => simp [respelled_zero]
  | succ n =>
    simp only [Nat.add_one_ne_zero, false_and, iff_false]
    rintro ⟨front, back, rfl, some_, -⟩
    have none : back.count '.' = 0 :=
      List.count_eq_zero.mpr fun mem => free (List.mem_append_right front mem)
    omega

/-- The first dot to be written as `$` is the last one. -/
theorem respelled_succ (last : '.' ∉ after) :
    Respelled (n + 1) (before ++ '.' :: after) text ↔
      Respelled n (before ++ '$' :: after) text := by
  have none := List.count_eq_zero.mpr last
  have here : replaceChar '.' '$' ('.' :: after) = '$' :: after :=
    congrArg ('$' :: ·) (replaceChar_of_notMem last)
  have same (x : List Char) : replaceChar '.' '$' (x ++ '.' :: after) =
      replaceChar '.' '$' (x ++ '$' :: after) := by simp [replaceChar]
  constructor
  · rintro ⟨front, back, eq, count, rfl⟩
    rcases List.append_eq_append_iff.mp eq with ⟨x, rfl, tail⟩ | ⟨x, rfl, rfl⟩
    · cases x with
      | nil =>
        obtain rfl : back = '.' :: after := by simpa using tail.symm
        have zero : n = 0 := by simpa [none] using count
        rw [zero, respelled_zero, here, List.append_nil]
      | cons c x =>
        obtain ⟨-, rfl⟩ : '.' = c ∧ after = x ++ back := List.cons.inj tail
        rw [List.count_append] at none
        omega
    · exact ⟨front, x ++ '$' :: after, by simp, by simpa [List.count_append, none] using count,
        by rw [same]⟩
  · rintro ⟨front, back, eq, count, rfl⟩
    rcases List.append_eq_append_iff.mp eq with ⟨x, rfl, tail⟩ | ⟨x, rfl, rfl⟩
    · have plain : '.' ∉ '$' :: after := by simp [last]
      have free : '.' ∉ back := fun mem => plain (tail ▸ List.mem_append_right x mem)
      obtain rfl : n = 0 := by rw [← count, List.count_eq_zero.mpr free]
      refine ⟨before, '.' :: after, rfl, by simp [none], ?_⟩
      rw [replaceChar_of_notMem free, here, tail, List.append_assoc]
    · exact ⟨front, x ++ '.' :: after, by simp, by simpa [List.count_append, none] using count,
        by rw [same]⟩

theorem spellings_of_notMem (free : '.' ∉ name) : spellings name = [name] := by
  rw [spellings, List.count_eq_zero.mpr free, spellingsFrom]

theorem spellings_append (last : '.' ∉ after) :
    spellings (before ++ '.' :: after) =
      (before ++ '.' :: after) :: spellings (before ++ '$' :: after) := by
  have dots : (before ++ '.' :: after).count '.' = (before ++ '$' :: after).count '.' + 1 := by
    simp [List.count_append]
    omega
  rw [spellings, dots, spellingsFrom, splitAtLast_append last, spellings]

/-- The spellings of a name are in the order of how many `$` they have. -/
theorem getElem?_spellings : (spellings name)[n]? = some text ↔ Respelled n name text := by
  induction name using lastDot_induction generalizing n with
  | plain name free =>
    rw [spellings_of_notMem free, respelled_of_notMem free]
    cases n <;> simp [eq_comm]
  | dotted before after last _ ih =>
    rw [spellings_append last]
    cases n with
    | zero => rw [respelled_zero, List.getElem?_cons_zero, Option.some.injEq, eq_comm]
    | succ n => rw [respelled_succ last, List.getElem?_cons_succ, ih]

theorem findSome?_eq_some_iff_getElem? {α β : Type} {list : List α} {f : α → Option β} {b : β} :
    list.findSome? f = some b ↔ ∃ (n : Nat) (a : α), list[n]? = some a ∧ f a = some b ∧
      ∀ (m : Nat) (x : α), m < n → list[m]? = some x → f x = none := by
  rw [List.findSome?_eq_some_iff]
  constructor
  · rintro ⟨front, a, back, rfl, found, none⟩
    refine ⟨front.length, a, by simp, found, fun m x lt at_ => none x ?_⟩
    rw [List.getElem?_append_left lt] at at_
    exact List.mem_of_getElem? at_
  · rintro ⟨n, a, at_, found, none⟩
    obtain ⟨lt, rfl⟩ := List.getElem?_eq_some_iff.mp at_
    refine ⟨list.take n, list[n], list.drop (n + 1), ?_, found, fun x mem => ?_⟩
    · rw [List.getElem_cons_drop, List.take_append_drop]
    · obtain ⟨m, bound, rfl⟩ := List.mem_take_iff_getElem.mp mem
      exact none m _ (by omega) (List.getElem?_eq_getElem (by omega))

theorem findSome?_flatMap {α β γ : Type} {list : List α} {g : α → List β} {f : β → Option γ} :
    (list.flatMap g).findSome? f = list.findSome? fun a => (g a).findSome? f := by
  induction list with
  | nil => rfl
  | cons a list ih =>
    rw [List.flatMap_cons, List.findSome?_append, List.findSome?_cons, ih]
    cases (g a).findSome? f <;> rfl

theorem find?_name_eq_none_iff {a : ClassName} : loaded.find? (· == a) = none ↔ a ∉ loaded := by
  rw [find?_name]
  simp

theorem find?_name_eq_some_iff {a : ClassName} :
    loaded.find? (· == a) = some c ↔ a = c ∧ c ∈ loaded := by
  rw [find?_name, Option.ite_none_right_eq_some, Option.some.injEq]
  constructor
  · rintro ⟨mem, rfl⟩
    exact ⟨rfl, mem⟩
  · rintro ⟨rfl, mem⟩
    exact ⟨mem, rfl⟩

/-- No class is found for a name exactly if none of its spellings is loaded. -/
theorem findSome?_spellings_eq_none_iff :
    (spellings kept).findSome? (fun name => loaded.find? (· == ⟨String.ofList name⟩)) = none ↔
      ∀ nested text, Respelled nested kept text → ⟨String.ofList text⟩ ∉ loaded := by
  simp only [List.findSome?_eq_none_iff, find?_name_eq_none_iff]
  constructor
  · intro none nested text respelled
    exact none text (List.mem_of_getElem? (getElem?_spellings.mpr respelled))
  · intro none text mem
    obtain ⟨nested, respelled⟩ := List.mem_iff_getElem?.mp mem
    exact none nested text (getElem?_spellings.mp respelled)

/-- For a name the first of its spellings that is loaded is found. -/
theorem findSome?_spellings_eq_some_iff :
    (spellings kept).findSome? (fun name => loaded.find? (· == ⟨String.ofList name⟩)) = some c ↔
      ∃ nested text, Respelled nested kept text ∧ (⟨String.ofList text⟩ = c ∧ c ∈ loaded) ∧
        ∀ fewer other, fewer < nested → Respelled fewer kept other →
          ⟨String.ofList other⟩ ∉ loaded := by
  rw [findSome?_eq_some_iff_getElem?]
  simp only [getElem?_spellings, find?_name_eq_some_iff, find?_name_eq_none_iff]

/-- A reference is resolved to the first of its readings that is loaded. -/
theorem resolve?_eq_some_iff :
    resolve? loaded reference = some c ↔
      ∃ r : Reading reference.toList, r.className = c ∧ c ∈ loaded ∧
        ∀ s : Reading reference.toList, s.Before r.members r.nested → s.className ∉ loaded := by
  rw [resolve?, findSome?_flatMap, findSome?_eq_some_iff_getElem?]
  simp only [getElem?_shortenings, findSome?_spellings_eq_some_iff,
    findSome?_spellings_eq_none_iff]
  constructor
  · rintro ⟨members, kept, shortened, ⟨nested, text, respelled, ⟨named, mem⟩, plainer⟩, longer⟩
    refine ⟨⟨members, nested, kept, text, shortened, respelled⟩, named, mem, ?_⟩
    rintro s (fewer | ⟨same, fewer⟩)
    · exact longer s.members s.kept fewer s.shortened s.nested s.text s.respelled
    · have own : s.kept = kept := by
        have first := getElem?_shortenings.mpr s.shortened
        rw [same, getElem?_shortenings.mpr shortened] at first
        exact (Option.some.inj first).symm
      exact plainer s.nested s.text fewer (own ▸ s.respelled)
  · rintro ⟨r, named, mem, first⟩
    refine ⟨r.members, r.kept, r.shortened, ⟨r.nested, r.text, r.respelled, ⟨named, mem⟩, ?_⟩, ?_⟩
    · intro nested text fewer respelled
      exact first ⟨r.members, nested, r.kept, text, r.shortened, respelled⟩ (.inr ⟨rfl, fewer⟩)
    · intro members kept fewer shortened nested text respelled
      exact first ⟨members, nested, kept, text, shortened, respelled⟩ (.inl fewer)

/-- A reference is not resolved exactly if none of its readings is loaded. -/
theorem resolve?_eq_none_iff :
    resolve? loaded reference = none ↔
      ∀ r : Reading reference.toList, r.className ∉ loaded := by
  rw [resolve?, findSome?_flatMap, List.findSome?_eq_none_iff]
  simp only [findSome?_spellings_eq_none_iff]
  constructor
  · intro none r
    exact none r.kept (List.mem_of_getElem? (getElem?_shortenings.mpr r.shortened)) r.nested r.text
      r.respelled
  · intro none kept mem nested text respelled
    obtain ⟨members, shortened⟩ := List.mem_iff_getElem?.mp mem
    exact none ⟨members, nested, kept, text, getElem?_shortenings.mp shortened, respelled⟩

theorem Respelled.length_eq (h : Respelled n name text) : text.length = name.length := by
  obtain ⟨front, back, rfl, -, rfl⟩ := h
  simp [replaceChar]

theorem Respelled.dots (h : Respelled n name text) : text.count '.' + n = name.count '.' := by
  obtain ⟨front, back, rfl, rfl, rfl⟩ := h
  have none : (replaceChar '.' '$' back).count '.' = 0 := by
    refine List.count_eq_zero.mpr fun mem => ?_
    obtain ⟨c, -, eq⟩ := List.mem_map.mp mem
    split at eq
    · cases eq
    · contradiction
  rw [List.count_append, List.count_append, none, Nat.add_zero]

theorem Shortened.dots (h : Shortened n name kept) : kept.count '.' + n = name.count '.' := by
  obtain ⟨rest, rfl, rfl, -⟩ := h
  rw [List.count_append]

theorem length_shortenings (name : List Char) :
    (shortenings name).length = name.count '.' + 1 := by
  induction name using lastDot_induction with
  | plain name free => rw [shortenings_of_notMem free, List.count_eq_zero.mpr free]; rfl
  | dotted before after last ih _ =>
    rw [shortenings_append last, List.length_cons, ih]
    simp [List.count_append, List.count_eq_zero.mpr last]

theorem length_spellings (name : List Char) : (spellings name).length = name.count '.' + 1 := by
  induction name using lastDot_induction with
  | plain name free => rw [spellings_of_notMem free, List.count_eq_zero.mpr free]; rfl
  | dotted before after last _ ih =>
    rw [spellings_append last, List.length_cons, ih]
    simp [List.count_append, List.count_eq_zero.mpr last]

/-- Every dot either goes with a part that is left off, is written as `$`, or stays. -/
theorem Reading.dots {reference : List Char} (r : Reading reference) :
    r.text.count '.' + r.nested + r.members = reference.count '.' := by
  rw [r.respelled.dots, r.shortened.dots]

theorem exists_reading_iff {reference : List Char} {members nested : Nat} :
    (∃ r : Reading reference, r.members = members ∧ r.nested = nested) ↔
      members + nested ≤ reference.count '.' := by
  constructor
  · rintro ⟨r, rfl, rfl⟩
    have dots := r.dots
    omega
  · intro few
    have bound : members < (shortenings reference).length := by
      rw [length_shortenings]
      omega
    have shortened := getElem?_shortenings.mp (List.getElem?_eq_getElem bound)
    have bound' : nested < (spellings (shortenings reference)[members]).length := by
      rw [length_spellings]
      have dots := shortened.dots
      omega
    exact ⟨⟨members, nested, _, _, shortened,
      getElem?_spellings.mp (List.getElem?_eq_getElem bound')⟩, rfl, rfl⟩

/-- The name of a class inside others: that of the outermost one, and every further name after a
`$`. -/
def binaryName (outer : List Char) (inner : List (List Char)) : List Char :=
  outer ++ inner.flatMap ('$' :: ·)

variable {outer : List Char} {inner members names : List (List Char)}

theorem count_names (plain : ∀ name ∈ names, '.' ∉ name) :
    (names.flatMap ('.' :: ·)).count '.' = names.length := by
  induction names with
  | nil => rfl
  | cons name names ih =>
    rw [List.forall_mem_cons] at plain
    simp [List.count_append, List.count_eq_zero.mpr plain.1, ih plain.2]

theorem shortened_members (plain : ∀ name ∈ members, '.' ∉ name) :
    Shortened members.length (spell (outer :: inner ++ members)) (spell (outer :: inner)) := by
  refine ⟨members.flatMap ('.' :: ·), by simp [spell], count_names plain, ?_⟩
  cases members <;> simp

theorem respelled_nested (plain : ∀ name ∈ inner, '.' ∉ name) :
    Respelled inner.length (spell (outer :: inner)) (binaryName outer inner) := by
  refine ⟨outer, inner.flatMap ('.' :: ·), rfl, count_names plain, ?_⟩
  rw [binaryName]
  congr 1
  induction inner with
  | nil => rfl
  | cons name inner ih =>
    rw [List.forall_mem_cons] at plain
    have here : replaceChar '.' '$' ('.' :: name) = '$' :: name :=
      congrArg ('$' :: ·) (replaceChar_of_notMem plain.1)
    rw [List.flatMap_cons, List.flatMap_cons, replaceChar_append, here, ih plain.2]

/-- The readings of a reference leave off some of its parts and write some of the dots of what they
keep as `$`, in every way in which there are enough dots. The reference is resolved to the first of
them that is loaded, and is not resolved if none is. So a member of a nested class, written with
dots, is resolved to that class unless an earlier reading is loaded. -/
theorem resolved_to_first (loaded : List ClassName) (reference : String) :
    (∀ members nested, (∃ r : Reading reference.toList, r.members = members ∧ r.nested = nested) ↔
      members + nested ≤ reference.toList.count '.') ∧
    (∀ c, resolve? loaded reference = some c ↔
      ∃ r : Reading reference.toList, r.className = c ∧ c ∈ loaded ∧
        ∀ s : Reading reference.toList, s.Before r.members r.nested → s.className ∉ loaded) ∧
    (resolve? loaded reference = none ↔
      ∀ r : Reading reference.toList, r.className ∉ loaded) ∧
    ∀ (outer : List Char) (inner members : List (List Char)),
      (∀ name ∈ inner ++ members, '.' ∉ name) → reference = dotted (outer :: inner ++ members) →
      ⟨String.ofList (binaryName outer inner)⟩ ∈ loaded →
      (∀ s : Reading reference.toList, s.Before members.length inner.length →
        s.className ∉ loaded) →
      resolve? loaded reference = some ⟨String.ofList (binaryName outer inner)⟩ := by
  refine ⟨fun _ _ => exists_reading_iff, fun _ => resolve?_eq_some_iff, resolve?_eq_none_iff, ?_⟩
  rintro outer inner members plain rfl mem first
  rw [List.forall_mem_append] at plain
  rw [toList_dotted] at first
  refine resolve?_eq_some_iff.mpr ?_
  rw [toList_dotted]
  exact ⟨⟨members.length, inner.length, _, _, shortened_members plain.2, respelled_nested plain.1⟩,
    rfl, mem, first⟩

/-- A member of a class at depth two, where the classes around it are loaded too. -/
theorem resolved_to_first_nested :
    let loaded : List ClassName := [⟨"p.A"⟩, ⟨"p.A$B"⟩, ⟨"p.A$B$C"⟩]
    (∀ s : Reading "p.A.B.C.max".toList, s.Before 1 2 → s.className ∉ loaded) ∧
      resolve? loaded "p.A.B.C.max" = some ⟨"p.A$B$C"⟩ := by
  intro loaded
  have first (s : Reading "p.A.B.C.max".toList) (before : s.Before 1 2) : s.className ∉ loaded := by
    intro mem
    rcases before with fewer | ⟨same, fewer⟩
    · have whole : s.kept = "p.A.B.C.max".toList :=
        shortened_zero.mp ((show s.members = 0 by omega) ▸ s.shortened)
      have long : s.className.text.length = 11 := by
        rw [Reading.className, String.length_ofList, s.respelled.length_eq, whole]
        decide
      have short : ∀ c ∈ loaded, c.text.length ≠ 11 := by decide
      exact short _ mem long
    · have dots := s.dots
      have all : "p.A.B.C.max".toList.count '.' = 4 := by decide
      have many : 2 ≤ s.className.text.toList.count '.' := by
        rw [Reading.className, String.toList_ofList]
        omega
      have few : ∀ c ∈ loaded, ¬2 ≤ c.text.toList.count '.' := by decide
      exact few _ mem many
  refine ⟨first, ?_⟩
  obtain ⟨-, -, -, nested⟩ := resolved_to_first loaded "p.A.B.C.max"
  exact nested ['p', '.', 'A'] [['B'], ['C']] [['m', 'a', 'x']] (by decide) (by decide) (by decide)
    first

end ClassSwap.Dependencies
