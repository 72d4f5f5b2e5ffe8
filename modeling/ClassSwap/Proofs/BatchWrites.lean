import ClassSwap.Proofs.TreeChanges
import ClassSwap.Save.Batch
import Mathlib.Data.List.Basic
import Mathlib.Data.List.Induction

namespace ClassSwap

open FileTree (Around Grows Limits placeOfText)

namespace SaveReport

/-- A report counts what has been saved, and has the path of the last of it. -/
theorem foldl_add (results : List SaveResult) (total : Nat) :
    results.foldl add (start total) =
      ⟨(results.filter SaveResult.isSaved).length, total,
        (results.filter SaveResult.isSaved).getLast?.map (·.path), results⟩ := by
  induction results using List.reverseRecOn with
  | nil => rfl
  | append_singleton results r ih =>
    rw [List.foldl_concat, ih, List.filter_append]
    cases saved : r.isSaved <;> simp [add, saved]

theorem outcome_foldl_add (results : List SaveResult) :
    let report := results.foldl add (start results.length)
    (report.outcome = .noneSaved ↔ ∀ r ∈ results, ¬r.isSaved) ∧
      (report.outcome = .allSaved ↔ results ≠ [] ∧ ∀ r ∈ results, r.isSaved) ∧
      (report.outcome = .partiallySaved ↔
        (∃ r ∈ results, r.isSaved) ∧ ∃ r ∈ results, ¬r.isSaved) := by
  have none_ : (results.filter SaveResult.isSaved).length = 0 ↔ ∀ r ∈ results, ¬r.isSaved := by
    rw [List.length_eq_zero_iff, List.filter_eq_nil_iff]
  have all_ : (results.filter SaveResult.isSaved).length = results.length ↔
      ∀ r ∈ results, r.isSaved := List.length_filter_eq_length_iff
  simp only [outcome, foldl_add, none_, all_]
  by_cases no : ∀ r ∈ results, ¬r.isSaved
  · rw [if_pos no]
    refine ⟨iff_of_true rfl no, iff_of_false nofun fun ⟨some_, all⟩ => ?_,
      iff_of_false nofun fun ⟨⟨r, mem, saved⟩, _⟩ => no r mem saved⟩
    obtain ⟨r, mem⟩ := List.exists_mem_of_ne_nil results some_
    exact no r mem (all r mem)
  · obtain ⟨r, mem, saved⟩ : ∃ r ∈ results, r.isSaved := by simpa using no
    rw [if_neg no]
    split
    next all =>
      exact ⟨iff_of_false nofun no, iff_of_true rfl ⟨List.ne_nil_of_mem mem, all⟩,
        iff_of_false nofun fun ⟨_, s, mem', failed⟩ => failed (all s mem')⟩
    next some_ =>
      exact ⟨iff_of_false nofun no, iff_of_false nofun fun ⟨_, all⟩ => some_ all,
        iff_of_true rfl ⟨⟨r, mem, saved⟩, by simpa using some_⟩⟩

end SaveReport

namespace FileTree

variable {dirs files : Place → Prop} {before after : FileTree} {q : Place}

/-- A place is as it was, or a directory has been made there. -/
def Spared (dirs : Place → Prop) (before after : FileTree) (q : Place) : Prop :=
  after.find? q = before.find? q ∨
    before.find? q = none ∧ after.find? q = some .directory ∧ dirs q

theorem Grows.spared (grown : Grows dirs files before after) (other : ¬files q) :
    Spared dirs before after q := by
  rcases grown.entry_cases q with same | ⟨made, allowed⟩ | ⟨_, _, _, written⟩
  · exact .inl same
  · cases found : before.find? q with
    | none => exact .inr ⟨found, made, allowed⟩
    | some entry =>
      cases entry with
      | directory => exact .inl (made.trans found.symm)
      | file =>
        rw [(grown.file_iff other).mpr found] at made
        cases made
  · exact absurd written other

end FileTree

namespace Save

variable {here q : Place} {path : String} {item : Item} {items : List Item} {tree : FileTree}
  {pathOf : ClassName → String} {content : Bytes} {attempts : List (Item × SaveResult)}
  {a : Item × SaveResult}

def savedAt (here q : Place) (a : Item × SaveResult) : Option Bytes :=
  if a.2.isSaved ∧ placeOfText here a.2.path = q then some a.1.content else none

/-- The bytes of the last item that was saved at a place. -/
def lastSaved (here q : Place) (attempts : List (Item × SaveResult)) : Option Bytes :=
  (attempts.filterMap (savedAt here q)).getLast?

theorem lastSaved_cons (here q : Place) (a : Item × SaveResult)
    (attempts : List (Item × SaveResult)) :
    lastSaved here q (a :: attempts) = (lastSaved here q attempts).or (savedAt here q a) := by
  rw [lastSaved, lastSaved, List.filterMap_cons]
  cases savedAt here q a with
  | none => rw [Option.or_none]
  | some content => rw [List.getLast?_cons]; cases (attempts.filterMap _).getLast? <;> rfl

theorem savedAt_eq_some : savedAt here q a = some content ↔
    (a.2.isSaved ∧ placeOfText here a.2.path = q) ∧ a.1.content = content := by
  simp [savedAt]

theorem lastSaved_of_saved {r : SaveResult} (mem : r ∈ attempts.map (·.2)) (saved : r.isSaved) :
    ∃ content, lastSaved here (placeOfText here r.path) attempts = some content := by
  obtain ⟨a, among, rfl⟩ := List.mem_map.mp mem
  have own : savedAt here (placeOfText here a.2.path) a = some a.1.content :=
    savedAt_eq_some.mpr ⟨⟨saved, rfl⟩, rfl⟩
  rw [← Option.isSome_iff_exists, lastSaved, List.getLast?_isSome]
  exact List.ne_nil_of_mem (List.mem_filterMap.mpr ⟨a, among, own⟩)

section

variable [Limits]

theorem writeOne_eq (tree : FileTree) (here : Place) (path : String) (item : Item) :
    (writeOne tree here path item).1 = (tree.writeWithParents here path item.content).1 ∧
      (writeOne tree here path item).2.className = item.className ∧
      (writeOne tree here path item).2.path = path ∧
      ((writeOne tree here path item).2.isSaved ↔
        (tree.writeWithParents here path item.content).2 = .ok ()) := by
  unfold writeOne
  split
  next done => simp [done, SaveResult.isSaved]
  next failed => simp [failed, SaveResult.isSaved]

theorem savedAt_writeOne : savedAt here q (item, (writeOne tree here path item).2) = some content ↔
    ((tree.writeWithParents here path item.content).2 = .ok () ∧ q = placeOfText here path) ∧
      item.content = content := by
  obtain ⟨-, -, own, saved⟩ := writeOne_eq tree here path item
  rw [savedAt_eq_some, saved, own, eq_comm (a := q)]

/-- An item changes the file at its place if it is saved, and no file if it is not. -/
theorem writeOne_grows (tree : FileTree) (here : Place) (path : String) (item : Item) :
    Grows (Around here path)
      (fun q => savedAt here q (item, (writeOne tree here path item).2) ≠ none) tree
      (writeOne tree here path item).1 := by
  rw [(writeOne_eq tree here path item).1]
  refine (FileTree.writeWithParents_around tree here path item.content).weaken
    (fun _ around _ => around) fun q own _ => ?_
  rw [savedAt_writeOne.mpr ⟨own, rfl⟩]
  exact Option.some_ne_none _

theorem writeOne_saved (saved : (writeOne tree here path item).2.isSaved) :
    (writeOne tree here path item).1.locate here path = .ok ⟨placeOfText here path, false⟩ ∧
      ∃ executable, (writeOne tree here path item).1.find? (placeOfText here path) =
        some (.file item.content executable) := by
  obtain ⟨eq, -, -, done⟩ := writeOne_eq tree here path item
  rw [eq]
  exact FileTree.writeWithParents_ok (Prod.ext rfl (done.mp saved))

theorem writeEach_cons (tree : FileTree) (here : Place) (pathOf : ClassName → String) (item : Item)
    (items : List Item) :
    writeEach tree here pathOf (item :: items) =
      ((writeEach (writeOne tree here (pathOf item.className) item).1 here pathOf items).1,
        (writeOne tree here (pathOf item.className) item).2 ::
          (writeEach (writeOne tree here (pathOf item.className) item).1 here pathOf items).2) :=
  rfl

theorem results_writeEach (tree : FileTree) (here : Place) (pathOf : ClassName → String)
    (items : List Item) :
    (writeEach tree here pathOf items).2.map (fun r => (r.className, r.path)) =
      items.map fun item => (item.className, pathOf item.className) := by
  induction items generalizing tree with
  | nil => rfl
  | cons item items ih =>
    obtain ⟨-, own, path, -⟩ := writeOne_eq tree here (pathOf item.className) item
    rw [writeEach_cons, List.map_cons, List.map_cons, ih, own, path]

/-- Every item is attempted at its own path, whatever has become of those before it. -/
theorem attempt_writeEach (tree : FileTree) (here : Place) (pathOf : ClassName → String)
    (front : List Item) (item : Item) (back : List Item) :
    (writeEach tree here pathOf (front ++ item :: back)).2[front.length]? =
      some (writeOne (writeEach tree here pathOf front).1 here (pathOf item.className) item).2 := by
  induction front generalizing tree with
  | nil => rfl
  | cons first front ih =>
    rw [List.cons_append, writeEach_cons, List.length_cons, List.getElem?_cons_succ, ih]
    rfl

/-- All that a batch does is done on the way to its paths and where items are saved. -/
theorem writeEach_grows (tree : FileTree) (here : Place) (pathOf : ClassName → String)
    (items : List Item) :
    Grows (fun q => ∃ item ∈ items, Around here (pathOf item.className) q)
      (fun q => lastSaved here q (items.zip (writeEach tree here pathOf items).2) ≠ none) tree
      (writeEach tree here pathOf items).1 := by
  induction items generalizing tree with
  | nil => exact .start
  | cons item items ih =>
    rw [writeEach_cons, List.zip_cons_cons]
    refine Grows.trans ((writeOne_grows tree here (pathOf item.className) item).weaken
      (fun q around _ => ⟨item, List.mem_cons_self, around⟩) fun q own _ => ?_)
      ((ih (writeOne tree here (pathOf item.className) item).1).weaken (fun q later _ => ?_)
        fun q own _ => ?_)
    · rw [lastSaved_cons, ne_eq, Option.or_eq_none_iff]
      exact fun both => own both.2
    · obtain ⟨other, mem, around⟩ := later
      exact ⟨other, List.mem_cons_of_mem item mem, around⟩
    · rw [lastSaved_cons, ne_eq, Option.or_eq_none_iff]
      exact fun both => own both.1

/-- The last item that was saved at a place is there. -/
theorem writeEach_written
    (last : lastSaved here q (items.zip (writeEach tree here pathOf items).2) = some content) :
    ∃ executable, (writeEach tree here pathOf items).1.find? q =
      some (.file content executable) := by
  induction items generalizing tree with
  | nil => cases last
  | cons item items ih =>
    rw [writeEach_cons, List.zip_cons_cons, lastSaved_cons, Option.or_eq_some_iff] at last
    rw [writeEach_cons]
    rcases last with later | ⟨none_, own⟩
    · exact ih later
    · obtain ⟨⟨done, rfl⟩, rfl⟩ := savedAt_writeOne.mp own
      obtain ⟨-, executable, found⟩ :=
        writeOne_saved ((writeOne_eq tree here (pathOf item.className) item).2.2.2.mpr done)
      exact ⟨executable, ((writeEach_grows _ here pathOf items).file_iff (not_not_intro none_)).mpr
        found⟩

/-- Where an item was saved, its path leads to a file in the end. -/
theorem writeEach_located {r : SaveResult} (mem : r ∈ (writeEach tree here pathOf items).2)
    (saved : r.isSaved) : (writeEach tree here pathOf items).1.locate here r.path =
      .ok ⟨placeOfText here r.path, false⟩ := by
  induction items generalizing tree with
  | nil => cases mem
  | cons item items ih =>
    rw [writeEach_cons] at mem ⊢
    rcases List.mem_cons.mp mem with rfl | later
    · rw [(writeOne_eq tree here (pathOf item.className) item).2.2.1]
      exact (writeEach_grows _ here pathOf items).keeps.locate (writeOne_saved saved).1
    · exact ih later

/-- A batch is accounted for. `items` are written to the paths of their classes. -/
structure Accounted (here : Place) (pathOf : ClassName → String) (items : List Item)
    (before after : FileTree) (report : SaveReport) : Prop where
  results : report.results.map (fun r => (r.className, r.path)) =
    items.map fun item => (item.className, pathOf item.className)
  attempts : ∀ front item back, items = front ++ item :: back →
    report.results[front.length]? = some
      (writeOne (writeEach before here pathOf front).1 here (pathOf item.className) item).2
  total : report.total = items.length
  saved : report.saved = (report.results.filter (·.isSaved)).length
  lastPath : report.lastPath = (report.results.filter (·.isSaved)).getLast?.map (·.path)
  noneSaved : report.outcome = .noneSaved ↔ ∀ r ∈ report.results, ¬r.isSaved
  allSaved : report.outcome = .allSaved ↔ items ≠ [] ∧ ∀ r ∈ report.results, r.isSaved
  partiallySaved : report.outcome = .partiallySaved ↔
    (∃ r ∈ report.results, r.isSaved) ∧ ∃ r ∈ report.results, ¬r.isSaved
  read : ∀ r ∈ report.results, r.isSaved → ∃ content,
    lastSaved here (placeOfText here r.path) (items.zip report.results) = some content ∧
      after.read here r.path = .ok content
  spared : ∀ q, lastSaved here q (items.zip report.results) = none →
    FileTree.Spared (fun q => ∃ item ∈ items, Around here (pathOf item.className) q) before after q

theorem accounted_writeEach (tree : FileTree) (here : Place) (pathOf : ClassName → String)
    (items : List Item) :
    Accounted here pathOf items tree (writeEach tree here pathOf items).1
      ((writeEach tree here pathOf items).2.foldl SaveReport.add (.start items.length)) := by
  have results := results_writeEach tree here pathOf items
  have length : (writeEach tree here pathOf items).2.length = items.length := by
    simpa using congrArg List.length results
  have outcomes := SaveReport.outcome_foldl_add (writeEach tree here pathOf items).2
  rw [length] at outcomes
  obtain ⟨noneSaved, allSaved, partiallySaved⟩ := outcomes
  rw [SaveReport.foldl_add] at noneSaved allSaved partiallySaved ⊢
  refine ⟨results, ?_, rfl, rfl, rfl, noneSaved, ?_, partiallySaved, fun r mem saved => ?_,
    fun q none_ => (writeEach_grows tree here pathOf items).spared (not_not_intro none_)⟩
  · rintro front item back rfl
    exact attempt_writeEach tree here pathOf front item back
  · rw [allSaved, ne_eq, ne_eq, ← List.length_eq_zero_iff, length, List.length_eq_zero_iff]
  · have among : r ∈ (items.zip (writeEach tree here pathOf items).2).map (·.2) := by
      rw [List.map_snd_zip (Nat.le_of_eq length)]
      exact mem
    obtain ⟨content, last⟩ := lastSaved_of_saved among saved
    obtain ⟨executable, found⟩ := writeEach_written last
    exact ⟨content, last, FileTree.read_eq_ok (writeEach_located mem saved) found⟩

/-- A batch is refused exactly if it has several items for one file, and then nothing is touched;
otherwise it is accounted for. -/
structure Settles (here : Place) (base : String) (strategy : Naming) (suffix : String)
    (items : List Item) (before : FileTree) (run : FileTree × Except AmbiguousTarget SaveReport) :
    Prop where
  refused : ∀ e, run.2 = .error e ↔ (strategy = .custom ∧ 1 < items.length) ∧ e = ⟨items.length⟩
  untouched : ∀ e, run.2 = .error e → run.1 = before
  accounted : ∀ report, run.2 = .ok report →
    Accounted here (fun c => strategy.resolve base c suffix) items before run.1 report

theorem settles_writeAll (tree : FileTree) (here : Place) (base : String) (strategy : Naming)
    (suffix : String) (items : List Item) :
    Settles here base strategy suffix items tree
      (writeAll tree here base strategy suffix items) := by
  by_cases refused : strategy = .custom ∧ 1 < items.length
  · rw [writeAll, if_pos refused]
    exact ⟨fun e => by simp [refused, eq_comm], fun _ _ => rfl, nofun⟩
  · rw [writeAll, if_neg refused]
    refine ⟨fun e => by simp [refused], nofun, fun report made => ?_⟩
    cases made
    exact accounted_writeEach tree here _ items

end

end Save

end ClassSwap
