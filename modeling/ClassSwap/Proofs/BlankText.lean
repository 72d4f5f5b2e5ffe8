import ClassSwap.Blank
import Mathlib.Data.List.TakeWhile

namespace ClassSwap

variable {text core : List Char} {c : Char}

/-- `core` is a text without the white space at its ends. -/
structure Bares (text core : List Char) : Prop where
  around : ∃ before after, text = before ++ core ++ after ∧ ∀ c ∈ before ++ after, isBlank c = true
  first : ∀ c ∈ core.head?, isBlank c = false
  last : ∀ c ∈ core.getLast?, isBlank c = false

theorem isBlank_head?_dropWhile (first : c ∈ (text.dropWhile isBlank).head?) :
    isBlank c = false := by
  have stopped := List.head?_dropWhile_not isBlank text
  rwa [Option.mem_def.mp first] at stopped

theorem bares_trimBlank (text : List Char) : Bares text (trimBlank text) := by
  have front := List.takeWhile_append_dropWhile (p := isBlank) (l := text)
  have back : trimBlank text ++ ((text.dropWhile isBlank).reverse.takeWhile isBlank).reverse =
      text.dropWhile isBlank := by
    rw [trimBlank, ← List.reverse_append, List.takeWhile_append_dropWhile, List.reverse_reverse]
  refine ⟨⟨text.takeWhile isBlank, _, by rw [List.append_assoc, back, front], fun c mem => ?_⟩,
    fun c first => ?_, fun c last => ?_⟩
  · rcases List.mem_append.mp mem with mem | mem
    · exact List.mem_takeWhile_imp mem
    · exact List.mem_takeWhile_imp (List.mem_reverse.mp mem)
  · have kept : c ∈ (text.dropWhile isBlank).head? := by
      rw [← back, List.head?_append, Option.mem_def.mp first]
      rfl
    exact isBlank_head?_dropWhile kept
  · rw [trimBlank, List.getLast?_reverse] at last
    exact isBlank_head?_dropWhile last

/-- Nothing remains exactly of a text that is all white space. -/
theorem Bares.eq_nil_iff (h : Bares text core) : core = [] ↔ ∀ c ∈ text, isBlank c = true := by
  obtain ⟨⟨before, after, rfl, blank⟩, first, -⟩ := h
  constructor
  · rintro rfl
    rwa [List.append_nil]
  · intro all
    cases core with
    | nil => rfl
    | cons c core =>
      have here := all c (by simp)
      rw [first c rfl] at here
      cases here

/-- A text without white space remains as it is. -/
theorem Bares.eq_self (h : Bares text core) (plain : ∀ c ∈ text, isBlank c = false) :
    core = text := by
  obtain ⟨⟨before, after, rfl, blank⟩, -, -⟩ := h
  have none : before ++ after = [] := by
    refine List.eq_nil_iff_forall_not_mem.mpr fun c mem => ?_
    have inside : c ∈ before ++ core ++ after := by
      rcases List.mem_append.mp mem with mem | mem <;> simp [mem]
    have blank := blank c mem
    rw [plain c inside] at blank
    cases blank
  obtain ⟨rfl, rfl⟩ := List.append_eq_nil_iff.mp none
  rw [List.nil_append, List.append_nil]

end ClassSwap
