import ClassSwap.Compile.Output
import ClassSwap.Proofs.BlankText
import ClassSwap.Proofs.TextBoundaries

namespace ClassSwap.CompilerOutput

open Utf8

variable {text other : List Char} {limit room : Nat}

theorem fit_begins (room : Nat) (text : List Char) : fit room text <+: text := by
  induction text generalizing room with
  | nil => exact List.nil_prefix
  | cons c text ih =>
    rw [fit]
    split
    · exact List.cons_prefix_cons.mpr ⟨rfl, ih _⟩
    · exact List.nil_prefix

theorem size_fit_le (room : Nat) (text : List Char) : size (fit room text) ≤ room := by
  induction text generalizing room with
  | nil => exact Nat.zero_le room
  | cons c text ih =>
    rw [fit]
    split
    · have rest := ih (room - c.utf8Size)
      rw [size_cons]
      omega
    · exact Nat.zero_le room

theorem fit_longest (front : other <+: text) (fits : size other ≤ room) :
    other <+: fit room text := by
  induction text generalizing room other with
  | nil => exact front
  | cons c text ih =>
    rcases List.prefix_cons_iff.mp front with rfl | ⟨other, rfl, below⟩
    · exact List.nil_prefix
    · rw [size_cons] at fits
      rw [fit, if_pos (by omega)]
      exact List.cons_prefix_cons.mpr ⟨rfl, ih below (by omega)⟩

/-- Of a text that does not fit less than a character's worth of room is given away. -/
theorem lt_size_fit (long : room < size text) : room < size (fit room text) + 4 := by
  induction text generalizing room with
  | nil => exact absurd long (Nat.not_lt_zero _)
  | cons c text ih =>
    have width := c.utf8Size_le_four
    rw [size_cons] at long
    rw [fit]
    split
    · have rest := @ih (room - c.utf8Size) (by omega)
      rw [size_cons]
      omega
    · omega

/-- `front` is what remains of a text that is cut to `limit` bytes: the longest front of it that
fits, which ends where the search back from the limit ends. -/
structure Cut (limit : Nat) (text front : List Char) : Prop where
  begins : front <+: text
  fits : size front ≤ limit
  longest : ∀ other, other <+: text → size other ≤ limit → other <+: front
  found : lastBoundary? (encode text) limit = some (size front)
  kept : (encode text).take (size front) = encode front

theorem cut_fit (limit : Nat) (text : List Char) : Cut limit text (fit limit text) := by
  have begins := fit_begins limit text
  have fits := size_fit_le limit text
  refine ⟨begins, fits, fun other => fit_longest, ?_, take_encode begins⟩
  refine lastBoundary?_eq_some_iff.mpr ⟨fits, isBoundary_iff.mpr ⟨_, begins, rfl⟩, ?_⟩
  intro later past back
  rw [← Bool.not_eq_true, isBoundary_iff]
  rintro ⟨other, below, rfl⟩
  exact absurd past (Nat.not_lt.mpr (size_mono (fit_longest below back)))

/-- All that a compiler printed, without the white space around it. -/
def printed (stdout stderr : List String) : List Char :=
  trimBlank ("\n".intercalate (stdout ++ stderr)).toList

theorem failureText_cases (stdout stderr : List String) :
    size (printed stdout stderr) = 0 ∧
        failureText stdout stderr = "javac exited with an error and printed nothing" ∨
      (1 ≤ size (printed stdout stderr) ∧ size (printed stdout stderr) ≤ 8192) ∧
        failureText stdout stderr = String.ofList (printed stdout stderr) ∨
      8192 < size (printed stdout stderr) ∧ failureText stdout stderr =
        String.ofList (fit 8192 (printed stdout stderr)) ++ "\n<output truncated>" := by
  have told : failureText stdout stderr =
      if (printed stdout stderr).isEmpty then "javac exited with an error and printed nothing"
      else truncated 8192 (printed stdout stderr) := rfl
  rw [told, truncated]
  split
  next silent => exact .inl ⟨size_eq_zero_iff.mpr (List.isEmpty_iff.mp silent), rfl⟩
  next ink =>
    have some_ : size (printed stdout stderr) ≠ 0 := fun none =>
      ink (List.isEmpty_iff.mpr (size_eq_zero_iff.mp none))
    split
    next short => exact .inr (.inl ⟨⟨by omega, short⟩, rfl⟩)
    next long => exact .inr (.inr ⟨by omega, rfl⟩)

/-- What is told of a failure: a fixed text if nothing was printed, all that was printed if it takes
at most 8192 bytes, and otherwise the longest front of it that fits, with a mark behind it. The
fixed text is told of no other compiler, unless it prints this very text. -/
theorem failure_told (stdout stderr : List String) :
    Bares ("\n".intercalate (stdout ++ stderr)).toList (printed stdout stderr) ∧
    failureText stdout stderr ≠ "" ∧
    (failureText stdout stderr = "javac exited with an error and printed nothing" ↔
      printed stdout stderr = [] ∨
        String.ofList (printed stdout stderr) =
          "javac exited with an error and printed nothing") ∧
    (1 ≤ size (printed stdout stderr) → size (printed stdout stderr) ≤ 8192 →
      failureText stdout stderr = String.ofList (printed stdout stderr)) ∧
    (8192 < size (printed stdout stderr) → ∃ front, Cut 8192 (printed stdout stderr) front ∧
      8189 ≤ size front ∧
      failureText stdout stderr = String.ofList front ++ "\n<output truncated>") := by
  refine ⟨bares_trimBlank _, ?_⟩
  rcases failureText_cases stdout stderr with
    ⟨silent, told⟩ | ⟨⟨some_, short⟩, told⟩ | ⟨long, told⟩
  all_goals rw [told]
  · refine ⟨by decide, iff_of_true rfl (.inl (size_eq_zero_iff.mp silent)), ?_, ?_⟩ <;> omega
  · have ink : printed stdout stderr ≠ [] := mt size_eq_zero_iff.mpr (by omega)
    refine ⟨mt String.ofList_eq_empty_iff.mp ink, ⟨.inr, fun own => own.resolve_left ink⟩,
      fun _ _ => rfl, by omega⟩
  · have wide := lt_size_fit long
    refine ⟨?_, iff_of_false ?_ ?_, by omega,
      fun _ => ⟨_, cut_fit 8192 _, by omega, rfl⟩⟩
    · rw [ne_eq, String.append_eq_empty_iff]
      exact fun none => absurd none.2 (by decide)
    · intro same
      have mark : '\n' ∈ (String.ofList (fit 8192 (printed stdout stderr)) ++
          "\n<output truncated>").toList := by simp
      rw [same] at mark
      exact absurd mark (by decide)
    · rintro (none | own)
      · rw [none] at long
        cases long
      · rw [← String.toList_inj, String.toList_ofList] at own
        rw [own] at long
        exact absurd long (by decide)

/-- A line of characters that take three bytes each, one byte longer than the limit. -/
theorem failure_told_wide :
    let line := List.replicate 2731 '€'
    8192 < size (printed [] [String.ofList line]) ∧
      failureText [] [String.ofList line] =
        String.ofList (List.replicate 2730 '€') ++ "\n<output truncated>" := by
  intro line
  have joined : ("\n".intercalate ([] ++ [String.ofList line])).toList = line := by
    simp
  have plain : ∀ c ∈ line, isBlank c = false := by
    intro c mem
    rw [List.eq_of_mem_replicate mem]
    decide
  obtain ⟨bare, -, -, -, cut⟩ := failure_told [] [String.ofList line]
  rw [joined] at bare
  rw [bare.eq_self plain] at cut ⊢
  have width : ('€').utf8Size = 3 := by decide
  have long : 8192 < size line := by rw [size_replicate, width]; decide
  obtain ⟨front, ⟨begins, fits, longest, -, -⟩, -, told⟩ := cut long
  refine ⟨long, told.trans ?_⟩
  obtain ⟨short, eq⟩ := List.prefix_replicate_iff.mp begins
  have other : List.replicate 2730 '€' <+: line := by
    rw [List.prefix_replicate_iff, List.length_replicate]
    exact ⟨by decide, rfl⟩
  have most := (longest _ other (by rw [size_replicate, width]; decide)).length_le
  rw [List.length_replicate] at most
  rw [eq, size_replicate, width] at fits
  rw [eq, show front.length = 2730 by omega]

end ClassSwap.CompilerOutput
