import ClassSwap.Compile.Outcome
import ClassSwap.Log

namespace ClassSwap

inductive CompilerEnd where
  | returned (result : Except CompileError (List ClassFile))
  /-- It broke down, with a text if there is one. -/
  | collapsed (text : Option String)

/-- Something that a compiler does while it is listened to. It may hand out copies of the pen that
it writes with. -/
inductive Utterance where
  | line (text : String) (pen : Nat := 0)
  | event (e : LogEvent)
  /-- The last pen is put down, so no more lines will come. -/
  | hushed
  deriving DecidableEq, Repr

inductive Report where
  | diagnostic (line : String)
  | finished (outcome : CompileOutcome)
  | event (e : LogEvent)

/-- What happens next. -/
inductive Turn where
  | uttered (u : Utterance)
  | ended (ending : CompilerEnd)
  | look

inductive Attention where
  | lines
  /-- There was no line: whether the compiler has come to its end. A listener that knows that no
  more lines will come does not look for them again. -/
  | ending (hushed : Bool)
  /-- The compiler has come to its end: what is left in the queue. -/
  | rest (ending : CompilerEnd)
  | done (ending : CompilerEnd)

structure Listening where
  unheard : List String := []
  isHushed : Bool := false
  /-- The end the compiler has come to. -/
  ending : Option CompilerEnd := none
  attention : Attention := .lines
  log : List String := []
  /-- What has been passed on, and what has been reported meanwhile. -/
  reports : List Report := []

namespace Listening

/-- The end that the listener has taken notice of, once it is done. -/
def noticed? (s : Listening) : Option CompilerEnd :=
  match s.attention with
  | .done ending => some ending
  | _ => none

/-- The listener takes a line from the queue, passes it on and keeps it. -/
def hear (s : Listening) (text : String) (unheard : List String) : Listening :=
  { s with unheard, log := s.log ++ [text], reports := s.reports ++ [.diagnostic text] }

def look (s : Listening) : Listening :=
  match s.attention, s.unheard with
  | .lines, text :: rest => s.hear text rest
  | .lines, [] => { s with attention := .ending s.isHushed }
  | .ending hushed, _ =>
    match s.ending with
    | some ending => { s with attention := .rest ending }
    | none => if hushed then s else { s with attention := .lines }
  | .rest _, text :: rest => s.hear text rest
  | .rest ending, [] => { s with attention := .done ending }
  | .done _, _ => s

def utter (s : Listening) : Utterance → Listening
  | .line text _ => { s with unheard := s.unheard ++ [text] }
  | .event e => { s with reports := s.reports ++ [.event e] }
  | .hushed => { s with isHushed := true }

/-- Nothing matters any more once the listener is done. -/
def turn (s : Listening) (t : Turn) : Listening :=
  if s.noticed?.isSome then s
  else
    match t with
    | .uttered u => s.utter u
    | .ended ending => { s with ending := some ending }
    | .look => s.look

def follow (s : Listening) (turns : List Turn) : Listening := turns.foldl turn s

/-- How many looks there are before the listener is done, if the compiler does nothing more. -/
def remaining (s : Listening) : Nat :=
  match s.attention with
  | .lines => s.unheard.length + 3
  | .ending _ => s.unheard.length + 2
  | .rest _ => s.unheard.length + 1
  | .done _ => 0

def close (s : Listening) : Listening := s.follow (List.replicate s.remaining .look)

end Listening

/-- How often the listener looks before each thing that the compiler does. -/
abbrev Pace := Nat → Nat

namespace Pace

def prompt : Pace := fun _ => 2

/-- What the compiler does from its `n`-th deed on, with the looks of the listener in between. -/
def turns (pace : Pace) (n : Nat) : List Turn → List Turn
  | [] => []
  | deed :: rest => List.replicate (pace n) .look ++ deed :: turns pace (n + 1) rest

end Pace

namespace Listening

/-- Follows a compiler: what it does up to its end, the end, and what others still write with its
pens after that. -/
def attend (pace : Pace) (utterances : List Utterance) (ending : CompilerEnd)
    (belated : List Utterance) : Listening :=
  (follow {} (pace.turns 0
    (utterances.map .uttered ++ .ended ending :: belated.map .uttered))).close

inductive Look (s : Listening) : Listening → Prop
  | heard (text : String) (rest : List String) (front : s.unheard = text :: rest)
      (listens : s.attention = .lines ∨ ∃ e, s.attention = .rest e) : Look s (s.hear text rest)
  | silence (empty : s.unheard = []) (listens : s.attention = .lines) :
      Look s { s with attention := .ending s.isHushed }
  | unended (working : s.ending = none) (watches : s.attention = .ending false) :
      Look s { s with attention := .lines }
  | noticed (ending : CompilerEnd) (hushed : Bool) (ended : s.ending = some ending)
      (watches : s.attention = .ending hushed) : Look s { s with attention := .rest ending }
  | finished (ending : CompilerEnd) (empty : s.unheard = []) (drains : s.attention = .rest ending) :
      Look s { s with attention := .done ending }
  | waits (working : s.ending = none) (watches : s.attention = .ending true) : Look s s
  | rests (ending : CompilerEnd) (done : s.attention = .done ending) : Look s s

variable {s : Listening} {ending : CompilerEnd}

theorem look_cases (s : Listening) : Look s s.look := by
  unfold look
  split
  next text rest listens front => exact .heard text rest front (.inl listens)
  next listens empty => exact .silence empty listens
  next _ hushed watches =>
    split
    next ending ended => exact .noticed ending hushed ended watches
    next working =>
      cases hushed with
      | true => exact .waits working watches
      | false => exact .unended working watches
  next ending text rest drains front => exact .heard text rest front (.inr ⟨ending, drains⟩)
  next ending drains empty => exact .finished ending empty drains
  next _ ending done => exact .rests ending done

/-- What all cases of a look have in common holds after it. -/
theorem look_induction {P : Listening → Prop} (each : ∀ after, Look s after → P after) :
    P s.look := each _ (look_cases s)

theorem noticed?_eq_some : s.noticed? = some ending ↔ s.attention = .done ending := by
  unfold noticed?
  split <;> simp_all

theorem turn_look (s : Listening) : s.turn .look = s.look := by
  unfold turn
  split
  next closed =>
    obtain ⟨ending, noticed⟩ := Option.isSome_iff_exists.mp closed
    simp only [look, noticed?_eq_some.mp noticed]
  next => rfl

theorem follow_append (s : Listening) (turns more : List Turn) :
    s.follow (turns ++ more) = (s.follow turns).follow more := List.foldl_append

/-- The listener knows of no end but the one that the compiler comes to. -/
structure Awaits (ending : CompilerEnd) (s : Listening) : Prop where
  only : ∀ e, s.ending = some e → e = ending
  rest : ∀ e, s.attention = .rest e → s.ending = some e
  done : ∀ e, s.attention = .done e → s.ending = some e

theorem Awaits.look (h : Awaits ending s) : Awaits ending s.look := by
  refine look_induction fun after came => ?_
  cases came with
  | heard | waits | rests => exact ⟨h.only, h.rest, h.done⟩
  | silence | unended =>
    exact ⟨h.only, fun _ known => by simp at known, fun _ known => by simp at known⟩
  | noticed e hushed ended =>
    refine ⟨h.only, fun _ known => ?_, fun _ known => by simp at known⟩
    cases known
    exact ended
  | finished e _ drains =>
    refine ⟨h.only, fun _ known => by simp at known, fun _ known => ?_⟩
    cases known
    exact h.rest e drains

theorem ending_look (s : Listening) : s.look.ending = s.ending := by
  refine look_induction (P := fun after => after.ending = s.ending) fun _ came => ?_
  cases came <;> rfl

theorem ending_utter (s : Listening) (u : Utterance) : (s.utter u).ending = s.ending := by
  cases u <;> rfl

theorem attention_utter (s : Listening) (u : Utterance) : (s.utter u).attention = s.attention := by
  cases u <;> rfl

theorem Awaits.turn (h : Awaits ending s) (t : Turn) (only : ∀ e, t = .ended e → e = ending) :
    Awaits ending (s.turn t) := by
  unfold Listening.turn
  split
  next => exact h
  next =>
    cases t with
    | look => exact h.look
    | uttered u =>
      exact ⟨by simpa only [ending_utter] using h.only,
        by simpa only [ending_utter, attention_utter] using h.rest,
        by simpa only [ending_utter, attention_utter] using h.done⟩
    | ended e =>
      obtain rfl := only e rfl
      refine ⟨fun _ known => (Option.some.inj known).symm, fun e' known => ?_, fun e' known => ?_⟩
      · rw [h.only e' (h.rest e' known)]
      · rw [h.only e' (h.done e' known)]

theorem Awaits.follow {turns : List Turn} (h : Awaits ending s)
    (only : ∀ e, .ended e ∈ turns → e = ending) : Awaits ending (s.follow turns) := by
  induction turns generalizing s with
  | nil => exact h
  | cons t rest ih =>
    exact ih (h.turn t fun e same => only e (same ▸ List.mem_cons_self))
      fun e later => only e (List.mem_cons_of_mem t later)

theorem Awaits.ending_turn (h : Awaits ending s) (t : Turn)
    (came : s.ending = some ending ∨ t = .ended ending) (only : ∀ e, t = .ended e → e = ending) :
    (s.turn t).ending = some ending := by
  unfold Listening.turn
  split
  next closed =>
    obtain ⟨e, noticed⟩ := Option.isSome_iff_exists.mp closed
    have known := h.done e (noticed?_eq_some.mp noticed)
    rw [known, h.only e known]
  next =>
    cases t with
    | look => simpa [ending_look] using came
    | uttered u => simpa [ending_utter] using came
    | ended e => rw [only e rfl]

theorem Awaits.ending_follow {turns : List Turn} (h : Awaits ending s)
    (came : s.ending = some ending ∨ .ended ending ∈ turns)
    (only : ∀ e, .ended e ∈ turns → e = ending) : (s.follow turns).ending = some ending := by
  induction turns generalizing s with
  | nil => exact came.resolve_right List.not_mem_nil
  | cons t rest ih =>
    have first : ∀ e, t = .ended e → e = ending := fun e same => only e (same ▸ List.mem_cons_self)
    refine ih (h.turn t first) ?_ fun e later => only e (List.mem_cons_of_mem t later)
    rcases came with came | came
    · exact .inl (h.ending_turn t (.inl came) first)
    · rcases List.mem_cons.mp came with rfl | later
      · exact .inl (h.ending_turn _ (.inr rfl) first)
      · exact .inr later

/-- Once the compiler has come to its end, each look brings the listener closer to being done. -/
theorem remaining_look (ended : s.ending = some ending) (attentive : s.remaining ≠ 0) :
    s.look.remaining < s.remaining := by
  refine look_induction (P := fun after => after.remaining < s.remaining) fun _ came => ?_
  cases came with
  | heard text rest front listens =>
    rcases listens with listens | ⟨e, listens⟩ <;> simp [remaining, hear, listens, front]
  | silence empty listens => simp [remaining, listens]
  | noticed e hushed _ watches => simp [remaining, watches]
  | finished e empty drains => simp [remaining, drains]
  | unended working | waits working => simp [ended] at working
  | rests e done => simp [remaining, done] at attentive

theorem noticed?_of_remaining (h : Awaits ending s) (spent : s.remaining = 0) :
    s.noticed? = some ending := by
  cases attention : s.attention with
  | done e => rw [noticed?_eq_some, attention, h.only e (h.done e attention)]
  | lines | ending | rest => simp [remaining, attention] at spent

theorem noticed?_looks (n : Nat) (h : Awaits ending s) (ended : s.ending = some ending)
    (enough : s.remaining ≤ n) : (s.follow (List.replicate n .look)).noticed? = some ending := by
  induction n generalizing s with
  | zero => exact noticed?_of_remaining (s := s) h (Nat.le_zero.mp enough)
  | succ n ih =>
    refine ih (turn_look s ▸ h.look) (turn_look s ▸ ending_look s ▸ ended) ?_
    rw [turn_look]
    by_cases attentive : s.remaining = 0
    · have done := noticed?_eq_some.mp (noticed?_of_remaining h attentive)
      simp [look, done, attentive]
    · have := remaining_look ended attentive
      omega

theorem mem_turns {pace : Pace} {deeds : List Turn} {t : Turn} (deed : t ≠ .look) (n : Nat) :
    t ∈ pace.turns n deeds ↔ t ∈ deeds := by
  induction deeds generalizing n with
  | nil => rfl
  | cons first rest ih => simp [Pace.turns, deed, ih]

theorem awaits_start (ending : CompilerEnd) : Awaits ending {} :=
  ⟨fun _ known => by simp at known, fun _ known => by simp at known,
    fun _ known => by simp at known⟩

variable (pace : Pace) (utterances : List Utterance) (ending : CompilerEnd)
  (belated : List Utterance)

theorem only_ending (e : CompilerEnd) (occurs : Turn.ended e ∈ pace.turns 0
    (utterances.map .uttered ++ .ended ending :: belated.map .uttered)) : e = ending := by
  rw [mem_turns (by simp)] at occurs
  simpa using occurs

theorem awaits_attend : Awaits ending (attend pace utterances ending belated) := by
  refine ((awaits_start ending).follow (only_ending pace utterances ending belated)).follow ?_
  simp

/-- The listener always comes to be done, and then knows the end that the compiler has come to. -/
theorem noticed?_attend : (attend pace utterances ending belated).noticed? = some ending := by
  have start := awaits_start ending
  have only := only_ending pace utterances ending belated
  have ended := start.ending_follow (.inr ((mem_turns (by simp) 0).mpr (by simp))) only
  exact noticed?_looks _ (start.follow only) ended (Nat.le_refl _)

end Listening

end ClassSwap
