import ClassSwap.Compile.Pipeline
import ClassSwap.Proofs.NameOrder
import Mathlib.Data.List.Infix

namespace ClassSwap

def Utterance.line? : Utterance → Option (Nat × String)
  | .line text pen => some (pen, text)
  | .event _ => none
  | .hushed => none

def Turn.line? : Turn → Option (Nat × String)
  | .uttered u => u.line?
  | .ended _ => none
  | .look => none

def writtenLines (us : List Utterance) : List (Nat × String) := us.filterMap Utterance.line?

/-- Whether a report goes to those who follow the compilation; events go to the log. -/
def Report.isCall : Report → Bool
  | .diagnostic _ => true
  | .finished _ => true
  | .event _ => false

namespace Listening

variable {s : Listening} {seen turns : List Turn} {ending : CompilerEnd}

def linesOf (turns : List Turn) : List (Nat × String) := turns.filterMap Turn.line?

theorem linesOf_append (turns more : List Turn) :
    linesOf (turns ++ more) = linesOf turns ++ linesOf more := List.filterMap_append

theorem linesOf_prefix (h : seen <+: turns) : linesOf seen <+: linesOf turns := h.filterMap _

/-- What holds of a listener that has attended to these turns. -/
structure Attended (seen : List Turn) (s : Listening) : Prop where
  lines : s.log ++ s.unheard = (linesOf seen).map Prod.snd
  told : s.reports.filter Report.isCall = s.log.map .diagnostic
  drained : s.noticed?.isSome → s.unheard = []
  ended : ∀ e, s.ending = some e → .ended e ∈ seen

theorem Attended.hear {text : String} {rest : List String} (h : Attended seen s)
    (front : s.unheard = text :: rest) (attentive : s.noticed? = none) :
    Attended seen (s.hear text rest) where
  lines := by rw [← h.lines, front]; simp [Listening.hear]
  told := by simp [Listening.hear, h.told, Report.isCall]
  drained closed := by
    have same : (s.hear text rest).noticed? = s.noticed? := rfl
    simp [same, attentive] at closed
  ended := h.ended

/-- Only the queue and what has been heard of it matter to a look that hears nothing. -/
theorem Attended.attend {attention : Attention} (h : Attended seen s)
    (drained : ∀ e, attention = .done e → s.unheard = []) :
    Attended seen { s with attention } where
  lines := h.lines
  told := h.told
  drained closed := by
    obtain ⟨e, done⟩ := Option.isSome_iff_exists.mp closed
    exact drained e (noticed?_eq_some.mp done)
  ended := h.ended

theorem Attended.look (h : Attended seen s) (attentive : s.noticed? = none) :
    Attended seen s.look := by
  refine look_induction fun after came => ?_
  cases came with
  | heard text rest front => exact h.hear front attentive
  | silence | unended | noticed => exact h.attend fun _ done => by simp at done
  | finished e empty => exact h.attend fun _ _ => empty
  | waits | rests => exact h

theorem Attended.mono {t : Turn} (h : Attended seen s) (silent : t.line? = none) :
    Attended (seen ++ [t]) s where
  lines := by rw [linesOf_append, List.map_append, ← h.lines]; simp [linesOf, silent]
  told := h.told
  drained := h.drained
  ended e known := List.mem_append_left _ (h.ended e known)

theorem Attended.utter (h : Attended seen s) (attentive : s.noticed? = none) (u : Utterance) :
    Attended (seen ++ [.uttered u]) (s.utter u) := by
  cases u with
  | hushed =>
    have later := h.mono (t := .uttered .hushed) rfl
    exact ⟨later.lines, later.told, later.drained, later.ended⟩
  | event e =>
    have later := h.mono (t := .uttered (.event e)) rfl
    refine ⟨later.lines, ?_, later.drained, later.ended⟩
    simp [Listening.utter, Report.isCall, h.told]
  | line text pen =>
    refine ⟨?_, h.told, fun closed => ?_, fun e known => List.mem_append_left _ (h.ended e known)⟩
    · rw [linesOf_append, List.map_append, ← h.lines]
      simp [Listening.utter, linesOf, Turn.line?, Utterance.line?]
    · have same : (s.utter (.line text pen)).noticed? = s.noticed? := rfl
      simp [same, attentive] at closed

theorem Attended.turn (h : Attended seen s) (attentive : s.noticed? = none) (t : Turn) :
    Attended (seen ++ [t]) (s.turn t) := by
  unfold Listening.turn
  rw [attentive, if_neg (by simp)]
  cases t with
  | look => exact (h.look attentive).mono rfl
  | uttered u => exact h.utter attentive u
  | ended e =>
    have later := h.mono (t := .ended e) rfl
    refine ⟨later.lines, later.told, later.drained, fun e' known => ?_⟩
    cases known
    exact List.mem_append_right _ (List.mem_singleton_self _)

/-- A listener attends to all that happens, until it is done. -/
theorem follow_attended (turns : List Turn) :
    ∃ seen, seen <+: turns ∧ Attended seen (follow {} turns) ∧
      ((follow {} turns).noticed? = none → seen = turns) := by
  -- by the last turn, since a listener that is done takes no notice of it
  induction turns using List.reverseRecOn with
  | nil =>
    exact ⟨[], List.prefix_rfl, ⟨rfl, rfl, fun _ => rfl, fun _ known => by simp [follow] at known⟩,
      fun _ => rfl⟩
  | append_singleton turns t ih =>
    obtain ⟨seen, before, attended, all⟩ := ih
    rw [follow_append]
    cases noticed : (follow {} turns).noticed? with
    | none =>
      obtain rfl := all noticed
      exact ⟨seen ++ [t], List.prefix_rfl, attended.turn noticed t, fun _ => rfl⟩
    | some e =>
      have rests : (follow {} turns).follow [t] = follow {} turns := by
        change (follow {} turns).turn t = _
        simp [turn, noticed]
      rw [rests]
      refine ⟨seen, before.trans (List.prefix_append _ _), attended, fun none => ?_⟩
      simp [noticed] at none

theorem turns_append (pace : Pace) (n : Nat) (deeds more : List Turn) :
    pace.turns n (deeds ++ more) = pace.turns n deeds ++ pace.turns (n + deeds.length) more := by
  induction deeds generalizing n with
  | nil => rfl
  | cons deed rest ih => simp [Pace.turns, ih, Nat.add_assoc, Nat.add_comm 1]

theorem linesOf_looks (n : Nat) : linesOf (List.replicate n .look) = [] := by
  simp [linesOf, List.filterMap_replicate, Turn.line?]

theorem linesOf_turns (pace : Pace) (n : Nat) (deeds : List Turn) :
    linesOf (pace.turns n deeds) = linesOf deeds := by
  induction deeds generalizing n with
  | nil => rfl
  | cons deed rest ih =>
    rw [Pace.turns, linesOf_append, linesOf_looks, List.nil_append, ← List.singleton_append,
      linesOf_append, ih, ← linesOf_append]
    rfl

theorem linesOf_uttered (us : List Utterance) : linesOf (us.map .uttered) = writtenLines us := by
  simp only [linesOf, writtenLines, List.filterMap_map]
  rfl

variable (pace : Pace) (utterances : List Utterance) (ending : CompilerEnd)
  (belated : List Utterance)

/-- What happens until the compiler's end, and all that happens from then on. -/
theorem attend_eq : ∃ before after,
    attend pace utterances ending belated = follow {} (before ++ .ended ending :: after) ∧
      linesOf before = writtenLines utterances ∧ linesOf after = writtenLines belated ∧
      .ended ending ∉ before := by
  obtain ⟨looks, whole⟩ : ∃ looks, attend pace utterances ending belated = follow {} (pace.turns 0
      (utterances.map .uttered ++ .ended ending :: belated.map .uttered) ++
        List.replicate looks .look) := by
    unfold attend close
    exact ⟨_, (follow_append _ _ _).symm⟩
  rw [turns_append, Pace.turns] at whole
  generalize 0 + (utterances.map Turn.uttered).length = n at whole
  refine ⟨pace.turns 0 (utterances.map .uttered) ++ List.replicate (pace n) .look,
    pace.turns (n + 1) (belated.map .uttered) ++ List.replicate looks .look, ?_, ?_, ?_, ?_⟩
  · simpa only [List.append_assoc, List.cons_append] using whole
  · rw [linesOf_append, linesOf_looks, linesOf_turns, linesOf_uttered, List.append_nil]
  · rw [linesOf_append, linesOf_looks, linesOf_turns, linesOf_uttered, List.append_nil]
  · simp [mem_turns]

theorem attend_reports : (attend pace utterances ending belated).reports.filter Report.isCall =
    (attend pace utterances ending belated).log.map .diagnostic := by
  obtain ⟨before, after, whole, -⟩ := attend_eq pace utterances ending belated
  obtain ⟨seen, -, attended, -⟩ := follow_attended (before ++ .ended ending :: after)
  rw [whole]
  exact attended.told

/-- In the end all lines of before the compiler's end have been heard, and of those of after it the
first ones. -/
theorem attend_log : ∃ heard, writtenLines utterances <+: heard ∧
    heard <+: writtenLines (utterances ++ belated) ∧
    (attend pace utterances ending belated).log = heard.map Prod.snd := by
  have noticed := noticed?_attend pace utterances ending belated
  have awaits := awaits_attend pace utterances ending belated
  obtain ⟨before, after, whole, early, late, first⟩ := attend_eq pace utterances ending belated
  rw [whole] at noticed awaits ⊢
  obtain ⟨seen, part, attended, -⟩ := follow_attended (before ++ .ended ending :: after)
  generalize follow {} (before ++ .ended ending :: after) = s at noticed awaits attended ⊢
  have occurs : .ended ending ∈ seen :=
    attended.ended ending (awaits.done ending (noticed?_eq_some.mp noticed))
  have inSeen : before <+: seen := by
    rcases List.prefix_or_prefix_of_prefix (List.prefix_append before _) part with h | h
    · exact h
    · exact absurd (h.subset occurs) first
  refine ⟨linesOf seen, early ▸ linesOf_prefix inSeen, ?_, ?_⟩
  · have inAll := linesOf_prefix part
    rw [linesOf_append, early, ← List.singleton_append, linesOf_append, late] at inAll
    rwa [writtenLines, List.filterMap_append]
  · rw [← attended.lines, attended.drained (by simp [noticed]), List.append_nil]

end Listening

/-- The same class files in the order of their names; those of one name keep their order. -/
structure SortedCopy (made copy : List ClassFile) : Prop where
  perm : copy.Perm made
  sorted : copy.Pairwise fun a b => a.className.text ≤ b.className.text
  stable : ∀ name, copy.filter (·.className = name) = made.filter (·.className = name)

namespace Pipeline

theorem sortedCopy_sortFiles (made : List ClassFile) : SortedCopy made (sortFiles made) where
  perm := List.mergeSort_perm made _
  sorted := by
    have ordered := List.pairwise_mergeSort
      (fun a b c : ClassFile => ClassName.le_trans a.className b.className c.className)
      (fun a b => ClassName.le_total a.className b.className) made
    exact ordered.imp ClassName.le_iff.mp
  stable name := by
    have kept : (made.filter (·.className = name)).Sublist (sortFiles made) := by
      refine List.sublist_mergeSort
        (fun a b c : ClassFile => ClassName.le_trans a.className b.className c.className)
        (fun a b => ClassName.le_total a.className b.className) ?_ List.filter_sublist
      refine List.pairwise_of_forall_mem_list fun a ha b hb => ?_
      have same : a.className = b.className := by
        rw [of_decide_eq_true (List.mem_filter.mp ha).2,
          of_decide_eq_true (List.mem_filter.mp hb).2]
      exact same ▸ ClassName.le_refl _
    have kept := kept.filter (·.className = name)
    rw [List.filter_filter] at kept
    simp only [Bool.and_self] at kept
    refine (kept.eq_of_length ?_).symm
    exact ((List.mergeSort_perm made _).filter _).length_eq.symm

variable {σ : Type} (pace : Pace) (compiler : Compiler σ) (provider : Provider σ)
  {units : List SourceUnit} (state : σ) (files : FileTree)

theorem outcome_compileAt {p : Performance σ} (some : units ≠ [])
    (works : compiler provider units state files = p) :
    (compileAt pace compiler provider units state files).outcome =
      ⟨judge p.ending, (Listening.attend pace p.utterances p.ending p.belated).log⟩ := by
  rw [compileAt, if_neg (by simpa using some)]
  simp only [works, Listening.noticed?_attend, Option.get_some]

theorem filter_events (events : List LogEvent) :
    (events.map Report.event).filter Report.isCall = [] := by
  simp [List.filter_map, Report.isCall, Function.comp_def]

theorem calls_compileAt (units : List SourceUnit) :
    let c := compileAt pace compiler provider units state files
    c.reports.filter Report.isCall = c.outcome.log.map .diagnostic ++ [.finished c.outcome] := by
  intro c
  unfold c compileAt
  split
  next => rfl
  next =>
    simp only [List.cons_append, List.filter_cons, List.filter_append, Listening.attend_reports,
      filter_events, Report.isCall, List.append_nil, List.filter_nil]
    rfl

theorem isSuccess_judge {ending : CompilerEnd} {log : List String} :
    CompileOutcome.isSuccess ⟨judge ending, log⟩ = true ↔
      ∃ made, made ≠ [] ∧ ending = .returned (.ok made) := by
  constructor
  · intro success
    match ending with
    | .returned (.ok (file :: made)) => exact ⟨file :: made, by simp, rfl⟩
    | .returned (.ok []) | .returned (.error _) | .collapsed _ =>
      simp [CompileOutcome.isSuccess, judge] at success
  · rintro ⟨made, some, rfl⟩
    obtain ⟨file, rest, rfl⟩ := List.exists_cons_of_ne_nil some
    rfl

theorem classFiles_judge {made : List ClassFile} (log : List String) (some : made ≠ []) :
    CompileOutcome.classFiles ⟨judge (.returned (.ok made)), log⟩ = sortFiles made := by
  obtain ⟨file, rest, rfl⟩ := List.exists_cons_of_ne_nil some
  rfl

/-- Those who follow a compilation are told each line of its log in order, and then once what it has
come to. The log has all lines written before the compiler's end, and of those written later the
first ones; what it comes to follows from the compiler's end. -/
theorem compilation_reported (units : List SourceUnit) :
    let c := compileAt pace compiler provider units state files
    let p := compiler provider units state files
    c.reports.filter Report.isCall = c.outcome.log.map .diagnostic ++ [.finished c.outcome] ∧
    (units ≠ [] → ∃ heard, writtenLines p.utterances <+: heard ∧
      heard <+: writtenLines (p.utterances ++ p.belated) ∧
      c.outcome.log = heard.map Prod.snd ∧
      ∀ pen, heard.filter (·.1 = pen) <+:
        (writtenLines (p.utterances ++ p.belated)).filter (·.1 = pen)) ∧
    (c.outcome.isSuccess ↔ units ≠ [] ∧ ∃ made, made ≠ [] ∧ p.ending = .returned (.ok made)) ∧
    (c.outcome.isSuccess → ∀ made, p.ending = .returned (.ok made) →
      SortedCopy made c.outcome.classFiles) ∧
    (units = [] → c = nothingToCompile state files ∧
      c.outcome = ⟨.error (.invalidInput "nothing to compile"), []⟩) ∧
    (units ≠ [] → p.ending = .returned (.ok []) →
      c.outcome.result = .error (.failed "compiler produced no class files")) ∧
    (units ≠ [] → ∀ e, p.ending = .returned (.error e) → c.outcome.result = .error e) ∧
    (units ≠ [] → ∀ text, p.ending = .collapsed text → c.outcome.result =
      .error (.internal ("compiler panicked: " ++ text.getD "<non-string panic payload>"))) := by
  intro c p
  refine ⟨calls_compileAt pace compiler provider state files units, ?_⟩
  by_cases empty : units = []
  · subst empty
    have fails : c.outcome.isSuccess = false := rfl
    refine ⟨fun some => absurd rfl some, ?_, ?_, fun _ => ⟨rfl, rfl⟩, fun some => absurd rfl some,
      fun some => absurd rfl some, fun some => absurd rfl some⟩
    · simp [fails]
    · simp [fails]
  · have outcome : c.outcome = _ :=
      outcome_compileAt pace compiler provider state files (p := p) empty rfl
    rw [outcome]
    refine ⟨fun _ => ?_, ?_, ?_, fun none => absurd none empty, ?_, ?_, ?_⟩
    · obtain ⟨heard, early, late, log⟩ :=
        Listening.attend_log pace p.utterances p.ending p.belated
      exact ⟨heard, early, late, log, fun pen => late.filter _⟩
    · rw [isSuccess_judge]
      exact ⟨fun made => ⟨empty, made⟩, And.right⟩
    · intro success made ending
      obtain ⟨made', some, ending'⟩ := isSuccess_judge.mp success
      obtain rfl : made' = made := by simpa [ending] using ending'.symm
      rw [ending, classFiles_judge _ some]
      exact sortedCopy_sortFiles _
    · exact fun _ ending => congrArg judge ending
    · exact fun _ e ending => congrArg judge ending
    · exact fun _ text ending => congrArg judge ending

def clamour : Compiler Unit := fun _ _ state files =>
  { state, files
    utterances := [.line "a" 1, .line "b" 2, .line "c" 1]
    ending := .returned (.ok [⟨⟨"q.B"⟩, [2]⟩, ⟨⟨"p.A"⟩, [1]⟩])
    belated := [.line "d" 2] }

def noClasses : Provider Unit where
  names _ := []
  resolve c s := { state := s, result := .error (.notFound c) }

def clamoured (pace : Pace) : Compilation Unit :=
  compileAt pace clamour noClasses [{ className := ⟨"p.A"⟩, text := "class A \x7b\x7d" }] () .empty

/-- A listener that looks only when all is over hears the last line too; one that looks often is
done before that. -/
theorem compilation_reported_belated :
    (clamoured fun _ => 0).outcome.log = ["a", "b", "c", "d"] ∧
    (clamoured fun _ => 4).outcome.log = ["a", "b", "c"] ∧
    ∀ pace, SortedCopy [⟨⟨"q.B"⟩, [2]⟩, ⟨⟨"p.A"⟩, [1]⟩] (clamoured pace).outcome.classFiles := by
  refine ⟨by decide, by decide, fun pace => ?_⟩
  obtain ⟨-, -, succeeds, sorted, -⟩ := compilation_reported pace clamour noClasses () .empty
    [{ className := ⟨"p.A"⟩, text := "class A \x7b\x7d" }]
  exact sorted (succeeds.mpr ⟨by simp, _, by simp, rfl⟩) _ rfl

end Pipeline

end ClassSwap
