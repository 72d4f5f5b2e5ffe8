import ClassSwap.Proofs.UploadDelivery

namespace ClassSwap

open Channel

/-- What a call can come to only through a response. -/
def Outcome.IsVerdict : Outcome → Prop
  | .attached => False
  | .answered _ => True
  | .failed (.agent ..) => True
  | .failed _ => False

namespace Lane

variable {target : Target} {patience : Duration} {id : RequestId} {lane lane' : Lane}
  {x y : Exchange} {e : LaneEvent}

/-- No reader hands over a verdict but in a response. -/
def Impartial (lane : Lane) : Prop :=
  ∀ x error, lane.exchange = some x → x.mail = some (.error error) →
    ¬ (Outcome.failed error).IsVerdict

theorem Handing.impartial {n : Nat} {ids : List RequestId} {error : ChannelError}
    {connections : List Connection} (h : Handing lane e n ids (.error error) connections) :
    ¬ (Outcome.failed error).IsVerdict := by
  cases h <;> exact not_false

theorem Move.impartial (move : Move target patience id lane e lane') (h : Impartial lane) :
    Impartial lane' := by
  intro y error held mail
  cases move with
  | idle | refused | queued | ended => exact h y error held mail
  | abandoned ticket => exact h y error (Option.eq_some_of_filter_eq_some held) mail
  | started | repeated => cases held; cases mail
  | staged _ x _ holds | connected x _ holds | registered x _ holds | transmitted x _ _ holds =>
    cases held
    exact h x error holds mail
  | handed e n ids answer connections log handing =>
    obtain ⟨x, hx, rfl⟩ := Option.map_eq_some_iff.mp held
    split at mail
    next =>
      cases mail
      exact handing.impartial
    next => exact h x error hx mail
  | _ => cases held

theorem Snag.impartial {error : ChannelError} {sent : Bool} {connections : List Connection}
    (snag : Snag patience lane x e error sent connections) (h : Impartial lane)
    (held : lane.exchange = some x) : ¬ (Outcome.failed error).IsVerdict := by
  cases snag with
  | told _ _ _ _ mail => exact h x error held mail
  | oversized _ _ codec => cases codec <;> exact not_false
  | refused | unreachable | slow | shut | unwritten | overdue | lost => exact not_false

/-- A call that has come to a verdict after a move had come to it before, or its caller has just
found the response. -/
theorem Move.verdict (move : Move target patience id lane e lane') (impartial : Impartial lane)
    {f : Finished} (mem : f ∈ lane'.finished) (verdict : f.outcome.IsVerdict) {command : Command}
    {timeout : Duration} (operation : f.operation = .send command timeout)
    (going : command ≠ .halt) :
    f ∈ lane.finished ∨ ∃ x n r expired, e = .wake expired ∧ lane.exchange = some x ∧
      x.ticket = f.ticket ∧ x.request.command = command ∧ x.stage = .waiting n ∧
      x.glance = .mail ∧ x.mail = some (.ok r) ∧ Reply.outcome command r = f.outcome := by
  have last {g : Finished} (h : f ∈ lane.finished ++ [g]) : f ∈ lane.finished ∨ f = g := by
    rcases List.mem_append.mp h with h | h
    · exact .inl h
    · exact .inr (List.mem_singleton.mp h)
  cases move with
  | refused | attached | detached =>
    rcases last mem with old | rfl
    · exact .inl old
    · exact verdict.elim
  | left =>
    rcases last mem with old | rfl
    · exact .inl old
    · cases operation
      exact absurd rfl going
  | unheard _ _ _ _ _ _ _ _ halt | halted _ _ _ _ _ _ _ _ halt =>
    rcases last mem with old | rfl
    · exact .inl old
    · cases operation
      exact absurd halt going
  | failed e x error sent connections log held snag =>
    rcases last mem with old | rfl
    · exact .inl old
    · exact absurd verdict (snag.impartial impartial held)
  | misjudged x n r expired error held stage mail _ judged glance =>
    rcases last mem with old | rfl
    · exact .inl old
    · cases operation
      refine .inr ⟨x, n, r, expired, rfl, held, rfl, rfl, stage, glance, mail, ?_⟩
      simp only [Reply.outcome, judged]
  | answered x n r expired reply log held stage mail _ judged glance =>
    rcases last mem with old | rfl
    · exact .inl old
    · cases operation
      refine .inr ⟨x, n, r, expired, rfl, held, rfl, rfl, stage, glance, mail, ?_⟩
      simp only [Reply.outcome, judged]
  | _ => exact .inl mem

end Lane

namespace Channel

variable {patience : Duration} {t : Target} {events : History} {k : Nat} {q : Request}
  {r : Response}

theorem impartial (patience : Duration) (t : Target) (events : History) :
    ((after patience events).lane t).Impartial := by
  refine lane_induction (P := fun _ lane => lane.Impartial) ?_ ?_ ?_ events
  · intro x error held
    cases held
  · exact fun _ _ _ h => h
  · exact fun _ _ _ h move _ => move.impartial h

/-- A response that the call has got has come in for it while it waited. -/
theorem mail_responds (patience : Duration) (t : Target) (events : History) :
    ∀ x r, ((after patience events).lane t).exchange = some x → x.mail = some (.ok r) →
      ∃ n place, x.stage.connection? = some n ∧
        Responds patience t events x.ticket n x.request r place := by
  refine lane_induction (P := fun events lane => ∀ x r, lane.exchange = some x →
    x.mail = some (.ok r) → ∃ n place, x.stage.connection? = some n ∧
      Responds patience t events x.ticket n x.request r place) ?_ ?_ ?_ events
  · intro x r held
    cases held
  · intro events e _ h x r held mail
    obtain ⟨n, place, on, responds⟩ := h x r held mail
    exact ⟨n, place, on, responds.append _⟩
  · intro events e lane' h move _ y r held mail
    obtain ⟨x, hx, same, ⟨kept, on'⟩ |
      ⟨n, payload, c, rfl, decoded, own, stage, empty, stays, entry, reading⟩⟩ :=
      move.mail held mail
    · obtain ⟨n, place, on, responds⟩ := h x r hx kept
      rw [same.ticket, same.request]
      exact ⟨n, place, on' n on, responds.append _⟩
    · rw [same.ticket, same.request, stays]
      refine ⟨n, events.length, ?_, ⟨payload, by simp, decoded⟩, ?_, ?_, own⟩
      · rcases stage with stage | stage <;> rw [stage] <;> rfl
      · rw [List.take_left]
        exact ⟨x, hx, rfl, rfl, empty, stage⟩
      · rw [List.take_left]
        exact ⟨c, entry, reading⟩

/-- The call is about to look for a response, the frame of its request having gone out, and has got
one that has come in for it at some place of the run. -/
structure Holds (patience : Duration) (t : Target) (events : History) (k : Nat) (q : Request)
    (r : Response) (x : Exchange) (n place : Nat) : Prop where
  exchange : ((after patience events).lane t).exchange = some x
  ticket : x.ticket = k
  request : x.request = q
  stage : x.stage = .waiting n
  glance : x.glance = .mail
  mail : x.mail = some (.ok r)
  responds : Responds patience t events k n q r place

/-- Some time in the run the caller of this call looks and finds this response. -/
def Heeded (patience : Duration) (t : Target) (events : History) (k : Nat) (q : Request)
    (r : Response) : Prop :=
  ∃ before expired later x n place, events = before ++ (t, .wake expired) :: later ∧
    Holds patience t before k q r x n place

theorem Heeded.append (h : Heeded patience t events k q r) (more : History) :
    Heeded patience t (events ++ more) k q r := by
  obtain ⟨before, expired, later, x, n, place, rfl, holds⟩ := h
  exact ⟨before, expired, later ++ more, x, n, place, by simp, holds⟩

/-- A call that has come to a verdict has come to it by a response that its caller has found. -/
theorem finished_heeded (patience : Duration) (t : Target) (events : History) :
    ∀ f ∈ ((after patience events).lane t).finished, f.outcome.IsVerdict →
      ∀ command timeout, f.operation = .send command timeout → command ≠ .halt →
        ∃ q r, Heeded patience t events f.ticket q r ∧ q.command = command ∧
          Reply.outcome command r = f.outcome := by
  refine lane_induction (P := fun events lane => ∀ f ∈ lane.finished, f.outcome.IsVerdict →
    ∀ command timeout, f.operation = .send command timeout → command ≠ .halt →
      ∃ q r, Heeded patience t events f.ticket q r ∧ q.command = command ∧
        Reply.outcome command r = f.outcome) ?_ ?_ ?_ events
  · intro f mem
    cases mem
  · intro events e _ h f mem verdict command timeout operation going
    obtain ⟨q, r, heeded, asked, outcome⟩ := h f mem verdict command timeout operation going
    exact ⟨q, r, heeded.append _, asked, outcome⟩
  · intro events e lane' h move _ f mem verdict command timeout operation going
    rcases move.verdict (impartial patience t events) mem verdict operation going with
      old | ⟨x, n, r, expired, rfl, held, ticket, asked, stage, glance, mail, outcome⟩
    · obtain ⟨q, r, heeded, asked, outcome⟩ := h f old verdict command timeout operation going
      exact ⟨q, r, heeded.append _, asked, outcome⟩
    · obtain ⟨m, place, on, responds⟩ := mail_responds patience t events x r held mail
      rw [stage] at on
      cases on
      refine ⟨x.request, r, ⟨events, expired, [], x, n, place, rfl, ?_⟩, asked, outcome⟩
      exact ⟨held, ticket, rfl, stage, glance, mail, ticket ▸ responds⟩

/-- A response that the caller of a call finds decides what it comes to. -/
theorem Heeded.outcome (h : Heeded patience t events k q r) (going : q.command ≠ .halt) :
    outcomeOf ((after patience events).lane t) k = Reply.outcome q.command r := by
  obtain ⟨before, expired, later, x, n, place, rfl, held, rfl, rfl, stage, glance, mail, -⟩ := h
  have found : ∃ f ∈ (((after patience before).lane t).step t patience
      (after patience before).nextId (.wake expired)).finished,
      f.ticket = x.ticket ∧ f.outcome = Reply.conclusion x.request.command r :=
    Lane.step_wake held stage glance mail
  rw [← after_here] at found
  obtain ⟨f, mem, ticket, outcome⟩ := found
  rw [Reply.conclusion, if_neg going] at outcome
  rw [List.append_cons, ← ticket, ← outcome]
  exact outcomeOf_of_mem (inTurn patience t _) (finished_append later mem)

theorem Heeded.call (h : Heeded patience t events k q r) :
    ∃ timeout, (callsOn t events)[k]? = some (.send q.command timeout) := by
  obtain ⟨before, expired, later, x, n, place, rfl, held, rfl, rfl, -⟩ := h
  have call := (accounted patience t before).exchange x held
  rw [callsOn_append]
  exact ⟨x.timeout, getElem?_append_of_some _ call⟩

theorem Heeded.command {command : Command} {timeout : Duration} (h : Heeded patience t events k q r)
    (call : (callsOn t events)[k]? = some (.send command timeout)) : q.command = command := by
  obtain ⟨limit, own⟩ := h.call
  rw [call] at own
  injection own with own
  injection own with own
  exact own.symm

theorem Heeded.sent (h : Heeded patience t events k q r) :
    ∃ tx ∈ ((after patience events).lane t).framesOf k, tx.request = q := by
  obtain ⟨before, expired, later, x, n, place, rfl, held, rfl, rfl, stage, -⟩ := h
  obtain ⟨earlier, -, frames⟩ := attempting patience t before x held
  have current : (⟨x.ticket, n, x.request⟩ : Transmission) ∈
      ((after patience before).lane t).framesOf x.ticket := by
    rw [frames, Lane.current, stage]
    exact List.mem_append_right _ (List.mem_singleton_self _)
  have sent := (Lane.mem_framesOf.mp current).1
  refine ⟨⟨x.ticket, n, x.request⟩, Lane.mem_framesOf.mpr ⟨?_, rfl⟩, rfl⟩
  exact lane_induction_from
    (P := fun _ lane => (⟨x.ticket, n, x.request⟩ : Transmission) ∈ lane.sent) before sent
    (fun _ _ _ h => h) (fun _ _ _ h move _ => move.sent_subset _ h) _

/-- A call comes to a verdict exactly if its caller has found a response that says it. -/
theorem outcomeOf_eq_verdict {command : Command} {timeout : Duration}
    (call : (callsOn t events)[k]? = some (.send command timeout)) (going : command ≠ .halt)
    {outcome : Outcome} (verdict : outcome.IsVerdict) :
    outcomeOf ((after patience events).lane t) k = outcome ↔
      ∃ q r, Heeded patience t events k q r ∧ q.command = command ∧
        Reply.outcome command r = outcome := by
  constructor
  · intro comes
    unfold outcomeOf at comes
    split at comes
    next f found =>
      have ticket : f.ticket = k := by simpa using List.find?_some found
      have mem := List.mem_of_find?_eq_some found
      subst ticket comes
      have operation := (accounted patience t events).finished f mem
      rw [call] at operation
      exact finished_heeded patience t events f mem verdict command timeout
        (Option.some.inj operation).symm going
    next =>
      subst comes
      exact verdict.elim
  · rintro ⟨q, r, heeded, rfl, judged⟩
    rw [heeded.outcome going, judged]

end Channel

end ClassSwap
