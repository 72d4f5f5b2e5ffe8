import ClassSwap.Proofs.ReplyInTime

namespace ClassSwap

open Channel

/-- A request that a call has put down with a connection. -/
structure Filing where
  ticket : Nat
  connection : Nat
  id : RequestId
  deriving DecidableEq, Repr

/-- What becomes of a request that is down with a connection. -/
inductive Settlement where
  /-- The reader got the response; `next` is what the caller was about to look at. -/
  | reply (r : Response) (next : Glance)
  /-- The reader got a frame that it could not read. -/
  | undecodable
  | connectionEnd
  | writeFailure
  | timeout
  /-- The caller saw that the connection had been closed. -/
  | shutdown
  deriving DecidableEq, Repr

namespace Lane

/-- The requests that are down with any connection that was ever opened. -/
def filed (lane : Lane) : List (Nat × RequestId) :=
  lane.connections.zipIdx.flatMap fun (c, n) => c.pending.map (n, ·)

/-- What a call has put down and got nothing for yet. -/
def filing? (x : Exchange) : Option Filing :=
  match x.stage, x.mail with
  | .writing n, none | .waiting n, none => some ⟨x.ticket, n, x.request.id⟩
  | _, _ => none

def awaiting (lane : Lane) : List Filing := (lane.exchange.bind filing?).toList

/-- What is put down with an event. -/
def registering (lane : Lane) (e : LaneEvent) : List Filing :=
  match e, lane.exchange with
  | .register, some x =>
    match x.stage with
    | .registering n => [⟨x.ticket, n, x.request.id⟩]
    | _ => []
  | _, _ => []

/-- How an event settles the request of a call that is down with connection `n`, if it does. -/
def settlement? (lane : Lane) (x : Exchange) (n : Nat) : LaneEvent → Option Settlement
  | .received m payload =>
    if m = n ∧ lane.connections[n]?.map (·.reader) = some .reading then
      match Frame.decode Response.read payload with
      | .ok r => if r.id = x.request.id then some (.reply r x.glance) else none
      | .error _ => some .undecodable
    else none
  | .drained m =>
    if m = n ∧ lane.connections[n]?.map (·.reader) = some .stopping then some .connectionEnd
    else none
  | .wrote result =>
    if x.stage = .writing n then
      match Frame.encode x.request.json, result with
      | .ok _, .written => none
      | _, _ => some .writeFailure
    else none
  | .wake expired =>
    if x.stage = .waiting n then
      match x.glance with
      | .mail => none
      | .clock => if expired then some .timeout else none
      | .connection => if lane.isOpen n then none else some .shutdown
    else none
  | _ => none

/-- What an event settles, and how. -/
def settling (lane : Lane) (e : LaneEvent) : List (Filing × Settlement) :=
  match lane.exchange with
  | some x =>
    match filing? x with
    | some w => ((settlement? lane x w.connection e).map (w, ·)).toList
    | none => []
  | none => []

variable {target : Target} {patience : Duration} {id : RequestId} {lane lane' : Lane}
  {x y : Exchange} {e : LaneEvent}

theorem filing?_eq_some {w : Filing} :
    filing? x = some w ↔ (x.stage = .writing w.connection ∨ x.stage = .waiting w.connection) ∧
      x.mail = none ∧ w.ticket = x.ticket ∧ w.id = x.request.id := by
  obtain ⟨ticket, n, number⟩ := w
  unfold filing?
  split
  next m stage mail =>
    simp only [Option.some.injEq, Filing.mk.injEq, stage, mail, Stage.writing.injEq, reduceCtorEq,
      or_false, true_and]
    grind
  next m stage mail =>
    simp only [Option.some.injEq, Filing.mk.injEq, stage, mail, Stage.waiting.injEq, reduceCtorEq,
      false_or, true_and]
    grind
  next other waits =>
    simp only [reduceCtorEq, false_iff, not_and]
    rintro (stage | stage) mail
    · exact absurd mail (other n stage)
    · exact absurd mail (waits n stage)

theorem awaiting_none (free : lane.exchange = none) : lane.awaiting = [] := by
  simp [awaiting, free]

theorem awaiting_some (held : lane.exchange = some x) : lane.awaiting = (filing? x).toList := by
  simp [awaiting, held]

theorem fail_awaiting (error : ChannelError) (sent : Bool) :
    (fail target lane x error sent).awaiting = [] := by
  unfold fail
  simp only [conclude, finish]
  split
  next => rfl
  next =>
    split
    next => rfl
    next => rfl

theorem settle_awaiting (r : Response) : (settle target lane x r).awaiting = [] := by
  unfold settle
  simp only [conclude, finish]
  split
  next => rfl
  next => split <;> rfl

theorem awaiting_cases (lane : Lane) : lane.awaiting = [] ∨ ∃ w, lane.awaiting = [w] := by
  cases waits : lane.exchange.bind filing? with
  | none => exact .inl (by rw [awaiting, waits]; rfl)
  | some w => exact .inr ⟨w, by rw [awaiting, waits]; rfl⟩

theorem settling_none (held : lane.exchange = some x) (idle : filing? x = none) :
    lane.settling e = [] := by
  simp [settling, held, idle]

theorem settling_some {w : Filing} (held : lane.exchange = some x) (waits : filing? x = some w) :
    lane.settling e = ((settlement? lane x w.connection e).map (w, ·)).toList := by
  simp [settling, held, waits]

/-- What was awaited before a step of the caller or a reader is settled by it or awaited still. -/
def Conserves (lane lane' : Lane) (e : LaneEvent) : Prop :=
  lane.awaiting = (lane.settling e).map (·.1) ++ lane'.awaiting

theorem conserves_settled {w : Filing} {s : Settlement} (held : lane.exchange = some x)
    (waits : filing? x = some w) (settled : settlement? lane x w.connection e = some s)
    (gone : lane'.awaiting = []) : Conserves lane lane' e := by
  simp [Conserves, awaiting_some held, settling_some held waits, waits, settled, gone]

theorem conserves_kept (unsettled : lane.settling e = []) (kept : lane'.awaiting = lane.awaiting) :
    Conserves lane lane' e := by
  simp [Conserves, unsettled, kept]

theorem wrote_conserves (held : lane.exchange = some x) (result : Writing) :
    Conserves lane (wrote target lane x result) (.wrote result) := by
  unfold wrote
  split
  next n stage =>
    cases mail : x.mail with
    | some m =>
      have idle : filing? x = none := by simp [filing?, stage, mail]
      refine conserves_kept (settling_none held idle) ?_
      rw [awaiting_some held, idle]
      split
      next => exact fail_awaiting _ _
      next =>
        split
        next => simp [moveTo, awaiting, filing?, mail]
        next => exact fail_awaiting _ _
    | none =>
      have waits : filing? x = some ⟨x.ticket, n, x.request.id⟩ := by simp [filing?, stage, mail]
      split
      next error size =>
        exact conserves_settled held waits (s := .writeFailure)
          (by simp [settlement?, stage, size]) (fail_awaiting _ _)
      next frame whole =>
        split
        next =>
          refine conserves_kept ?_ ?_
          · rw [settling_some held waits]
            simp [settlement?, stage, whole]
          · rw [awaiting_some held, waits]
            simp [moveTo, awaiting, filing?, mail]
        next text =>
          exact conserves_settled held waits (s := .writeFailure)
            (by simp [settlement?, stage, whole]) (fail_awaiting _ _)
  next other =>
    refine conserves_kept ?_ rfl
    cases waits : filing? x with
    | none => exact settling_none held waits
    | some w =>
      rw [settling_some held waits]
      simp only [settlement?]
      rw [if_neg (other w.connection)]
      rfl

theorem conserves_cleared (held : lane.exchange = some x)
    (settled : ∀ w, filing? x = some w → ∃ s, settlement? lane x w.connection e = some s)
    (gone : lane'.awaiting = []) : Conserves lane lane' e := by
  cases waits : filing? x with
  | none =>
    refine conserves_kept (settling_none held waits) ?_
    rw [gone, awaiting_some held, waits]
    rfl
  | some w =>
    obtain ⟨s, settles⟩ := settled w waits
    exact conserves_settled held waits settles gone

theorem conserves_unsettled (held : lane.exchange = some x)
    (unsettled : ∀ n, settlement? lane x n e = none) (kept : lane'.awaiting = lane.awaiting) :
    Conserves lane lane' e := by
  refine conserves_kept ?_ kept
  cases waits : filing? x with
  | none => exact settling_none held waits
  | some w =>
    rw [settling_some held waits, unsettled]
    rfl

theorem lookAt_awaiting (held : lane.exchange = some x) (glance : Glance) :
    (lane.lookAt x glance).awaiting = lane.awaiting := by
  rw [awaiting_some held]
  rfl

theorem wake_conserves (held : lane.exchange = some x) (expired : Bool) :
    Conserves lane (wake target lane x expired) (.wake expired) := by
  have down {w : Filing} {n : Nat} (waits : filing? x = some w) (stage : x.stage = .waiting n) :
      n = w.connection := by
    obtain ⟨on | on, _⟩ := filing?_eq_some.mp waits <;> cases stage.symm.trans on
    rfl
  unfold wake
  split
  next n stage =>
    split
    next glance =>
      have unsettled (m : Nat) : settlement? lane x m (.wake expired) = none := by
        simp [settlement?, glance]
      split
      next r mail =>
        have idle : filing? x = none := by simp [filing?, stage, mail]
        refine conserves_unsettled held unsettled ?_
        rw [awaiting_some held, idle]
        exact settle_awaiting r
      next error mail =>
        have idle : filing? x = none := by simp [filing?, stage, mail]
        refine conserves_unsettled held unsettled ?_
        rw [awaiting_some held, idle]
        exact fail_awaiting _ _
      next mail => exact conserves_unsettled held unsettled (lookAt_awaiting held _)
    next glance =>
      cases expired with
      | true =>
        refine conserves_cleared held (fun w waits => ⟨.timeout, ?_⟩) (fail_awaiting _ _)
        simp [settlement?, glance, stage, down waits stage]
      | false =>
        exact conserves_unsettled held (by simp [settlement?, glance]) (lookAt_awaiting held _)
    next glance =>
      cases usable : lane.isOpen n with
      | true =>
        refine conserves_unsettled held (fun m => ?_) (lookAt_awaiting held _)
        simp only [settlement?, glance, stage, Stage.waiting.injEq]
        split
        next here => rw [← here, if_pos usable]
        next => rfl
      | false =>
        refine conserves_cleared held (fun w waits => ⟨.shutdown, ?_⟩) (fail_awaiting _ _)
        obtain rfl := down waits stage
        simp [settlement?, glance, stage, usable]
  next other =>
    refine conserves_unsettled held (fun n => ?_) rfl
    simp only [settlement?]
    rw [if_neg (other n)]

theorem posted_awaiting (n : Nat) (ids : List RequestId) (m : Except ChannelError Response)
    (lane : Lane) : ((posted n ids m lane.exchange).bind filing?).toList =
      lane.awaiting.filter fun w => ¬ (w.connection = n ∧ w.id ∈ ids) := by
  cases held : lane.exchange with
  | none => simp [posted, awaiting, held]
  | some x =>
    rw [awaiting_some held, posted, Option.map_some, Option.bind_some]
    cases waits : filing? x with
    | none =>
      have passed : ¬ (x.request.id ∈ ids ∧ (x.stage = .writing n ∨ x.stage = .waiting n) ∧
          x.mail = none) := by
        rintro ⟨_, stage, mail⟩
        have down : filing? x = some ⟨x.ticket, n, x.request.id⟩ :=
          filing?_eq_some.mpr ⟨stage, mail, rfl, rfl⟩
        cases waits.symm.trans down
      rw [if_neg passed, waits]
      rfl
    | some w =>
      obtain ⟨stage, mail, ticket, number⟩ := filing?_eq_some.mp waits
      by_cases meant : w.connection = n ∧ w.id ∈ ids
      · obtain ⟨rfl, mem⟩ := meant
        rw [if_pos ⟨number ▸ mem, stage, mail⟩]
        simp [filing?, mem]
      · have passed : ¬ (x.request.id ∈ ids ∧ (x.stage = .writing n ∨ x.stage = .waiting n) ∧
            x.mail = none) := by
          rintro ⟨mem, on, _⟩
          refine meant ⟨?_, number ▸ mem⟩
          rcases stage with stage | stage <;> rcases on with on | on <;> rw [stage] at on <;>
            cases on <;> rfl
        rw [if_neg passed, waits]
        exact (List.filter_eq_self.mpr fun v mem =>
          List.mem_singleton.mp mem ▸ decide_eq_true meant).symm

/-- What a reader hands over settles the request if it is among those meant, and no other. -/
theorem posted_conserves (n : Nat) (ids : List RequestId) {m : Except ChannelError Response}
    (held : lane.exchange = some x) (posts : lane'.exchange = posted n ids m lane.exchange)
    (settles : ∀ w, filing? x = some w →
      ((settlement? lane x w.connection e).isSome = true ↔ w.connection = n ∧ w.id ∈ ids)) :
    Conserves lane lane' e := by
  have after : lane'.awaiting =
      lane.awaiting.filter fun w => ¬ (w.connection = n ∧ w.id ∈ ids) := by
    rw [awaiting, posts, posted_awaiting]
  cases waits : filing? x with
  | none =>
    have idle : lane.awaiting = [] := by rw [awaiting_some held, waits]; rfl
    exact conserves_kept (settling_none held waits) (by rw [after, idle]; rfl)
  | some w =>
    have down : lane.awaiting = [w] := by rw [awaiting_some held, waits]; rfl
    have settled := settles w waits
    by_cases meant : w.connection = n ∧ w.id ∈ ids
    · obtain ⟨s, hs⟩ := Option.isSome_iff_exists.mp (settled.mpr meant)
      refine conserves_settled held waits hs ?_
      rw [after, down]
      exact List.filter_eq_nil_iff.mpr (by simpa using meant)
    · have quiet : settlement? lane x w.connection e = none :=
        Option.not_isSome_iff_eq_none.mp fun some => meant (settled.mp some)
      refine conserves_kept (by simp [settling_some held waits, quiet]) ?_
      rw [after, down]
      exact List.filter_eq_self.mpr fun v mem => List.mem_singleton.mp mem ▸ decide_eq_true meant

theorem Listed.mem (listed : Listed lane) (held : lane.exchange = some x) {w : Filing}
    (waits : filing? x = some w) {c : Connection}
    (entry : lane.connections[w.connection]? = some c) : w.id ∈ c.pending := by
  obtain ⟨stage, mail, _, number⟩ := filing?_eq_some.mp waits
  obtain ⟨d, entry', pending⟩ := listed x w.connection held stage mail
  cases entry.symm.trans entry'
  exact number ▸ pending

theorem received_conserves {n : Nat} {c : Connection} (listed : Listed lane)
    (held : lane.exchange = some x) (payload : Bytes) (entry : lane.connections[n]? = some c)
    (reading : c.reader = .reading) :
    Conserves lane (received lane n c payload) (.received n payload) := by
  have open_ : lane.connections[n]?.map (·.reader) = some .reading := by rw [entry, ← reading]; rfl
  unfold received
  split
  next error decoded =>
    rw [deliverAll_eq]
    refine posted_conserves n c.pending held rfl fun w waits => ?_
    constructor
    · intro settled
      simp only [settlement?, decoded] at settled
      split at settled
      next here =>
        obtain ⟨rfl, _⟩ := here
        exact ⟨rfl, listed.mem held waits entry⟩
      next => cases settled
    · rintro ⟨rfl, _⟩
      simp [settlement?, decoded, open_]
  next r decoded =>
    split
    next awaited =>
      rw [deliver_eq]
      refine posted_conserves n [r.id] held rfl fun w waits => ?_
      obtain ⟨_, _, _, number⟩ := filing?_eq_some.mp waits
      constructor
      · intro settled
        simp only [settlement?, decoded] at settled
        split at settled
        next here =>
          split at settled
          next own => exact ⟨here.1.symm, by simp [number, own]⟩
          next => cases settled
        next => cases settled
      · rintro ⟨rfl, own⟩
        have own : r.id = x.request.id := (List.mem_singleton.mp own).symm.trans number
        simp [settlement?, decoded, open_, own]
    next unknown =>
      refine conserves_kept ?_ rfl
      cases waits : filing? x with
      | none => exact settling_none held waits
      | some w =>
        obtain ⟨_, _, _, number⟩ := filing?_eq_some.mp waits
        rw [settling_some held waits]
        simp only [settlement?, decoded]
        split
        next here =>
          obtain ⟨rfl, _⟩ := here
          have down := listed.mem held waits entry
          have other : r.id ≠ x.request.id := by
            intro own
            rw [number, ← own] at down
            exact unknown (List.contains_iff_mem.mpr down)
          rw [if_neg other]
          rfl
        next => rfl

theorem drained_conserves {n : Nat} {c : Connection} (listed : Listed lane)
    (held : lane.exchange = some x) (entry : lane.connections[n]? = some c)
    (stopping : c.reader = .stopping) :
    Conserves lane (drained lane n c) (.drained n) := by
  have ending : lane.connections[n]?.map (·.reader) = some .stopping := by
    rw [entry, ← stopping]
    rfl
  rw [drained, deliverAll_eq]
  refine posted_conserves n c.pending held rfl fun w waits => ?_
  constructor
  · intro settled
    simp only [settlement?] at settled
    split at settled
    next here =>
      obtain ⟨rfl, _⟩ := here
      exact ⟨rfl, listed.mem held waits entry⟩
    next => cases settled
  · rintro ⟨rfl, _⟩
    simp [settlement?, ending]

theorem register_conserves (held : lane.exchange = some x)
    (blank : ∀ n, x.stage = .registering n → x.mail = none) :
    lane.awaiting ++ lane.registering .register = (register lane x).awaiting := by
  unfold register
  split
  next n stage =>
    have mail := blank n stage
    simp [registering, held, stage, moveTo, awaiting, filing?, mail]
  next other =>
    have nothing : lane.registering .register = [] := by
      simp only [registering, held]
    rw [nothing, List.append_nil]

theorem Advance.awaiting {stage : Stage} {glance : Glance} (next : Advance lane x e stage glance)
    (held : lane.exchange = some x) :
    Lane.awaiting { lane with exchange := some { x with stage, glance } } = lane.awaiting := by
  rw [awaiting_some held, awaiting_some rfl]
  cases next with
  | keep n choosing | dial choosing => simp [filing?, choosing]
  | pass n entering => simp [filing?, entering]
  | unanswered | early | linked => rfl

/-- Events that have nothing to do with requests that are down. -/
inductive Aside : LaneEvent → Prop
  | call (operation : Operation) : Aside (.call operation)
  | grant : Aside .grant
  | choose : Aside .choose
  | dialed (result : Dialing) : Aside (.dialed result)
  | enter : Aside .enter
  | ended (n : Nat) (ending : Ending) : Aside (.ended n ending)

theorem Move.aside (move : Move target patience id lane e lane') (h : Aside e) :
    lane'.awaiting = lane.awaiting := by
  have early {x : Exchange} (held : lane.exchange = some x)
      (stage : x.stage = .choosing ∨ x.stage = .dialing ∨ ∃ n, x.stage = .entering n)
      (after : lane'.awaiting = []) : lane'.awaiting = lane.awaiting := by
    have idle : filing? x = none := by
      rcases stage with stage | stage | ⟨n, stage⟩ <;> simp [filing?, stage]
    rw [after, awaiting_some held, idle]
    rfl
  cases move with
  | idle | refused | queued | ended => rfl
  | attached _ _ _ _ free | started _ _ _ _ _ _ free | detached _ _ _ _ free
  | left _ _ _ _ free =>
    rw [awaiting_none free]
    rfl
  | staged e x stage held next => exact next.awaiting held
  | connected x log held stage => exact early held (.inr (.inl stage)) rfl
  | unheard e x error sent connections log held snag
  | repeated e x error sent connections log held snag
  | failed e x error sent connections log held snag =>
    cases snag with
    | refused stage | unreachable _ stage | slow stage => exact early held (.inr (.inl stage)) rfl
    | shut n stage => exact early held (.inr (.inr ⟨n, stage⟩)) rfl
    | _ => cases h
  | handed _ _ _ _ _ _ handing => cases handing <;> cases h
  | _ => cases h

theorem Aside.unsettling (h : Aside e) (lane : Lane) :
    lane.registering e = [] ∧ lane.settling e = [] := by
  cases held : lane.exchange with
  | none => cases h <;> simp [registering, settling, held]
  | some x =>
    cases h <;> cases waits : filing? x <;>
      simp [registering, settling, held, waits, settlement?]

/-- A call has got nothing before its request is down. -/
def Blank (lane : Lane) : Prop :=
  ∀ x, lane.exchange = some x → (∀ n, x.stage ≠ .writing n ∧ x.stage ≠ .waiting n) → x.mail = none

theorem Move.blank (move : Move target patience id lane e lane') (h : Blank lane) :
    Blank lane' := by
  intro y held early
  cases move with
  | idle | refused | queued | ended => exact h y held early
  | started | repeated => cases held; rfl
  | staged e x stage holds next =>
    cases held
    refine h x holds fun n => ?_
    cases next with
    | keep m s | dial s | pass m s => simp [s]
    | unanswered | early | linked => exact early n
  | connected x log holds stage =>
    cases held
    exact h x holds fun n => by simp [stage]
  | registered x n => cases held; exact absurd rfl (early n).1
  | transmitted x n => cases held; exact absurd rfl (early n).2
  | handed e n ids mail connections log handing =>
    obtain ⟨x, hx, rfl⟩ := Option.map_eq_some_iff.mp held
    split at early
    next meant =>
      obtain ⟨_, stage | stage, _⟩ := meant
      · exact absurd stage (early n).1
      · exact absurd stage (early n).2
    next other =>
      rw [if_neg other]
      exact h x hx early
  | abandoned ticket => exact h y (Option.eq_some_of_filter_eq_some held) early
  | _ => cases held

theorem Move.vacant (move : Move target patience id lane e lane') (free : lane.exchange = none)
    (other : e ≠ .grant) : lane'.exchange = none := by
  cases held : lane'.exchange with
  | none => rfl
  | some y =>
    rcases move.holder held with ⟨x, hx, _⟩ | ⟨grant, _⟩
    · cases hx.symm.trans free
    · exact absurd grant other

theorem attend_conserves {n : Nat} {state : ReaderState} {f : Connection → Lane}
    (here : ∀ c, lane.connections[n]? = some c → c.reader = state → Conserves lane (f c) e)
    (elsewhere : lane.connections[n]?.map (·.reader) ≠ some state → lane.settling e = []) :
    Conserves lane (lane.attend n state f) e := by
  unfold attend
  split
  next c entry =>
    split
    next reader => exact here c entry reader
    next other => exact conserves_kept (elsewhere (by simp [entry, other])) rfl
  next missing => exact conserves_kept (elsewhere (by simp [missing])) rfl

theorem received_unsettling {n : Nat} (payload : Bytes) (held : lane.exchange = some x)
    (other : lane.connections[n]?.map (·.reader) ≠ some .reading) :
    lane.settling (.received n payload) = [] := by
  cases waits : filing? x with
  | none => exact settling_none held waits
  | some w =>
    have deaf : ¬ (n = w.connection ∧
        lane.connections[w.connection]?.map (·.reader) = some .reading) := by
      rintro ⟨rfl, reading⟩
      exact other reading
    rw [settling_some held waits]
    simp only [settlement?]
    rw [if_neg deaf]
    rfl

theorem drained_unsettling {n : Nat} (held : lane.exchange = some x)
    (other : lane.connections[n]?.map (·.reader) ≠ some .stopping) :
    lane.settling (.drained n) = [] := by
  cases waits : filing? x with
  | none => exact settling_none held waits
  | some w =>
    have deaf : ¬ (n = w.connection ∧
        lane.connections[w.connection]?.map (·.reader) = some .stopping) := by
      rintro ⟨rfl, stopping⟩
      exact other stopping
    rw [settling_some held waits]
    simp only [settlement?]
    rw [if_neg deaf]
    rfl

/-- Whatever happens, short of a call being dropped, what is down stays down until it is settled. -/
theorem step_conserves (listed : Listed lane) (blank : Blank lane)
    (kept : ∀ k, e ≠ .abandoned k) :
    lane.awaiting ++ lane.registering e =
      (lane.settling e).map (·.1) ++ (lane.step target patience id e).awaiting := by
  have move := step_move target patience id lane e
  have aside (h : Aside e) : lane.awaiting ++ lane.registering e =
      (lane.settling e).map (·.1) ++ (lane.step target patience id e).awaiting := by
    obtain ⟨registers, settles⟩ := h.unsettling lane
    rw [registers, settles, move.aside h]
    simp
  cases held : lane.exchange with
  | none =>
    by_cases grant : e = .grant
    · exact aside (grant ▸ .grant)
    · rw [awaiting_none held, awaiting_none (move.vacant held grant)]
      cases e <;> simp [registering, settling, held]
  | some x =>
    have proper (registers : lane.registering e = [])
        (h : Conserves lane (lane.step target patience id e) e) :
        lane.awaiting ++ lane.registering e =
          (lane.settling e).map (·.1) ++ (lane.step target patience id e).awaiting := by
      rw [registers, List.append_nil]
      exact h
    cases e with
    | call operation => exact aside (.call operation)
    | grant => exact aside .grant
    | choose => exact aside .choose
    | dialed result => exact aside (.dialed result)
    | enter => exact aside .enter
    | ended n ending => exact aside (.ended n ending)
    | abandoned k => exact absurd rfl (kept k)
    | register =>
      have mail (n : Nat) (stage : x.stage = .registering n) : x.mail = none :=
        blank x held fun m => by simp [stage]
      have settles : lane.settling .register = [] := by
        cases waits : filing? x <;> simp [settling, held, waits, settlement?]
      rw [register_conserves held mail, settles]
      simp [step, proceed, held]
    | wrote result =>
      refine proper rfl ?_
      simp only [step, proceed, held]
      exact wrote_conserves held result
    | wake expired =>
      refine proper rfl ?_
      simp only [step, proceed, held]
      exact wake_conserves held expired
    | received n payload =>
      refine proper rfl (attend_conserves ?_ (received_unsettling payload held))
      exact fun c entry reading => received_conserves listed held payload entry reading
    | drained n =>
      refine proper rfl (attend_conserves ?_ (drained_unsettling held))
      exact fun c entry stopping => drained_conserves listed held entry stopping

/-- The requests that are down are those that are awaited, each with its connection. -/
def Filed (lane : Lane) : Prop :=
  ∀ n c, lane.connections[n]? = some c →
    c.pending = (lane.awaiting.filter (·.connection = n)).map (·.id)

theorem getElem?_modify_some {connections : List Connection} {n m : Nat}
    {f : Connection → Connection} {c : Connection} (entry : (connections.modify n f)[m]? = some c) :
    ∃ d, connections[m]? = some d ∧ c = if n = m then f d else d := by
  rw [List.getElem?_modify] at entry
  obtain ⟨d, hd, rfl⟩ := Option.map_eq_some_iff.mp entry
  exact ⟨d, hd, rfl⟩

theorem closing_emptied {slot : Option Nat} {connections : List Connection}
    (empty : ∀ (m : Nat) (c : Connection), connections[m]? = some c → c.pending = []) {m : Nat}
    {c : Connection} (entry : (closing slot connections)[m]? = some c) : c.pending = [] := by
  cases slot with
  | none => exact empty m c entry
  | some n =>
    obtain ⟨d, before, rfl⟩ := getElem?_modify_some entry
    have pending := empty m d before
    split <;> exact pending

theorem Filed.empty (h : Filed lane) (idle : lane.awaiting = []) {n : Nat} {c : Connection}
    (entry : lane.connections[n]? = some c) : c.pending = [] := by
  rw [h n c entry, idle]
  rfl

theorem Snag.emptied {error : ChannelError} {sent : Bool} {connections : List Connection}
    (snag : Snag patience lane x e error sent connections) (held : lane.exchange = some x)
    (filed : Filed lane) {m : Nat} {c : Connection} (entry : connections[m]? = some c) :
    c.pending = [] := by
  have untouched (idle : filing? x = none) (same : connections = lane.connections) :
      c.pending = [] := by
    subst same
    exact filed.empty (by rw [awaiting_some held, idle]; rfl) entry
  have taken {n : Nat} (stage : x.stage = .writing n ∨ x.stage = .waiting n)
      (same : connections = withdrawn n x.request.id lane.connections) : c.pending = [] := by
    subst same
    obtain ⟨d, hd, rfl⟩ := getElem?_modify_some entry
    have down := filed m d hd
    rw [awaiting_some held] at down
    cases mail : x.mail with
    | some r =>
      have idle : filing? x = none := by
        rcases stage with stage | stage <;> simp [filing?, stage, mail]
      rw [idle] at down
      split <;> simp_all
    | none =>
      have waits : filing? x = some ⟨x.ticket, n, x.request.id⟩ :=
        filing?_eq_some.mpr ⟨stage, mail, rfl, rfl⟩
      rw [waits] at down
      split <;> simp_all
  cases snag with
  | refused stage | unreachable _ stage | slow stage =>
    exact untouched (by simp [filing?, stage]) rfl
  | shut n stage => exact untouched (by simp [filing?, stage]) rfl
  | told n _ error stage mail => exact untouched (by simp [filing?, stage, mail]) rfl
  | oversized n _ _ stage | unwritten n _ stage => exact taken (.inl stage) rfl
  | overdue n stage | lost n stage => exact taken (.inr stage) rfl

/-- Whatever is handed over goes to those that are down, and they are down no more. -/
theorem Handing.filed {n : Nat} {ids : List RequestId} {m : Except ChannelError Response}
    {connections : List Connection} (handing : Handing lane e n ids m connections)
    (h : Filed lane) {k : Nat} {c : Connection} (entry : connections[k]? = some c) :
    c.pending = ((lane.awaiting.filter fun w => ¬ (w.connection = n ∧ w.id ∈ ids)).filter
      (·.connection = k)).map (·.id) := by
  have apart {d : Connection} (other : n ≠ k) (before : lane.connections[k]? = some d) :
      d.pending = ((lane.awaiting.filter fun w => ¬ (w.connection = n ∧ w.id ∈ ids)).filter
        (·.connection = k)).map (·.id) := by
    rcases lane.awaiting_cases with idle | ⟨w, down⟩
    · simp [h k d before, idle]
    · by_cases on : w.connection = k
      · simp [h k d before, down, on, Ne.symm other]
      · by_cases meant : w.connection = n ∧ w.id ∈ ids <;>
          simp [h k d before, down, on, meant, other]
  have all {c' : Connection} (entry' : lane.connections[n]? = some c') (ids_eq : ids = c'.pending) :
      ((lane.awaiting.filter fun w => ¬ (w.connection = n ∧ w.id ∈ ids)).filter
        (·.connection = n)).map (·.id) = [] := by
    rw [ids_eq, h n c' entry']
    rcases lane.awaiting_cases with idle | ⟨w, down⟩
    · simp [idle]
    · by_cases on : w.connection = n <;> simp [down, on]
  cases handing with
  | reply n c' payload r entry' reading decoded awaited =>
    obtain ⟨d, before, rfl⟩ := getElem?_modify_some entry
    by_cases here : n = k
    · subst here
      rw [if_pos rfl]
      rcases lane.awaiting_cases with idle | ⟨w, down⟩
      · simp [h n d before, idle]
      · by_cases on : w.connection = n <;> by_cases own : w.id = r.id <;>
          simp [h n d before, down, on, own]
    · rw [if_neg here]
      exact apart here before
  | unreadable n c' payload error entry' =>
    obtain ⟨d, before, rfl⟩ := getElem?_modify_some entry
    by_cases here : n = k
    · subst here
      rw [if_pos rfl, all entry' rfl]
    · rw [if_neg here]
      exact apart here before
  | gone n c' entry' =>
    obtain ⟨d, middle, rfl⟩ := getElem?_modify_some entry
    obtain ⟨d', before, rfl⟩ := getElem?_modify_some middle
    by_cases here : n = k
    · subst here
      rw [if_pos rfl, all entry' rfl]
    · rw [if_neg here, if_neg here]
      exact apart here before

theorem Move.filed (move : Move target patience id lane e lane')
    (blank : Blank lane) (kept : ∀ k, e ≠ .abandoned k) (h : Filed lane) : Filed lane' := by
  have cleared {lane' : Lane} {connections : List Connection} (after : lane'.awaiting = [])
      (same : lane'.connections = connections)
      (empty : ∀ (m : Nat) (c : Connection), connections[m]? = some c → c.pending = []) :
      Filed lane' := by
    subst same
    intro m c entry
    rw [empty m c entry, after]
    rfl
  have closed (idle : lane.awaiting = []) (m : Nat) (c : Connection)
      (entry : (closing lane.slot lane.connections)[m]? = some c) : c.pending = [] :=
    closing_emptied (fun _ _ before => h.empty idle before) entry
  have done {x : Exchange} {n : Nat} {r : Response} (held : lane.exchange = some x)
      (stage : x.stage = .waiting n) (mail : x.mail = some (.ok r)) : lane.awaiting = [] := by
    rw [awaiting_some held]
    simp [filing?, stage, mail]
  cases move with
  | idle | refused | queued => exact h
  | attached _ _ _ _ free | left _ _ _ _ free => exact cleared rfl rfl (closed (awaiting_none free))
  | started _ _ _ _ _ _ free | detached _ _ _ _ free =>
    exact cleared rfl rfl fun m c entry => h.empty (awaiting_none free) entry
  | staged e x stage held next =>
    intro m c entry
    rw [next.awaiting held]
    exact h m c entry
  | connected x log held stage =>
    have idle : lane.awaiting = [] := by
      rw [awaiting_some held]
      simp [filing?, stage]
    refine cleared (by simp [awaiting, filing?]) rfl fun m c entry => ?_
    rw [List.getElem?_append] at entry
    split at entry
    next => exact h.empty idle entry
    next =>
      cases List.mem_singleton.mp (List.mem_of_getElem? entry)
      rfl
  | registered x n held stage =>
    have idle : lane.awaiting = [] := by
      rw [awaiting_some held]
      simp [filing?, stage]
    have mail : x.mail = none := blank x held fun m => by simp [stage]
    intro m c entry
    obtain ⟨d, before, rfl⟩ := getElem?_modify_some entry
    by_cases here : n = m
    · simp [here, awaiting, filing?, mail, h.empty idle before]
    · simp [here, awaiting, filing?, mail, h.empty idle before]
  | transmitted x n frame held stage =>
    intro m c entry
    rw [h m c entry, awaiting_some held]
    cases mail : x.mail <;> simp [awaiting, filing?, stage, mail]
  | unheard e x error sent connections log held snag
  | repeated e x error sent connections log held snag =>
    refine cleared rfl rfl fun m c entry => ?_
    exact closing_emptied (fun _ _ before => snag.emptied held h before) entry
  | failed e x error sent connections log held snag =>
    refine cleared rfl rfl fun m c entry => ?_
    split at entry
    next => exact closing_emptied (fun _ _ before => snag.emptied held h before) entry
    next => exact snag.emptied held h entry
  | halted x n r expired log held stage mail =>
    exact cleared rfl rfl (closed (done held stage mail))
  | misjudged x n r expired error held stage mail
  | answered x n r expired reply log held stage mail =>
    exact cleared rfl rfl fun m c entry => h.empty (done held stage mail) entry
  | handed e n ids mail connections log handing =>
    intro k c entry
    rw [awaiting, posted_awaiting]
    exact handing.filed h entry
  | ended n c ending log entry =>
    intro m d after
    obtain ⟨d', before, rfl⟩ := getElem?_modify_some after
    have pending := h m d' before
    split <;> exact pending
  | abandoned ticket => exact absurd rfl (kept ticket)

end Lane

end ClassSwap
