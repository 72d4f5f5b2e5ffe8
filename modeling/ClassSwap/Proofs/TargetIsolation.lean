import ClassSwap.Proofs.LaneKinship
import ClassSwap.Proofs.MessageText
import ClassSwap.Proofs.RequestSettlement

namespace ClassSwap

open Channel

namespace Lane

variable {target : Target} {patience : Duration} {id : RequestId} {lane lane' : Lane}
  {x y : Exchange} {e e' : LaneEvent} {n : Nat}

theorem registering_held (held : lane.exchange = some x) (stage : x.stage = .registering n) :
    lane.registering .register = [⟨x.ticket, n, x.request.id⟩] := by
  simp only [registering, held, stage]

theorem registering_nil (held : lane.exchange = some x)
    (stage : x.stage = .writing n ∨ x.stage = .waiting n) : lane.registering e = [] := by
  cases e with
  | register => rcases stage with stage | stage <;> simp only [registering, held, stage]
  | _ => rfl

/-- The request of an attempt that awaits a response was down before a move, or is put down by
it. -/
theorem Move.putDown (move : Move target patience id lane e lane')
    (held : lane'.exchange = some y) (stage : y.stage = .writing n ∨ y.stage = .waiting n) :
    ∃ x, lane.exchange = some x ∧ y.ticket = x.ticket ∧ y.request = x.request ∧
      ((x.stage = .writing n ∨ x.stage = .waiting n) ∨
        e = .register ∧ x.stage = .registering n) := by
  cases move with
  | idle | refused | queued | ended => exact ⟨y, held, rfl, rfl, .inl stage⟩
  | abandoned ticket =>
    exact ⟨y, Option.eq_some_of_filter_eq_some held, rfl, rfl, .inl stage⟩
  | started | repeated | connected =>
    cases held
    rcases stage with stage | stage <;> cases stage
  | staged e x stage' holds next =>
    cases held
    cases next with
    | keep | dial | pass => rcases stage with stage | stage <;> cases stage
    | unanswered | early | linked => exact ⟨x, holds, rfl, rfl, .inl stage⟩
  | registered x m holds before =>
    cases held
    have on : n = m := by
      rcases stage with stage | stage <;> cases stage
      rfl
    exact ⟨x, holds, rfl, rfl, .inr ⟨rfl, on ▸ before⟩⟩
  | transmitted x m frame holds before =>
    cases held
    have on : n = m := by
      rcases stage with stage | stage <;> cases stage
      rfl
    exact ⟨x, holds, rfl, rfl, .inl (.inl (on ▸ before))⟩
  | handed e m ids mail connections log handing =>
    obtain ⟨x, hx, same, kept, _⟩ := exchange_of_posted held
    exact ⟨x, hx, same.ticket, same.request, .inl (kept ▸ stage)⟩
  | _ => cases held

theorem Akin.registering_length (h : Akin lane lane') {numbers : List (RequestId × RequestId)}
    (alike : LaneEvent.Alike numbers e e') :
    (lane'.registering e').length = (lane.registering e).length := by
  cases alike with
  | reply | unreadable => rfl
  | same e =>
    cases e with
    | register =>
      rcases h.held_or_free with ⟨free, free'⟩ | ⟨x, y, held, held', same⟩
      · simp only [registering, free, free']
      · simp only [registering, held, held', same.stage]
        split <;> rfl
    | _ => rfl

theorem Akin.framing_length (h : Akin lane lane') {numbers : List (RequestId × RequestId)}
    (alike : LaneEvent.Alike numbers e e') :
    (lane'.framing e').length = (lane.framing e).length := by
  cases alike with
  | reply | unreadable => rfl
  | same e =>
    cases e with
    | wrote result =>
      rcases h.held_or_free with ⟨free, free'⟩ | ⟨x, y, held, held', same⟩
      · simp only [framing, free, free']
      · simp only [framing, held, held', same.stage]
        split <;> rfl
    | _ => rfl

theorem step_oversized {count : Nat} {result : Writing}
    (after : lane.step target patience id (.wrote result) = lane') (held : lane.exchange = some x)
    (stage : x.stage = .writing n) (size : Frame.encode x.request.json = .error (.tooLarge count))
    (going : x.request.command ≠ .halt) :
    lane'.exchange = none ∧ lane'.finished = lane.finished ++
      [⟨x.ticket, .send x.request.command x.timeout, .failed (.ofCodec (.tooLarge count))⟩] := by
  subst after
  obtain ⟨log, failed⟩ := fail_unlost target (lane.withdraw n x.request.id) going
    (e := .ofCodec (.tooLarge count)) rfl false
  simp only [step, proceed, held, wrote, stage, size, failed]
  exact ⟨trivial, rfl⟩

/-- A lane that no call holds is not moved by what arrives. -/
theorem step_received_free {payload : Bytes}
    (after : lane.step target patience id (.received n payload) = lane')
    (listed : lane.Listed) (free : lane.exchange = none) :
    lane'.exchange = none ∧ lane'.finished = lane.finished := by
  subst after
  have move := step_move target patience id lane (.received n payload)
  refine ⟨move.vacant free nofun, ?_⟩
  simp only [step, attend]
  split
  next c entry =>
    split
    next =>
      cases decoded : Frame.decode Response.read payload with
      | error e => simp only [received, decoded, deliverAll_eq]; rfl
      | ok r =>
        obtain ⟨_, _, eq, _⟩ := listed.received_eq entry decoded
        rw [eq]
    next => rfl
  next => rfl

end Lane

namespace Channel

variable {patience : Duration} {t : Target} {events events' : History}

/-- The request of an attempt that awaits a response is the last that was put down. -/
theorem last_registered (patience : Duration) (t : Target) (events : History) :
    ∀ x n, ((after patience events).lane t).exchange = some x →
      (x.stage = .writing n ∨ x.stage = .waiting n) →
      (registered t (fresh patience) events).getLast? = some ⟨x.ticket, n, x.request.id⟩ := by
  refine lane_induction (P := fun events lane => ∀ x n, lane.exchange = some x →
    (x.stage = .writing n ∨ x.stage = .waiting n) →
    (registered t (fresh patience) events).getLast? = some ⟨x.ticket, n, x.request.id⟩) ?_ ?_ ?_
    events
  · intro x n held
    cases held
  · intro events e other ih x n held stage
    rw [registered, record_elsewhere _ _ events other]
    exact ih x n held stage
  · intro events e lane' ih move _ y n held stage
    rw [registered, record_here]
    obtain ⟨x, before, ticket, request, down | ⟨rfl, puts⟩⟩ := move.putDown held stage
    · rw [ticket, request, Lane.registering_nil before down, List.append_nil]
      exact ih x n before down
    · rw [ticket, request]
      show (_ ++ Lane.registering ((after patience events).lane t) .register).getLast? = _
      rw [Lane.registering_held before puts, List.getLast?_concat]

/-- The numbers of the requests that stand for one another in two runs: those put down first, those
put down second, and so on. -/
def numbers (patience : Duration) (t : Target) (events events' : History) :
    List (RequestId × RequestId) :=
  ((registered t (fresh patience) events).map (·.id)).zip
    ((registered t (fresh patience) events').map (·.id))

/-- Two runs in which the same happens on a target. -/
inductive SameOn (patience : Duration) (t : Target) : History → History → Prop
  | start : SameOn patience t [] []
  | left {events events' : History} (same : SameOn patience t events events')
      (e : Target × LaneEvent) (other : e.1 ≠ t) : SameOn patience t (events ++ [e]) events'
  | right {events events' : History} (same : SameOn patience t events events')
      (e : Target × LaneEvent) (other : e.1 ≠ t) : SameOn patience t events (events' ++ [e])
  | both {events events' : History} (same : SameOn patience t events events') (e e' : LaneEvent)
      (alike : LaneEvent.Alike (numbers patience t events events') e e') :
      SameOn patience t (events ++ [(t, e)]) (events' ++ [(t, e')])

/-- The requests for a target that come to be framed, in order. -/
def framed (t : Target) (c : Channel) (events : History) : List Request :=
  record Lane.framing t c events

/-- The limit on frames treats the requests for a target alike in two runs. -/
def FitAlike (patience : Duration) (t : Target) (events events' : History) : Prop :=
  ∀ pair ∈ (framed t (fresh patience) events).zip (framed t (fresh patience) events'),
    pair.1.FitAlike pair.2

theorem registered_here (patience : Duration) (t : Target) (events : History) (e : LaneEvent) :
    registered t (fresh patience) (events ++ [(t, e)]) =
      registered t (fresh patience) events ++ ((after patience events).lane t).registering e :=
  record_here _ _ _ _ _

theorem framed_here (patience : Duration) (t : Target) (events : History) (e : LaneEvent) :
    framed t (fresh patience) (events ++ [(t, e)]) =
      framed t (fresh patience) events ++ ((after patience events).lane t).framing e :=
  record_here _ _ _ _ _

/-- What two runs have in common on a target. -/
structure Agree (patience : Duration) (t : Target) (events events' : History) : Prop where
  akin : ((after patience events).lane t).Akin ((after patience events').lane t)
  registered : (registered t (fresh patience) events').length =
    (registered t (fresh patience) events).length
  framed : (framed t (fresh patience) events').length = (framed t (fresh patience) events).length
  sent : ∀ pair ∈ ((after patience events).lane t).sent.zip ((after patience events').lane t).sent,
    (pair.1.request.id, pair.2.request.id) ∈ numbers patience t events events'

/-- The attempts under way in two runs stand for one another once their requests are put down. -/
theorem Agree.paired (agree : Agree patience t events events') {x y : Exchange} {n : Nat}
    (held : ((after patience events).lane t).exchange = some x)
    (held' : ((after patience events').lane t).exchange = some y)
    (stage : x.stage = .writing n ∨ x.stage = .waiting n) :
    (x.request.id, y.request.id) ∈ numbers patience t events events' := by
  have related := agree.akin.exchange
  rw [held, held'] at related
  cases related with
  | some same =>
    have last := last_registered patience t events x n held stage
    have last' := last_registered patience t events' y n held' (same.stage ▸ stage)
    rw [List.getLast?_eq_getElem?] at last last'
    rw [agree.registered] at last'
    apply List.mem_of_getElem?
    rw [numbers, List.getElem?_zip_eq_some]
    rw [List.getElem?_map, List.getElem?_map, last, last']
    exact ⟨rfl, rfl⟩

theorem untouched (patience : Duration) (events : History) {e : Target × LaneEvent}
    (other : e.1 ≠ t) :
    (after patience (events ++ [e])).lane t = (after patience events).lane t ∧
      registered t (fresh patience) (events ++ [e]) = registered t (fresh patience) events ∧
      framed t (fresh patience) (events ++ [e]) = framed t (fresh patience) events := by
  refine ⟨?_, record_elsewhere _ _ events other, record_elsewhere _ _ events other⟩
  rw [after, run_concat, lane_step_of_ne _ _ (Ne.symm other)]

theorem Agree.left (agree : Agree patience t events events') {e : Target × LaneEvent}
    (other : e.1 ≠ t) : Agree patience t (events ++ [e]) events' := by
  obtain ⟨lane, filings, frames⟩ := untouched patience events other
  obtain ⟨akin, registered, framed, sent⟩ := agree
  constructor
  · rwa [lane]
  · rwa [filings]
  · rwa [frames]
  · rwa [lane, numbers, filings]

theorem Agree.right (agree : Agree patience t events events') {e : Target × LaneEvent}
    (other : e.1 ≠ t) : Agree patience t events (events' ++ [e]) := by
  obtain ⟨lane, filings, frames⟩ := untouched patience events' other
  obtain ⟨akin, registered, framed, sent⟩ := agree
  constructor
  · rwa [lane]
  · rwa [filings]
  · rwa [frames]
  · rwa [lane, numbers, filings]

theorem mem_zip_append {α β : Type} {as : List α} {bs : List β} {pair : α × β} (cs : List α)
    (ds : List β) (mem : pair ∈ as.zip bs) : pair ∈ (as ++ cs).zip (bs ++ ds) := by
  obtain ⟨i, entry⟩ := List.mem_iff_getElem?.mp mem
  obtain ⟨left, right⟩ := List.getElem?_zip_eq_some.mp entry
  apply List.mem_of_getElem?
  rw [List.getElem?_zip_eq_some]
  exact ⟨getElem?_append_of_some cs left, getElem?_append_of_some ds right⟩

theorem numbers_subset (e e' : LaneEvent) {pair : RequestId × RequestId}
    (mem : pair ∈ numbers patience t events events') :
    pair ∈ numbers patience t (events ++ [(t, e)]) (events' ++ [(t, e')]) := by
  rw [numbers, registered_here, registered_here, List.map_append, List.map_append]
  exact mem_zip_append _ _ mem

theorem FitAlike.before {e e' : LaneEvent}
    (fit : FitAlike patience t (events ++ [(t, e)]) (events' ++ [(t, e')])) :
    FitAlike patience t events events' := by
  intro pair mem
  apply fit pair
  rw [framed_here, framed_here]
  exact mem_zip_append _ _ mem

theorem FitAlike.last {e e' : LaneEvent}
    (fit : FitAlike patience t (events ++ [(t, e)]) (events' ++ [(t, e')]))
    (lengths : (framed t (fresh patience) events').length =
      (framed t (fresh patience) events).length) :
    ∀ pair ∈ (((after patience events).lane t).framing e).zip
      (((after patience events').lane t).framing e'), pair.1.FitAlike pair.2 := by
  intro pair mem
  apply fit pair
  rw [framed_here, framed_here, List.zip_append lengths.symm]
  exact List.mem_append_right _ mem

theorem Agree.sent_both (agree : Agree patience t events events') {e e' : LaneEvent}
    (akin : ((after patience (events ++ [(t, e)])).lane t).Akin
      ((after patience (events' ++ [(t, e')])).lane t)) :
    ∀ pair ∈ ((after patience (events ++ [(t, e)])).lane t).sent.zip
        ((after patience (events' ++ [(t, e')])).lane t).sent,
      (pair.1.request.id, pair.2.request.id) ∈
        numbers patience t (events ++ [(t, e)]) (events' ++ [(t, e')]) := by
  have before : ((after patience events').lane t).sent.length =
      ((after patience events).lane t).sent.length := by
    simpa only [List.length_map] using congrArg List.length agree.akin.sent
  have later : ((after patience (events' ++ [(t, e')])).lane t).sent.length =
      ((after patience (events ++ [(t, e)])).lane t).sent.length := by
    simpa only [List.length_map] using congrArg List.length akin.sent
  rw [after_here, after_here] at later ⊢
  intro pair mem
  apply numbers_subset e e'
  rcases (Lane.step_move t patience _ ((after patience events).lane t) e).sent with
    same | ⟨x, n, _, held, stage, _, grown, _⟩
  · rcases (Lane.step_move t patience _ ((after patience events').lane t) e').sent with
      same' | ⟨y, m, _, held', stage', _, grown', _⟩
    · rw [same, same'] at mem
      exact agree.sent pair mem
    · rw [same, grown', List.length_append, List.length_singleton] at later
      omega
  · rcases (Lane.step_move t patience _ ((after patience events').lane t) e').sent with
      same' | ⟨y, m, _, held', stage', _, grown', _⟩
    · rw [same', grown, List.length_append, List.length_singleton] at later
      omega
    · rw [grown, grown', List.zip_append before.symm] at mem
      rcases List.mem_append.mp mem with old | new
      · exact agree.sent pair old
      · rw [List.zip_cons_cons, List.zip_nil_left, List.mem_singleton] at new
        rw [new]
        exact agree.paired held held' (.inl stage)

theorem Agree.both (agree : Agree patience t events events') {e e' : LaneEvent}
    (alike : LaneEvent.Alike (numbers patience t events events') e e')
    (fit : ∀ pair ∈ (((after patience events).lane t).framing e).zip
      (((after patience events').lane t).framing e'), pair.1.FitAlike pair.2) :
    Agree patience t (events ++ [(t, e)]) (events' ++ [(t, e')]) := by
  have akin : ((after patience (events ++ [(t, e)])).lane t).Akin
      ((after patience (events' ++ [(t, e')])).lane t) := by
    rw [after_here, after_here]
    exact agree.akin.step (listed patience t events) (listed patience t events') alike
      (fun x y n held held' stage => agree.paired held held' stage) fit
  constructor
  case akin => exact akin
  case registered =>
    rw [registered_here, registered_here, List.length_append, List.length_append,
      agree.registered, agree.akin.registering_length alike]
  case framed =>
    rw [framed_here, framed_here, List.length_append, List.length_append, agree.framed,
      agree.akin.framing_length alike]
  case sent => exact agree.sent_both akin

/-- Two runs in which the same happens on a target agree on it. -/
theorem SameOn.agree (same : SameOn patience t events events')
    (fit : FitAlike patience t events events') : Agree patience t events events' := by
  induction same with
  | start =>
    refine ⟨?_, rfl, rfl, nofun⟩
    exact ⟨rfl, rfl, rfl, .none, rfl, rfl, rfl, rfl, rfl⟩
  | @left events events' same e other ih =>
    rw [FitAlike, (untouched patience events other).2.2] at fit
    exact (ih fit).left other
  | @right events events' same e other ih =>
    rw [FitAlike, (untouched patience events' other).2.2] at fit
    exact (ih fit).right other
  | @both events events' same e e' alike ih =>
    have earlier := ih fit.before
    exact earlier.both alike (fit.last earlier.framed)

/-- Targets do not interfere: two runs in which the same happens on a target agree on what is known
of it, on what its calls come to and on the frames that go out for it, up to the numbers of the
requests. What happens on another target never touches it. -/
theorem targets_isolated (same : SameOn patience t events events')
    (fit : FitAlike patience t events events') :
    let lane := (after patience events).lane t
    let lane' := (after patience events').lane t
    (after patience events').standing t = (after patience events).standing t ∧
      lane'.finished = lane.finished ∧
      lane'.sent.map Transmission.unnumbered = lane.sent.map Transmission.unnumbered ∧
      (∀ pair ∈ lane.sent.zip lane'.sent,
        (pair.1.request.id, pair.2.request.id) ∈ numbers patience t events events') ∧
      ∀ u e, u ≠ t → ((after patience events).step u e).lane t = lane := by
  intro lane lane'
  have agree := same.agree fit
  exact ⟨agree.akin.standing, agree.akin.finished, agree.akin.sent, agree.sent,
    fun u e other => lane_step_of_ne _ _ (Ne.symm other)⟩

/-- What happens on other targets beforehand, and which numbers are used up there, makes no
difference to events that bring no response. -/
theorem SameOn.beside {others : History} (elsewhere : ∀ e ∈ others, e.1 ≠ t) (own : List LaneEvent)
    (quiet : ∀ e ∈ own, ∀ n payload, e ≠ .received n payload) :
    SameOn patience t (own.map (t, ·)) (others ++ own.map (t, ·)) := by
  induction own using List.reverseRecOn with
  | nil =>
    rw [List.map_nil, List.append_nil]
    induction others using List.reverseRecOn with
    | nil => exact .start
    | append_singleton others e ih =>
      have before := ih fun e mem => elsewhere e (List.mem_append_left _ mem)
      exact before.right e (elsewhere e (by simp))
  | append_singleton own e ih =>
    have before := ih fun e mem => quiet e (List.mem_append_left _ mem)
    rw [List.map_append, ← List.append_assoc]
    exact before.both e e (.same e (quiet e (by simp)))

/-- A target at whose endpoint nobody listens uses up nine numbers. -/
def busy : History :=
  (.call (.attach ⟨"localhost", 6713⟩) :: .grant ::
    (List.replicate 9 [LaneEvent.call (.send .listClasses (.ofSecs 15)), .grant, .choose,
      .dialed .refused]).flatten).map (Target.process 8, ·)

/-- An upload over a new connection, up to where its frame is made. -/
def uploading (body : String) : History :=
  [.call (.attach ⟨"localhost", 6712⟩), .grant,
    .call (.send (.uploadClass "app.A" body) (.ofSecs 15)), .grant, .choose, .dialed .connected,
    .enter, .register].map (Target.process 7, ·)

def uploaded (past : History) (body : String) (id : RequestId) : History :=
  past ++ uploading body ++ [(.process 7, .wrote .written)] ++
    [(.process 7, .received 0 (Frame.payloadOf (Response.accept id .uploadClass).json))] ++
    [(.process 7, .wake false)]

theorem uploaded_same (body : String) :
    SameOn (.ofSecs 5) (.process 7) (uploaded [] body 1) (uploaded busy body 10) := by
  have elsewhere : ∀ e ∈ busy, e.1 ≠ Target.process 7 := by decide +kernel
  have opened : SameOn (.ofSecs 5) (.process 7) (uploading body) (busy ++ uploading body) := by
    refine .beside elsewhere _ ?_
    simp
  have pairs : numbers (.ofSecs 5) (.process 7) (uploading body ++ [(.process 7, .wrote .written)])
      (busy ++ uploading body ++ [(.process 7, .wrote .written)]) = [(1, 10)] := rfl
  have answers : LaneEvent.Alike [(1, 10)]
      (.received 0 (Frame.payloadOf (Response.accept 1 .uploadClass).json))
      (.received 0 (Frame.payloadOf (Response.accept 10 .uploadClass).json)) := by
    refine .reply 0 _ _ _ _ (Response.decode_payloadOf _) (Response.decode_payloadOf _) rfl ?_
    simp [Response.accept]
  have sent := opened.both _ _ (.same (.wrote .written) nofun)
  have answered := sent.both _ _ (pairs ▸ answers)
  exact answered.both _ _ (.same (.wake false) nofun)

def uploadRequest (body : String) (id : RequestId) : Request :=
  ⟨id, "localhost", 6712, .uploadClass "app.A" body⟩

theorem targets_isolated_upload :
    SameOn (.ofSecs 5) (.process 7) (uploaded [] "AAAA" 1) (uploaded busy "AAAA" 10) ∧
      FitAlike (.ofSecs 5) (.process 7) (uploaded [] "AAAA" 1) (uploaded busy "AAAA" 10) ∧
      ((after (.ofSecs 5) (uploaded [] "AAAA" 1)).lane (.process 7)).finished =
        [⟨0, .attach ⟨"localhost", 6712⟩, .attached⟩,
          ⟨1, .send (.uploadClass "app.A" "AAAA") (.ofSecs 15), .answered (.ack none)⟩] ∧
      ((after (.ofSecs 5) (uploaded busy "AAAA" 10)).lane (.process 7)).finished =
        ((after (.ofSecs 5) (uploaded [] "AAAA" 1)).lane (.process 7)).finished := by
  have same := uploaded_same "AAAA"
  have first : framed (.process 7) (fresh (.ofSecs 5)) (uploaded [] "AAAA" 1) =
      [uploadRequest "AAAA" 1] := by decide +kernel
  have tenth : framed (.process 7) (fresh (.ofSecs 5)) (uploaded busy "AAAA" 10) =
      [uploadRequest "AAAA" 10] := by decide +kernel
  have fit : FitAlike (.ofSecs 5) (.process 7) (uploaded [] "AAAA" 1)
      (uploaded busy "AAAA" 10) := by
    rw [FitAlike, first, tenth]
    intro pair mem
    cases List.mem_singleton.mp mem
    exact .inr (by decide +kernel)
  exact ⟨same, fit, by decide +kernel, (targets_isolated same fit).2.1⟩

/-- A body whose request just fits into a frame if its number has one digit. -/
def bulk : String := String.ofList (List.replicate 67108776 'A')

theorem length_bulk (id : RequestId) {rest : Nat}
    (empty : (Frame.payloadOf (uploadRequest "" id).json).length = rest) :
    (Frame.payloadOf (uploadRequest bulk id).json).length = rest + 67108776 := by
  subst empty
  exact Request.length_payloadOf_upload id "localhost" 6712 "app.A" 67108776

theorem bulk_fits : ∃ frame, Frame.encode (uploadRequest bulk 1).json = .ok frame := by
  have empty : (Frame.payloadOf (uploadRequest "" 1).json).length = 88 := by decide +kernel
  have small : (Frame.payloadOf (uploadRequest bulk 1).json).length ≤ Frame.maxPayload := by
    rw [length_bulk 1 empty]
    decide
  exact ⟨_, Frame.ofPayload_eq_ok_iff.mpr ⟨small, rfl⟩⟩

theorem bulk_tooLarge :
    Frame.encode (uploadRequest bulk 10).json = .error (.tooLarge 67108865) := by
  have empty : (Frame.payloadOf (uploadRequest "" 10).json).length = 89 := by decide +kernel
  apply Frame.encode_eq_error_iff.mpr
  rw [length_bulk 10 empty]
  exact ⟨by decide, by decide⟩

/-- How far the upload has come when its frame is made. -/
def attempt (body : String) (id : RequestId) : Exchange :=
  { ticket := 1, request := uploadRequest body id, timeout := .ofSecs 15, reused := false,
    stage := .writing 0 }

theorem uploaded_answered {body : String} {frame : Bytes}
    (whole : Frame.encode (uploadRequest body 1).json = .ok frame) :
    (⟨1, .send (.uploadClass "app.A" body) (.ofSecs 15), .answered (.ack none)⟩ : Finished) ∈
      ((after (.ofSecs 5) (uploaded [] body 1)).lane (.process 7)).finished := by
  have held : ((after (.ofSecs 5) (uploading body)).lane (.process 7)).exchange =
      some (attempt body 1) := rfl
  have kept : ((after (.ofSecs 5) (uploading body)).lane (.process 7)).Kept 0
      ⟨⟨"localhost", 6712⟩, false, [1], .reading⟩ := ⟨rfl, rfl, rfl, rfl⟩
  obtain ⟨sent, waits⟩ := kept.wrote (after_here _ _ _ _).symm held rfl whole
  obtain ⟨_, heard⟩ := sent.received (after_here _ _ _ _).symm
  have told : ((after (.ofSecs 5) (uploading body ++ [(.process 7, .wrote .written)] ++
      [(.process 7, .received 0 (Frame.payloadOf (Response.accept 1 .uploadClass).json))])).lane
        (.process 7)).exchange =
      some { attempt body 1 with
        stage := .waiting 0, mail := some (.ok (.accept 1 .uploadClass)) } := by
    rw [after_here]
    exact Lane.step_received waits (.inr rfl) rfl sent.entry sent.reading
      (List.mem_singleton_self _) (Response.decode_payloadOf _) rfl
  exact (heard.answer (after_here _ _ _ _).symm told rfl rfl rfl nofun).2.2

theorem uploaded_refused {body : String}
    (size : Frame.encode (uploadRequest body 10).json = .error (.tooLarge 67108865)) :
    ((after (.ofSecs 5) (uploaded busy body 10)).lane (.process 7)).finished =
      [⟨0, .attach ⟨"localhost", 6712⟩, .attached⟩,
        ⟨1, .send (.uploadClass "app.A" body) (.ofSecs 15), .failed (.protocolMismatch
          "frame too large (67108865 bytes, max 67108864)")⟩] := by
  have held : ((after (.ofSecs 5) (busy ++ uploading body)).lane (.process 7)).exchange =
      some (attempt body 10) := rfl
  have earlier : ((after (.ofSecs 5) (busy ++ uploading body)).lane (.process 7)).finished =
      [⟨0, .attach ⟨"localhost", 6712⟩, .attached⟩] := rfl
  obtain ⟨free, refused⟩ := Lane.step_oversized
    (after_here _ _ _ (.wrote .written)).symm held rfl size nofun
  obtain ⟨vacant, heard⟩ := Lane.step_received_free (after_here _ _ _
    (.received 0 (Frame.payloadOf (Response.accept 10 .uploadClass).json))).symm (listed _ _ _) free
  rw [uploaded, after_here]
  simp only [Lane.step, Lane.proceed, vacant]
  rw [heard, refused, earlier]
  rfl

/-- An upload that is answered as long as its target is alone does not even go out if the other
target has used up the short numbers. -/
theorem bulk_upload_crowded_out :
    SameOn (.ofSecs 5) (.process 7) (uploaded [] bulk 1) (uploaded busy bulk 10) ∧
      (⟨1, .send (.uploadClass "app.A" bulk) (.ofSecs 15), .answered (.ack none)⟩ : Finished) ∈
        ((after (.ofSecs 5) (uploaded [] bulk 1)).lane (.process 7)).finished ∧
      ((after (.ofSecs 5) (uploaded busy bulk 10)).lane (.process 7)).finished =
        [⟨0, .attach ⟨"localhost", 6712⟩, .attached⟩,
          ⟨1, .send (.uploadClass "app.A" bulk) (.ofSecs 15), .failed (.protocolMismatch
            "frame too large (67108865 bytes, max 67108864)")⟩] := by
  obtain ⟨frame, whole⟩ := bulk_fits
  exact ⟨uploaded_same bulk, uploaded_answered whole, uploaded_refused bulk_tooLarge⟩

end Channel

end ClassSwap
