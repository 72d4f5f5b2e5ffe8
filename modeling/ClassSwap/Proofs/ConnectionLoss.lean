import ClassSwap.Proofs.SessionBounds
import ClassSwap.Proofs.StandingLedger

namespace ClassSwap

open Channel

namespace Lane

variable {target : Target} {patience : Duration} {id : RequestId} {lane lane' : Lane}
  {x : Exchange} {e : LaneEvent}

/-- With this event the connection that is kept is lost: its reader comes to the end of the stream
or fails, or a write on it does. -/
inductive Loss (lane : Lane) : LaneEvent → Prop
  | ended (n : Nat) (c : Connection) (ending : Ending) (slot : lane.slot = some n)
      (entry : lane.connections[n]? = some c) (reading : c.reader = .reading)
      (cause : ending ≠ .closedHere) : Loss lane (.ended n ending)
  | unwritten (n : Nat) (x : Exchange) (text : String) (held : lane.exchange = some x)
      (stage : x.stage = .writing n) : Loss lane (.wrote (.failed text))

/-- How a call fails without a word about its connection: it cannot connect again, its request is
too large, or its time or what came for it has decided. -/
inductive Unaware (patience : Duration) (command : Command) : LaneEvent → ChannelError → Prop
  | refused (endpoint : Endpoint) :
      Unaware patience command (.dialed .refused) (.connectionRefused endpoint)
  | slow : Unaware patience command (.dialed .expired) (.timeout command.action patience)
  | oversized (result : Writing) (error : CodecError) :
      Unaware patience command (.wrote result) (.ofCodec error)
  | decided (expired : Bool) (error : ChannelError) :
      Unaware patience command (.wake expired) error

theorem Over.no_loss (h : Over lane) (loss : Loss lane e) : False := by
  cases loss with
  | ended n c ending slot =>
    rw [h.slot] at slot
    cases slot
  | unwritten n x text held => exact h.not_held held

theorem Move.marked (move : Move target patience id lane e lane') (bound : Bound lane)
    (h : lane.standing.endpoint? = none → lane.standing.isDetached = true)
    (gone : lane'.standing.endpoint? = none) : lane'.standing.isDetached = true := by
  cases move with
  | attached => cases gone
  | left | unheard | halted => exact Standing.isDetached_leave _
  | failed e x error sent connections log held snag =>
    cases loss : error.isLoss with
    | true =>
      simp only [if_true]
      exact Standing.isDetached_detach _
    | false =>
      simp only [loss, Bool.false_eq_true, if_false] at gone ⊢
      exact h gone
  | answered x n r expired reply log held =>
    have known := bound.exchange x held
    have same : lane.standing.endpoint? = none :=
      (Standing.endpoint?_record reply x.request.command lane.standing).symm.trans gone
    rw [same] at known
    cases known
  | _ => exact h gone

/-- The mark after a call that fails: a loss makes it, and nothing else changes it. -/
theorem Move.failed_mark (move : Move target patience id lane e lane') {k : Nat}
    {command : Command} {timeout : Duration} {error : ChannelError}
    (fails : lane'.finished =
      lane.finished ++ [⟨k, .send command timeout, .failed error⟩]) :
    lane'.standing.isDetached = (error.isLoss || lane.standing.isDetached) := by
  rcases move.entered with ⟨same, _⟩ | ⟨call, grown, book⟩
  · rw [same] at fails
    simp at fails
  · have own : call = ⟨k, .send command timeout, .failed error⟩ := by
      have last := List.append_cancel_left (grown.symm.trans fails)
      exact List.singleton_inj.mp last
    rw [(agrees_ofStatus lane'.standing).detached, (agrees_ofStatus lane.standing).detached, book,
      own]
    cases loss : error.isLoss with
    | true =>
      rw [Ledger.enter_lost _ _ _ loss]
      cases lane.standing <;> rfl
    | false =>
      rw [Ledger.enter_failed _ _ loss]
      rfl

/-- A call that fails and leaves its target unmarked has not noticed the loss of a connection. -/
theorem Move.unaware (move : Move target patience id lane e lane')
    (vm : target.isFileSystem = false)
    (marked : lane.standing.endpoint? = none → lane.standing.isDetached = true) {k : Nat}
    {command : Command} {timeout : Duration} {error : ChannelError}
    (fails : lane'.finished =
      lane.finished ++ [⟨k, .send command timeout, .failed error⟩])
    (unmarked : lane'.standing.isDetached = false) : Unaware patience command e error := by
  have mark := move.failed_mark fails
  have kept : error.isLoss = false := by
    rw [unmarked] at mark
    exact (Bool.or_eq_false_iff.mp mark.symm).1
  have last {f : Finished} (eq : lane.finished ++ [f] =
      lane.finished ++ [⟨k, .send command timeout, .failed error⟩]) :
      f = ⟨k, .send command timeout, .failed error⟩ :=
    List.singleton_inj.mp (List.append_cancel_left eq)
  cases move with
  | refused operation fs =>
    rw [vm] at fs
    cases fs
  | detached ticket other limit rest free first unknown =>
    rw [marked unknown] at unmarked
    cases unmarked
  | failed e x error sent connections log held snag =>
    cases last fails
    cases snag with
    | refused => exact .refused _
    | slow => exact .slow
    | oversized _ result e => exact .oversized result e
    | told _ expired | overdue _ expired => exact .decided _ _
    | unreachable | shut | unwritten | lost => cases kept
  | misjudged x n r expired error =>
    cases last fails
    exact .decided expired _
  | attached | left | unheard | halted | answered => cases last fails
  | _ => simp at fails

end Lane

namespace Channel

variable {patience : Duration} {t : Target} {events : History} {e : LaneEvent}

theorem marked (patience : Duration) (t : Target) (events : History) :
    ((after patience events).standing t).endpoint? = none →
      ((after patience events).standing t).isDetached = true := by
  refine lane_induction (P := fun _ lane => lane.standing.endpoint? = none →
    lane.standing.isDetached = true) ?_ ?_ ?_ events
  · exact fun _ => rfl
  · exact fun _ _ _ h => h
  · intro events e lane' h move _
    exact move.marked (bound patience t events) h

/-- The connection that is kept for a target is lost at some place of the run, and with the last
event a call other than a halt fails on the target, with no new connection in between. -/
structure Deserted (patience : Duration) (t : Target) (events : History) (e : LaneEvent)
    (command : Command) (error : ChannelError) : Prop where
  lost : ∃ place loss, (events ++ [(t, e)])[place]? = some (t, loss) ∧
    ((after patience (events.take place)).lane t).Loss loss ∧
    (t, .dialed .connected) ∉ (events ++ [(t, e)]).drop place
  fails : ∃ k timeout, ((after patience (events ++ [(t, e)])).lane t).finished =
    ((after patience events).lane t).finished ++ [⟨k, .send command timeout, .failed error⟩]
  going : command ≠ .halt

/-- A target whose connection is lost is marked as detached by the next call that fails with the
loss. Whatever else a call fails with leaves the mark as it was; such a call could not connect
again, or did not come to notice. -/
theorem loss_marks {command : Command} {error : ChannelError}
    (deserted : Deserted patience t events e command error) :
    let earlier := (after patience events).standing t
    let later := (after patience (events ++ [(t, e)])).standing t
    later.isDetached = (error.isLoss || earlier.isDetached) ∧
      (later.isDetached = false → Lane.Unaware patience command e error) := by
  intro earlier later
  obtain ⟨k, timeout, fails⟩ := deserted.fails
  have vm : t.isFileSystem = false := by
    obtain ⟨place, loss, _, lost, _⟩ := deserted.lost
    cases fs : t.isFileSystem with
    | false => rfl
    | true => exact ((fileSystem_refusing patience fs _).toOver.no_loss lost).elim
  rw [after_here] at fails
  have move := Lane.step_move t patience (after patience events).nextId
    ((after patience events).lane t) e
  have last : later = (((after patience events).lane t).step t patience
      (after patience events).nextId e).standing := by
    show ((after patience (events ++ [(t, e)])).lane t).standing = _
    rw [after_here]
  rw [last]
  exact ⟨move.failed_mark fails, move.unaware vm (marked patience t events) fails⟩

/-- A listing is answered. The agent closes the connection, and the next listing has to connect
again. -/
def closedListing : History :=
  [.call (.attach ⟨"localhost", 6712⟩), .grant,
    .call (.send .listClasses (.ofSecs 15)), .grant, .choose, .dialed .connected, .enter, .register,
    .wrote .written,
    .received 0 (Frame.payloadOf
      (Response.json { id := 1, action := .listClasses, status := .ok, classes := some [] })),
    .wake false, .ended 0 .closedByAgent, .drained 0,
    .call (.send .listClasses (.ofSecs 15)), .grant, .choose].map (Target.process 7, ·)

theorem closedListing_deserted {result : Dialing} {error : ChannelError}
    (other : result ≠ .connected)
    (fails : ((after (.ofSecs 5) (closedListing ++ [(.process 7, .dialed result)])).lane
      (.process 7)).finished =
        ((after (.ofSecs 5) closedListing).lane (.process 7)).finished ++
          [⟨2, .send .listClasses (.ofSecs 15), .failed error⟩]) :
    Deserted (.ofSecs 5) (.process 7) closedListing (.dialed result) .listClasses error := by
  refine ⟨⟨11, .ended 0 .closedByAgent, rfl, ?_, ?_⟩, ⟨2, .ofSecs 15, fails⟩, nofun⟩
  · exact .ended 0 ⟨⟨"localhost", 6712⟩, false, [], .reading⟩ .closedByAgent (by decide +kernel)
      (by decide +kernel) rfl nofun
  · intro mem
    have rest : (closedListing ++ [(Target.process 7, LaneEvent.dialed result)]).drop 11 =
        [.ended 0 .closedByAgent, .drained 0, .call (.send .listClasses (.ofSecs 15)), .grant,
          .choose, .dialed result].map (Target.process 7, ·) := rfl
    rw [rest] at mem
    simp only [List.map_cons, List.map_nil, List.mem_cons, Prod.mk.injEq, true_and, reduceCtorEq,
      List.not_mem_nil, LaneEvent.dialed.injEq, false_or, or_false] at mem
    exact other mem.symm

theorem loss_marks_unreachable :
    Deserted (.ofSecs 5) (.process 7) closedListing
        (.dialed (.failed "Network is unreachable")) .listClasses (.io "Network is unreachable") ∧
      ((after (.ofSecs 5) (closedListing ++
        [(.process 7, .dialed (.failed "Network is unreachable"))])).standing
          (.process 7)).isDetached = true := by
  have deserted : Deserted (.ofSecs 5) (.process 7) closedListing
      (.dialed (.failed "Network is unreachable")) .listClasses (.io "Network is unreachable") :=
    closedListing_deserted nofun (by decide +kernel)
  exact ⟨deserted, (loss_marks deserted).1⟩

/-- The next listing finds nobody at the endpoint. It is the first call to return since the loss,
and the target is not marked. -/
theorem loss_unmarked_refused :
    Deserted (.ofSecs 5) (.process 7) closedListing (.dialed .refused) .listClasses
        (.connectionRefused ⟨"localhost", 6712⟩) ∧
      ((after (.ofSecs 5) (closedListing.take 11)).lane (.process 7)).finished =
        ((after (.ofSecs 5) closedListing).lane (.process 7)).finished ∧
      ((after (.ofSecs 5) (closedListing ++ [(.process 7, .dialed .refused)])).standing
        (.process 7)).isDetached = false :=
  ⟨closedListing_deserted nofun (by decide +kernel), by decide +kernel, by decide +kernel⟩

end Channel

end ClassSwap
