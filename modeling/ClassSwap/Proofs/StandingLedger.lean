import ClassSwap.Proofs.LaneCalls
import ClassSwap.Proofs.ReplyVerdict

namespace ClassSwap

open Channel

/-- The book on a target that has been attached to. -/
structure Ledger where
  endpoint : Option Endpoint
  classes : List ClassEntry := []
  lastFetch : Option ClassFile := none
  cache : ClassName → Option Bytes := fun _ => none
  detached : Bool := false
  generation : Nat := 0

namespace Ledger

def confirm (book : Ledger) : Ledger :=
  { book with detached := false, generation := book.generation + 1 }

def note (book : Ledger) : Command → Outcome → Ledger
  | .halt, .answered _ => { book with endpoint := none, detached := true }
  | .listClasses, .answered (.classes entries) => { book.confirm with classes := entries }
  | .fetchBytes c, .answered (.bytes fetched) =>
    { book.confirm with
      cache := Function.update book.cache ⟨c⟩ (some fetched.bytes)
      lastFetch := some ⟨⟨c⟩, fetched.bytes⟩ }
  | .uploadClass .., .answered (.ack _) => { book.confirm with cache := fun _ => none }
  | .uploadArchive .., .answered (.ack _) => { book.confirm with cache := fun _ => none }
  | .initClass _, .answered (.ack _) => book.confirm
  | _, .failed .connectionClosed => { book with detached := true }
  | _, .failed (.io _) => { book with detached := true }
  | _, _ => book

/-- Enters a call. Nothing is kept of a target before the first attach. -/
def enter (book : Option Ledger) (call : Finished) : Option Ledger :=
  match call.operation, call.outcome with
  | .attach endpoint, .attached => some { endpoint := some endpoint }
  | .attach _, _ => book
  | .send command _, outcome => book.map (·.note command outcome)

def ofStatus (status : TargetStatus) : Ledger where
  endpoint := status.endpoint
  classes := status.loaded
  lastFetch := status.lastFetched
  cache := status.cache.get?
  detached := status.detached
  generation := status.generation

variable {book : Option Ledger}

theorem enter_failed (ticket : Nat) (operation : Operation) {e : ChannelError}
    (kept : e.isLoss = false) : enter book ⟨ticket, operation, .failed e⟩ = book := by
  cases operation with
  | attach endpoint => rfl
  | send command timeout =>
    have same (book : Ledger) : book.note command (.failed e) = book := by
      cases e <;> first | (cases command <;> rfl) | cases kept
    simp [enter, same]

theorem enter_lost (ticket : Nat) (command : Command) (timeout : Duration) {e : ChannelError}
    (loss : e.isLoss = true) :
    enter book ⟨ticket, .send command timeout, .failed e⟩ =
      book.map fun book => { book with detached := true } := by
  have entry (book : Ledger) : book.note command (.failed e) = { book with detached := true } := by
    cases e <;> first | (cases command <;> rfl) | cases loss
  simp [enter, entry]

theorem enter_halt (ticket : Nat) (timeout : Duration) (reply : Reply) (standing : Standing) :
    standing.leave.map ofStatus =
      enter (standing.map ofStatus) ⟨ticket, .send .halt timeout, .answered reply⟩ := by
  cases standing <;> rfl

/-- A verdict on a response is entered as the lane records it. -/
theorem enter_answer (ticket : Nat) {command : Command} (timeout : Duration) {r : Response}
    {reply : Reply} (going : command ≠ .halt) (answers : Reply.Answers r reply command)
    (standing : Standing) :
    Option.map ofStatus (reply.record command standing) =
      enter (standing.map ofStatus) ⟨ticket, .send command timeout, .answered reply⟩ := by
  cases standing with
  | none =>
    cases reply <;> simp only [Reply.record] <;> first | rfl | (split <;> rfl)
  | some status =>
    cases command with
    | listClasses =>
      obtain ⟨entries, _, rfl⟩ := answers
      rfl
    | fetchBytes c =>
      obtain ⟨_, body, content, _, _, _, rfl⟩ := answers
      have cache : (status.cache.put ⟨c⟩ content).get? =
          Function.update status.cache.get? ⟨c⟩ (some content) := by
        funext other
        by_cases same : other = ⟨c⟩
        · subst same
          simp
        · rw [Table.get?_put_of_ne _ _ same, Function.update_of_ne same]
      simp [Reply.record, Standing.recordFetch, Standing.acknowledge, enter, note, confirm,
        ofStatus, cache]
    | uploadClass name body => cases answers; rfl
    | uploadArchive name body => cases answers; rfl
    | initClass c => cases answers; rfl
    | halt => exact absurd rfl going

end Ledger

/-- Everything that can be asked about a target is answered as the book has it; of a target without
a book nothing is known. -/
structure Agrees (standing : Standing) (book : Option Ledger) : Prop where
  snapshot : standing.snapshot? = book.map fun b =>
    { endpoint := b.endpoint
      loaded := b.classes
      lastFetched := b.lastFetch
      detached := b.detached
      generation := b.generation }
  endpoint : standing.endpoint? = book.bind (·.endpoint)
  attached : standing.isAttached = (book.bind (·.endpoint)).isSome
  loaded : standing.loaded = (book.map (·.classes)).getD []
  names : standing.loadedNames = (book.map fun b => b.classes.map (⟨·.name⟩)).getD []
  fetched : standing.lastFetched? = book.bind (·.lastFetch)
  cached : ∀ c, standing.cached? c = book.bind (·.cache c)
  detached : standing.isDetached = (book.map (·.detached)).getD true
  generation : standing.generation = (book.map (·.generation)).getD 0

theorem agrees_ofStatus (standing : Standing) : Agrees standing (standing.map Ledger.ofStatus) := by
  cases standing <;> constructor <;> intros <;> rfl

namespace Lane

variable {target : Target} {patience : Duration} {id : RequestId} {lane lane' : Lane}
  {e : LaneEvent}

/-- What is known of the target changes with the end of a call only, and then as it is entered. -/
theorem Move.entered (move : Move target patience id lane e lane') :
    (lane'.finished = lane.finished ∧ lane'.standing = lane.standing) ∨
      ∃ call, lane'.finished = lane.finished ++ [call] ∧
        lane'.standing.map Ledger.ofStatus =
          Ledger.enter (lane.standing.map Ledger.ofStatus) call := by
  cases move with
  | refused operation fs =>
    exact .inr ⟨_, rfl, (Ledger.enter_failed _ operation rfl).symm⟩
  | attached ticket endpoint rest log free first => exact .inr ⟨_, rfl, rfl⟩
  | detached ticket command timeout rest free first unknown going =>
    exact .inr ⟨_, rfl, (Ledger.enter_failed ticket (.send command timeout) rfl).symm⟩
  | left ticket timeout rest log free first unknown =>
    exact .inr ⟨_, rfl, Ledger.enter_halt ticket timeout .halted lane.standing⟩
  | unheard e x error sent connections log held snag halt =>
    rw [halt]
    exact .inr ⟨_, rfl, Ledger.enter_halt x.ticket x.timeout .halted lane.standing⟩
  | failed e x error sent connections log held snag going once =>
    refine .inr ⟨_, rfl, ?_⟩
    cases loss : error.isLoss with
    | true =>
      rw [Ledger.enter_lost _ _ _ loss]
      cases lane.standing <;> rfl
    | false => exact (Ledger.enter_failed x.ticket (.send x.request.command x.timeout) loss).symm
  | halted x n r expired log held stage mail halt =>
    rw [halt]
    exact .inr ⟨_, rfl, Ledger.enter_halt x.ticket x.timeout .halted lane.standing⟩
  | misjudged x n r expired error held stage mail going verdict =>
    have kept := Reply.judge_error_not_loss verdict
    exact .inr ⟨_, rfl,
      (Ledger.enter_failed x.ticket (.send x.request.command x.timeout) kept).symm⟩
  | answered x n r expired reply log held stage mail going verdict =>
    obtain ⟨_, _, answers⟩ := Reply.judge_eq_ok_iff.mp verdict
    exact .inr ⟨_, rfl, Ledger.enter_answer x.ticket x.timeout going answers lane.standing⟩
  | _ => exact .inl ⟨rfl, rfl⟩

end Lane

namespace Channel

/-- The book that the calls on a target make up, in the order in which they are over. -/
def ledger (t : Target) (c : Channel) : Option Ledger :=
  (c.lane t).finished.foldl Ledger.enter none

theorem ledger_ofStatus (patience : Duration) (t : Target) (events : History) :
    ((after patience events).standing t).map Ledger.ofStatus =
      (after patience events).ledger t := by
  refine lane_induction (P := fun _ lane =>
    lane.standing.map Ledger.ofStatus = lane.finished.foldl Ledger.enter none) rfl ?_ ?_ events
  · exact fun _ _ _ h => h
  · intro events e lane' h move _
    rcases move.entered with ⟨finished, standing⟩ | ⟨call, finished, standing⟩
    · rw [finished, standing]
      exact h
    · rw [finished, List.foldl_append, ← h]
      exact standing

/-- After every run, what is known of a target is the book of the calls on it in the order in which
they got its lane: these are the calls that came in, each once, without those that hold the lane
still or were dropped. -/
theorem standing_agrees_with_ledger (patience : Duration) {t : Target}
    (vm : t.isFileSystem = false) (events : History) :
    let lane := (after patience events).lane t
    let turns := holders t (fresh patience) events
    Agrees lane.standing (lane.finished.foldl Ledger.enter none) ∧
      (lane.finished.map (·.ticket)).Sublist turns ∧
      turns.Pairwise (· < ·) ∧
      (∀ k ∈ turns, (∃ call ∈ lane.finished, call.ticket = k) ∨
        (∃ x, lane.exchange = some x ∧ x.ticket = k) ∨ (t, .abandoned k) ∈ events) ∧
      ∀ call ∈ lane.finished, (callsOn t events)[call.ticket]? = some call.operation := by
  intro lane turns
  have begun := begun_sublist_holders patience vm events
  refine ⟨?_, (List.sublist_append_left _ _).trans begun, holders_increasing patience t events,
    ?_, (accounted patience t events).finished⟩
  · have book := ledger_ofStatus patience t events
    rw [ledger] at book
    rw [← book]
    exact agrees_ofStatus _
  · intro k hk
    rcases mem_begun_of_mem_holders patience vm events k hk with held | dropped
    · rcases List.mem_append.mp held with mem | held
      · exact .inl (List.mem_map.mp mem)
      · obtain ⟨x, hx, ticket⟩ := List.mem_map.mp held
        exact .inr (.inl ⟨x, Option.mem_toList.mp hx, ticket⟩)
    · exact .inr (.inr dropped)

/-- A target whose agent cannot be connected to: attached, and detached again by a listing. -/
theorem standing_agrees_with_ledger_unreachable :
    (Target.process 7).isFileSystem = false ∧
      Agrees
        ((after (.ofSecs 5)
          [(.process 7, .call (.attach ⟨"localhost", 6712⟩)), (.process 7, .grant),
            (.process 7, .call (.send .listClasses (.ofSecs 15))), (.process 7, .grant),
            (.process 7, .choose),
            (.process 7, .dialed (.failed "Network is unreachable"))]).standing (.process 7))
        (some { endpoint := some ⟨"localhost", 6712⟩, detached := true }) :=
  ⟨rfl, (standing_agrees_with_ledger (.ofSecs 5) rfl _).1⟩

end Channel

end ClassSwap
