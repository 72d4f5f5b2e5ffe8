import ClassSwap.Proofs.SessionBounds
import ClassSwap.Proofs.StandingLedger
import ClassSwap.Proofs.UploadDelivery

namespace ClassSwap

open Channel

def Command.redefines : Command → Bool
  | uploadClass .. | uploadArchive .. => true
  | listClasses | fetchBytes _ | initClass _ | halt => false

/-- The call is an upload that the agent has acknowledged. -/
def Finished.Acknowledged (f : Finished) : Prop :=
  ∃ command timeout message, f.operation = .send command timeout ∧ command.redefines = true ∧
    f.outcome = .answered (.ack message)

namespace Ledger

variable {book : Option Ledger} {c : ClassName} {bytes : Bytes}

theorem note_failed_cache (book : Ledger) (command : Command) (e : ChannelError) :
    (book.note command (.failed e)).cache = book.cache := by
  cases command <;> cases e <;> rfl

/-- What is in the cache after a call was there before, unless it has just been fetched. -/
theorem note_cache {book : Ledger} {command : Command} {outcome : Outcome}
    (hit : (book.note command outcome).cache c = some bytes) :
    (command = .fetchBytes c.text ∧ ∃ fetched, outcome = .answered (.bytes fetched) ∧
        fetched.bytes = bytes) ∨
      book.cache c = some bytes ∧
        ¬ (command.redefines = true ∧ ∃ message, outcome = .answered (.ack message)) := by
  cases outcome with
  | attached => exact .inr ⟨by cases command <;> exact hit, by simp⟩
  | failed e =>
    rw [note_failed_cache] at hit
    exact .inr ⟨hit, by simp⟩
  | answered reply =>
    cases command with
    | uploadClass | uploadArchive =>
      cases reply with
      | ack message => cases hit
      | classes | bytes | halted => exact .inr ⟨hit, by simp⟩
    | listClasses | initClass | halt =>
      exact .inr ⟨by cases reply <;> exact hit, by simp [Command.redefines]⟩
    | fetchBytes text =>
      cases reply with
      | classes | ack | halted => exact .inr ⟨hit, by simp [Command.redefines]⟩
      | bytes fetched =>
        change Function.update book.cache ⟨text⟩ (some fetched.bytes) c = some bytes at hit
        by_cases same : c = ⟨text⟩
        · subst same
          rw [Function.update_self] at hit
          exact .inl ⟨rfl, fetched, rfl, Option.some.inj hit⟩
        · rw [Function.update_of_ne same] at hit
          exact .inr ⟨hit, by simp [Command.redefines]⟩

/-- The call has fetched the class, and no upload has been acknowledged since. -/
structure Unreplaced (calls : List Finished) (c : ClassName) (bytes : Bytes) (call : Finished) :
    Prop where
  operation : ∃ timeout, call.operation = .send (.fetchBytes c.text) timeout
  outcome : ∃ fetched, call.outcome = .answered (.bytes fetched) ∧ fetched.bytes = bytes
  since : ∃ earlier later, calls = earlier ++ call :: later ∧ ∀ g ∈ later, ¬ g.Acknowledged

theorem Unreplaced.concat {calls : List Finished} {call g : Finished}
    (h : Unreplaced calls c bytes call) (silent : ¬ g.Acknowledged) :
    Unreplaced (calls ++ [g]) c bytes call := by
  obtain ⟨earlier, later, eq, none⟩ := h.since
  refine ⟨h.operation, h.outcome, earlier, later ++ [g], by simp [eq], ?_⟩
  intro f mem
  rcases List.mem_append.mp mem with old | new
  · exact none f old
  · rw [List.mem_singleton.mp new]
    exact silent

theorem Unreplaced.preceded {calls : List Finished} {call f : Finished}
    (h : Unreplaced calls c bytes call) (mem : f ∈ calls) (acknowledged : f.Acknowledged) :
    ∃ earlier later, calls = earlier ++ call :: later ∧ f ∈ earlier := by
  obtain ⟨earlier, later, eq, silent⟩ := h.since
  refine ⟨earlier, later, eq, ?_⟩
  rw [eq] at mem
  rcases List.mem_append.mp mem with before | rest
  · exact before
  · rcases List.mem_cons.mp rest with rfl | since
    · obtain ⟨_, _, message, _, _, ack⟩ := acknowledged
      obtain ⟨_, outcome, _⟩ := h.outcome
      cases ack.symm.trans outcome
    · exact absurd acknowledged (silent f since)

/-- What is in the cache has been fetched, and no upload has been acknowledged since. -/
theorem foldl_cache (calls : List Finished)
    (hit : (calls.foldl enter none).bind (·.cache c) = some bytes) :
    ∃ call, Unreplaced calls c bytes call := by
  induction calls using List.reverseRecOn with
  | nil => cases hit
  | append_singleton calls g ih =>
    rw [List.foldl_append] at hit
    change (enter (calls.foldl enter none) g).bind (·.cache c) = some bytes at hit
    have older (kept : (calls.foldl enter none).bind (·.cache c) = some bytes)
        (silent : ¬ g.Acknowledged) : ∃ call, Unreplaced (calls ++ [g]) c bytes call := by
      obtain ⟨call, unreplaced⟩ := ih kept
      exact ⟨call, unreplaced.concat silent⟩
    obtain ⟨ticket, operation, outcome⟩ := g
    cases operation with
    | attach endpoint =>
      cases outcome with
      | attached => cases hit
      | answered | failed => exact older hit (by simp [Finished.Acknowledged])
    | send command timeout =>
      change ((calls.foldl enter none).map (·.note command outcome)).bind (·.cache c) = some bytes
        at hit
      obtain ⟨_, noted, cached⟩ := Option.bind_eq_some_iff.mp hit
      obtain ⟨book, kept, rfl⟩ := Option.map_eq_some_iff.mp noted
      rcases note_cache cached with ⟨rfl, fetched, rfl, same⟩ | ⟨old, silent⟩
      · exact ⟨_, ⟨timeout, rfl⟩, ⟨fetched, rfl, same⟩, calls, [], rfl, by simp⟩
      · apply older (Option.bind_eq_some_iff.mpr ⟨book, kept, old⟩)
        rintro ⟨_, _, message, ⟨⟩, redefines, rfl⟩
        exact silent ⟨redefines, message, rfl⟩

end Ledger

namespace Channel

variable {patience : Duration} {t : Target} {events : History}

theorem cached_unreplaced {c : ClassName} {bytes : Bytes}
    (hit : ((after patience events).standing t).cached? c = some bytes) :
    ∃ call, Ledger.Unreplaced ((after patience events).lane t).finished c bytes call := by
  apply Ledger.foldl_cache
  have agrees := agrees_ofStatus ((after patience events).standing t)
  rw [agrees.cached, ledger_ofStatus] at hit
  exact hit

theorem past_append {k : Nat} (past : ((after patience events).lane t).Past k) (more : History) :
    ((after patience (events ++ more)).lane t).Past k :=
  lane_induction_from (P := fun _ lane => lane.Past k) events past (fun _ _ _ h => h)
    (fun _ _ _ h move _ => move.past h) more

/-- Calls hold the lane one after the other, in the order of their tickets. -/
theorem held_lt {p q : Nat} {x y : Exchange}
    (held : ((after patience (events.take p)).lane t).exchange = some x)
    (held' : ((after patience (events.take q)).lane t).exchange = some y)
    (earlier : x.ticket < y.ticket) : p < q := by
  rcases Nat.lt_or_ge p q with before | late
  · exact before
  · have split_ : events.take p = events.take q ++ (events.take p).drop q := by
      have front : (events.take p).take q = events.take q := by
        rw [List.take_take, Nat.min_eq_left late]
      rw [← front, List.take_append_drop]
    have past := past_append ((inTurn patience t _).exchange_past held') ((events.take p).drop q)
    rw [← split_] at past
    have order := past.2.1 x held
    omega

theorem ticket_lt_of_earlier {earlier later : List Finished} {f call : Finished}
    (finished : ((after patience events).lane t).finished = earlier ++ call :: later)
    (mem : f ∈ earlier) : f.ticket < call.ticket := by
  have increasing := (inTurn patience t events).increasing
  simp only [Lane.tickets, finished, List.map_append, List.append_assoc] at increasing
  apply (List.pairwise_append.mp increasing).2.2 _ (List.mem_map_of_mem mem)
  simp

/-- A class that is resolved without a call is cached. -/
theorem resolve_cached (plan : Target → Operation → History → History) (timeout : Duration)
    {c : ClassName} {bytes : Bytes}
    (quiet : (((link patience plan timeout).provider t).resolve c events).state = events)
    (found : (((link patience plan timeout).provider t).resolve c events).result = .ok bytes) :
    ((after patience events).standing t).cached? c = some bytes := by
  cases hit : ((after patience events).standing t).cached? c with
  | some cached =>
    have seen : ((link patience plan timeout).standing events t).cached? c = some cached := hit
    simp only [Link.provider, seen] at found
    cases found
    rfl
  | none =>
    have unseen : ((link patience plan timeout).standing events t).cached? c = none := hit
    have asked : (((link patience plan timeout).provider t).resolve c events).state =
        events ++ (t, .call (.send (.fetchBytes c.text) timeout)) ::
          plan t (.send (.fetchBytes c.text) timeout) events := by
      simp only [Link.provider, unseen]
      split <;> rfl
    rw [quiet] at asked
    simp at asked

/-- Once the agent has acknowledged an upload, a class that is resolved without a call has the bytes
of a later fetch: it was asked for, and they came in, after the acknowledgement. -/
theorem resolve_follows_upload (patience : Duration)
    (plan : Target → Operation → History → History) (timeout : Duration) {t : Target}
    {events : History} {f : Finished} {command : Command} {limit : Duration}
    {message : Option String} (mem : f ∈ ((after patience events).lane t).finished)
    (operation : f.operation = .send command limit) (redefines : command.redefines = true)
    (acknowledged : f.outcome = .answered (.ack message)) {c : ClassName} {bytes : Bytes}
    (quiet : (((link patience plan timeout).provider t).resolve c events).state = events)
    (found : (((link patience plan timeout).provider t).resolve c events).result = .ok bytes) :
    ∃ r k s place,
      Completes patience t events ((after patience events).lane t) f.ticket command (.ack message)
        r ∧
      Completes patience t events ((after patience events).lane t) k (.fetchBytes c.text)
        (.bytes ⟨c, bytes⟩) s ∧
      Carried patience t events ⟨k, s.connection, s.request⟩ place ∧
      f.ticket < k ∧ r.place < place ∧ r.place < s.place := by
  obtain ⟨call, unreplaced⟩ := cached_unreplaced (resolve_cached plan timeout quiet found)
  obtain ⟨earlier, later, finished, before⟩ :=
    unreplaced.preceded mem ⟨command, limit, message, operation, redefines, acknowledged⟩
  have order : f.ticket < call.ticket := ticket_lt_of_earlier finished before
  have called : call ∈ ((after patience events).lane t).finished := by
    rw [finished]
    exact List.mem_append_right _ List.mem_cons_self
  obtain ⟨limit', fetch⟩ := unreplaced.operation
  obtain ⟨fetched, outcome, same⟩ := unreplaced.outcome
  have going : command ≠ .halt := by
    rintro rfl
    cases redefines
  obtain ⟨r, replied⟩ := answered_completes patience t events f mem command limit _ operation
    acknowledged going
  have reading : Command.fetchBytes c.text ≠ .halt := by
    rintro ⟨⟩
  obtain ⟨s, brought⟩ := answered_completes patience t events call called (.fetchBytes c.text)
    limit' _ fetch outcome reading
  have content : fetched = ⟨c, bytes⟩ := by
    obtain ⟨_, _, content, _, _, _, eq⟩ := brought.content
    cases eq
    cases same
    rfl
  subst content
  obtain ⟨i, sent⟩ := List.mem_iff_getElem?.mp brought.sent
  obtain ⟨place, carried, _⟩ := sent_carried patience t events i _ sent
  obtain ⟨x, held, own, _⟩ := replied.arrived.awaited
  obtain ⟨y, sending, asked⟩ := carried.holder
  obtain ⟨z, receiving, awaited, _⟩ := brought.arrived.awaited
  exact ⟨r, call.ticket, s, place, replied, brought, carried, order,
    held_lt held sending (by rw [own, asked]; exact order),
    held_lt held receiving (by rw [own, awaited]; exact order)⟩

def replacement : Command := .uploadClass "app/p.A.class" (Base64.encode [2])

def fetchReply (id : RequestId) (bytes : Bytes) : Response where
  id := id
  action := .fetchBytes
  status := .ok
  className := some "p.A"
  body := some (Base64.encode bytes)

def replacementReply : Response where
  id := 2
  action := .uploadClass
  status := .ok

def replacing : List LaneEvent :=
  [.call (.attach ⟨"localhost", 6712⟩), .grant,
    .call (.send (.fetchBytes "p.A") (.ofSecs 15)), .grant, .choose, .dialed .connected, .enter,
    .register, .wrote .written, .received 0 (Frame.payloadOf (fetchReply 1 [1]).json), .wake false,
    .call (.send replacement (.ofSecs 30)), .grant, .choose, .enter, .register, .wrote .written]

/-- The agent answers in time, and the class is fetched once more. -/
def replacedInTime : History :=
  (replacing ++ [.received 0 (Frame.payloadOf replacementReply.json), .wake false,
    .call (.send (.fetchBytes "p.A") (.ofSecs 15)), .grant, .choose, .enter, .register,
    .wrote .written, .received 0 (Frame.payloadOf (fetchReply 3 [2]).json), .wake false] :
      List LaneEvent).map (Target.process 7, ·)

/-- The classes of the target after a run, when nothing more is heard of it. -/
def resolvedAfter (events : History) : Resolution History :=
  ((link (.ofSecs 5) (fun _ _ _ => []) (.ofSecs 15)).provider (.process 7)).resolve ⟨"p.A"⟩ events

theorem resolvedAfter_of_cached (events : History) {bytes : Bytes}
    (hit : ((after (.ofSecs 5) events).standing (.process 7)).cached? ⟨"p.A"⟩ = some bytes) :
    (resolvedAfter events).state = events ∧ (resolvedAfter events).result = .ok bytes := by
  have seen : ((link (.ofSecs 5) (fun _ _ _ => []) (.ofSecs 15)).standing events
      (.process 7)).cached? ⟨"p.A"⟩ = some bytes := hit
  simp only [resolvedAfter, Link.provider, seen, and_self]

theorem resolve_follows_upload_in_time :
    ∃ r k s place,
      Completes (.ofSecs 5) (.process 7) replacedInTime
        ((after (.ofSecs 5) replacedInTime).lane (.process 7)) 2 replacement (.ack none) r ∧
      Completes (.ofSecs 5) (.process 7) replacedInTime
        ((after (.ofSecs 5) replacedInTime).lane (.process 7)) k (.fetchBytes "p.A")
        (.bytes ⟨⟨"p.A"⟩, [2]⟩) s ∧
      Carried (.ofSecs 5) (.process 7) replacedInTime ⟨k, s.connection, s.request⟩ place ∧
      2 < k ∧ r.place < place ∧ r.place < s.place := by
  have hit : ((after (.ofSecs 5) replacedInTime).standing (.process 7)).cached? ⟨"p.A"⟩ =
      some [2] := by
    decide +kernel
  obtain ⟨quiet, found⟩ := resolvedAfter_of_cached replacedInTime hit
  unfold resolvedAfter at quiet found
  have mem : (⟨2, .send replacement (.ofSecs 30), .answered (.ack none)⟩ : Finished) ∈
      ((after (.ofSecs 5) replacedInTime).lane (.process 7)).finished := by
    decide +kernel
  exact resolve_follows_upload (.ofSecs 5) (fun _ _ _ => []) (.ofSecs 15) mem rfl rfl rfl quiet
    found

def replacedLate : History :=
  (replacing ++ [.wake true, .wake true, .received 0 (Frame.payloadOf replacementReply.json)] :
    List LaneEvent).map (Target.process 7, ·)

theorem replacedLate_sent : ((after (.ofSecs 5) replacedLate).lane (.process 7)).sent =
    [⟨1, 0, ⟨1, "localhost", 6712, .fetchBytes "p.A"⟩⟩,
      ⟨2, 0, ⟨2, "localhost", 6712, replacement⟩⟩] := by
  decide +kernel

/-- An upload goes out, its time runs out, and then the agent acknowledges it. The class is still
resolved to the bytes that came in before. -/
theorem resolve_outdated :
    let lane := (after (.ofSecs 5) replacedLate).lane (.process 7)
    (⟨2, .send replacement (.ofSecs 30), .failed (.timeout .uploadClass (.ofSecs 30))⟩ : Finished) ∈
        lane.finished ∧
      replacedLate.getLast? =
        some (.process 7, .received 0 (Frame.payloadOf replacementReply.json)) ∧
      (resolvedAfter replacedLate).state = replacedLate ∧
      (resolvedAfter replacedLate).result = .ok [1] ∧
      ∃ place, Carried (.ofSecs 5) (.process 7) replacedLate
          ⟨2, 0, ⟨2, "localhost", 6712, replacement⟩⟩ place ∧
        ∀ k s reply, Completes (.ofSecs 5) (.process 7) replacedLate lane k (.fetchBytes "p.A")
          reply s → s.place < place := by
  intro lane
  have hit : ((after (.ofSecs 5) replacedLate).standing (.process 7)).cached? ⟨"p.A"⟩ =
      some [1] := by
    decide +kernel
  obtain ⟨quiet, found⟩ := resolvedAfter_of_cached replacedLate hit
  obtain ⟨place, carried, _⟩ := sent_carried (.ofSecs 5) (.process 7) replacedLate 1
    ⟨2, 0, ⟨2, "localhost", 6712, replacement⟩⟩ (by rw [replacedLate_sent]; rfl)
  refine ⟨by decide +kernel, rfl, quiet, found, place, carried, ?_⟩
  intro k s reply completes
  have first : k = 1 := by
    have sent := completes.sent
    rw [replacedLate_sent] at sent
    rcases List.mem_cons.mp sent with fetch | rest
    · exact congrArg Transmission.ticket fetch
    · have other := congrArg (·.request.command) (List.mem_singleton.mp rest)
      cases completes.asked.symm.trans other
  obtain ⟨x, held, own, _⟩ := completes.arrived.awaited
  obtain ⟨y, sending, asked⟩ := carried.holder
  apply held_lt held sending
  rw [own, asked, first]
  decide

end Channel

end ClassSwap
