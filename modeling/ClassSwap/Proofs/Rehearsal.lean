import ClassSwap.Agent.Network
import ClassSwap.Proofs.AgentReplies
import ClassSwap.Proofs.SessionBounds

namespace ClassSwap

abbrev Send := Command × Duration

namespace Network

/-- What can happen next, in any order; the clock moves on only when there is nothing. -/
inductive Next : Network → Network → Prop
  | lane {net later : Network} (t : Target) (moved : net.advanceLane? t = some later) :
      Next net later
  | reader {net later : Network} {w : Wire} (mem : w ∈ net.wires)
      (moved : net.advanceReader? w = some later) : Next net later
  | scripted {net later : Network} (moved : net.advanceScripted? = some later) : Next net later
  | clock {net : Network} {limit time : Nat} {due : Due} {rest : List (Nat × Due)}
      (idle : net.advance? = none)
      (first : nextTimer? limit net.timers = some ((time, due), rest)) :
      Next net ({ net with now := max net.now time, timers := rest }.fire due)

/-- The order in which a network lets things happen is one of them. -/
theorem next_of_advance {net later : Network} (h : net.advance? = some later) : Next net later := by
  unfold advance? at h
  cases lanes : net.channel.lanes.keys.findSome? net.advanceLane? with
  | some found =>
    rw [lanes] at h
    cases h
    obtain ⟨t, _, moved⟩ := List.exists_of_findSome?_eq_some lanes
    exact .lane t moved
  | none =>
    rw [lanes] at h
    cases readers : net.wires.findSome? net.advanceReader? with
    | some found =>
      rw [readers] at h
      cases h
      obtain ⟨w, mem, moved⟩ := List.exists_of_findSome?_eq_some readers
      exact .reader mem moved
    | none =>
      rw [readers] at h
      exact .scripted h

/-- A target that nothing has happened on has no next step. -/
theorem advanceLane?_untouched {net : Network} {t : Target} (none : net.channel.lane t = {}) :
    net.advanceLane? t = .none := by
  simp [advanceLane?, none]

theorem get?_of_not_mem_keys {κ α : Type} [DecidableEq κ] {table : Table κ α} {key : κ}
    (missing : key ∉ table.keys) : table.get? key = none := by
  induction table with
  | nil => rfl
  | cons entry table ih =>
    have other : entry.1 ≠ key := fun same => missing (same ▸ List.mem_cons_self)
    rw [Table.get?_cons, if_neg other]
    exact ih fun mem => missing (List.mem_cons_of_mem _ mem)

/-- At rest no target has a next step, and no reader. -/
theorem at_rest {net : Network} (rest : net.advance? = none) :
    (∀ t, net.advanceLane? t = none) ∧ ∀ w ∈ net.wires, net.advanceReader? w = none := by
  unfold advance? at rest
  cases lanes : net.channel.lanes.keys.findSome? net.advanceLane? with
  | some found => simp [lanes] at rest
  | none =>
    cases readers : net.wires.findSome? net.advanceReader? with
    | some found => simp [lanes, readers] at rest
    | none =>
      refine ⟨fun t => ?_, List.findSome?_eq_none_iff.mp readers⟩
      by_cases known : t ∈ net.channel.lanes.keys
      · exact List.findSome?_eq_none_iff.mp lanes t known
      · apply advanceLane?_untouched
        rw [Channel.lane, get?_of_not_mem_keys known]
        rfl

/-- The timer that is next is one of those that are set, and the others stay. -/
theorem nextTimer?_eq {limit : Nat} {timers rest : List (Nat × Due)} {first : Nat × Due}
    (h : nextTimer? limit timers = some (first, rest)) :
    ∃ i, timers[i]? = some first ∧ rest = timers.eraseIdx i := by
  unfold nextTimer? at h
  split at h
  · cases h
  · split at h
    · cases h
    · split at h
      · cases h
      · obtain ⟨timer, at_, eq⟩ := Option.map_eq_some_iff.mp h
        cases eq
        exact ⟨_, at_, rfl⟩

section Reader

variable {net : Network} {w : Wire} {c : Connection}

theorem advanceReader?_frame {payload rest : Bytes}
    (entry : (net.channel.lane w.target).connections[w.connection]? = some c)
    (reading : c.reader = .reading) (open_ : c.closed = false)
    (front : Frame.front w.incoming = .frame payload rest) :
    net.advanceReader? w =
      some ((net.updateWires (fun v => v.target == w.target && v.connection == w.connection)
        fun v => { v with incoming := rest }).stepLane w.target
          (.received w.connection payload)) := by
  simp [advanceReader?, entry, reading, open_, front]

/-- Once the agent has closed the connection and nothing is under way, the reader stops. -/
theorem advanceReader?_end
    (entry : (net.channel.lane w.target).connections[w.connection]? = some c)
    (reading : c.reader = .reading) (drained : w.incoming = [])
    (closed : w.closedByAgent = true) :
    ∃ ending, (ending = .closedHere → c.closed = true) ∧ net.advanceReader? w =
      some ((net.stepLane w.target (.ended w.connection ending)).hangUp w.target
        w.connection) := by
  have front : Frame.front w.incoming = .noHeader := by rw [drained]; rfl
  cases here : c.closed with
  | true => exact ⟨.closedHere, fun _ => rfl, by simp [advanceReader?, entry, reading, here]⟩
  | false =>
    exact ⟨.closedByAgent, nofun, by simp [advanceReader?, entry, reading, here, front, closed]⟩

theorem advanceReader?_drain
    (entry : (net.channel.lane w.target).connections[w.connection]? = some c)
    (stopping : c.reader = .stopping) :
    net.advanceReader? w = some (net.stepLane w.target (.drained w.connection)) := by
  simp [advanceReader?, entry, stopping]

theorem advanceReader?_waits
    (entry : (net.channel.lane w.target).connections[w.connection]? = some c)
    (reading : c.reader = .reading) (open_ : c.closed = false) (empty : w.incoming = [])
    (more : w.closedByAgent = false) : net.advanceReader? w = none := by
  have front : Frame.front w.incoming = .noHeader := by rw [empty]; rfl
  simp [advanceReader?, entry, reading, open_, front, more]

theorem advanceReader?_stopped
    (entry : (net.channel.lane w.target).connections[w.connection]? = some c)
    (stopped : c.reader = .stopped) : net.advanceReader? w = none := by
  simp [advanceReader?, entry, stopped]

end Reader

/-- The runs of a channel with one agent: the target is attached to it first, and then commands are
sent whenever it pleases. -/
inductive Rehearsed (config : MockConfig) (patience : Duration) (t : Target) (e : Endpoint) :
    List Send → Network → Prop
  | attach : Rehearsed config patience t e []
      (({ channel := { patience }, reach := .loopback
          agents := [⟨e.port, .mock (.start config)⟩] } : Network).stepLane t
        (.call (.attach e)))
  | call {sends : List Send} {net : Network} (run : Rehearsed config patience t e sends net)
      (s : Send) :
      Rehearsed config patience t e (sends ++ [s]) (net.stepLane t (.call (.send s.1 s.2)))
  | next {sends : List Send} {net later : Network} (run : Rehearsed config patience t e sends net)
      (step : Next net later) : Rehearsed config patience t e sends later

/-- A rehearsal that cannot go on for ever can be run until it rests. -/
theorem Rehearsed.to_rest {config : MockConfig} {patience : Duration} {t : Target} {e : Endpoint}
    {sends : List Send} {net : Network} (run : Rehearsed config patience t e sends net)
    (ends : Acc (fun later now => Next now later) net) :
    ∃ later, Rehearsed config patience t e sends later ∧ later.advance? = none := by
  induction ends with
  | intro net _ ih =>
    cases rest : net.advance? with
    | none => exact ⟨net, run, rest⟩
    | some later =>
      have step := next_of_advance rest
      exact ih later step (run.next step)

section Alone

variable {net : Network} {t : Target} {port : UInt16} {a : MockAgent}

theorem connect_alone {host : String} (near : hostKind host = .loopback)
    (reach : net.reach = .loopback) (agents : net.agents = [⟨port, .mock a⟩])
    (running : a.halted = false) : net.connect host port = (.connected, some 0) := by
  simp [connect, near, reach, agentOn?, agents, listens, running, List.findIdx?_cons]

theorem accept_alone (net : Network) (agents : net.agents = [⟨port, .mock a⟩])
    (running : a.halted = false) (wires : net.wires = []) (n : Nat) :
    net.accept 0 t n =
      { net with
        agents := [⟨port, .mock
          { a with connections := a.connections + 1, live := a.live ++ [a.connections] }⟩]
        wires := [{ target := t, connection := n, agent := 0, peer := a.connections }] } := by
  obtain ⟨channel, reach, _, _, now, timers⟩ := net
  subst agents wires
  simp [accept, kind?, reactMock, stepMock, MockAgent.step, running, updateAgent, shutdownEvents]

theorem stepMock_nil (agents : net.agents = [⟨port, .mock a⟩]) : net.stepMock 0 a [] = net := by
  obtain ⟨channel, reach, _, wires, now, timers⟩ := net
  subst agents
  rfl

theorem stepMock_one {i : Nat} {event : MockEvent} {later : MockAgent} {acts : List MockAct}
    (step : a.step event = (later, acts)) :
    net.stepMock i a [event] = acts.foldl (applyMock i) (net.updateAgent i (.mock later)) := by
  simp only [stepMock, List.foldl_cons, List.foldl_nil, step, List.nil_append]

theorem stepMock_served {r : Request} {w : Wire} {frame : Bytes} (sound : a.config.Faultless)
    (agents : net.agents = [⟨port, .mock a⟩]) (live : a.live = [w.peer])
    (wires : net.wires = [w]) (agent : w.agent = 0)
    (small : Frame.encode (a.config.response r).json = .ok frame) :
    net.stepMock 0 a [.received w.peer (Frame.payloadOf r.json)] =
      { net with
        agents := [⟨port, .mock (a.serve r)⟩]
        wires := [{ w with incoming := w.incoming ++ frame }] } := by
  obtain ⟨channel, reach, _, _, now, timers⟩ := net
  subst agents wires
  have served := MockAgent.step_received w.peer r sound (by simp [live])
  have made : Frame.ofPayload (Frame.payloadOf (a.config.response r).json) = .ok frame := small
  rw [stepMock_one served]
  by_cases halts : r.command = .halt
  · simp [MockAgent.serveActs, halts, applyMock, made, transmit, updateAgent, updateWires, agent]
  · simp [MockAgent.serveActs, halts, applyMock, made, transmit, updateAgent, updateWires, agent]

theorem stepMock_lost {w : Wire} (net : Network) (agents : net.agents = [⟨port, .mock a⟩])
    (live : a.live = [w.peer]) (wires : net.wires = [w]) (agent : w.agent = 0) :
    net.stepMock 0 a [.lost w.peer] =
      { net with
        agents := [⟨port, .mock { a with live := [] }⟩]
        wires := [{ w with closedByAgent := true }] } := by
  obtain ⟨channel, reach, _, _, now, timers⟩ := net
  subst agents wires
  have lost : a.step (.lost w.peer) = ({ a with live := [] }, [.closed w.peer]) := by
    simp [MockAgent.step, live, MockAgent.hangUp]
  rw [stepMock_one lost]
  simp [applyMock, closePeer, updateAgent, updateWires, agent]

/-- A request is answered at once, and a halted agent closes the connection behind its reply. -/
theorem deliver_alone {r : Request} {w : Wire} {frame : Bytes} (sound : a.config.Faultless)
    (agents : net.agents = [⟨port, .mock a⟩]) (held : a.held = []) (live : a.live = [w.peer])
    (running : a.halted = false) (wires : net.wires = [w]) (agent : w.agent = 0)
    (open_ : w.closedByAgent = false)
    (small : Frame.encode (a.config.response r).json = .ok frame) :
    net.deliver w.target w.connection (Frame.payloadOf r.json) =
      { net with
        agents := [⟨port, .mock
          { a.serve r with live := if r.command = .halt then [] else [w.peer] }⟩]
        wires := [{ w with
          incoming := w.incoming ++ frame, closedByAgent := r.command == .halt }] } := by
  have found : net.wires.find? (fun v => v.target == w.target && v.connection == w.connection) =
      some w := by
    simp [wires]
  have kind : net.kind? w.agent = some (.mock a) := by
    simp [kind?, agents, agent]
  have answered := stepMock_served sound agents live wires agent small
  simp only [deliver, found, kind, reactMock]
  rw [agent, answered]
  simp only [kind?, List.getElem?_cons_zero, Option.map_some, shutdownEvents]
  by_cases halts : r.command = .halt
  · have halted : (a.serve r).halted = true := by simp [MockAgent.serve, halts]
    have lost := stepMock_lost { net with
      agents := [⟨port, .mock (a.serve r)⟩]
      wires := [{ w with incoming := w.incoming ++ frame }] }
      (w := { w with incoming := w.incoming ++ frame }) rfl live rfl agent
    have events : (a.serve r).held.map (fun h => MockEvent.abandoned h.number) ++
        (a.serve r).live.map .lost = [.lost w.peer] := by
      simp [MockAgent.serve, held, live]
    rw [if_pos halted, events, lost]
    simp [halts, agent]
  · have going : (a.serve r).halted = false := by simp [MockAgent.serve, halts, running]
    rw [going, if_neg Bool.false_ne_true, stepMock_nil rfl]
    simp [halts, open_, agent, MockAgent.serve, live, running]

theorem hangUp_alone {w : Wire} (net : Network) (agents : net.agents = [⟨port, .mock a⟩])
    (held : a.held = []) (live : a.live = []) (wires : net.wires = [w]) (agent : w.agent = 0) :
    net.hangUp w.target w.connection = net := by
  obtain ⟨channel, reach, _, _, now, timers⟩ := net
  subst agents wires
  simp [hangUp, kind?, reactMock, stepMock, MockAgent.step, agent, live, held, updateAgent,
    shutdownEvents]

end Alone

end Network

end ClassSwap
