import ClassSwap.Proofs.JarContents
import ClassSwap.Proofs.ReplyInTime
import ClassSwap.Proofs.RequestText
import ClassSwap.Session
import Mathlib.Data.List.Nodup

namespace ClassSwap

/-- What an agent makes of a command that uploads a batch: the bytes of the one class, or a jar with
an entry for each class, in their order. The name tells the class loader. -/
inductive Carries (boot : Bool) : List ClassFile → Command → Prop
  | single (c : ClassFile) (rest body : String) (decoded : decodeBody body = .ok c.bytes) :
      Carries boot [c] (.uploadClass ((if boot then "boot" else "app") ++ "/" ++ rest) body)
  | archive (files : List ClassFile) (rest body : String) (jar : Bytes) (entries : List Zip.Entry)
      (several : 2 ≤ files.length) (decoded : decodeBody body = .ok jar)
      (read : Jar.read jar = .ok entries)
      (same : entries.map (fun e => (e.header.name, e.content)) =
        files.map fun c => (c.className.classFilePath, c.bytes)) :
      Carries boot files (.uploadArchive ((if boot then "boot" else "app") ++ "/" ++ rest) body)

/-- The frame of a request is decoded by the agent to the request, and that carries the batch. -/
structure Delivers (boot : Bool) (files : List ClassFile) (q : Request) : Prop where
  frame : ∃ frame payload, Frame.encode q.json = .ok frame ∧
    (∀ rest, Frame.front (frame ++ rest) = .frame payload rest) ∧
    Frame.decode Request.read payload = .ok q
  batch : Carries boot files q.command

theorem Scope.name_ofBoot (boot : Bool) :
    (Scope.ofBoot boot).name = if boot then "boot" else "app" := by
  cases boot <;> rfl

namespace Payload

variable {boot : Bool} {files : List ClassFile} {number : Nat} {packer : Zip.Packer}
  {p : Payload}

/-- Classes of which two have one path are not packed. -/
theorem build_of_not_nodup (scope : Scope) (number : Nat) (packer : Zip.Packer)
    (clash : ¬ (files.map (·.className.classFilePath)).Nodup) :
    ∃ text, build scope files number packer = .error (.archive text) := by
  match files, clash with
  | [], clash | [_], clash => exact absurd (by simp) clash
  | a :: b :: rest, clash =>
    obtain ⟨e, refused⟩ := Jar.build_of_not_nodup packer clash
    exact ⟨e.message, by simp only [build, refused]⟩

theorem body_mem (p : Payload) : ("body", .string (Base64.encode p.bytes)) ∈ p.command.members := by
  cases p <;> simp [command, Command.members, bytes]

theorem command_action (p : Payload) : p.command ≠ .halt := by
  cases p <;> simp [command]

theorem build_carries (built : build (Scope.ofBoot boot) files number packer = .ok p)
    (room : p.bytes.length ≤ Frame.maxPayload) : Carries boot files p.command := by
  rcases files with _ | ⟨a, _ | ⟨b, rest⟩⟩
  · cases built
  · cases built
    rw [Scope.name_ofBoot, String.append_assoc]
    exact .single a _ _ (decodeBody_encode _)
  · simp only [build] at built
    split at built
    next jar packed =>
      cases built
      obtain ⟨entries, read, same⟩ := Jar.read_build packed (Nat.lt_of_le_of_lt room (by decide))
      have name : (Scope.ofBoot boot).name ++ "/hotline-" ++ toString number ++ "-classes.jar" =
          (if boot then "boot" else "app") ++ "/" ++
            ("hotline-" ++ toString number ++ "-classes.jar") := by
        rw [Scope.name_ofBoot, show "/hotline-" = "/" ++ "hotline-" from rfl]
        simp only [String.append_assoc]
      rw [name]
      exact .archive _ _ _ jar entries (by simp) (decodeBody_encode jar) read same
    next => cases built

end Payload

namespace Channel

/-- What the call with a ticket has come to. One that is not over counts as lost. -/
def outcomeOf (lane : Lane) (ticket : Nat) : Outcome :=
  match lane.finished.find? (·.ticket = ticket) with
  | some f => f.outcome
  | none => .failed .connectionClosed

/-- A channel as a link. A call comes in, and then anything may happen that agents, the network and
other callers do: `plan` tells what, up to where the caller goes on. -/
def link (patience : Duration) (plan : Target → Operation → History → History)
    (timeout : Duration) : Link History where
  call t operation events :=
    let later := events ++ (t, .call operation) :: plan t operation events
    (later, outcomeOf ((after patience later).lane t) (callsOn t events).length,
      ((after patience later).lane t).log.drop ((after patience events).lane t).log.length)
  standing events t := (after patience events).standing t
  timeout := timeout

abbrev session (s : Session History) (patience : Duration)
    (plan : Target → Operation → History → History) (timeout : Duration) : Session History :=
  { s with link := link patience plan timeout }

theorem outcomeOf_eq_answered {lane : Lane} {ticket : Nat} {reply : Reply}
    (h : outcomeOf lane ticket = .answered reply) :
    ∃ f ∈ lane.finished, f.ticket = ticket ∧ f.outcome = .answered reply := by
  unfold outcomeOf at h
  split at h
  next f found =>
    exact ⟨f, List.mem_of_find?_eq_some found, by simpa using List.find?_some found, h⟩
  next => cases h

theorem outcomeOf_of_mem {t : Target} {lane : Lane} (turns : Lane.InTurn t lane) {f : Finished}
    (mem : f ∈ lane.finished) : outcomeOf lane f.ticket = f.outcome := by
  have order := turns.increasing
  simp only [Lane.tickets, List.append_assoc] at order
  have distinct : (lane.finished.map (·.ticket)).Nodup :=
    (List.pairwise_append.mp order).1.imp Nat.ne_of_lt
  unfold outcomeOf
  cases found : lane.finished.find? (·.ticket = f.ticket) with
  | none => simpa using List.find?_eq_none.mp found f mem
  | some g =>
    have same : g.ticket = f.ticket := by simpa using List.find?_some found
    rw [List.inj_on_of_nodup_map distinct (List.mem_of_find?_eq_some found) mem same]

variable {patience : Duration} {t : Target} {events : History}

/-- No frame has gone out for a call that has not come in. -/
theorem framesOf_of_length_le {k : Nat} (future : (callsOn t events).length ≤ k) :
    ((after patience events).lane t).framesOf k = [] := by
  refine List.filter_eq_nil_iff.mpr fun tx mem => ?_
  obtain ⟨timeout, call⟩ := (accounted patience t events).sent tx mem
  have bound := (List.getElem?_eq_some_iff.mp call).1
  simp only [decide_eq_true_eq]
  omega

theorem callsOn_call (events : History) (operation : Operation) (more : History) :
    (callsOn t (events ++ (t, .call operation) :: more))[(callsOn t events).length]? =
      some operation := by
  rw [callsOn_append]
  simp [callsOn]

end Channel

namespace Payload

theorem allowance_eq_one (p : Payload) : p.command.allowance = 1 := by
  cases p <;> rfl

end Payload

namespace Session

variable {σ : Type}

/-- What becomes of an upload: the packing fails, or the payload is sent. -/
theorem transmit_cases (s : Session σ) (boot : Bool) (files : List ClassFile) (site : Site σ) :
    ∃ number archives,
      (∃ e, Payload.build (Scope.ofBoot boot) files number s.packer = .error e ∧
        s.transmit boot files site = ⟨{ site with archives }, .error e, []⟩) ∨
      ∃ p, Payload.build (Scope.ofBoot boot) files number s.packer = .ok p ∧
        s.transmit boot files site =
          s.sendPayload p (Scope.ofBoot boot) files { site with archives } := by
  refine ⟨if 1 < files.length then site.archives else 0,
    if 1 < files.length then site.archives + 1 else site.archives, ?_⟩
  have sites : (if 1 < files.length then { site with archives := site.archives + 1 } else site) =
      { site with archives := if 1 < files.length then site.archives + 1 else site.archives } := by
    split <;> rfl
  simp only [transmit, sites]
  cases built : Payload.build (Scope.ofBoot boot) files
    (if 1 < files.length then site.archives else 0) s.packer with
  | error e => exact .inl ⟨e, rfl, rfl⟩
  | ok p => exact .inr ⟨p, rfl, rfl⟩

/-- What an upload comes to whose call has come to an outcome. -/
def resultOf (p : Payload) (files : List ClassFile) : Outcome → Except UploadError UploadAck
  | .failed e => .error (.ofChannel e)
  | .answered (.ack message) => .ok ⟨p.name, files.map (·.className), p.isArchive, message⟩
  | _ => .error (.protocolMismatch "unexpected reply to upload")

theorem sendPayload_eq (s : Session σ) (p : Payload) (scope : Scope) (files : List ClassFile)
    (site : Site σ) :
    (s.sendPayload p scope files site).site.agents =
        (s.link.call s.target (.send p.command s.uploadTimeout) site.agents).1 ∧
      (s.sendPayload p scope files site).value =
        resultOf p files
          (s.link.call s.target (.send p.command s.uploadTimeout) site.agents).2.1 := by
  rcases call : s.link.call s.target (.send p.command s.uploadTimeout) site.agents with
    ⟨agents, outcome, events⟩
  simp only [sendPayload, call]
  cases outcome with
  | attached | failed => exact ⟨rfl, rfl⟩
  | answered reply => cases reply <;> exact ⟨rfl, rfl⟩

theorem resultOf_eq_ok {p : Payload} {files : List ClassFile} {outcome : Outcome} {ack : UploadAck}
    (h : resultOf p files outcome = .ok ack) :
    outcome = .answered (.ack ack.message) ∧ ack.classes = files.map (·.className) := by
  unfold resultOf at h
  split at h
  next => cases h
  next => cases h; exact ⟨rfl, rfl⟩
  next => cases h

end Session

namespace Channel

section Call

variable {patience : Duration} {t : Target} {events : History} {boot : Bool}
  {files : List ClassFile} {number k : Nat} {packer : Zip.Packer} {p : Payload}
  {timeout : Duration} (call : (callsOn t events)[k]? = some (.send p.command timeout))
include call

theorem upload_frames_length :
    (((after patience events).lane t).framesOf k).length ≤ 1 := by
  have most : (((after patience events).lane t).framesOf k).length ≤ p.command.allowance :=
    framesOf_length_le call
  rw [p.allowance_eq_one] at most
  exact most

/-- Each frame of the call is decoded by the agent to the batch. -/
theorem upload_frame_delivers
    (built : Payload.build (Scope.ofBoot boot) files number packer = .ok p) :
    ∀ tx ∈ ((after patience events).lane t).framesOf k, Delivers boot files tx.request := by
  intro tx mem
  have command := framesOf_command call tx mem
  obtain ⟨sent, _⟩ := Lane.mem_framesOf.mp mem
  obtain ⟨frame, encoded⟩ := whole patience t events tx sent
  have room := Request.length_body_le encoded (command ▸ p.body_mem)
  refine ⟨⟨frame, Frame.payloadOf tx.request.json, encoded, Frame.front_ofPayload encoded,
    tx.request.decode_payloadOf⟩, ?_⟩
  rw [command]
  exact Payload.build_carries built room

/-- A call that is answered has been answered by the agent. -/
theorem upload_completes {message : Option String}
    (outcome : outcomeOf ((after patience events).lane t) k = .answered (.ack message)) :
    ∃ source, Completes patience t events ((after patience events).lane t) k p.command
      (.ack message) source := by
  obtain ⟨f, mem, own, answered⟩ := outcomeOf_eq_answered outcome
  have operation := (accounted patience t events).finished f mem
  rw [own, call] at operation
  obtain ⟨source, completes⟩ := answered_completes patience t events f mem p.command timeout
    (.ack message) (Option.some.inj operation).symm answered p.command_action
  rw [own] at completes
  exact ⟨source, completes⟩

/-- A call that the agent refuses in time comes to the refusal. -/
theorem upload_refused {q : Request} {r : Response} {reason : String}
    (inTime : InTime patience t events k q r) (action : r.action = q.command.action)
    (status : r.status = .error) (message : r.message = some reason) :
    outcomeOf ((after patience events).lane t) k = .failed (.agent q.command.action reason) := by
  obtain ⟨_, same⟩ := inTime.call
  rw [call] at same
  have command : p.command = q.command := by
    injection same with same
    injection same
  obtain ⟨f, mem, own, outcome⟩ := response_decides (command ▸ p.command_action) inTime
  have verdict := Reply.judge_refusal action status message
  rw [← own, outcomeOf_of_mem (inTurn patience t events) mem, outcome, Reply.outcome, verdict]

end Call

/-- An upload makes no call, because the batch cannot be packed, or one, which sends it packed. -/
theorem session_transmit_cases (patience : Duration)
    (plan : Target → Operation → History → History) (timeout : Duration) (s : Session History)
    (boot : Bool) (files : List ClassFile) (site : Site History) :
    let d := (session s patience plan timeout).transmit boot files site
    let ticket := (callsOn s.target site.agents).length
    ∃ number,
      (∃ e, Payload.build (Scope.ofBoot boot) files number s.packer = .error e ∧
        d.site.agents = site.agents ∧ d.value = .error e) ∨
      ∃ p, Payload.build (Scope.ofBoot boot) files number s.packer = .ok p ∧
        d.site.agents = site.agents ++ (s.target, .call (.send p.command s.uploadTimeout)) ::
          plan s.target (.send p.command s.uploadTimeout) site.agents ∧
        (callsOn s.target d.site.agents)[ticket]? = some (.send p.command s.uploadTimeout) ∧
        d.value = Session.resultOf p files
          (outcomeOf ((after patience d.site.agents).lane s.target) ticket) := by
  intro d ticket
  obtain ⟨number, archives, ⟨e, built, done⟩ | ⟨p, built, done⟩⟩ :=
    Session.transmit_cases (session s patience plan timeout) boot files site
  · exact ⟨number, .inl ⟨e, built, congrArg (·.site.agents) done, congrArg (·.value) done⟩⟩
  · obtain ⟨agents, value⟩ := Session.sendPayload_eq (session s patience plan timeout) p
      (Scope.ofBoot boot) files { site with archives }
    rw [← done] at agents value
    refine ⟨number, .inr ⟨p, built, agents, ?_, ?_⟩⟩
    · show (callsOn s.target d.site.agents)[ticket]? = _
      rw [agents]
      exact callsOn_call site.agents _ _
    · show d.value = Session.resultOf p files
        (outcomeOf ((after patience d.site.agents).lane s.target) ticket)
      rw [agents]
      exact value

/-- Whatever agents and others do, an upload sends its batch once at most and as it is, and comes to
what the agent says of it. -/
theorem upload_delivers (patience : Duration)
    (plan : Target → Operation → History → History) (timeout : Duration) (s : Session History)
    (boot : Bool) (files : List ClassFile) (site : Site History) :
    let d := (session s patience plan timeout).transmit boot files site
    let lane := (after patience d.site.agents).lane s.target
    let ticket := (callsOn s.target site.agents).length
    (d.site.agents = site.agents ∨ ∃ command, d.site.agents = site.agents ++
      (s.target, .call (.send command s.uploadTimeout)) ::
        plan s.target (.send command s.uploadTimeout) site.agents) ∧
    (files = [] → d.site.agents = site.agents ∧ d.value = .error .emptyBatch) ∧
    (¬ (files.map (·.className.classFilePath)).Nodup →
      d.site.agents = site.agents ∧ ∃ text, d.value = .error (.archive text)) ∧
    (lane.framesOf ticket).length ≤ 1 ∧
    (∀ tx ∈ lane.framesOf ticket, Delivers boot files tx.request) ∧
    (∀ ack, d.value = .ok ack → ack.classes = files.map (·.className) ∧
      ∃ command source, Completes patience s.target d.site.agents lane ticket command
        (.ack ack.message) source) ∧
    ∀ q r reason, InTime patience s.target d.site.agents ticket q r →
      r.action = q.command.action → r.status = .error → r.message = some reason →
      d.value = .error (.rejected reason) := by
  intro d lane ticket
  obtain ⟨number, ⟨e, built, quiet, value⟩ | ⟨p, built, agents, call, value⟩⟩ :=
    session_transmit_cases patience plan timeout s boot files site
  · have silent : lane.framesOf ticket = [] := by
      refine framesOf_of_length_le ?_
      rw [quiet]
    refine ⟨.inl quiet, ?_, ?_, ?_, ?_, ?_, ?_⟩
    · rintro rfl
      cases built
      exact ⟨quiet, value⟩
    · intro clash
      obtain ⟨text, refused⟩ := Payload.build_of_not_nodup (Scope.ofBoot boot) number _ clash
      cases built.symm.trans refused
      exact ⟨quiet, text, value⟩
    · rw [silent]
      exact Nat.zero_le _
    · rw [silent]
      exact fun tx mem => absurd mem List.not_mem_nil
    · intro ack ok
      cases value.symm.trans ok
    · intro q r reason h
      obtain ⟨_, call⟩ := h.call
      have bound := (List.getElem?_eq_some_iff.mp call).1
      rw [quiet] at bound
      exact absurd bound (Nat.lt_irrefl _)
  · refine ⟨.inr ⟨p.command, agents⟩, ?_, ?_, upload_frames_length call,
      upload_frame_delivers call built, ?_, ?_⟩
    · rintro rfl
      cases built
    · intro clash
      obtain ⟨text, refused⟩ := Payload.build_of_not_nodup (Scope.ofBoot boot) number _ clash
      cases built.symm.trans refused
    · intro ack ok
      obtain ⟨outcome, classes⟩ := Session.resultOf_eq_ok (value.symm.trans ok)
      obtain ⟨source, completes⟩ := upload_completes call outcome
      exact ⟨classes, p.command, source, completes⟩
    · intro q r reason h action status message
      rw [value, upload_refused call h action status message]
      rfl

def refusedFiles : List ClassFile := [⟨⟨"p.A"⟩, [1]⟩]

def refusal : Response := .reject 1 .uploadClass "schema change"

def refusedEvents : History :=
  [.grant, .choose, .dialed .connected, .enter, .register, .wrote .written,
    .received 0 (Frame.payloadOf refusal.json)].map (Target.process 7, ·)

def refusing : Target → Operation → History → History := fun _ _ _ =>
  refusedEvents ++ [(.process 7, .wake false)]

def refusedSite : Site History :=
  ⟨[(.process 7, .call (.attach ⟨"localhost", 6712⟩)), (.process 7, .grant)], .empty, 0⟩

def refusedSession : Session History where
  target := .process 7
  link := link (.ofSecs 5) refusing (.ofSecs 15)
  compiler := fun _ _ state files =>
    { state, files, utterances := [], ending := .returned (.ok []) }
  directory := []
  uploadTimeout := .ofSecs 30

def refusedRequest : Request :=
  ⟨1, "localhost", 6712, .uploadClass "app/p.A.class" (Base64.encode [1])⟩

def refusedUpload : Done History (Except UploadError UploadAck) :=
  (session refusedSession (.ofSecs 5) refusing (.ofSecs 15)).transmit false refusedFiles refusedSite

theorem refused_responds : Responds (.ofSecs 5) refusedSession.target
    (refusedSite.agents ++ (.process 7, .call (.send refusedRequest.command (.ofSecs 30))) ::
      refusedEvents) 1 0 refusedRequest refusal 9 :=
  responds_of_waiting rfl (by decide +kernel) (by decide +kernel) (by decide +kernel) rfl

theorem refused_in_time : InTime (.ofSecs 5) refusedSession.target refusedUpload.site.agents
    (callsOn refusedSession.target refusedSite.agents).length refusedRequest refusal :=
  ⟨_, false, [], 0, 9, by decide +kernel, refused_responds, looks_of_waiting (by decide +kernel),
    by decide +kernel⟩

theorem refused_frames : ((after (.ofSecs 5) refusedUpload.site.agents).lane
    refusedSession.target).framesOf (callsOn refusedSession.target refusedSite.agents).length =
      [⟨1, 0, refusedRequest⟩] := by
  decide +kernel

theorem upload_delivers_refused :
    refusedUpload.value = .error (.rejected "schema change") ∧
      ∃ tx, ((after (.ofSecs 5) refusedUpload.site.agents).lane refusedSession.target).framesOf
          (callsOn refusedSession.target refusedSite.agents).length = [tx] ∧
        Delivers false refusedFiles tx.request := by
  obtain ⟨_, _, _, _, delivers, _, refuses⟩ := upload_delivers (.ofSecs 5) refusing (.ofSecs 15)
    refusedSession false refusedFiles refusedSite
  have inTime := refused_in_time
  have frames := refused_frames
  unfold refusedUpload at inTime frames ⊢
  refine ⟨refuses refusedRequest refusal "schema change" inTime rfl rfl rfl, _, frames,
    delivers _ ?_⟩
  exact frames ▸ List.mem_singleton_self _

end Channel

end ClassSwap
