import ClassSwap.Agent.Mock
import ClassSwap.Channel.Call
import ClassSwap.Proofs.MessageText

namespace ClassSwap

namespace MockConfig

structure Faultless (config : MockConfig) : Prop where
  prompt (action : Action) : config.delay? action = none
  accepting : config.rejection = none
  ownEcho : config.echo = none
  wellFormed : config.malformed = []
  present : config.dropped = []

def uploadAnswer (action : Action) (name body : String) : Except ChannelError Reply :=
  match decodeBody body with
  | .ok _ => .ok (.ack (some ("redefined " ++ name)))
  | .error e => .error (.agent action e.message)

def answer (config : MockConfig) : Command → Except ChannelError Reply
  | .listClasses => .ok (.classes config.classes)
  | .fetchBytes c =>
    match config.bytecode.get? c with
    | some (b :: bytes) => .ok (.bytes ⟨⟨c⟩, b :: bytes⟩)
    | some [] => .error (.agent .fetchBytes ("agent returned no bytecode for " ++ c))
    | none => .error (.agent .fetchBytes ("class not found: " ++ c))
  | .initClass c =>
    if c ∈ config.classes.map (·.name) then .ok (.ack none)
    else .error (.agent .initClass ("class not found: " ++ c))
  | .uploadClass name body => uploadAnswer .uploadClass name body
  | .uploadArchive name body => uploadAnswer .uploadArchive name body
  | .halt => .ok .halted

end MockConfig

def Command.upload? (c : Command) : Option MockUpload :=
  match c with
  | uploadClass name body | uploadArchive name body =>
    (decodeBody body).toOption.map fun bytes => ⟨c.action, name, bytes⟩
  | _ => none

namespace MockConfig

variable {config : MockConfig}

theorem response_id (config : MockConfig) (r : Request) : (config.response r).id = r.id := by
  obtain ⟨id, host, port, command⟩ := r
  cases command with
  | listClasses | halt => rfl
  | fetchBytes c =>
    unfold response
    dsimp only
    split <;> rfl
  | initClass c =>
    unfold response
    dsimp only
    split <;> rfl
  | uploadClass name body | uploadArchive name body =>
    unfold response uploadResponse
    dsimp only
    split <;> rfl

theorem judge_upload (sound : config.Faultless) {r : Request} {name body : String}
    (response : config.response r = config.uploadResponse r name body)
    (upload : r.command = .uploadClass name body ∨ r.command = .uploadArchive name body) :
    Reply.judge r.command (config.response r) = uploadAnswer r.command.action name body := by
  rw [response]
  unfold uploadResponse uploadAnswer
  rw [sound.accepting]
  cases decodeBody body with
  | ok bytes => rcases upload with upload | upload <;> simp [upload, Reply.judge, Response.accept,
      Response.isOk]
  | error e => simp [Reply.judge, Response.reject, Response.isOk]

theorem judge_fetch (sound : config.Faultless) {r : Request} {c : String}
    (fetch : r.command = .fetchBytes c) :
    Reply.judge r.command (config.response r) = config.answer r.command := by
  unfold response answer
  simp only [fetch]
  cases config.bytecode.get? c with
  | none => simp [unknownClass, fetch, Reply.judge, Response.reject, Response.isOk, Command.action]
  | some bytes =>
    cases bytes with
    | nil =>
      simp [sound.ownEcho, Reply.judge, Response.accept, Response.isOk, Reply.bytesOf,
        decodeBody_encode, Except.map, Command.action]
    | cons b bytes =>
      simp [sound.ownEcho, Reply.judge, Response.accept, Response.isOk, Reply.bytesOf,
        decodeBody_encode, Except.map]

/-- The reply to a request counts as the answer in the table. -/
theorem judge_response (sound : config.Faultless) (r : Request) :
    Reply.judge r.command (config.response r) = config.answer r.command := by
  cases command : r.command with
  | listClasses | halt =>
    simp [response, answer, command, Reply.judge, Response.accept, Response.isOk]
  | fetchBytes c => rw [← command, judge_fetch sound command]
  | initClass c =>
    have known : config.hasClass c = true ↔ c ∈ config.classes.map (·.name) := by
      simp [hasClass]
    unfold response answer
    by_cases there : config.hasClass c = true
    · simp [command, there, known.mp there, Reply.judge, Response.accept, Response.isOk]
    · have missing := mt known.mpr there
      simp [command, there, missing, unknownClass, Reply.judge, Response.reject, Response.isOk,
        Command.action]
  | uploadClass name body =>
    have judged := judge_upload sound (r := r) (by simp only [response, command]) (.inl command)
    rw [command] at judged
    exact judged
  | uploadArchive name body =>
    have judged := judge_upload sound (r := r) (by simp only [response, command]) (.inr command)
    rw [command] at judged
    exact judged

theorem upload?_eq (sound : config.Faultless) (r : Request) :
    config.upload? r = r.command.upload? := by
  cases command : r.command <;> simp [upload?, Command.upload?, command, sound.accepting]

end MockConfig

namespace MockAgent

/-- The agent once it has answered a request at once. -/
def serve (a : MockAgent) (r : Request) : MockAgent :=
  { a with
    requests := a.requests ++ [r]
    uploads := a.uploads ++ r.command.upload?.toList
    maxInFlight := max a.maxInFlight (a.inFlight + 1)
    halted := a.halted || r.command == .halt }

def serveActs (a : MockAgent) (connection : Nat) (r : Request) : List MockAct :=
  let n := a.requests.length
  [.began n, .ended n] ++ (if r.command = .halt then [.halted] else []) ++
    [.wrote connection n (Frame.payloadOf (a.config.response r).json)]

/-- A request is answered at once. -/
theorem step_received {a : MockAgent} (connection : Nat) (r : Request)
    (sound : a.config.Faultless) (live : connection ∈ a.live) :
    a.step (.received connection (Frame.payloadOf r.json)) =
      (a.serve r, a.serveActs connection r) := by
  have served : a.live.contains connection = true := by simpa using live
  have kept : (a.takeNote r).drops r.command.action = false := by
    simp [drops, takeNote, begin, sound.present]
  have payload : a.config.payload r = Frame.payloadOf (a.config.response r).json := by
    simp [MockConfig.payload, sound.wellFormed]
  have prompt : (a.takeNote r).config.delay? r.command.action = none := sound.prompt _
  have uploads : (a.takeNote r).config.upload? r = r.command.upload? :=
    MockConfig.upload?_eq sound r
  simp only [step, served, received, Request.decode_payloadOf, handle, kept, prompt, uploads]
  by_cases halts : r.command = .halt
  · simp [halts, conclude, serve, serveActs, takeNote, begin, finish, ← payload]
  · simp [halts, conclude, serve, serveActs, takeNote, begin, finish, ← payload]

end MockAgent

end ClassSwap
