import ClassSwap.Channel.Call

namespace ClassSwap

namespace Reply

/-- What a reply to a command is made of: the part of the response that belongs to the command. -/
def Answers (r : Response) (reply : Reply) : Command → Prop
  | .listClasses => ∃ entries, r.classes = some entries ∧ reply = .classes entries
  | .fetchBytes className =>
    r.className = some className ∧ ∃ body content, r.body = some body ∧
      decodeBody body = .ok content ∧ content ≠ [] ∧ reply = .bytes ⟨⟨className⟩, content⟩
  | .uploadClass .. | .uploadArchive .. | .initClass _ => reply = .ack r.message
  | .halt => reply = .halted

theorem bytesOf_eq_ok_iff {className : String} {r : Response} {fetched : ClassFile} :
    bytesOf className r = .ok fetched ↔
      r.className = some className ∧ ∃ body content, r.body = some body ∧
        decodeBody body = .ok content ∧ content ≠ [] ∧ fetched = ⟨⟨className⟩, content⟩ := by
  unfold bytesOf
  split
  next other => simp [other]
  next same =>
    have named : r.className = some className := by simpa using same
    cases body : r.body with
    | none => simp
    | some text =>
      cases decoded : decodeBody text with
      | error e => simp [named, decoded]
      | ok content =>
        cases content with
        | nil => simp [named, decoded]
        | cons b rest => simp [named, decoded, eq_comm]

/-- The verdict on a response is positive exactly if action, status and content fit the command. -/
theorem judge_eq_ok_iff {command : Command} {r : Response} {reply : Reply} :
    judge command r = .ok reply ↔
      r.action = command.action ∧ r.status = .ok ∧ Answers r reply command := by
  unfold judge
  split
  next other => simp [other]
  next same =>
    have action : r.action = command.action := by simpa using same
    split
    next refused =>
      have status : r.status ≠ .ok := by simpa [Response.isOk] using refused
      simp [status]
    next accepted =>
      have status : r.status = .ok := by simpa [Response.isOk] using accepted
      cases command with
      | listClasses =>
        cases classes : r.classes <;> simp [action, status, Answers, classes, eq_comm]
      | fetchBytes className =>
        have yields : Answers r reply (.fetchBytes className) ↔
            ∃ fetched, bytesOf className r = .ok fetched ∧ reply = .bytes fetched := by
          constructor
          · rintro ⟨named, body, content, hb, hd, hne, rfl⟩
            exact ⟨_, bytesOf_eq_ok_iff.mpr ⟨named, body, content, hb, hd, hne, rfl⟩, rfl⟩
          · rintro ⟨fetched, bytes, rfl⟩
            obtain ⟨named, body, content, hb, hd, hne, rfl⟩ := bytesOf_eq_ok_iff.mp bytes
            exact ⟨named, body, content, hb, hd, hne, rfl⟩
        dsimp only
        rw [yields]
        cases bytesOf className r <;> simp [Except.map, action, status, eq_comm]
      | uploadClass => simp [action, status, Answers, eq_comm]
      | uploadArchive => simp [action, status, Answers, eq_comm]
      | initClass => simp [action, status, Answers, eq_comm]
      | halt => simp [action, status, Answers, eq_comm]

/-- A response that answers the request with a negative status and a reason is the agent's refusal,
for that reason. -/
theorem judge_refusal {command : Command} {r : Response} {reason : String}
    (action : r.action = command.action) (status : r.status = .error)
    (message : r.message = some reason) :
    judge command r = .error (.agent command.action reason) := by
  simp [judge, action, Response.isOk, status, message]

theorem decodeBody_error_not_loss {body : String} {e : CodecError}
    (h : decodeBody body = .error e) : (ChannelError.ofCodec e).isLoss = false := by
  unfold decodeBody at h
  split at h
  next => cases h
  next => cases h; rfl

theorem bytesOf_error_not_loss {className : String} {r : Response} {e : ChannelError}
    (h : bytesOf className r = .error e) : e.isLoss = false := by
  unfold bytesOf at h
  split at h
  next => cases h; rfl
  next =>
    split at h
    next => cases h; rfl
    next =>
      split at h
      next undecoded => cases h; exact decodeBody_error_not_loss undecoded
      next => cases h; rfl
      next => cases h

/-- A verdict never says that the connection is lost. -/
theorem judge_error_not_loss {command : Command} {r : Response} {e : ChannelError}
    (h : judge command r = .error e) : e.isLoss = false := by
  unfold judge at h
  split at h
  next => cases h; rfl
  next =>
    split at h
    next => cases h; rfl
    next =>
      cases command with
      | listClasses =>
        dsimp only at h
        split at h <;> cases h
        rfl
      | fetchBytes className =>
        dsimp only at h
        cases bytes : bytesOf className r with
        | ok fetched =>
          rw [bytes] at h
          cases h
        | error unfit =>
          rw [bytes] at h
          cases h
          exact bytesOf_error_not_loss bytes
      | _ => cases h

/-- The response refuses the bytes of a class, or brings none. -/
def Refuses (className : String) (r : Response) : Prop :=
  r.action = .fetchBytes ∧ (r.status ≠ .ok ∨
    r.className = some className ∧ ∃ body, r.body = some body ∧ decodeBody body = .ok [])

theorem decodeBody_error_not_agent {body : String} {e : CodecError}
    (h : decodeBody body = .error e) (action : Action) (text : String) :
    ChannelError.ofCodec e ≠ .agent action text := by
  unfold decodeBody at h
  split at h
  next => cases h
  next => cases h; nofun

theorem bytesOf_agent_iff {className : String} {r : Response} :
    (∃ action text, bytesOf className r = .error (.agent action text)) ↔
      r.className = some className ∧ ∃ body, r.body = some body ∧ decodeBody body = .ok [] := by
  unfold bytesOf
  split
  next other => simp [other]
  next same =>
    have named : r.className = some className := by simpa using same
    cases body : r.body with
    | none => simp
    | some text =>
      cases decoded : decodeBody text with
      | error e => simp [decoded, decodeBody_error_not_agent decoded]
      | ok content => cases content <;> simp [named, decoded]

/-- The agent is found to refuse the bytes of a class exactly if its response does so. -/
theorem judge_fetch_agent_iff {className : String} {r : Response} :
    (∃ action text, judge (.fetchBytes className) r = .error (.agent action text)) ↔
      Refuses className r := by
  unfold judge Refuses
  split
  next other =>
    have action : r.action ≠ .fetchBytes := other
    simp [action]
  next same =>
    have action : r.action = .fetchBytes := Decidable.not_not.mp same
    split
    next refused =>
      have status : r.status ≠ .ok := by simpa [Response.isOk] using refused
      simp [action, status]
    next accepted =>
      have status : r.status = .ok := by simpa [Response.isOk] using accepted
      have inner : (∃ a text, (bytesOf className r).map bytes = .error (.agent a text)) ↔
          ∃ a text, bytesOf className r = .error (.agent a text) := by
        cases bytesOf className r <;> simp [Except.map]
      simp only [action, status, true_and, ne_eq, not_true, false_or]
      exact inner.trans bytesOf_agent_iff

end Reply

end ClassSwap
