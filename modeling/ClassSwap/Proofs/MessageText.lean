import ClassSwap.Proofs.RequestText
import ClassSwap.Upload.Report

namespace ClassSwap

namespace JsonText

section Record

variable {slots : Slots} {fields : List Field} {depth : Nat}

/-- A record is read from what is written for it. -/
theorem record_members (typeName : String) (deep : 2 ≤ depth)
    (distinct : (fields.map (·.name)).Nodup) (fills : Fills (depth - 1) fields slots) :
    record typeName fields depth (treeOf (.object slots.members)) =
      .ok ⟨depth - 1, slots.values⟩ := by
  have read := (Scattered.self fields slots).record typeName deep fills distinct nofun
  rwa [← slots.treeOf_members, fills.known_values] at read

/-- A tagged value is read from its tag and the members of its kind. -/
theorem tagged_members {α : Type} (typeName tagName : String) (variants : List (Variant α))
    (v : Variant α) (deep : 2 ≤ depth) (listed : pick variants v.tag = .ok v)
    (distinct : (v.fields.map (·.name)).Nodup) (fills : Fills (depth - 1) v.fields slots)
    (untagged : ∀ m ∈ slots.values, m.1 ≠ tagName)
    (plain : ∀ m ∈ slots.values, keep (depth - 1) m.2 = .ok ()) :
    ∃ values, Answers values slots ∧
      tagged typeName tagName variants depth
          (treeOf (.object ((tagName, .string v.tag) :: slots.members))) =
        v.build ⟨depth - 1, values⟩ := by
  have tree : memberTreesOf ((tagName, .string v.tag) :: slots.members) =
      entries ((tagName, .string (.ok v.tag)) :: slots.values) := memberTreesOf_eq _
  have picked : pickByName variants (.string (.ok v.tag)) = .ok v := listed
  have split_ := splitTag_tagged (List.Perm.refl _) untagged picked plain
  have rest := (filter_tag (t := .string (.ok v.tag)) (List.Perm.refl _) untagged).2
  have scattered : Scattered v.fields slots [] []
      (((tagName, Tree.string (.ok v.tag)) :: slots.values).filter (·.1 != tagName)) :=
    .of_perm (rest.trans (.of_eq (List.append_nil _).symm)) nofun
  refine ⟨_, scattered.answers fills distinct, ?_⟩
  simp only [treeOf, tree, tagged, enter_of_le deep, ok_bind, split_, Closing.check]
  exact scattered.ofMembers fills distinct

variable {α : Type} {json : α → Json} {r : Reader α} {least : Nat}

theorem Fills.answers (h : Fills depth fields slots) (distinct : (fields.map (·.name)).Nodup) :
    Answers slots.values slots := by
  have answers := (Scattered.self fields slots).answers h distinct
  rwa [h.known_values] at answers

theorem Fills.get (h : Fills depth fields slots) (name : String)
    (distinct : (fields.map (·.name)).Nodup)
    (back : ReadsBack json r least) (deep : least ≤ depth) {a : α}
    (mem : (name, some (json a)) ∈ slots) :
    Found.get ⟨depth, slots.values⟩ name r = .ok a :=
  (h.answers distinct).get name back deep mem

theorem Fills.get? (h : Fills depth fields slots) (name : String)
    (distinct : (fields.map (·.name)).Nodup)
    (back : ReadsBack json r least) (present : ∀ a, treeOf (json a) ≠ .null)
    (deep : least ≤ depth) {a : Option α} (mem : (name, a.map json) ∈ slots) :
    Found.get? ⟨depth, slots.values⟩ name r = .ok a :=
  (h.answers distinct).get? name back present deep mem

end Record

/-- Every value is read back from its text, so no two values have the same text. -/
def RoundTrips {α : Type} (json : α → Json) (r : Reader α) : Prop :=
  (∀ a, Frame.decode r (Frame.payloadOf (json a)) = .ok a) ∧
    ∀ a b, (json a).text = (json b).text → a = b

theorem roundTrips_of_decode {α : Type} {json : α → Json} {r : Reader α}
    (decoded : ∀ a, Frame.decode r (Frame.payloadOf (json a)) = .ok a) : RoundTrips json r := by
  refine ⟨decoded, fun a b same => ?_⟩
  have payload : Frame.payloadOf (json a) = Frame.payloadOf (json b) := by
    have chars := congrArg String.toList same
    rw [Json.text, Json.text, String.toList_ofList, String.toList_ofList] at chars
    rw [Frame.payloadOf, Frame.payloadOf, chars]
  have read := decoded a
  rw [payload, decoded b] at read
  exact (Except.ok.inj read).symm

end JsonText

open JsonText

namespace Endpoint

def slots (e : Endpoint) : Slots :=
  [("host", some (.string e.host)), ("port", some (.natural e.port.toNat))]

theorem fills (e : Endpoint) (depth : Nat) : Fills depth fields e.slots :=
  .need "host" e.host readsBack_string (Nat.zero_le _) <|
  .need "port" e.port readsBack_port (Nat.zero_le _) .nil

theorem readsBack : ReadsBack json read 2 where
  whole e := (e.fills 0).exact_json
  read e depth deep := by
    have fills := e.fills (depth - 1)
    have distinct : (fields.map (·.name)).Nodup := by decide
    have found := record_members "struct Endpoint" deep distinct fills
    have host := fills.get "host" (a := e.host) distinct readsBack_string
      (Nat.zero_le _) (by simp [slots])
    have port := fills.get "port" (a := e.port) distinct readsBack_port
      (Nat.zero_le _) (by simp [slots])
    have json_eq : e.json = .object e.slots.members := rfl
    rw [Endpoint.read, json_eq, found, ok_bind, host, port]
    rfl

end Endpoint

namespace Target

theorem readsBack_pid : ReadsBack (fun p : UInt32 => .natural p.toNat) readPid 0 where
  whole p := by
    have := p.toNat_lt
    show p.toNat ≤ maxNatural
    unfold maxNatural
    omega
  read p depth _ := by
    have := p.toNat_lt
    simp only [readPid, word32, treeOf, natural, if_pos (show p.toNat ≤ 4294967295 by omega)]
    rw [ok_bind, UInt32.ofNat_toNat]
    rfl

def processKind : Variant Target :=
  ⟨"local", "TargetKind::Local", [need "pid" readPid],
    fun found => do return process (← found.get "pid" readPid)⟩

def remoteKind : Variant Target :=
  ⟨"remote", "TargetKind::Remote", Endpoint.fields,
    fun found => do
      return remote (← found.get "host" string) (← found.get "port" Endpoint.readPort)⟩

def fileSystemKind : Variant Target :=
  ⟨"fs", "TargetKind::Fs", [], fun _ => .ok fileSystem⟩

theorem read_process (pid : UInt32) {depth : Nat} (deep : 2 ≤ depth) :
    readKind depth (treeOf (process pid).kindJson) = .ok (process pid) := by
  have fills : Fills (depth - 1) processKind.fields [("pid", some (.natural pid.toNat))] :=
    .need "pid" pid readsBack_pid (Nat.zero_le _) .nil
  have distinct : (processKind.fields.map (·.name)).Nodup := by decide
  obtain ⟨values, answers, read⟩ := tagged_members "TargetKind" "kind" kinds processKind deep rfl
    distinct fills (by simp [Slots.values, Slots.members])
    (by simp [Slots.values, Slots.members, treeOf, keep, ofFault])
  have got := answers.get "pid" (a := pid) readsBack_pid (Nat.zero_le (depth - 1)) (by simp)
  refine read.trans ?_
  simp only [processKind, got]
  rfl

theorem read_remote (host : String) (port : UInt16) {depth : Nat} (deep : 2 ≤ depth) :
    readKind depth (treeOf (remote host port).kindJson) = .ok (remote host port) := by
  have fills := Endpoint.fills ⟨host, port⟩ (depth - 1)
  have distinct : (Endpoint.fields.map (·.name)).Nodup := by decide
  obtain ⟨values, answers, read⟩ := tagged_members "TargetKind" "kind" kinds remoteKind deep rfl
    distinct fills (by simp [Endpoint.slots, Slots.values, Slots.members])
    (by simp [Endpoint.slots, Slots.values, Slots.members, treeOf, keep, ofFault])
  have first := answers.get "host" (a := host) readsBack_string (Nat.zero_le (depth - 1))
    (by simp [Endpoint.slots])
  have second := answers.get "port" (a := port) readsBack_port (Nat.zero_le (depth - 1))
    (by simp [Endpoint.slots])
  refine read.trans ?_
  simp only [remoteKind, first, second]
  rfl

theorem read_fileSystem {depth : Nat} (deep : 2 ≤ depth) :
    readKind depth (treeOf fileSystem.kindJson) = .ok fileSystem := by
  have none : Fills (depth - 1) fileSystemKind.fields [] := .nil
  obtain ⟨values, _, read⟩ := tagged_members "TargetKind" "kind" kinds fileSystemKind deep rfl
    List.nodup_nil none nofun nofun
  exact read

theorem readsBack_kind : ReadsBack kindJson readKind 2 where
  whole t := by
    cases t with
    | process pid => exact ⟨trivial, readsBack_pid.whole pid, trivial⟩
    | remote host port => exact ⟨trivial, trivial, readsBack_port.whole port, trivial⟩
    | fileSystem => exact ⟨trivial, trivial⟩
  read t depth deep := by
    cases t with
    | process pid => exact read_process pid deep
    | remote host port => exact read_remote host port deep
    | fileSystem => exact read_fileSystem deep

def fields : List Field := [need "kind" readKind]

def slots (t : Target) : Slots := [("kind", some t.kindJson)]

theorem fills (t : Target) {depth : Nat} (deep : 2 ≤ depth) : Fills depth fields t.slots :=
  .need "kind" t readsBack_kind deep .nil

theorem readsBack : ReadsBack json read 3 where
  whole t := (t.fills (Nat.le_refl 2)).exact_json
  read t depth deep := by
    have fills := t.fills (show 2 ≤ depth - 1 by omega)
    have distinct : (fields.map (·.name)).Nodup := by decide
    have found := record_members "struct TargetHandle" (by omega) distinct fills
    have kind := fills.get "kind" (a := t) distinct readsBack_kind (by omega)
      (by simp [slots])
    have json_eq : t.json = .object t.slots.members := rfl
    rw [fields] at found
    rw [Target.read, json_eq, found, ok_bind, kind]

end Target

namespace Action

theorem readsBack : ReadsBack (fun a => .string a.name) read 0 where
  whole _ := trivial
  read a depth _ := by cases a <;> rfl

end Action

namespace Status

theorem readsBack : ReadsBack (fun s => .string s.name) read 0 where
  whole _ := trivial
  read s depth _ := by cases s <;> rfl

end Status

namespace ClassEntry

def slots (e : ClassEntry) : Slots :=
  [("name", some (.string e.name)), ("location", e.location.map .string),
    ("loader", e.loader.map .string)]

theorem fills (e : ClassEntry) (depth : Nat) : Fills depth fields e.slots :=
  .need "name" e.name readsBack_string (Nat.zero_le _) <|
  .allow "location" e.location readsBack_string (Nat.zero_le _) <|
  .allow "loader" e.loader readsBack_string (Nat.zero_le _) .nil

theorem json_eq (e : ClassEntry) : e.json = .object e.slots.members := by
  obtain ⟨_, location, loader⟩ := e
  cases location <;> cases loader <;> rfl

theorem readsBack : ReadsBack json read 2 where
  whole e := by
    rw [json_eq]
    exact (e.fills 0).exact_json
  read e depth deep := by
    have fills := e.fills (depth - 1)
    have distinct : (fields.map (·.name)).Nodup := by decide
    have found := record_members "struct ClassEntry" deep distinct fills
    have name := fills.get "name" (a := e.name) distinct readsBack_string
      (Nat.zero_le _) (by simp [slots])
    have location := fills.get? "location" (a := e.location) distinct readsBack_string
      string_present (Nat.zero_le _) (by simp [slots])
    have loader := fills.get? "loader" (a := e.loader) distinct readsBack_string
      string_present (Nat.zero_le _) (by simp [slots])
    rw [ClassEntry.read, json_eq, found, ok_bind, name, location, loader]
    rfl

end ClassEntry

namespace Response

theorem readsBack_classes :
    ReadsBack (fun cs => .array (cs.map ClassEntry.json)) (JsonText.list ClassEntry.read) 3 :=
  ClassEntry.readsBack.list (by omega)

theorem classes_present (cs : List ClassEntry) :
    treeOf (.array (cs.map ClassEntry.json)) ≠ .null := by
  simp [treeOf]

def slots (r : Response) : Slots :=
  [("id", some (.natural r.id.toNat)), ("action", some (.string r.action.name)),
    ("status", some (.string r.status.name)),
    ("classes", r.classes.map fun cs => .array (cs.map ClassEntry.json)),
    ("class", r.className.map .string), ("body", r.body.map .string),
    ("message", r.message.map .string)]

theorem fills (r : Response) {depth : Nat} (deep : 3 ≤ depth) : Fills depth fields r.slots :=
  .need "id" r.id readsBack_requestId (Nat.zero_le _) <|
  .need "action" r.action Action.readsBack (Nat.zero_le _) <|
  .need "status" r.status Status.readsBack (Nat.zero_le _) <|
  .allow "classes" r.classes readsBack_classes deep <|
  .allow "class" r.className readsBack_string (Nat.zero_le _) <|
  .allow "body" r.body readsBack_string (Nat.zero_le _) <|
  .allow "message" r.message readsBack_string (Nat.zero_le _) .nil

theorem json_eq (r : Response) : r.json = .object r.slots.members := by
  obtain ⟨_, _, _, classes, className, body, message⟩ := r
  cases classes <;> cases className <;> cases body <;> cases message <;> rfl

theorem apart : (fields.map (·.name)).Nodup := by decide

/-- A response is read from an object with its members in any order, with others between them, and
with fields that it has no value for as `null`. -/
theorem read_scattered (r : Response) {depth : Nat} (deep : 4 ≤ depth) {nulls : List String}
    {extra ms : List (String × Tree)} (h : Scattered fields r.slots nulls extra ms)
    (skipped : ∀ m ∈ extra, skip m.2 = .ok ()) :
    read depth (.object (entries ms) .closed) = .ok r := by
  have within : 3 ≤ depth - 1 := by omega
  have fills := r.fills within
  have found := h.record "struct AgentResponse" (by omega) fills apart skipped
  have answers := h.answers fills apart
  have id := answers.get "id" (a := r.id) readsBack_requestId (Nat.zero_le (depth - 1))
    (by simp [slots])
  have action := answers.get "action" (a := r.action) Action.readsBack (Nat.zero_le (depth - 1))
    (by simp [slots])
  have status := answers.get "status" (a := r.status) Status.readsBack (Nat.zero_le (depth - 1))
    (by simp [slots])
  have classes := answers.get? "classes" (a := r.classes) readsBack_classes classes_present within
    (by simp [slots])
  have className := answers.get? "class" (a := r.className) readsBack_string string_present
    (Nat.zero_le (depth - 1)) (by simp [slots])
  have body := answers.get? "body" (a := r.body) readsBack_string string_present
    (Nat.zero_le (depth - 1)) (by simp [slots])
  have message := answers.get? "message" (a := r.message) readsBack_string string_present
    (Nat.zero_le (depth - 1)) (by simp [slots])
  rw [Response.read, found, ok_bind, id, action, status, classes, className, body, message]
  rfl

theorem readsBack : ReadsBack json read 4 where
  whole r := by
    rw [json_eq]
    exact (r.fills (Nat.le_refl 3)).exact_json
  read r depth deep := by
    rw [json_eq, Slots.treeOf_members]
    exact r.read_scattered deep (Scattered.self fields r.slots) nofun

/-- An object that repeats a member of a response is no response. -/
theorem not_read_repeated {name : String} {ms : List (String × Tree)} (twice : Repeats name ms)
    (field : fields.any (·.name == name) = true) {depth : Nat} (out : Response) :
    read depth (.object (entries ms) .closed) ≠ .ok out := by
  intro done
  obtain ⟨found, recorded, _⟩ := bind_eq_ok.mp done
  exact record_repeats twice field found recorded

theorem decode_payloadOf (r : Response) :
    Frame.decode read (Frame.payloadOf r.json) = .ok r :=
  readsBack.decode (by decide) r

end Response

namespace Command

theorem readsBack : ReadsBack json read 2 where
  whole c := by
    cases c <;> simp [json, members, Exact, ExactMembers]
  read c depth deep := by
    simp only [json, treeOf, read, tagged, enter_of_le deep, ok_bind]
    cases c <;> rfl

end Command

namespace ClassResult

theorem readsBack_status : ReadsBack (fun s => .string s.name) SwapStatus.read 0 where
  whole _ := trivial
  read s depth _ := by cases s <;> rfl

def slots (r : ClassResult) : Slots :=
  [("className", some (.string r.className)), ("status", some (.string r.status.name)),
    ("message", r.message.map .string)]

theorem fills (r : ClassResult) (depth : Nat) : Fills depth fields r.slots :=
  .need "className" r.className readsBack_string (Nat.zero_le _) <|
  .need "status" r.status readsBack_status (Nat.zero_le _) <|
  .allow "message" r.message readsBack_string (Nat.zero_le _) .nil

theorem json_eq (r : ClassResult) : r.json = .object r.slots.members := by
  obtain ⟨_, _, message⟩ := r
  cases message <;> rfl

theorem readsBack : ReadsBack json read 2 where
  whole r := by
    rw [json_eq]
    exact (r.fills 0).exact_json
  read r depth deep := by
    have fills := r.fills (depth - 1)
    have distinct : (fields.map (·.name)).Nodup := by decide
    have found := record_members "struct HotSwapClassResult" deep distinct fills
    have className := fills.get "className" (a := r.className) distinct readsBack_string
      (Nat.zero_le _) (by simp [slots])
    have status := fills.get "status" (a := r.status) distinct readsBack_status
      (Nat.zero_le _) (by simp [slots])
    have message := fills.get? "message" (a := r.message) distinct readsBack_string
      string_present (Nat.zero_le _) (by simp [slots])
    rw [ClassResult.read, json_eq, found, ok_bind, className, status, message]
    rfl

end ClassResult

namespace SwapReport

theorem readsBack_classes :
    ReadsBack (fun cs => .array (cs.map ClassResult.json)) (JsonText.list ClassResult.read) 3 :=
  ClassResult.readsBack.list (by omega)

def slots (r : SwapReport) : Slots :=
  [("status", some (.string r.status.name)), ("message", r.message.map .string),
    ("classes", some (.array (r.classes.map ClassResult.json)))]

theorem fills (r : SwapReport) {depth : Nat} (deep : 3 ≤ depth) : Fills depth fields r.slots :=
  .need "status" r.status ClassResult.readsBack_status (Nat.zero_le _) <|
  .allow "message" r.message readsBack_string (Nat.zero_le _) <|
  .need "classes" r.classes readsBack_classes deep .nil

theorem json_eq (r : SwapReport) : r.json = .object r.slots.members := by
  obtain ⟨_, message, _⟩ := r
  cases message <;> rfl

theorem readsBack : ReadsBack json read 4 where
  whole r := by
    rw [json_eq]
    exact (r.fills (Nat.le_refl 3)).exact_json
  read r depth deep := by
    have within : 3 ≤ depth - 1 := by omega
    have fills := r.fills within
    have distinct : (fields.map (·.name)).Nodup := by decide
    have found := record_members "struct HotSwapReport" (by omega) distinct fills
    have status := fills.get "status" (a := r.status) distinct
      ClassResult.readsBack_status (Nat.zero_le _) (by simp [slots])
    have message := fills.get? "message" (a := r.message) distinct readsBack_string
      string_present (Nat.zero_le _) (by simp [slots])
    have classes := fills.get "classes" (a := r.classes) distinct readsBack_classes
      within (by simp [slots])
    rw [SwapReport.read, json_eq, found, ok_bind, status, message, classes]
    rfl

end SwapReport

/-- Whatever a message holds, its compact text is decoded to it again, and so no other message of
its type has that text. -/
theorem messages_round_trip :
    RoundTrips Request.json Request.read ∧ RoundTrips Response.json Response.read ∧
      RoundTrips ClassEntry.json ClassEntry.read ∧ RoundTrips Command.json Command.read ∧
      RoundTrips Target.json Target.read ∧ RoundTrips Endpoint.json Endpoint.read ∧
      RoundTrips SwapReport.json SwapReport.read := by
  refine ⟨?request, ?response, ?entry, ?command, ?target, ?endpoint, ?report⟩
  case request => exact roundTrips_of_decode Request.decode_payloadOf
  case response => exact roundTrips_of_decode Response.decode_payloadOf
  case entry => exact roundTrips_of_decode (ClassEntry.readsBack.decode (by decide))
  case command => exact roundTrips_of_decode (Command.readsBack.decode (by decide))
  case target => exact roundTrips_of_decode (Target.readsBack.decode (by decide))
  case endpoint => exact roundTrips_of_decode (Endpoint.readsBack.decode (by decide))
  case report => exact roundTrips_of_decode (SwapReport.readsBack.decode (by decide))

end ClassSwap
