import ClassSwap.Proofs.Base64Text
import ClassSwap.Proofs.FrameText
import ClassSwap.Proofs.Records

namespace ClassSwap

open JsonText

theorem Endpoint.readPort_natural (p : UInt16) (depth : Nat) :
    Endpoint.readPort depth (.number (.ok (.natural p.toNat))) = .ok p := by
  have := p.toNat_lt
  simp only [Endpoint.readPort, word16, natural, if_pos (show p.toNat ≤ 65535 by omega)]
  show Except.ok (UInt16.ofNat p.toNat) = .ok p
  rw [UInt16.ofNat_toNat]

theorem readRequestId_natural (n : RequestId) (depth : Nat) :
    readRequestId depth (.number (.ok (.natural n.toNat))) = .ok n := by
  have := n.toNat_lt
  have fits : n.toNat ≤ maxNatural := by unfold maxNatural; omega
  simp only [readRequestId, word64, natural, if_pos fits]
  show Except.ok (UInt64.ofNat n.toNat) = .ok n
  rw [UInt64.ofNat_toNat]

namespace JsonText

section Decode

variable {α : Type} {r : Reader α} {bytes : Bytes} {t : Tree}

theorem decode_of_read {a : α} (scanned : scan bytes = ⟨t, .ok ()⟩)
    (read : r maxDepth t = .ok a) : Frame.decode r bytes = .ok a := by
  unfold Frame.decode JsonText.decode
  rw [scanned, Document.read, read]
  rfl

theorem decode_of_not_read (scanned : scan bytes = ⟨t, .ok ()⟩)
    (unread : ∀ a, r maxDepth t ≠ .ok a) : ∃ e, Frame.decode r bytes = .error e := by
  unfold Frame.decode JsonText.decode
  rw [scanned, Document.read]
  cases read : r maxDepth t with
  | ok a => exact absurd read (unread a)
  | error p => exact ⟨.json p, rfl⟩

theorem ReadsBack.decode {json : α → Json} {least : Nat} (h : ReadsBack json r least)
    (deep : least ≤ maxDepth) (a : α) : Frame.decode r (Frame.payloadOf (json a)) = .ok a :=
  decode_of_read (scan_compact (json a) (h.whole a)) (h.read a deep)

end Decode

theorem readsBack_requestId :
    ReadsBack (fun n : RequestId => .natural n.toNat) readRequestId 0 where
  whole n := by
    have := n.toNat_lt
    show n.toNat ≤ maxNatural
    unfold maxNatural
    omega
  read n depth _ := readRequestId_natural n depth

theorem readsBack_port : ReadsBack (fun p : UInt16 => .natural p.toNat) Endpoint.readPort 0 where
  whole p := by
    have := p.toNat_lt
    show p.toNat ≤ maxNatural
    unfold maxNatural
    omega
  read p depth _ := Endpoint.readPort_natural p depth

end JsonText

namespace Command

def slots : Command → Slots
  | listClasses | halt => []
  | fetchBytes className | initClass className => [("class", some (.string className))]
  | uploadClass name body | uploadArchive name body =>
    [("name", some (.string name)), ("body", some (.string body))]

theorem members_eq (c : Command) :
    c.members = ("action", .string c.action.name) :: c.slots.members := by
  cases c <;> rfl

def operandNames : List String := ["class", "name", "body"]

theorem slots_names (c : Command) : ∀ n ∈ c.slots.map (·.1), n ∈ operandNames := by
  cases c <;> simp [slots, operandNames]

theorem operand_name (c : Command) {m : String × Tree} (mem : m ∈ c.slots.values) :
    m.1 ∈ operandNames :=
  c.slots_names _ ((Slots.names_sublist c.slots).subset (List.mem_map_of_mem mem))

theorem keep_operand (c : Command) {m : String × Tree} (mem : m ∈ c.slots.values) (depth : Nat) :
    keep depth m.2 = .ok () := by
  revert m
  cases c <;> simp [slots, Slots.values, Slots.members, treeOf, keep, ofFault]

/-- The kind that the tag of a command names: it has the operands as its fields, and the command is
built from them. -/
structure Kind (c : Command) (v : Variant Command) : Prop where
  picked : pick kinds c.action.name = .ok v
  apart : (v.fields.map (·.name)).Nodup
  fills (depth : Nat) : Fills depth v.fields c.slots
  build {values : List (String × Tree)} (depth : Nat) (answers : Answers values c.slots) :
    v.build ⟨depth, values⟩ = .ok c

theorem fills_class (tag label : String) (make : String → Command) (className : String)
    (depth : Nat) :
    Fills depth (classKind tag label make).fields [("class", some (.string className))] :=
  .need "class" className readsBack_string (Nat.zero_le _) .nil

theorem build_class (tag label : String) (make : String → Command) {className : String}
    {values : List (String × Tree)} (depth : Nat)
    (answers : Answers values [("class", some (.string className))]) :
    (classKind tag label make).build ⟨depth, values⟩ = .ok (make className) := by
  have operand := answers.get "class" (a := className) readsBack_string (Nat.zero_le depth)
    (by simp)
  simp only [classKind, operand]
  rfl

theorem fills_body (tag label : String) (make : String → String → Command) (name body : String)
    (depth : Nat) :
    Fills depth (bodyKind tag label make).fields
      [("name", some (.string name)), ("body", some (.string body))] :=
  .need "name" name readsBack_string (Nat.zero_le _) <|
  .need "body" body readsBack_string (Nat.zero_le _) .nil

theorem build_body (tag label : String) (make : String → String → Command) {name body : String}
    {values : List (String × Tree)} (depth : Nat)
    (answers : Answers values [("name", some (.string name)), ("body", some (.string body))]) :
    (bodyKind tag label make).build ⟨depth, values⟩ = .ok (make name body) := by
  have first := answers.get "name" (a := name) readsBack_string (Nat.zero_le depth) (by simp)
  have second := answers.get "body" (a := body) readsBack_string (Nat.zero_le depth) (by simp)
  simp only [bodyKind, first, second]
  rfl

theorem exists_kind (c : Command) : ∃ v, c.Kind v := by
  cases c with
  | listClasses | halt => exact ⟨_, rfl, List.nodup_nil, fun _ => .nil, fun _ _ => rfl⟩
  | fetchBytes className =>
    exact ⟨_, rfl, List.nodup_singleton _, fills_class _ _ _ className, build_class _ _ _⟩
  | initClass className =>
    exact ⟨_, rfl, List.nodup_singleton _, fills_class _ _ _ className, build_class _ _ _⟩
  | uploadClass name body =>
    exact ⟨_, rfl, by decide, fills_body _ _ _ name body, build_body _ _ _⟩
  | uploadArchive name body =>
    exact ⟨_, rfl, by decide, fills_body _ _ _ name body, build_body _ _ _⟩

def tag (c : Command) : String × Tree := ("action", .string (.ok c.action.name))

end Command

namespace Request

def names : List String := ["id", "host", "port", "action", "class", "name", "body"]

/-- The members of a request that are not its command's. -/
def slots (r : Request) : Slots :=
  [("id", some (.natural r.id.toNat)), ("host", some (.string r.host)),
    ("port", some (.natural r.port.toNat))]

theorem fills (r : Request) (depth : Nat) : Fills depth fields r.slots :=
  .need "id" r.id readsBack_requestId (Nat.zero_le _) <|
  .need "host" r.host readsBack_string (Nat.zero_le _) <|
  .need "port" r.port readsBack_port (Nat.zero_le _) .nil

theorem apart : (fields.map (·.name)).Nodup := by decide

def values (r : Request) : List (String × Tree) :=
  r.slots.values ++ r.command.tag :: r.command.slots.values

theorem treeOf_json (r : Request) : treeOf r.json = .object (entries r.values) .closed := by
  show Tree.object (memberTreesOf (r.slots.members ++ r.command.members)) .closed = _
  rw [Command.members_eq, memberTreesOf_eq, List.map_append]
  rfl

theorem commandMembers_entries (ms : List (String × Tree)) :
    commandMembers (entries ms) = entries (ms.filter fun m => !fields.any (·.name == m.1)) := by
  rw [commandMembers, entries, List.filter_map]
  rfl

theorem fields_names : fields.map (·.name) = ["id", "host", "port"] := rfl

theorem any_name_iff {name : String} :
    fields.any (·.name == name) = true ↔ name ∈ ["id", "host", "port"] := by
  simp only [← fields_names, List.any_eq_true, List.mem_map, beq_iff_eq]

theorem command_name_unknown (c : Command) {m : String × Tree} (mem : m ∈ c.tag :: c.slots.values) :
    fields.any (·.name == m.1) = false := by
  rw [Bool.eq_false_iff, Ne, any_name_iff]
  rcases List.mem_cons.mp mem with rfl | operand
  · simp [Command.tag]
  · have apart : ∀ n ∈ Command.operandNames, n ∉ ["id", "host", "port"] := by decide
    exact apart m.1 (c.operand_name operand)

section Read

variable {depth : Nat} {extra ms : List (String × Tree)}

theorem ne_action_of_mem (c : Command) (foreign : ∀ m ∈ extra, m.1 ∉ names) :
    ∀ m ∈ c.slots.values ++ extra, m.1 ≠ "action" := by
  intro m mem eq
  rcases List.mem_append.mp mem with operand | other
  · have apart : "action" ∉ Command.operandNames := by decide
    exact apart (eq ▸ c.operand_name operand)
  · have listed : "action" ∈ names := by decide
    exact foreign m other (eq ▸ listed)

/-- The command is read from the members that the request leaves over: its tag may stand anywhere
among them, and those that are no operands are passed over. -/
theorem tagged_scattered (c : Command) (perm : ms.Perm (c.tag :: (c.slots.values ++ extra)))
    (foreign : ∀ m ∈ extra, m.1 ∉ names) (plain : ∀ m ∈ extra, keep depth m.2 = .ok ()) :
    taggedOfMembers "action" Command.kinds depth (entries ms) = .ok c := by
  obtain ⟨v, kind⟩ := c.exists_kind
  have fills := kind.fills depth
  have untagged := ne_action_of_mem c foreign
  have sound : ∀ m ∈ c.slots.values ++ extra, keep depth m.2 = .ok () := by
    intro m mem
    rcases List.mem_append.mp mem with operand | added
    · exact c.keep_operand operand depth
    · exact plain m added
  have split_ : splitTag "action" (pickKept Command.kinds) depth none [] (entries ms) =
      .ok (some v, entries (ms.filter (·.1 != "action"))) :=
    splitTag_tagged perm untagged kind.picked sound
  have unknown : ∀ m ∈ extra, v.fields.any (·.name == m.1) = false := by
    intro m added
    rw [Bool.eq_false_iff]
    intro field
    obtain ⟨f, within, same⟩ := List.any_eq_true.mp field
    have slot : m.1 ∈ c.slots.map (·.1) := by
      rw [fills.names, ← beq_iff_eq.mp same]
      exact List.mem_map_of_mem within
    have listed : ∀ n ∈ Command.operandNames, n ∈ names := by decide
    exact foreign m added (listed _ (c.slots_names _ slot))
  have scattered : Scattered v.fields c.slots [] extra (ms.filter (·.1 != "action")) :=
    .of_perm (filter_tag perm untagged).2 unknown
  simp only [taggedOfMembers, split_, ok_bind, scattered.ofMembers fills kind.apart]
  exact kind.build depth (scattered.answers fills kind.apart)

/-- A request is read from an object with its members in any order, with others between them. -/
theorem read_scattered (r : Request) (deep : 2 ≤ depth) (perm : ms.Perm (r.values ++ extra))
    (foreign : ∀ m ∈ extra, m.1 ∉ names) (plain : ∀ m ∈ extra, keep (depth - 1) m.2 = .ok ()) :
    read depth (.object (entries ms) .closed) = .ok r := by
  have fills := r.fills (depth - 1)
  have own : ∀ m ∈ r.slots.values, fields.any (·.name == m.1) = true := by
    intro m mem
    obtain ⟨value, within, _⟩ := Slots.mem_values.mp mem
    exact fills.any_name within
  have others : ∀ m ∈ r.command.tag :: (r.command.slots.values ++ extra),
      fields.any (·.name == m.1) = false := by
    intro m mem
    rcases List.mem_append.mp (List.cons_append ▸ mem) with command | added
    · exact command_name_unknown r.command command
    · have listed : ∀ n ∈ ["id", "host", "port"], n ∈ names := by decide
      rw [Bool.eq_false_iff, Ne, any_name_iff]
      exact fun known => foreign m added (listed _ known)
  rw [values, List.append_assoc, List.cons_append] at perm
  have scattered : Scattered fields r.slots [] (r.command.tag :: (r.command.slots.values ++ extra))
      ms := .of_perm perm others
  have kept : ∀ m ∈ r.command.tag :: (r.command.slots.values ++ extra),
      keep (depth - 1) m.2 = .ok () := by
    intro m mem
    rcases List.mem_cons.mp mem with rfl | rest
    · rfl
    · rcases List.mem_append.mp rest with operand | added
      · exact r.command.keep_operand operand _
      · exact plain m added
  have left : (ms.filter fun m => !fields.any (·.name == m.1)).Perm
      (r.command.tag :: (r.command.slots.values ++ extra)) := by
    refine (perm.filter _).trans (.of_eq ?_)
    rw [List.filter_append, List.filter_eq_nil_iff.mpr (by simpa using own),
      List.filter_eq_self.mpr (by simpa using others), List.nil_append]
  have collected := scattered.collect fills apart kept
  have complete := scattered.complete fills
  have answers := scattered.answers fills apart
  have command := tagged_scattered r.command left foreign plain
  have id := answers.get "id" readsBack_requestId (Nat.zero_le (depth - 1)) (a := r.id)
    (by simp [slots])
  have host := answers.get "host" readsBack_string (Nat.zero_le (depth - 1)) (a := r.host)
    (by simp [slots])
  have port := answers.get "port" readsBack_port (Nat.zero_le (depth - 1)) (a := r.port)
    (by simp [slots])
  simp only [read, enter_of_le deep, ok_bind, collected, complete, commandMembers_entries, command,
    id, host, port]
  rfl

/-- No command is read from members that repeat its tag or one of its operands. -/
theorem not_tagged_repeated (c : Command) {name : String} (twice : Repeats name ms)
    (own : name ∈ (c.tag :: c.slots.values).map (·.1)) (tagged : c.tag ∈ ms) (out : Command) :
    taggedOfMembers "action" Command.kinds depth (entries ms) ≠ .ok out := by
  intro done
  obtain ⟨⟨chosen, kept⟩, split_, done⟩ := bind_eq_ok.mp done
  obtain ⟨_, settled, rfl⟩ := (splitTag_entries ms).mp split_
  have among : c.tag ∈ ms.filter (·.1 == "action") := List.mem_filter.mpr ⟨tagged, rfl⟩
  obtain ⟨tags, v, picked, rfl⟩ := settled.eq_singleton among
  obtain ⟨w, kind⟩ := c.exists_kind
  cases picked.symm.trans (kind.picked : pickKept Command.kinds c.tag.2 = .ok w)
  rcases List.mem_cons.mp own with rfl | operand
  · have both : Repeats "action" (ms.filter (·.1 == "action")) := twice.filter fun _ => rfl
    rw [tags] at both
    exact both.not_nodup (List.nodup_singleton _)
  · obtain ⟨⟨_, t⟩, mem, rfl⟩ := List.mem_map.mp operand
    obtain ⟨value, slot, _⟩ := Slots.mem_values.mp mem
    have other : ∀ n ∈ Command.operandNames, (n != "action") = true := by decide
    have apart := other _ (c.operand_name mem)
    have still := twice.filter (p := fun m => m.1 != "action") fun _ => apart
    exact ofMembers_repeats still ((kind.fills depth).any_name slot) out done

/-- An object that repeats a member of a request is no request. -/
theorem not_read_repeated (r : Request) {name : String} (twice : Repeats name ms)
    (own : name ∈ r.values.map (·.1)) (tagged : r.command.tag ∈ ms) (out : Request) :
    read depth (.object (entries ms) .closed) ≠ .ok out := by
  intro done
  obtain ⟨inside, _, done⟩ := bind_eq_ok.mp done
  obtain ⟨found, collected, done⟩ := bind_eq_ok.mp done
  by_cases field : fields.any (·.name == name) = true
  · exact collect_repeats twice field found collected
  obtain ⟨_, done⟩ := seq_eq_ok.mp done
  obtain ⟨command, done, _⟩ := bind_eq_ok.mp done
  rw [commandMembers_entries] at done
  have still := twice.filter (p := fun m => !fields.any (·.name == m.1)) fun _ => by
    simpa using field
  have left : r.command.tag ∈ ms.filter fun m => !fields.any (·.name == m.1) :=
    List.mem_filter.mpr ⟨tagged, rfl⟩
  rw [values, List.map_append] at own
  rcases List.mem_append.mp own with heading | operand
  · obtain ⟨⟨_, t⟩, mem, rfl⟩ := List.mem_map.mp heading
    obtain ⟨value, slot, _⟩ := Slots.mem_values.mp mem
    exact field ((r.fills 0).any_name slot)
  · exact not_tagged_repeated r.command still operand left command done

end Read

theorem readsBack : ReadsBack json read 2 where
  whole r := by
    have operands : ExactMembers r.command.members := by
      cases r.command <;> simp [Command.members, ExactMembers, Exact]
    exact ⟨readsBack_requestId.whole r.id, trivial, readsBack_port.whole r.port, operands⟩
  read r depth deep := by
    rw [treeOf_json]
    exact r.read_scattered deep (.of_eq (List.append_nil _).symm) nofun nofun

/-- What is sent for a request is decoded to the request. -/
theorem decode_payloadOf (r : Request) : Frame.decode read (Frame.payloadOf r.json) = .ok r :=
  readsBack.decode (by decide) r

/-- A body fits into a frame only if the frame has room for it. -/
theorem length_body_le {r : Request} {frame bytes : Bytes}
    (made : Frame.encode r.json = .ok frame)
    (mem : ("body", .string (Base64.encode bytes)) ∈ r.command.members) :
    bytes.length ≤ Frame.maxPayload := by
  have small := (Frame.ofPayload_eq_ok_iff.mp made).1
  have symbols := Base64.length_le_encodeSymbols bytes
  have members : ("body", Json.string (Base64.encode bytes)) ∈
      ("id", Json.natural r.id.toNat) :: ("host", .string r.host) ::
        ("port", .natural r.port.toNat) :: r.command.members := by
    simp [mem]
  have inside := length_le_compactMembers members
  rw [← length_compact_object] at inside
  have text := Utf8.length_le_encode r.json.compact
  have whole : r.json = .object (("id", Json.natural r.id.toNat) :: ("host", .string r.host) ::
      ("port", .natural r.port.toNat) :: r.command.members) := rfl
  rw [← whole, Base64.toList_encode, List.length_map] at inside
  simp only [Frame.payloadOf] at small
  omega

/-- What is sent for an upload, with and without the body. -/
theorem compact_upload (id : RequestId) (host : String) (port : UInt16)
    (name body : String) :
    ∃ front, (Request.json ⟨id, host, port, .uploadClass name ""⟩).compact = front ++ ['"', '}'] ∧
      (Request.json ⟨id, host, port, .uploadClass name body⟩).compact =
        front ++ body.toList.flatMap Json.escaped ++ ['"', '}'] := by
  refine ⟨'{' :: Json.quoted "id" ++ ':' :: Nat.toDigits 10 id.toNat ++ ',' :: Json.quoted "host" ++
    ':' :: Json.quoted host ++ ',' :: Json.quoted "port" ++ ':' :: Nat.toDigits 10 port.toNat ++
    ',' :: Json.quoted "action" ++ ':' :: Json.quoted "upload_class" ++ ',' :: Json.quoted "name" ++
    ':' :: Json.quoted name ++ ',' :: Json.quoted "body" ++ [':', '"'], ?_, ?_⟩ <;>
  simp [Request.json, Command.members, Command.action, Action.name, Json.compact,
    Json.compactMembers, Json.quoted]

theorem length_payloadOf_upload (id : RequestId) (host : String) (port : UInt16)
    (name : String) (n : Nat) :
    (Frame.payloadOf (Request.json
        ⟨id, host, port, .uploadClass name (String.ofList (List.replicate n 'A'))⟩)).length =
      (Frame.payloadOf (Request.json ⟨id, host, port, .uploadClass name ""⟩)).length + n := by
  obtain ⟨front, empty, filled⟩ :=
    Request.compact_upload id host port name (String.ofList (List.replicate n 'A'))
  have letters : (Utf8.encode ((List.replicate n 'A').flatMap Json.escaped)).length = n := by
    clear empty filled
    induction n with
    | zero => rfl
    | succ n ih =>
      rw [List.replicate_succ, List.flatMap_cons, Utf8.encode_append, List.length_append, ih,
        Nat.add_comm]
      rfl
  rw [Frame.payloadOf, Frame.payloadOf, empty, filled, String.toList_ofList]
  simp only [Utf8.encode_append, List.length_append, letters]
  omega

end Request

end ClassSwap
