import ClassSwap.Config
import ClassSwap.Proofs.BlankText
import ClassSwap.Proofs.KeyedTables
import ClassSwap.Proofs.TableRecords
import Mathlib

namespace ClassSwap

open Toml

namespace Toml.Node

def text? : Node → Option String
  | string s => some s
  | _ => none

def flag? : Node → Option Bool
  | boolean b => some b
  | _ => none

def natural? : Node → Option Nat
  | integer n => if 0 ≤ n then some n.toNat else none
  | _ => none

def texts? : Node → Option (List String)
  | array items => items.mapM text?
  | _ => none

def members? : Node → Option Members
  | table _ members => some members
  | _ => none

def isEmpty : Node → Bool
  | table _ [] | array [] => true
  | _ => false

/-- A way of naming files, as a text or as the one key of a table, with nothing under it. -/
def naming? : Node → Option Naming
  | string name => Config.namingNames.lookup name
  | table _ [(name, value)] => if value.isEmpty then Config.namingNames.lookup name else none
  | _ => none

end Toml.Node

/-- What is read of a value is what the decoder makes of it. -/
def Reads {β : Type} (read : Node → Option β) (d : Decoder β) : Prop :=
  ∀ v x, read v = some x → d v = .ok x

theorem reads_text (expected : String) : Reads Node.text? (textCalled expected) := by
  intro v x read
  cases v <;> simp_all [Node.text?, textCalled]

theorem reads_flag : Reads Node.flag? boolean := by
  intro v x read
  cases v <;> simp_all [Node.flag?, boolean]

theorem reads_natural : Reads Node.natural? natural := by
  intro v x read
  cases v <;> simp_all [Node.natural?, natural]

theorem reads_string : Reads Node.text? string := reads_text _

theorem reads_path : Reads Node.text? path := reads_text _

theorem reads_texts : Reads Node.texts? (list string) := by
  have all (items : List Node) (xs : List String) (read : items.mapM Node.text? = some xs) :
      items.mapM string = .ok xs := by
    induction items generalizing xs with
    | nil =>
      obtain rfl : xs = [] := by simpa using read
      rfl
    | cons v items ih =>
      simp only [List.mapM_cons, Option.bind_eq_bind, Option.bind_eq_some_iff, Option.pure_def,
        Option.some.injEq] at read
      obtain ⟨x, read, xs, reads, rfl⟩ := read
      rw [List.mapM_cons, reads_string v x read, ok_bind, ih xs reads, ok_bind]
      rfl
  intro v xs read
  cases v with
  | array items => exact all items xs read
  | _ => cases read

theorem requireEmpty_of_isEmpty {v : Node} (empty : v.isEmpty = true) :
    requireEmpty v = .ok () := by
  unfold Node.isEmpty at empty
  split at empty
  · rfl
  · rfl
  · cases empty

theorem named_of_lookup {names : List (String × β)} {name : String} {x : β}
    (found : names.lookup name = some x) : named names name = .ok x := by
  rw [named, found]

theorem reads_naming : Reads Node.naming? (oneName Config.namingNames) := by
  intro v x read
  unfold Node.naming? at read
  split at read
  · exact named_of_lookup read
  · split at read
    next empty =>
      rw [oneName, named_of_lookup read, ok_bind, requireEmpty_of_isEmpty empty]
      rfl
    · cases read
  · cases read

namespace Config

/-- What a table has under a key. -/
def value? {β : Type} (members : Members) (key : String) (read : Node → Option β) : Option β :=
  (members.lookup key).bind read

/-- The members of a section; a section that is absent has none. -/
def sectionOf (doc : Members) (name : String) : Members :=
  (value? doc name Node.members?).getD []

def Logging.overlaid (old : Logging) (members : Members) : Logging where
  level := (value? members "level" Node.text?).getD old.level
  json := (value? members "json" Node.flag?).getD old.json
  stderr := (value? members "stderr" Node.flag?).getD old.stderr
  file := (value? members "file" Node.text?).or old.file

def Agent.overlaid (old : Agent) (members : Members) : Agent where
  host := (value? members "host" Node.text?).getD old.host
  connectTimeout := (value? members "connect_timeout_ms" Node.natural?).getD old.connectTimeout
  requestTimeout := (value? members "request_timeout_ms" Node.natural?).getD old.requestTimeout
  uploadTimeout := (value? members "upload_timeout_ms" Node.natural?).getD old.uploadTimeout

def Compile.overlaid (old : Compile) (members : Members) : Compile where
  javac := (value? members "javac" Node.text?).getD old.javac
  release := (value? members "release" Node.text?).or old.release
  extraArgs := (value? members "extra_args" Node.texts?).getD old.extraArgs
  timeout := (value? members "timeout_secs" Node.natural?).getD old.timeout
  scratchDir := (value? members "scratch_dir" Node.text?).or old.scratchDir

def Save.overlaid (old : Save) (members : Members) : Save where
  naming := (value? members "naming" Node.naming?).getD old.naming
  classSuffix := (value? members "class_suffix" Node.text?).getD old.classSuffix
  outputDir := (value? members "output_dir" Node.text?).or old.outputDir

/-- A configuration with what a document sets laid over it. -/
def overlaid (old : Config) (doc : Members) : Config where
  logging := old.logging.overlaid (sectionOf doc "logging")
  agent := old.agent.overlaid (sectionOf doc "agent")
  compile := old.compile.overlaid (sectionOf doc "compile")
  save := old.save.overlaid (sectionOf doc "save")

/-- The value is of the kind that is read. -/
def Holds {β : Type} (read : Node → Option β) (value : Node) : Prop := (read value).isSome = true

abbrev Keys := List (String × (Node → Prop))

/-- Each key is known, and has a value of its type. -/
def Fits (keys : Keys) (members : Members) : Prop :=
  ∀ m ∈ members, ∃ takes, (m.1, takes) ∈ keys ∧ takes m.2

namespace Fits

variable {α β : Type} {keys : Keys} {members : Members} {fields : List (Toml.Field α)} {a b : α}
  {name : String} {value : Node}

theorem takes (fits : Fits keys members) (once : (keys.map (·.1)).Nodup) {takes : Node → Prop}
    (there : (name, takes) ∈ keys) (found : members.lookup name = some value) : takes value := by
  obtain ⟨before, after, rfl, -⟩ := List.lookup_eq_some_iff.mp found
  obtain ⟨takes', there', taken⟩ := fits (name, value) (by simp)
  have same := List.inj_on_of_nodup_map once there there' rfl
  simp only [Prod.mk.injEq, true_and] at same
  rwa [same]

theorem taken (fits : Fits keys members) (once : (keys.map (·.1)).Nodup) {read : Node → Option β}
    {d : Decoder β} (reads : Reads read d) (there : (name, Holds read) ∈ keys) (v : Node)
    (found : members.lookup name = some v) : ∃ x, read v = some x ∧ d v = .ok x := by
  obtain ⟨x, value⟩ := Option.isSome_iff_exists.mp (fits.takes once there found)
  exact ⟨x, value, reads v x value⟩

theorem setMembers_eq_ok_iff (fits : Fits keys members) (keyed : Keyed members)
    (apart : fields.Pairwise Apart) (names : keys.map (·.1) = fields.map (·.name)) (a b : α) :
    setMembers fields a members = .ok b ↔ overlay fields members a = .ok b := by
  refine Toml.setMembers_eq_ok_iff apart (fun m mem => ?_) keyed.distinct a b
  obtain ⟨takes, there, -⟩ := fits m mem
  exact List.mem_map.mp (names ▸ List.mem_map_of_mem there)

end Fits

def Logging.keys : Keys :=
  [("level", Holds Node.text?), ("json", Holds Node.flag?), ("stderr", Holds Node.flag?),
    ("file", Holds Node.text?)]

def Agent.keys : Keys :=
  [("host", Holds Node.text?), ("connect_timeout_ms", Holds Node.natural?),
    ("request_timeout_ms", Holds Node.natural?), ("upload_timeout_ms", Holds Node.natural?)]

def Compile.keys : Keys :=
  [("javac", Holds Node.text?), ("release", Holds Node.text?), ("extra_args", Holds Node.texts?),
    ("timeout_secs", Holds Node.natural?), ("scratch_dir", Holds Node.text?)]

def Save.keys : Keys :=
  [("naming", Holds Node.naming?), ("class_suffix", Holds Node.text?),
    ("output_dir", Holds Node.text?)]

def sections : List (String × Keys) :=
  [("logging", Logging.keys), ("agent", Agent.keys), ("compile", Compile.keys), ("save", Save.keys)]

def IsSection (keys : Keys) (value : Node) : Prop :=
  ∃ origin members, value = .table origin members ∧ Fits keys members

def WellTyped (doc : Members) : Prop := Fits (sections.map fun s => (s.1, IsSection s.2)) doc

/-- A key that is not known, of the document itself or of a section. -/
inductive HasUnknownKey (doc : Members) : Prop
  | outer (m : String × Node) (mem : m ∈ doc) (unknown : m.1 ∉ sections.map (·.1))
  | inner (name : String) (origin : Origin) (members : Members) (keys : Keys)
    (mem : (name, Node.table origin members) ∈ doc) (there : (name, keys) ∈ sections)
    (m : String × Node) (mem' : m ∈ members) (unknown : m.1 ∉ keys.map (·.1))

def IsBlankText (text : String) : Prop := ∀ ch ∈ text.toList, isBlank ch = true

instance (text : String) : Decidable (IsBlankText text) :=
  decidable_of_iff (text.toList.all isBlank = true) List.all_eq_true

/-- What is wrong with a configuration, by the key and the reason that is given for it, in order. -/
def faults (c : Config) : List (String × String) :=
  (if IsBlankText c.agent.host then [("agent.host", "must not be empty")] else []) ++
  (if c.agent.connectTimeout = 0 then
    [("agent.connect_timeout_ms", "must be greater than zero")] else []) ++
  (if c.agent.requestTimeout = 0 then
    [("agent.request_timeout_ms", "must be greater than zero")] else []) ++
  (if c.agent.uploadTimeout = 0 then
    [("agent.upload_timeout_ms", "must be greater than zero")] else []) ++
  (if IsBlankText c.compile.javac then [("compile.javac", "must not be empty")] else []) ++
  (if c.compile.timeout = 0 then [("compile.timeout_secs", "must be greater than zero")] else []) ++
  (if c.save.classSuffix = "" then [("save.class_suffix", "must not be empty")] else [])

structure Sound (c : Config) : Prop where
  host : ¬IsBlankText c.agent.host
  connectTimeout : 0 < c.agent.connectTimeout
  requestTimeout : 0 < c.agent.requestTimeout
  uploadTimeout : 0 < c.agent.uploadTimeout
  javac : ¬IsBlankText c.compile.javac
  timeout : 0 < c.compile.timeout
  classSuffix : c.save.classSuffix ≠ ""

theorem isBlankText_eq (text : String) : isBlankText text = decide (IsBlankText text) := by
  rw [isBlankText, Bool.eq_iff_iff, decide_eq_true_eq, List.isEmpty_iff]
  exact (bares_trimBlank text.toList).eq_nil_iff

theorem map_filter_cons {α β : Type} (p : α → Bool) (f : α → β) (a : α) (rest : List α) :
    ((a :: rest).filter p).map f = (if p a = true then [f a] else []) ++ (rest.filter p).map f := by
  rw [List.filter_cons]
  split <;> rfl

theorem validate_eq (c : Config) :
    c.validate = match (faults c).head? with
      | some (field, reason) => .error (.invalid field reason)
      | none => .ok () := by
  have same : (c.checks.filter (·.1)).map (·.2) = faults c := by
    simp only [checks, faults, map_filter_cons, isBlankText_eq, decide_eq_true_eq, beq_iff_eq,
      String.isEmpty_iff, List.filter_nil, List.map_nil, List.append_nil, List.append_assoc]
  rw [← same, List.head?_map, List.head?_filter, validate]
  cases c.checks.find? (·.1) <;> rfl

theorem faults_eq_nil_iff (c : Config) : faults c = [] ↔ Sound c := by
  have skipped (p : Prop) [Decidable p] (fault : String × String) :
      (if p then [fault] else []) = [] ↔ ¬p := by
    split <;> simp [*]
  simp only [faults, List.append_eq_nil_iff, skipped, ← Nat.pos_iff_ne_zero, ← ne_eq]
  constructor
  · rintro ⟨⟨⟨⟨⟨⟨host, connect⟩, request⟩, upload⟩, javac⟩, timeout⟩, suffix⟩
    exact ⟨host, connect, request, upload, javac, timeout, suffix⟩
  · rintro ⟨host, connect, request, upload, javac, timeout, suffix⟩
    exact ⟨⟨⟨⟨⟨⟨host, connect⟩, request⟩, upload⟩, javac⟩, timeout⟩, suffix⟩

section

variable {members : Members}

theorem loggingFields_apart : loggingFields.Pairwise Apart := by
  simp only [loggingFields, List.pairwise_cons, List.forall_mem_cons, List.not_mem_nil,
    false_implies, implies_true, List.Pairwise.nil, and_true]
  and_intros <;> exact apart_field (by decide) fun _ _ _ => rfl

theorem agentFields_apart : agentFields.Pairwise Apart := by
  simp only [agentFields, List.pairwise_cons, List.forall_mem_cons, List.not_mem_nil,
    false_implies, implies_true, List.Pairwise.nil, and_true]
  and_intros <;> exact apart_field (by decide) fun _ _ _ => rfl

theorem compileFields_apart : compileFields.Pairwise Apart := by
  simp only [compileFields, List.pairwise_cons, List.forall_mem_cons, List.not_mem_nil,
    false_implies, implies_true, List.Pairwise.nil, and_true]
  and_intros <;> exact apart_field (by decide) fun _ _ _ => rfl

theorem saveFields_apart : saveFields.Pairwise Apart := by
  simp only [saveFields, List.pairwise_cons, List.forall_mem_cons, List.not_mem_nil,
    false_implies, implies_true, List.Pairwise.nil, and_true]
  and_intros <;> exact apart_field (by decide) fun _ _ _ => rfl

theorem fields_apart : fields.Pairwise Apart := by
  simp only [fields, List.pairwise_cons, List.forall_mem_cons, List.not_mem_nil,
    false_implies, implies_true, List.Pairwise.nil, and_true]
  and_intros <;> exact apart_field (by decide) fun _ _ _ => rfl

theorem Logging.read (keyed : Keyed members) (fits : Fits keys members) (old : Logging) :
    setMembers loggingFields old members = .ok (old.overlaid members) := by
  have once : (keys.map (·.1)).Nodup := by decide
  rw [fits.setMembers_eq_ok_iff keyed loggingFields_apart rfl]
  simp only [loggingFields, overlay]
  rw [overlay_field (·.level) (fun _ => rfl) (fits.taken once reads_string (by simp [keys])),
    ok_bind,
    overlay_field (·.json) (fun _ => rfl) (fits.taken once reads_flag (by simp [keys])), ok_bind,
    overlay_field (·.stderr) (fun _ => rfl) (fits.taken once reads_flag (by simp [keys])), ok_bind,
    overlay_present (·.file) (fun _ => rfl) (fits.taken once reads_path (by simp [keys])), ok_bind]
  rfl

theorem Agent.read (keyed : Keyed members) (fits : Fits keys members) (old : Agent) :
    setMembers agentFields old members = .ok (old.overlaid members) := by
  have once : (keys.map (·.1)).Nodup := by decide
  rw [fits.setMembers_eq_ok_iff keyed agentFields_apart rfl]
  simp only [agentFields, overlay]
  rw [overlay_field (·.host) (fun _ => rfl) (fits.taken once reads_string (by simp [keys])),
    ok_bind, overlay_field (·.connectTimeout) (fun _ => rfl)
      (fits.taken once reads_natural (by simp [keys])), ok_bind,
    overlay_field (·.requestTimeout) (fun _ => rfl)
      (fits.taken once reads_natural (by simp [keys])), ok_bind,
    overlay_field (·.uploadTimeout) (fun _ => rfl)
      (fits.taken once reads_natural (by simp [keys])), ok_bind]
  rfl

theorem Compile.read (keyed : Keyed members) (fits : Fits keys members) (old : Compile) :
    setMembers compileFields old members = .ok (old.overlaid members) := by
  have once : (keys.map (·.1)).Nodup := by decide
  rw [fits.setMembers_eq_ok_iff keyed compileFields_apart rfl]
  simp only [compileFields, overlay]
  rw [overlay_field (·.javac) (fun _ => rfl) (fits.taken once reads_string (by simp [keys])),
    ok_bind, overlay_present (·.release) (fun _ => rfl)
      (fits.taken once reads_string (by simp [keys])), ok_bind,
    overlay_field (·.extraArgs) (fun _ => rfl)
      (fits.taken once reads_texts (by simp [keys])), ok_bind,
    overlay_field (·.timeout) (fun _ => rfl)
      (fits.taken once reads_natural (by simp [keys])), ok_bind,
    overlay_present (·.scratchDir) (fun _ => rfl)
      (fits.taken once reads_path (by simp [keys])), ok_bind]
  rfl

theorem Save.read (keyed : Keyed members) (fits : Fits keys members) (old : Save) :
    setMembers saveFields old members = .ok (old.overlaid members) := by
  have once : (keys.map (·.1)).Nodup := by decide
  rw [fits.setMembers_eq_ok_iff keyed saveFields_apart rfl]
  simp only [saveFields, overlay]
  rw [overlay_field (·.naming) (fun _ => rfl) (fits.taken once reads_naming (by simp [keys])),
    ok_bind,
    overlay_field (·.classSuffix) (fun _ => rfl)
      (fits.taken once reads_string (by simp [keys])), ok_bind,
    overlay_present (·.outputDir) (fun _ => rfl)
      (fits.taken once reads_path (by simp [keys])), ok_bind]
  rfl

end

section

variable {doc : Members} {σ : Type} {name typeName : String} {keys : Keys}
  {inner : List (Toml.Field σ)} {put : Config → σ → Config} {laid : σ → Members → σ}

/-- A section is what its members make of the standard one, also if there is no such section. -/
theorem overlay_section (keyed : Keyed doc) (typed : WellTyped doc)
    (there : (name, keys) ∈ sections) (old : σ)
    (read : ∀ members, Keyed members → Fits keys members →
      setMembers inner old members = .ok (laid old members))
    (bare : laid old [] = old) (get : Config → σ) (keep : ∀ c, put c (get c) = c) (c : Config)
    (same : get c = old) :
    (field name (record typeName inner old) put).overlay doc c =
      .ok (put c (laid old (sectionOf doc name))) := by
  have once : ((sections.map fun s => (s.1, IsSection s.2)).map (·.1)).Nodup := by decide
  have taken (v : Node) (found : doc.lookup name = some v) :
      ∃ x, v.members?.map (laid old) = some x ∧ record typeName inner old v = .ok x := by
    have there : (name, IsSection keys) ∈ sections.map fun s => (s.1, IsSection s.2) :=
      List.mem_map_of_mem there
    obtain ⟨origin, members, rfl, fits⟩ := typed.takes once there found
    exact ⟨_, rfl, read members (keyedIn_table.mp (keyed.lookup found)) fits⟩
  rw [overlay_field get keep taken, same, sectionOf, value?]
  cases found : doc.lookup name with
  | none => rw [Option.bind_none, Option.bind_none, Option.getD_none, Option.getD_none, bare]
  | some v => cases v <;> simp [Node.members?, bare]

theorem read_wellTyped (keyed : Keyed doc) (typed : WellTyped doc) :
    setMembers fields {} doc = .ok (({} : Config).overlaid doc) := by
  rw [typed.setMembers_eq_ok_iff keyed fields_apart rfl]
  simp only [fields, overlay]
  rw [overlay_section keyed typed (by simp [sections]) Logging.withoutKeys
      (fun _ keyed fits => Logging.read keyed fits _) rfl (·.logging) (fun _ => rfl) _ rfl, ok_bind,
    overlay_section keyed typed (by simp [sections]) Agent.withoutKeys
      (fun _ keyed fits => Agent.read keyed fits _) rfl (·.agent) (fun _ => rfl) _ rfl, ok_bind,
    overlay_section keyed typed (by simp [sections]) Compile.withoutKeys
      (fun _ keyed fits => Compile.read keyed fits _) rfl (·.compile) (fun _ => rfl) _ rfl, ok_bind,
    overlay_section keyed typed (by simp [sections]) Save.withoutKeys
      (fun _ keyed fits => Save.read keyed fits _) rfl (·.save) (fun _ => rfl) _ rfl, ok_bind]
  rfl

theorem setMembers_unknown {σ : Type} {fields : List (Toml.Field σ)} {members : Members}
    {m : String × Node} (mem : m ∈ members) (unknown : m.1 ∉ fields.map (·.name)) (a : σ) :
    ∃ e, setMembers fields a members = .error e := by
  refine setMembers_error mem (fun f found => ?_) a
  have known : f.name = m.1 := by simpa using List.find?_some found
  exact absurd (known ▸ List.mem_map_of_mem (List.mem_of_find?_eq_some found)) unknown

theorem read_unknown (unknown : HasUnknownKey doc) (c : Config) :
    ∃ e, setMembers fields c doc = .error e := by
  rcases unknown with ⟨m, mem, unknown⟩ |
    ⟨name, origin, members, keys, mem, there, m, mem', unknown⟩
  · exact setMembers_unknown mem (by simpa [sections, fields, field] using unknown) c
  · refine setMembers_error mem (fun f found c c' => ?_) c
    have refused {σ : Type} {inner : List (Toml.Field σ)}
        (names : keys.map (·.1) = inner.map (·.name)) (typeName : String) (old : σ)
        (put : Config → σ → Config) :
        (field name (record typeName inner old) put).set (.table origin members) c ≠ .ok c' := by
      obtain ⟨e, error⟩ := setMembers_unknown mem' (names ▸ unknown) old
      simp [field, record, error]
    simp only [sections, List.mem_cons, Prod.mk.injEq, List.not_mem_nil, or_false] at there
    rcases there with ⟨rfl, rfl⟩ | ⟨rfl, rfl⟩ | ⟨rfl, rfl⟩ | ⟨rfl, rfl⟩
    · cases found
      exact refused rfl _ _ _
    · cases found
      exact refused rfl _ _ _
    · cases found
      exact refused rfl _ _ _
    · cases found
      exact refused rfl _ _ _

theorem ofMembers_eq {c : Config} (read : setMembers fields {} doc = .ok c) :
    ofMembers doc = match (faults c).head? with
      | some (field, reason) => .error (.invalid field reason)
      | none => .ok c := by
  rw [ofMembers, read]
  simp only [validate_eq]
  cases (faults c).head? <;> rfl

theorem sound_of_ofMembers {c : Config} (loaded : ofMembers doc = .ok c) : Sound c := by
  cases read : setMembers fields {} doc with
  | error e =>
    rw [ofMembers, read] at loaded
    cases loaded
  | ok c' =>
    rw [ofMembers_eq read] at loaded
    split at loaded
    · cases loaded
    next none =>
      cases loaded
      exact (faults_eq_nil_iff c).mp (List.head?_eq_none_iff.mp none)

/-- What a section takes for a key that is missing is what it takes for one when it is absent. -/
theorem withoutKeys_eq : ({} : Config) = ⟨.withoutKeys, .withoutKeys, .withoutKeys, .withoutKeys⟩ :=
  rfl

/-- Loading a document lays it over the standard configuration, and refuses the result for its first
fault. A key that is not known is refused whatever else the document holds. Nothing that is loaded
has a fault. -/
theorem ofText_overlaid (text : String) :
    (∀ doc, parse? text = some doc → WellTyped doc →
      ofText text = match (faults (({} : Config).overlaid doc)).head? with
        | some (field, reason) => .error (.invalid field reason)
        | none => .ok (({} : Config).overlaid doc)) ∧
    (∀ doc, parse? text = some doc → HasUnknownKey doc → ∃ m, ofText text = .error (.mismatch m)) ∧
    (∀ c, ofText text = .ok c → Sound c) ∧
    ({} : Config) = ⟨.withoutKeys, .withoutKeys, .withoutKeys, .withoutKeys⟩ := by
  refine ⟨fun doc parsed typed => ?_, fun doc parsed unknown => ?_, fun c loaded => ?_,
    withoutKeys_eq⟩
  · rw [ofText, parsed]
    dsimp only
    rw [ofMembers_eq (read_wellTyped (keyed_of_parse? parsed) typed)]
  · obtain ⟨m, read⟩ := read_unknown unknown {}
    refine ⟨m, ?_⟩
    rw [ofText, parsed]
    simp only [ofMembers, read]
  · cases parsed : parse? text with
    | none =>
      rw [ofText, parsed] at loaded
      cases loaded
    | some doc =>
      rw [ofText, parsed] at loaded
      exact sound_of_ofMembers loaded

/-- One key of one section is set, and the rest stays as it is. A time of zero is refused for what
it is, an empty host behind a key that is not known is not come to. -/
theorem ofText_overlaid_agent :
    ofText "[agent]\nrequest_timeout_ms = 7" = .ok { agent := { requestTimeout := 7 } } ∧
    ofText "[agent]\nrequest_timeout_ms = 0" =
      .error (.invalid "agent.request_timeout_ms" "must be greater than zero") ∧
    ∃ m, ofText "[agent]\nhost=''\nport=1" = .error (.mismatch m) := by
  have fits (n : Nat) :
      WellTyped [("agent", .table .header [("request_timeout_ms", .integer n)])] := by
    simp [WellTyped, Fits, sections, IsSection, Agent.keys, Holds, Node.natural?]
  have laid (n : Nat) :
      ({} : Config).overlaid [("agent", .table .header [("request_timeout_ms", .integer n)])] =
        { agent := { requestTimeout := n } } :=
    rfl
  refine ⟨?_, ?_, ?_⟩
  · have loaded := (ofText_overlaid "[agent]\nrequest_timeout_ms = 7").1 _ (by cbv) (fits 7)
    rwa [laid, show faults { agent := { requestTimeout := 7 } } = [] by decide +kernel] at loaded
  · have loaded := (ofText_overlaid "[agent]\nrequest_timeout_ms = 0").1 _ (by cbv) (fits 0)
    rwa [laid, show faults { agent := { requestTimeout := 0 } } =
      [("agent.request_timeout_ms", "must be greater than zero")] by decide +kernel] at loaded
  · let members := [("host", Node.string ""), ("port", Node.integer 1)]
    refine (ofText_overlaid _).2.1 [("agent", .table .header members)] (by cbv) ?_
    exact .inner "agent" .header members Agent.keys (by simp) (by simp [sections])
      ("port", .integer 1) (by simp [members]) (by simp [Agent.keys])

end

end Config

end ClassSwap
