import ClassSwap.Proofs.MessageText

namespace ClassSwap

namespace JsonText

/-- The value is nested at most so many levels deep, and all its integers have 64 bits, with or
without a sign. -/
inductive Value.Fits : Nat → Value → Prop
  | null {n : Nat} : Fits n .null
  | bool {n : Nat} (b : Bool) : Fits n (.bool b)
  | integer {n : Nat} {i : Int} (low : -9223372036854775808 ≤ i)
      (high : i ≤ 18446744073709551615) : Fits n (.integer i)
  | string {n : Nat} (s : String) : Fits n (.string s)
  | array {n : Nat} {items : List Value} (each : ∀ v ∈ items, Fits n v) :
      Fits (n + 1) (.array items)
  | object {n : Nat} {members : List (String × Value)} (each : ∀ m ∈ members, Fits n m.2) :
      Fits (n + 1) (.object members)

theorem trees_eq_map (items : List Value) : Value.trees items = items.map Value.tree := by
  induction items with
  | nil => rfl
  | cons v items ih => rw [Value.trees, ih, List.map_cons]

def found (members : List (String × Value)) : List (String × Tree) :=
  members.map fun m => (m.1, m.2.tree)

theorem memberTrees_eq_entries (members : List (String × Value)) :
    Value.memberTrees members = entries (found members) := by
  induction members with
  | nil => rfl
  | cons m members ih =>
    obtain ⟨name, v⟩ := m
    rw [Value.memberTrees, ih]
    rfl

theorem skipItems_ok {ts : List Tree} (each : ∀ t ∈ ts, skip t = .ok ()) :
    skipItems ts = .ok () := by
  induction ts with
  | nil => rfl
  | cons t ts ih =>
    obtain ⟨first, others⟩ := List.forall_mem_cons.mp each
    rw [skipItems, first, ok_bind, ih others]

theorem skipMembers_ok {ms : List (String × Tree)} (each : ∀ m ∈ ms, skip m.2 = .ok ()) :
    skipMembers (entries ms) = .ok () := by
  induction ms with
  | nil => rfl
  | cons m ms ih =>
    obtain ⟨first, others⟩ := List.forall_mem_cons.mp each
    show skipMembers ((.ok m.1, m.2) :: entries ms) = _
    rw [skipMembers, first, ok_bind, ih others]

theorem keepItems_ok {depth : Nat} {ts : List Tree} (each : ∀ t ∈ ts, keep depth t = .ok ()) :
    keepItems depth ts = .ok () := by
  induction ts with
  | nil => rfl
  | cons t ts ih =>
    obtain ⟨first, others⟩ := List.forall_mem_cons.mp each
    rw [keepItems, first, ok_bind, ih others]

theorem keepMembers_ok {depth : Nat} {ms : List (String × Tree)}
    (each : ∀ m ∈ ms, keep depth m.2 = .ok ()) : keepMembers depth (entries ms) = .ok () := by
  induction ms with
  | nil => rfl
  | cons m ms ih =>
    obtain ⟨first, others⟩ := List.forall_mem_cons.mp each
    show keepMembers depth ((.ok m.1, m.2) :: entries ms) = _
    rw [keepMembers, ofFault, ok_bind, first, ok_bind, ih others]

/-- A value can be passed over, however it is nested. -/
theorem Value.Fits.skip {n : Nat} {v : Value} (h : v.Fits n) : JsonText.skip v.tree = .ok () := by
  induction h with
  | null | bool | integer | string => rfl
  | @array _ items _ ih =>
    have inside : skipItems (items.map Value.tree) = .ok () :=
      skipItems_ok (List.forall_mem_map.mpr ih)
    rw [Value.tree, trees_eq_map, JsonText.skip, inside]
    rfl
  | @object _ members _ ih =>
    have inside : skipMembers (entries (found members)) = .ok () :=
      skipMembers_ok (List.forall_mem_map.mpr ih)
    rw [Value.tree, memberTrees_eq_entries, JsonText.skip, inside]
    rfl

/-- A value can be kept for later, if it is not nested deeper than containers may be entered. -/
theorem Value.Fits.keep {n : Nat} {v : Value} (h : v.Fits n) {depth : Nat} (deep : n < depth) :
    JsonText.keep depth v.tree = .ok () := by
  induction h generalizing depth with
  | null | bool | string => rfl
  | integer low high =>
    obtain ⟨number, value⟩ := value_integerNumeral low high
    rw [Value.tree, value]
    rfl
  | @array _ items _ ih =>
    have inside : keepItems (depth - 1) (items.map Value.tree) = .ok () :=
      keepItems_ok (List.forall_mem_map.mpr fun v mem => ih v mem (by omega))
    rw [Value.tree, trees_eq_map, JsonText.keep, enter_of_le (by omega), ok_bind, inside]
    rfl
  | @object _ members _ ih =>
    have inside : keepMembers (depth - 1) (entries (found members)) = .ok () :=
      keepMembers_ok (List.forall_mem_map.mpr fun m mem => ih m mem (by omega))
    rw [Value.tree, memberTrees_eq_entries, JsonText.keep, enter_of_le (by omega), ok_bind, inside]
    rfl

/-- A text of an object with these members, in any order. -/
def SpellsObject (text : List Char) (members : List (String × Value)) : Prop :=
  ∃ written : List (String × Value), written.Perm members ∧ SpellsAll text (.object written)

/-- What an object may have besides the members of a message: optional fields that the message has
no value for, as `null`, and members that the message does not know. -/
structure Additions (own : List (String × Value)) (names optional : List String) where
  nulls : List String
  extra : List (String × Value)
  distinct : nulls.Nodup
  absent : ∀ n ∈ nulls, n ∈ optional ∧ n ∉ own.map (·.1)
  unknown : ∀ m ∈ extra, m.1 ∉ names
  shallow : ∀ m ∈ extra, m.2.Fits 100

def Additions.known {own : List (String × Value)} {names optional : List String}
    (more : Additions own names optional) : List (String × Value) :=
  own ++ more.nulls.map (·, .null)

/-- A message is read from every text of an object that has its members and any such additions, and
from none that also has one of the known members for a second time. -/
structure ReadAmong {α : Type} (r : Reader α) (a : α) (own : List (String × Value))
    (names optional : List String) : Prop where
  decoded (more : Additions own names optional) {text : List Char}
    (spelled : SpellsObject text (more.known ++ more.extra)) :
    Frame.decode r (Utf8.encode text) = .ok a
  refused (more : Additions own names optional) {name : String}
    (known : name ∈ more.known.map (·.1)) (value : Value) {text : List Char}
    (spelled : SpellsObject text ((name, value) :: (more.known ++ more.extra))) :
    ∃ e, Frame.decode r (Utf8.encode text) = .error e

/-- Every message is an object and is read among additions to its members. -/
def Tolerant {α : Type} (json : α → Json) (r : Reader α) (names optional : List String) : Prop :=
  ∀ a, ∃ own, Value.ofJson (json a) = .object own ∧ ReadAmong r a own names optional

section Object

variable {text : List Char} {members : List (String × Value)}

theorem SpellsObject.scan (h : SpellsObject text members) :
    ∃ ms : List (String × Tree), ms.Perm (found members) ∧
      JsonText.scan (Utf8.encode text) = ⟨.object (entries ms) .closed, .ok ()⟩ := by
  obtain ⟨written, perm, spelled⟩ := h
  refine ⟨found written, perm.map _, ?_⟩
  rw [scan_spelled spelled, Value.tree, memberTrees_eq_entries]

theorem found_append (front back : List (String × Value)) :
    found (front ++ back) = found front ++ found back :=
  List.map_append

theorem found_nulls (nulls : List String) :
    found (nulls.map (·, .null)) = nulls.map (·, Tree.null) :=
  List.map_map

theorem found_names (members : List (String × Value)) :
    (found members).map (·.1) = members.map (·.1) :=
  List.map_map

theorem entries_injective : Function.Injective entries :=
  List.map_injective_iff.mpr fun ⟨_, _⟩ ⟨_, _⟩ eq => by simpa using eq

/-- A document that is scanned to an object is one, and its members are found as those of its
tree. -/
theorem exists_own {j : Json} {values : List (String × Tree)} (whole : Exact j)
    (tree : treeOf j = .object (entries values) .closed) :
    ∃ own, Value.ofJson j = .object own ∧ found own = values := by
  have same := tree_ofJson j whole
  rw [tree] at same
  cases value : Value.ofJson j with
  | object own =>
    rw [value, Value.tree, memberTrees_eq_entries] at same
    exact ⟨own, rfl, entries_injective (Tree.object.inj same).1⟩
  | null | bool | integer | string | array =>
    rw [value] at same
    cases same

end Object

section Additions

variable {own : List (String × Value)} {names optional : List String}

theorem Additions.found_eq (more : Additions own names optional)
    {values : List (String × Tree)} (same : found own = values) :
    found (more.known ++ more.extra) =
      values ++ more.nulls.map (·, Tree.null) ++ found more.extra := by
  rw [Additions.known, found_append, found_append, found_nulls, same]

theorem Additions.unknown_found (more : Additions own names optional) :
    ∀ m ∈ found more.extra, m.1 ∉ names :=
  List.forall_mem_map.mpr more.unknown

theorem Additions.mem_known_names (more : Additions own names optional)
    {values : List (String × Tree)} (same : found own = values) {name : String} :
    name ∈ more.known.map (·.1) ↔ name ∈ values.map (·.1) ∨ name ∈ more.nulls := by
  rw [Additions.known, ← found_names, found_append, same, found_nulls, List.map_append,
    List.mem_append]
  simp

/-- A text that repeats a known member is scanned to members that repeat its name. -/
theorem Additions.repeats (more : Additions own names optional) {name : String}
    (known : name ∈ more.known.map (·.1)) {value : Tree} {ms : List (String × Tree)}
    (perm : ms.Perm ((name, value) :: found (more.known ++ more.extra))) : Repeats name ms := by
  refine repeats_of_perm perm ?_
  rw [found_names, List.map_append]
  exact List.mem_append_left _ known

end Additions

end JsonText

open JsonText

namespace Request

theorem tolerant : Tolerant json read names [] := by
  intro r
  obtain ⟨own, written, same⟩ := exists_own (readsBack.whole r) r.treeOf_json
  have without (more : Additions own names []) : more.nulls = [] :=
    List.eq_nil_iff_forall_not_mem.mpr fun n mem => List.not_mem_nil (more.absent n mem).1
  refine ⟨own, written, fun more text spelled => ?decoded,
    fun more name known value text spelled => ?refused⟩
  case decoded =>
    obtain ⟨ms, perm, scanned⟩ := spelled.scan
    rw [more.found_eq same, without more, List.map_nil, List.append_nil] at perm
    have kept : ∀ m ∈ found more.extra, keep (maxDepth - 1) m.2 = .ok () :=
      List.forall_mem_map.mpr fun m mem => (more.shallow m mem).keep (by decide)
    exact decode_of_read scanned (r.read_scattered (by decide) perm more.unknown_found kept)
  case refused =>
    obtain ⟨ms, perm, scanned⟩ := spelled.scan
    have named : name ∈ r.values.map (·.1) := by
      rw [more.mem_known_names same, without more] at known
      exact known.resolve_right List.not_mem_nil
    have tagged : r.command.tag ∈ ms := by
      refine perm.mem_iff.mpr (List.mem_cons_of_mem _ ?_)
      show _ ∈ found _
      rw [more.found_eq same, values]
      simp
    have twice := more.repeats known perm
    exact decode_of_not_read scanned fun out => r.not_read_repeated twice named tagged out

end Request

namespace Response

def names : List String := ["id", "action", "status", "classes", "class", "body", "message"]

/-- The names of those that a response may have no value for. -/
def optional : List String := ["classes", "class", "body", "message"]

theorem any_name_iff {name : String} : fields.any (·.name == name) = true ↔ name ∈ names := by
  have listed : fields.map (·.name) = names := rfl
  simp only [← listed, List.any_eq_true, List.mem_map, beq_iff_eq]

theorem absent_slot (r : Response) {n : String} (listed : n ∈ optional)
    (absent : n ∉ r.slots.values.map (·.1)) : (n, none) ∈ r.slots := by
  have there : n ∈ r.slots.map (·.1) := by
    revert listed
    simp only [optional, slots, List.map_cons, List.map_nil, List.mem_cons]
    tauto
  obtain ⟨⟨_, value⟩, mem, rfl⟩ := List.mem_map.mp there
  cases value with
  | none => exact mem
  | some value =>
    exact absurd (List.mem_map.mpr ⟨_, Slots.mem_values.mpr ⟨value, mem, rfl⟩, rfl⟩) absent

theorem treeOf_json (r : Response) : treeOf r.json = .object (entries r.slots.values) .closed := by
  rw [json_eq, Slots.treeOf_members]

theorem tolerant : Tolerant json read names optional := by
  intro r
  obtain ⟨own, written, same⟩ := exists_own (readsBack.whole r) r.treeOf_json
  refine ⟨own, written, fun more text spelled => ?decoded,
    fun more name known value text spelled => ?refused⟩
  case decoded =>
    obtain ⟨ms, perm, scanned⟩ := spelled.scan
    rw [more.found_eq same] at perm
    have scattered : Scattered fields r.slots more.nulls (found more.extra) ms := by
      refine ⟨perm, more.distinct, fun n mem => ?_, fun m mem => ?_⟩
      · obtain ⟨listed, absent⟩ := more.absent n mem
        rw [← found_names, same] at absent
        exact r.absent_slot listed absent
      · rw [Bool.eq_false_iff, Ne, any_name_iff]
        exact more.unknown_found m mem
    have skipped : ∀ m ∈ found more.extra, skip m.2 = .ok () :=
      List.forall_mem_map.mpr fun m mem => (more.shallow m mem).skip
    exact decode_of_read scanned (r.read_scattered (by decide) scattered skipped)
  case refused =>
    obtain ⟨ms, perm, scanned⟩ := spelled.scan
    have twice := more.repeats known perm
    have field : fields.any (·.name == name) = true := by
      rw [any_name_iff]
      rcases (more.mem_known_names same).mp known with slot | null
      · exact (Slots.names_sublist r.slots).subset slot
      · have listed : ∀ n ∈ optional, n ∈ names := by decide
        exact listed name (more.absent name null).1
    exact decode_of_not_read scanned fun out => not_read_repeated twice field out

end Response

/-- Requests and responses are read from every text of an object that has their members, whatever
their order, the white space and the members that no such message knows; a response also if fields
that it has no value for are given as `null`. From an object that repeats a known member neither is
read. -/
theorem decoding_tolerant :
    Tolerant Request.json Request.read
        ["id", "host", "port", "action", "class", "name", "body"] [] ∧
      Tolerant Response.json Response.read
        ["id", "action", "status", "classes", "class", "body", "message"]
        ["classes", "class", "body", "message"] :=
  ⟨Request.tolerant, Response.tolerant⟩

/-- A request whose tag stands first, behind a new line, with a member behind it that no request
knows; a response with a `null`; and one with its number given again. -/
theorem decoding_tolerant_halt :
    Frame.decode Request.read (Utf8.encode ('{' :: ['\n'] ++
        (Json.quoted "action" ++ ':' :: Json.compact (.string "halt")) ++
          Json.compactMembers [("note", .array [.null]), ("id", .natural 7), ("host", .string "h"),
            ("port", .natural 80)])) = .ok ⟨7, "h", 80, .halt⟩ ∧
      Frame.decode Response.read (Utf8.encode (Json.compact (.object
        [("status", .string "ok"), ("body", .null), ("id", .natural 7),
          ("action", .string "halt")]))) = .ok (.accept 7 .halt) ∧
      ∃ e, Frame.decode Response.read (Utf8.encode (Json.compact (.object
        [("action", .string "halt"), ("status", .string "ok"), ("id", .natural 8),
          ("id", .natural 7)]))) = .error e := by
  refine ⟨?request, ?null, ?twice⟩
  case request =>
    have line : Spaces ['\n'] := by simp [Spaces, isSpace]
    have note : Value.Fits 100 (.array [.null]) := .array (by simp [Value.Fits.null])
    have spelled := Spells.object line
      (spellsMember_quoted "action" (spells_compact (.string "halt")))
      (spells_compactMembers [("note", .array [.null]), ("id", .natural 7), ("host", .string "h"),
        ("port", .natural 80)])
    have text := SpellsAll.mk spaces_nil spelled spaces_nil
    rw [List.nil_append, List.append_nil] at text
    obtain ⟨own, written, among⟩ := decoding_tolerant.1 ⟨7, "h", 80, .halt⟩
    cases written
    exact among.decoded
      ⟨[], [("note", .array [.null])], List.nodup_nil, by simp, by simp, by simpa using note⟩
      ⟨_, @List.perm_append_comm _ [_, _] _, text⟩
  case null =>
    have text := SpellsAll.mk spaces_nil (spells_compact (.object
      [("status", .string "ok"), ("body", .null), ("id", .natural 7),
        ("action", .string "halt")])) spaces_nil
    rw [List.nil_append, List.append_nil] at text
    obtain ⟨own, written, among⟩ := decoding_tolerant.2 (.accept 7 .halt)
    cases written
    exact among.decoded ⟨["body"], [], List.nodup_singleton _, by decide, by simp, by simp⟩
      ⟨_, @List.perm_append_comm _ [_, _] _, text⟩
  case twice =>
    have text := SpellsAll.mk spaces_nil (spells_compact (.object
      [("action", .string "halt"), ("status", .string "ok"), ("id", .natural 8),
        ("id", .natural 7)])) spaces_nil
    rw [List.nil_append, List.append_nil] at text
    obtain ⟨own, written, among⟩ := decoding_tolerant.2 (.accept 7 .halt)
    cases written
    exact among.refused ⟨[], [], List.nodup_nil, by simp, by simp, by simp⟩
      (show "id" ∈ _ by decide) (.integer 8)
      ⟨_, @List.perm_append_comm _ [_, _] _, text⟩

end ClassSwap
