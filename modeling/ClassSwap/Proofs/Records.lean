import ClassSwap.JsonText.Tagged
import ClassSwap.Proofs.Attempts
import ClassSwap.Proofs.JsonCompact
import Mathlib.Data.List.Nodup
import Mathlib.Data.List.Perm.Basic

namespace ClassSwap

namespace JsonText

theorem need_check {α : Type} {name : String} {r : Reader α} {depth : Nat} {t : Tree} {a : α}
    (read : r depth t = .ok a) : (need name r).check depth t = .ok () := by
  show (do let _ ← r depth t) = _
  rw [read]
  rfl

theorem allow_check {α : Type} {name : String} {r : Reader α} {depth : Nat} {t : Tree} {a : α}
    (read : r depth t = .ok a) : (allow name r).check depth t = .ok () := by
  show (do let _ ← option r depth t) = _
  unfold option
  split
  · rfl
  · rw [read]
    rfl

/-- A value is written so that nothing of it is lost, and a reader takes what is written as that
value, if it may enter enough containers. -/
structure ReadsBack {α : Type} (json : α → Json) (r : Reader α) (least : Nat) : Prop where
  whole (a : α) : Exact (json a)
  read (a : α) {depth : Nat} (deep : least ≤ depth) : r depth (treeOf (json a)) = .ok a

theorem readsBack_string : ReadsBack Json.string string 0 :=
  ⟨fun _ => trivial, fun _ _ _ => rfl⟩

theorem string_present (s : String) : treeOf (.string s) ≠ .null := by
  simp [treeOf]

theorem enter_of_le {depth : Nat} (deep : 2 ≤ depth) : enter depth = .ok (depth - 1) :=
  if_neg (by omega)

section List

variable {α : Type} {json : α → Json} {r : Reader α} {least : Nat}

theorem ReadsBack.exactItems (h : ReadsBack json r least) (xs : List α) :
    ExactItems (xs.map json) := by
  induction xs with
  | nil => trivial
  | cons x xs ih => exact ⟨h.whole x, ih⟩

theorem ReadsBack.readItems (h : ReadsBack json r least) {depth : Nat} (deep : least ≤ depth)
    (xs : List α) : JsonText.readItems r depth (treesOf (xs.map json)) = .ok xs := by
  induction xs with
  | nil => rfl
  | cons x xs ih =>
    rw [List.map_cons, treesOf, JsonText.readItems, h.read x deep, ih]
    rfl

theorem ReadsBack.list (h : ReadsBack json r least) (one : 1 ≤ least) :
    ReadsBack (fun xs => .array (xs.map json)) (JsonText.list r) (least + 1) where
  whole xs := h.exactItems xs
  read xs depth deep := by
    have items : JsonText.readItems r (depth - 1) (treesOf (xs.map json)) = .ok xs :=
      h.readItems (by omega) xs
    simp only [treeOf, JsonText.list, enter_of_le (show 2 ≤ depth by omega), ok_bind, items,
      Closing.check]
    rfl

end List

def entries (ms : List (String × Tree)) : List (Except Fault String × Tree) :=
  ms.map fun m => (.ok m.1, m.2)

def known (fields : List Field) (ms : List (String × Tree)) : List (String × Tree) :=
  ms.filter fun m => fields.any (·.name == m.1)

theorem known_append (fields : List Field) (ms ns : List (String × Tree)) :
    known fields (ms ++ ns) = known fields ms ++ known fields ns :=
  List.filter_append ms ns

section Collect

variable {fields : List Field} {other : Reader Unit} {depth : Nat}

/-- The value of a member is one that its field takes, or that is passed over. -/
def Passes (fields : List Field) (other : Reader Unit) (depth : Nat) (m : String × Tree) : Prop :=
  match fields.find? (·.name == m.1) with
  | some field => field.check depth m.2 = .ok ()
  | none => other depth m.2 = .ok ()

theorem known_cons_some {m : String × Tree} {field : Field}
    (here : fields.find? (·.name == m.1) = some field) (ms : List (String × Tree)) :
    known fields (m :: ms) = m :: known fields ms := by
  refine List.filter_cons_of_pos (List.any_eq_true.mpr ⟨field, List.mem_of_find?_eq_some here, ?_⟩)
  exact List.find?_some (p := fun f : Field => f.name == m.1) here

theorem known_cons_none {m : String × Tree} (nowhere : fields.find? (·.name == m.1) = none)
    (ms : List (String × Tree)) : known fields (m :: ms) = known fields ms := by
  refine List.filter_cons_of_neg ?_
  rw [List.find?_eq_none] at nowhere
  simpa using nowhere

section Step

variable {found : List (String × Tree)} {m : String × Tree} {field : Field}

theorem collect_unknown (nowhere : fields.find? (·.name == m.1) = none)
    (ms : List (String × Tree)) :
    collect fields other depth .closed found (entries (m :: ms)) =
      (do
        other depth m.2
        collect fields other depth .closed found (entries ms)) := by
  simp only [entries, List.map_cons, collect, ofFault, ok_bind, nowhere]

theorem collect_again (here : fields.find? (·.name == m.1) = some field)
    (old : m.1 ∈ found.map (·.1)) (ms : List (String × Tree)) :
    collect fields other depth .closed found (entries (m :: ms)) =
      .error (.mismatch (.duplicateField m.1)) := by
  have any : found.any (·.1 == m.1) = true := by
    obtain ⟨n, mem, same⟩ := List.mem_map.mp old
    exact List.any_eq_true.mpr ⟨n, mem, beq_iff_eq.mpr same⟩
  simp only [entries, List.map_cons, collect, ofFault, ok_bind, here, any]
  rfl

theorem collect_field (here : fields.find? (·.name == m.1) = some field)
    (new : m.1 ∉ found.map (·.1)) (ms : List (String × Tree)) :
    collect fields other depth .closed found (entries (m :: ms)) =
      (do
        field.check depth m.2
        collect fields other depth .closed (found ++ [m]) (entries ms)) := by
  have any : found.any (·.1 == m.1) = false := by
    rw [List.any_eq_false]
    intro n mem same
    exact new (List.mem_map.mpr ⟨n, mem, beq_iff_eq.mp same⟩)
  simp only [entries, List.map_cons, collect, ofFault, ok_bind, here, any]
  rfl

end Step

/-- What a reader finds among the members of an object: it gets through them exactly if each of them
passes and no name of a field comes twice, and then it has found those whose names are known. -/
theorem collect_entries {found : List (String × Tree)} {out : Found} (ms : List (String × Tree))
    (distinct : (found.map (·.1)).Nodup) :
    collect fields other depth .closed found (entries ms) = .ok out ↔
      (∀ m ∈ ms, Passes fields other depth m) ∧
        ((found ++ known fields ms).map (·.1)).Nodup ∧
          out = ⟨depth, found ++ known fields ms⟩ := by
  induction ms generalizing found with
  | nil =>
    have all : found ++ known fields [] = found := List.append_nil found
    rw [all]
    constructor
    · rintro ⟨⟩
      exact ⟨nofun, distinct, rfl⟩
    · rintro ⟨-, -, rfl⟩
      rfl
  | cons m ms ih =>
    cases here : fields.find? (·.name == m.1) with
    | none =>
      have passes : Passes fields other depth m ↔ other depth m.2 = .ok () := by
        simp only [Passes, here]
      rw [collect_unknown here, seq_eq_ok, ih distinct, known_cons_none here, List.forall_mem_cons,
        passes, and_assoc]
    | some field =>
      have passes : Passes fields other depth m ↔ field.check depth m.2 = .ok () := by
        simp only [Passes, here]
      rw [known_cons_some here, List.forall_mem_cons, passes]
      by_cases old : m.1 ∈ found.map (·.1)
      · rw [collect_again here old]
        refine ⟨nofun, fun ⟨_, apart, _⟩ => ?_⟩
        rw [List.map_append, List.nodup_append] at apart
        exact absurd rfl (apart.2.2 m.1 old m.1 List.mem_cons_self)
      · have longer : ((found ++ [m]).map (·.1)).Nodup := by
          rw [List.map_append, List.map_singleton, ← List.concat_eq_append]
          exact distinct.concat old
        rw [collect_field here old, seq_eq_ok, ih longer, ← List.append_cons, and_assoc]

def Repeats (name : String) (ms : List (String × Tree)) : Prop := 2 ≤ (ms.map (·.1)).count name

theorem Repeats.filter {name : String} {ms : List (String × Tree)} (h : Repeats name ms)
    {p : String × Tree → Bool} (stays : ∀ t, p (name, t) = true) : Repeats name (ms.filter p) := by
  have same : ((ms.filter p).map (·.1)).count name = (ms.map (·.1)).count name := by
    rw [List.count_eq_countP, List.count_eq_countP, List.countP_map, List.countP_map,
      List.countP_filter]
    refine List.countP_congr fun m _ => ?_
    obtain ⟨key, t⟩ := m
    simp only [Function.comp_apply, Bool.and_eq_true, beq_iff_eq, and_iff_left_iff_imp]
    rintro rfl
    exact stays t
  rwa [Repeats, same]

theorem Repeats.not_nodup {name : String} {ms : List (String × Tree)} (h : Repeats name ms) :
    ¬ (ms.map (·.1)).Nodup := by
  intro nodup
  have once := List.nodup_iff_count_le_one.mp nodup name
  unfold Repeats at h
  omega

/-- A name that a record has comes in its members for a second time. -/
theorem repeats_of_perm {name : String} {t : Tree} {ms own : List (String × Tree)}
    (perm : ms.Perm ((name, t) :: own)) (there : name ∈ own.map (·.1)) : Repeats name ms := by
  have count := (perm.map (·.1)).count_eq name
  have first := List.count_pos_iff.mpr there
  rw [List.map_cons, List.count_cons_self] at count
  unfold Repeats
  omega

/-- No reader gets through members that repeat a name it knows. -/
theorem collect_repeats {name : String} {ms : List (String × Tree)} (h : Repeats name ms)
    (field : fields.any (·.name == name) = true) (out : Found) :
    collect fields other depth .closed [] (entries ms) ≠ .ok out := by
  intro done
  have none : (([] : List (String × Tree)).map (·.1)).Nodup := List.nodup_nil
  obtain ⟨_, nodup, _⟩ := (collect_entries ms none).mp done
  have twice : Repeats name (known fields ms) := h.filter fun _ => field
  exact twice.not_nodup nodup

end Collect

/-- The kind that members with the name of the tag settle on: none without such a member, and that
of its value if there is one. -/
def Settles {α : Type} (choose : Tree → Reading (Variant α)) :
    Option (Variant α) → List (String × Tree) → Option (Variant α) → Prop
  | chosen, [], out => out = chosen
  | none, [m], out => ∃ v, choose m.2 = .ok v ∧ out = some v
  | _, _, _ => False

theorem settles_cons {α : Type} {choose : Tree → Reading (Variant α)} (m : String × Tree)
    (tags : List (String × Tree)) (out : Option (Variant α)) :
    Settles choose none (m :: tags) out ↔
      ∃ v, choose m.2 = .ok v ∧ Settles choose (some v) tags out := by
  cases tags <;> simp [Settles]

/-- A tag that settles anything stands there once. -/
theorem Settles.eq_singleton {α : Type} {choose : Tree → Reading (Variant α)}
    {tags : List (String × Tree)} {out : Option (Variant α)} (h : Settles choose none tags out)
    {m : String × Tree} (mem : m ∈ tags) : tags = [m] ∧ ∃ v, choose m.2 = .ok v ∧ out = some v := by
  match tags with
  | [] => cases mem
  | [n] =>
    rw [List.mem_singleton] at mem
    subst mem
    exact ⟨rfl, h⟩
  | _ :: _ :: _ => simp [Settles] at h

section Split

variable {α : Type} {tagName : String} {choose : Tree → Reading (Variant α)} {depth : Nat}
  {m : String × Tree}

theorem splitTag_again (tag : m.1 = tagName) (v : Variant α)
    (kept : List (Except Fault String × Tree)) (ms : List (String × Tree)) :
    splitTag tagName choose depth (some v) kept (entries (m :: ms)) =
      .error (.mismatch (.duplicateField tagName)) := by
  simp only [entries, List.map_cons, splitTag, ofFault, ok_bind, beq_iff_eq.mpr tag]
  rfl

theorem splitTag_tag (tag : m.1 = tagName) (kept : List (Except Fault String × Tree))
    (ms : List (String × Tree)) :
    splitTag tagName choose depth none kept (entries (m :: ms)) =
      (do
        let v ← choose m.2
        splitTag tagName choose depth (some v) kept (entries ms)) := by
  simp only [entries, List.map_cons, splitTag, ofFault, ok_bind, beq_iff_eq.mpr tag]
  rfl

theorem splitTag_other (other : m.1 ≠ tagName) (chosen : Option (Variant α))
    (kept : List (Except Fault String × Tree)) (ms : List (String × Tree)) :
    splitTag tagName choose depth chosen kept (entries (m :: ms)) =
      (do
        keep depth m.2
        splitTag tagName choose depth chosen (kept ++ entries [m]) (entries ms)) := by
  simp only [entries, List.map_cons, splitTag, ofFault, ok_bind, beq_false_of_ne other]
  rfl

/-- Members are split into the tag, which stands there once at most, and all others, which have to
be in order. -/
theorem splitTag_entries {chosen out : Option (Variant α)}
    {kept rest : List (Except Fault String × Tree)} (ms : List (String × Tree)) :
    splitTag tagName choose depth chosen kept (entries ms) = .ok (out, rest) ↔
      (∀ m ∈ ms, m.1 ≠ tagName → keep depth m.2 = .ok ()) ∧
        Settles choose chosen (ms.filter (·.1 == tagName)) out ∧
          rest = kept ++ entries (ms.filter (·.1 != tagName)) := by
  induction ms generalizing chosen kept with
  | nil => simp [entries, splitTag, Settles, eq_comm]
  | cons m ms ih =>
    by_cases tag : m.1 = tagName
    · have plain : (m.1 ≠ tagName → keep depth m.2 = .ok ()) ↔ True := by simp [tag]
      have tags : (m :: ms).filter (·.1 == tagName) = m :: ms.filter (·.1 == tagName) :=
        List.filter_cons_of_pos (beq_iff_eq.mpr tag)
      have others : (m :: ms).filter (·.1 != tagName) = ms.filter (·.1 != tagName) :=
        List.filter_cons_of_neg (by simp [tag])
      rw [tags, others, List.forall_mem_cons, plain, true_and]
      cases chosen with
      | some v =>
        rw [splitTag_again tag]
        refine ⟨nofun, fun ⟨_, settled, _⟩ => ?_⟩
        simp [Settles] at settled
      | none =>
        simp only [splitTag_tag tag, bind_eq_ok, ih, settles_cons]
        constructor
        · rintro ⟨v, picked, sound, settled, whole⟩
          exact ⟨sound, ⟨v, picked, settled⟩, whole⟩
        · rintro ⟨sound, ⟨v, picked, settled⟩, whole⟩
          exact ⟨v, picked, sound, settled, whole⟩
    · have plain : (m.1 ≠ tagName → keep depth m.2 = .ok ()) ↔ keep depth m.2 = .ok () := by
        simp [tag]
      have tags : (m :: ms).filter (·.1 == tagName) = ms.filter (·.1 == tagName) :=
        List.filter_cons_of_neg (by simp [tag])
      have others : (m :: ms).filter (·.1 != tagName) = m :: ms.filter (·.1 != tagName) :=
        List.filter_cons_of_pos (by simp [tag])
      rw [splitTag_other tag, seq_eq_ok, ih, tags, others, List.forall_mem_cons, plain, and_assoc,
        List.append_assoc]
      rfl

end Split

/-- Members of which one is the tag are split into the tag and the others. -/
theorem filter_tag {tagName : String} {t : Tree} {ms others : List (String × Tree)}
    (perm : ms.Perm ((tagName, t) :: others)) (untagged : ∀ m ∈ others, m.1 ≠ tagName) :
    ms.filter (·.1 == tagName) = [(tagName, t)] ∧ (ms.filter (·.1 != tagName)).Perm others := by
  have tags : ((tagName, t) :: others).filter (·.1 == tagName) = [(tagName, t)] := by
    rw [List.filter_cons_of_pos (by simp), List.filter_eq_nil_iff.mpr (by simpa using untagged)]
  have rest : ((tagName, t) :: others).filter (·.1 != tagName) = others := by
    rw [List.filter_cons_of_neg (by simp), List.filter_eq_self.mpr (by simpa using untagged)]
  exact ⟨List.perm_singleton.mp (tags ▸ perm.filter _), rest ▸ perm.filter _⟩

theorem splitTag_tagged {α : Type} {tagName : String} {choose : Tree → Reading (Variant α)}
    {v : Variant α} {t : Tree} {depth : Nat} {ms others : List (String × Tree)}
    (perm : ms.Perm ((tagName, t) :: others)) (untagged : ∀ m ∈ others, m.1 ≠ tagName)
    (picked : choose t = .ok v) (plain : ∀ m ∈ others, keep depth m.2 = .ok ()) :
    splitTag tagName choose depth none [] (entries ms) =
      .ok (some v, entries (ms.filter (·.1 != tagName))) := by
  obtain ⟨tags, rest⟩ := filter_tag perm untagged
  refine (splitTag_entries ms).mpr ⟨fun m mem other => ?_, ?_, rfl⟩
  · exact plain m (rest.mem_iff.mp (List.mem_filter.mpr ⟨mem, by simpa using other⟩))
  · rw [tags]
    exact ⟨v, picked, rfl⟩

theorem requireAll_ok {found : Found} {fields : List Field}
    (there : ∀ field ∈ fields, field.required = true →
      found.values.any (·.1 == field.name) = true) :
    requireAll found fields = .ok () := by
  induction fields with
  | nil => rfl
  | cons field fields ih =>
    have here := there field List.mem_cons_self
    have rest := ih fun f mem => there f (List.mem_cons_of_mem _ mem)
    rw [requireAll, rest]
    cases required : field.required with
    | false => rfl
    | true => simp [here required]

/-- The fields of a record in order, each with its value if it has one. -/
abbrev Slots := List (String × Option Json)

/-- The members that are written for the fields that have a value. -/
def Slots.members (slots : Slots) : List (String × Json) :=
  slots.filterMap fun s => s.2.map (s.1, ·)

def Slots.values (slots : Slots) : List (String × Tree) :=
  slots.members.map fun m => (m.1, treeOf m.2)

theorem memberTreesOf_eq (members : List (String × Json)) :
    memberTreesOf members = entries (members.map fun m => (m.1, treeOf m.2)) := by
  induction members with
  | nil => rfl
  | cons m members ih =>
    obtain ⟨name, value⟩ := m
    rw [memberTreesOf, ih]
    rfl

theorem Slots.treeOf_members (slots : Slots) :
    treeOf (.object slots.members) = .object (entries slots.values) .closed := by
  rw [treeOf, memberTreesOf_eq]
  rfl

theorem Slots.mem_members {slots : Slots} {name : String} {value : Json} :
    (name, value) ∈ slots.members ↔ (name, some value) ∈ slots := by
  constructor
  · intro mem
    obtain ⟨⟨key, found⟩, within, eq⟩ := List.mem_filterMap.mp mem
    obtain ⟨_, here, eq⟩ := Option.map_eq_some_iff.mp eq
    cases here
    cases eq
    exact within
  · intro mem
    exact List.mem_filterMap.mpr ⟨_, mem, rfl⟩

theorem Slots.mem_values {slots : Slots} {name : String} {t : Tree} :
    (name, t) ∈ slots.values ↔ ∃ value, (name, some value) ∈ slots ∧ t = treeOf value := by
  simp only [Slots.values, List.mem_map, Prod.mk.injEq, Prod.exists, Slots.mem_members]
  constructor
  · rintro ⟨_, value, mem, rfl, rfl⟩
    exact ⟨value, mem, rfl⟩
  · rintro ⟨value, mem, rfl⟩
    exact ⟨name, value, mem, rfl, rfl⟩

theorem Slots.names_sublist (slots : Slots) :
    (slots.values.map (·.1)).Sublist (slots.map (·.1)) := by
  have same : slots.values.map (·.1) = slots.members.map (·.1) := List.map_map
  rw [same]
  clear same
  induction slots with
  | nil => exact List.Sublist.refl _
  | cons s slots ih =>
    obtain ⟨name, value⟩ := s
    cases value with
    | none => exact ih.cons name
    | some value => exact ih.cons_cons name

/-- What has been found tells each slot: its value is there, or none is, or a slot without a value
has been given as `null`. -/
def Answers (values : List (String × Tree)) (slots : Slots) : Prop :=
  ∀ s ∈ slots, values.lookup s.1 = s.2.map treeOf ∨ s.2 = none ∧ values.lookup s.1 = some .null

section Answers

variable {α : Type} {json : α → Json} {r : Reader α} {least depth : Nat}
  {values : List (String × Tree)} {slots : Slots}

theorem Answers.get (h : Answers values slots) (name : String) (back : ReadsBack json r least)
    (deep : least ≤ depth) {a : α} (mem : (name, some (json a)) ∈ slots) :
    Found.get ⟨depth, values⟩ name r = .ok a := by
  rcases h _ mem with found | ⟨empty, _⟩
  · simp only [Found.get, found, Option.map_some]
    exact back.read a deep
  · cases empty

theorem Answers.get? (h : Answers values slots) (name : String) (back : ReadsBack json r least)
    (present : ∀ a, treeOf (json a) ≠ .null) (deep : least ≤ depth) {a : Option α}
    (mem : (name, a.map json) ∈ slots) : Found.get? ⟨depth, values⟩ name r = .ok a := by
  rcases h _ mem with found | ⟨empty, found⟩
  · simp only [Found.get?, found]
    cases a with
    | none => rfl
    | some a =>
      simp only [Option.map_some, option]
      split
      next null => exact absurd null (present a)
      next => rw [back.read a deep]; rfl
  · rw [Option.map_eq_none_iff] at empty
    subst empty
    simp only [Found.get?, found]
    rfl

end Answers

/-- The slots of a record stand in the order of its fields, and each value is one that its field is
read back from. -/
inductive Fills (depth : Nat) : List Field → Slots → Prop
  | nil : Fills depth [] []
  | need {α : Type} {json : α → Json} {r : Reader α} {least : Nat} {fields : List Field}
      {slots : Slots} (name : String) (a : α) (back : ReadsBack json r least)
      (deep : least ≤ depth) (rest : Fills depth fields slots) :
      Fills depth (JsonText.need name r :: fields) ((name, some (json a)) :: slots)
  | allow {α : Type} {json : α → Json} {r : Reader α} {least : Nat} {fields : List Field}
      {slots : Slots} (name : String) (a : Option α) (back : ReadsBack json r least)
      (deep : least ≤ depth) (rest : Fills depth fields slots) :
      Fills depth (JsonText.allow name r :: fields) ((name, a.map json) :: slots)

section Fills

variable {slots : Slots} {fields : List Field} {depth : Nat}

theorem Fills.names (h : Fills depth fields slots) : slots.map (·.1) = fields.map (·.name) := by
  induction h with
  | nil => rfl
  | need name a back deep rest ih | allow name a back deep rest ih =>
    rw [List.map_cons, List.map_cons, ih]
    rfl

/-- A slot has a field that takes its value, or `null` if it has none. -/
theorem Fills.takes (h : Fills depth fields slots) {name : String} {value : Option Json}
    (mem : (name, value) ∈ slots) :
    ∃ field ∈ fields, field.name = name ∧
      field.check depth ((value.map treeOf).getD .null) = .ok () := by
  induction h with
  | nil => cases mem
  | need key a back deep rest ih =>
    rcases List.mem_cons.mp mem with eq | later
    · cases eq
      exact ⟨_, List.mem_cons_self, rfl, need_check (back.read a deep)⟩
    · obtain ⟨field, within, same, fits⟩ := ih later
      exact ⟨field, List.mem_cons_of_mem _ within, same, fits⟩
  | allow key a back deep rest ih =>
    rcases List.mem_cons.mp mem with eq | later
    · cases eq
      cases a with
      | none => exact ⟨_, List.mem_cons_self, rfl, rfl⟩
      | some b => exact ⟨_, List.mem_cons_self, rfl, allow_check (back.read b deep)⟩
    · obtain ⟨field, within, same, fits⟩ := ih later
      exact ⟨field, List.mem_cons_of_mem _ within, same, fits⟩

theorem Fills.exact_json (h : Fills depth fields slots) : Exact (.object slots.members) := by
  show ExactMembers slots.members
  induction h with
  | nil => trivial
  | need name a back deep rest ih => exact ⟨back.whole a, ih⟩
  | allow name a back deep rest ih =>
    cases a with
    | none => exact ih
    | some a => exact ⟨back.whole a, ih⟩

theorem Fills.there (h : Fills depth fields slots) {field : Field} (mem : field ∈ fields)
    (required : field.required = true) : ∃ value, (field.name, some value) ∈ slots := by
  induction h with
  | nil => cases mem
  | need key a back deep rest ih =>
    rcases List.mem_cons.mp mem with rfl | later
    · exact ⟨_, List.mem_cons_self⟩
    · obtain ⟨value, within⟩ := ih later
      exact ⟨value, List.mem_cons_of_mem _ within⟩
  | allow key a back deep rest ih =>
    rcases List.mem_cons.mp mem with rfl | later
    · cases required
    · obtain ⟨value, within⟩ := ih later
      exact ⟨value, List.mem_cons_of_mem _ within⟩

end Fills

theorem find?_name {fields : List Field} {field : Field} (distinct : (fields.map (·.name)).Nodup)
    (mem : field ∈ fields) : fields.find? (·.name == field.name) = some field := by
  induction fields with
  | nil => cases mem
  | cons first fields ih =>
    obtain ⟨fresh, others⟩ := List.nodup_cons.mp distinct
    rcases List.mem_cons.mp mem with rfl | later
    · simp
    · have apart : first.name ≠ field.name := by
        intro same
        exact fresh (List.mem_map.mpr ⟨field, later, same.symm⟩)
      rw [List.find?_cons, beq_false_of_ne apart]
      exact ih others later

theorem lookup_of_mem {values : List (String × Tree)} (distinct : (values.map (·.1)).Nodup)
    {name : String} {t : Tree} (mem : (name, t) ∈ values) : values.lookup name = some t := by
  obtain ⟨front, back, rfl⟩ := List.append_of_mem mem
  refine List.lookup_eq_some_iff.mpr ⟨front, back, rfl, fun m before => ?_⟩
  rw [List.map_append, List.nodup_append] at distinct
  have apart := distinct.2.2 m.1 (List.mem_map_of_mem before) name List.mem_cons_self
  simpa using apart.symm

/-- Members of an object that has those of a record, in any order: slots without a value may be
there as `null`, and there may be others that are no fields of the record. -/
structure Scattered (fields : List Field) (slots : Slots) (nulls : List String)
    (others ms : List (String × Tree)) : Prop where
  perm : ms.Perm (slots.values ++ nulls.map (·, Tree.null) ++ others)
  distinct : nulls.Nodup
  absent : ∀ n ∈ nulls, (n, none) ∈ slots
  unknown : ∀ m ∈ others, fields.any (·.name == m.1) = false

theorem Scattered.of_perm {fields : List Field} {slots : Slots} {others ms : List (String × Tree)}
    (perm : ms.Perm (slots.values ++ others))
    (unknown : ∀ m ∈ others, fields.any (·.name == m.1) = false) :
    Scattered fields slots [] others ms where
  perm := by rwa [List.map_nil, List.append_nil]
  distinct := List.nodup_nil
  absent := nofun
  unknown := unknown

theorem Scattered.self (fields : List Field) (slots : Slots) :
    Scattered fields slots [] [] slots.values :=
  .of_perm (.of_eq (List.append_nil _).symm) nofun

section Scattered

variable {fields : List Field} {slots : Slots} {nulls : List String}
  {others ms : List (String × Tree)} {depth : Nat}

theorem Slots.unique (distinct : (slots.map (·.1)).Nodup) {name : String} {a b : Option Json}
    (first : (name, a) ∈ slots) (second : (name, b) ∈ slots) : a = b :=
  (Prod.mk.inj (List.inj_on_of_nodup_map distinct first second rfl)).2

theorem Fills.any_name (fills : Fills depth fields slots) {name : String} {value : Option Json}
    (mem : (name, value) ∈ slots) : fields.any (·.name == name) = true := by
  obtain ⟨field, within, same, _⟩ := fills.takes mem
  exact List.any_eq_true.mpr ⟨field, within, beq_iff_eq.mpr same⟩

theorem Scattered.known_perm (h : Scattered fields slots nulls others ms)
    (fills : Fills depth fields slots) :
    (known fields ms).Perm (slots.values ++ nulls.map (·, Tree.null)) := by
  have own : known fields slots.values = slots.values := by
    refine List.filter_eq_self.mpr fun m mem => ?_
    obtain ⟨value, within, _⟩ := Slots.mem_values.mp mem
    exact fills.any_name within
  have added : known fields (nulls.map (·, Tree.null)) = nulls.map (·, Tree.null) := by
    refine List.filter_eq_self.mpr fun m mem => ?_
    obtain ⟨n, within, rfl⟩ := List.mem_map.mp mem
    exact fills.any_name (h.absent n within)
  have foreign : known fields others = [] := by
    refine List.filter_eq_nil_iff.mpr fun m mem => ?_
    simpa using h.unknown m mem
  have perm : (known fields ms).Perm
      (known fields (slots.values ++ nulls.map (·, Tree.null) ++ others)) := h.perm.filter _
  rwa [known_append, known_append, own, added, foreign, List.append_nil] at perm

theorem Scattered.nodup (h : Scattered fields slots nulls others ms)
    (fills : Fills depth fields slots) (apart : (fields.map (·.name)).Nodup) :
    ((known fields ms).map (·.1)).Nodup := by
  rw [← fills.names] at apart
  refine ((h.known_perm fills).map _).nodup_iff.mpr ?_
  rw [List.map_append, List.map_map, List.nodup_append]
  have same : nulls.map ((·.1) ∘ (·, Tree.null)) = nulls := List.map_id nulls
  rw [same]
  refine ⟨apart.sublist (Slots.names_sublist slots), h.distinct, ?_⟩
  rintro a own b null rfl
  obtain ⟨⟨_, t⟩, mem, rfl⟩ := List.mem_map.mp own
  obtain ⟨value, within, _⟩ := Slots.mem_values.mp mem
  have missing : (_, none) ∈ slots := h.absent _ null
  cases Slots.unique apart within missing

theorem Scattered.answers (h : Scattered fields slots nulls others ms)
    (fills : Fills depth fields slots) (apart : (fields.map (·.name)).Nodup) :
    Answers (known fields ms) slots := by
  have perm := h.known_perm fills
  have nodup := h.nodup fills apart
  rw [← fills.names] at apart
  rintro ⟨name, value⟩ mem
  cases value with
  | some value =>
    refine .inl (lookup_of_mem nodup (perm.mem_iff.mpr (List.mem_append_left _ ?_)))
    exact Slots.mem_values.mpr ⟨value, mem, rfl⟩
  | none =>
    by_cases given : name ∈ nulls
    · refine .inr ⟨rfl, lookup_of_mem nodup (perm.mem_iff.mpr (List.mem_append_right _ ?_))⟩
      exact List.mem_map.mpr ⟨name, given, rfl⟩
    · refine .inl (List.lookup_eq_none_iff.mpr fun m found => ?_)
      rcases List.mem_append.mp (perm.mem_iff.mp found) with own | null
      · obtain ⟨value, within, _⟩ := Slots.mem_values.mp own
        have other : name ≠ m.1 := by
          rintro rfl
          cases Slots.unique apart within mem
        simpa using other
      · obtain ⟨n, within, rfl⟩ := List.mem_map.mp null
        have other : name ≠ n := by
          rintro rfl
          exact given within
        simpa using other

theorem Scattered.passes (h : Scattered fields slots nulls others ms)
    (fills : Fills depth fields slots) (apart : (fields.map (·.name)).Nodup)
    {other : Reader Unit} (passed : ∀ m ∈ others, other depth m.2 = .ok ()) :
    ∀ m ∈ ms, Passes fields other depth m := by
  have takes {name : String} {value : Option Json} (mem : (name, value) ∈ slots) :
      Passes fields other depth (name, (value.map treeOf).getD .null) := by
    obtain ⟨field, within, rfl, fits⟩ := fills.takes mem
    simpa only [Passes, find?_name apart within] using fits
  intro m mem
  rcases List.mem_append.mp (h.perm.mem_iff.mp mem) with record | foreign
  · rcases List.mem_append.mp record with own | null
    · obtain ⟨value, within, eq⟩ := Slots.mem_values.mp own
      have passes := takes within
      rwa [Option.map_some, Option.getD_some, ← eq] at passes
    · obtain ⟨n, within, rfl⟩ := List.mem_map.mp null
      exact takes (h.absent n within)
  · have nowhere : fields.find? (·.name == m.1) = none := by
      rw [List.find?_eq_none]
      simpa using h.unknown m foreign
    simpa only [Passes, nowhere] using passed m foreign

/-- The reader gets through the members, and what it has found then is the record. -/
theorem Scattered.collect (h : Scattered fields slots nulls others ms)
    (fills : Fills depth fields slots) (apart : (fields.map (·.name)).Nodup)
    {other : Reader Unit} (passed : ∀ m ∈ others, other depth m.2 = .ok ()) :
    JsonText.collect fields other depth .closed [] (entries ms) =
      .ok ⟨depth, known fields ms⟩ := by
  have none : (([] : List (String × Tree)).map (·.1)).Nodup := List.nodup_nil
  exact (collect_entries ms none).mpr ⟨h.passes fills apart passed, h.nodup fills apart, rfl⟩

theorem Scattered.complete (h : Scattered fields slots nulls others ms)
    (fills : Fills depth fields slots) :
    requireAll ⟨depth, known fields ms⟩ fields = .ok () := by
  refine requireAll_ok fun field mem required => ?_
  obtain ⟨value, within⟩ := fills.there mem required
  refine List.any_eq_true.mpr ⟨(field.name, treeOf value), ?_, beq_self_eq_true _⟩
  exact (h.known_perm fills).mem_iff.mpr
    (List.mem_append_left _ (Slots.mem_values.mpr ⟨value, within, rfl⟩))

/-- A record is read from an object with its members: all of them fit and none is missing. -/
theorem Scattered.record (h : Scattered fields slots nulls others ms) (typeName : String)
    (deep : 2 ≤ depth) (fills : Fills (depth - 1) fields slots)
    (apart : (fields.map (·.name)).Nodup) (skipped : ∀ m ∈ others, skip m.2 = .ok ()) :
    JsonText.record typeName fields depth (.object (entries ms) .closed) =
      .ok ⟨depth - 1, known fields ms⟩ := by
  have collected : JsonText.collect fields (fun _ t => skip t) (depth - 1) .closed [] (entries ms) =
      .ok ⟨depth - 1, known fields ms⟩ := h.collect fills apart skipped
  simp only [JsonText.record, enter_of_le deep, ok_bind, collected, h.complete fills]
  rfl

/-- A kind is read from its members as a record is. -/
theorem Scattered.ofMembers {α : Type} {v : Variant α}
    (h : Scattered v.fields slots nulls others ms) (fills : Fills depth v.fields slots)
    (apart : (v.fields.map (·.name)).Nodup) :
    v.ofMembers depth (entries ms) = v.build ⟨depth, known v.fields ms⟩ := by
  unfold Variant.ofMembers
  split
  next none =>
    rw [List.isEmpty_iff] at none
    have empty : known v.fields ms = [] := by simp [known, none]
    rw [empty]
  next =>
    have collected : JsonText.collect v.fields (fun _ _ => .ok ()) depth .closed [] (entries ms) =
        .ok ⟨depth, known v.fields ms⟩ := h.collect fills apart fun _ _ => rfl
    simp only [collected, ok_bind, h.complete fills]

/-- Neither a record nor a kind is read from members that repeat the name of a field. -/
theorem record_repeats {typeName name : String} (twice : Repeats name ms)
    (field : fields.any (·.name == name) = true) (out : Found) :
    JsonText.record typeName fields depth (.object (entries ms) .closed) ≠ .ok out := by
  intro done
  obtain ⟨inside, _, done⟩ := bind_eq_ok.mp done
  obtain ⟨found, collected, _⟩ := bind_eq_ok.mp done
  exact collect_repeats twice field found collected

theorem ofMembers_repeats {α : Type} {v : Variant α} {name : String} (twice : Repeats name ms)
    (field : v.fields.any (·.name == name) = true) (out : α) :
    v.ofMembers depth (entries ms) ≠ .ok out := by
  intro done
  unfold Variant.ofMembers at done
  split at done
  next none => simp [List.isEmpty_iff.mp none] at field
  next =>
    obtain ⟨found, collected, _⟩ := bind_eq_ok.mp done
    exact collect_repeats twice field found collected

theorem Fills.known_values (fills : Fills depth fields slots) :
    known fields slots.values = slots.values := by
  refine List.filter_eq_self.mpr fun m mem => ?_
  obtain ⟨value, within, _⟩ := Slots.mem_values.mp mem
  exact fills.any_name within

end Scattered

end JsonText

end ClassSwap
