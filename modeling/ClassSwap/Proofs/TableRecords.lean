import ClassSwap.Proofs.Attempts
import ClassSwap.Toml.Decode
import Mathlib.Data.List.Nodup

namespace ClassSwap.Toml

variable {α β γ : Type} {fields : List (Field α)} {f g : Field α} {members rest : Members}
  {key name : String} {value : Node} {a b : α}

/-- What becomes of a record by the value that a table has for a field, if it has one. -/
def Field.overlay (f : Field α) (members : Members) (a : α) : Except Mismatch α :=
  match members.lookup f.name with
  | some value => f.set value a
  | none => .ok a

/-- What becomes of a record by a table, field by field. -/
def overlay : List (Field α) → Members → α → Except Mismatch α
  | [], _, a => .ok a
  | f :: fields, members, a => f.overlay members a >>= overlay fields members

/-- Fields of different names, whose values can be set in either order. -/
structure Apart (f g : Field α) : Prop where
  names : f.name ≠ g.name
  commute : ∀ v w a b, (f.set v a >>= g.set w) = .ok b ↔ (g.set w a >>= f.set v) = .ok b

theorem overlay_nil (fields : List (Field α)) (a : α) : overlay fields [] a = .ok a := by
  induction fields with
  | nil => rfl
  | cons f fields ih => exact ih

theorem Field.overlay_of_notMem (absent : f.name ∉ members.map (·.1)) (a : α) :
    f.overlay members a = .ok a := by
  have none : members.lookup f.name = none := by
    refine List.lookup_eq_none_iff.mpr fun m mem => ?_
    have other : f.name ≠ m.1 := fun same => absent (same ▸ List.mem_map_of_mem mem)
    simpa using other
  rw [Field.overlay, none]

theorem Field.overlay_self (f : Field α) (value : Node) (rest : Members) (a : α) :
    f.overlay ((f.name, value) :: rest) a = f.set value a := by
  simp [Field.overlay]

theorem Field.overlay_ne (other : f.name ≠ key) (value : Node) (rest : Members) (a : α) :
    f.overlay ((key, value) :: rest) a = f.overlay rest a := by
  have other' : (f.name == key) = false := by simpa using other
  simp [Field.overlay, List.lookup_cons, other']

theorem overlay_ne (others : ∀ f ∈ fields, f.name ≠ key) (value : Node) (rest : Members) (a : α) :
    overlay fields ((key, value) :: rest) a = overlay fields rest a := by
  induction fields generalizing a with
  | nil => rfl
  | cons f fields ih =>
    have ih := ih fun g mem => others g (List.mem_cons_of_mem f mem)
    rw [overlay, overlay, Field.overlay_ne (others f List.mem_cons_self)]
    exact congrArg _ (funext ih)

theorem Apart.overlay (apart : Apart f g) (members : Members) (value : Node) (a b : α) :
    (f.overlay members a >>= g.set value) = .ok b ↔
      (g.set value a >>= f.overlay members) = .ok b := by
  cases found : members.lookup f.name with
  | some v =>
    have set : f.overlay members = f.set v := by
      funext a
      rw [Field.overlay, found]
    rw [set]
    exact apart.commute v value a b
  | none =>
    have keep (a : α) : f.overlay members a = .ok a := by rw [Field.overlay, found]
    rw [keep, ok_bind, bind_eq_ok]
    simp only [keep, Except.ok.injEq, exists_eq_right]

/-- What the first member of a table sets can be set before all the rest. -/
theorem overlay_first (apart : fields.Pairwise Apart)
    (found : fields.find? (·.name == key) = some f) (fresh : key ∉ rest.map (·.1)) (a b : α) :
    overlay fields ((key, value) :: rest) a = .ok b ↔
      (f.set value a >>= overlay fields rest) = .ok b := by
  induction fields generalizing a with
  | nil => cases found
  | cons g fields ih =>
    obtain ⟨apart_g, apart⟩ := List.pairwise_cons.mp apart
    by_cases here : g.name = key
    · subst here
      obtain rfl : g = f := by simpa using found
      have others : ∀ h ∈ fields, h.name ≠ g.name := fun h mem => (apart_g h mem).names.symm
      simp only [overlay, g.overlay_self, Field.overlay_of_notMem fresh, ok_bind, bind_eq_ok,
        overlay_ne others]
    · have found' : fields.find? (·.name == key) = some f := by simpa [here] using found
      have order := (apart_g f (List.mem_of_find?_eq_some found')).overlay rest value
      calc overlay (g :: fields) ((key, value) :: rest) a = .ok b
        _ ↔ ∃ c, g.overlay rest a = .ok c ∧ (f.set value c >>= overlay fields rest) = .ok b := by
          rw [overlay, Field.overlay_ne here, bind_eq_ok]
          simp only [ih apart found']
        _ ↔ ((g.overlay rest a >>= f.set value) >>= overlay fields rest) = .ok b := by
          rw [bind_assoc, bind_eq_ok]
        _ ↔ ((f.set value a >>= g.overlay rest) >>= overlay fields rest) = .ok b := by
          rw [bind_eq_ok, bind_eq_ok]
          simp only [order]
        _ ↔ (f.set value a >>= overlay (g :: fields) rest) = .ok b := by
          rw [bind_assoc]
          rfl

/-- A table of known keys is read as its fields are looked up in it. -/
theorem setMembers_eq_ok_iff (apart : fields.Pairwise Apart)
    (known : ∀ m ∈ members, ∃ f ∈ fields, f.name = m.1) (distinct : (members.map (·.1)).Nodup)
    (a b : α) : setMembers fields a members = .ok b ↔ overlay fields members a = .ok b := by
  induction members generalizing a with
  | nil => rw [setMembers, overlay_nil]
  | cons m rest ih =>
    obtain ⟨key, value⟩ := m
    obtain ⟨fresh, distinct⟩ := List.nodup_cons.mp distinct
    obtain ⟨h, mem, same⟩ := known _ List.mem_cons_self
    have ih := ih (fun m mem => known m (List.mem_cons_of_mem _ mem)) distinct
    cases found : fields.find? (·.name == key) with
    | none => exact absurd (beq_iff_eq.mpr same) (List.find?_eq_none.mp found h mem)
    | some f =>
      rw [overlay_first apart found fresh, setMembers, found, bind_eq_ok, bind_eq_ok]
      simp only [ih]

/-- A value that its field does not take, or that has none, spoils the whole table. -/
theorem setMembers_error {m : String × Node} (mem : m ∈ members)
    (bad : ∀ f, fields.find? (·.name == m.1) = some f → ∀ a b, f.set m.2 a ≠ .ok b) (a : α) :
    ∃ e, setMembers fields a members = .error e := by
  cases read : setMembers fields a members with
  | error e => exact ⟨e, rfl⟩
  | ok b =>
    induction members generalizing a with
    | nil => cases mem
    | cons n rest ih =>
      obtain ⟨key, value⟩ := n
      rw [setMembers] at read
      split at read
      next f found =>
        obtain ⟨c, set, read⟩ := bind_eq_ok.mp read
        rcases List.mem_cons.mp mem with rfl | mem
        · exact absurd set (bad f found a c)
        · exact ih mem c read
      next => cases read

theorem apart_field {other : String} {d : Decoder β} {e : Decoder γ} {put : α → β → α}
    {put' : α → γ → α} (names : name ≠ other)
    (commute : ∀ a x y, put' (put a x) y = put (put' a y) x) :
    Apart (field name d put) (field other e put') where
  names := names
  commute v w a b := by
    simp only [field, bind_eq_ok, pure, Except.pure, Except.ok.injEq]
    constructor
    · rintro ⟨_, ⟨x, read, rfl⟩, y, read', rfl⟩
      exact ⟨_, ⟨y, read', rfl⟩, x, read, (commute a x y).symm⟩
    · rintro ⟨_, ⟨y, read', rfl⟩, x, read, rfl⟩
      exact ⟨_, ⟨x, read, rfl⟩, y, read', commute a x y⟩

/-- What is looked up for a field takes the place of what the record has there. -/
theorem overlay_field {d : Decoder β} {put : α → β → α} (get : α → β)
    (keep : ∀ a, put a (get a) = a) {read : Node → Option β}
    (taken : ∀ v, members.lookup name = some v → ∃ x, read v = some x ∧ d v = .ok x) (a : α) :
    (field name d put).overlay members a =
      .ok (put a (((members.lookup name).bind read).getD (get a))) := by
  cases found : members.lookup name with
  | none => simp [Field.overlay, field, found, keep]
  | some v =>
    obtain ⟨x, value, decoded⟩ := taken v found
    simp [Field.overlay, field, found, value, decoded]

/-- A field that may be missing keeps what the record has there unless something is looked up. -/
theorem overlay_present {d : Decoder β} {put : α → Option β → α} (get : α → Option β)
    (keep : ∀ a, put a (get a) = a) {read : Node → Option β}
    (taken : ∀ v, members.lookup name = some v → ∃ x, read v = some x ∧ d v = .ok x) (a : α) :
    (field name (present d) put).overlay members a =
      .ok (put a (((members.lookup name).bind read).or (get a))) := by
  cases found : members.lookup name with
  | none => simp [Field.overlay, field, found, keep]
  | some v =>
    obtain ⟨x, value, decoded⟩ := taken v found
    simp [Field.overlay, field, present, found, value, decoded]

end ClassSwap.Toml
