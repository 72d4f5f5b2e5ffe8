import ClassSwap.Toml.Document
import Mathlib.Data.List.Nodup

namespace ClassSwap.Toml

variable {members inner settled : Members} {key : String} {node : Node} {text rest : List Char}
  {path : List String}

/-- The tables that a value is or that share its header. -/
inductive Inside : Node → Members → Prop
  | table (origin : Origin) (inner : Members) : Inside (.table origin inner) inner
  | several (items : List Members) (inner : Members) (mem : inner ∈ items) :
    Inside (.tables items) inner

/-- No key is given twice, in the table or in a table inside it. -/
inductive Keyed : Members → Prop
  | intro (members : Members) (distinct : (members.map (·.1)).Nodup)
    (deep : ∀ m ∈ members, ∀ inner, Inside m.2 inner → Keyed inner) : Keyed members

def KeyedIn (node : Node) : Prop := ∀ inner, Inside node inner → Keyed inner

theorem keyed_nil : Keyed [] := ⟨_, List.nodup_nil, nofun⟩

theorem keyedIn_table {origin : Origin} : KeyedIn (.table origin inner) ↔ Keyed inner :=
  ⟨fun deep => deep inner (.table origin inner), fun keyed _ (.table ..) => keyed⟩

theorem keyedIn_tables {items : List Members} :
    KeyedIn (.tables items) ↔ ∀ inner ∈ items, Keyed inner :=
  ⟨fun deep inner mem => deep inner (.several items inner mem),
    fun keyed _ (.several _ inner mem) => keyed inner mem⟩

namespace Keyed

theorem distinct (keyed : Keyed members) : (members.map (·.1)).Nodup := by
  cases keyed with
  | intro _ distinct deep => exact distinct

theorem deep (keyed : Keyed members) {m : String × Node} (mem : m ∈ members) : KeyedIn m.2 := by
  cases keyed with
  | intro _ distinct deep => exact deep m mem

theorem lookup (keyed : Keyed members) (found : members.lookup key = some node) :
    KeyedIn node := by
  obtain ⟨before, after, rfl, -⟩ := List.lookup_eq_some_iff.mp found
  exact keyed.deep (m := (key, node)) (by simp)

theorem append (keyed : Keyed members) (fresh : key ∉ members.map (·.1)) (deep : KeyedIn node) :
    Keyed (members ++ [(key, node)]) := by
  refine ⟨_, ?_, fun m mem => ?_⟩
  · rw [List.map_append, List.map_singleton, List.nodup_append_comm, List.singleton_append]
    exact List.nodup_cons.mpr ⟨fresh, keyed.distinct⟩
  · rcases List.mem_append.mp mem with mem | mem
    · exact keyed.deep mem
    · obtain rfl := List.mem_singleton.mp mem
      exact deep

theorem replaceMember (keyed : Keyed members) (deep : KeyedIn node) :
    Keyed (replaceMember members key node) := by
  have keys : (Toml.replaceMember members key node).map (·.1) = members.map (·.1) := by
    rw [Toml.replaceMember, List.map_map]
    refine List.map_congr_left fun m _ => ?_
    by_cases here : m.1 = key <;> simp [here]
  refine ⟨_, keys ▸ keyed.distinct, fun m mem => ?_⟩
  obtain ⟨old, there, rfl⟩ := List.mem_map.mp mem
  split
  · exact deep
  · exact keyed.deep there

theorem sublist (keyed : Keyed members) (sub : inner.Sublist members) : Keyed inner :=
  ⟨_, keyed.distinct.sublist (sub.map _), fun _ mem => keyed.deep (sub.subset mem)⟩

end Keyed

theorem fresh_of_lookup (none : members.lookup key = none) : key ∉ members.map (·.1) := by
  intro mem
  obtain ⟨m, there, rfl⟩ := List.mem_map.mp mem
  simpa using List.lookup_eq_none_iff.mp none m there

theorem fresh_of_any (none : members.any (·.1 == key) = false) : key ∉ members.map (·.1) := by
  intro mem
  obtain ⟨m, there, rfl⟩ := List.mem_map.mp mem
  simpa using List.any_eq_false.mp none m there

/-- A change that keeps tables keyed does so wherever it is made. -/
theorem keyed_of_editAt {dotted : Bool} {change : Origin → Members → Option Members}
    (step : ∀ {origin members members'}, Keyed members → change origin members = some members' →
      Keyed members')
    {origin : Origin} {members' : Members} (keyed : Keyed members)
    (edited : editAt dotted change path origin members = some members') : Keyed members' := by
  induction path generalizing origin members members' with
  | nil => exact step keyed edited
  | cons key path ih =>
    rw [editAt] at edited
    split at edited
    next none =>
      simp only [Option.bind_eq_bind, Option.bind_eq_some_iff, Option.pure_def,
        Option.some.injEq] at edited
      obtain ⟨inner, edited, rfl⟩ := edited
      exact keyed.append (fresh_of_lookup none) (keyedIn_table.mpr (ih keyed_nil edited))
    next origin inner found =>
      split at edited
      · cases edited
      · simp only [Option.bind_eq_bind, Option.bind_eq_some_iff, Option.pure_def,
          Option.some.injEq] at edited
        obtain ⟨inner', edited, rfl⟩ := edited
        have there := keyedIn_table.mp (keyed.lookup found)
        exact keyed.replaceMember (keyedIn_table.mpr (ih there edited))
    next items found =>
      split at edited
      · cases edited
      next last at_last =>
        simp only [Option.bind_eq_bind, Option.bind_eq_some_iff, Option.pure_def,
          Option.some.injEq] at edited
        obtain ⟨inner', edited, rfl⟩ := edited
        have there := keyedIn_tables.mp (keyed.lookup found)
        have done := ih (there last (List.mem_of_getLast? at_last)) edited
        refine keyed.replaceMember (keyedIn_tables.mpr fun inner mem => ?_)
        rcases List.mem_append.mp mem with mem | mem
        · exact there inner (List.dropLast_subset items mem)
        · obtain rfl := List.mem_singleton.mp mem
          exact done
    · cases edited

theorem keyed_of_addPair {members' : Members} (keyed : Keyed members) (deep : KeyedIn node)
    (added : addPair members path key node = some members') : Keyed members' := by
  refine keyed_of_editAt (fun {origin members members'} keyed changed => ?_) keyed added
  split at changed
  · cases changed
  next free =>
    simp only [Bool.or_eq_true, not_or, Bool.not_eq_true] at free
    cases changed
    exact keyed.append (fresh_of_any free.2) deep

theorem keyedIn_dateTime : KeyedIn .dateTime := nofun

theorem keyedIn_real (x : Float) : KeyedIn (.real x) := nofun

theorem keyedIn_integer (n : Int) : KeyedIn (.integer n) := nofun

theorem keyedIn_of_takeDateTime (taken : takeDateTime text = some (node, rest)) :
    KeyedIn node := by
  have same : node = .dateTime := by
    unfold takeDateTime at taken
    repeat' split at taken
    all_goals
      simp only [Option.map_eq_some_iff, Option.some.injEq, Prod.mk.injEq] at taken
      grind
  exact same ▸ keyedIn_dateTime

theorem keyedIn_of_takeReal (taken : takeReal text = some (node, rest)) : KeyedIn node := by
  unfold takeReal at taken
  simp only [Option.bind_eq_bind, Option.bind_eq_some_iff, Option.pure_def] at taken
  obtain ⟨whole, -, taken⟩ := taken
  have last {γ : Type} {parts : Option γ} {large : γ → Bool} {x : γ → Float}
      {behind : γ → List Char}
      (made : (parts.bind fun p =>
        if large p = true then none else some (Node.real (x p), behind p)) = some (node, rest)) :
      KeyedIn node := by
    obtain ⟨p, -, made⟩ := Option.bind_eq_some_iff.mp made
    split at made
    · cases made
    · cases made
      exact keyedIn_real _
  repeat' split at taken
  all_goals exact last taken

theorem keyedIn_of_takeSpecialReal (taken : takeSpecialReal text = some (node, rest)) :
    KeyedIn node := by
  unfold takeSpecialReal at taken
  dsimp only at taken
  split at taken
  · cases taken
    exact keyedIn_real _
  · cases taken
    exact keyedIn_real _
  · cases taken

theorem keyedIn_of_takeBased {base : Nat} {isDigit : Char → Bool}
    (taken : takeBased base isDigit text = some (node, rest)) : KeyedIn node := by
  simp only [takeBased, Option.bind_eq_bind, Option.bind_eq_some_iff] at taken
  obtain ⟨digits, -, taken⟩ := taken
  split at taken
  · cases taken
    exact keyedIn_integer _
  · cases taken

theorem keyedIn_of_takeInteger (taken : takeInteger text = some (node, rest)) : KeyedIn node := by
  unfold takeInteger at taken
  split at taken
  · exact keyedIn_of_takeBased taken
  · exact keyedIn_of_takeBased taken
  · exact keyedIn_of_takeBased taken
  · simp only [Option.bind_eq_bind, Option.bind_eq_some_iff] at taken
    obtain ⟨digits, -, taken⟩ := taken
    repeat' split at taken
    all_goals cases taken
    all_goals exact keyedIn_integer _

/-- A value without parts is no table. -/
theorem keyedIn_of_takeNumeral (taken : takeNumeral text = some (node, rest)) : KeyedIn node := by
  simp only [takeNumeral, Option.orElse_eq_orElse, Option.orElse_eq_or, Option.or_eq_some_iff]
    at taken
  rcases taken with taken | ⟨-, taken | ⟨-, taken | ⟨-, taken⟩⟩⟩
  · exact keyedIn_of_takeDateTime taken
  · exact keyedIn_of_takeReal taken
  · exact keyedIn_of_takeSpecialReal taken
  · exact keyedIn_of_takeInteger taken

theorem keyed_of_takeValue (tries : Nat) :
    (∀ room text node rest, takeValue room tries text = some (node, rest) → KeyedIn node) ∧
    (∀ room members text members' rest, Keyed members →
      takePairs room tries members text = some (members', rest) → Keyed members') := by
  induction tries with
  | zero => exact ⟨nofun, nofun⟩
  | succ tries ih =>
    obtain ⟨value, pairs⟩ := ih
    constructor
    · intro room text node rest taken
      rw [takeValue.eq_def] at taken
      dsimp only at taken
      split at taken
      · obtain ⟨_, -, ⟨⟩⟩ := Option.map_eq_some_iff.mp taken
        exact nofun
      · obtain ⟨_, -, ⟨⟩⟩ := Option.map_eq_some_iff.mp taken
        exact nofun
      · split at taken
        · cases taken
        · obtain ⟨_, -, ⟨⟩⟩ := Option.bind_eq_some_iff.mp taken
          exact nofun
      · split at taken
        · cases taken
        · obtain ⟨⟨members, _⟩, inside, ⟨⟩⟩ := Option.bind_eq_some_iff.mp taken
          exact keyedIn_table.mpr (pairs _ _ _ _ _ keyed_nil inside)
      · cases taken
        exact nofun
      · cases taken
        exact nofun
      · exact keyedIn_of_takeNumeral taken
    · intro room members text members' rest keyed taken
      rw [takePairs] at taken
      split at taken
      · split at taken
        · cases taken
          exact keyed_nil
        · cases taken
      · simp only [Option.bind_eq_bind, Option.bind_eq_some_iff] at taken
        obtain ⟨⟨⟨path, key⟩, _⟩, -, _, -, ⟨node, _⟩, found, between, added, taken⟩ := taken
        have keyed := keyed_of_addPair keyed (value _ _ _ _ found) added
        split at taken
        · exact pairs _ _ _ _ _ keyed taken
        · cases taken
          exact keyed
        · cases taken

/-- The settled part and the table being read are keyed. -/
structure Draft.Keyed (d : Draft) : Prop where
  settled : Toml.Keyed d.settled
  current : Toml.Keyed d.current

namespace Draft.Keyed

variable {d d' : Draft}

theorem start : Draft.start.Keyed := ⟨keyed_nil, keyed_nil⟩

theorem settle (keyed : d.Keyed) (settled : d.settle = some members) : Toml.Keyed members := by
  unfold Draft.settle at settled
  split at settled
  · cases settled
    exact keyed.current
  · refine keyed_of_editAt (fun {origin members members'} outer changed => ?_) keyed.settled settled
    split at changed
    · split at changed
      next items found =>
        cases changed
        have there := keyedIn_tables.mp (outer.lookup found)
        refine outer.replaceMember (keyedIn_tables.mpr fun inner mem => ?_)
        rcases List.mem_append.mp mem with mem | mem
        · exact there inner mem
        · obtain rfl := List.mem_singleton.mp mem
          exact keyed.current
      · cases changed
    · split at changed
      · cases changed
      next free =>
        cases changed
        rw [Bool.not_eq_true] at free
        exact outer.append (fresh_of_any free) (keyedIn_table.mpr keyed.current)

theorem addPair (keyed : d.Keyed) (deep : KeyedIn node)
    (added : d.addPair path key node = some d') : d'.Keyed := by
  obtain ⟨current, changed, ⟨⟩⟩ := Option.bind_eq_some_iff.mp added
  exact ⟨keyed.settled, keyed_of_addPair keyed.current deep changed⟩

theorem takeOuter (keyed : Toml.Keyed members) {taken : Members × Members}
    (found : takeOuter key members = some taken) : Toml.Keyed taken.1 ∧ Toml.Keyed taken.2 := by
  unfold Draft.takeOuter at found
  split at found
  · cases found
    exact ⟨keyed_nil, keyed⟩
  next there =>
    cases found
    exact ⟨keyedIn_table.mp (keyed.lookup there), keyed.sublist List.filter_sublist⟩
  · cases found

theorem membersAt (keyed : Toml.Keyed members) (found : membersAt path members = some inner) :
    Toml.Keyed inner := by
  induction path generalizing members with
  | nil =>
    cases found
    exact keyed
  | cons key path ih =>
    rw [Draft.membersAt] at found
    split at found
    · cases found
      exact keyed_nil
    next there => exact ih (keyedIn_table.mp (keyed.lookup there)) found
    next there =>
      obtain ⟨last, at_last, found⟩ := Option.bind_eq_some_iff.mp found
      exact ih (keyedIn_tables.mp (keyed.lookup there) last (List.mem_of_getLast? at_last)) found
    · cases found

theorem beginTable (keyed : d.Keyed) (begun : d.beginTable path key = some d') : d'.Keyed := by
  simp only [Draft.beginTable, Option.bind_eq_bind, Option.bind_eq_some_iff, Option.pure_def,
    Option.some.injEq] at begun
  obtain ⟨members, settled, around, at_path, taken, found, settled', edited, rfl⟩ := begun
  have outer := keyed.settle settled
  refine ⟨keyed_of_editAt (fun there changed => ?_) outer edited,
    (takeOuter (membersAt outer at_path) found).1⟩
  obtain ⟨taken, found, rfl⟩ := Option.map_eq_some_iff.mp changed
  exact (takeOuter there found).2

theorem beginOneOfSeveral (keyed : d.Keyed) (begun : d.beginOneOfSeveral path key = some d') :
    d'.Keyed := by
  simp only [Draft.beginOneOfSeveral, Option.bind_eq_bind, Option.bind_eq_some_iff,
    Option.pure_def, Option.some.injEq] at begun
  obtain ⟨members, settled, settled', edited, rfl⟩ := begun
  refine ⟨keyed_of_editAt (fun there changed => ?_) (keyed.settle settled) edited, keyed_nil⟩
  split at changed
  next none =>
    cases changed
    exact there.append (fresh_of_lookup none) (keyedIn_tables.mpr nofun)
  · cases changed
    exact there
  · cases changed

theorem takeLine (keyed : d.Keyed) (taken : takeLine d text = some (d', rest)) : d'.Keyed := by
  unfold Toml.takeLine at taken
  split at taken
  · simp only [Option.bind_eq_bind, Option.bind_eq_some_iff, Option.pure_def, Option.some.injEq,
      Prod.mk.injEq] at taken
    obtain ⟨_, -, _, -, d', begun, rfl, -⟩ := taken
    exact keyed.beginOneOfSeveral begun
  · simp only [Option.bind_eq_bind, Option.bind_eq_some_iff, Option.pure_def, Option.some.injEq,
      Prod.mk.injEq] at taken
    obtain ⟨_, -, _, -, d', begun, rfl, -⟩ := taken
    exact keyed.beginTable begun
  · split at taken
    · cases taken
      exact keyed
    · simp only [Option.bind_eq_bind, Option.bind_eq_some_iff, Option.pure_def, Option.some.injEq,
        Prod.mk.injEq] at taken
      obtain ⟨_, -, _, -, ⟨node, _⟩, value, _, -, d', added, rfl, -⟩ := taken
      exact keyed.addPair ((keyed_of_takeValue _).1 _ _ _ _ value) added

theorem takeLines {tries : Nat} (keyed : d.Keyed) (taken : takeLines tries d text = some members) :
    Toml.Keyed members := by
  induction tries generalizing d text with
  | zero => cases taken
  | succ tries ih =>
    obtain ⟨⟨d', rest⟩, line, taken⟩ := Option.bind_eq_some_iff.mp taken
    have keyed := keyed.takeLine line
    dsimp only at taken
    split at taken
    · exact keyed.settle taken
    · exact ih keyed taken

end Draft.Keyed

/-- No document gives a key twice, at its top or in any of its tables. -/
theorem keyed_of_parse? {text : String} (parsed : parse? text = some members) : Keyed members :=
  Draft.Keyed.start.takeLines parsed

end ClassSwap.Toml
