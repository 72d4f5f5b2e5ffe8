import ClassSwap.Proofs.Attempts
import ClassSwap.Proofs.Base64Text
import ClassSwap.Proofs.TextBytes
import Mathlib.Algebra.Group.Nat.Defs
import Mathlib.Data.List.Basic
import Mathlib.Data.List.Induction

namespace ClassSwap

namespace Base64

variable {a b c d n offset start pads : Nat} {bytes group out : Bytes} {text : List Char}

theorem symbolOf_valueOf? : ∀ n < 256, ∀ v ∈ valueOf? (UInt8.ofNat n),
    v < 64 ∧ UInt8.ofNat n = symbolOf v := by
  decide +kernel

theorem valueOf?_eq_some {byte : UInt8} (h : valueOf? byte = some n) :
    n < 64 ∧ byte = symbolOf n := by
  have own := symbolOf_valueOf? byte.toNat byte.toNat_lt n
  rw [UInt8.ofNat_toNat] at own
  exact own h

theorem valueAt_eq_ok {byte : UInt8} (h : valueAt byte offset = .ok n) :
    n < 64 ∧ byte = symbolOf n := by
  unfold valueAt at h
  split at h
  next v known =>
    cases h
    exact valueOf?_eq_some known
  next => cases h

theorem encodeSymbols_four (ha : a < 64) (hb : b < 64) (hc : c < 64) (hd : d < 64)
    (rest : Bytes) :
    encodeSymbols (UInt8.ofNat (a * 4 + b / 16) :: UInt8.ofNat (b % 16 * 16 + c / 4) ::
      UInt8.ofNat (c % 4 * 64 + d) :: rest) =
      symbolOf a :: symbolOf b :: symbolOf c :: symbolOf d :: encodeSymbols rest := by
  have first : (UInt8.ofNat (a * 4 + b / 16)).toNat = a * 4 + b / 16 :=
    byte_toNat_ofNat (by omega)
  have second : (UInt8.ofNat (b % 16 * 16 + c / 4)).toNat = b % 16 * 16 + c / 4 :=
    byte_toNat_ofNat (by omega)
  have third : (UInt8.ofNat (c % 4 * 64 + d)).toNat = c % 4 * 64 + d :=
    byte_toNat_ofNat (by omega)
  simp only [encodeSymbols, first, second, third]
  congr 5 <;> omega

theorem encodeSymbols_three (ha : a < 64) (hb : b < 64) (hc : c < 64) (clear : c % 4 = 0) :
    encodeSymbols [UInt8.ofNat (a * 4 + b / 16), UInt8.ofNat (b % 16 * 16 + c / 4)] =
      [symbolOf a, symbolOf b, symbolOf c, pad] := by
  have first : (UInt8.ofNat (a * 4 + b / 16)).toNat = a * 4 + b / 16 :=
    byte_toNat_ofNat (by omega)
  have second : (UInt8.ofNat (b % 16 * 16 + c / 4)).toNat = b % 16 * 16 + c / 4 :=
    byte_toNat_ofNat (by omega)
  simp only [encodeSymbols, first, second]
  congr 4 <;> omega

theorem encodeSymbols_two (ha : a < 64) (hb : b < 64) (clear : b % 16 = 0) :
    encodeSymbols [UInt8.ofNat (a * 4 + b / 16)] = [symbolOf a, symbolOf b, pad, pad] := by
  have first : (UInt8.ofNat (a * 4 + b / 16)).toNat = a * 4 + b / 16 :=
    byte_toNat_ofNat (by omega)
  simp only [encodeSymbols, first]
  congr 3 <;> omega

theorem lastGroup_eq_ok {symbols all : List Nat} {total : Nat}
    (h : lastGroup start symbols pads group = .ok (all, total)) :
    ∃ values more, all = symbols ++ values ∧ total = pads + more ∧ (∀ v ∈ values, v < 64) ∧
      group = values.map symbolOf ++ List.replicate more pad ∧ (0 < pads → values = []) := by
  induction group generalizing symbols pads with
  | nil =>
    cases h
    exact ⟨[], 0, by simp, rfl, nofun, rfl, fun _ => rfl⟩
  | cons byte rest ih =>
    rw [lastGroup] at h
    split at h
    next padding =>
      split at h
      next => cases h
      next =>
        obtain ⟨values, more, rfl, rfl, low, rfl, none⟩ := ih h
        obtain rfl := none (by omega)
        exact ⟨[], more + 1, rfl, by omega, nofun, by simp [padding, List.replicate_succ],
          fun _ => rfl⟩
    next =>
      split at h
      next => cases h
      next unpadded =>
        split at h
        next n known =>
          obtain ⟨values, more, rfl, rfl, low, rfl, -⟩ := ih h
          obtain ⟨small, rfl⟩ := valueOf?_eq_some known
          refine ⟨n :: values, more, by simp, rfl, ?_, rfl, fun padded => absurd padded unpadded⟩
          exact List.forall_mem_cons.mpr ⟨small, low⟩
        next => cases h

theorem finish_eq_ok {values : List Nat} {last : Nat} (low : ∀ v ∈ values, v < 64)
    (short : values.length + pads ≤ 4) (h : finish start values pads last = .ok out) :
    values.map symbolOf ++ List.replicate pads pad = encodeSymbols out := by
  unfold finish at h
  split at h
  next a b =>
    split at h
    next => cases h
    next padded =>
      split at h
      next => cases h
      next clear =>
        cases h
        obtain rfl : pads = 2 := by omega
        exact (encodeSymbols_two (low a (by simp)) (low b (by simp)) (by omega)).symm
  next a b c =>
    split at h
    next => cases h
    next padded =>
      split at h
      next => cases h
      next clear =>
        cases h
        obtain rfl : pads = 1 := by omega
        exact (encodeSymbols_three (low a (by simp)) (low b (by simp)) (low c (by simp))
          (by omega)).symm
  next a b c d =>
    cases h
    obtain rfl : pads = 0 := by
      simp only [List.length_cons, List.length_nil] at short
      omega
    exact (encodeSymbols_four (low a (by simp)) (low b (by simp)) (low c (by simp))
      (low d (by simp)) []).symm
  next => cases h

theorem length_le_four : ∀ {group : Bytes},
    (∀ a b c d e rest, group = a :: b :: c :: d :: e :: rest → False) → group.length ≤ 4
  | [], _ | [_], _ | [_, _], _ | [_, _, _], _ | [_, _, _, _], _ => by simp
  | a :: b :: c :: d :: e :: rest, many => (many a b c d e rest rfl).elim

theorem eq_encodeSymbols_of_decodeGroups (h : decodeGroups start group = .ok out) :
    group = encodeSymbols out := by
  induction start, group using decodeGroups.induct generalizing out with
  | case1 start a b c d e rest ih =>
    rw [decodeGroups] at h
    obtain ⟨first, one, h⟩ := bind_eq_ok.mp h
    obtain ⟨second, two, h⟩ := bind_eq_ok.mp h
    obtain ⟨third, three, h⟩ := bind_eq_ok.mp h
    obtain ⟨fourth, four, h⟩ := bind_eq_ok.mp h
    obtain ⟨tail, later, done⟩ := bind_eq_ok.mp h
    obtain ⟨lowA, ownA⟩ := valueAt_eq_ok one
    obtain ⟨lowB, ownB⟩ := valueAt_eq_ok two
    obtain ⟨lowC, ownC⟩ := valueAt_eq_ok three
    obtain ⟨lowD, ownD⟩ := valueAt_eq_ok four
    cases done
    rw [encodeSymbols_four lowA lowB lowC lowD, ← ih later, ownA, ownB, ownC, ownD]
  | case2 start =>
    cases h
    rfl
  | case3 start group many none =>
    have short := length_le_four many
    rw [decodeGroups.eq_3 start group many none] at h
    obtain ⟨⟨values, pads⟩, read, finished⟩ := bind_eq_ok.mp h
    obtain ⟨values, more, rfl, rfl, low, own, -⟩ := lastGroup_eq_ok read
    have size : values.length + more ≤ 4 := by
      rw [own] at short
      simpa using short
    have written := finish_eq_ok low (by simpa using size) finished
    rw [own, ← written, Nat.zero_add]

/-- Reading takes nothing but what writing gives. -/
theorem eq_encodeSymbols_of_decodeSymbols (h : decodeSymbols group = .ok out) :
    group = encodeSymbols out := by
  unfold decodeSymbols at h
  split at h
  next empty =>
    cases h
    rw [List.getLast?_eq_none_iff.mp empty]
    rfl
  next =>
    split at h
    next => cases h
    next => exact eq_encodeSymbols_of_decodeGroups h

/-- The trimmed text is all that is read of a text. -/
theorem decode_eq_ok_iff (text : String) :
    decode text = .ok bytes ↔ trimmed text = encode bytes := by
  have same : trimmed text = encode bytes ↔ trimBlank text.toList = (encode bytes).toList := by
    rw [trimmed, ← String.toList_inj, String.toList_ofList]
  rw [same]
  constructor
  · intro read
    have own := eq_encodeSymbols_of_decodeSymbols read
    rw [← utf8_encode] at own
    exact Utf8.encode_injective own
  · intro written
    have read := decode_encode bytes
    rwa [decode, trimBlank_encode, ← written] at read

theorem letterOf_ne_padding : ∀ n < 64, letterOf n ≠ '=' := by
  decide

theorem letterOf_injective : ∀ n < 64, ∀ m < 64, letterOf n = letterOf m → n = m := by
  decide +kernel

theorem isBlank_letterOf : ∀ n < 64, isBlank (letterOf n) = false := by
  decide

/-- Numbers of letters, and how many padding signs fill up the last group of four. Each padding sign
leaves two bits of the last letter unused, and these are not set. -/
structure Canonical (values : List Nat) (pads : Nat) : Prop where
  low : ∀ v ∈ values, v < 64
  few : pads ≤ 2
  whole : (values.length + pads) % 4 = 0
  clear : ∀ last ∈ values.getLast?, last % 4 ^ pads = 0

def spell (values : List Nat) (pads : Nat) : List Char :=
  values.map letterOf ++ List.replicate pads '='

theorem canonical_cons (values : List Nat) :
    Canonical (a :: b :: c :: d :: values) pads ↔
      (a < 64 ∧ b < 64 ∧ c < 64 ∧ d < 64) ∧ Canonical values pads := by
  cases values with
  | nil =>
    constructor
    · rintro ⟨low, few, whole, -⟩
      simp only [List.forall_mem_cons] at low
      simp only [List.length_cons, List.length_nil] at whole
      exact ⟨⟨low.1, low.2.1, low.2.2.1, low.2.2.2.1⟩, nofun, few, by simp; omega, nofun⟩
    · rintro ⟨⟨ha, hb, hc, hd⟩, -, few, whole, -⟩
      obtain rfl : pads = 0 := by
        simp only [List.length_nil] at whole
        omega
      refine ⟨?_, few, by simp, fun last _ => by simp [Nat.mod_one]⟩
      simp only [List.forall_mem_cons]
      exact ⟨ha, hb, hc, hd, nofun⟩
  | cons v rest =>
    have last : (a :: b :: c :: d :: v :: rest).getLast? = (v :: rest).getLast? := by
      simp only [List.getLast?_cons_cons]
    have size : ((a :: b :: c :: d :: v :: rest).length + pads) % 4 =
        ((v :: rest).length + pads) % 4 := by
      simp only [List.length_cons]
      omega
    constructor
    · rintro ⟨low, few, whole, clear⟩
      have all := low
      simp only [List.forall_mem_cons] at all
      exact ⟨⟨all.1, all.2.1, all.2.2.1, all.2.2.2.1⟩,
        fun w mem => low w (List.mem_append_right [a, b, c, d] mem), few, size ▸ whole,
        last ▸ clear⟩
    · rintro ⟨⟨ha, hb, hc, hd⟩, low, few, whole, clear⟩
      refine ⟨?_, few, size ▸ whole, last ▸ clear⟩
      exact List.forall_mem_cons.mpr ⟨ha, List.forall_mem_cons.mpr ⟨hb, List.forall_mem_cons.mpr
        ⟨hc, List.forall_mem_cons.mpr ⟨hd, low⟩⟩⟩⟩

theorem exists_canonical (bytes : Bytes) :
    ∃ values pads, Canonical values pads ∧ (encode bytes).toList = spell values pads := by
  induction bytes using encodeSymbols.induct with
  | case1 => exact ⟨[], 0, ⟨by simp, by omega, rfl, by simp⟩, rfl⟩
  | case2 a =>
    have := a.toNat_lt
    refine ⟨[a.toNat / 4, a.toNat % 4 * 16], 2, ⟨?_, by omega, by simp, ?_⟩, ?_⟩
    · simp only [List.forall_mem_cons]
      exact ⟨by omega, by omega, by simp⟩
    · intro last own
      obtain rfl : a.toNat % 4 * 16 = last := by simpa using own
      omega
    · rw [toList_encode]
      rfl
  | case3 a b =>
    have := a.toNat_lt
    have := b.toNat_lt
    refine ⟨[a.toNat / 4, a.toNat % 4 * 16 + b.toNat / 16, b.toNat % 16 * 4], 1,
      ⟨?_, by omega, by simp, ?_⟩, ?_⟩
    · simp only [List.forall_mem_cons]
      exact ⟨by omega, by omega, by omega, by simp⟩
    · intro last own
      obtain rfl : b.toNat % 16 * 4 = last := by simpa using own
      omega
    · rw [toList_encode]
      rfl
  | case4 a b c rest ih =>
    have := a.toNat_lt
    have := b.toNat_lt
    have := c.toNat_lt
    obtain ⟨values, pads, canonical, eq⟩ := ih
    refine ⟨a.toNat / 4 :: (a.toNat % 4 * 16 + b.toNat / 16) ::
      (b.toNat % 16 * 4 + c.toNat / 64) :: c.toNat % 64 :: values, pads,
      (canonical_cons values).mpr ⟨⟨by omega, by omega, by omega, by omega⟩, canonical⟩, ?_⟩
    rw [toList_encode] at eq ⊢
    rw [encodeSymbols, List.map_cons, List.map_cons, List.map_cons, List.map_cons, eq]
    rfl

theorem exists_bytes : ∀ {values : List Nat}, Canonical values pads →
    ∃ bytes, (encode bytes).toList = spell values pads
  | [], canonical => by
    have whole := canonical.whole
    have few := canonical.few
    simp only [List.length_nil] at whole
    obtain rfl : pads = 0 := by omega
    exact ⟨[], rfl⟩
  | [a], canonical => by
    have whole := canonical.whole
    have few := canonical.few
    simp only [List.length_cons, List.length_nil] at whole
    omega
  | [a, b], canonical => by
    have whole := canonical.whole
    have few := canonical.few
    simp only [List.length_cons, List.length_nil] at whole
    obtain rfl : pads = 2 := by omega
    have clear : b % 16 = 0 := canonical.clear b rfl
    refine ⟨_, (toList_encode _).trans (congrArg _ (encodeSymbols_two (canonical.low a ?_)
      (canonical.low b ?_) clear))⟩
    all_goals simp
  | [a, b, c], canonical => by
    have whole := canonical.whole
    have few := canonical.few
    simp only [List.length_cons, List.length_nil] at whole
    obtain rfl : pads = 1 := by omega
    have clear : c % 4 = 0 := canonical.clear c rfl
    refine ⟨_, (toList_encode _).trans (congrArg _ (encodeSymbols_three (canonical.low a ?_)
      (canonical.low b ?_) (canonical.low c ?_) clear))⟩
    all_goals simp
  | a :: b :: c :: d :: values, canonical => by
    obtain ⟨⟨ha, hb, hc, hd⟩, later⟩ := (canonical_cons values).mp canonical
    obtain ⟨rest, eq⟩ := exists_bytes later
    have written := congrArg (List.map fun b => Char.ofNat b.toNat)
      (encodeSymbols_four ha hb hc hd rest)
    rw [toList_encode] at eq
    rw [List.map_cons, List.map_cons, List.map_cons, List.map_cons, eq] at written
    exact ⟨_, (toList_encode _).trans written⟩

/-- What can be wrong with a text. White space is foreign too. Padding that is missing or too much
leaves an incomplete group or has something behind it. -/
inductive Flawed (text : List Char) : Prop
  | foreign (c : Char) (mem : c ∈ text) (other : c ≠ '=') (strange : ∀ n < 64, c ≠ letterOf n)
  | incomplete (odd : text.length % 4 ≠ 0)
  | misplaced (front back : List Char) (eq : text = front ++ '=' :: back) (some_ : back ≠ [])
      (more : back ≠ ['='])
  | stray (front : List Char) (n pads : Nat) (low : n < 64)
      (eq : text = front ++ letterOf n :: List.replicate pads '=') (set : n % 4 ^ pads ≠ 0)

theorem foreign_of_blank {x : Char} (blank : isBlank x = true) (mem : x ∈ text) : Flawed text := by
  refine .foreign x mem ?_ fun n low eq => ?_
  · rintro rfl
    cases blank
  · rw [eq, isBlank_letterOf n low] at blank
    cases blank

/-- Behind padding there is only padding. -/
theorem behind_padding {letters front back : List Char} (free : '=' ∉ letters)
    (eq : letters ++ List.replicate pads '=' = front ++ '=' :: back) :
    ∃ more < pads, back = List.replicate more '=' := by
  rcases List.append_eq_append_iff.mp eq with ⟨more, -, rest⟩ | ⟨more, own, rest⟩
  · obtain ⟨size, -, same⟩ := List.append_eq_replicate_iff.mp rest.symm
    refine ⟨back.length, ?_, ?_⟩
    · simp only [List.length_cons] at size
      omega
    · rw [List.length_cons, List.replicate_succ] at same
      exact (List.cons.inj same).2
  · cases more with
    | nil =>
      cases pads with
      | zero => simp at rest
      | succ pads =>
        rw [List.replicate_succ, List.nil_append] at rest
        exact ⟨pads, by omega, (List.cons.inj rest).2⟩
    | cons x more =>
      obtain ⟨rfl, -⟩ := List.cons.inj rest
      exact absurd (by simp [own]) free

/-- The letter in front of the padding is the last one. -/
theorem before_padding {letters front : List Char} {x : Char} {count : Nat} (free : '=' ∉ letters)
    (other : x ≠ '=')
    (eq : letters ++ List.replicate pads '=' = front ++ x :: List.replicate count '=') :
    count = pads ∧ letters = front ++ [x] := by
  rcases List.append_eq_append_iff.mp eq with ⟨more, -, rest⟩ | ⟨more, own, rest⟩
  · have mem : x ∈ List.replicate pads '=' := by simp [rest]
    exact absurd (List.eq_of_mem_replicate mem) other
  · cases more with
    | nil =>
      have mem : x ∈ List.replicate pads '=' := by
        rw [List.nil_append] at rest
        simp [← rest]
      exact absurd (List.eq_of_mem_replicate mem) other
    | cons y more =>
      rw [List.cons_append] at rest
      obtain ⟨rfl, padding⟩ := List.cons.inj rest
      have none : more = [] := by
        refine List.eq_nil_iff_forall_not_mem.mpr fun z mem => free ?_
        have among : z ∈ List.replicate count '=' := by
          rw [padding]
          exact List.mem_append_left _ mem
        rw [own, ← List.eq_of_mem_replicate among]
        simp [mem]
      subst none
      have size := congrArg List.length padding
      simp only [List.nil_append, List.length_replicate] at size
      exact ⟨size, own⟩

theorem not_flawed_spell {values : List Nat} (canonical : Canonical values pads) :
    ¬Flawed (spell values pads) := by
  have letters : '=' ∉ values.map letterOf := by
    intro mem
    obtain ⟨v, among, eq⟩ := List.mem_map.mp mem
    exact letterOf_ne_padding v (canonical.low v among) eq
  intro flawed
  cases flawed with
  | foreign c mem other strange =>
    rcases List.mem_append.mp mem with mem | mem
    · obtain ⟨v, among, rfl⟩ := List.mem_map.mp mem
      exact strange v (canonical.low v among) rfl
    · exact other (List.eq_of_mem_replicate mem)
  | incomplete odd =>
    refine odd ?_
    simpa [spell] using canonical.whole
  | misplaced front back eq some_ more =>
    obtain ⟨count, fewer, rfl⟩ := behind_padding letters eq
    have few := canonical.few
    obtain rfl | rfl : count = 0 ∨ count = 1 := by omega
    · exact some_ rfl
    · exact more rfl
  | stray front n count low eq set =>
    obtain ⟨rfl, own⟩ := before_padding letters (letterOf_ne_padding n low) eq
    have last : (values.map letterOf).getLast? = some (letterOf n) := by simp [own]
    rw [List.getLast?_map, Option.map_eq_some_iff] at last
    obtain ⟨v, last, same⟩ := last
    have small := canonical.low v (List.mem_of_getLast? last)
    obtain rfl := letterOf_injective v small n low same
    exact set (canonical.clear v last)

theorem exists_padding (text : List Char) : ∃ front pads,
    text = front ++ List.replicate pads '=' ∧ front.getLast? ≠ some '=' := by
  induction text using List.reverseRecOn with
  | nil => exact ⟨[], 0, rfl, nofun⟩
  | append_singleton text x ih =>
    by_cases padding : x = '='
    · obtain ⟨front, pads, eq, open_⟩ := ih
      refine ⟨front, pads + 1, ?_, open_⟩
      rw [eq, padding, List.append_assoc, List.replicate_succ']
    · exact ⟨text ++ [x], 0, by simp, by simpa using padding⟩

theorem exists_values {letters : List Char} (known : ∀ x ∈ letters, ∃ n < 64, x = letterOf n) :
    ∃ values : List Nat, (∀ v ∈ values, v < 64) ∧ letters = values.map letterOf := by
  induction letters with
  | nil => exact ⟨[], nofun, rfl⟩
  | cons x rest ih =>
    obtain ⟨n, low, rfl⟩ := known x List.mem_cons_self
    obtain ⟨values, all, rfl⟩ := ih fun y mem => known y (List.mem_cons_of_mem _ mem)
    exact ⟨n :: values, List.forall_mem_cons.mpr ⟨low, all⟩, rfl⟩

/-- A text without flaws is canonical. -/
theorem exists_spelling (sound : ¬Flawed text) :
    ∃ values pads, Canonical values pads ∧ text = spell values pads := by
  obtain ⟨front, pads, rfl, open_⟩ := exists_padding text
  have free : '=' ∉ front := by
    intro mem
    obtain ⟨before, behind, rfl⟩ := List.append_of_mem mem
    have some_ : behind ≠ [] := by
      rintro rfl
      exact open_ (by simp)
    refine sound (.misplaced before (behind ++ List.replicate pads '=') (by simp)
      (by simp [some_]) fun one => ?_)
    have last : behind = ['='] := by
      obtain ⟨y, more, rfl⟩ := List.exists_cons_of_ne_nil some_
      obtain ⟨rfl, none⟩ := List.cons.inj one
      rw [(List.append_eq_nil_iff.mp none).1]
    exact open_ (by simp [last])
  have known : ∀ x ∈ front, ∃ n < 64, x = letterOf n := by
    intro x mem
    by_contra strange
    refine sound (.foreign x (List.mem_append_left _ mem) ?_ fun n low eq => strange ⟨n, low, eq⟩)
    rintro rfl
    exact free mem
  have few : pads ≤ 2 := by
    by_contra many
    obtain ⟨more, rfl⟩ : ∃ more, pads = more + 3 := ⟨pads - 3, by omega⟩
    exact sound (.misplaced front (List.replicate (more + 2) '=')
      (by rw [← List.replicate_succ]) (by simp) (by simp [List.replicate_succ]))
  obtain ⟨values, low, rfl⟩ := exists_values known
  refine ⟨values, pads, ⟨low, few, ?_, ?_⟩, rfl⟩
  · by_contra odd
    exact sound (.incomplete (by simpa using odd))
  · intro last own
    by_contra set
    obtain ⟨rest, rfl⟩ := List.getLast?_eq_some_iff.mp own
    exact sound (.stray (rest.map letterOf) last pads (low last (by simp)) (by simp) set)

end Base64

open Base64 (encode Flawed letterOf)

/-- A body decodes to some bytes exactly if its text, with the white space at both ends taken away,
is what these bytes are written as. So bytes come back as they were, no two texts stand for the same
bytes, and every text with a flaw is refused and no other one. -/
theorem bodies_canonical (text : String) :
    (∀ bytes, decodeBody text = .ok bytes ↔ trimmed text = encode bytes) ∧
    (∀ bytes, decodeBody (encode bytes) = .ok bytes) ∧
    (∀ other bytes, decodeBody text = .ok bytes → decodeBody other = .ok bytes →
      trimmed text = trimmed other) ∧
    ((∃ fault, decodeBody text = .error (.base64 fault)) ↔ Flawed (trimmed text).toList) ∧
    ∀ x ∈ (trimmed text).toList, isBlank x → Flawed (trimmed text).toList := by
  have exact_ (text : String) (bytes : Bytes) :
      decodeBody text = .ok bytes ↔ trimmed text = encode bytes := by
    rw [← Base64.decode_eq_ok_iff, decodeBody]
    cases Base64.decode text <;> simp
  refine ⟨exact_ text, decodeBody_encode, fun other bytes one two => ?_, ?_,
    fun x mem blank => Base64.foreign_of_blank blank mem⟩
  · rw [(exact_ text bytes).mp one, (exact_ other bytes).mp two]
  · have refused : (∃ fault, decodeBody text = .error (.base64 fault)) ↔
        ¬∃ bytes, trimmed text = encode bytes := by
      simp only [← Base64.decode_eq_ok_iff, decodeBody]
      cases Base64.decode text <;> simp
    rw [refused]
    constructor
    · intro unwritten
      by_contra sound
      obtain ⟨values, pads, canonical, eq⟩ := Base64.exists_spelling sound
      obtain ⟨bytes, written⟩ := Base64.exists_bytes canonical
      exact unwritten ⟨bytes, String.toList_inj.mp (eq.trans written.symm)⟩
    · rintro flawed ⟨bytes, written⟩
      obtain ⟨values, pads, canonical, eq⟩ := Base64.exists_canonical bytes
      rw [written, eq] at flawed
      exact Base64.not_flawed_spell canonical flawed

/-- White space around a text does not matter; a bit that no byte uses does. -/
theorem bodies_canonical_two_bytes :
    decodeBody " QUI=\n" = .ok [65, 66] ∧ trimmed " QUI=\n" = trimmed "QUI=" ∧
      ∃ fault, decodeBody "QUJ=" = .error (.base64 fault) := by
  have read : decodeBody " QUI=\n" = .ok [65, 66] := by decide
  have same : decodeBody "QUI=" = .ok [65, 66] := by decide
  refine ⟨read, (bodies_canonical " QUI=\n").2.2.1 "QUI=" [65, 66] read same, ?_⟩
  exact (bodies_canonical "QUJ=").2.2.2.1.mpr
    (.stray ['Q', 'U'] 9 1 (by decide) (by decide) (by decide))

end ClassSwap
