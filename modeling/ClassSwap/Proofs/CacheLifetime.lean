import ClassSwap.Proofs.ClassListing
import ClassSwap.Proofs.ReplyHeeded

namespace ClassSwap

open Channel

namespace Lane

variable {target : Target} {patience : Duration} {id : RequestId} {lane lane' : Lane}
  {e : LaneEvent} {n : Nat}

/-- No call holds the lane, and none waits for it. -/
structure AtRest (lane : Lane) : Prop where
  free : lane.exchange = none
  empty : lane.queue = []

/-- No call with a ticket before this one is under way. -/
structure UnderWayFrom (n : Nat) (lane : Lane) : Prop where
  exchange : ∀ x, lane.exchange = some x → n ≤ x.ticket
  queue : ∀ q ∈ lane.queue, n ≤ q.1
  calls : n ≤ lane.calls

theorem AtRest.underWayFrom (rest : lane.AtRest) : lane.UnderWayFrom lane.calls where
  exchange x held := by simp [rest.free] at held
  queue q mem := by simp [rest.empty] at mem
  calls := Nat.le_refl _

theorem Move.underWayFrom (move : Move target patience id lane e lane')
    (h : lane.UnderWayFrom n) : lane'.UnderWayFrom n where
  exchange y held := by
    rcases move.holder held with ⟨x, hx, same⟩ | ⟨_, _, command, endpoint, first, _, _⟩
    · rw [same.ticket]
      exact h.exchange x hx
    · exact h.queue (y.ticket, .send command y.timeout) (by simp [first])
  queue q mem := by
    rcases move.queue with ⟨_, operation, _, queue⟩ | ⟨_, sub⟩
    · rw [queue] at mem
      rcases List.mem_append.mp mem with old | new
      · exact h.queue q old
      · rw [List.mem_singleton.mp new]
        exact h.calls
    · exact h.queue q (sub.subset mem)
  calls := by
    rw [move.calls]
    exact Nat.le_trans h.calls (Nat.le_add_right _ _)

/-- A call that is over after a move was over before it, or was under way. -/
theorem Move.over_from (move : Move target patience id lane e lane') (h : lane.UnderWayFrom n) :
    ∃ later, lane'.finished = lane.finished ++ later ∧ ∀ f ∈ later, n ≤ f.ticket := by
  rcases move.finished with eq | ⟨f, eq, source⟩
  · exact ⟨[], by rw [eq, List.append_nil], nofun⟩
  · refine ⟨[f], eq, fun g mem => ?_⟩
    rw [List.mem_singleton.mp mem]
    rcases source with ⟨x, held, ticket, _⟩ | ⟨rest, first⟩ | ⟨ticket, _⟩
    · rw [ticket]
      exact h.exchange x held
    · exact h.queue (f.ticket, f.operation) (by simp [first])
    · rw [ticket]
      exact h.calls

theorem InTurn.finished_below (turns : InTurn target lane) {f : Finished}
    (mem : f ∈ lane.finished) : f.ticket < lane.calls := by
  apply turns.below
  rw [Lane.tickets, List.append_assoc]
  exact List.mem_append_left _ (List.mem_map_of_mem mem)

/-- Once the last call that has come in is over, no other one is under way. -/
theorem InTurn.atRest (turns : InTurn target lane) {f : Finished} (mem : f ∈ lane.finished)
    (last : lane.calls = f.ticket + 1) : lane.AtRest := by
  have order := turns.increasing
  have below := turns.below
  simp only [Lane.tickets, List.append_assoc] at order below
  have none_ (k : Nat) (later : k ∈ lane.exchange.toList.map (·.ticket) ++
      lane.queue.map (·.1)) : False := by
    have one := (List.pairwise_append.mp order).2.2 _ (List.mem_map_of_mem mem) k later
    have two := below k (List.mem_append_right _ later)
    omega
  constructor
  · cases held : lane.exchange with
    | none => rfl
    | some x => exact (none_ x.ticket (by simp [held])).elim
  · cases waiting : lane.queue with
    | nil => rfl
    | cons q rest => exact (none_ q.1 (by simp [waiting])).elim

end Lane

namespace Operation

/-- The call can empty the cache. -/
def clearsCache : Operation → Bool
  | attach _ => true
  | send command _ => command.redefines

/-- The call can change what is cached of a class. -/
def touches (c : ClassName) : Operation → Bool
  | send (.fetchBytes text) _ => text == c.text
  | operation => operation.clearsCache

end Operation

namespace Ledger

variable {book : Option Ledger} {c : ClassName} {f : Finished} {calls : List Finished}

def cached? (book : Option Ledger) (c : ClassName) : Option Bytes := book.bind (·.cache c)

theorem enter_untouched (other : f.operation.touches c = false) :
    cached? (enter book f) c = cached? book c := by
  obtain ⟨ticket, operation, outcome⟩ := f
  cases operation with
  | attach => cases other
  | send command timeout =>
    have same (book : Ledger) : (book.note command outcome).cache c = book.cache c := by
      cases outcome with
      | attached => cases command <;> rfl
      | failed e => rw [note_failed_cache]
      | answered reply =>
        cases command with
        | uploadClass | uploadArchive => cases other
        | listClasses | initClass | halt => cases reply <;> rfl
        | fetchBytes text =>
          have apart : c ≠ ⟨text⟩ := by
            rintro rfl
            simp [Operation.touches] at other
          cases reply with
          | bytes fetched => exact Function.update_of_ne apart _ _
          | classes | ack | halted => rfl
    simp only [cached?, enter]
    cases book with
    | none => rfl
    | some book => exact same book

/-- What is cached stays cached until a call clears the cache. -/
theorem enter_cached (kept : f.operation.clearsCache = false)
    (hit : (cached? book c).isSome = true) : (cached? (enter book f) c).isSome = true := by
  by_cases own : f.operation.touches c = true
  · obtain ⟨ticket, operation, outcome⟩ := f
    cases operation with
    | attach => cases kept
    | send command timeout =>
      cases command with
      | uploadClass | uploadArchive => cases kept
      | listClasses | initClass | halt => cases own
      | fetchBytes text =>
        obtain rfl : text = c.text := by simpa [Operation.touches] using own
        obtain ⟨_, found⟩ := Option.isSome_iff_exists.mp hit
        obtain ⟨book, rfl, cached⟩ := Option.bind_eq_some_iff.mp found
        have stays : ((book.note (.fetchBytes c.text) outcome).cache c).isSome = true := by
          match outcome with
          | .attached | .answered (.classes _) | .answered (.ack _) | .answered .halted =>
            exact Option.isSome_iff_exists.mpr ⟨_, cached⟩
          | .failed e =>
            rw [note_failed_cache]
            exact Option.isSome_iff_exists.mpr ⟨_, cached⟩
          | .answered (.bytes fetched) => simp [note, confirm]
        exact stays
  · rw [enter_untouched (Bool.eq_false_iff.mpr own)]
    exact hit

theorem foldl_untouched (other : ∀ f ∈ calls, f.operation.touches c = false) :
    cached? (calls.foldl enter book) c = cached? book c := by
  induction calls generalizing book with
  | nil => rfl
  | cons f rest ih =>
    rw [List.foldl_cons, ih fun g mem => other g (List.mem_cons_of_mem f mem),
      enter_untouched (other f List.mem_cons_self)]

theorem foldl_cached (kept : ∀ f ∈ calls, f.operation.clearsCache = false)
    (hit : (cached? book c).isSome = true) :
    (cached? (calls.foldl enter book) c).isSome = true := by
  induction calls generalizing book with
  | nil => exact hit
  | cons f rest ih =>
    exact ih (fun g mem => kept g (List.mem_cons_of_mem f mem))
      (enter_cached (kept f List.mem_cons_self) hit)

end Ledger

namespace Channel

variable {patience : Duration} {t : Target} {events more : History} {c : ClassName}

theorem cached_eq_ledger (patience : Duration) (t : Target) (events : History) (c : ClassName) :
    ((after patience events).standing t).cached? c =
      Ledger.cached? ((overOn patience t events).foldl Ledger.enter none) c := by
  have agrees := agrees_ofStatus ((after patience events).standing t)
  rw [agrees.cached, ledger_ofStatus]
  rfl

/-- No call on the target is under way. -/
abbrev RestsOn (patience : Duration) (t : Target) (events : History) : Prop :=
  ((after patience events).lane t).AtRest

theorem calls_eq (patience : Duration) (t : Target) (events : History) :
    ((after patience events).lane t).calls = (callsOn t events).length :=
  (accounted patience t events).count

/-- Calls that are over since a rest have come in since then. -/
theorem over_since (rest : RestsOn patience t events) (more : History) :
    ∃ later, overOn patience t (events ++ more) = overOn patience t events ++ later ∧
      ∀ f ∈ later, (callsOn t events).length ≤ f.ticket ∧ f.operation ∈ callsOn t more := by
  have start := rest.underWayFrom
  rw [calls_eq] at start
  obtain ⟨-, later, eq, since⟩ := lane_induction_from
    (P := fun _ lane => lane.UnderWayFrom (callsOn t events).length ∧
      ∃ later, lane.finished = overOn patience t events ++ later ∧
        ∀ f ∈ later, (callsOn t events).length ≤ f.ticket)
    events ⟨start, [], by rw [List.append_nil], nofun⟩ (fun _ _ _ h => h)
    (fun _ _ _ ⟨h, later, eq, since⟩ move _ => by
      obtain ⟨new, eq', since'⟩ := move.over_from h
      refine ⟨move.underWayFrom h, later ++ new, by rw [eq', eq, List.append_assoc], ?_⟩
      exact fun f mem => (List.mem_append.mp mem).elim (since f) (since' f)) more
  refine ⟨later, eq, fun f mem => ⟨since f mem, ?_⟩⟩
  have call := (accounted patience t (events ++ more)).finished f
    (by rw [eq]; exact List.mem_append_right _ mem)
  rw [callsOn_append, List.getElem?_append_right (since f mem)] at call
  exact List.mem_of_getElem? call

/-- What is cached of a class is changed by calls only that have come in since a rest. -/
theorem cached_untouched (rest : RestsOn patience t events)
    (others : ∀ operation ∈ callsOn t more, operation.touches c = false) :
    ((after patience (events ++ more)).standing t).cached? c =
      ((after patience events).standing t).cached? c := by
  obtain ⟨later, eq, since⟩ := over_since rest more
  rw [cached_eq_ledger, cached_eq_ledger, eq, List.foldl_append]
  exact Ledger.foldl_untouched fun f mem => others _ (since f mem).2

theorem cached_stays (rest : RestsOn patience t events)
    (harmless : ∀ operation ∈ callsOn t more, operation.clearsCache = false)
    (hit : (((after patience events).standing t).cached? c).isSome = true) :
    (((after patience (events ++ more)).standing t).cached? c).isSome = true := by
  obtain ⟨later, eq, since⟩ := over_since rest more
  rw [cached_eq_ledger] at hit ⊢
  rw [eq, List.foldl_append]
  exact Ledger.foldl_cached (fun f mem => harmless _ (since f mem).2) hit

theorem callsOn_single (operation : Operation) (alone : callsOn t more = []) :
    callsOn t ((t, .call operation) :: more) = [operation] := by
  simpa [callsOn] using alone

theorem callsOn_own (events : History) (operation : Operation) (alone : callsOn t more = []) :
    callsOn t (events ++ (t, .call operation) :: more) = callsOn t events ++ [operation] := by
  rw [callsOn_append, callsOn_single operation alone]

/-- A call that comes after all that are over counts as lost. -/
theorem outcomeOf_of_lt {lane : Lane} {k : Nat} (before : ∀ f ∈ lane.finished, f.ticket < k) :
    outcomeOf lane k = .failed .connectionClosed := by
  have none_ : lane.finished.find? (·.ticket = k) = none := by
    refine List.find?_eq_none.mpr fun f mem => ?_
    have bound := before f mem
    simp only [decide_eq_true_eq]
    omega
  simp only [outcomeOf, none_]

/-- Tickets rise, so no two calls that are over have the same. -/
theorem eq_nil_of_same_ticket {front others : List Finished} {f : Finished}
    (split : overOn patience t events = front ++ f :: others)
    (same : ∀ g ∈ others, g.ticket = f.ticket) : others = [] := by
  cases others with
  | nil => rfl
  | cons g rest =>
    have split' : overOn patience t events = (front ++ [f]) ++ g :: rest := by
      rw [List.append_assoc]
      exact split
    have order : f.ticket < g.ticket := ticket_lt_of_earlier split' (by simp)
    have equal := same g List.mem_cons_self
    omega

/-- A call that comes in at a rest, with no other one after it, is over or counts as lost; if it is
over, the target rests again. -/
theorem call_over (rest : RestsOn patience t events) (operation : Operation)
    (alone : callsOn t more = []) :
    let later := events ++ (t, .call operation) :: more
    let outcome := outcomeOf ((after patience later).lane t) (callsOn t events).length
    (overOn patience t later = overOn patience t events ∧ outcome = .failed .connectionClosed) ∨
      overOn patience t later =
        overOn patience t events ++ [⟨(callsOn t events).length, operation, outcome⟩] ∧
      RestsOn patience t later := by
  intro later outcome
  have turns := inTurn patience t later
  have calls : ((after patience later).lane t).calls = (callsOn t events).length + 1 := by
    rw [calls_eq, callsOn_own events operation alone, List.length_append]
    rfl
  obtain ⟨new, eq, since⟩ : ∃ new, overOn patience t later = overOn patience t events ++ new ∧
      ∀ f ∈ new, (callsOn t events).length ≤ f.ticket ∧
        f.operation ∈ callsOn t ((t, .call operation) :: more) := over_since rest _
  have own (f : Finished) (mem : f ∈ new) :
      f.ticket = (callsOn t events).length ∧ f.operation = operation := by
    obtain ⟨from_, among⟩ := since f mem
    have bound := turns.finished_below (f := f) (show f ∈ overOn patience t later by simp [eq, mem])
    rw [callsOn_single operation alone] at among
    exact ⟨by omega, List.mem_singleton.mp among⟩
  cases new with
  | nil =>
    left
    rw [List.append_nil] at eq
    refine ⟨eq, outcomeOf_of_lt fun f mem => ?_⟩
    have old : f ∈ overOn patience t events := by
      rw [← eq]
      exact mem
    have bound := (inTurn patience t events).finished_below old
    rwa [calls_eq] at bound
  | cons f others =>
    right
    obtain ⟨ticket, operation_⟩ := own f List.mem_cons_self
    have mem : f ∈ overOn patience t later := by simp [eq]
    have single : others = [] := eq_nil_of_same_ticket eq fun g among => by
      rw [(own g (List.mem_cons_of_mem f among)).1, ticket]
    have outcome_ : f.outcome = outcome := by
      rw [← outcomeOf_of_mem turns mem, ticket]
    refine ⟨?_, turns.atRest mem (by rw [calls, ticket])⟩
    rw [eq, single, ← ticket, ← operation_, ← outcome_]

abbrev fetching (timeout : Duration) (c : ClassName) : Operation :=
  .send (.fetchBytes c.text) timeout

/-- What a class is resolved to by what the call for it has come to. -/
def foundBy (c : ClassName) : Outcome → Except ProviderError Bytes
  | .answered (.bytes fetched) => .ok fetched.bytes
  | .failed (.agent ..) => .error (.notFound c)
  | .failed e => .error (.transport c e)
  | _ => .error (.transport c (.protocolMismatch "unexpected reply to fetch_bytes"))

/-- Resolving a class costs nothing if its bytes are cached, and one call otherwise, which decides
what it comes to. -/
inductive Resolves (patience : Duration) (timeout : Duration) (t : Target) (events : History)
    (c : ClassName) : Except ProviderError Bytes → History → Prop
  | known {bytes : Bytes} (hit : ((after patience events).standing t).cached? c = some bytes) :
      Resolves patience timeout t events c (.ok bytes) events
  | asked (miss : ((after patience events).standing t).cached? c = none) {more : History}
      (alone : callsOn t more = []) :
      Resolves patience timeout t events c
        (foundBy c (outcomeOf
          ((after patience (events ++ (t, .call (fetching timeout c)) :: more)).lane t)
          (callsOn t events).length))
        (events ++ (t, .call (fetching timeout c)) :: more)

/-- A plan by which nobody else makes calls on the target. -/
def Alone (t : Target) (plan : Target → Operation → History → History) : Prop :=
  ∀ operation events, callsOn t (plan t operation events) = []

theorem provider_known {σ : Type} (link : Link σ) {s : σ} {bytes : Bytes}
    (hit : (link.standing s t).cached? c = some bytes) :
    ((link.provider t).resolve c s).state = s ∧
      ((link.provider t).resolve c s).result = .ok bytes := by
  simp only [Link.provider, hit, and_self]

theorem provider_unknown {σ : Type} (link : Link σ) {s : σ}
    (miss : (link.standing s t).cached? c = none) :
    ((link.provider t).resolve c s).state = (link.call t (fetching link.timeout c) s).1 ∧
      ((link.provider t).resolve c s).result =
        foundBy c (link.call t (fetching link.timeout c) s).2.1 := by
  rcases call : link.call t (fetching link.timeout c) s with ⟨later, outcome, events⟩
  simp only [Link.provider, miss, Link.fetchBytes, Link.request, call]
  cases outcome with
  | attached => exact ⟨rfl, rfl⟩
  | answered reply => cases reply <;> exact ⟨rfl, rfl⟩
  | failed e => cases e <;> exact ⟨rfl, rfl⟩

theorem resolves {plan : Target → Operation → History → History} {timeout : Duration}
    {result : Except ProviderError Bytes} (alone : Alone t plan)
    (found : (((link patience plan timeout).provider t).resolve c events).result = result) :
    Resolves patience timeout t events c result
      (((link patience plan timeout).provider t).resolve c events).state := by
  subst found
  cases hit : ((after patience events).standing t).cached? c with
  | some bytes =>
    obtain ⟨state, result⟩ := provider_known (link patience plan timeout) hit
    rw [state, result]
    exact .known hit
  | none =>
    obtain ⟨state, result⟩ := provider_unknown (link patience plan timeout) hit
    rw [state, result]
    exact .asked hit (alone _ _)

theorem outcomeOf_append {f : Finished} (mem : f ∈ overOn patience t events) (more : History) :
    outcomeOf ((after patience (events ++ more)).lane t) f.ticket =
      outcomeOf ((after patience events).lane t) f.ticket := by
  rw [outcomeOf_of_mem (inTurn patience t events) mem,
    outcomeOf_of_mem (inTurn patience t (events ++ more)) (finished_append more mem)]

namespace Resolves

variable {timeout : Duration} {result : Except ProviderError Bytes} {later : History}
  {bytes : Bytes}

theorem append (h : Resolves patience timeout t events c result later) :
    ∃ more, later = events ++ more ∧
      ∀ operation ∈ callsOn t more, operation = fetching timeout c := by
  cases h with
  | known => exact ⟨[], by rw [List.append_nil], by simp [callsOn]⟩
  | @asked _ more alone =>
    refine ⟨_, rfl, fun operation mem => ?_⟩
    rw [callsOn_single _ alone] at mem
    exact List.mem_singleton.mp mem

/-- What is cached of other classes stays as it is. -/
theorem others (h : Resolves patience timeout t events c result later)
    (rest : RestsOn patience t events) {d : ClassName} (other : d ≠ c) :
    ((after patience later).standing t).cached? d =
      ((after patience events).standing t).cached? d := by
  obtain ⟨more, rfl, calls⟩ := h.append
  refine cached_untouched rest fun operation mem => ?_
  rw [calls operation mem, fetching, Operation.touches, beq_eq_false_iff_ne]
  exact fun same => other (congrArg ClassName.mk same).symm

theorem rests (h : Resolves patience timeout t events c result later)
    (rest : RestsOn patience t events) (goes : ∀ e, result ≠ .error (.transport c e)) :
    RestsOn patience t later := by
  cases h with
  | known => exact rest
  | asked miss alone =>
    rcases call_over rest (fetching timeout c) alone with ⟨-, lost⟩ | ⟨-, rests⟩
    · rw [lost] at goes
      exact absurd rfl (goes .connectionClosed)
    · exact rests

theorem foundBy_eq_ok {outcome : Outcome} (found : foundBy c outcome = .ok bytes) :
    ∃ fetched, outcome = .answered (.bytes fetched) ∧ fetched.bytes = bytes := by
  unfold foundBy at found
  split at found
  next fetched => exact ⟨fetched, rfl, Except.ok.inj found⟩
  all_goals cases found

theorem cached (h : Resolves patience timeout t events c (.ok bytes) later)
    (rest : RestsOn patience t events) (known : (after patience events).ledger t ≠ none) :
    ((after patience later).standing t).cached? c = some bytes := by
  generalize result_ : Except.ok bytes = result at h
  cases h with
  | known hit =>
    cases result_
    exact hit
  | @asked miss more alone =>
    obtain ⟨fetched, outcome, rfl⟩ := foundBy_eq_ok result_.symm
    rcases call_over rest (fetching timeout c) alone with ⟨-, lost⟩ | ⟨ended, -⟩
    · rw [outcome] at lost
      cases lost
    · rw [outcome] at ended
      obtain ⟨book, book_⟩ : ∃ book,
          (overOn patience t events).foldl Ledger.enter none = some book :=
        Option.ne_none_iff_exists'.mp known
      rw [cached_eq_ledger, ended, List.foldl_append, book_]
      simp [Ledger.cached?, Ledger.enter, Ledger.note, Ledger.confirm]

/-- What the call for a class has come to stands, unless the call has failed. -/
theorem stands (h : Resolves patience timeout t events c result later)
    (rest : RestsOn patience t events) (goes : ∀ e, result ≠ .error (.transport c e))
    (miss : ((after patience events).standing t).cached? c = none) (more : History) :
    outcomeOf ((after patience (later ++ more)).lane t) (callsOn t events).length =
      outcomeOf ((after patience later).lane t) (callsOn t events).length := by
  cases h with
  | known hit =>
    rw [miss] at hit
    cases hit
  | asked miss alone =>
    rcases call_over rest (fetching timeout c) alone with ⟨-, lost⟩ | ⟨ended, -⟩
    · rw [lost] at goes
      exact absurd rfl (goes .connectionClosed)
    · exact outcomeOf_append (by rw [ended]; exact List.mem_concat_self) more

theorem ledger (h : Resolves patience timeout t events c result later)
    (known : (after patience events).ledger t ≠ none) : (after patience later).ledger t ≠ none := by
  obtain ⟨more, rfl, -⟩ := h.append
  exact ledger_append known more

end Resolves

/-- A class is not found exactly if its caller has found a response that refuses its bytes or has
none. -/
theorem not_found_iff {k : Nat} {timeout : Duration}
    (call : (callsOn t events)[k]? = some (fetching timeout c)) :
    foundBy c (outcomeOf ((after patience events).lane t) k) = .error (.notFound c) ↔
      ∃ q r, Heeded patience t events k q r ∧ Reply.Refuses c.text r := by
  have refusal (outcome : Outcome) : foundBy c outcome = .error (.notFound c) ↔
      ∃ action text, outcome = .failed (.agent action text) := by
    unfold foundBy
    split <;> simp_all
  have verdict (r : Response) (action : Action) (text : String) :
      Reply.outcome (.fetchBytes c.text) r = .failed (.agent action text) ↔
        Reply.judge (.fetchBytes c.text) r = .error (.agent action text) := by
    unfold Reply.outcome
    split <;> simp_all
  have decides (action : Action) (text : String) :
      (Outcome.failed (.agent action text)).IsVerdict := trivial
  rw [refusal]
  constructor
  · rintro ⟨action, text, outcome⟩
    obtain ⟨q, r, heeded, -, comes⟩ :=
      (outcomeOf_eq_verdict call nofun (decides action text)).mp outcome
    exact ⟨q, r, heeded, Reply.judge_fetch_agent_iff.mp ⟨_, _, (verdict r _ _).mp comes⟩⟩
  · rintro ⟨q, r, heeded, refuses⟩
    obtain ⟨action, text, judged⟩ := Reply.judge_fetch_agent_iff.mpr refuses
    have command := heeded.command call
    exact ⟨action, text, (outcomeOf_eq_verdict call nofun (decides action text)).mpr
      ⟨q, r, heeded, command, (verdict r _ _).mpr judged⟩⟩

/-- Between two moments after a rest, classes of these are asked for, each once at most, of which
nothing was cached at the rest. Nobody clears the cache. -/
structure AsksAnew (patience timeout : Duration) (t : Target) (start events later : History)
    (wanted : List ClassName) : Prop where
  harmless : ∃ more, later = start ++ more ∧
    ∀ operation ∈ callsOn t more, operation.clearsCache = false
  asked : ∃ anew : List ClassName, anew.Sublist wanted ∧
    callsOn t later = callsOn t events ++ anew.map (fetching timeout) ∧
    ∀ c ∈ anew, ((after patience start).standing t).cached? c = none

namespace AsksAnew

variable {timeout : Duration} {start later last : History} {wanted others : List ClassName}

theorem refl (harmless : ∀ operation ∈ callsOn t more, operation.clearsCache = false) :
    AsksAnew patience timeout t start (start ++ more) (start ++ more) [] :=
  ⟨⟨more, rfl, harmless⟩, [], List.Sublist.refl _, by simp, nofun⟩

theorem trans (first : AsksAnew patience timeout t start events later wanted)
    (second : AsksAnew patience timeout t start later last others) :
    AsksAnew patience timeout t start events last (wanted ++ others) := by
  obtain ⟨anew, among, calls, none_⟩ := first.asked
  obtain ⟨anew', among', calls', none'⟩ := second.asked
  refine ⟨second.harmless, anew ++ anew', among.append among', ?_, fun c mem => ?_⟩
  · rw [calls', calls, List.map_append, List.append_assoc]
  · exact (List.mem_append.mp mem).elim (none_ c) (none' c)

theorem mono (h : AsksAnew patience timeout t start events later wanted)
    (fewer : wanted.Sublist others) : AsksAnew patience timeout t start events later others := by
  obtain ⟨anew, among, rest⟩ := h.asked
  exact ⟨h.harmless, anew, among.trans fewer, rest⟩

end AsksAnew

theorem Resolves.asksAnew {timeout : Duration} {start later : History}
    {result : Except ProviderError Bytes}
    (h : Resolves patience timeout t events c result later) (rest : RestsOn patience t start)
    (since : ∃ more, events = start ++ more ∧
      ∀ operation ∈ callsOn t more, operation.clearsCache = false) :
    AsksAnew patience timeout t start events later [c] := by
  obtain ⟨more, rfl, harmless⟩ := since
  cases h with
  | known => exact (AsksAnew.refl harmless).mono (List.nil_sublist _)
  | @asked miss next alone =>
    refine ⟨⟨more ++ (t, .call (fetching timeout c)) :: next, by simp, fun operation mem => ?_⟩,
      [c], List.Sublist.refl _, callsOn_own _ _ alone, fun d mem => ?_⟩
    · rw [callsOn_append, callsOn_single _ alone] at mem
      rcases List.mem_append.mp mem with old | new
      · exact harmless operation old
      · rw [List.mem_singleton.mp new]
        rfl
    · rw [List.mem_singleton.mp mem]
      by_contra hit
      have stays := cached_stays rest harmless (Option.isSome_iff_ne_none.mpr hit)
      rw [miss] at stays
      cases stays

end Channel

end ClassSwap
