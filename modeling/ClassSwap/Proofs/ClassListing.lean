import ClassSwap.Proofs.CompilerReach
import Mathlib.Data.List.DropRight

namespace ClassSwap

open Channel

namespace Finished

def isApplied (f : Finished) : Bool :=
  match f.operation, f.outcome with
  | .send .listClasses _, .answered (.classes _) => true
  | .send (.fetchBytes _) _, .answered (.bytes _) => true
  | .send (.uploadClass ..) _, .answered (.ack _) => true
  | .send (.uploadArchive ..) _, .answered (.ack _) => true
  | .send (.initClass _) _, .answered (.ack _) => true
  | _, _ => false

/-- The classes that a call has listed. -/
def listing? (f : Finished) : Option (List ClassEntry) :=
  match f.operation, f.outcome with
  | .send .listClasses _, .answered (.classes entries) => some entries
  | _, _ => none

theorem isApplied_of_listing {f : Finished} {entries : List ClassEntry}
    (listed : f.listing? = some entries) : f.isApplied = true := by
  unfold listing? at listed
  split at listed
  next operation outcome => simp [isApplied, operation, outcome]
  next => cases listed

end Finished

/-- The calls that were over after the latest attach. -/
def sinceAttach (calls : List Finished) : List Finished :=
  calls.rtakeWhile fun f => f.attachedTo?.isNone

/-- What the agent has listed last since the latest attach. -/
def lastListing (calls : List Finished) : Option (List ClassEntry) :=
  ((sinceAttach calls).filterMap Finished.listing?).getLast?

theorem sinceAttach_attach {f : Finished} {endpoint : Endpoint} (calls : List Finished)
    (attach : f.attachedTo? = some endpoint) : sinceAttach (calls ++ [f]) = [] :=
  List.rtakeWhile_concat_neg _ _ _ (by simp [attach])

theorem sinceAttach_concat {f : Finished} (calls : List Finished) (other : f.attachedTo? = none) :
    sinceAttach (calls ++ [f]) = sinceAttach calls ++ [f] :=
  List.rtakeWhile_concat_pos _ _ _ (by simp [other])

/-- A call after which no attach is over is one of those since the latest attach. -/
theorem mem_sinceAttach {earlier later : List Finished} {f : Finished}
    (none : ∀ g ∈ f :: later, g.attachedTo? = none) : f ∈ sinceAttach (earlier ++ f :: later) := by
  have passed : ∀ g ∈ (f :: later).reverse, g.attachedTo?.isNone = true := by
    intro g mem
    simp [none g (List.mem_reverse.mp mem)]
  simp only [sinceAttach, List.rtakeWhile, List.reverse_append]
  rw [List.takeWhile_append_of_pos passed]
  simp

theorem lastListing_concat {f : Finished} (calls : List Finished) (other : f.attachedTo? = none) :
    lastListing (calls ++ [f]) = f.listing?.or (lastListing calls) := by
  rw [lastListing, sinceAttach_concat calls other, List.filterMap_append]
  cases listed : f.listing? <;> simp [listed, lastListing]

namespace Ledger

theorem note_since (book : Ledger) (ticket : Nat) (command : Command) (timeout : Duration)
    (outcome : Outcome) :
    let f : Finished := ⟨ticket, .send command timeout, outcome⟩
    (book.note command outcome).generation = book.generation + [f].countP Finished.isApplied ∧
      (book.note command outcome).classes = f.listing?.getD book.classes := by
  match outcome with
  | .attached => cases command <;> exact ⟨rfl, rfl⟩
  | .failed e => cases command <;> cases e <;> exact ⟨rfl, rfl⟩
  | .answered reply => cases command <;> cases reply <;> exact ⟨rfl, rfl⟩

/-- The book on an attached target counts the replies applied since the latest attach, and has the
classes that were listed last since then. -/
theorem foldl_since {book : Ledger} (calls : List Finished)
    (known : calls.foldl enter none = some book) :
    book.generation = (sinceAttach calls).countP Finished.isApplied ∧
      book.classes = (lastListing calls).getD [] := by
  induction calls using List.reverseRecOn generalizing book with
  | nil => cases known
  | append_singleton calls f ih =>
    rw [List.foldl_append] at known
    change enter (calls.foldl enter none) f = some book at known
    obtain ⟨ticket, operation, outcome⟩ := f
    cases operation with
    | attach endpoint =>
      cases outcome with
      | attached =>
        cases known
        rw [lastListing, sinceAttach_attach calls rfl]
        exact ⟨rfl, rfl⟩
      | answered | failed =>
        obtain ⟨generation, classes⟩ := ih known
        rw [lastListing_concat calls rfl, sinceAttach_concat calls rfl, List.countP_append,
          generation, classes]
        exact ⟨rfl, rfl⟩
    | send command timeout =>
      obtain ⟨earlier, before, rfl⟩ := Option.map_eq_some_iff.mp known
      obtain ⟨generation, classes⟩ := ih before
      obtain ⟨counts, lists⟩ := note_since earlier ticket command timeout outcome
      rw [lastListing_concat calls rfl, sinceAttach_concat calls rfl, List.countP_append, counts,
        lists, generation, classes]
      refine ⟨rfl, ?_⟩
      cases Finished.listing? _ <;> rfl

theorem foldl_ne_none {book : Option Ledger} (known : book ≠ none) (calls : List Finished) :
    calls.foldl enter book ≠ none := by
  induction calls generalizing book with
  | nil => exact known
  | cons f rest ih =>
    refine ih ?_
    obtain ⟨ticket, operation, outcome⟩ := f
    cases operation with
    | attach => cases outcome <;> simp [enter, known]
    | send => simpa [enter] using known

end Ledger

namespace Lane

variable {target : Target} {patience : Duration} {id : RequestId} {lane lane' : Lane}
  {e : LaneEvent}

theorem Move.finished_prefix (move : Move target patience id lane e lane') :
    lane.finished <+: lane'.finished := by
  rcases move.finished with eq | ⟨f, eq, _⟩
  · exact eq ▸ List.prefix_rfl
  · exact eq ▸ List.prefix_append _ _

end Lane

namespace Channel

variable {patience : Duration} {t : Target} {events : History}

abbrev overOn (patience : Duration) (t : Target) (events : History) : List Finished :=
  ((after patience events).lane t).finished

theorem over_prefix (more : History) :
    overOn patience t events <+: overOn patience t (events ++ more) :=
  lane_induction_from (P := fun _ lane => overOn patience t events <+: lane.finished) events
    List.prefix_rfl (fun _ _ _ h => h) (fun _ _ _ h move _ => h.trans move.finished_prefix) more

theorem ledger_append (known : (after patience events).ledger t ≠ none) (more : History) :
    (after patience (events ++ more)).ledger t ≠ none := by
  obtain ⟨later, eq⟩ : overOn patience t events <+: overOn patience t (events ++ more) :=
    over_prefix more
  show (overOn patience t (events ++ more)).foldl Ledger.enter none ≠ none
  rw [← eq, List.foldl_append]
  exact Ledger.foldl_ne_none known later

theorem ledger_of_attached
    (attached : ((after patience events).standing t).isAttached = true) :
    (after patience events).ledger t ≠ none := by
  have agrees := agrees_ofStatus ((after patience events).standing t)
  rw [ledger_ofStatus] at agrees
  intro unknown
  rw [agrees.attached, unknown] at attached
  cases attached

/-- What is known of a target follows from the calls that are over since the latest attach. -/
theorem standing_since (known : (after patience events).ledger t ≠ none) :
    ((after patience events).standing t).generation =
        (sinceAttach (overOn patience t events)).countP Finished.isApplied ∧
      ((after patience events).standing t).loadedNames =
        ((lastListing (overOn patience t events)).getD []).map (⟨·.name⟩) := by
  have agrees := agrees_ofStatus ((after patience events).standing t)
  rw [ledger_ofStatus] at agrees
  obtain ⟨book, book_eq⟩ := Option.ne_none_iff_exists'.mp known
  obtain ⟨generation, classes⟩ := Ledger.foldl_since (overOn patience t events) book_eq
  rw [agrees.generation, agrees.names, book_eq, ← generation, ← classes]
  exact ⟨rfl, rfl⟩

theorem lastListing_eq_some_iff {calls : List Finished} :
    (∃ entries, lastListing calls = some entries) ↔
      ∃ f ∈ sinceAttach calls, f.listing?.isSome = true := by
  rw [← Option.isSome_iff_exists, lastListing, List.getLast?_isSome]
  simp [Option.isSome_iff_ne_none]

theorem lastListing_of_unapplied {calls : List Finished}
    (unapplied : ∀ f ∈ sinceAttach calls, f.isApplied = false) : lastListing calls = none := by
  rw [← Option.not_isSome_iff_eq_none, Option.isSome_iff_exists, lastListing_eq_some_iff]
  rintro ⟨f, mem, listed⟩
  obtain ⟨entries, listed⟩ := Option.isSome_iff_exists.mp listed
  exact Bool.false_ne_true ((unapplied f mem).symm.trans (Finished.isApplied_of_listing listed))

/-- The listing that a call asks for comes in in time, and nobody attaches the target anew
meanwhile. -/
structure ListedInTime (patience : Duration) (t : Target) (events : History) (k : Nat) : Prop where
  answered : ∃ q r entries, InTime patience t events k q r ∧ r.action = .listClasses ∧
    r.status = .ok ∧ r.classes = some entries
  last : ∀ f ∈ overOn patience t events, f.attachedTo?.isSome = true → f.ticket < k

theorem ListedInTime.listing {k : Nat} {timeout : Duration}
    (h : ListedInTime patience t events k)
    (call : (callsOn t events)[k]? = some (.send .listClasses timeout)) :
    ∃ f ∈ sinceAttach (overOn patience t events), f.listing?.isSome = true := by
  obtain ⟨q, r, entries, inTime, action, status, classes⟩ := h.answered
  obtain ⟨_, same⟩ := inTime.call
  rw [call] at same
  have asked : q.command = .listClasses := by
    injection same with same
    injection same with same
    exact same.symm
  obtain ⟨f, mem, ticket, outcome⟩ := response_decides (by simp [asked]) inTime
  have verdict := Reply.judge_eq_ok_iff.mpr
    (⟨action, status, entries, classes, rfl⟩ : r.action = Command.listClasses.action ∧
      r.status = .ok ∧ Reply.Answers r (.classes entries) .listClasses)
  rw [asked, Reply.outcome, verdict] at outcome
  have operation := (accounted patience t events).finished f mem
  rw [ticket, call] at operation
  refine ⟨f, ?_, by simp [Finished.listing?, ← Option.some.inj operation, outcome]⟩
  obtain ⟨earlier, later, split⟩ := List.append_of_mem mem
  rw [overOn, split]
  refine mem_sinceAttach fun g mem' => ?_
  by_contra attach
  have bound := h.last g (by rw [overOn, split]; exact List.mem_append_right _ mem')
    (Option.isSome_iff_ne_none.mpr attach)
  rcases List.mem_cons.mp mem' with rfl | mem'
  · omega
  · obtain ⟨between, rest, rfl⟩ := List.append_of_mem mem'
    rw [← List.cons_append, ← List.append_assoc] at split
    have order := ticket_lt_of_earlier split (f := f) (by simp)
    omega

section Listing

variable {plan : Target → Operation → History → History} {timeout : Duration}
  {s : Session History} {site : Site History}

theorem ensureListing_asking (needs : (session s patience plan timeout).needsListing site = true) :
    ((session s patience plan timeout).ensureListing site).site =
      ⟨site.agents ++ (s.target, .call (.send .listClasses timeout)) ::
        plan s.target (.send .listClasses timeout) site.agents, site.files, site.archives⟩ := by
  rw [Session.ensureListing, if_pos needs]
  rfl

theorem ensureListing_silent (quiet : (session s patience plan timeout).needsListing site = false) :
    ((session s patience plan timeout).ensureListing site).site = site := by
  rw [Session.ensureListing, if_neg (Bool.eq_false_iff.mp quiet)]

/-- No file is touched, and the target stays one that has been attached. -/
theorem ensureListing_keeps (known : (after patience site.agents).ledger s.target ≠ none) :
    let later := ((session s patience plan timeout).ensureListing site).site
    later.files = site.files ∧ (after patience later.agents).ledger s.target ≠ none := by
  intro later
  unfold later
  cases needs : (session s patience plan timeout).needsListing site with
  | true =>
    rw [ensureListing_asking needs]
    exact ⟨rfl, ledger_append known _⟩
  | false =>
    rw [ensureListing_silent needs]
    exact ⟨rfl, known⟩

theorem needsListing_iff (vm : s.target.isFileSystem = false)
    (attached : ((after patience site.agents).standing s.target).isAttached = true) :
    (session s patience plan timeout).needsListing site = true ↔
      ∀ f ∈ sinceAttach (overOn patience s.target site.agents), f.isApplied = false := by
  obtain ⟨generation, _⟩ := standing_since (ledger_of_attached attached)
  have needs : (session s patience plan timeout).needsListing site =
      (((after patience site.agents).standing s.target).generation == 0) := by
    simp only [Session.needsListing, link, vm, attached, Bool.not_false, Bool.true_and]
  rw [needs, beq_iff_eq, generation, List.countP_eq_zero]
  simp

/-- If the session's own listing is answered in time, the compiler starts without one exactly if
replies have been applied since the latest attach, but none to a listing. -/
theorem listed_at_start_iff (vm : s.target.isFileSystem = false)
    (attached : ((after patience site.agents).standing s.target).isAttached = true)
    (inTime : (session s patience plan timeout).needsListing site = true →
      ListedInTime patience s.target
        ((session s patience plan timeout).ensureListing site).site.agents
        (callsOn s.target site.agents).length) :
    let start := ((session s patience plan timeout).ensureListing site).site.agents
    let since := sinceAttach (overOn patience s.target site.agents)
    (∃ entries, lastListing (overOn patience s.target start) = some entries) ↔
      ((∃ f ∈ since, f.isApplied = true) → ∃ f ∈ since, f.listing?.isSome = true) := by
  intro start since
  unfold start
  have applied_iff : (session s patience plan timeout).needsListing site = true ↔
      ¬ ∃ f ∈ since, f.isApplied = true := by
    rw [needsListing_iff vm attached]
    simp [since]
  rw [lastListing_eq_some_iff]
  cases needs : (session s patience plan timeout).needsListing site with
  | true =>
    have listed := inTime needs
    rw [ensureListing_asking needs] at listed ⊢
    exact ⟨fun _ applied => absurd applied (applied_iff.mp needs),
      fun _ => listed.listing (callsOn_call site.agents _ _)⟩
  | false =>
    have applied : ∃ f ∈ since, f.isApplied = true := by
      by_contra none
      exact Bool.false_ne_true (needs.symm.trans (applied_iff.mpr none))
    rw [ensureListing_silent needs]
    exact ⟨fun listed _ => listed, fun listed => listed applied⟩

end Listing

/-- A compiler starts with the classes that the agent has listed last since the latest attach. A
session asks for them itself only if no reply has been applied since then, so only if none have been
listed; and if it is answered in time, the compiler starts without a listing exactly if replies have
been applied since then, but none to a listing. -/
theorem compiler_starts_listed (patience : Duration)
    (plan : Target → Operation → History → History) (timeout : Duration) (s : Session History)
    (units : List SourceUnit) (site : Site History) (vm : s.target.isFileSystem = false)
    (attached : ((after patience site.agents).standing s.target).isAttached = true) :
    let asks := (session s patience plan timeout).needsListing site
    let start := ((session s patience plan timeout).ensureListing site).site.agents
    let provider := (link patience plan timeout).provider s.target
    let since := sinceAttach (overOn patience s.target site.agents)
    (((session s patience plan timeout).compile units site).value =
      (Pipeline.compileAt s.pace s.compiler provider units start site.files).outcome) ∧
    (asks = true → start = site.agents ++ (s.target, .call (.send .listClasses timeout)) ::
      plan s.target (.send .listClasses timeout) site.agents) ∧
    (asks = false → start = site.agents) ∧
    (asks = true ↔ ∀ f ∈ since, f.isApplied = false) ∧
    (asks = true → lastListing (overOn patience s.target site.agents) = none) ∧
    provider.names start =
      ((lastListing (overOn patience s.target start)).getD []).map (⟨·.name⟩) ∧
    ((asks = true →
        ListedInTime patience s.target start (callsOn s.target site.agents).length) →
      ((∃ entries, lastListing (overOn patience s.target start) = some entries) ↔
        ((∃ f ∈ since, f.isApplied = true) → ∃ f ∈ since, f.listing?.isSome = true))) := by
  intro asks start provider since
  obtain ⟨files, known⟩ : ((session s patience plan timeout).ensureListing site).site.files =
      site.files ∧ (after patience start).ledger s.target ≠ none :=
    ensureListing_keeps (ledger_of_attached attached)
  have needs : asks = true ↔ ∀ f ∈ since, f.isApplied = false := needsListing_iff vm attached
  refine ⟨?_, fun asked => congrArg (·.agents) (ensureListing_asking asked),
    fun silent => congrArg (·.agents) (ensureListing_silent silent), needs, fun asked => ?_,
    (standing_since known).2, listed_at_start_iff vm attached⟩
  · simp only [Session.compile, files]
    rfl
  · exact lastListing_of_unapplied (needs.mp asked)

def loadedClasses : Response :=
  { id := 1, action := .listClasses, status := .ok, classes := some [{ name := "lib.Util" }] }

def willing : Target → Operation → History → History
  | t, .send .listClasses _, _ =>
    [.grant, .choose, .dialed .connected, .enter, .register, .wrote .written,
      .received 0 (Frame.payloadOf loadedClasses.json), .wake false].map (t, ·)
  | t, .send (.uploadClass ..) _, _ =>
    [.grant, .choose, .enter, .register, .wrote .written,
      .received 0 (Frame.payloadOf
        (Response.json { id := 2, action := .uploadClass, status := .ok })),
      .wake false].map (t, ·)
  | _, _, _ => []

def willingSession (steps : List CompileStep) : Session History where
  target := .process 7
  link := link (.ofSecs 5) willing (.ofSecs 15)
  compiler := ScriptedCompiler.compiler steps
  directory := []
  uploadTimeout := .ofSecs 30

def attachedSite : Site History :=
  ⟨[(.process 7, .call (.attach ⟨"localhost", 6712⟩)), (.process 7, .grant)], .empty, 0⟩

def listedAgents : History :=
  attachedSite.agents ++ (.process 7, .call (.send .listClasses (.ofSecs 15))) ::
    willing (.process 7) (.send .listClasses (.ofSecs 15)) attachedSite.agents

theorem listed_in_time : ListedInTime (.ofSecs 5) (.process 7) listedAgents 1 where
  answered := by
    refine ⟨⟨1, "localhost", 6712, .listClasses⟩, loadedClasses, _, ?_, rfl, rfl, rfl⟩
    refine ⟨listedAgents.take 10, false, [], 0, 9, by decide +kernel, ?_,
      looks_of_waiting (by decide +kernel), by decide +kernel⟩
    exact responds_of_waiting rfl (by decide +kernel) (by decide +kernel) (by decide +kernel) rfl
  last := by decide +kernel

theorem compiler_starts_listed_first :
    (Target.process 7).isFileSystem = false ∧
    ((after (.ofSecs 5) attachedSite.agents).standing (.process 7)).isAttached = true ∧
    ((link (.ofSecs 5) willing (.ofSecs 15)).provider (.process 7)).names listedAgents =
      [⟨"lib.Util"⟩] ∧
    ∃ entries, lastListing (overOn (.ofSecs 5) (.process 7) listedAgents) = some entries := by
  have attached : ((after (.ofSecs 5) attachedSite.agents).standing
      (.process 7)).isAttached = true := by decide +kernel
  have asks : (session (willingSession []) (.ofSecs 5) willing (.ofSecs 15)).needsListing
      attachedSite = true := by decide +kernel
  obtain ⟨-, asking, -, unapplied, -, -, listed⟩ := compiler_starts_listed (.ofSecs 5) willing
    (.ofSecs 15) (willingSession []) [] attachedSite rfl attached
  rw [asking asks] at listed
  refine ⟨rfl, attached, by decide +kernel, (listed fun _ => listed_in_time).mpr ?_⟩
  rintro ⟨f, mem, applied⟩
  rw [unapplied.mp asks f mem] at applied
  cases applied

def fetchedAgents : History :=
  attachedSite.agents ++
    ([.call (.send (.fetchBytes "p.A") (.ofSecs 15)), .grant, .choose, .dialed .connected, .enter,
      .register, .wrote .written, .received 0 (Frame.payloadOf (fetchReply 1 [1]).json),
      .wake false] : List LaneEvent).map (Target.process 7, ·)

/-- The first compilation after an attach and a fetch, with a compiler that tells the names of the
classes that it can ask for. -/
def compiledAfterFetch : Done History CompileOutcome :=
  (session (willingSession [.listNames, .produce ⟨⟨"p.A"⟩, [2]⟩]) (.ofSecs 5) willing
    (.ofSecs 15)).compile [{ className := ⟨"p.A"⟩, text := "class A" }] ⟨fetchedAgents, .empty, 0⟩

/-- After a fetch the classes are not listed, and the compiler finds none, though the agent answers
whatever it is asked for. -/
theorem listing_skipped_after_fetch :
    (Target.process 7).isFileSystem = false ∧
    ((after (.ofSecs 5) fetchedAgents).standing (.process 7)).isAttached = true ∧
    (overOn (.ofSecs 5) (.process 7) fetchedAgents).map (·.outcome) =
      [.attached, .answered (.bytes ⟨⟨"p.A"⟩, [1]⟩)] ∧
    compiledAfterFetch.site.agents = fetchedAgents ∧
    lastListing (overOn (.ofSecs 5) (.process 7) compiledAfterFetch.site.agents) = none ∧
    compiledAfterFetch.value.log = [] ∧ compiledAfterFetch.value.isSuccess = true := by
  refine ⟨rfl, ?_, ?_, ?_, ?_, ?_, ?_⟩ <;> decide +kernel

end Channel

end ClassSwap
