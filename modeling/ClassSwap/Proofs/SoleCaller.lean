import ClassSwap.Proofs.SessionReports

namespace ClassSwap

def Operation.redefines : Operation → Bool
  | attach _ => false
  | send command _ => command.redefines

theorem Command.allowance_eq_one {command : Command} (redefines : command.redefines = true) :
    command.allowance = 1 := by
  cases command with
  | uploadClass | uploadArchive => rfl
  | listClasses | fetchBytes | initClass | halt => cases redefines

theorem Carries.redefines {boot : Bool} {files : List ClassFile} {command : Command}
    (carries : Carries boot files command) : command.redefines = true := by
  cases carries <;> rfl

namespace Channel

/-- What goes on around a program: for each call that it makes, all that happens until it goes on.
Nobody else makes calls. -/
structure Surroundings where
  course : Target → Operation → History → History
  passive : ∀ target operation events t, callsOn t (course target operation events) = []

variable {world : Surroundings} {patience : Duration} {t : Target} {start events : History}
  {own : List (Nat × Operation)} {boot : Bool} {files : List ClassFile}

theorem callsOn_made (t target : Target) (operation : Operation) (events : History) :
    callsOn t (events ++ (target, .call operation) :: world.course target operation events) =
      callsOn t events ++ if target = t then [operation] else [] := by
  rw [List.append_cons, callsOn_append, world.passive, List.append_nil]
  by_cases own : target = t
  · rw [own, callsOn_here, if_pos rfl]
    rfl
  · rw [callsOn_elsewhere events own, if_neg own, List.append_nil]

theorem Makes.callsOn (made : Makes world.course t start own events) (other : Target) :
    Channel.callsOn other events =
      Channel.callsOn other start ++ if t = other then own.map (·.2) else [] := by
  induction made with
  | nothing => simp
  | call made operation ih =>
    rw [callsOn_made, ih]
    split <;> simp

/-- The frames that have gone out for a target and replace classes there. -/
def uploadsOn (patience : Duration) (t : Target) (events : History) : List Transmission :=
  ((after patience events).lane t).sent.filter (·.request.command.redefines)

/-- No call replaces classes. -/
def Harmless (events : History) : Prop :=
  ∀ t, ∀ operation ∈ callsOn t events, operation.redefines = false

/-- All calls attach targets. -/
def Attaching (events : History) : Prop :=
  ∀ t, ∀ operation ∈ callsOn t events, ∃ endpoint, operation = .attach endpoint

theorem Attaching.harmless (attaching : Attaching events) : Harmless events := by
  intro t operation mem
  obtain ⟨endpoint, rfl⟩ := attaching t operation mem
  rfl

theorem Attaching.sent_eq_nil (attaching : Attaching events) (patience : Duration) (t : Target) :
    ((after patience events).lane t).sent = [] := by
  refine List.eq_nil_iff_forall_not_mem.mpr fun tx mem => ?_
  obtain ⟨limit, call⟩ := (accounted patience t events).sent tx mem
  obtain ⟨endpoint, attach⟩ := attaching t _ (List.mem_of_getElem? call)
  cases attach

/-- A frame replaces classes exactly if the call does that it has gone out for. -/
theorem redefines_sent {tx : Transmission} (mem : tx ∈ ((after patience events).lane t).sent)
    {operation : Operation} (call : (callsOn t events)[tx.ticket]? = some operation) :
    tx.request.command.redefines = operation.redefines := by
  obtain ⟨limit, own⟩ := (accounted patience t events).sent tx mem
  rw [call] at own
  cases own
  rfl

theorem Harmless.uploadsOn_eq_nil (harmless : Harmless events) (patience : Duration) (t : Target) :
    uploadsOn patience t events = [] := by
  refine List.filter_eq_nil_iff.mpr fun tx mem => ?_
  obtain ⟨limit, call⟩ := (accounted patience t events).sent tx mem
  rw [redefines_sent mem call, harmless t _ (List.mem_of_getElem? call)]
  exact Bool.false_ne_true

/-- A program has uploaded these classes, and the agent has acknowledged that: one frame in all has
gone out that replaces classes, it carries these, and the response to it was found in time. -/
def Acknowledged (patience : Duration) (events : History) (boot : Bool) (files : List ClassFile) :
    Prop :=
  ∃ t tx, Judged patience t events tx.ticket boot files .ok ∧ uploadsOn patience t events = [tx] ∧
    ∀ other, other ≠ t → uploadsOn patience other events = []

/-- What has been acknowledged has been sent by a call that replaces classes. -/
theorem Judged.call {k : Nat} {status : Status}
    (judged : Judged patience t events k boot files status) :
    ∃ operation, (callsOn t events)[k]? = some operation ∧ operation.redefines = true := by
  obtain ⟨q, r, heeded, delivers, -⟩ := judged
  obtain ⟨limit, call⟩ := heeded.call
  exact ⟨_, call, delivers.batch.redefines⟩

section Last

variable {operation : Operation} (harmless : Harmless start)
  (made : events = start ++ (t, .call operation) :: world.course t operation start)
include harmless made

theorem last_of_redefines {target : Target} {k : Nat} {o : Operation}
    (call : (callsOn target events)[k]? = some o) (redefines : o.redefines = true) :
    target = t ∧ k = (callsOn t start).length ∧ o = operation := by
  rw [made, callsOn_made] at call
  rcases Nat.lt_or_ge k (callsOn target start).length with early | late
  · rw [List.getElem?_append_left early] at call
    rw [harmless target o (List.mem_of_getElem? call)] at redefines
    cases redefines
  · rw [List.getElem?_append_right late] at call
    split at call
    next same =>
      subst same
      rw [List.getElem?_singleton] at call
      split at call
      next first => exact ⟨rfl, by omega, (Option.some.inj call).symm⟩
      next => cases call
    next => cases call

/-- What has gone out to replace classes are the frames of that call. -/
theorem uploadsOn_last (redefines : operation.redefines = true) (target : Target) :
    uploadsOn patience target events = if target = t then
      ((after patience events).lane t).framesOf (callsOn t start).length else [] := by
  split
  next same =>
    subst same
    refine List.filter_congr fun tx mem => ?_
    obtain ⟨limit, call⟩ := (accounted patience target events).sent tx mem
    rw [redefines_sent mem call, Bool.eq_iff_iff, decide_eq_true_iff]
    refine ⟨fun replaces => (last_of_redefines harmless made call replaces).2.1, fun same => ?_⟩
    rw [same, made, callsOn_call] at call
    cases call
    exact redefines
  next other =>
    refine List.filter_eq_nil_iff.mpr fun tx mem replaces => ?_
    obtain ⟨limit, call⟩ := (accounted patience target events).sent tx mem
    exact other (last_of_redefines harmless made call replaces).1

/-- That call is the one that can have been acknowledged. -/
theorem acknowledged_iff_judged : Acknowledged patience events boot files ↔
    Judged patience t events (callsOn t start).length boot files .ok := by
  constructor
  · rintro ⟨target, tx, judged, -⟩
    obtain ⟨o, call, redefines⟩ := judged.call
    obtain ⟨rfl, ticket, -⟩ := last_of_redefines harmless made call redefines
    rwa [ticket] at judged
  · intro judged
    obtain ⟨q, r, heeded, delivers, -⟩ := id judged
    obtain ⟨limit, call⟩ := heeded.call
    have replaces := delivers.batch.redefines
    have uploads (target : Target) : uploadsOn patience target events = if target = t then
        ((after patience events).lane t).framesOf (callsOn t start).length else [] :=
      uploadsOn_last harmless made
        ((last_of_redefines harmless made call replaces).2.2 ▸ replaces) target
    obtain ⟨tx, only⟩ : ∃ tx,
        ((after patience events).lane t).framesOf (callsOn t start).length = [tx] := by
      obtain ⟨tx, among, -⟩ := heeded.sent
      have most : (((after patience events).lane t).framesOf
          (callsOn t start).length).length ≤ _ := framesOf_length_le call
      rw [Command.allowance_eq_one replaces] at most
      exact List.length_eq_one_iff.mp (Nat.le_antisymm most (List.length_pos_of_mem among))
    have ticket := (Lane.mem_framesOf.mp (only ▸ List.mem_singleton_self tx)).2
    refine ⟨t, tx, ticket ▸ judged, ?_, fun other apart => ?_⟩
    · rw [uploads, if_pos rfl, only]
    · rw [uploads, if_neg apart]

end Last

section Operations

variable (world : Surroundings) (patience timeout : Duration) (s : Session History)

theorem attach_attaching (given : Option Endpoint) {site : Site History}
    (attaching : Attaching site.agents) :
    Attaching ((session s patience world.course timeout).attach given site).site.agents := by
  simp only [Session.attach]
  split
  next => exact attaching
  next =>
    split
    next => exact attaching
    next endpoint _ =>
      intro t operation mem
      have mem : operation ∈ callsOn t (site.agents ++ (s.target, .call (.attach endpoint)) ::
          world.course s.target (.attach endpoint) site.agents) := by
        simp only [Link.attach, link] at mem
        split at mem <;> exact mem
      rw [callsOn_made] at mem
      rcases List.mem_append.mp mem with old | new
      · exact attaching t operation old
      · split at new
        next => exact ⟨endpoint, List.mem_singleton.mp new⟩
        next => cases new

theorem compile_harmless (units : List SourceUnit) {site : Site History}
    (confined : s.compiler.Confined) (harmless : Harmless site.agents) :
    Harmless ((session s patience world.course timeout).compile units site).site.agents := by
  obtain ⟨own, made, asks⟩ := compile_makes patience world.course timeout s units site confined
  intro t operation mem
  rw [made.callsOn t] at mem
  rcases List.mem_append.mp mem with old | new
  · exact harmless t operation old
  · split at new
    next =>
      obtain ⟨call, own, rfl⟩ := List.mem_map.mp new
      obtain ⟨command, send, quiet⟩ := asks call own
      rw [send]
      exact quiet
    next => cases new

/-- An upload after calls that replace nothing is a success exactly if the agent has acknowledged
it. -/
theorem transmit_acknowledged (boot : Bool) (files : List ClassFile) {site : Site History}
    (harmless : Harmless site.agents) :
    let d := (session s patience world.course timeout).transmit boot files site
    (SwapReport.ofUpload (files.map (·.className)) d.value).status = .success ↔
      Acknowledged patience d.site.agents boot files := by
  intro d
  refine (transmit_status patience world.course timeout s boot site files).1.trans ?_
  obtain ⟨number, ⟨e, -, quiet, -⟩ | ⟨p, -, made, -⟩⟩ :=
    session_transmit_cases patience world.course timeout s boot files site
  · have quiet : d.site.agents = site.agents := quiet
    rw [← quiet] at harmless
    constructor
    · intro judged
      obtain ⟨operation, call, redefines⟩ := judged.call
      rw [harmless _ _ (List.mem_of_getElem? call)] at redefines
      cases redefines
    · rintro ⟨t, tx, -, uploads, -⟩
      rw [harmless.uploadsOn_eq_nil] at uploads
      cases uploads
  · exact (acknowledged_iff_judged harmless made).symm

end Operations

end Channel

end ClassSwap
