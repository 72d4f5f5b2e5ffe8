import ClassSwap.Proofs.ClassListing
import ClassSwap.Proofs.CompileReports
import ClassSwap.Proofs.ReplyHeeded

namespace ClassSwap

open Channel

def Notice.told? : Notice → Option SessionEvent
  | .told e => some e
  | .event _ => none

/-- What those who follow a session are told. -/
def told (notices : List Notice) : List SessionEvent := notices.filterMap Notice.told?

theorem told_append (notices more : List Notice) :
    told (notices ++ more) = told notices ++ told more := List.filterMap_append

theorem told_events (events : List LogEvent) : told (events.map .event) = [] := by
  simp [told, List.filterMap_map, Notice.told?, Function.comp_def]

def CompileOutcome.told (o : CompileOutcome) : List SessionEvent :=
  o.log.map .diagnostic ++ [.compileFinished o.isSuccess]

/-- A call has come to what the agent answered an upload with. -/
inductive Outcome.Says : Outcome → Status → Prop
  | acknowledged (message : Option String) : Says (.answered (.ack message)) .ok
  | refused (action : Action) (text : String) : Says (.failed (.agent action text)) .error

theorem Outcome.Says.isVerdict {outcome : Outcome} {status : Status}
    (said : outcome.Says status) : outcome.IsVerdict := by
  cases said <;> trivial

/-- The status of a report on an upload that the agent has answered. -/
def SwapStatus.ofVerdict : Status → SwapStatus
  | .ok => .success
  | .error => .redefinitionError

namespace Payload

/-- These classes cannot be packed, whatever number an archive of them has. -/
def Unpackable (boot : Bool) (files : List ClassFile) (packer : Zip.Packer) : Prop :=
  ∀ number, ∃ e, build (Scope.ofBoot boot) files number packer = .error e

/-- Whether classes can be packed does not depend on the number. -/
theorem unpackable_of_error {boot : Bool} {files : List ClassFile} {packer : Zip.Packer}
    {number : Nat} {e : UploadError}
    (failed : build (Scope.ofBoot boot) files number packer = .error e) :
    Unpackable boot files packer ∧ SwapReport.statusOf e = .redefinitionError := by
  match files, failed with
  | [], failed =>
    cases failed
    exact ⟨fun _ => ⟨_, rfl⟩, rfl⟩
  | a :: b :: rest, failed =>
    simp only [build] at failed
    split at failed
    next => cases failed
    next e refused =>
      cases failed
      exact ⟨fun _ => ⟨.archive e.message, by simp only [build, refused]⟩, rfl⟩

end Payload

namespace Session

variable {σ : Type} (s : Session σ) (units : List SourceUnit) (boot : Bool)
  (files : List ClassFile) (base : String) (site : Site σ)

theorem told_reports (reports : List Report) :
    told (reports.map noticeOf) = told ((reports.filter Report.isCall).map noticeOf) := by
  induction reports with
  | nil => rfl
  | cons report rest ih =>
    cases report with
    | event e => exact ih
    | diagnostic line => exact congrArg (.diagnostic line :: ·) ih
    | finished outcome => exact congrArg (.compileFinished outcome.isSuccess :: ·) ih

theorem told_request {α : Type} (f : σ → Answer σ α) : told (request f site).notices = [] :=
  told_events _

theorem told_ensureListing : told (s.ensureListing site).notices = [] := by
  unfold ensureListing
  split
  next =>
    dsimp only
    rw [told_append, listClasses, told_request, List.nil_append]
    split <;> rfl
  next => rfl

theorem told_compile : told (s.compile units site).notices = (s.compile units site).value.told := by
  have calls := Pipeline.calls_compileAt s.pace s.compiler (s.link.provider s.target)
    (s.ensureListing site).site.agents (s.ensureListing site).site.files units
  dsimp only at calls
  simp only [compile]
  rw [told_append, told_ensureListing, List.nil_append, told_reports, calls, List.map_append,
    told_append]
  simp [CompileOutcome.told, told, noticeOf, Notice.told?, List.filterMap_map, Function.comp_def]

theorem told_sendPayload (p : Payload) (scope : Scope) :
    told (s.sendPayload p scope files site).notices = [] := by
  simp only [sendPayload]
  split <;> exact told_events _

theorem told_transmit : told (s.transmit boot files site).notices = [] := by
  simp only [transmit]
  split
  next => rfl
  next => exact told_sendPayload s files _ _ _

theorem told_upload :
    told (s.upload boot files site).notices =
      [.uploadFinished (s.transmit boot files site).value] := by
  rw [upload, told_append, told_transmit]
  rfl

/-- What is told of a batch of `total` files that was to be written. -/
def savingTold (total : Nat) : Except AmbiguousTarget SaveReport → SessionEvent
  | .ok r => .saveFinished r.saved r.total r.lastPath
  | .error _ => .saveFinished 0 total none

theorem told_announceSave (total : Nat) (result : Except AmbiguousTarget SaveReport) :
    told (announceSave total result) = [savingTold total result] := by
  cases result with
  | error e => rfl
  | ok r =>
    simp only [announceSave]
    rw [told_append, told_events]
    rfl

section Operations

variable {s units site}

theorem compileAndUpload_error {e : CompileError}
    (failed : (s.compile units site).value.result = .error e) :
    s.compileAndUpload units boot site = ⟨(s.compile units site).site,
      SwapReport.compileFailed (units.map (·.className)) e.message,
      (s.compile units site).notices⟩ := by
  simp only [compileAndUpload, failed]

theorem compileAndSave_error {e : CompileError}
    (failed : (s.compile units site).value.result = .error e) :
    s.compileAndSave units base site = ⟨(s.compile units site).site, .error (.compile e),
      (s.compile units site).notices⟩ := by
  simp only [compileAndSave, failed]

variable {files}

theorem compileAndUpload_ok (compiled : (s.compile units site).value.result = .ok files) :
    let c := s.compile units site
    let d := s.upload boot files c.site
    s.compileAndUpload units boot site =
      ⟨d.site, SwapReport.ofUpload (files.map (·.className)) d.value, c.notices ++ d.notices⟩ := by
  simp only [compileAndUpload, compiled]

theorem compileAndSave_ok (compiled : (s.compile units site).value.result = .ok files) :
    let c := s.compile units site
    let d := s.saveClassFiles base files c.site
    s.compileAndSave units base site = ⟨d.site, d.value, c.notices ++ d.notices⟩ := by
  simp only [compileAndSave, compiled]

end Operations

variable {p : Payload} {classes : List ClassName} {outcome : Outcome}

/-- The report has the agent's word exactly if the call has come to it. -/
theorem status_eq_ofVerdict_iff {status : Status} :
    (SwapReport.ofUpload classes (resultOf p files outcome)).status = .ofVerdict status ↔
      outcome.Says status := by
  constructor
  · intro report
    cases outcome with
    | attached => cases status <;> cases report
    | answered reply =>
      cases reply with
      | ack message =>
        cases status with
        | ok => exact .acknowledged message
        | error => cases report
      | classes | bytes | halted => cases status <;> cases report
    | failed error =>
      cases error with
      | agent action text =>
        cases status with
        | ok => cases report
        | error => exact .refused action text
      | _ => cases status <;> cases report
  · intro said
    cases said <;> rfl

/-- A report on an upload has one of three statuses. -/
theorem status_agentUnavailable_iff (result : Except UploadError UploadAck) :
    (SwapReport.ofUpload classes result).status = .agentUnavailable ↔
      (SwapReport.ofUpload classes result).status ≠ .success ∧
        (SwapReport.ofUpload classes result).status ≠ .redefinitionError := by
  cases result with
  | ok ack => simp [SwapReport.ofUpload, SwapReport.uniform]
  | error e => cases e <;> simp [SwapReport.ofUpload, SwapReport.uniform, SwapReport.statusOf]

theorem classes_ofUpload (result : Except UploadError UploadAck) :
    (SwapReport.ofUpload (files.map (·.className)) result).classes = files.map fun file =>
      { className := file.className.text
        status := (SwapReport.ofUpload (files.map (·.className)) result).status } := by
  cases result <;> simp [SwapReport.ofUpload, SwapReport.uniform, Function.comp_def]

/-- The action and the status of a response to an upload decide what it says. -/
theorem said_in_response_iff {status : Status} (p : Payload) (r : Response) :
    (Reply.outcome p.command r).Says status ↔ r.action = p.command.action ∧ r.status = status := by
  by_cases action : r.action = p.command.action
  · cases answered : r.status with
    | ok =>
      have answers : Reply.Answers r (.ack r.message) p.command := by cases p <;> rfl
      have verdict := Reply.judge_eq_ok_iff.mpr ⟨action, answered, answers⟩
      simp only [Reply.outcome, verdict, action, true_and]
      exact ⟨fun said => by cases said; rfl, fun same => same ▸ .acknowledged r.message⟩
    | error =>
      have refused : ∃ text, Reply.outcome p.command r = .failed (.agent r.action text) :=
        ⟨_, by simp [Reply.outcome, Reply.judge, action, Response.isOk, answered]; rfl⟩
      obtain ⟨text, refused⟩ := refused
      simp only [refused, action, true_and]
      exact ⟨fun said => by cases said; rfl, fun same => same ▸ .refused _ text⟩
  · have mistaken : ∃ text, Reply.outcome p.command r = .failed (.protocolMismatch text) :=
      ⟨_, by simp [Reply.outcome, Reply.judge, action]; rfl⟩
    obtain ⟨text, mistaken⟩ := mistaken
    rw [mistaken]
    exact ⟨fun said => (by cases said), fun same => absurd same.1 action⟩

end Session

namespace Channel

/-- The agent has answered the upload of the batch with this status, and its caller has found the
response in time. -/
def Judged (patience : Duration) (t : Target) (events : History) (k : Nat) (boot : Bool)
    (files : List ClassFile) (status : Status) : Prop :=
  ∃ q r, Heeded patience t events k q r ∧ Delivers boot files q ∧ r.action = q.command.action ∧
    r.status = status

section Upload

variable {patience : Duration} {t : Target} {events : History} {k number : Nat} {boot : Bool}
  {files : List ClassFile} {packer : Zip.Packer} {p : Payload} {limit : Duration}

/-- The call that uploads the batch comes to what the agent says of it. -/
theorem said_iff_judged (call : (callsOn t events)[k]? = some (.send p.command limit))
    (built : Payload.build (Scope.ofBoot boot) files number packer = .ok p) {status : Status} :
    (outcomeOf ((after patience events).lane t) k).Says status ↔
      Judged patience t events k boot files status := by
  constructor
  · intro said
    obtain ⟨q, r, heeded, asked, outcome⟩ :=
      (outcomeOf_eq_verdict call p.command_action said.isVerdict).mp rfl
    obtain ⟨action, answered⟩ := (Session.said_in_response_iff p r).mp (outcome ▸ said)
    obtain ⟨tx, sent, rfl⟩ := heeded.sent
    exact ⟨_, r, heeded, upload_frame_delivers call built tx sent, asked ▸ action, answered⟩
  · rintro ⟨q, r, heeded, -, action, answered⟩
    have asked := heeded.command call
    rw [heeded.outcome (asked ▸ p.command_action), asked]
    exact (Session.said_in_response_iff p r).mpr ⟨asked ▸ action, answered⟩

end Upload

variable (patience : Duration) (plan : Target → Operation → History → History)
  (timeout : Duration) (s : Session History)

/-- What a session asks of its target for a compilation. -/
theorem compile_makes (units : List SourceUnit) (site : Site History)
    (confined : s.compiler.Confined) :
    ∃ own, Makes plan s.target site.agents own
        ((session s patience plan timeout).compile units site).site.agents ∧
      ∀ call ∈ own, ∃ command, call.2 = .send command timeout ∧ command.redefines = false := by
  have asked : ((link patience plan timeout).provider s.target).Asked
      ((session s patience plan timeout).ensureListing site).site.agents
      ((session s patience plan timeout).compile units site).site.agents := by
    simp only [Session.compile, Pipeline.compileAt]
    split
    next => exact .start
    next => exact confined _ _ _ _
  obtain ⟨own, made, fetches⟩ := makes_of_asked asked
  have asks : ∀ call ∈ own, ∃ command, call.2 = .send command timeout ∧
      command.redefines = false := by
    intro call mem
    obtain ⟨c, fetch⟩ := fetches call mem
    exact ⟨.fetchBytes c, fetch, rfl⟩
  cases needs : (session s patience plan timeout).needsListing site with
  | false =>
    rw [ensureListing_silent needs] at made
    exact ⟨own, made, asks⟩
  | true =>
    rw [ensureListing_asking needs] at made
    refine ⟨_, (Makes.nothing.call _).trans made, fun call mem => ?_⟩
    rcases List.mem_append.mp mem with first | later
    · exact ⟨.listClasses, by rw [List.mem_singleton.mp first], rfl⟩
    · exact asks call later

/-- The status of a report on an upload is what became of the packing and what the agent said. -/
theorem transmit_status (boot : Bool) (site : Site History) (files : List ClassFile) :
    let d := (session s patience plan timeout).transmit boot files site
    let report := SwapReport.ofUpload (files.map (·.className)) d.value
    let ticket := (callsOn s.target site.agents).length
    let judged := Judged patience s.target d.site.agents ticket boot files
    (report.status = .success ↔ judged .ok) ∧
      (report.status = .redefinitionError ↔
        Payload.Unpackable boot files s.packer ∨ judged .error) := by
  intro d report ticket judged
  obtain ⟨number, ⟨e, failed, quiet, value⟩ | ⟨p, built, agents, call, value⟩⟩ :=
    session_transmit_cases patience plan timeout s boot files site
  · obtain ⟨unpackable, status⟩ := Payload.unpackable_of_error failed
    have unheard (status : Status) : ¬ judged status := by
      rintro ⟨q, r, heeded, -⟩
      obtain ⟨_, call⟩ := heeded.call
      have bound := (List.getElem?_eq_some_iff.mp call).1
      rw [show d.site.agents = site.agents from quiet] at bound
      exact Nat.lt_irrefl _ bound
    have fails : report.status = .redefinitionError := by
      rw [← status]
      exact congrArg (fun v => (SwapReport.ofUpload _ v).status) value
    rw [fails]
    refine ⟨⟨fun ok => ?_, fun ok => absurd ok (unheard _)⟩,
      fun _ => .inl unpackable, fun _ => rfl⟩
    cases ok
  · have packs : ¬ Payload.Unpackable boot files s.packer := by
      intro unpackable
      obtain ⟨e, failed⟩ := unpackable number
      cases built.symm.trans failed
    have verdict (status : Status) : report.status = .ofVerdict status ↔ judged status := by
      have same : report.status = _ :=
        congrArg (fun v => (SwapReport.ofUpload (files.map (·.className)) v).status) value
      rw [same]
      exact (Session.status_eq_ofVerdict_iff files).trans (said_iff_judged call built)
    exact ⟨verdict .ok, (verdict .error).trans (or_iff_right packs).symm⟩

/-- A session tells and reports what has come of its work. If the compilation fails, nothing goes to
the agent and nothing is saved; otherwise the upload or the save is told once, and a report on an
upload has for each class what became of the packing and what the agent said in time. -/
theorem operations_reported (units : List SourceUnit) (boot : Bool) (base : String)
    (site : Site History) :
    let c := (session s patience plan timeout).compile units site
    let u := (session s patience plan timeout).compileAndUpload units boot site
    let v := (session s patience plan timeout).compileAndSave units base site
    let judged := Judged patience s.target u.site.agents
      (callsOn s.target c.site.agents).length boot
    (∀ e, c.value.result = .error e →
      told u.notices = c.value.told ∧ told v.notices = c.value.told ∧
      u.site = c.site ∧ v.site = c.site ∧ v.value = .error (.compile e) ∧
      u.value = ⟨.compileError, some e.message, units.map fun unit =>
        { className := unit.className.text, status := .compileError }⟩ ∧
      (s.compiler.Confined → ∃ own, Makes plan s.target site.agents own u.site.agents ∧
        ∀ call ∈ own, ∀ tx ∈ ((after patience u.site.agents).lane s.target).framesOf call.1,
          tx.request.command.redefines = false)) ∧
    ∀ files, c.value.result = .ok files →
      (∃ result, told u.notices = c.value.told ++ [.uploadFinished result] ∧
        u.value = SwapReport.ofUpload (files.map (·.className)) result) ∧
      u.value.classes = files.map (fun file =>
        { className := file.className.text, status := u.value.status }) ∧
      (u.value.status = .success ↔ judged files .ok) ∧
      (u.value.status = .redefinitionError ↔
        Payload.Unpackable boot files s.packer ∨ judged files .error) ∧
      (u.value.status = .agentUnavailable ↔
        ¬ judged files .ok ∧ ¬ Payload.Unpackable boot files s.packer ∧
          ¬ judged files .error) ∧
      ∃ tree saved,
        Save.writeClassFiles c.site.files s.directory base s.naming s.classSuffix files =
          (tree, saved) ∧
        told v.notices = c.value.told ++ [Session.savingTold files.length saved] ∧
        v.value = Session.saveResult saved ∧
        v.site = ⟨c.site.agents, tree, c.site.archives⟩ := by
  intro c u v judged
  constructor
  · intro e failed
    have uploads : u = _ := Session.compileAndUpload_error boot failed
    have saves : v = _ := Session.compileAndSave_error base failed
    rw [uploads, saves]
    refine ⟨Session.told_compile _ units site, Session.told_compile _ units site, rfl, rfl, rfl, ?_,
      fun confined => ?_⟩
    · simp [SwapReport.compileFailed, SwapReport.uniform, Function.comp_def]
    · obtain ⟨own, made, asks⟩ := compile_makes patience plan timeout s units site confined
      refine ⟨own, made, made.harmless fun call mem => ?_⟩
      obtain ⟨command, operation, asks⟩ := asks call mem
      exact ⟨command, timeout, operation, asks⟩
  · intro files compiled
    have uploads : u = _ := Session.compileAndUpload_ok boot compiled
    have saves : v = _ := Session.compileAndSave_ok base compiled
    obtain ⟨success, redefinition⟩ :=
      transmit_status patience plan timeout s boot c.site files
    have compilation : told c.notices = c.value.told := Session.told_compile _ units site
    unfold judged
    rw [uploads, saves]
    refine ⟨⟨_, ?_, rfl⟩, Session.classes_ofUpload files _, success, redefinition, ?_,
      _, _, rfl, ?_, rfl, rfl⟩
    · rw [told_append, compilation, Session.told_upload]
      rfl
    · exact (Session.status_agentUnavailable_iff _).trans
        (and_congr (not_congr success) ((not_congr redefinition).trans not_or))
    · rw [told_append, compilation]
      exact congrArg _ (Session.told_announceSave files.length _)

def soleUnit : SourceUnit := { className := ⟨"p.A"⟩, text := "class A" }

def soleFile : ClassFile := ⟨⟨"p.A"⟩, Utf8.ofString "class A"⟩

def willingUpload (steps : List CompileStep) : Done History SwapReport :=
  (session (willingSession steps) (.ofSecs 5) willing (.ofSecs 15)).compileAndUpload [soleUnit]
    false attachedSite

/-- The same agent acknowledges what has been compiled, and hears of nothing but the listing if
nothing has. -/
theorem operations_reported_acknowledged :
    (willingUpload [.echo]).value.status = .success ∧
    Judged (.ofSecs 5) (.process 7) (willingUpload [.echo]).site.agents 2 false [soleFile] .ok ∧
    (willingUpload [.fail (.failed "1 error")]).value =
      ⟨.compileError, some "compilation failed:\n1 error",
        [{ className := "p.A", status := .compileError }]⟩ ∧
    ∃ own, Makes willing (.process 7) attachedSite.agents own
        (willingUpload [.fail (.failed "1 error")]).site.agents ∧
      ∀ call ∈ own, ∀ tx ∈ ((after (.ofSecs 5)
        (willingUpload [.fail (.failed "1 error")]).site.agents).lane (.process 7)).framesOf call.1,
          tx.request.command.redefines = false := by
  have status : (willingUpload [.echo]).value.status = .success := by decide +kernel
  have compiled : ((session (willingSession [.echo]) (.ofSecs 5) willing (.ofSecs 15)).compile
      [soleUnit] attachedSite).value.result = .ok [soleFile] := by decide +kernel
  have failed : ((session (willingSession [.fail (.failed "1 error")]) (.ofSecs 5) willing
      (.ofSecs 15)).compile [soleUnit] attachedSite).value.result = .error (.failed "1 error") := by
    decide +kernel
  obtain ⟨-, uploads⟩ := operations_reported (.ofSecs 5) willing (.ofSecs 15)
    (willingSession [.echo]) [soleUnit] false "out" attachedSite
  obtain ⟨fails, -⟩ := operations_reported (.ofSecs 5) willing (.ofSecs 15)
    (willingSession [.fail (.failed "1 error")]) [soleUnit] false "out" attachedSite
  obtain ⟨-, -, success, -⟩ := uploads [soleFile] compiled
  obtain ⟨-, -, -, -, -, report, quiet⟩ := fails _ failed
  refine ⟨status, ?_, report, quiet (ScriptedCompiler.confined _)⟩
  have judged := success.mp status
  have ticket : (callsOn (.process 7) ((session (willingSession [.echo]) (.ofSecs 5) willing
      (.ofSecs 15)).compile [soleUnit] attachedSite).site.agents).length = 2 := by decide +kernel
  rwa [show (willingSession [.echo]).target = .process 7 from rfl, ticket] at judged

end Channel

end ClassSwap
