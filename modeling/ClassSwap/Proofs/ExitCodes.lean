import ClassSwap.Proofs.BatchWrites
import ClassSwap.Proofs.ProgramRuns
import ClassSwap.Proofs.SoleCaller

namespace ClassSwap.CommandLine

open Channel Console

variable {σ : Type}

namespace Setup

def swapText (json : Bool) (r : SwapReport) : String := linesText (swapLines json r)

def initial : SwapStatus → Char
  | .success => 's'
  | .compileError => 'c'
  | .redefinitionError => 'r'
  | .agentUnavailable => 'a'

theorem name_front (status : SwapStatus) :
    ∃ rest, status.name.toList = initial status :: rest ∧
      Json.quoted status.name = '"' :: initial status :: rest ++ ['"'] := by
  refine ⟨status.name.toList.tail, ?_, ?_⟩ <;> cases status <;> decide +kernel

/-- A printed report has the first letter of its status at a fixed place. -/
theorem initial_swapText (json : Bool) (r : SwapReport) :
    (swapText json r).toList[if json then 15 else 0]? = some (initial r.status) := by
  obtain ⟨status, message, classes⟩ := r
  obtain ⟨rest, plain, quoted⟩ := name_front status
  have key : Json.quoted "status" = ['"', 's', 't', 'a', 't', 'u', 's', '"'] := by decide +kernel
  cases json with
  | true =>
    simp [swapText, swapLines, linesText, SwapReport.json, Json.prettyText, Json.pretty, quoted,
      key, Json.newline, String.join_cons]
  | false =>
    cases message <;> simp [swapText, swapLines, linesText, plain, String.join_cons]

theorem status_eq_of_swapText {json : Bool} {r r' : SwapReport}
    (same : swapText json r = swapText json r') : r.status = r'.status := by
  have initials := (initial_swapText json r).symm.trans (same ▸ initial_swapText json r')
  revert initials
  cases r.status <;> cases r'.status <;> decide

theorem swapText_ne_empty (json : Bool) (r : SwapReport) : swapText json r ≠ "" := by
  intro empty
  have front := initial_swapText json r
  rw [empty] at front
  cases front

theorem confined_sessionWith (s : Setup σ) (naming : Option Naming) (target : Target) :
    (s.sessionWith naming target).compiler.Confined := by
  have compiler : (s.sessionWith naming target).compiler = Javac.compiler s.host s.javac := by
    rw [sessionWith]
  rw [compiler]
  exact Javac.confined s.host s.javac

end Setup

namespace Machine

variable (m : Machine σ) (i : Invocation) (config : Config)

def setup : Setup σ :=
  { host := m.host, link := (m.connect config.agent).1, config, json := i.json, target := i.target }

/-- The console when the log has been opened and nothing else has been done. -/
def console : Console σ :=
  Console.start config.logging m.logDirectives m.time m.host.directory
    { agents := (m.connect config.agent).2, files := m.files }

/-- How the program ends: a failure is told on the error stream and ends with 2. -/
def finish : Except String Nat × Console σ → Finish σ
  | (.ok code, c) => ⟨c.site.files, some c.site.agents, code, c.stdout, c.stderr⟩
  | (.error message, c) =>
    ⟨c.site.files, some c.site.agents, 2, c.stdout, (c.complain message).stderr⟩

theorem carryOut_eq : m.carryOut i config =
    finish (((m.setup i config).execute i.command).run.run (m.console config)) := by
  rcases reached : m.connect config.agent with ⟨link, channel⟩
  rcases ended : ((m.setup i config).execute i.command).run.run (m.console config) with
    ⟨_ | code, c⟩
  all_goals
    simp only [setup, console, reached] at ended
    simp only [carryOut, reached, ended, finish]
  rfl

/-- A run that ends with 0 or 1 ends with 0 exactly if all has gone well. -/
theorem exitCode_finish (p : Prop) [Decidable p] (c : Console σ) :
    let f := finish (.ok (if p then 0 else 1), c)
    (f.exitCode = 0 ∨ f.exitCode = 1 ∨ f.exitCode = 2) ∧ (f.exitCode = 0 ↔ p) ∧
      (f.exitCode = 1 ↔ ¬ p) ∧ f.exitCode ≠ 2 := by
  by_cases h : p <;> simp [finish, h]

/-- The program has come to a session, and stands there. -/
structure Opens (naming : Option Naming) (session : Session σ) (c : Console σ) : Prop where
  configured : m.config (i.config.or m.configPath) = .ok config
  opened : ((m.setup i config).openSession naming).run.run (m.console config) = (.ok session, c)

end Machine

section Upload

variable (world : Surroundings) (patience timeout : Duration)

/-- A report says that all went well exactly if there were classes to upload and the agent has
acknowledged these. -/
theorem Cargo.uploadIn_success {s : Session History}
    (linked : Channel.session s patience world.course timeout = s)
    (confined : s.compiler.Confined) (boot : Bool) (cargo : Cargo) {site : Site History}
    (harmless : Harmless site.agents) :
    (cargo.uploadIn s boot site).value.status = .success ↔
      ∃ files, cargo.classesIn s site = some files ∧
        Acknowledged patience (cargo.uploadIn s boot site).site.agents boot files := by
  have acknowledged (files : List ClassFile) {site : Site History}
      (harmless : Harmless site.agents) :
      (SwapReport.ofUpload (files.map (·.className)) (s.upload boot files site).value).status =
        .success ↔ Acknowledged patience (s.upload boot files site).site.agents boot files := by
    rw [← linked]
    exact transmit_acknowledged world patience timeout s boot files harmless
  cases cargo with
  | classFiles files =>
    rw [uploadIn, acknowledged files harmless]
    simp [classesIn]
  | sources units =>
    cases compiled : (s.compile units site).value.result with
    | error e =>
      rw [uploadIn, Session.compileAndUpload_error boot compiled]
      simp [classesIn, compiled, Except.toOption, SwapReport.compileFailed, SwapReport.uniform]
    | ok files =>
      have harmless : Harmless (s.compile units site).site.agents := by
        rw [← linked]
        exact compile_harmless world patience timeout s units confined harmless
      rw [uploadIn, Session.compileAndUpload_ok boot compiled, acknowledged files harmless]
      simp [classesIn, compiled, Except.toOption]

end Upload

namespace Machine

/-- A machine whose agents, network and clock are what is around the program. -/
def amid (m : Machine History) (world : Surroundings) : Machine History :=
  { m with
    connect := fun settings => (Channel.link (.ofMillis settings.connectTimeout) world.course
      (.ofMillis settings.requestTimeout), []) }

/-- What the exit code says of an upload. -/
structure UploadCodes (m : Machine History) (i : Invocation) (sources specs : List String)
    (boot : Bool) (f : Finish History) : Prop where
  range : f.exitCode = 0 ∨ f.exitCode = 1 ∨ f.exitCode = 2
  acknowledged : f.exitCode = 0 ↔ ∃ config session c files events, ∃ cargo : Cargo,
    m.Opens i config none session c ∧
    cargo.IsAt (m.console config).site.files m.host.directory sources specs ∧
    cargo.classesIn session c.site = some files ∧ f.channel = some events ∧
    Acknowledged (.ofMillis config.agent.connectTimeout) events boot files
  reported : f.exitCode = 1 ↔
    ∃ report, report.status ≠ .success ∧ f.stdout = Setup.swapText i.json report
  unsent : f.exitCode = 2 → ∀ config events, m.config (i.config.or m.configPath) = .ok config →
    f.channel = some events →
    ∀ t, ((after (.ofMillis config.agent.connectTimeout) events).lane t).sent = []

section Opened

variable (m : Machine History) (world : Surroundings) (i : Invocation) (config : Config)

/-- The sessions of a machine amid its surroundings have a channel to these. -/
theorem sessionWith_amid (naming : Option Naming) (target : Target) :
    ((m.amid world).setup i config).sessionWith naming target =
      Channel.session (((m.amid world).setup i config).sessionWith naming target)
        (.ofMillis config.agent.connectTimeout) world.course
        (.ofMillis config.agent.requestTimeout) := by
  have link : (((m.amid world).setup i config).sessionWith naming target).link =
    Channel.link (.ofMillis config.agent.connectTimeout) world.course
      (.ofMillis config.agent.requestTimeout) := rfl
  rw [Channel.session, ← link]

theorem attaching_console : Attaching ((m.amid world).console config).site.agents := by
  rw [console, agents_start]
  exact fun _ _ mem => absurd mem List.not_mem_nil

theorem attaching_opened (naming : Option Naming) :
    Attaching ((((m.amid world).setup i config).openSession naming).run.run
      ((m.amid world).console config)).2.site.agents := by
  rcases (((m.amid world).setup i config).attended ((m.amid world).console config) naming).agents
    with same | ⟨target, endpoint, agents⟩
  · rw [same]
    exact attaching_console m world config
  · rw [agents, sessionWith_amid]
    exact attach_attaching world _ _ _ endpoint (attaching_console m world config)

theorem stdout_opened (m : Machine σ) (naming : Option Naming) :
    (((m.setup i config).openSession naming).run.run (m.console config)).2.stdout = "" :=
  ((m.setup i config).attended (m.console config) naming).stdout.trans (stdout_start ..)

end Opened

variable {m : Machine History} {world : Surroundings} {i : Invocation} {config : Config}

/-- A program that fails before it uploads anything ends with 2 and prints nothing. -/
theorem uploadCodes_failed {m : Machine History} {sources specs : List String} {boot : Bool}
    {f : Finish History} (two : f.exitCode = 2) (quiet : f.stdout = "")
    (fails : ∀ config session c (cargo : Cargo), m.Opens i config none session c →
      ¬ cargo.IsAt (m.console config).site.files m.host.directory sources specs)
    (unsent : ∀ config events, m.config (i.config.or m.configPath) = .ok config →
      f.channel = some events →
      ∀ t, ((after (.ofMillis config.agent.connectTimeout) events).lane t).sent = []) :
    m.UploadCodes i sources specs boot f where
  range := .inr (.inr two)
  acknowledged := by
    rw [two]
    refine ⟨nofun, ?_⟩
    rintro ⟨config, session, c, files, events, cargo, opens, there, -⟩
    exact absurd there (fails config session c cargo opens)
  reported := by
    rw [two]
    refine ⟨nofun, ?_⟩
    rintro ⟨report, -, printed⟩
    exact absurd (printed.symm.trans quiet) (Setup.swapText_ne_empty _ _)
  unsent _ := unsent

/-- A program that prints a report ends with 0 or 1, as the agent has acknowledged what was to be
uploaded or not. -/
theorem uploadCodes_reported {sources specs : List String} {boot : Bool}
    {session : Session History} {c c' : Console History} {cargo : Cargo}
    {d : Done History SwapReport}
    (opens : (m.amid world).Opens i config none session c)
    (there : cargo.IsAt ((m.amid world).console config).site.files m.host.directory sources specs)
    (success : d.value.status = .success ↔ ∃ files, cargo.classesIn session c.site = some files ∧
      Acknowledged (.ofMillis config.agent.connectTimeout) d.site.agents boot files)
    (agents : c'.site.agents = d.site.agents)
    (printed : c'.stdout = Setup.swapText i.json d.value) :
    (m.amid world).UploadCodes i sources specs boot
      (finish (.ok (if d.value.status = .success then 0 else 1), c')) := by
  obtain ⟨range, zero, one, two⟩ := exitCode_finish (d.value.status = .success) c'
  refine ⟨range, zero.trans (success.trans ?_), one.trans ?_, fun ends => absurd ends two⟩
  · constructor
    · rintro ⟨files, classes, acknowledged⟩
      exact ⟨config, session, c, files, d.site.agents, cargo, opens, there, classes,
        congrArg some agents, acknowledged⟩
    · rintro ⟨_, _, _, files, events, other, also, is, classes, ends, acknowledged⟩
      cases opens.configured.symm.trans also.configured
      cases opens.opened.symm.trans also.opened
      cases there.unique is
      cases ends.symm.trans (congrArg some agents)
      exact ⟨files, classes, acknowledged⟩
  · constructor
    · exact fun fails => ⟨d.value, fails, printed⟩
    · rintro ⟨report, other, same⟩ succeeds
      exact other (Setup.status_eq_of_swapText (printed.symm.trans same) ▸ succeeds)

section Opening

variable {result : Except String (Session History)} {session : Session History}
  {c : Console History}

/-- While a session is opened nothing is sent, and nothing is printed. -/
theorem rests_opened
    (opening : (((m.amid world).setup i config).openSession none).run.run
      ((m.amid world).console config) = (result, c)) :
    Attaching c.site.agents ∧ c.stdout = "" := by
  have attaching := attaching_opened m world i config none
  have quiet := stdout_opened i config (m.amid world) none
  rw [opening] at attaching quiet
  exact ⟨attaching, quiet⟩

/-- An upload in the session that the program has opened. -/
theorem uploadIn_opened
    (opening : (((m.amid world).setup i config).openSession none).run.run
      ((m.amid world).console config) = (.ok session, c)) (boot : Bool) (cargo : Cargo) :
    (cargo.uploadIn session boot c.site).value.status = .success ↔
      ∃ files, cargo.classesIn session c.site = some files ∧
        Acknowledged (.ofMillis config.agent.connectTimeout)
          (cargo.uploadIn session boot c.site).site.agents boot files := by
  obtain ⟨attaching, -⟩ := rests_opened opening
  obtain ⟨target, rfl⟩ := Setup.openSession_eq_ok _ _ opening
  have linked := sessionWith_amid m world i config none target
  exact cargo.uploadIn_success world (.ofMillis config.agent.connectTimeout)
    (.ofMillis config.agent.requestTimeout) linked.symm
    (Setup.confined_sessionWith _ none target) boot attaching.harmless

end Opening

theorem uploadCodes_of_run {sources specs : List String} {boot : Bool}
    (configured : (m.amid world).config (i.config.or m.configPath) = .ok config)
    {r : Except String Nat × Console History}
    (run : ((m.amid world).setup i config).UploadRun ((m.amid world).console config) sources specs
      boot r) : (m.amid world).UploadCodes i sources specs boot (finish r) := by
  cases run with
  | unread message none_ =>
    refine uploadCodes_failed rfl (stdout_start ..) (fun _ _ _ cargo opens => ?_) ?_
    · cases configured.symm.trans opens.configured
      exact none_ cargo
    · rintro other events - ⟨⟩ t
      exact (attaching_console m world config).sent_eq_nil _ t
  | @unopened message c opening =>
    obtain ⟨attaching, quiet⟩ := rests_opened opening
    refine uploadCodes_failed rfl quiet (fun _ _ _ _ opens => ?_) ?_
    · cases configured.symm.trans opens.configured
      cases opening.symm.trans opens.opened
    · rintro other events - ⟨⟩ t
      exact attaching.sent_eq_nil _ t
  | @reported cargo there session c opening d done =>
    have success := uploadIn_opened opening boot cargo
    rw [← done] at success
    obtain ⟨-, quiet⟩ := rests_opened opening
    obtain ⟨agents, -, printed⟩ :=
      Work.printed_followed (Setup.swapLines i.json d.value) c d
    rw [quiet, String.empty_append] at printed
    have code : (if d.value.isSuccess then 0 else 1) =
        if d.value.status = .success then 0 else 1 := by
      simp [SwapReport.isSuccess]
    rw [code]
    exact uploadCodes_reported ⟨configured, opening⟩ there success agents printed

end Machine

/-- A compilation has succeeded, and an attempt has been made to write each class file of it. -/
structure Writes (session : Session σ) (base : String) (d : Done σ CompileOutcome)
    (files : List ClassFile) (tree : FileTree) (report : SaveReport) : Prop where
  compiled : d.value.result = .ok files
  written : Save.writeClassFiles d.site.files session.directory base session.naming
    session.classSuffix files = (tree, .ok report)
  attempts : report.results.map (·.className) = files.map (·.className)

theorem judge_ne_nil {ending : CompilerEnd} {files : List ClassFile}
    (judged : Pipeline.judge ending = .ok files) : files ≠ [] := by
  have success : CompileOutcome.isSuccess ⟨Pipeline.judge ending, []⟩ = true := by
    rw [judged]
    rfl
  obtain ⟨made, some_, rfl⟩ := Pipeline.isSuccess_judge.mp success
  obtain ⟨file, rest, rfl⟩ := List.exists_cons_of_ne_nil some_
  cases judged
  rintro empty
  have perm := (Pipeline.sortedCopy_sortFiles (file :: rest)).perm
  rw [empty] at perm
  exact some_ perm.nil_eq.symm

theorem compiled_ne_nil {session : Session σ} {units : List SourceUnit} {site : Site σ}
    {files : List ClassFile} (compiled : (session.compile units site).value.result = .ok files) :
    files ≠ [] := by
  simp only [Session.compile, Pipeline.compileAt] at compiled
  split at compiled
  next => cases compiled
  next => exact judge_ne_nil compiled

namespace Machine

variable (m : Machine σ) (i : Invocation) (sources : List String) (naming : Option Naming)

/-- The program has read its sources, and has compiled them in a session. -/
def Compiles (config : Config) (session : Session σ) (d : Done σ CompileOutcome) : Prop :=
  ∃ c units, m.Opens i config naming session c ∧
    List.Forall₂ (SourceAt (m.console config).site.files m.host.directory) sources units ∧
    d = session.compile units c.site

/-- The account that a run gives of its class files, if it comes to that. -/
def Reports (out : Option String) (config : Config) (report : SaveReport) : Prop :=
  ∃ session d files tree, m.Compiles i sources naming config session d ∧
    Writes session ((m.setup i config).base out) d files tree report

/-- The files of a run that has written no class file: but for lines in the log they are what they
were at the start or, if it came to that, what the compiler has left. -/
inductive Unwritten : FileTree → Prop
  | unconfigured {message : String}
      (unusable : m.config (i.config.or m.configPath) = .error message) : Unwritten m.files
  | uncompiled {config : Config} {tree : FileTree}
      (configured : m.config (i.config.or m.configPath) = .ok config)
      (logged : Logged (m.console config).logger.file (m.console config).site.files tree) :
      Unwritten tree
  | unsaved {config : Config} {session : Session σ} {d : Done σ CompileOutcome} {tree : FileTree}
      (compiles : m.Compiles i sources naming config session d)
      (logged : Logged (m.console config).logger.file d.site.files tree) : Unwritten tree

/-- What the exit code says of a compilation. -/
structure CompileCodes (out : Option String) (f : Finish σ) : Prop where
  range : f.exitCode = 0 ∨ f.exitCode = 1 ∨ f.exitCode = 2
  saved : f.exitCode = 0 ↔ ∃ config session d files tree report,
    m.Compiles i sources naming config session d ∧
    Writes session ((m.setup i config).base out) d files tree report ∧
    (∀ r ∈ report.results, r.isSaved) ∧ Logged (m.console config).logger.file tree f.files
  failed : f.exitCode = 1 ↔ ∃ config session d, m.Compiles i sources naming config session d ∧
    ((∃ e, d.value.result = .error e) ∨ ∃ files tree report,
      Writes session ((m.setup i config).base out) d files tree report ∧
      ∃ r ∈ report.results, ¬ r.isSaved)
  unwritten : f.exitCode = 2 → m.Unwritten i sources naming f.files

variable {m i sources naming} {config : Config} {out : Option String}

theorem Compiles.unique {session session' : Session σ} {d d' : Done σ CompileOutcome}
    {config' : Config} (compiles : m.Compiles i sources naming config session d)
    (also : m.Compiles i sources naming config' session' d') :
    config' = config ∧ session' = session ∧ d' = d := by
  obtain ⟨c, units, opens, there, rfl⟩ := compiles
  obtain ⟨c', units', opens', there', rfl⟩ := also
  cases opens.configured.symm.trans opens'.configured
  cases opens.opened.symm.trans opens'.opened
  cases (sourceAt_unique _ _).forall₂ there there'
  exact ⟨rfl, rfl, rfl⟩

/-- A program that fails before it compiles anything ends with 2. -/
theorem compileCodes_failed {f : Finish σ} (two : f.exitCode = 2)
    (fails : ∀ config session d, ¬ m.Compiles i sources naming config session d)
    (unwritten : m.Unwritten i sources naming f.files) :
    m.CompileCodes i sources naming out f where
  range := .inr (.inr two)
  saved := by
    rw [two]
    exact ⟨nofun, fun ⟨_, _, _, _, _, _, compiles, _⟩ => (fails _ _ _ compiles).elim⟩
  failed := by
    rw [two]
    exact ⟨nofun, fun ⟨_, _, _, compiles, _⟩ => (fails _ _ _ compiles).elim⟩
  unwritten _ := unwritten

section Worked

variable {session : Session σ} {c' : Console σ} {compilation : Done σ CompileOutcome}
  (compiles : m.Compiles i sources naming config session compilation)
include compiles

theorem compileCodes_uncompiled {e : CompileError} (failed : compilation.value.result = .error e) :
    m.CompileCodes i sources naming out (finish (.ok 1, c')) where
  range := .inr (.inl rfl)
  saved := by
    refine ⟨nofun, ?_⟩
    rintro ⟨_, _, _, _, _, _, also, writes, -⟩
    obtain ⟨rfl, rfl, rfl⟩ := compiles.unique also
    cases failed.symm.trans writes.compiled
  failed := ⟨fun _ => ⟨_, _, _, compiles, .inl ⟨e, failed⟩⟩, fun _ => rfl⟩
  unwritten := nofun

theorem compileCodes_refused {files : List ClassFile} {e : AmbiguousTarget} {message : String}
    (compiled : compilation.value.result = .ok files)
    (refused : Save.writeClassFiles compilation.site.files session.directory
      ((m.setup i config).base out) session.naming session.classSuffix files =
        (compilation.site.files, .error e))
    (logged : Logged (m.console config).logger.file compilation.site.files c'.site.files) :
    m.CompileCodes i sources naming out (finish (.error message, c')) := by
  have unwritten (other : List ClassFile) (tree : FileTree) (report : SaveReport) :
      ¬ Writes session ((m.setup i config).base out) compilation other tree report := by
    intro writes
    cases compiled.symm.trans writes.compiled
    cases refused.symm.trans writes.written
  refine ⟨.inr (.inr rfl), ⟨nofun, ?_⟩, ⟨nofun, ?_⟩, fun _ => .unsaved compiles logged⟩
  · rintro ⟨_, _, _, _, _, _, also, writes, -⟩
    obtain ⟨rfl, rfl, rfl⟩ := compiles.unique also
    exact (unwritten _ _ _ writes).elim
  · rintro ⟨_, _, _, also, ⟨e, failed⟩ | ⟨_, _, _, writes, -⟩⟩
    · obtain ⟨rfl, rfl, rfl⟩ := compiles.unique also
      cases failed.symm.trans compiled
    · obtain ⟨rfl, rfl, rfl⟩ := compiles.unique also
      exact (unwritten _ _ _ writes).elim

theorem compileCodes_attempted {files : List ClassFile} {tree : FileTree} {report : SaveReport}
    (writes : Writes session ((m.setup i config).base out) compilation files tree report)
    (all : report.outcome = .allSaved ↔ ∀ r ∈ report.results, r.isSaved)
    (logged : Logged (m.console config).logger.file tree c'.site.files) :
    m.CompileCodes i sources naming out
      (finish (.ok (if report.outcome = .allSaved then 0 else 1), c')) := by
  have same {other : List ClassFile} {tree' : FileTree} {report' : SaveReport}
      (also : Writes session ((m.setup i config).base out) compilation other tree' report') :
      report' = report := by
    cases writes.compiled.symm.trans also.compiled
    cases writes.written.symm.trans also.written
    rfl
  obtain ⟨range, zero, one, two⟩ := exitCode_finish (report.outcome = .allSaved) c'
  refine ⟨range, zero.trans (all.trans ?_), one.trans ((not_congr all).trans ?_),
    fun ends => absurd ends two⟩
  · constructor
    · exact fun saved => ⟨_, _, _, _, _, _, compiles, writes, saved, logged⟩
    · rintro ⟨_, _, _, _, _, _, also, written, saved, -⟩
      obtain ⟨rfl, rfl, rfl⟩ := compiles.unique also
      exact same written ▸ saved
  · constructor
    · intro some_
      exact ⟨_, _, _, compiles, .inr ⟨_, _, _, writes, by simpa using some_⟩⟩
    · rintro ⟨_, _, _, also, ⟨e, failed⟩ | ⟨_, _, _, written, r, mem, unsaved⟩⟩ saved
      · obtain ⟨rfl, rfl, rfl⟩ := compiles.unique also
        cases failed.symm.trans writes.compiled
      · obtain ⟨rfl, rfl, rfl⟩ := compiles.unique also
        exact unsaved (saved r (same written ▸ mem))

end Worked

/-- A program that has compiled its sources ends as the compilation and the saving do. -/
theorem compileCodes_worked {session : Session σ} {c c' : Console σ} {units : List SourceUnit}
    (opens : m.Opens i config naming session c)
    (there : List.Forall₂ (SourceAt (m.console config).site.files m.host.directory) sources
      units)
    (logged : Logged (m.console config).logger.file
      (session.compileAndSave units ((m.setup i config).base out) c.site).site.files
      c'.site.files)
    (shows : ∀ report, m.Reports i sources naming out config report →
      (m.setup i config).Shows report) :
    m.CompileCodes i sources naming out (finish ((m.setup i config).saveCode
      (session.compileAndSave units ((m.setup i config).base out) c.site).value, c')) := by
  have compiles : m.Compiles i sources naming config session (session.compile units c.site) :=
    ⟨c, units, opens, there, rfl⟩
  cases compiled : (session.compile units c.site).value.result with
  | error e =>
    rw [Session.compileAndSave_error _ compiled]
    exact compileCodes_uncompiled compiles compiled
  | ok files =>
    rw [Session.compileAndSave_ok _ compiled] at logged ⊢
    have settles := Save.settles_writeAll (session.compile units c.site).site.files
      session.directory ((m.setup i config).base out) session.naming session.classSuffix
      (files.map Save.Item.ofClassFile)
    change Save.Settles _ _ _ _ _ _ (Save.writeClassFiles ..) at settles
    rcases written : Save.writeClassFiles (session.compile units c.site).site.files
      session.directory ((m.setup i config).base out) session.naming session.classSuffix files
        with ⟨tree, e | report⟩
    all_goals
      rw [Session.saveClassFiles, written] at logged ⊢
      rw [written] at settles
    · cases settles.untouched e rfl
      exact compileCodes_refused compiles compiled written logged
    · have accounted := settles.accounted report rfl
      have attempts : report.results.map (·.className) = files.map (·.className) := by
        simpa [List.map_map, Function.comp_def, Save.Item.ofClassFile] using
          congrArg (List.map Prod.fst) accounted.results
      have all : report.outcome = .allSaved ↔ ∀ r ∈ report.results, r.isSaved := by
        rw [accounted.allSaved, and_iff_right]
        simpa using compiled_ne_nil compiled
      have writes : Writes session ((m.setup i config).base out) (session.compile units c.site)
        files tree report := ⟨compiled, written, attempts⟩
      change m.CompileCodes i sources naming out
        (finish ((m.setup i config).saveCode (.ok report), c'))
      rw [Setup.saveCode, if_pos (shows report ⟨_, _, _, _, compiles, writes⟩)]
      exact compileCodes_attempted compiles writes all logged

theorem Opens.logged_printed {session : Session σ} {c : Console σ} {α : Type}
    (opens : m.Opens i config naming session c) (lines : List String) (d : Done σ α) :
    Logged (m.console config).logger.file d.site.files
      (lines.foldl Console.print (Work.followed c d)).site.files := by
  have attended := (m.setup i config).attended (m.console config) naming
  rw [opens.opened] at attended
  obtain ⟨-, logged, -⟩ := Work.printed_followed lines c d
  rwa [attended.logger] at logged

theorem compileCodes_of_run (configured : m.config (i.config.or m.configPath) = .ok config)
    {r : Except String Nat × Console σ}
    (run : (m.setup i config).CompileRun (m.console config) sources out naming r)
    (shows : ∀ report, m.Reports i sources naming out config report →
      (m.setup i config).Shows report) : m.CompileCodes i sources naming out (finish r) := by
  cases run with
  | unread message none_ =>
    refine compileCodes_failed rfl ?_ (.uncompiled configured (.refl _ _))
    rintro other session d ⟨c, units, opens, there, -⟩
    cases configured.symm.trans opens.configured
    exact none_ units there
  | @unopened message c opening =>
    have attended := (m.setup i config).attended (m.console config) naming
    rw [opening] at attended
    refine compileCodes_failed rfl ?_ (.uncompiled configured attended.files)
    rintro other session d ⟨c', units, opens, -⟩
    cases configured.symm.trans opens.configured
    cases opening.symm.trans opens.opened
  | @worked units there session c opening d done lines =>
    subst done
    have opens : m.Opens i config naming session c := ⟨configured, opening⟩
    exact compileCodes_worked opens there (opens.logged_printed lines _) shows

theorem run_of_parsed (m : Machine σ) {arguments : List String} {i : Invocation}
    (parsed : parse arguments = .ok i) :
    m.run arguments = match m.config (i.config.or m.configPath) with
      | .error message => m.leave 2 "" (message ++ "\n")
      | .ok config => m.carryOut i config := by
  cases configured : m.config (i.config.or m.configPath) <;> simp only [run, parsed, configured]

theorem uploadCodes_of_parsed {m : Machine History} {arguments sources specs : List String}
    {boot : Bool} (parsed : parse arguments = .ok i)
    (command : i.command = .upload sources specs boot) :
    (m.amid world).UploadCodes i sources specs boot ((m.amid world).run arguments) := by
  rw [run_of_parsed _ parsed]
  cases configured : (m.amid world).config (i.config.or (m.amid world).configPath) with
  | error message =>
    refine uploadCodes_failed rfl rfl (fun _ _ _ _ opens => ?_) nofun
    cases configured.symm.trans opens.configured
  | ok config =>
    dsimp only
    rw [carryOut_eq, command]
    exact uploadCodes_of_run configured (Setup.uploadRun _ _ sources specs boot)

theorem compileCodes_of_parsed {m : Machine σ} {arguments sources : List String}
    {out : Option String} {naming : Option Naming} (parsed : parse arguments = .ok i)
    (command : i.command = .compile sources out naming)
    (shows : ∀ config report, m.Reports i sources naming out config report →
      (m.setup i config).Shows report) :
    m.CompileCodes i sources naming out (m.run arguments) := by
  rw [run_of_parsed _ parsed]
  cases configured : m.config (i.config.or m.configPath) with
  | error message =>
    refine compileCodes_failed rfl ?_ (.unconfigured configured)
    rintro other session d ⟨c, units, opens, -⟩
    cases configured.symm.trans opens.configured
  | ok config =>
    dsimp only
    rw [carryOut_eq, command]
    exact compileCodes_of_run configured (Setup.compileRun _ _ sources out naming) (shows config)

/-- A report that cannot be printed ends the program with 2, and the class files stay. -/
theorem exitCode_unshown {m : Machine σ} {i : Invocation} {config : Config}
    {arguments sources : List String} {out : Option String} {naming : Option Naming}
    {session : Session σ} {d : Done σ CompileOutcome} {files : List ClassFile} {tree : FileTree}
    {report : SaveReport} (parsed : parse arguments = .ok i)
    (command : i.command = .compile sources out naming)
    (compiles : m.Compiles i sources naming config session d)
    (writes : Writes session ((m.setup i config).base out) d files tree report)
    (hidden : ¬ (m.setup i config).Shows report) :
    (m.run arguments).exitCode = 2 ∧
      Logged (m.console config).logger.file tree (m.run arguments).files := by
  obtain ⟨c, units, opens, there, rfl⟩ := compiles
  rw [run_of_parsed m parsed, opens.configured]
  dsimp only
  rw [carryOut_eq, command]
  have run := Setup.compileRun (m.setup i config) (m.console config) sources out naming
  change (finish ((Setup.compile _ sources out naming).run.run _)).exitCode = 2 ∧
    Logged _ tree (finish ((Setup.compile _ sources out naming).run.run _)).files
  generalize ((m.setup i config).compile sources out naming).run.run (m.console config) = r at run ⊢
  cases run with
  | unread message none_ => exact absurd there (none_ units)
  | unopened opening => cases opening.symm.trans opens.opened
  | @worked units' there' session' c' opening d done lines =>
    cases opening.symm.trans opens.opened
    cases (sourceAt_unique _ _).forall₂ there there'
    rw [Session.compileAndSave_ok _ writes.compiled, Session.saveClassFiles, writes.written] at done
    have logged := opens.logged_printed lines d
    rw [done] at logged
    have code : (m.setup i config).saveCode d.value =
        .error "path contains invalid UTF-8 characters" := by
      rw [done]
      exact if_neg hidden
    rw [code]
    exact ⟨rfl, done ▸ logged⟩

/-- The exit code tells what has come of a command, whatever the configuration, the files, and
those around the program are like. An upload ends with 0 exactly if the agent has acknowledged one
upload of the classes that were given or compiled, with 1 exactly if a report with another status
was printed, and with 2 only if nothing has been sent. A compilation whose report can be printed
ends with 0 exactly if it has succeeded and all its class files are saved, with 1 exactly if it has
failed or some class file was attempted and not saved, and with 2 only if no class file has been
written; one whose report cannot be printed ends with 2, and its class files stay. -/
theorem exit_codes (m : Machine History) (world : Surroundings) (arguments : List String)
    (i : Invocation) (parsed : parse arguments = .ok i) :
    (∀ sources specs boot, i.command = .upload sources specs boot →
      (m.amid world).UploadCodes i sources specs boot ((m.amid world).run arguments)) ∧
    ∀ sources out naming, i.command = .compile sources out naming →
      ((∀ config report, (m.amid world).Reports i sources naming out config report →
          ((m.amid world).setup i config).Shows report) →
        (m.amid world).CompileCodes i sources naming out ((m.amid world).run arguments)) ∧
      ∀ config session d files tree report,
        (m.amid world).Compiles i sources naming config session d →
        Writes session (((m.amid world).setup i config).base out) d files tree report →
        ¬ ((m.amid world).setup i config).Shows report →
        ((m.amid world).run arguments).exitCode = 2 ∧
          Logged ((m.amid world).console config).logger.file tree
            ((m.amid world).run arguments).files := by
  refine ⟨fun sources specs boot command => uploadCodes_of_parsed parsed command,
    fun sources out naming command => ⟨compileCodes_of_parsed parsed command, ?_⟩⟩
  intro config session d files tree report compiles writes hidden
  exact exitCode_unshown parsed command compiles writes hidden

def acknowledgement : Bytes :=
  Frame.payloadOf (Response.json { id := 1, action := .uploadClass, status := .ok })

/-- An agent that accepts the one class that is sent to it, before the time is over or later. -/
def accepting (inTime : Bool) : Surroundings where
  course t operation _ :=
    match operation with
    | .attach _ => [(t, .grant)]
    | .send (.uploadClass ..) _ =>
      (.grant :: .choose :: .dialed .connected :: .enter :: .register :: .wrote .written ::
        if inTime then [.received 0 acknowledgement, .wake false]
        else [.wake true, .wake true, .received 0 acknowledgement]).map (t, ·)
    | .send .. => []
  passive _ operation _ _ := by
    split
    next => rfl
    next => cases inTime <;> rfl
    next => rfl

/-- A machine with a class file, a source, a configuration that has nothing logged, and a compiler
that makes one class of whatever it gets. -/
def sampleMachine : Machine History where
  host :=
    { directory := [], searchPath := ["/bin"]
      run := fun _ files _ =>
        { files := files.put ["tmp", "hotline-javac-000000", "out", "A.class"] (.file [1] false) } }
  files := ⟨[(["A.class"], .file [1] false), (["A.java"], .file (Utf8.ofString "class A") false),
    (["quiet.toml"], .file (Utf8.ofString "[logging]\nlevel = '[]'") false),
    (["tmp"], .directory), (["bin"], .directory), (["bin", "javac"], .file [] true)]⟩
  connect := fun _ => (link ⟨0⟩ (accepting true).course ⟨0⟩, [])
  configPath := some "quiet.toml"
  time := ""

def sampleUpload : Finish History :=
  (sampleMachine.amid (accepting true)).run ["upload", "--port", "6712", "--class", "p.A=A.class"]

def sampleCompile : Finish History :=
  (sampleMachine.amid (accepting true)).run ["compile", "--fs", "--out", "classes", "A.java"]

theorem exit_codes_sample :
    sampleUpload.exitCode = 0 ∧ sampleCompile.exitCode = 0 ∧
    (∃ events, sampleUpload.channel = some events ∧
      Acknowledged (.ofMillis ({} : Config.Agent).connectTimeout) events false
        [⟨⟨"p.A"⟩, [1]⟩]) ∧
    ∃ (files : List ClassFile) (report : SaveReport), files ≠ [] ∧
      report.results.map (·.className) = files.map (·.className) ∧
      ∀ r ∈ report.results, r.isSaved := by
  have uploads := (exit_codes sampleMachine (accepting true)
    ["upload", "--port", "6712", "--class", "p.A=A.class"]
    { target := { port := some 6712 }, command := .upload [] ["p.A=A.class"] false }
    (by decide +kernel)).1 [] ["p.A=A.class"] false rfl
  have compiles := (exit_codes sampleMachine (accepting true)
    ["compile", "--fs", "--out", "classes", "A.java"]
    { target := { fileSystem := true }, command := .compile ["A.java"] (some "classes") none }
    (by decide +kernel)).2 ["A.java"] (some "classes") none rfl
  have compiles := compiles.1 fun _ _ _ => nofun
  have uploaded : sampleUpload.exitCode = 0 := by decide +kernel
  have compiled : sampleCompile.exitCode = 0 := by decide +kernel
  refine ⟨uploaded, compiled, ?_, ?_⟩
  · obtain ⟨config, session, c, files, events, cargo, opens, there, classes, ends, acknowledged⟩ :=
      uploads.acknowledged.mp uploaded
    have quiet : (sampleMachine.amid (accepting true)).config (some "quiet.toml") =
        .ok { logging := { level := "[]" } } := by decide +kernel
    obtain rfl := Except.ok.inj (quiet.symm.trans opens.configured)
    have given : (Cargo.classFiles [⟨⟨"p.A"⟩, [1]⟩]).IsAt sampleMachine.files [] []
        ["p.A=A.class"] :=
      ⟨nofun, .cons ⟨"p.A".toList, "A.class".toList, by decide +kernel, by decide +kernel,
        by decide +kernel⟩ .nil⟩
    obtain rfl := given.unique there
    obtain rfl := Option.some.inj classes
    exact ⟨events, ends, acknowledged⟩
  · obtain ⟨_, _, _, files, _, report, ⟨_, _, _, _, rfl⟩, writes, saved, -⟩ :=
      compiles.saved.mp compiled
    exact ⟨files, report, compiled_ne_nil writes.compiled, writes.attempts, saved⟩

def lateUpload : Finish History :=
  (sampleMachine.amid (accepting false)).run ["upload", "--port", "6712", "--class", "p.A=A.class"]

/-- The class file is saved where its path is not Unicode. -/
def foreignCompile : Finish History :=
  let host := { sampleMachine.host with isUnicode := fun path => path != "classes/A.class" }
  (Machine.amid { sampleMachine with host } (accepting true)).run
    ["--json", "compile", "--fs", "--out", "classes", "A.java"]

/-- A class that the agent has acknowledged may end with 1, and a class file that was saved with
2. -/
theorem exit_codes_amiss :
    (lateUpload.exitCode = 1 ∧
      (Target.remote "127.0.0.1" 6712, .received 0 acknowledgement) ∈
        lateUpload.channel.getD []) ∧
    foreignCompile.exitCode = 2 ∧
      (foreignCompile.files.read [] "classes/A.class").toOption = some [1] := by
  decide +kernel

end Machine

end ClassSwap.CommandLine
