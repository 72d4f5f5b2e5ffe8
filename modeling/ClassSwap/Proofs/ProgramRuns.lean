import ClassSwap.CommandLine.Run
import ClassSwap.Proofs.Attempts
import ClassSwap.Proofs.TreeChanges
import Mathlib.Data.List.Forall2

namespace ClassSwap.CommandLine

variable {σ : Type}

/-- Lines have been added to a log file, if there is one; nothing else has changed. -/
def Logged (file : Option Place) (before after : FileTree) : Prop :=
  match file with
  | none => after = before
  | some place =>
    ∃ lines : List Bytes, after = lines.foldl (fun tree line => tree.append place line) before

theorem Logged.refl (file : Option Place) (tree : FileTree) : Logged file tree tree := by
  cases file with
  | none => rfl
  | some place => exact ⟨[], rfl⟩

theorem Logged.trans {file : Option Place} {before between after : FileTree}
    (first : Logged file before between) (later : Logged file between after) :
    Logged file before after := by
  cases file with
  | none => exact Eq.trans later first
  | some place =>
    obtain ⟨lines, rfl⟩ := first
    obtain ⟨more, rfl⟩ := later
    exact ⟨lines ++ more, List.foldl_append.symm⟩

theorem Logged.find? {file : Option Place} {before after : FileTree} (h : Logged file before after)
    {q : Place} (other : file ≠ some q) : after.find? q = before.find? q := by
  cases file with
  | none => exact congrArg (FileTree.find? · q) h
  | some place =>
    obtain ⟨lines, rfl⟩ := h
    induction lines generalizing before with
    | nil => rfl
    | cons line rest ih =>
      rw [List.foldl_cons, ih, FileTree.append]
      split
      next found =>
        rw [FileTree.find?_put _ (FileTree.Grows.ne_nil_of_find? found nofun), if_neg]
        exact fun same => other (congrArg some same.symm)
      next => rfl

namespace Console

variable {c c' : Console σ}

/-- What has been noted on a console has gone to its log and to the error stream. -/
structure Noted (c c' : Console σ) : Prop where
  agents : c'.site.agents = c.site.agents
  files : Logged c.logger.file c.site.files c'.site.files
  logger : c'.logger = c.logger
  stdout : c'.stdout = c.stdout

theorem Noted.refl (c : Console σ) : Noted c c := ⟨rfl, .refl _ _, rfl, rfl⟩

theorem Noted.trans {c'' : Console σ} (first : Noted c c') (later : Noted c' c'') :
    Noted c c'' where
  agents := later.agents.trans first.agents
  files := first.files.trans (first.logger ▸ later.files)
  logger := later.logger.trans first.logger
  stdout := later.stdout.trans first.stdout

theorem noted_log (c : Console σ) (e : LogEvent) : Noted c (c.log e) := by
  unfold log
  split
  next =>
    constructor
    case files =>
      cases file : c.logger.file with
      | none => exact rfl
      | some place => exact ⟨[_], rfl⟩
    case agents => cases c.logger.file <;> rfl
    all_goals rfl
  next => exact .refl c

theorem noted_notice (c : Console σ) (n : Notice) : Noted c (c.notice n) := by
  cases n with
  | event e => exact noted_log c e
  | told e =>
    cases e with
    | diagnostic line => exact ⟨rfl, .refl _ _, rfl, rfl⟩
    | compileFinished | saveFinished => exact noted_log c _
    | uploadFinished result => cases result <;> exact noted_log c _

theorem noted_notices (notices : List Notice) (c : Console σ) :
    Noted c (notices.foldl notice c) := by
  induction notices generalizing c with
  | nil => exact .refl c
  | cons n rest ih => exact (noted_notice c n).trans (ih _)

/-- The program starts without any output. -/
theorem stdout_start (settings : Config.Logging) (directives : Option String) (time : String)
    (here : Place) (site : Site σ) : (start settings directives time here site).stdout = "" := by
  unfold start
  split
  next => rfl
  next =>
    split
    next => rfl
    next => exact (noted_log _ _).stdout

theorem agents_start (settings : Config.Logging) (directives : Option String) (time : String)
    (here : Place) (site : Site σ) :
    (start settings directives time here site).site.agents = site.agents := by
  unfold start
  split
  next => rfl
  next =>
    split
    next => rfl
    next => exact (noted_log _ _).agents

def linesText (lines : List String) : String := String.join (lines.map (· ++ "\n"))

theorem foldl_print (lines : List String) (c : Console σ) :
    lines.foldl print c = { c with stdout := c.stdout ++ linesText lines } := by
  induction lines generalizing c with
  | nil => simp [linesText]
  | cons line rest ih => simp [ih, print, linesText, String.join_cons, String.append_assoc]

end Console

open Console Work

namespace Work

variable {α β : Type} {c : Console σ}

def followed (c : Console σ) (d : Done σ α) : Console σ :=
  d.notices.foldl notice { c with site := d.site }

theorem noted_followed (c : Console σ) (d : Done σ α) :
    Noted { c with site := d.site } (followed c d) := noted_notices _ _

/-- What is done in a session stands as it is when its outcome has been printed. -/
theorem printed_followed (lines : List String) (c : Console σ) (d : Done σ α) :
    let c' := lines.foldl Console.print (followed c d)
    c'.site.agents = d.site.agents ∧ Logged c.logger.file d.site.files c'.site.files ∧
      c'.stdout = c.stdout ++ linesText lines := by
  have noted := noted_followed c d
  intro c'
  have printed : c' = { followed c d with stdout := (followed c d).stdout ++ linesText lines } :=
    foldl_print lines _
  rw [printed]
  exact ⟨noted.agents, noted.files, congrArg (· ++ linesText lines) noted.stdout⟩

theorem run_carryOut (f : Site σ → Done σ α) (c : Console σ) :
    (carryOut f).run.run c = (.ok (f c.site).value, followed c (f c.site)) := rfl

theorem run_orFail {ε : Type} (message : ε → String) (context : String) (result : Except ε α)
    (c : Console σ) : (orFail message context result : Work σ α).run.run c =
      (result.mapError fun e => context ++ message e, c) := by
  cases result <;> rfl

theorem run_print (line : String) (c : Console σ) :
    (print line).run.run c = (.ok (), c.print line) := rfl

theorem run_printEach (line : α → String) (xs : List α) (c : Console σ) :
    (xs.forM fun x => print (line x)).run.run c =
      (.ok (), (xs.map line).foldl Console.print c) := by
  induction xs generalizing c with
  | nil => rfl
  | cons x rest ih =>
    change (print (line x) >>= fun _ => rest.forM fun x => print (line x)).run.run c = _
    rw [run_bind (run_print _ c)]
    exact ih _

/-- A part of the work that only looks: it leaves the console as it is, and comes to what it looks
for if that is there. -/
def Finds (c : Console σ) (w : Work σ α) (sought : α → Prop) : Prop :=
  ∃ result, w.run.run c = (result, c) ∧ ∀ a, result = .ok a ↔ sought a

theorem finds_orFail {ε : Type} (message : ε → String) (context : String) (result : Except ε α)
    (c : Console σ) :
    Finds c (orFail message context result : Work σ α) fun a => result = .ok a := by
  refine ⟨_, run_orFail message context result c, fun a => ?_⟩
  cases result <;> simp [Except.mapError]

theorem Finds.cons {ω : Type} {one : Work σ α} {rest : Work σ (List α)} (sought : ω → α → Prop)
    {x : ω} {xs : List ω} (first : Finds c one (sought x))
    (later : Finds c rest (List.Forall₂ sought xs)) :
    Finds c (do return (← one) :: (← rest)) (List.Forall₂ sought (x :: xs)) := by
  obtain ⟨result, run, found⟩ := first
  cases result with
  | error message =>
    refine ⟨.error message, run_bind_error run _, fun as => ⟨nofun, fun all => ?_⟩⟩
    cases all with
    | cons head _ => cases (found _).mpr head
  | ok a =>
    obtain ⟨results, runs, founds⟩ := later
    cases results with
    | error message =>
      refine ⟨.error message, ?_, fun as => ⟨nofun, fun all => ?_⟩⟩
      · rw [run_bind run, run_bind_error runs]
      · cases all with
        | cons _ tail => cases (founds _).mpr tail
    | ok as =>
      refine ⟨.ok (a :: as), ?_, fun all => ⟨fun same => ?_, fun all => ?_⟩⟩
      · rw [run_bind run, run_bind runs]
        rfl
      · cases same
        exact .cons ((found a).mp rfl) ((founds as).mp rfl)
      · cases all with
        | cons head tail =>
          cases (found _).mpr head
          cases (founds _).mpr tail
          rfl

end Work

def SourceAt (tree : FileTree) (here : Place) (path : String) (unit : SourceUnit) : Prop :=
  Source.load tree here path = .ok unit

/-- A class file that is given as a name and a path: the name without the white space around it, and
the bytes of the file. -/
def ClassAt (tree : FileTree) (here : Place) (spec : String) (file : ClassFile) : Prop :=
  ∃ name path, splitAtFirst '=' spec.toList = some (name, path) ∧
    file.className = ⟨String.ofList (trimBlank name)⟩ ∧
    tree.read here (String.ofList path) = .ok file.bytes

theorem sourceAt_unique (tree : FileTree) (here : Place) :
    Relator.RightUnique (SourceAt tree here) :=
  fun _ _ _ one other => Except.ok.inj (one.symm.trans other)

theorem classAt_unique (tree : FileTree) (here : Place) :
    Relator.RightUnique (ClassAt tree here) := by
  rintro spec ⟨own, bytes⟩ ⟨own', bytes'⟩ ⟨name, path, parts, rfl, read⟩
    ⟨name', path', parts', rfl, read'⟩
  cases parts.symm.trans parts'
  cases read.symm.trans read'
  rfl

namespace Setup

variable (s : Setup σ) (c : Console σ)

theorem finds_sources (paths : List String) :
    Finds c (s.loadSources paths) (List.Forall₂ (SourceAt c.site.files s.here) paths) := by
  induction paths with
  | nil => exact ⟨.ok [], rfl, by simp [eq_comm]⟩
  | cons path rest ih =>
    exact Finds.cons (SourceAt c.site.files s.here) (finds_orFail _ _ _ c) ih

def loadClassFile (spec : String) : Work σ ClassFile :=
  match splitAtFirst '=' spec.toList with
  | none => throw ("expected FQN=PATH, got \x60" ++ spec ++ "\x60")
  | some (name, path) => do
    let bytes ← orFail OsError.message ("failed to read " ++ String.ofList path ++ ": ")
      ((← files).read s.here (String.ofList path))
    return ⟨⟨String.ofList (trimBlank name)⟩, bytes⟩

theorem loadClassFiles_cons (spec : String) (rest : List String) :
    s.loadClassFiles (spec :: rest) =
      (do return (← s.loadClassFile spec) :: (← s.loadClassFiles rest)) := by
  rw [loadClassFiles, loadClassFile]
  cases splitAtFirst '=' spec.toList with
  | none => rfl
  | some parts => simp

theorem finds_classFile (spec : String) :
    Finds c (s.loadClassFile spec) (ClassAt c.site.files s.here spec) := by
  unfold loadClassFile ClassAt
  split
  next unnamed => exact ⟨_, rfl, by simp [unnamed]⟩
  next name path parts =>
    obtain ⟨result, run, found⟩ := finds_orFail (σ := σ) OsError.message
      ("failed to read " ++ String.ofList path ++ ": ")
      (c.site.files.read s.here (String.ofList path)) c
    cases result with
    | error message =>
      refine ⟨.error message, run_bind_error run _, fun file => ⟨nofun, ?_⟩⟩
      rintro ⟨_, _, same, -, read⟩
      cases parts.symm.trans same
      cases (found _).mpr read
    | ok bytes =>
      refine ⟨_, run_bind run _, fun file => ⟨?_, ?_⟩⟩
      · rintro ⟨⟩
        exact ⟨name, path, parts, rfl, (found bytes).mp rfl⟩
      · rintro ⟨_, _, same, own, read⟩
        cases parts.symm.trans same
        cases (found _).mpr read
        rw [← own]

theorem finds_classFiles (specs : List String) :
    Finds c (s.loadClassFiles specs) (List.Forall₂ (ClassAt c.site.files s.here) specs) := by
  induction specs with
  | nil => exact ⟨.ok [], rfl, by simp [eq_comm]⟩
  | cons spec rest ih =>
    rw [loadClassFiles_cons]
    exact Finds.cons (ClassAt c.site.files s.here) (s.finds_classFile c spec) ih

def sessionWith (naming : Option Naming) (target : Target) : Session σ :=
  { target
    link := s.link
    compiler := Javac.compiler s.host s.javac
    directory := s.here
    naming := naming.getD s.config.save.naming
    classSuffix := s.config.save.classSuffix
    uploadTimeout := .ofMillis s.config.agent.uploadTimeout }

/-- What comes of opening a session: there is no target, or it cannot be attached, or it is. -/
inductive Opening (naming : Option Naming) : Except String (Session σ) × Console σ → Prop
  | nowhere (message : String) : Opening naming (.error message, c)
  | refused (target : Target) (endpoint : Option Endpoint) (message : String) :
      Opening naming (.error message,
        followed c ((s.sessionWith naming target).attach endpoint c.site))
  | opened (target : Target) (endpoint : Option Endpoint) :
      Opening naming (.ok (s.sessionWith naming target),
        followed c ((s.sessionWith naming target).attach endpoint c.site))

theorem opening (naming : Option Naming) :
    s.Opening c naming ((s.openSession naming).run.run c) := by
  cases resolved : s.target.resolve s.config.agent with
  | error message =>
    have run : (s.openSession naming).run.run c = (.error ("" ++ id message), c) := by
      refine run_bind_error ?_ _
      rw [resolved, run_orFail]
      rfl
    rw [run]
    exact .nowhere _
  | ok found =>
    obtain ⟨target, endpoint⟩ := found
    simp only [openSession, resolved, orFail, pure_bind]
    change s.Opening c naming
      ((carryOut ((s.sessionWith naming target).attach endpoint) >>= _ : Work σ _).run.run c)
    rw [run_bind (run_carryOut _ c)]
    cases ((s.sessionWith naming target).attach endpoint c.site).value with
    | error e => exact .refused target endpoint _
    | ok => exact .opened target endpoint

/-- What opening a session leaves as it is: it attaches the target at most, and notes that. -/
structure Attended (naming : Option Naming) (c c' : Console σ) : Prop where
  agents : c'.site.agents = c.site.agents ∨ ∃ target endpoint, c'.site.agents =
    ((s.sessionWith naming target).attach endpoint c.site).site.agents
  files : Logged c.logger.file c.site.files c'.site.files
  logger : c'.logger = c.logger
  stdout : c'.stdout = c.stdout

theorem attended (naming : Option Naming) :
    s.Attended naming c ((s.openSession naming).run.run c).2 := by
  have attach (target : Target) (endpoint : Option Endpoint) : s.Attended naming c
      (followed c ((s.sessionWith naming target).attach endpoint c.site)) := by
    have noted := noted_followed c ((s.sessionWith naming target).attach endpoint c.site)
    have kept :
        ((s.sessionWith naming target).attach endpoint c.site).site.files = c.site.files := by
      unfold Session.attach
      split
      next => rfl
      next => split <;> rfl
    exact ⟨.inr ⟨target, endpoint, noted.agents⟩, kept ▸ noted.files, noted.logger, noted.stdout⟩
  have opening := s.opening c naming
  generalize (s.openSession naming).run.run c = run at opening ⊢
  cases opening with
  | nowhere message => exact ⟨.inl rfl, .refl _ _, rfl, rfl⟩
  | refused target endpoint | opened target endpoint => exact attach target endpoint

theorem openSession_eq_ok {naming : Option Naming} {session : Session σ} {c' : Console σ}
    (opened : (s.openSession naming).run.run c = (.ok session, c')) :
    ∃ target, session = s.sessionWith naming target := by
  have opening := s.opening c naming
  rw [opened] at opening
  cases opening with
  | opened target endpoint => exact ⟨target, rfl⟩

def swapLines (json : Bool) (r : SwapReport) : List String :=
  if json then [r.json.prettyText]
  else
    (match r.message with
      | some message => r.status.name ++ ": " ++ message
      | none => r.status.name) :: r.classes.map fun c => "  " ++ c.status.name ++ " " ++ c.className

theorem run_printSwapReport (r : SwapReport) :
    (s.printSwapReport r).run.run c = (.ok (), (swapLines s.json r).foldl Console.print c) := by
  unfold printSwapReport swapLines
  split
  next => rfl
  next =>
    rw [run_bind (run_print _ c), run_printEach]
    rfl

end Setup

/-- What an upload starts from: class files, or sources that are compiled first. -/
inductive Cargo where
  | classFiles (files : List ClassFile)
  | sources (units : List SourceUnit)

namespace Cargo

def IsAt (tree : FileTree) (here : Place) (sources specs : List String) : Cargo → Prop
  | classFiles files => specs ≠ [] ∧ List.Forall₂ (ClassAt tree here) specs files
  | .sources units =>
    specs = [] ∧ sources ≠ [] ∧ List.Forall₂ (SourceAt tree here) sources units

theorem IsAt.unique {tree : FileTree} {here : Place} {sources specs : List String}
    {cargo other : Cargo} (is : cargo.IsAt tree here sources specs)
    (also : other.IsAt tree here sources specs) : cargo = other := by
  cases cargo with
  | classFiles files =>
    cases other with
    | classFiles files' =>
      exact congrArg classFiles ((classAt_unique tree here).forall₂ is.2 also.2)
    | sources units => exact absurd also.1 is.1
  | sources units =>
    cases other with
    | classFiles files => exact absurd is.1 also.1
    | sources units' =>
      exact congrArg Cargo.sources ((sourceAt_unique tree here).forall₂ is.2.2 also.2.2)

def uploadIn (session : Session σ) (boot : Bool) (site : Site σ) : Cargo → Done σ SwapReport
  | classFiles files =>
    let d := session.upload boot files site
    ⟨d.site, SwapReport.ofUpload (files.map (·.className)) d.value, d.notices⟩
  | sources units => session.compileAndUpload units boot site

/-- The classes that are to be replaced: those that are given, or those that the sources compile
to. -/
def classesIn (session : Session σ) (site : Site σ) : Cargo → Option (List ClassFile)
  | classFiles files => some files
  | sources units => (session.compile units site).value.result.toOption

end Cargo

namespace Setup

variable (s : Setup σ) (c : Console σ)

def deliver (boot : Bool) (cargo : Cargo) : Work σ Nat := do
  let session ← s.openSession none
  let report ← carryOut fun site => cargo.uploadIn session boot site
  s.printSwapReport report
  return if report.isSuccess then 0 else 1

theorem run_deliver_error {boot : Bool} {cargo : Cargo} {message : String} {c' : Console σ}
    (opening : (s.openSession none).run.run c = (.error message, c')) :
    (s.deliver boot cargo).run.run c = (.error message, c') :=
  run_bind_error opening _

theorem run_deliver {boot : Bool} {cargo : Cargo} {session : Session σ} {c' : Console σ}
    (opening : (s.openSession none).run.run c = (.ok session, c')) :
    (s.deliver boot cargo).run.run c =
      (.ok (if (cargo.uploadIn session boot c'.site).value.isSuccess then 0 else 1),
        (swapLines s.json (cargo.uploadIn session boot c'.site).value).foldl Console.print
          (followed c' (cargo.uploadIn session boot c'.site))) := by
  rw [deliver, run_bind opening, run_bind (run_carryOut _ c'), run_bind (run_printSwapReport ..)]
  rfl

theorem upload_eq (sources specs : List String) (boot : Bool) :
    s.upload sources specs boot =
      if specs ≠ [] then do s.deliver boot (.classFiles (← s.loadClassFiles specs))
      else if sources ≠ [] then do s.deliver boot (.sources (← s.loadSources sources))
      else throw "nothing to upload; pass source files or --class FQN=PATH" := by
  cases specs with
  | cons spec rest => rfl
  | nil =>
    cases sources with
    | cons path rest => rfl
    | nil => rfl

/-- What comes of an upload: there is nothing to upload, or no session, or a report. -/
inductive UploadRun (sources specs : List String) (boot : Bool) :
    Except String Nat × Console σ → Prop
  | unread (message : String)
      (none_ : ∀ cargo : Cargo, ¬ cargo.IsAt c.site.files s.here sources specs) :
      UploadRun sources specs boot (.error message, c)
  | unopened {message : String} {c' : Console σ}
      (opening : (s.openSession none).run.run c = (.error message, c')) :
      UploadRun sources specs boot (.error message, c')
  | reported {cargo : Cargo} (there : cargo.IsAt c.site.files s.here sources specs)
      {session : Session σ} {c' : Console σ}
      (opening : (s.openSession none).run.run c = (.ok session, c'))
      {d : Done σ SwapReport} (done : d = cargo.uploadIn session boot c'.site) :
      UploadRun sources specs boot (.ok (if d.value.isSuccess then 0 else 1),
        (swapLines s.json d.value).foldl Console.print (followed c' d))

theorem uploadRun_of_finds {α : Type} {sources specs : List String} {boot : Bool} {load : Work σ α}
    {sought : α → Prop} {cargo : α → Cargo} (finds : Finds c load sought)
    (there : ∀ a, sought a → (cargo a).IsAt c.site.files s.here sources specs)
    (only : ∀ other : Cargo, other.IsAt c.site.files s.here sources specs → ∃ a, sought a) :
    s.UploadRun c sources specs boot ((do s.deliver boot (cargo (← load))).run.run c) := by
  obtain ⟨result, read, found⟩ := finds
  cases result with
  | error message =>
    rw [run_bind_error read]
    refine .unread message fun other is => ?_
    obtain ⟨a, sought⟩ := only other is
    cases (found a).mpr sought
  | ok a =>
    rw [run_bind read]
    rcases opening : (s.openSession none).run.run c with ⟨_ | session, c'⟩
    · rw [run_deliver_error s c opening]
      exact .unopened opening
    · rw [run_deliver s c opening]
      exact .reported (there a ((found a).mp rfl)) opening rfl

theorem uploadRun (sources specs : List String) (boot : Bool) :
    s.UploadRun c sources specs boot ((s.upload sources specs boot).run.run c) := by
  rw [upload_eq]
  split
  next given =>
    refine uploadRun_of_finds s c (s.finds_classFiles c specs) (fun files found => ⟨given, found⟩)
      fun other is => ?_
    cases other with
    | classFiles files => exact ⟨files, is.2⟩
    | sources units => exact absurd is.1 given
  next none_ =>
    have none_ : specs = [] := not_not.mp none_
    subst none_
    split
    next some_ =>
      refine uploadRun_of_finds s c (s.finds_sources c sources)
        (fun units found => ⟨rfl, some_, found⟩) fun other is => ?_
      cases other with
      | classFiles files => exact absurd rfl is.1
      | sources units => exact ⟨units, is.2.2⟩
    next nothing =>
      refine .unread _ fun other is => ?_
      cases other with
      | classFiles files => exact is.1 rfl
      | sources units => exact nothing is.2.1

/-- A report that can be printed; one in JSON cannot if it shows a path that is not Unicode. -/
def Shows (r : SaveReport) : Prop :=
  s.json = true → ∀ path ∈ r.lastPath.toList ++ r.failures.map (·.path), s.host.isUnicode path

instance (r : SaveReport) : Decidable (s.Shows r) :=
  inferInstanceAs (Decidable (_ → _))

theorem run_printSaveReport {r : SaveReport} (shows : s.Shows r) : ∃ lines : List String,
    (s.printSaveReport r).run.run c = (.ok (), lines.foldl Console.print c) := by
  unfold printSaveReport
  split
  next json =>
    rw [printPaths, if_pos (List.all_eq_true.mpr (shows json))]
    exact ⟨[_], rfl⟩
  next => exact ⟨_ :: _, by rw [run_bind (run_print _ c), run_printEach]; rfl⟩

def base (out : Option String) : String := (out.or s.config.save.outputDir).getD "."

/-- What a compilation ends with: an exit code, or a message. -/
def saveCode : Except SessionError SaveReport → Except String Nat
  | .ok report =>
    if s.Shows report then .ok (if report.outcome = .allSaved then 0 else 1)
    else .error "path contains invalid UTF-8 characters"
  | .error (.compile _) => .ok 1
  | .error (.ambiguous e) => .error e.message

def account : Except SessionError SaveReport → Work σ Nat
  | .ok report => do
    s.printSaveReport report
    return if report.outcome = .allSaved then 0 else 1
  | .error (.compile e) => do
    if s.json then printJson (.object [("error", .string e.message)]) else print e.message
    return 1
  | .error (.ambiguous e) => throw e.message

theorem compile_eq (sources : List String) (out : Option String) (naming : Option Naming) :
    s.compile sources out naming = (do
      let units ← s.loadSources sources
      let session ← s.openSession naming
      s.account (← carryOut (session.compileAndSave units (s.base out)))) := by
  unfold compile
  refine bind_congr fun units => bind_congr fun session => bind_congr fun result => ?_
  rcases result with (_ | _) | _ <;> rfl

theorem run_account (result : Except SessionError SaveReport) : ∃ lines : List String,
    (s.account result).run.run c = (s.saveCode result, lines.foldl Console.print c) := by
  rcases result with (e | e) | report
  · rw [account]
    split <;> exact ⟨[_], rfl⟩
  · exact ⟨[], rfl⟩
  · rw [saveCode]
    split
    next shows =>
      obtain ⟨lines, printed⟩ := s.run_printSaveReport c shows
      exact ⟨lines, run_bind printed _⟩
    next hidden =>
      obtain ⟨json, some_⟩ := Classical.not_imp.mp hidden
      have refused : (s.printSaveReport report).run.run c =
          (.error "path contains invalid UTF-8 characters", c) := by
        rw [printSaveReport, if_pos json, printPaths,
          if_neg fun all => some_ (List.all_eq_true.mp all)]
        rfl
      exact ⟨[], run_bind_error refused _⟩

/-- What comes of a compilation: there are no sources, or no session, or the files are compiled and
saved as far as that goes. -/
inductive CompileRun (sources : List String) (out : Option String) (naming : Option Naming) :
    Except String Nat × Console σ → Prop
  | unread (message : String)
      (none_ : ∀ units, ¬ List.Forall₂ (SourceAt c.site.files s.here) sources units) :
      CompileRun sources out naming (.error message, c)
  | unopened {message : String} {c' : Console σ}
      (opening : (s.openSession naming).run.run c = (.error message, c')) :
      CompileRun sources out naming (.error message, c')
  | worked {units : List SourceUnit}
      (there : List.Forall₂ (SourceAt c.site.files s.here) sources units)
      {session : Session σ} {c' : Console σ}
      (opening : (s.openSession naming).run.run c = (.ok session, c'))
      {d : Done σ (Except SessionError SaveReport)}
      (done : d = session.compileAndSave units (s.base out) c'.site) (lines : List String) :
      CompileRun sources out naming
        (s.saveCode d.value, lines.foldl Console.print (followed c' d))

theorem compileRun (sources : List String) (out : Option String) (naming : Option Naming) :
    s.CompileRun c sources out naming ((s.compile sources out naming).run.run c) := by
  obtain ⟨result, read, found⟩ := s.finds_sources c sources
  rw [compile_eq]
  cases result with
  | error message =>
    rw [run_bind_error read]
    exact .unread message fun units there => by cases (found units).mpr there
  | ok units =>
    rw [run_bind read]
    rcases opening : (s.openSession naming).run.run c with ⟨_ | session, c'⟩
    · rw [run_bind_error opening]
      exact .unopened opening
    · obtain ⟨lines, told⟩ := s.run_account
        (followed c' (session.compileAndSave units (s.base out) c'.site))
        (session.compileAndSave units (s.base out) c'.site).value
      rw [run_bind opening, run_bind (run_carryOut _ c'), told]
      exact .worked ((found units).mp rfl) opening rfl lines

end Setup

end ClassSwap.CommandLine
