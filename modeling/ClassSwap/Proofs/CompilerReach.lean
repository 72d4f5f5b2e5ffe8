import ClassSwap.Compile.Scripted
import ClassSwap.Proofs.CacheCoherence
import ClassSwap.Proofs.CompilerWork

namespace ClassSwap

variable {σ : Type}

/-- The states that a provider comes to when it is asked for classes. -/
inductive Provider.Asked (provider : Provider σ) (start : σ) : σ → Prop
  | start : Asked provider start start
  | resolve {s : σ} (asked : Asked provider start s) (c : ClassName) :
      Asked provider start (provider.resolve c s).state

/-- A compiler that has nothing but its provider to reach the target with. -/
def Compiler.Confined (compiler : Compiler σ) : Prop :=
  ∀ (provider : Provider σ) units state files,
    provider.Asked state (compiler provider units state files).state

namespace ScriptedCompiler

theorem asked_follow {provider : Provider σ} {start state : σ} (units : List SourceUnit)
    (files : FileTree) (said : List Utterance) (made : List ClassFile) (steps : List CompileStep)
    (asked : provider.Asked start state) :
    provider.Asked start (follow provider units files state said made steps).state := by
  induction steps generalizing state said made with
  | nil => exact asked
  | cons step rest ih =>
    cases step with
    | emit | produce | echo | listNames => exact ih _ _ asked
    | collapse | fail => exact asked
    | resolve c =>
      have later := asked.resolve c
      simp only [follow]
      split
      next => exact ih _ _ later
      next => exact ih _ _ later
      next => exact later

theorem confined (steps : List CompileStep) : (compiler steps : Compiler σ).Confined :=
  fun _ units _ files => asked_follow units files [] [] steps .start

end ScriptedCompiler

namespace Javac

variable {provider : Provider σ} {start : σ} {α β : Type}

/-- A part of the work after which the target has been asked for classes at most. -/
def Asks (provider : Provider σ) (start : σ) (w : Work σ α) : Prop :=
  Stable (fun b => provider.Asked start b.state) w

theorem Asks.bind {w : Work σ α} {f : α → Work σ β} (first : Asks provider start w)
    (then_ : ∀ a, Asks provider start (f a)) : Asks provider start (w >>= f) :=
  Stable.bind first then_

theorem Asks.of_state {w : Work σ α} (same : ∀ b, (w.run.run b).2.state = b.state) :
    Asks provider start w := by
  intro b asked
  rw [same b]
  exact asked

theorem asks_get_bind {f : Bench σ → Work σ α} (go : ∀ b, provider.Asked start b.state →
    provider.Asked start ((f b).run.run b).2.state) : Asks provider start (get >>= f) := go

theorem asks_pure (a : α) : Asks provider start (pure a : Work σ α) := stable_pure a

theorem asks_throw (e : CompileError) : Asks provider start (throw e : Work σ α) := stable_throw e

theorem asks_utter (u : Utterance) : Asks provider start (utter u) := .of_state fun _ => rfl

theorem asks_report (message : String) (fields : List (String × LogValue)) :
    Asks provider start (report message fields) := asks_utter _

theorem asks_change (doing path : String) (f : FileTree → FileTree × Except OsError Unit) :
    Asks provider start (change doing path f) := by
  refine .of_state fun b => ?_
  rw [run_change]

theorem asks_makeScratch (host : Host) (settings : Javac) :
    Asks provider start (makeScratch host settings) := by
  refine asks_get_bind fun b asked => ?_
  dsimp only
  split <;> exact asked

theorem asks_writeSources (host : Host) (scratch : Scratch) (units : List SourceUnit) :
    Asks provider start (writeSources host scratch units) := by
  induction units with
  | nil => exact asks_pure []
  | cons u rest ih => exact (asks_change _ _ _).bind fun _ => ih.bind fun _ => asks_pure _

theorem asks_resolve (c : ClassName) : Asks provider start (resolve provider c) :=
  asks_get_bind fun _ asked => asked.resolve c

theorem asks_fillClasses (host : Host) (directory : String) (wanted : List ClassName) :
    Asks provider start (fillClasses host provider directory wanted) := by
  induction wanted with
  | nil => exact asks_pure ()
  | cons c rest ih =>
    refine (asks_resolve c).bind fun result => ?_
    split
    next => exact (asks_change _ _ _).bind fun _ => ih
    next => exact (asks_utter _).bind fun _ => ih
    next => exact (asks_throw _).bind fun _ => ih

theorem asks_runCompiler (host : Host) (settings : Javac) (scratch : Scratch)
    (sources : List String) :
    Asks provider start (runCompiler host settings scratch sources : Work σ Unit) := by
  refine (asks_report _ _).bind fun _ => asks_get_bind fun b asked => ?_
  split
  next => exact asked
  next run _ =>
    refine Asks.bind (w := set { b with files := run.files }) (fun _ _ => asked) (fun _ => ?_) b
      asked
    by_cases late : settings.timeout.nanos ≤ run.took.nanos
    · simp only [late, if_true]
      exact (asks_throw _).bind fun _ => .of_state fun _ => by split <;> rfl
    · simp only [late, if_false]
      refine Asks.bind (w := modify _) (.of_state fun _ => rfl) fun _ => ?_
      split
      next => exact asks_throw _
      next => exact asks_pure ()

theorem asks_collectOutput (host : Host) (scratch : Scratch) :
    Asks provider start (collectOutput host scratch : Work σ (List ClassFile)) := by
  refine asks_get_bind fun b asked => ?_
  split <;> exact asked

theorem asks_layOut (host : Host) (units : List SourceUnit) (scratch : Scratch) :
    Asks provider start (layOut host units scratch) :=
  (asks_change _ _ _).bind fun _ => (asks_change _ _ _).bind fun _ =>
    (asks_change _ _ _).bind fun _ => asks_writeSources host scratch units

theorem asks_materialize (host : Host) (directory : String) (wanted : List ClassName) :
    Asks provider start (materialize host provider directory wanted) :=
  (asks_report _ _).bind fun _ => asks_fillClasses host directory wanted

theorem asks_prepare (host : Host) (units : List SourceUnit) (scratch : Scratch) :
    Asks provider start (prepare host provider units scratch) := by
  refine (asks_layOut host units scratch).bind fun _ => asks_get_bind fun b => ?_
  exact ((asks_materialize host _ _).bind fun _ => asks_pure _) b

theorem asks_work (host : Host) (settings : Javac) (units : List SourceUnit) (scratch : Scratch) :
    Asks provider start (work host settings provider units scratch) :=
  (asks_prepare host units scratch).bind fun _ =>
    (asks_runCompiler host settings scratch _).bind fun _ => asks_collectOutput host scratch

theorem confined (host : Host) (settings : Javac) :
    (compiler host settings : Compiler σ).Confined := by
  intro provider units state files
  have made := (asks_makeScratch host settings : Asks provider state _) { state, files } .start
  unfold compiler
  split
  next e b failed =>
    rw [failed] at made
    exact made
  next scratch b done =>
    rw [done] at made
    have worked := (asks_work host settings units scratch : Asks provider state _) b made
    split
    next result b' ends =>
      rw [ends] at worked
      exact worked

end Javac

namespace Channel

variable {patience : Duration} {plan : Target → Operation → History → History}
  {timeout : Duration} {t : Target} {start middle events : History}
  {own more : List (Nat × Operation)}

/-- How one caller makes calls on a target, each with its ticket: a call comes in, and then happens
what the plan tells. -/
inductive Makes (plan : Target → Operation → History → History) (t : Target) (start : History) :
    List (Nat × Operation) → History → Prop
  | nothing : Makes plan t start [] start
  | call {own : List (Nat × Operation)} {events : History} (made : Makes plan t start own events)
      (operation : Operation) :
      Makes plan t start (own ++ [((callsOn t events).length, operation)])
        (events ++ (t, .call operation) :: plan t operation events)

theorem Makes.trans (first : Makes plan t start own middle)
    (later : Makes plan t middle more events) : Makes plan t start (own ++ more) events := by
  induction later with
  | nothing => rwa [List.append_nil]
  | call made operation ih =>
    rw [← List.append_assoc]
    exact ih.call operation

theorem Makes.calls (made : Makes plan t start own events) :
    ∀ call ∈ own, (callsOn t events)[call.1]? = some call.2 := by
  induction made with
  | nothing => simp
  | @call own events made operation ih =>
    intro call mem
    rcases List.mem_append.mp mem with old | new
    · rw [callsOn_append]
      exact getElem?_append_of_some _ (ih call old)
    · rw [List.mem_singleton.mp new]
      exact callsOn_call events operation _

/-- Calls that only ask have no frame that changes a class in the target. -/
theorem Makes.harmless (made : Makes plan t start own events)
    (asks : ∀ call ∈ own, ∃ command limit, call.2 = .send command limit ∧
      command.redefines = false) :
    ∀ call ∈ own, ∀ tx ∈ ((after patience events).lane t).framesOf call.1,
      tx.request.command.redefines = false := by
  intro call mem tx sent
  obtain ⟨command, limit, operation, asks⟩ := asks call mem
  have comes := made.calls call mem
  rw [operation] at comes
  rw [framesOf_command comes tx sent]
  exact asks

/-- A provider that is asked for a class makes one call at most, which fetches it. -/
theorem makes_of_asked
    (asked : ((link patience plan timeout).provider t).Asked start events) :
    ∃ own, Makes plan t start own events ∧
      ∀ call ∈ own, ∃ c, call.2 = .send (.fetchBytes c) timeout := by
  induction asked with
  | start => exact ⟨[], .nothing, by simp⟩
  | @resolve events asked c ih =>
    obtain ⟨own, made, fetches⟩ := ih
    have step : (((link patience plan timeout).provider t).resolve c events).state = events ∨
        (((link patience plan timeout).provider t).resolve c events).state =
          events ++ (t, .call (.send (.fetchBytes c.text) timeout)) ::
            plan t (.send (.fetchBytes c.text) timeout) events := by
      simp only [Link.provider]
      split
      next => exact .inl rfl
      next => split <;> exact .inr rfl
    rcases step with quiet | call
    · rw [quiet]
      exact ⟨own, made, fetches⟩
    · rw [call]
      refine ⟨_, made.call _, fun call mem => ?_⟩
      rcases List.mem_append.mp mem with old | new
      · exact fetches call old
      · exact ⟨c.text, by rw [List.mem_singleton.mp new]⟩

end Channel

end ClassSwap
