import ClassSwap.Compile.Javac
import ClassSwap.Proofs.Attempts

namespace ClassSwap.Javac

variable {σ α β : Type} {b b' : Bench σ}

/-- A machine without any programs. -/
def bareHost : Host := { directory := [], run := fun _ files _ => ⟨files, [], [], true, ⟨0⟩⟩ }

/-- A part of the work that keeps to what holds of the bench. -/
def Stable (holds : Bench σ → Prop) (w : Work σ α) : Prop :=
  ∀ b, holds b → holds (w.run.run b).2

variable {holds later : Bench σ → Prop}

/-- After a part that keeps to something the rest may keep to less. -/
theorem Stable.bind_then {w : Work σ α} {f : α → Work σ β} (first : Stable holds w)
    (less : ∀ b, holds b → later b) (then_ : ∀ a b, holds b → later ((f a).run.run b).2) :
    ∀ b, holds b → later ((w >>= f).run.run b).2 := by
  intro b held
  have middle := first b held
  rcases work : w.run.run b with ⟨result, b'⟩
  rw [work] at middle
  simp only [ExceptT.run_bind, StateT.run_bind, work]
  cases result with
  | error e => exact less b' middle
  | ok a => exact then_ a b' middle

theorem Stable.bind {w : Work σ α} {f : α → Work σ β} (first : Stable holds w)
    (then_ : ∀ a, Stable holds (f a)) : Stable holds (w >>= f) :=
  first.bind_then (fun _ held => held) then_

theorem Stable.and {w : Work σ α} (one : Stable holds w) (two : Stable later w) :
    Stable (fun b => holds b ∧ later b) w := fun b held => ⟨one b held.1, two b held.2⟩

theorem Stable.of_bench {w : Work σ α} (same : ∀ b, (w.run.run b).2 = b) : Stable holds w :=
  fun b held => (same b).symm ▸ held

theorem stable_pure (a : α) : Stable holds (pure a : Work σ α) := .of_bench fun _ => rfl

theorem stable_throw (e : CompileError) : Stable holds (throw e : Work σ α) :=
  .of_bench fun _ => rfl

/-- A part of the work that starts with a look at the bench goes on from there. -/
theorem run_get_bind (f : Bench σ → Work σ α) (b : Bench σ) :
    (get >>= f).run.run b = (f b).run.run b := rfl

theorem pure_eq_ok {a result : α} (h : (pure a : Work σ α).run.run b = (.ok result, b')) :
    result = a ∧ b' = b := by
  cases h
  exact ⟨rfl, rfl⟩

theorem bind_eq_ok {w : Work σ α} {f : α → Work σ β} {result : β}
    (h : (w >>= f).run.run b = (.ok result, b')) :
    ∃ a middle, w.run.run b = (.ok a, middle) ∧ (f a).run.run middle = (.ok result, b') := by
  rcases first : w.run.run b with ⟨ended, middle⟩
  simp only [ExceptT.run_bind, StateT.run_bind, first] at h
  cases ended with
  | error e => cases h
  | ok a => exact ⟨a, middle, rfl, h⟩

theorem run_change (doing path : String) (f : FileTree → FileTree × Except OsError Unit)
    (b : Bench σ) :
    (change doing path f).run.run b =
      (match (f b.files).2 with
        | .ok () => .ok ()
        | .error e =>
          .error (.internal ("failed to " ++ doing ++ " " ++ path ++ ": " ++ e.message)),
        { b with files := (f b.files).1 }) := by
  rw [change, run_get_bind]
  rcases f b.files with ⟨files, _ | _⟩ <;> rfl

/-- Neither directories nor sources have to do with the target. -/
theorem stable_change_state (s : σ) (doing path : String)
    (f : FileTree → FileTree × Except OsError Unit) :
    Stable (fun b => b.state = s) (change doing path f) := by
  intro b same
  rw [run_change]
  exact same

theorem stable_writeSources_state (s : σ) (host : Host) (scratch : Scratch)
    (units : List SourceUnit) :
    Stable (fun b => b.state = s) (writeSources host scratch units) := by
  induction units with
  | nil => exact stable_pure []
  | cons u rest ih =>
    exact (stable_change_state s _ _ _).bind fun _ => ih.bind fun _ => stable_pure _

theorem stable_layOut_state (s : σ) (host : Host) (units : List SourceUnit) (scratch : Scratch) :
    Stable (fun b => b.state = s) (layOut host units scratch) :=
  (stable_change_state s _ _ _).bind fun _ => (stable_change_state s _ _ _).bind fun _ =>
    (stable_change_state s _ _ _).bind fun _ => stable_writeSources_state s host scratch units

theorem change_eq_ok {doing path : String} {f : FileTree → FileTree × Except OsError Unit}
    (h : (change doing path f).run.run b = (.ok (), b')) :
    f b.files = (b'.files, .ok ()) ∧ b' = { b with files := b'.files } := by
  rw [run_change] at h
  rcases changed : f b.files with ⟨files, _ | _⟩
  all_goals
    rw [changed] at h
    cases h
  exact ⟨rfl, rfl⟩

theorem makeScratch_eq_ok {host : Host} {settings : Javac} {scratch : Scratch}
    (h : (makeScratch host settings).run.run b = (.ok scratch, b')) :
    b.files.makeDirectory host.directory scratch.root = .ok b'.files ∧
      b' = { b with files := b'.files } := by
  rw [makeScratch, run_get_bind] at h
  dsimp only at h
  generalize Path.join _ (Scratch.name _) = path at h
  split at h
  next files made =>
    cases h
    exact ⟨made, rfl⟩
  next => cases h

end ClassSwap.Javac
