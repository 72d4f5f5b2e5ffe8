import ClassSwap.Proofs.ClassPaths
import ClassSwap.Proofs.CompileReports
import ClassSwap.Proofs.CompilerWork
import ClassSwap.Proofs.DirectoryWrites

namespace ClassSwap.Javac

open ClassName (Filed isSuffix_classSuffix)
open FileTree (Along Grows GoesOn Sound StrictlyBelow asksDirectory maxName placeOfText)
open ClassSwap.Path (names)

variable {σ : Type} {host : Host} {provider : Provider σ} {directory : String}
  {wanted : List ClassName} {c : ClassName} {b b' : Bench σ} {ending : Except CompileError Unit}
  {bytes : Bytes} {tree made : FileTree} {here : Place}

/-- A class that has had its turn, and what it has been resolved to. -/
structure Finding where
  className : ClassName
  result : Except ProviderError Bytes

namespace Finding

/-- The next class has its turn: this one has been found, or the target does not have it. -/
def Settled (f : Finding) : Prop := ∀ c cause, f.result ≠ .error (.transport c cause)

/-- The line about a class that the target does not have. -/
def warning? (f : Finding) : Option (Nat × String) :=
  match f.result with
  | .error (.notFound c) =>
    some (0, "warning: " ++ c.text ++ " could not be fetched from the target")
  | _ => none

def found? (f : Finding) : Option (ClassName × Bytes) :=
  match f.result with
  | .ok bytes => some (f.className, bytes)
  | .error _ => none

end Finding

variable {findings : List Finding}

def asked (provider : Provider σ) (c : ClassName) (b : Bench σ) : Bench σ :=
  { b with
    state := (provider.resolve c b.state).state
    utterances := b.utterances ++ (provider.resolve c b.state).events.map Utterance.event }

def warned (c : ClassName) (b : Bench σ) : Bench σ :=
  { b with utterances :=
      b.utterances ++ [.line ("warning: " ++ c.text ++ " could not be fetched from the target")] }

/-- How the directory is filled, class by class. -/
inductive Fills (host : Host) (provider : Provider σ) (directory : String) :
    List ClassName → Bench σ → List Finding → Except CompileError Unit → Bench σ → Prop
  | nothing (b : Bench σ) : Fills host provider directory [] b [] (.ok ()) b
  | written {c : ClassName} {rest : List ClassName} {b b' : Bench σ} {bytes : Bytes}
      {files : FileTree} {findings : List Finding} {ending : Except CompileError Unit}
      (found : (provider.resolve c b.state).result = .ok bytes)
      (wrote : b.files.writeWithParents host.directory (Path.join directory c.classFilePath) bytes =
        (files, .ok ()))
      (later : Fills host provider directory rest { asked provider c b with files } findings ending
        b') :
      Fills host provider directory (c :: rest) b (⟨c, .ok bytes⟩ :: findings) ending b'
  | unwritten {c : ClassName} {rest : List ClassName} {b : Bench σ} {bytes : Bytes}
      {files : FileTree} {cause : OsError}
      (found : (provider.resolve c b.state).result = .ok bytes)
      (failed : b.files.writeWithParents host.directory (Path.join directory c.classFilePath)
        bytes = (files, .error cause)) :
      Fills host provider directory (c :: rest) b [⟨c, .ok bytes⟩]
        (.error (.internal ("failed to write " ++ Path.join directory c.classFilePath ++ ": " ++
          cause.message))) { asked provider c b with files }
  | missing {c d : ClassName} {rest : List ClassName} {b b' : Bench σ} {findings : List Finding}
      {ending : Except CompileError Unit}
      (none : (provider.resolve c b.state).result = .error (.notFound d))
      (later : Fills host provider directory rest (warned d (asked provider c b)) findings ending
        b') :
      Fills host provider directory (c :: rest) b (⟨c, .error (.notFound d)⟩ :: findings) ending b'
  | lost {c d : ClassName} {rest : List ClassName} {b : Bench σ} {cause : ChannelError}
      (broken : (provider.resolve c b.state).result = .error (.transport d cause)) :
      Fills host provider directory (c :: rest) b [⟨c, .error (.transport d cause)⟩]
        (.error (.classpath (ProviderError.transport d cause).message)) (asked provider c b)

theorem run_resolve (provider : Provider σ) (c : ClassName) (b : Bench σ) :
    (resolve provider c).run.run b =
      (.ok (provider.resolve c b.state).result, asked provider c b) := rfl

theorem fills (host : Host) (provider : Provider σ) (directory : String) (wanted : List ClassName)
    (b : Bench σ) :
    ∃ findings, Fills host provider directory wanted b findings
      ((fillClasses host provider directory wanted).run.run b).1
      ((fillClasses host provider directory wanted).run.run b).2 := by
  induction wanted generalizing b with
  | nil => exact ⟨[], .nothing b⟩
  | cons c rest ih =>
    rw [fillClasses, run_bind (run_resolve provider c b)]
    cases result : (provider.resolve c b.state).result with
    | ok bytes =>
      have write_ : (writeFile host (Path.join directory c.classFilePath) bytes).run.run
          (asked provider c b) = _ := run_change _ _ _ _
      rcases wrote : b.files.writeWithParents host.directory (Path.join directory c.classFilePath)
        bytes with ⟨files, cause | _⟩
      · rw [show (asked provider c b).files = b.files from rfl, wrote] at write_
        rw [run_bind_error write_]
        exact ⟨_, .unwritten result wrote⟩
      · rw [show (asked provider c b).files = b.files from rfl, wrote] at write_
        rw [run_bind write_]
        obtain ⟨findings, later⟩ := ih { asked provider c b with files }
        exact ⟨_, .written result wrote later⟩
    | error e =>
      cases e with
      | notFound d =>
        obtain ⟨findings, later⟩ := ih (warned d (asked provider c b))
        exact ⟨_, .missing result later⟩
      | transport d cause => exact ⟨_, .lost result⟩

theorem writtenLines_events (events : List LogEvent) :
    writtenLines (events.map Utterance.event) = [] := by
  rw [writtenLines, List.filterMap_map]
  exact List.filterMap_eq_nil_iff.mpr fun _ _ => rfl

theorem writtenLines_append (said more : List Utterance) :
    writtenLines (said ++ more) = writtenLines said ++ writtenLines more := List.filterMap_append

theorem asked_utterances (provider : Provider σ) (c : ClassName) (b : Bench σ) :
    ∃ said, (asked provider c b).utterances = b.utterances ++ said ∧ writtenLines said = [] :=
  ⟨_, rfl, writtenLines_events _⟩

/-- One line for each class that the target does not have, and no other. -/
theorem Fills.warnings (h : Fills host provider directory wanted b findings ending b') :
    ∃ said, b'.utterances = b.utterances ++ said ∧
      writtenLines said = findings.filterMap Finding.warning? := by
  induction h with
  | nothing b => exact ⟨[], by rw [List.append_nil], rfl⟩
  | @written c _ b _ bytes _ findings _ found wrote later ih =>
    obtain ⟨said, eq, lines⟩ := ih
    obtain ⟨before, eq', quiet⟩ := asked_utterances provider c b
    refine ⟨before ++ said, ?_, ?_⟩
    · rw [eq, ← List.append_assoc, ← eq']
    · rw [writtenLines_append, quiet, lines]
      rfl
  | @unwritten c _ b => exact asked_utterances provider c b
  | @missing c d _ b _ findings _ none_ later ih =>
    obtain ⟨said, eq, lines⟩ := ih
    obtain ⟨before, eq', quiet⟩ := asked_utterances provider c b
    refine ⟨before ++ [.line ("warning: " ++ d.text ++ " could not be fetched from the target")] ++
      said, ?_, ?_⟩
    · rw [eq, warned, eq', List.append_assoc, List.append_assoc, List.append_assoc]
    · rw [writtenLines_append, writtenLines_append, quiet, lines]
      rfl
  | @lost c _ _ b => exact asked_utterances provider c b

/-- The file of a class has a path that the system takes. -/
structure Fits (directory : String) (c : ClassName) : Prop where
  sound : Sound (Path.join directory c.classFilePath)
  short : ∀ name ∈ names c.classFilePath, name.utf8ByteSize ≤ maxName

/-- The filling ends with the last class, or with the first that cannot be had or written. -/
inductive Ends (directory : String) : List Finding → Except CompileError Unit → Prop
  | all {findings : List Finding} (settled : ∀ f ∈ findings, f.Settled) :
      Ends directory findings (.ok ())
  | lost (front : List Finding) {c d : ClassName} {cause : ChannelError}
      (settled : ∀ f ∈ front, f.Settled) :
      Ends directory (front ++ [⟨c, .error (.transport d cause)⟩])
        (.error (.classpath (ProviderError.transport d cause).message))
  | unfit (front : List Finding) {c : ClassName} {bytes : Bytes} {cause : OsError}
      (settled : ∀ f ∈ front, f.Settled) (unfit : ¬Fits directory c) :
      Ends directory (front ++ [⟨c, .ok bytes⟩])
        (.error (.internal ("failed to write " ++ Path.join directory c.classFilePath ++ ": " ++
          cause.message)))

theorem Ends.cons {f : Finding} (h : Ends directory findings ending) (settled : f.Settled) :
    Ends directory (f :: findings) ending := by
  have more {front : List Finding} (all : ∀ g ∈ front, g.Settled) : ∀ g ∈ f :: front, g.Settled :=
    List.forall_mem_cons.mpr ⟨settled, all⟩
  cases h with
  | all all => exact .all (more all)
  | lost front all => exact .lost (f :: front) (more all)
  | unfit front all other => exact .unfit (f :: front) (more all) other

theorem Ends.settled (h : Ends directory findings ending) (done : ending = .ok ()) :
    ∀ f ∈ findings, f.Settled := by
  cases h with
  | all settled => exact settled
  | lost | unfit => cases done

theorem Fills.among (h : Fills host provider directory wanted b findings ending b') :
    findings.map (·.className) <+: wanted := by
  induction h with
  | nothing => exact List.prefix_rfl
  | written _ _ _ ih | missing _ _ ih => exact List.cons_prefix_cons.mpr ⟨rfl, ih⟩
  | unwritten | lost => exact List.cons_prefix_cons.mpr ⟨rfl, List.nil_prefix⟩

theorem Fills.complete (h : Fills host provider directory wanted b findings (.ok ()) b') :
    findings.map (·.className) = wanted := by
  generalize done : Except.ok () = ending at h
  induction h with
  | nothing => rfl
  | written _ _ _ ih | missing _ _ ih => rw [List.map_cons, ih done]
  | unwritten | lost => cases done

/-- The files below a directory are those of these classes with these bytes. -/
structure Stocked (here : Place) (directory : String) (stock : List (ClassName × Bytes))
    (tree : FileTree) : Prop where
  there : tree.isDirectory here directory = true
  files : ∀ list, list ≠ [] → ∀ bytes,
    (∃ executable,
      tree.find? (placeOfText here directory ++ list) = some (.file bytes executable)) ↔
      ∃ c, (c, bytes) ∈ stock ∧ list = names c.classFilePath
  directories : ∀ list, list ≠ [] →
    tree.find? (placeOfText here directory ++ list) = some .directory →
      ∀ name ∈ list, '.' ∉ name.toList
  located : ∀ c bytes, (c, bytes) ∈ stock →
    tree.locate here (Path.join directory c.classFilePath) =
      .ok ⟨placeOfText here (Path.join directory c.classFilePath), false⟩

variable {stock : List (ClassName × Bytes)}

theorem mem_stock_concat {d : ClassName} {content : Bytes} :
    (d, content) ∈ stock ++ [(c, bytes)] ↔ (d, content) ∈ stock ∨ d = c ∧ content = bytes := by
  rw [List.mem_append, List.mem_singleton, Prod.mk.injEq]

theorem stocked_of_empty (there : tree.isDirectory here directory = true)
    (empty : ∀ q, StrictlyBelow (placeOfText here directory) q → tree.find? q = none) :
    Stocked here directory [] tree where
  there := there
  files list some_ bytes := by simp [empty _ ⟨list, some_, rfl⟩]
  directories list some_ found := by
    rw [empty _ ⟨list, some_, rfl⟩] at found
    cases found
  located c bytes mem := by cases mem

theorem ne_empty_of_isDirectory (there : tree.isDirectory here directory = true) :
    directory ≠ "" := by
  obtain ⟨⟨at_, located⟩, -⟩ := FileTree.isDirectory_iff.mp there
  exact (FileTree.sound_of_locate located).some_

theorem goesOn_classFile (filed : c.Filed) (named : directory ≠ "") :
    GoesOn directory (Path.join directory c.classFilePath) (names c.classFilePath) := by
  have below := (GoesOn.refl directory).join named
    (filed.relative isSuffix_classSuffix.toFileEnding)
    (ClassName.names_file isSuffix_classSuffix c).2
  rwa [List.nil_append] at below

theorem asksDirectory_classFile (below : GoesOn directory (Path.join directory c.classFilePath)
    (names c.classFilePath)) : asksDirectory (Path.join directory c.classFilePath) = false := by
  have ends : (Path.join directory c.classFilePath).toList.getLast? = some 's' := by
    obtain ⟨front, eq⟩ := Path.exists_join_eq directory c.classFilePath
    rw [eq, String.toList_append, List.getLast?_append]
    simp [ClassName.classFilePath, ClassName.classSuffix]
  obtain ⟨⟨front, stem, eq⟩, stays⟩ := ClassName.names_file isSuffix_classSuffix c
  obtain ⟨one, two⟩ := stays (stem ++ ClassName.classSuffix) (by simp [eq])
  have last : (names (Path.join directory c.classFilePath)).getLast? =
      some (stem ++ ClassName.classSuffix) := by
    rw [below.eq, ClassName.classFilePath, eq, ← List.append_assoc, List.getLast?_concat]
  simp [asksDirectory, ends, last, one, two]

namespace Stocked

variable (h : Stocked here directory stock tree) (filed : c.Filed)
include h filed

theorem goesOn : GoesOn directory (Path.join directory c.classFilePath) (names c.classFilePath) :=
  goesOn_classFile filed (ne_empty_of_isDirectory h.there)

/-- The class files are not in the way of one another. -/
theorem writable (fits : Fits directory c) (filed_ : ∀ d content, (d, content) ∈ stock → d.Filed)
    (bytes : Bytes) :
    ∃ made, tree.writeWithParents here (Path.join directory c.classFilePath) bytes =
      (made, .ok ()) := by
  obtain ⟨list, name, eq, plain, dotted⟩ := filed.names_classFile
  have below := h.goesOn filed
  have file := asksDirectory_classFile below
  have short := fits.short
  rw [eq] at below short
  refine FileTree.writeWithParents_succeeds h.there below fits.sound file
    (fun n mem => FileTree.takesName_iff.mpr (short n mem)) ?_ ?_ bytes
  · intro front among
    cases front with
    | nil =>
      rw [List.append_nil]
      exact .inl (FileTree.isDirectory_iff.mp h.there).2
    | cons first more =>
      cases found : tree.find? (placeOfText here directory ++ first :: more) with
      | none => exact .inr rfl
      | some entry =>
        cases entry with
        | directory => exact .inl rfl
        | file content executable =>
          obtain ⟨d, mem, eq'⟩ := (h.files _ (List.cons_ne_nil _ _) content).mp ⟨executable, found⟩
          obtain ⟨list', name', last, -, dotted'⟩ := (filed_ d content mem).names_classFile
          have inside : name' ∈ first :: more := by simp [eq', last]
          exact absurd dotted' (plain name' (among.subset inside))
  · intro taken
    rw [below.placeOf] at taken
    exact h.directories _ (by simp) taken name (by simp) dotted

section Written

variable (wrote : tree.writeWithParents here (Path.join directory c.classFilePath) bytes =
  (made, .ok ()))
include wrote

theorem grows : Grows (Along here (Path.join directory c.classFilePath))
    (· = placeOfText here directory ++ names c.classFilePath) tree made := by
  have grown := FileTree.writeWithParents_grows tree here
    (Path.join directory c.classFilePath) bytes
  rwa [wrote, (h.goesOn filed).placeOf] at grown

theorem file_written : ∃ executable, made.find? (placeOfText here directory ++
    names c.classFilePath) = some (.file bytes executable) := by
  rw [← (h.goesOn filed).placeOf]
  exact (FileTree.writeWithParents_ok wrote).2

/-- The directories around a class file have names without a dot. -/
theorem directories_written {list : List String} (some_ : list ≠ [])
    (found : made.find? (placeOfText here directory ++ list) = some .directory) :
    ∀ name ∈ list, '.' ∉ name.toList := by
  have below := h.goesOn filed
  rcases (h.grows filed wrote).entry_cases (placeOfText here directory ++ list) with
    kept | ⟨-, along⟩ | ⟨_, _, file, -⟩
  · exact h.directories list some_ (kept ▸ found)
  · rcases below.along along with inside | ⟨front, -, among, eq⟩
    · exact h.directories list some_ (inside.directory h.there)
    · obtain rfl := List.append_cancel_left eq
      obtain ⟨front, name, parts_, plain, -⟩ := filed.names_classFile
      rw [parts_, List.prefix_concat_iff] at among
      rcases among with whole | among
      · obtain ⟨_, own⟩ := h.file_written filed wrote
        rw [whole, ← parts_, own] at found
        cases found
      · exact fun n mem => plain n (among.subset mem)
  · rw [file] at found
    cases found

theorem write (new : ∀ d content, (d, content) ∈ stock → d.Filed ∧ d ≠ c) :
    Stocked here directory (stock ++ [(c, bytes)]) made := by
  have grown := h.grows filed wrote
  obtain ⟨executable, own⟩ := h.file_written filed wrote
  refine ⟨grown.keeps.isDirectory h.there, fun list some_ content => ?_,
    fun list => h.directories_written filed wrote, fun d content mem => ?_⟩
  · by_cases same : list = names c.classFilePath
    · subst same
      rw [own]
      constructor
      · rintro ⟨_, ⟨⟩⟩
        exact ⟨c, by simp, rfl⟩
      · rintro ⟨d, mem, eq⟩
        rcases mem_stock_concat.mp mem with old | ⟨rfl, rfl⟩
        · obtain ⟨filed', other⟩ := new d content old
          exact absurd (filed'.eq_of_names filed isSuffix_classSuffix.toFileEnding eq.symm) other
        · exact ⟨executable, rfl⟩
    · have apart : placeOfText here directory ++ list ≠
          placeOfText here directory ++ names c.classFilePath :=
        fun eq => same (List.append_cancel_left eq)
      rw [exists_congr fun _ => grown.file_iff apart, h.files list some_ content]
      constructor
      · rintro ⟨d, mem, eq⟩
        exact ⟨d, mem_stock_concat.mpr (.inl mem), eq⟩
      · rintro ⟨d, mem, eq⟩
        rcases mem_stock_concat.mp mem with old | ⟨rfl, rfl⟩
        · exact ⟨d, old, eq⟩
        · exact absurd eq same
  · rcases mem_stock_concat.mp mem with old | ⟨rfl, rfl⟩
    · exact grown.keeps.locate (h.located d content old)
    · exact (FileTree.writeWithParents_ok wrote).1

end Written

end Stocked

/-- If the directory has nothing but classes that are not wanted, it has all that has been found as
well in the end, and only a path that does not fit keeps a class out of it. -/
theorem Fills.stocked (h : Fills host provider directory wanted b findings ending b')
    (nodup : wanted.Nodup) (filed : ∀ c ∈ wanted, c.Filed)
    {stock : List (ClassName × Bytes)} (stocked : Stocked host.directory directory stock b.files)
    (apart : ∀ d content, (d, content) ∈ stock → d.Filed ∧ d ∉ wanted) :
    Ends directory findings ending ∧ (ending = .ok () →
      Stocked host.directory directory (stock ++ findings.filterMap Finding.found?) b'.files) := by
  induction h generalizing stock with
  | nothing b =>
    refine ⟨.all nofun, fun _ => ?_⟩
    rw [List.filterMap_nil, List.append_nil]
    exact stocked
  | @written c rest b b' bytes files findings ending found wrote later ih =>
    have own := filed c List.mem_cons_self
    obtain ⟨fresh, nodup⟩ := List.nodup_cons.mp nodup
    have more : Stocked host.directory directory (stock ++ [(c, bytes)]) files := by
      refine stocked.write own wrote fun d content mem => ?_
      obtain ⟨filed', other⟩ := apart d content mem
      exact ⟨filed', fun same => other (same ▸ List.mem_cons_self)⟩
    obtain ⟨ends, full⟩ := ih nodup (fun d mem => filed d (List.mem_cons_of_mem c mem)) more
      fun d content mem => by
        rcases mem_stock_concat.mp mem with old | ⟨rfl, -⟩
        · obtain ⟨filed', other⟩ := apart d content old
          exact ⟨filed', fun mem => other (List.mem_cons_of_mem c mem)⟩
        · exact ⟨own, fresh⟩
    refine ⟨ends.cons nofun, fun done => ?_⟩
    have full := full done
    rwa [List.append_assoc] at full
  | @unwritten c rest b bytes files cause found failed =>
    have own := filed c List.mem_cons_self
    refine ⟨.unfit [] nofun fun fits => ?_, nofun⟩
    obtain ⟨made, ok⟩ := stocked.writable own fits (fun d content mem => (apart d content mem).1)
      bytes
    rw [failed] at ok
    cases ok
  | @missing c d rest b b' findings ending none_ later ih =>
    obtain ⟨ends, full⟩ := ih (List.nodup_cons.mp nodup).2
      (fun d mem => filed d (List.mem_cons_of_mem c mem)) stocked fun d content mem => by
        obtain ⟨filed', other⟩ := apart d content mem
        exact ⟨filed', fun among => other (List.mem_cons_of_mem c among)⟩
    exact ⟨ends.cons nofun, full⟩
  | lost => exact ⟨.lost [] nofun, nofun⟩

end ClassSwap.Javac
