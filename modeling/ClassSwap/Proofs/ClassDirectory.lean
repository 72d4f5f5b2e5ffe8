import ClassSwap.Proofs.CacheLifetime
import ClassSwap.Proofs.ClassLoop
import ClassSwap.Proofs.NameOrder

namespace ClassSwap.Javac

open Channel
open FileTree (StrictlyBelow placeOfText)
open ClassSwap.Path (names)

variable {host : Host} {directory : String} {patience timeout : Duration} {t : Target}
  {plan : Target → Operation → History → History} {wanted : List ClassName} {c : ClassName}
  {result : Except ProviderError Bytes} {b b' : Bench History} {findings : List Finding}
  {ending : Except CompileError Unit} {start middle later more : History}

def uncached (patience : Duration) (t : Target) (events : History) (findings : List Finding) :
    List Finding :=
  findings.filter fun f => (((after patience events).standing t).cached? f.className).isNone

/-- How classes come from a target: those that are cached from there, and each other one by a call
of its own. -/
structure Fetched (patience timeout : Duration) (t : Target) (start later : History)
    (findings : List Finding) : Prop where
  calls : callsOn t later = callsOn t start ++
    (uncached patience t start findings).map fun f => fetching timeout f.className
  known : ∀ f ∈ findings, ∀ bytes,
    ((after patience start).standing t).cached? f.className = some bytes → f.result = .ok bytes
  asked : ∀ i f, (uncached patience t start findings)[i]? = some f → f.result =
    foundBy f.className (outcomeOf ((after patience later).lane t) ((callsOn t start).length + i))

theorem fetched_nil (start : History) : Fetched patience timeout t start start [] :=
  ⟨by simp [uncached], nofun, nofun⟩

theorem uncached_known {f : Finding} {bytes : Bytes}
    (hit : ((after patience start).standing t).cached? f.className = some bytes) :
    uncached patience t start (f :: findings) = uncached patience t start findings := by
  rw [uncached, List.filter_cons_of_neg (by simp [hit])]
  rfl

theorem uncached_asked {f : Finding}
    (miss : ((after patience start).standing t).cached? f.className = none) :
    uncached patience t start (f :: findings) = f :: uncached patience t start findings := by
  rw [uncached, List.filter_cons_of_pos (by simp [miss])]
  rfl

/-- The first class has its turn. What its call has come to must stand when all is done. -/
theorem Fetched.cons (turn : Resolves patience timeout t start c result middle)
    (rest : RestsOn patience t start) (fetched : Fetched patience timeout t middle later findings)
    (apart : ∀ f ∈ findings, f.className ≠ c)
    (stands : ((after patience start).standing t).cached? c = none →
      outcomeOf ((after patience later).lane t) (callsOn t start).length =
        outcomeOf ((after patience middle).lane t) (callsOn t start).length) :
    Fetched patience timeout t start later (⟨c, result⟩ :: findings) := by
  have others (f : Finding) (mem : f ∈ findings) :
      ((after patience middle).standing t).cached? f.className =
        ((after patience start).standing t).cached? f.className :=
    turn.others rest (apart f mem)
  have tail : uncached patience t start findings = uncached patience t middle findings :=
    List.filter_congr fun f mem => by rw [others f mem]
  cases turn with
  | @known bytes hit =>
    have whole : uncached patience t start (⟨c, .ok bytes⟩ :: findings) =
        uncached patience t start findings := uncached_known hit
    refine ⟨whole ▸ fetched.calls, fun f mem bytes' hit' => ?_, whole ▸ fetched.asked⟩
    rcases List.mem_cons.mp mem with rfl | mem
    · exact congrArg Except.ok (Option.some.inj (hit.symm.trans hit'))
    · exact fetched.known f mem bytes' hit'
  | @asked miss more alone =>
    have count := callsOn_own (t := t) start (fetching timeout c) alone
    refine ⟨?_, fun f mem bytes hit => ?_, fun i f at_ => ?_⟩
    · rw [uncached_asked miss, tail, fetched.calls, count, List.append_assoc]
      rfl
    · rcases List.mem_cons.mp mem with rfl | mem
      · rw [miss] at hit
        cases hit
      · exact fetched.known f mem bytes ((others f mem).trans hit)
    · rw [uncached_asked miss, tail] at at_
      cases i with
      | zero =>
        cases at_
        exact congrArg (foundBy c) (stands miss).symm
      | succ i =>
        have asked := fetched.asked i f at_
        rwa [count, List.length_append, List.length_singleton, Nat.add_right_comm] at asked

/-- What a filled class directory has asked the target for, and that all it has found is cached. -/
structure Supplied (patience timeout : Duration) (t : Target) (start later : History)
    (wanted : List ClassName) (findings : List Finding) (ending : Except CompileError Unit) :
    Prop where
  fetched : Fetched patience timeout t start later findings
  grows : ∃ more, later = start ++ more ∧
    ∀ operation ∈ callsOn t more, ∃ c ∈ wanted, operation = fetching timeout c
  rests : ending = .ok () → RestsOn patience t later
  cached : ending = .ok () → ∀ c bytes, (c, bytes) ∈ findings.filterMap Finding.found? →
    ((after patience later).standing t).cached? c = some bytes

theorem Supplied.last (turn : Resolves patience timeout t start c result middle)
    (rest : RestsOn patience t start) (error : CompileError) (others : List ClassName) :
    Supplied patience timeout t start middle (c :: others) [⟨c, result⟩] (.error error) where
  fetched := (fetched_nil middle).cons turn rest nofun fun _ => rfl
  grows := by
    obtain ⟨more, eq, calls⟩ := turn.append
    exact ⟨more, eq, fun operation mem => ⟨c, List.mem_cons_self, calls operation mem⟩⟩
  rests := nofun
  cached := nofun

theorem Supplied.cons (turn : Resolves patience timeout t start c result middle)
    (rest : RestsOn patience t start) (known : (after patience start).ledger t ≠ none)
    (goes : ∀ e, result ≠ .error (.transport c e)) (fresh : c ∉ wanted)
    (among : findings.map (·.className) <+: wanted)
    (supplied : Supplied patience timeout t middle later wanted findings ending) :
    Supplied patience timeout t start later (c :: wanted) (⟨c, result⟩ :: findings) ending := by
  have apart (d : ClassName) (mem : d ∈ wanted) : d ≠ c := fun same => fresh (same ▸ mem)
  obtain ⟨more, rfl, calls⟩ := supplied.grows
  have rests := turn.rests rest goes
  refine ⟨?_, ?_, supplied.rests, fun done d bytes mem => ?_⟩
  · exact supplied.fetched.cons turn rest
      (fun f mem => apart f.className (among.subset (List.mem_map_of_mem mem)))
      fun miss => turn.stands rest goes miss more
  · obtain ⟨first, rfl, own⟩ := turn.append
    refine ⟨first ++ more, List.append_assoc _ _ _, fun operation mem => ?_⟩
    rw [callsOn_append] at mem
    rcases List.mem_append.mp mem with mem | mem
    · exact ⟨c, List.mem_cons_self, own operation mem⟩
    · obtain ⟨d, mem', eq⟩ := calls operation mem
      exact ⟨d, List.mem_cons_of_mem c mem', eq⟩
  · rw [List.filterMap_cons] at mem
    cases result with
    | error e => exact supplied.cached done d bytes mem
    | ok content =>
      rcases List.mem_cons.mp mem with eq | mem
      · cases eq
        rw [cached_untouched rests fun operation mem => ?_]
        · exact turn.cached rest known
        · obtain ⟨d, mem', rfl⟩ := calls operation mem
          rw [fetching, Operation.touches, beq_eq_false_iff_ne]
          exact fun same => apart d mem' (congrArg ClassName.mk same)
      · exact supplied.cached done d bytes mem

theorem Fills.supplied
    (h : Fills host ((link patience plan timeout).provider t) directory wanted b findings ending b')
    (alone : Alone t plan) (nodup : wanted.Nodup) (rest : RestsOn patience t b.state)
    (known : (after patience b.state).ledger t ≠ none) :
    Supplied patience timeout t b.state b'.state wanted findings ending := by
  induction h with
  | nothing b =>
    exact ⟨fetched_nil b.state, ⟨[], by rw [List.append_nil], by simp [callsOn]⟩, fun _ => rest,
      fun _ => by simp⟩
  | @written c others b b' bytes files findings ending found wrote later ih =>
    have turn : Resolves patience timeout t b.state c _ _ := resolves alone found
    obtain ⟨fresh, nodup⟩ := List.nodup_cons.mp nodup
    have goes (e : ChannelError) : Except.ok bytes ≠ .error (ProviderError.transport c e) := by
      simp
    have supplied := ih nodup (turn.rests rest goes) (turn.ledger known)
    exact .cons turn rest known goes fresh later.among supplied
  | @unwritten c others b bytes files cause found failed =>
    exact .last (resolves alone found) rest _ _
  | @missing c d others b b' findings ending none_ later ih =>
    have turn : Resolves patience timeout t b.state c _ _ := resolves alone none_
    obtain ⟨fresh, nodup⟩ := List.nodup_cons.mp nodup
    have goes (e : ChannelError) : (.error (.notFound d) : Except ProviderError Bytes) ≠
        .error (.transport c e) := by simp
    have supplied := ih nodup (turn.rests rest goes) (turn.ledger known)
    exact .cons turn rest known goes fresh later.among supplied
  | @lost c d others b cause broken => exact .last (resolves alone broken) rest _ _

/-- What has been cached is not asked for. -/
theorem Fills.asksAnew
    (h : Fills host ((link patience plan timeout).provider t) directory wanted b findings ending b')
    (alone : Alone t plan) (rest : RestsOn patience t start)
    (since : ∃ more, b.state = start ++ more ∧
      ∀ operation ∈ callsOn t more, operation.clearsCache = false) :
    AsksAnew patience timeout t start b.state b'.state wanted := by
  have next {c : ClassName} {others : List ClassName} {events middle later : History}
      (first : AsksAnew patience timeout t start events middle [c])
      (second : AsksAnew patience timeout t start middle later others) :
      AsksAnew patience timeout t start events later (c :: others) := first.trans second
  have last {c : ClassName} {others : List ClassName} {events later : History}
      (only : AsksAnew patience timeout t start events later [c]) :
      AsksAnew patience timeout t start events later (c :: others) :=
    only.mono (List.cons_sublist_cons.mpr (List.nil_sublist others))
  induction h with
  | nothing b =>
    obtain ⟨more, eq, harmless⟩ := since
    rw [eq]
    exact .refl harmless
  | written found _ _ ih =>
    have first := Resolves.asksAnew (resolves alone found) rest since
    exact next first (ih first.harmless)
  | missing none_ _ ih =>
    have first := Resolves.asksAnew (resolves alone none_) rest since
    exact next first (ih first.harmless)
  | unwritten found => exact last (Resolves.asksAnew (resolves alone found) rest since)
  | lost broken => exact last (Resolves.asksAnew (resolves alone broken) rest since)

theorem Fetched.call (h : Fetched patience timeout t start later findings) {i : Nat} {f : Finding}
    (at_ : (uncached patience t start findings)[i]? = some f) :
    (callsOn t later)[(callsOn t start).length + i]? = some (fetching timeout f.className) := by
  rw [h.calls, List.getElem?_append_right (Nat.le_add_right _ _), Nat.add_sub_cancel_left,
    List.getElem?_map, at_]
  rfl

theorem foundBy_eq_notFound {d : ClassName} {outcome : Outcome}
    (missing : foundBy c outcome = .error (.notFound d)) : d = c := by
  unfold foundBy at missing
  split at missing <;> cases missing
  rfl

/-- A class that is not found is not found under its own name. -/
theorem Fetched.missing {d : ClassName} (h : Fetched patience timeout t start later findings)
    (mem : (⟨c, .error (.notFound d)⟩ : Finding) ∈ findings) : d = c := by
  cases hit : ((after patience start).standing t).cached? c with
  | some bytes => cases h.known _ mem bytes hit
  | none =>
    have among : (⟨c, .error (.notFound d)⟩ : Finding) ∈ uncached patience t start findings :=
      List.mem_filter.mpr ⟨mem, by simp [hit]⟩
    obtain ⟨i, at_⟩ := List.mem_iff_getElem?.mp among
    exact foundBy_eq_notFound (h.asked i _ at_).symm

theorem mem_found_iff {bytes : Bytes} :
    (c, bytes) ∈ findings.filterMap Finding.found? ↔ (⟨c, .ok bytes⟩ : Finding) ∈ findings := by
  rw [List.mem_filterMap]
  constructor
  · rintro ⟨⟨d, result⟩, mem, found⟩
    cases result with
    | error e => cases found
    | ok content =>
      cases found
      exact mem
  · exact fun mem => ⟨_, mem, rfl⟩

/-- A directory has one file for each of these classes, with its bytes, and no other one. -/
structure Exact (here : Place) (directory : String) (found : List (ClassName × Bytes))
    (tree : FileTree) : Prop where
  files : ∀ list, list ≠ [] → ∀ bytes,
    (∃ executable,
      tree.find? (placeOfText here directory ++ list) = some (.file bytes executable)) ↔
      ∃! c, (c, bytes) ∈ found ∧ list = names c.classFilePath
  read : ∀ c bytes, (c, bytes) ∈ found →
    tree.read here (Path.join directory c.classFilePath) = .ok bytes

theorem Stocked.exact {here : Place} {found : List (ClassName × Bytes)} {tree : FileTree}
    (h : Stocked here directory found tree) (filed : ∀ c bytes, (c, bytes) ∈ found → c.Filed) :
    Exact here directory found tree where
  files list some_ bytes := by
    rw [h.files list some_ bytes]
    constructor
    · rintro ⟨c, mem, rfl⟩
      refine ⟨c, ⟨mem, rfl⟩, fun d ⟨mem', eq⟩ => ?_⟩
      exact (filed d bytes mem').eq_of_names (filed c bytes mem)
        ClassName.isSuffix_classSuffix.toFileEnding eq.symm
    · rintro ⟨c, own, -⟩
      exact ⟨c, own⟩
  read c bytes mem := by
    have below := h.goesOn (filed c bytes mem)
    have some_ : names c.classFilePath ≠ [] := by
      obtain ⟨front, name, eq, -⟩ := (filed c bytes mem).names_classFile
      simp [eq]
    obtain ⟨executable, own⟩ := (h.files _ some_ bytes).mpr ⟨c, mem, rfl⟩
    rw [← below.placeOf] at own
    exact FileTree.read_eq_ok (h.located c bytes mem) own

/-- The bench when the work on a class directory has been reported. -/
def announced (wanted : List ClassName) (b : Bench History) : Bench History :=
  { b with utterances := b.utterances ++
      [.event ⟨.debug, Pipeline.area, "materializing classpath",
        [("classes", .number wanted.length)]⟩] }

theorem materialize_fills (host : Host) (provider : Provider History) (directory : String)
    (wanted : List ClassName) (b : Bench History) :
    ∃ findings, Fills host provider directory wanted (announced wanted b) findings
      ((materialize host provider directory wanted).run.run b).1
      ((materialize host provider directory wanted).run.run b).2 :=
  fills host provider directory wanted (announced wanted b)

/-- Filling an empty class directory from an attached target, when nobody else makes calls on it.
The classes have their turns in the order of their names. A class that is cached costs nothing, and
any other one call; one that the agent refuses, or has no bytes of, is left out with one warning;
any other failure ends the filling at once, and so does a path that the system does not take. If all
classes have had their turn, the directory has exactly what has been found, and what has been found
is cached: until an attach or an upload, only classes that were not found are asked for again. -/
theorem class_directory_exact (host : Host) (patience : Duration)
    {plan : Target → Operation → History → History} (timeout : Duration) {t : Target}
    (directory : String) (wanted : List ClassName) (b : Bench History)
    (formed : ∀ c ∈ wanted, c.WellFormed)
    (attached : ((after patience b.state).standing t).isAttached = true)
    (rest : RestsOn patience t b.state) (alone : Alone t plan)
    (there : b.files.isDirectory host.directory directory = true)
    (empty : ∀ q, StrictlyBelow (placeOfText host.directory directory) q → b.files.find? q = none) :
    let provider := (link patience plan timeout).provider t
    let run := (materialize host provider directory (ClassName.sortedSet wanted)).run.run b
    ∃ findings : List Finding,
      findings.map (·.className) <+: ClassName.sortedSet wanted ∧
      (findings.map (·.className)).Pairwise (fun c d => c.text < d.text) ∧
      Fetched patience timeout t b.state run.2.state findings ∧
      (∀ i f, (uncached patience t b.state findings)[i]? = some f →
        (f.result = .error (.notFound f.className) ↔
          ∃ q r, Heeded patience t run.2.state ((callsOn t b.state).length + i) q r ∧
            Reply.Refuses f.className.text r)) ∧
      (∃ said, run.2.utterances = b.utterances ++ said ∧
        writtenLines said = findings.filterMap Finding.warning?) ∧
      Ends directory findings run.1 ∧
      (run.1 = .ok () →
        findings.map (·.className) = ClassName.sortedSet wanted ∧
        Exact host.directory directory (findings.filterMap Finding.found?) run.2.files ∧
        (∀ c bytes, (c, bytes) ∈ findings.filterMap Finding.found? →
          ((after patience run.2.state).standing t).cached? c = some bytes) ∧
        ∀ (between : History) (other : Host) (place : String) (later : Bench History),
          later.state = run.2.state ++ between →
          (∀ operation ∈ callsOn t between, operation.clearsCache = false) →
          ∃ anew : List ClassName, anew.Sublist (ClassName.sortedSet wanted) ∧
            callsOn t ((materialize other provider place
                (ClassName.sortedSet wanted)).run.run later).2.state =
              callsOn t later.state ++ anew.map (fetching timeout) ∧
            ∀ c ∈ anew, (⟨c, .error (.notFound c)⟩ : Finding) ∈ findings) := by
  intro provider run
  have sorted := ClassName.pairwise_sortedSet wanted
  have nodup : (ClassName.sortedSet wanted).Nodup := by
    refine sorted.imp ?_
    rintro c _ order rfl
    exact String.lt_irrefl _ order
  have filed (c : ClassName) (mem : c ∈ ClassName.sortedSet wanted) : c.Filed :=
    (formed c (ClassName.mem_sortedSet.mp mem)).filed
  have known := ledger_of_attached attached
  obtain ⟨findings, fills⟩ := materialize_fills host provider directory
    (ClassName.sortedSet wanted) b
  have among := fills.among
  have supplied := fills.supplied alone nodup rest known
  obtain ⟨ends, full⟩ := fills.stocked nodup filed (stocked_of_empty there empty) nofun
  obtain ⟨said, eq, lines⟩ := fills.warnings
  refine ⟨findings, among, sorted.sublist among.sublist, supplied.fetched, ?_, ?_, ends, ?_⟩
  · intro i f at_
    rw [supplied.fetched.asked i f at_]
    exact not_found_iff (supplied.fetched.call at_)
  · exact ⟨_, eq.trans (List.append_assoc _ _ _), lines⟩
  · intro done
    have complete : findings.map (·.className) = ClassName.sortedSet wanted := by
      rw [show ((materialize host provider directory (ClassName.sortedSet wanted)).run.run b).1 =
        .ok () from done] at fills
      exact fills.complete
    have found_filed (c : ClassName) (bytes : Bytes)
        (mem : (c, bytes) ∈ findings.filterMap Finding.found?) : c.Filed :=
      filed c (complete ▸ List.mem_map_of_mem (mem_found_iff.mp mem))
    refine ⟨complete, (full done).exact found_filed, supplied.cached done, ?_⟩
    intro between other place later state harmless
    obtain ⟨_, again⟩ := materialize_fills other provider place (ClassName.sortedSet wanted) later
    obtain ⟨anew, fewer, calls, none_⟩ :=
      (again.asksAnew alone (supplied.rests done) ⟨between, state, harmless⟩).asked
    refine ⟨anew, fewer, calls, fun c mem => ?_⟩
    obtain ⟨⟨d, result⟩, mem', rfl⟩ := List.mem_map.mp (complete ▸ fewer.subset mem)
    cases result with
    | ok bytes =>
      have hit := supplied.cached done d bytes (mem_found_iff.mpr mem')
      rw [none_ d mem] at hit
      cases hit
    | error e =>
      cases e with
      | notFound d' =>
        obtain rfl := supplied.fetched.missing mem'
        exact mem'
      | transport d' cause => exact absurd rfl (ends.settled done _ mem' d' cause)

def serving : Target → Operation → History → History
  | t, .send (.fetchBytes "p.A") _, _ =>
    [.grant, .choose, .dialed .connected, .enter, .register, .wrote .written,
      .received 0 (Frame.payloadOf (fetchReply 1 [1]).json), .wake false].map (t, ·)
  | t, .send (.fetchBytes _) _, _ =>
    [.grant, .choose, .enter, .register, .wrote .written,
      .received 0 (Frame.payloadOf (Response.json (.reject 2 .fetchBytes "no such class"))),
      .wake false].map (t, ·)
  | _, _, _ => []

theorem alone_serving (t : Target) : Alone t serving := by
  intro operation events
  unfold serving
  split <;> rfl

def attachedBench : Bench History :=
  { state := attachedSite.agents, files := ⟨[(["cp"], .directory)]⟩ }

theorem sortedSet_two : ClassName.sortedSet [⟨"p.B"⟩, ⟨"p.A"⟩] = [⟨"p.A"⟩, ⟨"p.B"⟩] := by
  have turned : ClassName.sortedSet [⟨"p.B"⟩, ⟨"p.A"⟩] = ClassName.sortedSet [⟨"p.A"⟩, ⟨"p.B"⟩] :=
    ClassName.sortedSet_congr fun c => by simp [or_comm]
  rw [turned, ClassName.sortedSet, ClassName.sort, List.mergeSort_of_pairwise (by decide +kernel)]
  rfl

def filledTwo : Except CompileError Unit × Bench History :=
  (materialize bareHost ((link (.ofSecs 5) serving (.ofSecs 15)).provider (.process 7)) "/cp"
    (ClassName.sortedSet [⟨"p.B"⟩, ⟨"p.A"⟩])).run.run attachedBench

theorem filledTwo_done : filledTwo.1 = .ok () ∧
    outcomeOf ((after (.ofSecs 5) filledTwo.2.state).lane (.process 7)) 1 =
      .answered (.bytes ⟨⟨"p.A"⟩, [1]⟩) := by
  unfold filledTwo
  rw [sortedSet_two]
  constructor <;> decide +kernel

theorem class_directory_exact_two :
    filledTwo.1 = .ok () ∧
    callsOn (.process 7) filledTwo.2.state = callsOn (.process 7) attachedBench.state ++
      [fetching (.ofSecs 15) ⟨"p.A"⟩, fetching (.ofSecs 15) ⟨"p.B"⟩] ∧
    filledTwo.2.files.read [] "/cp/p/A.class" = .ok [1] ∧
    ((after (.ofSecs 5) filledTwo.2.state).standing (.process 7)).cached? ⟨"p.A"⟩ = some [1] := by
  obtain ⟨done, outcome⟩ := filledTwo_done
  unfold filledTwo at done outcome ⊢
  obtain ⟨findings, -, -, fetched, -, -, -, full⟩ := class_directory_exact bareHost (.ofSecs 5)
    (.ofSecs 15) "/cp" [⟨"p.B"⟩, ⟨"p.A"⟩] attachedBench (by decide +kernel) (by decide +kernel)
    ⟨by decide +kernel, by decide +kernel⟩ (alone_serving (.process 7)) (by decide +kernel) (by
      rintro q ⟨list, some_, rfl⟩
      have place : placeOfText bareHost.directory "/cp" = ["cp"] := by decide +kernel
      simp [attachedBench, FileTree.find?, Table.get?, place, some_.symm])
  obtain ⟨complete, exact_, cached, -⟩ := full done
  rw [sortedSet_two] at complete
  obtain ⟨f, g, rfl⟩ := List.length_eq_two.mp (by simpa using congrArg List.length complete)
  obtain ⟨own, other⟩ : f.className = ⟨"p.A"⟩ ∧ g.className = ⟨"p.B"⟩ := by simpa using complete
  have unknown : uncached (.ofSecs 5) (.process 7) attachedBench.state [f, g] = [f, g] := by
    rw [uncached_asked rfl, uncached_asked rfl]
    rfl
  have served : f.result = .ok [1] := by
    rw [fetched.asked 0 f (by rw [unknown]; rfl),
      show (callsOn (.process 7) attachedBench.state).length + 0 = 1 from rfl, outcome]
    rfl
  have mem : ((⟨"p.A"⟩, [1]) : ClassName × Bytes) ∈ [f, g].filterMap Finding.found? :=
    List.mem_filterMap.mpr ⟨f, List.mem_cons_self, by simp only [Finding.found?, served, own]⟩
  have path : Path.join "/cp" (ClassName.classFilePath ⟨"p.A"⟩) = "/cp/p/A.class" := by
    decide +kernel
  have read := exact_.read _ _ mem
  rw [path] at read
  refine ⟨done, ?_, read, cached _ _ mem⟩
  rw [fetched.calls, unknown, List.map_cons, List.map_cons, own, other]
  rfl

end ClassSwap.Javac
