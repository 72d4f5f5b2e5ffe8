import ClassSwap.Proofs.CompilerWork
import ClassSwap.Proofs.TextBytes
import Mathlib.Data.List.Basic

namespace ClassSwap

namespace CompilerOutput

variable {stream front line rest : Bytes} {all : List Bytes} {texts : List String}

/-- The lines of a stream. A line ends at a line feed, with or without a carriage return before it.
What stands behind the last line feed is a line too, unless there is nothing. -/
inductive Lines : Bytes → List Bytes → Prop
  | none : Lines [] []
  | last (line : Bytes) (some_ : line ≠ []) (plain : 10 ∉ line) : Lines line [line]
  | feed (line rest : Bytes) (later : List Bytes) (plain : 10 ∉ line)
      (open_ : line.getLast? ≠ some 13) (behind : Lines rest later) :
      Lines (line ++ 10 :: rest) (line :: later)
  | returned (line rest : Bytes) (later : List Bytes) (plain : 10 ∉ line)
      (behind : Lines rest later) : Lines (line ++ 13 :: 10 :: rest) (line :: later)

def IsText (line : Bytes) : Prop := ∃ text, line = Utf8.ofString text

/-- The texts are the lines, up to the first line that is not text. -/
def Forwarded (all : List Bytes) (texts : List String) : Prop :=
  ∃ back, all = texts.map Utf8.ofString ++ back ∧ ∀ line ∈ back.head?, ¬IsText line

theorem dropReturn_concat (line : Bytes) : dropReturn (line ++ [13]) = line := by
  simp [dropReturn]

theorem dropReturn_of_ne (open_ : line.getLast? ≠ some 13) : dropReturn line = line :=
  if_neg open_

theorem splitLines_append (plain : 10 ∉ line) (front rest : Bytes) :
    splitLines front (line ++ rest) = splitLines (line.reverse ++ front) rest := by
  induction line generalizing front with
  | nil => rfl
  | cons b line ih =>
    simp only [List.mem_cons, not_or] at plain
    rw [List.cons_append, splitLines, if_neg (Ne.symm plain.1), ih plain.2, List.reverse_cons,
      List.append_assoc, List.singleton_append]

/-- Every stream has lines. What has been read of the current line goes before the rest. -/
theorem lines_splitLines (plain : 10 ∉ front) (rest : Bytes) :
    Lines (front.reverse ++ rest) (splitLines front rest) := by
  induction rest generalizing front with
  | nil =>
    rw [splitLines, List.append_nil]
    cases front with
    | nil => exact .none
    | cons b front => exact .last _ (by simp) (by simpa [and_comm] using plain)
  | cons b rest ih =>
    rw [splitLines]
    split
    next feed =>
      subst feed
      have later : Lines rest (splitLines [] rest) := ih List.not_mem_nil
      by_cases closed : front.reverse.getLast? = some 13
      · obtain ⟨line, eq⟩ := List.getLast?_eq_some_iff.mp closed
        have free : 10 ∉ line := fun mem =>
          plain (List.mem_reverse.mp (eq ▸ List.mem_append_left [13] mem))
        rw [eq, dropReturn_concat, List.append_assoc]
        exact .returned line rest _ free later
      · rw [dropReturn_of_ne closed]
        exact .feed _ rest _ (by simpa using plain) closed later
    next other =>
      have free : 10 ∉ b :: front := by simp [plain, Ne.symm other]
      have more := ih free
      rwa [List.reverse_cons, List.append_assoc, List.singleton_append] at more

theorem Lines.eq_splitLines (h : Lines stream all) : all = splitLines [] stream := by
  induction h with
  | none => rfl
  | last line some_ plain =>
    have whole := splitLines_append plain [] []
    rw [List.append_nil, List.append_nil] at whole
    rw [whole, splitLines, if_neg (by simpa using some_), List.reverse_reverse]
  | feed line rest later plain open_ behind ih =>
    rw [splitLines_append plain, splitLines, if_pos rfl, List.append_nil, List.reverse_reverse,
      dropReturn_of_ne open_, ← ih]
  | returned line rest later plain behind ih =>
    have free : 10 ∉ line ++ [13] := by simp [plain]
    have whole := splitLines_append free [] (10 :: rest)
    rw [List.append_assoc, List.singleton_append] at whole
    rw [whole, splitLines, if_pos rfl, List.append_nil, List.reverse_reverse, dropReturn_concat,
      ← ih]

theorem isText_iff : IsText line ↔ ∃ text, Utf8.toString? line = some text := by
  simp only [IsText, Utf8.toString?_eq_some_iff]

theorem forwarded_textLines (all : List Bytes) : Forwarded all (textLines all) := by
  induction all with
  | nil => exact ⟨[], rfl, nofun⟩
  | cons line rest ih =>
    rw [textLines]
    split
    next text read =>
      obtain ⟨back, eq, stuck⟩ := ih
      refine ⟨back, ?_, stuck⟩
      rw [List.map_cons, List.cons_append, ← eq, Utf8.toString?_eq_some_iff.mp read]
    next unread =>
      refine ⟨line :: rest, rfl, fun first own text => ?_⟩
      obtain rfl : line = first := Option.some.inj own
      obtain ⟨text, read⟩ := isText_iff.mp text
      rw [unread] at read
      cases read

/-- Nothing is lost exactly if all lines are text. -/
theorem Forwarded.complete_iff (h : Forwarded all texts) :
    all = texts.map Utf8.ofString ↔ ∀ line ∈ all, IsText line := by
  obtain ⟨back, rfl, stuck⟩ := h
  constructor
  · intro whole line mem
    rw [whole, List.mem_map] at mem
    obtain ⟨text, -, rfl⟩ := mem
    exact ⟨text, rfl⟩
  · intro text
    cases back with
    | nil => rw [List.append_nil]
    | cons line back => exact absurd (text line (by simp)) (stuck line rfl)

/-- What comes of a stream: the stream has its lines and no others, the texts are these lines up to
the first that is not text, and nothing is lost exactly if all of them are text. -/
def Heard (stream : Bytes) (texts : List String) : Prop :=
  ∃ all, Lines stream all ∧ (∀ other, Lines stream other → other = all) ∧ Forwarded all texts ∧
    (all = texts.map Utf8.ofString ↔ ∀ line ∈ all, IsText line)

theorem heard_lines (stream : Bytes) : Heard stream (lines stream) := by
  have own := lines_splitLines List.not_mem_nil stream
  have forwarded := forwarded_textLines (splitLines [] stream)
  exact ⟨splitLines [] stream, own, fun other h => h.eq_splitLines, forwarded,
    forwarded.complete_iff⟩

end CompilerOutput

namespace Javac

open CompilerOutput

variable {σ : Type} {host : Host} {settings : Javac} {scratch : Scratch} {sources : List String}
  {b : Bench σ} {run : ProcessRun}

def startReport (settings : Javac) (sources : List String) : LogEvent :=
  ⟨.debug, Pipeline.area, "spawning javac",
    [("javac", .text settings.program), ("files", .number sources.length)]⟩

theorem run_runCompiler
    (spawned : host.spawn b.files settings.program (settings.arguments scratch sources) = .ok run)
    (inTime : run.took.nanos < settings.timeout.nanos) :
    (runCompiler host settings scratch sources).run.run b =
      (if run.succeeded then .ok ()
        else .error (.failed (failureText (lines run.stdout) (lines run.stderr))),
      { b with
        files := run.files
        utterances := b.utterances ++ [.event (startReport settings sources)] ++
          ((lines run.stdout).map (.line · 1) ++ (lines run.stderr).map (.line · 2)) }) := by
  have reported : (report "spawning javac" [("javac", .text settings.program),
      ("files", .number sources.length)]).run.run b = (.ok (), { b with
        utterances := b.utterances ++ [.event (startReport settings sources)] }) := rfl
  rw [runCompiler, run_bind reported, run_get_bind]
  dsimp only
  rw [spawned]
  dsimp only
  rw [if_neg (Nat.not_le.mpr inTime)]
  cases ended : run.succeeded <;> rfl

/-- What a compiler writes is forwarded line by line, up to the first line that is not text: each
line that is forwarded is unchanged, and a failure is told with these lines and no others. -/
theorem output_forwarded (host : Host) (settings : Javac) (scratch : Scratch)
    (sources : List String) (b : Bench σ) (run : ProcessRun)
    (spawned : host.spawn b.files settings.program (settings.arguments scratch sources) = .ok run)
    (inTime : run.took.nanos < settings.timeout.nanos) :
    ∃ out err, Heard run.stdout out ∧ Heard run.stderr err ∧
      out = lines run.stdout ∧ err = lines run.stderr ∧
      (runCompiler host settings scratch sources).run.run b =
        (if run.succeeded then .ok () else .error (.failed (failureText out err)),
        { b with
          files := run.files
          utterances := b.utterances ++ [.event (startReport settings sources)] ++
            (out.map (.line · 1) ++ err.map (.line · 2)) }) :=
  ⟨_, _, heard_lines run.stdout, heard_lines run.stderr, rfl, rfl, run_runCompiler spawned inTime⟩

def grumbling : Host where
  directory := []
  run _ files _ := ⟨files, Utf8.ofString "ok\r\n\nµ", Utf8.ofString "no\r", false, ⟨0⟩⟩

def grumblingBench : Bench Unit := { state := (), files := ⟨[(["javac"], .file [] true)]⟩ }

theorem output_forwarded_both :
    let settings : Javac := { program := "/javac" }
    let run := grumbling.run ["javac"] grumblingBench.files []
    grumbling.spawn grumblingBench.files settings.program (settings.arguments ⟨"/tmp"⟩ []) =
        .ok run ∧
      run.took.nanos < settings.timeout.nanos ∧
      ((runCompiler grumbling settings ⟨"/tmp"⟩ []).run.run grumblingBench).1 =
        .error (.failed (failureText ["ok", "", "µ"] ["no\r"])) := by
  intro settings run
  have found : grumbling.program grumblingBench.files settings.program = .ok ["javac"] := by
    decide +kernel
  have plain : ((settings.program :: settings.arguments ⟨"/tmp"⟩ []).any fun s =>
      s.toList.contains '\x00') = false := by
    decide +kernel
  have spawned : grumbling.spawn grumblingBench.files settings.program
      (settings.arguments ⟨"/tmp"⟩ []) = .ok run := by
    rw [Host.spawn, if_neg (by rw [plain]; exact Bool.false_ne_true), found]
    rfl
  have inTime : run.took.nanos < settings.timeout.nanos := by decide
  obtain ⟨_, _, -, -, rfl, rfl, ended⟩ :=
    output_forwarded grumbling settings ⟨"/tmp"⟩ [] grumblingBench run spawned inTime
  have heard : lines run.stdout = ["ok", "", "µ"] := by decide +kernel
  have said : lines run.stderr = ["no\r"] := by decide +kernel
  rw [heard, said] at ended
  exact ⟨spawned, inTime, congrArg Prod.fst ended⟩

/-- A line of text is lost behind one that is not. -/
theorem line_lost_behind_bad_bytes :
    Lines [97, 10, 255, 10, 98, 10] [Utf8.ofString "a", [255], Utf8.ofString "b"] ∧
      lines [97, 10, 255, 10, 98, 10] = ["a"] := by
  constructor
  · exact .feed [97] _ _ (by decide) (by decide) (.feed [255] _ _ (by decide) (by decide)
      (.feed [98] [] _ (by decide) (by decide) .none))
  · decide +kernel

end Javac

end ClassSwap
