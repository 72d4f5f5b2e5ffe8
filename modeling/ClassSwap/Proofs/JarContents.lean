import ClassSwap.Proofs.ArchiveContents
import ClassSwap.Upload.Jar
import Mathlib.Data.List.Forall2
import Mathlib.Data.List.Induction
import Mathlib.Data.List.Nodup

namespace ClassSwap

namespace Zip

/-- How the drafts of an archiver come about. -/
inductive Archiver.Made (a : Archiver) : List (String × Bytes) → a.Draft → Prop
  | blank : Made a [] a.blank
  | add {entries : List (String × Bytes)} {draft next : a.Draft} {opened : a.Opened}
      {name : String} {bytes : Bytes} (made : Made a entries draft)
      (started : a.start draft name = .ok opened) (filled : a.fill opened bytes = .ok next) :
      Made a (entries ++ [(name, bytes)]) next

/-- What can be relied on: within its limits an archiver takes every entry whose name is new and
keeps all of them, and it refuses a name that it has. -/
structure Archiver.Sound (a : Archiver) (Fits : List (String × Bytes) → Prop) : Prop where
  accepts {entries more : List (String × Bytes)} {name : String} {bytes : Bytes} {draft : a.Draft} :
    a.Made entries draft → name ∉ entries.map (·.1) → Fits (entries ++ (name, bytes) :: more) →
      ∃ opened next, a.start draft name = .ok opened ∧ a.fill opened bytes = .ok next
  refuses {entries : List (String × Bytes)} {name : String} {draft : a.Draft} :
    a.Made entries draft → name ∈ entries.map (·.1) → ∃ fault, a.start draft name = .error fault
  keeps {entries : List (String × Bytes)} {draft : a.Draft} :
    a.Made entries draft → Fits entries →
      ∃ archive, a.finish draft = .ok archive ∧ a.Holds archive entries

/-- What it can be relied on for. -/
structure Manageable (packer : Packer) (entries : List (String × Bytes)) : Prop where
  plain : ∀ e ∈ entries, Plain e.1
  short : ∀ e ∈ entries, (Utf8.ofString e.1).length ≤ maxWord16
  small : ∀ e ∈ entries, e.2.length ≤ maxWord32
  low : (write packer entries).length < maxWord32

variable {packer : Packer} {entries : List (String × Bytes)} {name : String} {bytes : Bytes}

theorem startEntry_eq_ok_iff {pending : Pending} {opened : String × Pending} :
    startEntry pending name = .ok opened ↔
      name ∉ pending.map (·.1) ∧ (Utf8.ofString name).length ≤ maxWord16 ∧
        opened = (name, pending) := by
  have used : pending.any (·.1 == name) = true ↔ name ∈ pending.map (·.1) := by
    simp [List.any_eq_true]
  simp only [startEntry, used]
  split
  next old => simp [old]
  next new =>
    split
    next long => simp [Nat.not_le.mpr long]
    next short => simp [new, Nat.not_lt.mp short, eq_comm]

theorem fillEntry_eq_ok_iff {pending : Pending} {opened : String × Pending} :
    fillEntry opened bytes = .ok pending ↔
      bytes.length ≤ maxWord32 ∧ pending = (opened.1, bytes) :: opened.2 := by
  rw [fillEntry]
  split
  next large => simp [Nat.not_le.mpr large]
  next small => simp [Nat.not_lt.mp small, eq_comm]

/-- A draft has its entries, no name twice and nothing that is too long. -/
theorem made_archiver {draft : (archiver packer).Draft}
    (made : (archiver packer).Made entries draft) :
    draft = entries.reverse ∧ (entries.map (·.1)).Nodup ∧
      ∀ e ∈ entries, (Utf8.ofString e.1).length ≤ maxWord16 ∧ e.2.length ≤ maxWord32 := by
  induction made with
  | blank => exact ⟨rfl, List.nodup_nil, nofun⟩
  | @add entries draft next opened name bytes _ started filled ih =>
    obtain ⟨rfl, distinct, room⟩ := ih
    obtain ⟨new, short, rfl⟩ := startEntry_eq_ok_iff.mp started
    obtain ⟨small, rfl⟩ := fillEntry_eq_ok_iff.mp filled
    rw [List.map_reverse, List.mem_reverse] at new
    refine ⟨?_, ?_, fun e mem => ?_⟩
    · rw [List.reverse_append]
      rfl
    · rw [List.map_append, List.map_singleton, ← List.concat_eq_append]
      exact List.Nodup.concat new distinct
    · rcases List.mem_append.mp mem with mem | mem
      · exact room e mem
      · obtain rfl := List.mem_singleton.mp mem
        exact ⟨short, small⟩

theorem sound_archiver (packer : Packer) : (archiver packer).Sound (Manageable packer) where
  accepts {entries more name bytes draft} made new fits := by
    obtain ⟨rfl, -, -⟩ := made_archiver made
    have mem : (name, bytes) ∈ entries ++ (name, bytes) :: more := by simp
    rw [← List.mem_reverse, ← List.map_reverse] at new
    exact ⟨_, _, startEntry_eq_ok_iff.mpr ⟨new, fits.short _ mem, rfl⟩,
      fillEntry_eq_ok_iff.mpr ⟨fits.small _ mem, rfl⟩⟩
  refuses {entries name draft} made old := by
    obtain ⟨rfl, -, -⟩ := made_archiver made
    have used : entries.reverse.any (·.1 == name) = true := by
      obtain ⟨e, mem, rfl⟩ := List.mem_map.mp old
      exact List.any_eq_true.mpr ⟨e, List.mem_reverse.mpr mem, beq_self_eq_true _⟩
    exact ⟨.duplicateName, if_pos used⟩
  keeps {entries draft} made fits := by
    obtain ⟨rfl, distinct, -⟩ := made_archiver made
    have held := holds_write distinct fits.plain fits.short fits.small fits.low
    rw [← List.reverse_reverse entries] at held
    exact ⟨_, rfl, by rwa [List.reverse_reverse entries] at held ⊢⟩

/-- Reading does not depend on what the contents were packed with. -/
theorem holds_archiver {archive : Bytes} (other : Packer)
    (holds : (archiver packer).Holds archive entries) : (archiver other).Holds archive entries := by
  obtain ⟨rows, listed, shown⟩ := holds
  exact ⟨rows, listed, shown.imp fun _ _ shows_ => ⟨shows_.name, shows_.content⟩⟩

end Zip

theorem ClassName.toList_classFilePath (name : ClassName) : name.classFilePath.toList =
    replaceChar '.' '/' name.text.toList ++ ['.', 'c', 'l', 'a', 's', 's'] := by
  simp [classFilePath, internalName, classSuffix]

theorem ClassName.plain_classFilePath (name : ClassName) : Zip.Plain name.classFilePath := by
  refine ⟨Utf8.encode (replaceChar '.' '/' name.text.toList) ++ Utf8.encode ['.', 'c'],
    Utf8.encode ['l', 'a', 's', 's'], ?_, by decide, by decide⟩
  rw [Utf8.ofString, toList_classFilePath]
  simp [Utf8.encode]

/-- A name that can be told from the path of its class file. -/
structure ClassName.Told (name : ClassName) : Prop where
  nonempty : name.text ≠ ""
  flat : '/' ∉ name.text.toList
  closed : name.text.toList.getLast? ≠ some '.'

theorem replaceChar_back {old new : Char} (other : new ≠ old) (text : List Char) :
    replaceChar new old (replaceChar old new text) = text ↔ new ∉ text := by
  induction text with
  | nil => simp [replaceChar]
  | cons c text ih =>
    simp only [replaceChar, List.map_cons, List.cons.injEq, List.mem_cons, not_or] at ih ⊢
    rw [ih]
    refine and_congr_left fun _ => ?_
    by_cases here : c = old
    · simp [here, other]
    · by_cases there : c = new
      · simp [there, other, Ne.symm other]
      · simp [there, here, Ne.symm there]

/-- Dots come back from slashes unless the name has slashes of its own. -/
theorem ClassName.ofInternal_internalName_iff (name : ClassName) :
    ofInternal name.internalName = name ↔ '/' ∉ name.text.toList := by
  rw [← replaceChar_back (show '/' ≠ '.' by decide), ofInternal, internalName, String.toList_ofList]
  rcases name with ⟨text⟩
  simp [← String.toList_inj]

/-- Exactly such a name is what the entry with its path holds. -/
theorem ClassName.ofEntry?_classFilePath_iff (name : ClassName) :
    ofEntry? name.classFilePath = some name ↔ name.Told := by
  have suffix : classSuffix.toList.isSuffixOf name.classFilePath.toList = true := by
    rw [List.isSuffixOf_iff_suffix, toList_classFilePath]
    exact List.suffix_append _ _
  have internal : name.classFilePath.toList.take
      (name.classFilePath.toList.length - classSuffix.toList.length) =
        replaceChar '.' '/' name.text.toList := by
    rw [toList_classFilePath, List.take_left' (by simp [classSuffix])]
  have back := name.ofInternal_internalName_iff
  rw [internalName] at back
  have last : (replaceChar '.' '/' name.text.toList).getLast? = some '/' ↔
      name.text.toList.getLast? = some '.' ∨ name.text.toList.getLast? = some '/' := by
    rw [replaceChar, List.getLast?_map]
    cases name.text.toList.getLast? with
    | none => simp
    | some c =>
      by_cases dot : c = '.'
      · simp [dot]
      · simp [dot]
  have empty : (replaceChar '.' '/' name.text.toList).isEmpty = true ↔ name.text = "" := by
    simp [replaceChar]
  simp only [ ofEntry?, suffix, if_true, internal, Bool.or_eq_true, empty, beq_iff_eq, last]
  split
  next untold =>
    refine iff_of_false nofun fun told => ?_
    rcases untold with none | dot | slash
    · exact told.nonempty none
    · exact told.closed dot
    · exact told.flat (List.mem_of_getLast? slash)
  next named =>
    simp only [not_or] at named
    rw [Option.some.injEq, back]
    exact ⟨fun flat => ⟨named.1, flat, named.2.1⟩, fun told => told.flat⟩

namespace Jar

variable {a : Zip.Archiver} {Fits : List (String × Bytes) → Prop} {files front : List ClassFile}
  {packer : Zip.Packer} {jar : Bytes}

theorem map_fst_entriesOf (files : List ClassFile) :
    (entriesOf files).map (·.1) = files.map (·.className.classFilePath) := by
  simp [entriesOf, Function.comp_def]

theorem manageable_entriesOf
    (short : ∀ e ∈ entriesOf files, (Utf8.ofString e.1).length ≤ Zip.maxWord16)
    (small : ∀ e ∈ entriesOf files, e.2.length ≤ Zip.maxWord32)
    (low : (Zip.write packer (entriesOf files)).length < Zip.maxWord32) :
    Zip.Manageable packer (entriesOf files) := by
  refine ⟨fun e mem => ?_, short, small, low⟩
  obtain ⟨c, -, rfl⟩ := List.mem_map.mp mem
  exact c.className.plain_classFilePath

/-- A batch is packed if the draft of its entries can be made. -/
theorem made_pack {names : List ClassName} {draft final : a.Draft} {entries : List (String × Bytes)}
    (made : a.Made entries draft) (packed : pack a names draft files = .ok final) :
    a.Made (entries ++ entriesOf files) final := by
  induction files generalizing names draft entries with
  | nil =>
    cases packed
    simpa [entriesOf] using made
  | cons c files ih =>
    rw [pack] at packed
    split at packed
    next => cases packed
    split at packed
    next => cases packed
    next opened started =>
      split at packed
      next => cases packed
      next next filled =>
        have all := ih (made.add started filled) packed
        rwa [List.append_assoc] at all

theorem pack_append (sound : a.Sound Fits) (names : List ClassName) (rest : List ClassFile)
    (more : List (String × Bytes)) {draft : a.Draft} {entries : List (String × Bytes)}
    (made : a.Made entries draft) (room : Fits (entries ++ (entriesOf front ++ more)))
    (seen : ∀ name ∈ names, name.classFilePath ∈ entries.map (·.1))
    (apart : (front.map (·.className.classFilePath)).Nodup)
    (new : ∀ c ∈ front, c.className.classFilePath ∉ entries.map (·.1)) :
    ∃ next, a.Made (entries ++ entriesOf front) next ∧ pack a names draft (front ++ rest) =
      pack a ((front.map (·.className)).reverse ++ names) next rest := by
  induction front generalizing names draft entries with
  | nil => exact ⟨draft, by simpa [entriesOf] using made, rfl⟩
  | cons c front ih =>
    obtain ⟨other, apart⟩ := List.nodup_cons.mp apart
    have here := new c List.mem_cons_self
    have fresh : names.contains c.className = false := by
      rw [Bool.eq_false_iff, ne_eq, List.contains_iff_mem]
      exact fun mem => here (seen _ mem)
    obtain ⟨opened, draft', started, filled⟩ := sound.accepts made here room
    have room' : Fits (entries ++ [(c.className.classFilePath, c.bytes)] ++
        (entriesOf front ++ more)) := by
      rwa [List.append_assoc]
    obtain ⟨next, all, eq⟩ := ih (c.className :: names) (made.add started filled) room'
      (by
        intro name mem
        rw [List.map_append, List.mem_append]
        rcases List.mem_cons.mp mem with rfl | mem
        · exact .inr List.mem_cons_self
        · exact .inl (seen name mem)) apart
      (by
        intro d mem
        rw [List.map_append, List.mem_append, not_or]
        refine ⟨new d (List.mem_cons_of_mem c mem), fun same => other ?_⟩
        rw [← List.mem_singleton.mp same]
        exact List.mem_map_of_mem mem)
    refine ⟨next, by rwa [List.append_assoc] at all, ?_⟩
    rw [List.cons_append, pack, fresh]
    simp only [Bool.false_eq_true, if_false, started, filled, eq, List.map_cons, List.reverse_cons,
      List.append_assoc, List.singleton_append]

theorem pack_clash (sound : a.Sound Fits) (names : List ClassName) (rest : List ClassFile)
    {draft : a.Draft} {entries : List (String × Bytes)} (made : a.Made entries draft)
    {c : ClassFile} (old : c.className.classFilePath ∈ entries.map (·.1)) :
    (c.className ∈ names → pack a names draft (c :: rest) = .error (.duplicateClass c.className)) ∧
      (c.className ∉ names →
        ∃ fault, pack a names draft (c :: rest) = .error (.zip fault)) := by
  obtain ⟨fault, refused⟩ := sound.refuses made old
  refine ⟨fun seen => ?_, fun new => ⟨fault, ?_⟩⟩
  · rw [pack, if_pos (List.contains_iff_mem.mpr seen)]
  · rw [pack, if_neg (mt List.contains_iff_mem.mp new), refused]

theorem exists_clash {files : List ClassFile}
    (twice : ¬ (files.map (·.className.classFilePath)).Nodup) :
    ∃ front c back, files = front ++ c :: back ∧
      (front.map (·.className.classFilePath)).Nodup ∧
      c.className.classFilePath ∈ front.map (·.className.classFilePath) := by
  induction files using List.reverseRecOn with
  | nil => exact absurd List.nodup_nil twice
  | append_singleton files c ih =>
    by_cases apart : (files.map (·.className.classFilePath)).Nodup
    · refine ⟨files, c, [], rfl, apart, ?_⟩
      by_contra new
      rw [List.map_append, List.map_singleton, ← List.concat_eq_append] at twice
      exact twice (List.Nodup.concat new apart)
    · obtain ⟨front, d, back, rfl, clash⟩ := ih apart
      exact ⟨front, d, back ++ [c], by simp, clash⟩

theorem isDirectory_classFile {h : Zip.Header} {name : ClassName}
    (named : h.name = name.classFilePath) : h.isDirectory = false := by
  rw [Zip.Header.isDirectory, named, ClassName.toList_classFilePath]
  simp

/-- Every row of a batch is read, since no class has the path of a directory. -/
theorem readRows_of_shows {rows : List Zip.Header}
    (shown : List.Forall₂ (a.Shows jar) rows (entriesOf files)) :
    ∃ entries, readRows a jar rows = .ok entries ∧
      entries.map (fun e => (e.header.name, e.content)) = entriesOf files := by
  induction files generalizing rows with
  | nil =>
    cases shown
    exact ⟨[], rfl, rfl⟩
  | cons c files ih =>
    rcases shown with _ | ⟨first, others⟩
    next h rows =>
    obtain ⟨entries, read, same⟩ := ih others
    obtain ⟨packed, selected, (unpacked : a.unpack h packed = .ok c.bytes)⟩ := first.content
    refine ⟨⟨h, c.bytes⟩ :: entries, ?_, ?_⟩
    · simp only [readRows, Except.mapError, bind, Except.bind, selected,
        isDirectory_classFile first.name, unpacked, read]
      rfl
    · rw [List.map_cons, same, first.name]
      rfl

theorem readWith_of_holds (holds : a.Holds jar (entriesOf files)) :
    ∃ entries, readWith a jar = .ok entries ∧
      entries.map (fun e => (e.header.name, e.content)) = entriesOf files := by
  obtain ⟨rows, listed, shown⟩ := holds
  obtain ⟨entries, read, same⟩ := readRows_of_shows shown
  refine ⟨entries, ?_, same⟩
  rw [readWith, listed]
  exact read

theorem buildWith_of_nodup (sound : a.Sound Fits) (room : Fits (entriesOf files))
    (apart : (files.map (·.className.classFilePath)).Nodup) :
    ∃ jar, buildWith a files = .ok jar := by
  obtain ⟨draft, made, packed⟩ := pack_append sound [] [] [] .blank (by simpa using room) nofun
    apart (by simp)
  obtain ⟨jar, finished, -⟩ := sound.keeps made room
  rw [List.append_nil] at packed
  refine ⟨jar, ?_⟩
  rw [buildWith, packed, pack]
  exact congrArg (Except.mapError _) finished

/-- The first class whose path is taken already is refused, for its name or for its path. -/
theorem buildWith_clash (sound : a.Sound Fits) (front : List ClassFile) (c : ClassFile)
    (back : List ClassFile) (room : Fits (entriesOf (front ++ c :: back)))
    (apart : (front.map (·.className.classFilePath)).Nodup)
    (old : c.className.classFilePath ∈ front.map (·.className.classFilePath)) :
    (c.className ∈ front.map (·.className) →
      buildWith a (front ++ c :: back) = .error (.duplicateClass c.className)) ∧
    (c.className ∉ front.map (·.className) →
      ∃ fault, buildWith a (front ++ c :: back) = .error (.zip fault)) := by
  obtain ⟨draft, made, packed⟩ := pack_append sound [] (c :: back) (entriesOf (c :: back)) .blank
    (by simpa [entriesOf] using room) nofun apart (by simp)
  rw [← map_fst_entriesOf] at old
  have refused := pack_clash sound ((front.map (·.className)).reverse ++ []) back made old
  rw [List.append_nil, List.mem_reverse, ← List.append_nil (List.reverse _), ← packed] at refused
  refine ⟨fun seen => ?_, fun new => ?_⟩
  · rw [buildWith, refused.1 seen]
  · obtain ⟨fault, refused⟩ := refused.2 new
    exact ⟨fault, by rw [buildWith, refused]⟩

/-- What is read of a jar are the entries for the classes that were packed. -/
theorem readWith_buildWith (sound : a.Sound Fits) (room : Fits (entriesOf files))
    (built : buildWith a files = .ok jar) :
    ∃ entries, readWith a jar = .ok entries ∧
      entries.map (fun e => (e.header.name, e.content)) = entriesOf files := by
  rw [buildWith] at built
  split at built
  next => cases built
  next draft packed =>
    obtain ⟨archive, finished, holds⟩ := sound.keeps (made_pack .blank packed) room
    rw [finished] at built
    cases built
    exact readWith_of_holds holds

open ClassName in
/-- Packing loses nothing: exactly batches without a path twice are packed, and what is read of the
jar are the paths and the bytes of the classes. The first class whose path is taken decides the
error: it is refused for its name if that came up before, and otherwise by the archiver. -/
theorem packing_lossless (sound : a.Sound Fits) (files : List ClassFile)
    (room : Fits (entriesOf files)) :
    ((∃ jar, buildWith a files = .ok jar) ↔
      (files.map (·.className.classFilePath)).Nodup) ∧
    (∀ front c back, files = front ++ c :: back →
      (front.map (·.className.classFilePath)).Nodup →
      c.className.classFilePath ∈ front.map (·.className.classFilePath) →
      (c.className ∈ front.map (·.className) →
        buildWith a files = .error (.duplicateClass c.className)) ∧
      (c.className ∉ front.map (·.className) →
        ∃ fault, buildWith a files = .error (.zip fault))) ∧
    ∀ jar, buildWith a files = .ok jar → ∃ entries, readWith a jar = .ok entries ∧
      entries.map (fun e => (e.header.name, e.content)) =
        files.map (fun c => (c.className.classFilePath, c.bytes)) ∧
      List.Forall₂ (fun e c => ofEntry? e.header.name = some c.className ↔
        c.className.Told) entries files := by
  refine ⟨⟨?_, buildWith_of_nodup sound room⟩, ?_, fun jar built => ?_⟩
  · rintro ⟨jar, built⟩
    by_contra twice
    obtain ⟨front, c, back, rfl, apart, old⟩ := exists_clash twice
    have refused := buildWith_clash sound front c back room apart old
    rw [built] at refused
    by_cases seen : c.className ∈ front.map (·.className)
    · cases refused.1 seen
    · obtain ⟨fault, refused⟩ := refused.2 seen
      cases refused
  · rintro front c back rfl apart old
    exact buildWith_clash sound front c back room apart old
  · obtain ⟨entries, read, same⟩ := readWith_buildWith sound room built
    have pairs : List.Forall₂ (· = ·) (entries.map fun e => (e.header.name, e.content))
        (entriesOf files) := by
      rw [List.forall₂_eq_eq_eq]
      exact same
    refine ⟨entries, read, same, (List.forall₂_map_left_iff.mp
      (List.forall₂_map_right_iff.mp pairs)).imp fun e c same => ?_⟩
    rw [(Prod.mk.inj same).1]
    exact c.className.ofEntry?_classFilePath_iff

/-- Two classes and their jar, and two names with one path. -/
theorem packing_lossless_two_classes :
    (∃ jar, build [⟨⟨"a.B"⟩, [1]⟩, ⟨⟨"C"⟩, [2]⟩] = .ok jar) ∧
      ∃ fault, build [⟨⟨"a.B"⟩, [1]⟩, ⟨⟨"a/B"⟩, [2]⟩] = .error (.zip fault) := by
  have apart := packing_lossless (Zip.sound_archiver .storing) [⟨⟨"a.B"⟩, [1]⟩, ⟨⟨"C"⟩, [2]⟩]
    (manageable_entriesOf (by decide) (by decide) (by decide +kernel))
  have same := packing_lossless (Zip.sound_archiver .storing) [⟨⟨"a.B"⟩, [1]⟩, ⟨⟨"a/B"⟩, [2]⟩]
    (manageable_entriesOf (by decide) (by decide) (by decide +kernel))
  exact ⟨apart.1.mpr (by decide),
    (same.2.1 [⟨⟨"a.B"⟩, [1]⟩] ⟨⟨"a/B"⟩, [2]⟩ [] rfl (by decide) (by decide)).2 (by decide)⟩

theorem build_of_not_nodup (packer : Zip.Packer)
    (twice : ¬ (files.map (·.className.classFilePath)).Nodup) :
    ∃ e, build files packer = .error e := by
  rw [build, buildWith]
  split
  next e packed => exact ⟨e, rfl⟩
  next draft packed =>
    obtain ⟨-, apart, -⟩ := Zip.made_archiver (made_pack .blank packed)
    exact absurd (by simpa [map_fst_entriesOf] using apart) twice

/-- What is read of a jar are the entries for the classes that were packed. -/
theorem read_build (built : build files packer = .ok jar) (low : jar.length < Zip.maxWord32) :
    ∃ entries, read jar = .ok entries ∧
      entries.map (fun e => (e.header.name, e.content)) = entriesOf files := by
  rw [build, buildWith] at built
  split at built
  next => cases built
  next draft packed =>
    have made := made_pack .blank packed
    rw [List.nil_append] at made
    obtain ⟨rfl, apart, small⟩ := Zip.made_archiver made
    have eq : Zip.write packer (entriesOf files).reverse.reverse = jar := Except.ok.inj built
    rw [List.reverse_reverse] at eq
    have fits : Zip.Manageable packer (entriesOf files) :=
      manageable_entriesOf (fun e mem => (small e mem).1) (fun e mem => (small e mem).2)
        (by rwa [eq])
    obtain ⟨archive, finished, holds⟩ := (Zip.sound_archiver packer).keeps made fits
    have same : Zip.write packer (entriesOf files).reverse.reverse = archive :=
      Except.ok.inj finished
    rw [List.reverse_reverse, eq] at same
    subst same
    exact readWith_of_holds (Zip.holds_archiver .storing holds)

end Jar

end ClassSwap
