import ClassSwap.Proofs.ArchiveRows

namespace ClassSwap

namespace Zip

theorem placesOf_go_found (mark bytes : Bytes) (place : Nat) (found : List Nat) :
    placesOf.go mark place found bytes = placesOf.go mark place [] bytes ++ found := by
  induction bytes generalizing place found with
  | nil => rfl
  | cons b rest ih =>
    rw [placesOf.go, placesOf.go, ih,
      ih (place + 1) (if mark.isPrefixOf (b :: rest) then [place] else [])]
    split <;> simp

theorem le_of_mem_go {mark bytes : Bytes} {place q : Nat}
    (mem : q ∈ placesOf.go mark place [] bytes) : place ≤ q := by
  induction bytes generalizing place with
  | nil => cases mem
  | cons b rest ih =>
    rw [placesOf.go, placesOf_go_found] at mem
    rcases List.mem_append.mp mem with later | here
    · have := ih later
      omega
    · split at here
      next => exact Nat.le_of_eq (List.mem_singleton.mp here).symm
      next => cases here

theorem placesOf_go_front (mark front rest : Bytes) (place : Nat) (found : List Nat) :
    ∃ earlier, placesOf.go mark place found (front ++ rest) =
      placesOf.go mark (place + front.length) earlier rest := by
  induction front generalizing place found with
  | nil => exact ⟨found, rfl⟩
  | cons b front ih =>
    obtain ⟨earlier, eq⟩ := ih (place + 1)
      (if mark.isPrefixOf (b :: (front ++ rest)) then place :: found else found)
    refine ⟨earlier, ?_⟩
    rw [List.cons_append, placesOf.go, eq, List.length_cons, Nat.add_assoc, Nat.add_comm 1]

theorem placesOf_go_marked {mark : Bytes} (nonempty : mark ≠ []) (rest : Bytes) (place : Nat)
    (found : List Nat) :
    ∃ later, placesOf.go mark place found (mark ++ rest) = later ++ place :: found ∧
      ∀ q ∈ later, place < q := by
  have marked := isPrefixOf_append mark rest
  cases whole : mark ++ rest with
  | nil => exact absurd (List.append_eq_nil_iff.mp whole).1 nonempty
  | cons b tail =>
    rw [whole] at marked
    rw [placesOf.go, if_pos marked, placesOf_go_found]
    exact ⟨_, rfl, fun q mem => le_of_mem_go mem⟩

/-- A mark that stands behind some bytes is found there, after those that stand further behind. -/
theorem placesOf_behind {mark : Bytes} (nonempty : mark ≠ []) (front rest : Bytes) :
    ∃ later earlier, placesOf mark (front ++ (mark ++ rest)) = later ++ front.length :: earlier ∧
      ∀ q ∈ later, front.length < q := by
  obtain ⟨earlier, eq⟩ := placesOf_go_front mark front (mark ++ rest) 0 []
  obtain ⟨later, marked, behind⟩ :=
    placesOf_go_marked nonempty rest (0 + front.length) earlier
  rw [Nat.zero_add] at eq marked behind
  exact ⟨later, earlier, eq.trans marked, behind⟩

theorem placesOf_front {mark : Bytes} (nonempty : mark ≠ []) (rest : Bytes) :
    ∃ later, placesOf mark (mark ++ rest) = later ++ [0] := by
  obtain ⟨later, marked, _⟩ := placesOf_go_marked nonempty rest 0 []
  exact ⟨later, marked⟩

@[simp] theorem length_endMark : endMark.length = 4 := by simp [endMark]

@[simp] theorem length_wideMark : wideMark.length = 4 := by simp [wideMark]

@[simp] theorem length_locatorMark : locatorMark.length = 4 := by simp [locatorMark]

@[simp] theorem length_writeNarrowEnd (count offset size : Nat) :
    (writeNarrowEnd count offset size).length = 22 := by
  simp [writeNarrowEnd]

@[simp] theorem length_writeWideEnd (count offset size : Nat) :
    (writeWideEnd count offset size).length = 56 := by
  simp [writeWideEnd]

@[simp] theorem length_writeLocator (place : Nat) : (writeLocator place).length = 20 := by
  simp [writeLocator]

theorem readEnd?_narrow (count offset size : Nat) :
    readEnd? (writeNarrowEnd count offset size) =
      some ⟨0, 0, min count maxWord16, min count maxWord16, min offset maxWord32⟩ := by
  have zero : 0 < 256 ^ 2 := by decide
  have rows : min count maxWord16 < 256 ^ 2 := by
    unfold maxWord16
    omega
  have place : min offset maxWord32 < 256 ^ 4 := by
    unfold maxWord32
    omega
  have remarkSize : field (writeNarrowEnd count offset size) 20 2 = 0 := by
    have read := field_ofNatLE zero []
    rw [List.append_nil] at read
    simp [writeNarrowEnd, field_append, read]
  rw [readEnd?, remarkSize, length_writeNarrowEnd, if_neg (by decide), if_neg (by decide)]
  simp [writeNarrowEnd, field_append, field_ofNatLE zero, field_ofNatLE rows, field_ofNatLE place]

theorem directoryAt?_short {archive : Bytes} {place : Nat}
    (short : (archive.drop place).length < 22) :
    directoryAt? archive place = none := by
  have nothing : readEnd? (archive.drop place) = none := by
    rw [readEnd?, if_pos short]
  simp [directoryAt?, ending?, nothing]

/-- The rows of a directory, as far as the reader looks for their places. -/
structure Directory (count : Nat) (rows : Bytes) : Prop where
  size : 46 * count ≤ rows.length
  none : count = 0 → rows = []
  marked : count ≠ 0 → ∃ more, rows = rowMark ++ more
  /-- The last four bytes are not those of a record that tells where a wide end record is. -/
  tail : count ≠ 0 → ∃ front last, rows = front ++ last ∧ last.length = 4 ∧ 1 < Bytes.toNatLE last

theorem locate?_tail {last : Bytes} (four : last.length = 4) (large : 1 < Bytes.toNatLE last)
    (front rest : Bytes) : locate? (front ++ (last ++ rest)) (front.length + 4) = none := by
  unfold locate?
  by_cases low : front.length + 4 < 20
  · simp [low]
  · have place : front.length + 4 - 20 + 16 = front.length := by omega
    have disks : field ((front ++ (last ++ rest)).drop (front.length + 4 - 20)) 16 4 =
        Bytes.toNatLE last := by
      rw [field, List.drop_drop, place, List.drop_left, List.take_left' four]
    simp only [disks, large, decide_true, Bool.or_true, if_true]

/-- The directory is found through the end record alone if that one has room for everything. -/
theorem ending?_narrow {body rows : Bytes} {count : Nat} (directory : Directory count rows)
    (few : count ≤ maxWord16) (low : body.length < maxWord32) :
    ending? (body ++ rows ++ writeNarrowEnd count body.length rows.length)
        (body.length + rows.length) =
      some (⟨0, 0, count, count, body.length⟩, 0) := by
  have record : (body ++ rows ++ writeNarrowEnd count body.length rows.length).drop
      (body.length + rows.length) = writeNarrowEnd count body.length rows.length :=
    List.drop_left' List.length_append
  have read := readEnd?_narrow count body.length rows.length
  rw [Nat.min_eq_left few, Nat.min_eq_left (Nat.le_of_lt low)] at read
  have alone : wideEnd? (body ++ rows ++ writeNarrowEnd count body.length rows.length)
      (body.length + rows.length) ⟨0, 0, count, count, body.length⟩ = none := by
    unfold wideEnd?
    split
    next => rfl
    next full =>
      have many : count ≠ 0 := by
        rintro rfl
        exact full ⟨nofun, Nat.ne_of_lt low⟩
      obtain ⟨front, last, rfl, four, large⟩ := directory.tail many
      have locate := locate?_tail four large (body ++ front)
        (writeNarrowEnd count body.length (front ++ last).length)
      have place : body.length + (front ++ last).length = (body ++ front).length + 4 := by
        simp [four, Nat.add_assoc]
      rw [place, ← List.append_assoc, List.append_assoc (body ++ front), locate]
      rfl
  have shift : shift? (body ++ rows ++ writeNarrowEnd count body.length rows.length)
      (body.length + rows.length) ⟨0, 0, count, count, body.length⟩ = some 0 := by
    unfold shift?
    split
    next zero =>
      rw [directory.none zero, List.length_nil, Nat.add_zero, Nat.sub_self]
    next many =>
      obtain ⟨more, eq⟩ := directory.marked many
      obtain ⟨later, places⟩ := placesOf_front (show rowMark ≠ [] by decide) more
      have between : ((body ++ rows ++ writeNarrowEnd count body.length rows.length).take
          (body.length + rows.length)).drop body.length = rows := by
        rw [List.take_left' List.length_append, List.drop_left]
      have size : 0 < rows.length := by
        rw [eq, List.length_append, length_rowMark]
        omega
      rw [if_neg (by show ¬ _ ≤ body.length; omega)]
      show (placesOf rowMark (((body ++ rows ++ writeNarrowEnd count body.length rows.length).take
          (body.length + rows.length)).drop body.length)).getLast? = some 0
      rw [between, eq, places]
      simp
  rw [ending?, record, read]
  simp only [Option.bind_eq_bind, Option.bind_some, alone, shift, Option.map_some]

theorem locate?_writeLocator {archive more : Bytes} {place announced : Nat}
    (here : archive.drop place = writeLocator announced ++ more) (fits : announced < 256 ^ 8) :
    locate? archive (place + 20) = some announced := by
  have one : 1 < 256 ^ 4 := by decide
  have low : ¬ place + 20 < 20 := by omega
  have marked : locatorMark.isPrefixOf (writeLocator announced ++ more) = true := by
    simp only [writeLocator, List.append_assoc, isPrefixOf_append]
  have disks : field (writeLocator announced ++ more) 16 4 = 1 := by
    simp [writeLocator, field_append, field_ofNatLE one]
  have told : field (writeLocator announced ++ more) 8 8 = announced := by
    simp [writeLocator, field_append, field_ofNatLE fits]
  unfold locate?
  rw [Nat.add_sub_cancel, here]
  simp only [low, marked, disks, told, Nat.lt_irrefl, decide_false, Bool.not_true, Bool.or_self,
    Bool.false_eq_true, if_false]

theorem readWide?_writeWideEnd {archive more : Bytes} {place count offset size : Nat}
    (here : archive.drop place = writeWideEnd count offset size ++ more)
    (room : 46 * count + offset ≤ place) (low : place < maxWord32) :
    readWide? archive (place + 56) place = some ⟨0, 0, count, count, offset⟩ := by
  unfold maxWord32 at low
  have zero : 0 < 256 ^ 4 := by decide
  have long : 44 < 256 ^ 8 := by decide
  have counted : count < 256 ^ 8 := by omega
  have behind : offset < 256 ^ 8 := by omega
  have marked : wideMark.isPrefixOf (writeWideEnd count offset size ++ more) = true := by
    simp only [writeWideEnd, List.append_assoc, isPrefixOf_append]
  have length : field (writeWideEnd count offset size ++ more) 4 8 = 44 := by
    simp [writeWideEnd, field_append, field_ofNatLE long]
  have disk : field (writeWideEnd count offset size ++ more) 16 4 = 0 := by
    simp [writeWideEnd, field_append, field_ofNatLE zero]
  have directoryDisk : field (writeWideEnd count offset size ++ more) 20 4 = 0 := by
    simp [writeWideEnd, field_append, field_ofNatLE zero]
  have rowsHere : field (writeWideEnd count offset size ++ more) 24 8 = count := by
    simp [writeWideEnd, field_append, field_ofNatLE counted]
  have rows : field (writeWideEnd count offset size ++ more) 32 8 = count := by
    simp [writeWideEnd, field_append, field_ofNatLE counted]
  have start : field (writeWideEnd count offset size ++ more) 48 8 = offset := by
    simp [writeWideEnd, field_append, field_ofNatLE behind]
  have reaches : place + 56 - place = 44 + 12 := by omega
  have short : ¬ place < 46 * count + offset := by omega
  unfold readWide?
  rw [here]
  simp only [marked, length, disk, directoryDisk, rowsHere, rows, start, reaches, short,
    Nat.lt_irrefl, decide_false, Bool.not_true, Bool.or_self, Bool.false_eq_true, if_false, ne_eq,
    not_true]

/-- The directory is found through the wide end record if the other one lacks the room. -/
theorem ending?_wide {body rows : Bytes} {count : Nat} (directory : Directory count rows)
    (many : maxWord16 < count) (low : body.length + rows.length < maxWord32) :
    ending? (body ++ rows ++ (writeWideEnd count body.length rows.length ++
        writeLocator (body.length + rows.length) ++ writeNarrowEnd count body.length rows.length))
      (body.length + rows.length + 56 + 20) =
      some (⟨0, 0, count, count, body.length⟩, 0) := by
  have size := directory.size
  generalize narrow : writeNarrowEnd count body.length rows.length = last
  generalize front : body ++ rows = parts
  have upTo : parts.length = body.length + rows.length := by rw [← front, List.length_append]
  rw [← upTo]
  generalize whole : parts ++ (writeWideEnd count body.length rows.length ++
    writeLocator parts.length ++ last) = archive
  have wide : archive.drop parts.length = writeWideEnd count body.length rows.length ++
      (writeLocator parts.length ++ last) := by
    rw [← whole, List.drop_left, List.append_assoc]
  have locator : archive.drop (parts.length + 56) = writeLocator parts.length ++ last := by
    rw [← List.drop_drop, wide, List.drop_left' (length_writeWideEnd _ _ _)]
  have record : archive.drop (parts.length + 56 + 20) = last := by
    rw [← List.drop_drop, locator, List.drop_left' (length_writeLocator _)]
  have between : (archive.take (parts.length + 56)).drop parts.length =
      writeWideEnd count body.length rows.length := by
    rw [List.drop_take, Nat.add_sub_cancel_left, wide, List.take_left' (length_writeWideEnd _ _ _)]
  have read := readEnd?_narrow count body.length rows.length
  rw [narrow] at read
  have locate : locate? archive (parts.length + 56 + 20) = some parts.length := by
    refine locate?_writeLocator locator ?_
    unfold maxWord32 at low
    omega
  have found : readWide? archive (parts.length + 56) parts.length =
      some ⟨0, 0, count, count, body.length⟩ :=
    readWide?_writeWideEnd wide (by omega) (by omega)
  obtain ⟨later, places⟩ : ∃ later, placesOf wideMark
      (writeWideEnd count body.length rows.length) = later ++ [0] := by
    simp only [writeWideEnd, List.append_assoc]
    exact placesOf_front (by decide) _
  have wideEnd : wideEnd? archive (parts.length + 56 + 20)
      ⟨0, 0, min count maxWord16, min count maxWord16, min body.length maxWord32⟩ =
        some (⟨0, 0, count, count, body.length⟩, 0) := by
    have full : min count maxWord16 = maxWord16 := Nat.min_eq_right (Nat.le_of_lt many)
    rw [wideEnd?, if_neg (by simp [full]), locate]
    simp only [Option.bind_eq_bind, Option.bind_some, Nat.add_sub_cancel, between, places,
      List.reverse_append, List.reverse_singleton, List.singleton_append, List.findSome?_cons,
      Nat.add_zero, found, Option.map_some]
  rw [ending?, record, read]
  simp only [Option.bind_eq_bind, Option.bind_some, wideEnd]

variable (packer : Packer)

/-- A name whose end is not taken for anything else. -/
def Plain (name : String) : Prop :=
  ∃ front last, Utf8.ofString name = front ++ last ∧ last.length = 4 ∧ 1 < Bytes.toNatLE last

theorem directory_writeParts (entries : List (String × Bytes)) (plain : ∀ e ∈ entries, Plain e.1)
    (offset : Nat) : Directory entries.length (writeParts packer offset entries).2 := by
  induction entries generalizing offset with
  | nil => exact ⟨Nat.le_refl _, fun _ => rfl, fun h => absurd rfl h, fun h => absurd rfl h⟩
  | cons e entries ih =>
    obtain ⟨name, content⟩ := e
    have others := ih (fun e mem => plain e (List.mem_cons_of_mem _ mem))
      (offset + (writeEntry packer name content).length)
    rw [writeParts_cons]
    refine ⟨?_, nofun, fun _ => ?_, fun _ => ?_⟩
    · have size := others.size
      rw [List.length_append, length_writeRow, List.length_cons]
      omega
    · simp only [writeRow, List.append_assoc]
      exact ⟨_, rfl⟩
    · by_cases last : entries.length = 0
      · obtain ⟨front, tail, spelled, four, large⟩ := plain _ List.mem_cons_self
        rw [others.none last, List.append_nil, writeRow, spelled, ← List.append_assoc]
        exact ⟨_, tail, rfl, four, large⟩
      · obtain ⟨front, tail, eq, four, large⟩ := others.tail last
        rw [eq, ← List.append_assoc]
        exact ⟨_, tail, rfl, four, large⟩

theorem writeEntry_le (entries : List (String × Bytes)) (offset : Nat) :
    ∀ e ∈ entries,
      (writeEntry packer e.1 e.2).length ≤ (writeParts packer offset entries).1.length := by
  induction entries generalizing offset with
  | nil => exact fun e mem => absurd mem List.not_mem_nil
  | cons first entries ih =>
    obtain ⟨name, content⟩ := first
    intro e mem
    rw [writeParts_cons, List.length_append]
    rcases List.mem_cons.mp mem with rfl | mem
    · exact Nat.le_add_right _ _
    · have := ih (offset + (writeEntry packer name content).length) e mem
      omega

variable {packer} {entries : List (String × Bytes)}

/-- Everything of an archive fits into its fields if the archive as a whole is not too large. -/
theorem fits_of_write
    (short : ∀ e ∈ entries, (Utf8.ofString e.1).length ≤ maxWord16)
    (small : ∀ e ∈ entries, e.2.length ≤ maxWord32)
    (low : (write packer entries).length < maxWord32) :
    ∀ e ∈ entries, Fits e.1 e.2 (packer.pack e.2) := by
  intro e mem
  have entry := writeEntry_le packer entries 0 e mem
  simp only [write, List.length_append] at low
  rw [length_writeEntry] at entry
  exact ⟨short e mem, by omega, small e mem⟩

/-- The reader finds the end record of an archive that has been written. -/
theorem ending?_write (plain : ∀ e ∈ entries, Plain e.1)
    (low : (write packer entries).length < maxWord32) :
    ∃ front, write packer entries = front ++ writeNarrowEnd entries.length
          (writeParts packer 0 entries).1.length (writeParts packer 0 entries).2.length ∧
      ending? (write packer entries) front.length =
        some (⟨0, 0, entries.length, entries.length, (writeParts packer 0 entries).1.length⟩,
          0) := by
  have directory := directory_writeParts packer entries plain 0
  have whole : write packer entries = (writeParts packer 0 entries).1 ++
      (writeParts packer 0 entries).2 ++ writeEnd entries.length
        (writeParts packer 0 entries).1.length (writeParts packer 0 entries).2.length :=
    rfl
  generalize (writeParts packer 0 entries).1 = body at *
  generalize (writeParts packer 0 entries).2 = rows at *
  rw [whole, List.length_append, List.length_append] at low
  rw [whole]
  unfold writeEnd
  by_cases many : maxWord16 < entries.length
  · refine ⟨body ++ rows ++ writeWideEnd entries.length body.length rows.length ++
      writeLocator (body.length + rows.length), ?_, ?_⟩
    · simp [many]
    · have behind : body.length + rows.length < maxWord32 := by omega
      have read := ending?_wide directory many behind
      simp only [many, decide_true, Bool.true_or, if_true, List.length_append,
        length_writeWideEnd, length_writeLocator]
      exact read
  · refine ⟨body ++ rows, ?_, ?_⟩
    · rw [if_neg]
      simp [many]
      omega
    · have behind : body.length < maxWord32 := by omega
      have read := ending?_narrow directory (Nat.not_lt.mp many) behind
      rw [if_neg, List.length_append]
      · exact read
      · simp [many]
        omega

/-- What is found in an archive: these entries, in order. -/
def Archiver.Holds (a : Archiver) (archive : Bytes) (entries : List (String × Bytes)) : Prop :=
  ∃ rows, a.rows archive = .ok rows ∧ List.Forall₂ (a.Shows archive) rows entries

/-- The entries that an archive was written with are found in it. -/
theorem holds_write (names : (entries.map (·.1)).Nodup)
    (plain : ∀ e ∈ entries, Plain e.1)
    (short : ∀ e ∈ entries, (Utf8.ofString e.1).length ≤ maxWord16)
    (small : ∀ e ∈ entries, e.2.length ≤ maxWord32)
    (low : (write packer entries).length < maxWord32) :
    (archiver packer).Holds (write packer entries) entries := by
  have fits := fits_of_write short small low
  have whole : write packer entries = (writeParts packer 0 entries).1 ++
      ((writeParts packer 0 entries).2 ++ writeEnd entries.length
        (writeParts packer 0 entries).1.length (writeParts packer 0 entries).2.length) := by
    rw [← List.append_assoc]
    rfl
  obtain ⟨front, last, ending⟩ := ending?_write plain low
  generalize writeEnd entries.length _ _ = tail at whole
  have here : (write packer entries).drop 0 =
      (writeParts packer 0 entries).1 ++ ((writeParts packer 0 entries).2 ++ tail) := whole
  have rows : directoryAt? (write packer entries) front.length =
      some (headersFrom packer 0 entries) := by
    have behind : (write packer entries).drop (writeParts packer 0 entries).1.length =
        (writeParts packer 0 entries).2 ++ tail := by
      rw [whole, List.drop_left]
    have small : (writeParts packer 0 entries).1.length ≤ maxWord32 := by
      rw [whole, List.length_append] at low
      omega
    rw [directoryAt?, ending]
    show readRows (write packer entries) 0 (writeParts packer 0 entries).1.length entries.length
      ((write packer entries).drop (writeParts packer 0 entries).1.length) = _
    rw [behind]
    exact readRows_writeParts small _ entries fits here (by omega)
  have listed : directory? (write packer entries) = some (headersFrom packer 0 entries) := by
    obtain ⟨later, earlier, places, after⟩ : ∃ later earlier,
        placesOf endMark (write packer entries) = later ++ front.length :: earlier ∧
          ∀ q ∈ later, front.length < q := by
      rw [last]
      simp only [writeNarrowEnd, List.append_assoc]
      exact placesOf_behind (by decide) front _
    have nothing : later.findSome? (directoryAt? (write packer entries)) = none := by
      rw [List.findSome?_eq_none_iff]
      intro q mem
      refine directoryAt?_short ?_
      have := after q mem
      rw [last, List.length_drop, List.length_append, length_writeNarrowEnd]
      omega
    have kept := foldl_addRow (headersFrom packer 0 entries) [] (by
      rw [List.nil_append, headersFrom_names]
      exact names)
    rw [directory?, places, List.findSome?_append, nothing, Option.none_or, List.findSome?_cons,
      rows, Option.map_some, kept, List.nil_append]
  have rows : listRows (write packer entries) = .ok (headersFrom packer 0 entries) := by
    rw [listRows, listed]
  exact ⟨_, rows, shows_headersFrom entries fits here⟩

end Zip

end ClassSwap
