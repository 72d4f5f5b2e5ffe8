import ClassSwap.Proofs.StoredBlocks
import ClassSwap.Proofs.TextBytes
import ClassSwap.Zip.Archiver
import Mathlib.Algebra.Group.Nat.Defs

namespace ClassSwap

/-- Bytes hold a number that has no more bytes than they. -/
theorem Bytes.toNatLE_ofNatLE {count n : Nat} (fits : n < 256 ^ count) :
    toNatLE (ofNatLE count n) = n := by
  induction count generalizing n with
  | zero =>
    rw [Nat.pow_zero] at fits
    rw [ofNatLE, toNatLE]
    omega
  | succ count ih =>
    have high : n / 256 < 256 ^ count := by
      rw [Nat.pow_succ] at fits
      omega
    have low : (UInt8.ofNat n).toNat = n % 256 := UInt8.toNat_ofNat'
    rw [ofNatLE, toNatLE, ih high, low]
    omega

namespace Zip

theorem field_append {front : Bytes} {place : Nat} (behind : front.length ≤ place) (rest : Bytes)
    (width : Nat) :
    field (front ++ rest) place width = field rest (place - front.length) width := by
  rw [field, field, List.drop_append, List.drop_of_length_le behind, List.nil_append]

theorem field_ofNatLE {width n : Nat} (fits : n < 256 ^ width) (rest : Bytes) :
    field (Bytes.ofNatLE width n ++ rest) 0 width = n := by
  rw [field, List.drop_zero, List.take_left' (Bytes.length_ofNatLE _ _),
    Bytes.toNatLE_ofNatLE fits]

@[simp] theorem length_entryMark : entryMark.length = 4 := by simp [entryMark]

@[simp] theorem length_rowMark : rowMark.length = 4 := by simp [rowMark]

theorem isPrefixOf_append (mark rest : Bytes) : mark.isPrefixOf (mark ++ rest) = true :=
  List.isPrefixOf_iff_prefix.mpr (List.prefix_append mark rest)

@[simp] theorem length_sharedFields (name : String) (content packed : Bytes) :
    (sharedFields name content packed).length = 22 := by
  simp [sharedFields]

/-- The fields of an entry that its header and its directory row have in common, as they stand in
the archive. -/
structure Fits (name : String) (content packed : Bytes) : Prop where
  name : (Utf8.ofString name).length ≤ maxWord16
  packed : packed.length < maxWord32
  content : content.length ≤ maxWord32

section Shared

variable {name : String} {content packed : Bytes} (rest : Bytes)

theorem shared_flags :
    field (sharedFields name content packed ++ rest) 0 2 = nameFlags name := by
  have small : nameFlags name < 256 ^ 2 := by
    unfold nameFlags
    split <;> decide
  simp only [sharedFields, List.append_assoc, field_ofNatLE small]

theorem shared_method :
    field (sharedFields name content packed ++ rest) 2 2 = methodDeflated := by
  have small : methodDeflated < 256 ^ 2 := by decide
  simp [sharedFields, field_append, field_ofNatLE small]

theorem shared_time :
    field (sharedFields name content packed ++ rest) 4 2 = 0 := by
  have small : 0 < 256 ^ 2 := by decide
  simp [sharedFields, field_append, field_ofNatLE small]

theorem shared_date :
    field (sharedFields name content packed ++ rest) 6 2 = firstDate := by
  have small : firstDate < 256 ^ 2 := by decide
  simp [sharedFields, field_append, field_ofNatLE small]

theorem shared_crc :
    field (sharedFields name content packed ++ rest) 8 4 = (crc32 content).toNat := by
  have small : (crc32 content).toNat < 256 ^ 4 := (crc32 content).toNat_lt
  simp [sharedFields, field_append, field_ofNatLE small]

variable (fits : Fits name content packed)
include fits

theorem shared_packedSize :
    field (sharedFields name content packed ++ rest) 12 4 = packed.length := by
  have small : packed.length < 256 ^ 4 := Nat.lt_succ_of_lt fits.packed
  simp [sharedFields, field_append, field_ofNatLE small]

theorem shared_size :
    field (sharedFields name content packed ++ rest) 16 4 = content.length := by
  have small : content.length < 256 ^ 4 := Nat.lt_succ_of_le fits.content
  simp [sharedFields, field_append, field_ofNatLE small]

theorem shared_nameSize :
    field (sharedFields name content packed ++ rest) 20 2 =
      (Utf8.ofString name).length := by
  have small : (Utf8.ofString name).length < 256 ^ 2 := Nat.lt_succ_of_le fits.name
  simp [sharedFields, field_append, field_ofNatLE small]

end Shared

theorem utf8EncodeChar_ascii {c : Char} (ascii : c.toNat < 128) :
    String.utf8EncodeChar c = [UInt8.ofNat c.toNat] := by
  unfold String.utf8EncodeChar
  exact if_pos (Nat.le_of_lt_succ ascii)

theorem decodeName_ascii {text : List Char} (ascii : ∀ c ∈ text, c.toNat < 128) :
    decodeName false (Utf8.encode text) = String.ofList text := by
  have chars : (Utf8.encode text).map (fun b =>
      if b < 0x80 then Char.ofNat b.toNat else upperHalf.getD (b.toNat - 128) '?') = text := by
    induction text with
    | nil => rfl
    | cons c text ih =>
      have first := ascii c List.mem_cons_self
      have others := ih fun d mem => ascii d (List.mem_cons_of_mem c mem)
      have value : (UInt8.ofNat c.toNat).toNat = c.toNat := byte_toNat_ofNat (by omega)
      have low : UInt8.ofNat c.toNat < 0x80 := by
        rw [UInt8.lt_iff_toNat_lt, value]
        exact first
      rw [Utf8.encode_cons, utf8EncodeChar_ascii first, List.singleton_append, List.map_cons,
        others, if_pos low, value, Char.ofNat_toNat]
  rw [decodeName, if_neg Bool.false_ne_true, chars]

theorem decodeName_ofString (name : String) :
    decodeName (nameFlags name / 2048 % 2 = 1) (Utf8.ofString name) = name := by
  unfold nameFlags
  split
  next ascii =>
    have chars : ∀ c ∈ name.toList, c.toNat < 128 := by simpa using ascii
    have decoded := decodeName_ascii chars
    rw [String.ofList_toList] at decoded
    exact decoded
  next =>
    show String.ofList (Utf8.lossy (Utf8.encode name.toList)) = name
    rw [Utf8.lossy_encode, String.ofList_toList]

variable {packer : Packer}

/-- What is read of an entry that is written at an offset. -/
def headerOf (packer : Packer) (name : String) (content : Bytes) (offset : Nat) : Header :=
  ⟨name, methodDeflated, false, 0, firstDate, (crc32 content).toNat, (packer.pack content).length,
    content.length, offset⟩

theorem length_writeEntry (packer : Packer) (name : String) (content : Bytes) :
    (writeEntry packer name content).length =
      30 + (Utf8.ofString name).length + (packer.pack content).length := by
  simp [writeEntry]
  omega

theorem length_writeRow (packer : Packer) (name : String) (content : Bytes) (offset : Nat) :
    (writeRow packer name content offset).length = 46 + (Utf8.ofString name).length := by
  simp [writeRow]
  omega

/-- The content of an entry stands behind its header and its name. -/
theorem contentStart?_writeEntry {archive rest : Bytes} {name : String} {content : Bytes}
    {offset : Nat} (fits : Fits name content (packer.pack content))
    (here : archive.drop offset = writeEntry packer name content ++ rest) :
    contentStart? archive offset = some (offset + 30 + (Utf8.ofString name).length) := by
  have long : ¬ (archive.drop offset).length < 30 := by
    rw [here, List.length_append, length_writeEntry]
    omega
  have marked : entryMark.isPrefixOf (archive.drop offset) = true := by
    rw [here]
    simp only [writeEntry, List.append_assoc, isPrefixOf_append]
  have nameSize : field (archive.drop offset) 26 2 = (Utf8.ofString name).length := by
    rw [here]
    simp [writeEntry, field_append, shared_nameSize _ fits]
  have extraSize : field (archive.drop offset) 28 2 = 0 := by
    have zero : 0 < 256 ^ 2 := by decide
    rw [here]
    simp [writeEntry, field_append, field_ofNatLE zero]
  rw [contentStart?]
  simp only [long, marked, nameSize, extraSize, decide_false, Bool.not_true, Bool.or_self,
    Bool.false_eq_true, if_false, Nat.add_zero]

theorem readRow_writeRow {archive more : Bytes} {name : String} {content : Bytes}
    {offset directory : Nat} (fits : Fits name content (packer.pack content))
    (low : offset < maxWord32)
    (here : archive.drop offset = writeEntry packer name content ++ more)
    (before : offset + (writeEntry packer name content).length ≤ directory) (rest : Bytes) :
    readRow archive 0 directory (writeRow packer name content offset ++ rest) =
      some (headerOf packer name content offset, rest) := by
  have zero : 0 < 256 ^ 2 := by decide
  have place : offset < 256 ^ 4 := Nat.lt_succ_of_lt low
  rw [length_writeEntry] at before
  generalize whole : writeRow packer name content offset ++ rest = record
  have length : record.length = 46 + (Utf8.ofString name).length + rest.length := by
    rw [← whole, List.length_append, length_writeRow]
  have marked : rowMark.isPrefixOf record = true := by
    rw [← whole]
    simp only [writeRow, List.append_assoc, isPrefixOf_append]
  have flags : field record 8 2 = nameFlags name := by
    rw [← whole]
    simp [writeRow, field_append, shared_flags]
  have method : field record 10 2 = methodDeflated := by
    rw [← whole]
    simp [writeRow, field_append, shared_method]
  have time : field record 12 2 = 0 := by
    rw [← whole]
    simp [writeRow, field_append, shared_time]
  have date : field record 14 2 = firstDate := by
    rw [← whole]
    simp [writeRow, field_append, shared_date]
  have crc : field record 16 4 = (crc32 content).toNat := by
    rw [← whole]
    simp [writeRow, field_append, shared_crc]
  have packedSize : field record 20 4 = (packer.pack content).length := by
    rw [← whole]
    simp [writeRow, field_append, shared_packedSize _ fits]
  have size : field record 24 4 = content.length := by
    rw [← whole]
    simp [writeRow, field_append, shared_size _ fits]
  have nameSize : field record 28 2 = (Utf8.ofString name).length := by
    rw [← whole]
    simp [writeRow, field_append, shared_nameSize _ fits]
  have extraSize : field record 30 2 = 0 := by
    rw [← whole]
    simp [writeRow, field_append, field_ofNatLE zero]
  have remarkSize : field record 32 2 = 0 := by
    rw [← whole]
    simp [writeRow, field_append, field_ofNatLE zero]
  have start : field record 42 4 = offset := by
    rw [← whole]
    simp [writeRow, field_append, field_ofNatLE place]
  have named : (record.drop 46).take (Utf8.ofString name).length = Utf8.ofString name := by
    rw [← whole]
    simp [writeRow, List.drop_append, List.drop_eq_nil_of_le]
  have behind : record.drop (46 + (Utf8.ofString name).length) = rest := by
    rw [← whole, List.drop_left' (length_writeRow packer name content offset)]
  have plain : (nameFlags name % 2 = 1) = False := by
    unfold nameFlags
    split <;> simp
  have long : ¬ record.length < 46 := by omega
  have full : ¬ record.length < 46 + (Utf8.ofString name).length := by omega
  unfold readRow
  rw [flags, method, time, date, crc, packedSize, size, nameSize, extraSize, remarkSize, start]
  simp only [marked, long, full, Nat.add_zero, decide_false, Bool.not_true, Bool.or_self,
    Bool.false_eq_true, if_false, contentStart?_writeEntry fits here, named, behind, plain,
    decodeName_ofString]
  rw [if_neg (by simp; omega)]
  rfl

theorem packedBytes_writeEntry {archive more : Bytes} {name : String} {content : Bytes}
    {offset : Nat} (fits : Fits name content (packer.pack content))
    (here : archive.drop offset = writeEntry packer name content ++ more) :
    packedBytes archive (headerOf packer name content offset) = .ok (packer.pack content) := by
  have front : (entryMark ++ Bytes.ofNatLE 2 version
      ++ sharedFields name content (packer.pack content) ++ Bytes.ofNatLE 2 0
      ++ Utf8.ofString name).length = 30 + (Utf8.ofString name).length := by
    simp
    omega
  have packed : archive.drop (offset + 30 + (Utf8.ofString name).length) =
      packer.pack content ++ more := by
    rw [Nat.add_assoc, ← List.drop_drop, here, writeEntry, List.append_assoc,
      List.drop_left' front]
  rw [packedBytes, if_neg (by simp [headerOf, methodDeflated, methodStored])]
  simp only [headerOf, contentStart?_writeEntry fits here, packed, List.take_left]

theorem unpack_pack (packer : Packer) (name : String) (content : Bytes) (offset : Nat) :
    unpack (headerOf packer name content offset) (packer.pack content) = .ok content := by
  simp only [unpack, headerOf, packer.inflate_pack, methodDeflated, methodStored, if_true,
    show ¬ 8 = 0 by decide, if_false]

/-- What is read of entries of which the first one is written at an offset. -/
def headersFrom (packer : Packer) (offset : Nat) : List (String × Bytes) → List Header
  | [] => []
  | (name, content) :: rest =>
    headerOf packer name content offset ::
      headersFrom packer (offset + (writeEntry packer name content).length) rest

theorem headersFrom_names (packer : Packer) (entries : List (String × Bytes)) (offset : Nat) :
    (headersFrom packer offset entries).map (·.name) = entries.map (·.1) := by
  induction entries generalizing offset with
  | nil => rfl
  | cons e entries ih =>
    rw [headersFrom, List.map_cons, List.map_cons, ih]
    rfl

theorem writeParts_cons (packer : Packer) (offset : Nat) (name : String) (content : Bytes)
    (entries : List (String × Bytes)) :
    writeParts packer offset ((name, content) :: entries) =
      (writeEntry packer name content ++
        (writeParts packer (offset + (writeEntry packer name content).length) entries).1,
      writeRow packer name content offset ++
        (writeParts packer (offset + (writeEntry packer name content).length) entries).2) :=
  rfl

theorem drop_writeEntry {archive more : Bytes} {offset : Nat} {entry : Bytes}
    (here : archive.drop offset = entry ++ more) : archive.drop (offset + entry.length) = more := by
  rw [← List.drop_drop, here, List.drop_left]

theorem readRows_writeParts {archive : Bytes} {directory : Nat} (low : directory ≤ maxWord32)
    (rest : Bytes) (entries : List (String × Bytes))
    (fits : ∀ e ∈ entries, Fits e.1 e.2 (packer.pack e.2))
    {offset : Nat} {more : Bytes}
    (here : archive.drop offset = (writeParts packer offset entries).1 ++ more)
    (before : offset + (writeParts packer offset entries).1.length ≤ directory) :
    readRows archive 0 directory entries.length ((writeParts packer offset entries).2 ++ rest) =
      some (headersFrom packer offset entries) := by
  induction entries generalizing offset with
  | nil => rfl
  | cons e entries ih =>
    obtain ⟨name, content⟩ := e
    have first := fits _ List.mem_cons_self
    rw [writeParts_cons, List.append_assoc] at here
    rw [writeParts_cons, List.length_append] at before
    have size := length_writeEntry packer name content
    have inside : offset + (writeEntry packer name content).length ≤ directory := by omega
    have row := readRow_writeRow first (by omega) here inside
      ((writeParts packer (offset + (writeEntry packer name content).length) entries).2 ++ rest)
    have others := ih (fun e mem => fits e (List.mem_cons_of_mem _ mem)) (drop_writeEntry here)
      (by omega)
    rw [writeParts_cons, List.length_cons, readRows, List.append_assoc, row]
    show (do
      return headerOf packer name content offset ::
        (← readRows archive 0 directory entries.length _)) = _
    rw [others]
    rfl

/-- A row tells of an entry that is there. -/
structure Archiver.Shows (a : Archiver) (archive : Bytes) (h : Header) (entry : String × Bytes) :
    Prop where
  name : h.name = entry.1
  content : ∃ packed, a.select archive h = .ok packed ∧ a.unpack h packed = .ok entry.2

/-- The rows of entries that stand in an archive show them, in order. -/
theorem shows_headersFrom {archive : Bytes} (entries : List (String × Bytes))
    (fits : ∀ e ∈ entries, Fits e.1 e.2 (packer.pack e.2)) {offset : Nat} {more : Bytes}
    (here : archive.drop offset = (writeParts packer offset entries).1 ++ more) :
    List.Forall₂ ((archiver packer).Shows archive) (headersFrom packer offset entries) entries := by
  induction entries generalizing offset with
  | nil => exact .nil
  | cons e entries ih =>
    obtain ⟨name, content⟩ := e
    rw [writeParts_cons, List.append_assoc] at here
    have packed := packedBytes_writeEntry (fits _ List.mem_cons_self) here
    have others := ih (fun e mem => fits e (List.mem_cons_of_mem _ mem)) (drop_writeEntry here)
    rw [headersFrom]
    exact .cons ⟨rfl, _, packed, unpack_pack packer name content offset⟩ others

theorem foldl_addRow (rows done : List Header) (distinct : ((done ++ rows).map (·.name)).Nodup) :
    rows.foldl addRow done = done ++ rows := by
  induction rows generalizing done with
  | nil => rw [List.foldl_nil, List.append_nil]
  | cons row rows ih =>
    have apart : done.any (·.name == row.name) = false := by
      rw [List.any_eq_false]
      intro other mem same
      rw [List.map_append, List.map_cons] at distinct
      have disjoint := (List.nodup_append.mp distinct).2.2
      exact disjoint _ (List.mem_map_of_mem mem) _ List.mem_cons_self (eq_of_beq same)
    rw [List.append_cons] at distinct
    rw [List.foldl_cons, addRow, if_neg (by rw [apart]; exact Bool.false_ne_true), ih _ distinct,
      ← List.append_cons]

end Zip

end ClassSwap
