import ClassSwap.Utf8
import ClassSwap.Zip.Crc32
import ClassSwap.Zip.Packer

namespace ClassSwap.Zip

inductive Fault where
  /-- No end record with a sound directory. -/
  | noDirectory
  /-- An entry is packed in an unknown way or encrypted. -/
  | unsupported
  | duplicateName
  /-- A name is longer than a header can tell. -/
  | longName
  deriving DecidableEq, Repr

/-- Why the bytes of an entry cannot be read or written. -/
inductive ContentFault where
  /-- They are broken or do not have the checksum. -/
  | damaged
  /-- They are more than a header can tell. -/
  | largeEntry
  deriving DecidableEq, Repr

structure Header where
  name : String
  method : Nat
  encrypted : Bool
  time : Nat
  date : Nat
  crc : Nat
  packedSize : Nat
  size : Nat
  offset : Nat
  deriving DecidableEq, Repr

namespace Header

def isDirectory (h : Header) : Bool :=
  match h.name.toList.getLast? with
  | some c => c == '/' || c == '\\'
  | none => false

end Header

structure Entry where
  header : Header
  content : Bytes
  deriving DecidableEq, Repr

def methodStored : Nat := 0

def methodDeflated : Nat := 8

/-- The first day that an entry can be dated, 1 January 1980. -/
def firstDate : Nat := 33

/-- The largest number in a field of two bytes, and of four. A number beyond it stands as the
largest one where a wider field has it. -/
def maxWord16 : Nat := 65535

def maxWord32 : Nat := 4294967295

/-- Marks in front of an entry, of a directory row and of the end record. -/
def entryMark : Bytes := [0x50, 0x4B, 3, 4]

def rowMark : Bytes := [0x50, 0x4B, 1, 2]

def endMark : Bytes := [0x50, 0x4B, 5, 6]

/-- Marks in front of the wide end record and of the record that tells where that one is. -/
def wideMark : Bytes := [0x50, 0x4B, 6, 6]

def locatorMark : Bytes := [0x50, 0x4B, 6, 7]

/-- The characters for the upper half of the bytes in names that are not marked as UTF-8. -/
def upperHalf : Array Char :=
  ("ÇüéâäàåçêëèïîìÄÅÉæÆôöòûùÿÖÜ¢£¥₧ƒáíóúñÑªº¿⌐¬½¼¡«»░▒▓│┤╡╢╖╕╣║╗╝╜╛┐└┴┬├─┼╞╟╚╔╩╦╠═╬╧╨╤╥╙╘╒╓╫╪┘┌█▄▌▐▀"
    ++ "αßΓπΣσµτΦΘΩδ∞φε∩≡±≥≤⌠⌡÷≈°∙·√ⁿ²■\u00a0").toList.toArray

def decodeName (isUtf8 : Bool) (bytes : Bytes) : String :=
  if isUtf8 then String.ofList (Utf8.lossy bytes)
  else
    String.ofList (bytes.map fun b =>
      if b < 0x80 then Char.ofNat b.toNat else upperHalf.getD (b.toNat - 128) '?')

/-- The number in `width` bytes at a place of a record. -/
def field (record : Bytes) (place width : Nat) : Nat :=
  Bytes.toNatLE ((record.drop place).take width)

/-- The places where a mark stands, last one first. -/
def placesOf (mark bytes : Bytes) : List Nat := go 0 [] bytes
where
  go (place : Nat) (found : List Nat) : Bytes → List Nat
    | [] => found
    | b :: rest =>
      go (place + 1) (if mark.isPrefixOf (b :: rest) then place :: found else found) rest

structure EndRecord where
  disk : Nat
  directoryDisk : Nat
  rowsHere : Nat
  rows : Nat
  directoryOffset : Nat

def readEnd? (record : Bytes) : Option EndRecord :=
  if record.length < 22 then none
  else if record.length < 22 + field record 20 2 then none
  else
    some ⟨field record 4 2, field record 6 2, field record 8 2, field record 10 2,
      field record 16 4⟩

/-- Where the bytes of an entry start, given where its own header starts. -/
def contentStart? (archive : Bytes) (start : Nat) : Option Nat :=
  let record := archive.drop start
  if record.length < 30 || !entryMark.isPrefixOf record then none
  else some (start + 30 + field record 26 2 + field record 28 2)

/-- One row of the directory and what follows it. `shift` is how far the archive lies behind the
places it speaks of. -/
def readRow (archive : Bytes) (shift directory : Nat) (record : Bytes) : Option (Header × Bytes) :=
  let nameSize := field record 28 2
  let size := 46 + nameSize + field record 30 2 + field record 32 2
  if record.length < 46 || !rowMark.isPrefixOf record || record.length < size then none
  else
    let flags := field record 8 2
    let start := field record 42 4 + shift
    match contentStart? archive start with
    | none => none
    | some content =>
      if directory ≤ start || directory < content then none
      else
        some (⟨decodeName (flags / 2048 % 2 = 1) ((record.drop 46).take nameSize),
          field record 10 2, flags % 2 = 1, field record 12 2, field record 14 2, field record 16 4,
          field record 20 4, field record 24 4, start⟩, record.drop size)

def readRows (archive : Bytes) (shift directory : Nat) :
    (count : Nat) → Bytes → Option (List Header)
  | 0, _ => some []
  | count + 1, record => do
    let (header, rest) ← readRow archive shift directory record
    return header :: (← readRows archive shift directory count rest)

/-- How far the archive lies behind the places it speaks of: the first directory row at or behind
the place that the end record gives tells. -/
def shift? (archive : Bytes) (place : Nat) (e : EndRecord) : Option Nat :=
  if e.rows = 0 then some (place - e.directoryOffset)
  else if place ≤ e.directoryOffset then none
  else
    let between := (archive.take place).drop e.directoryOffset
    (placesOf rowMark between).getLast?

/-- A wide end record at a place, if it is in order and reaches to `stop`. -/
def readWide? (archive : Bytes) (stop place : Nat) : Option EndRecord :=
  let record := archive.drop place
  if !wideMark.isPrefixOf record || stop < place + 56 || field record 4 8 + 12 ≠ stop - place then
    none
  else
    let rows := field record 32 8
    if rows < field record 24 8 || place < 46 * rows + field record 48 8 then none
    else some ⟨field record 16 4, field record 20 4, rows, rows, field record 48 8⟩

/-- Where the wide end record should be: the record before the one at a place tells. -/
def locate? (archive : Bytes) (place : Nat) : Option Nat :=
  let record := archive.drop (place - 20)
  if place < 20 || !locatorMark.isPrefixOf record || 1 < field record 16 4 then none
  else some (field record 8 8)

/-- The wide end record that goes with the end record at a place, and how far the archive lies
behind the places it speaks of. -/
def wideEnd? (archive : Bytes) (place : Nat) (e : EndRecord) : Option (EndRecord × Nat) :=
  if e.rows ≠ maxWord16 ∧ e.directoryOffset ≠ maxWord32 then none
  else do
    let announced ← locate? archive place
    let between := (archive.take (place - 20)).drop announced
    (placesOf wideMark between).reverse.findSome? fun shift =>
      (readWide? archive (place - 20) (announced + shift)).map (·, shift)

/-- What is told of the directory by the end record at a place, and how far the archive lies behind
the places it speaks of. -/
def ending? (archive : Bytes) (place : Nat) : Option (EndRecord × Nat) := do
  let e ← readEnd? (archive.drop place)
  match wideEnd? archive place e with
  | some ending => some ending
  | none => (shift? archive place e).map (e, ·)

/-- The directory that belongs to the end record at a place. -/
def directoryAt? (archive : Bytes) (place : Nat) : Option (List Header) := do
  let (e, shift) ← ending? archive place
  if e.disk ≠ e.directoryDisk then none
  else
    let directory := e.directoryOffset + shift
    readRows archive shift directory e.rowsHere (archive.drop directory)

/-- Of two rows with one name the later one counts, in the place of the earlier one. -/
def addRow (rows : List Header) (row : Header) : List Header :=
  if rows.any (·.name == row.name) then rows.map fun r => if r.name == row.name then row else r
  else rows ++ [row]

/-- The directory of an archive: that of the last end record that has a sound one. -/
def directory? (archive : Bytes) : Option (List Header) :=
  ((placesOf endMark archive).findSome? (directoryAt? archive)).map (·.foldl addRow [])

/-- The bytes that an entry was packed to, unless it was packed in a way that is not known here. -/
def packedBytes (archive : Bytes) (h : Header) : Except Fault Bytes :=
  if h.encrypted || (h.method ≠ methodStored && h.method ≠ methodDeflated) then .error .unsupported
  else
    match contentStart? archive h.offset with
    | none => .error .noDirectory
    | some start => .ok ((archive.drop start).take h.packedSize)

def unpack (h : Header) (packed : Bytes) : Except ContentFault Bytes :=
  match if h.method = methodStored then some packed else inflate? packed with
  | none => .error .damaged
  | some content => if (crc32 content).toNat = h.crc then .ok content else .error .damaged

/-- Names beyond ASCII are marked as UTF-8. -/
def nameFlags (name : String) : Nat := if name.toList.all fun c => c.toNat < 128 then 0 else 2048

/-- The fields that an entry's own header and its directory row have in common. -/
def sharedFields (name : String) (content packed : Bytes) : Bytes :=
  Bytes.ofNatLE 2 (nameFlags name) ++ Bytes.ofNatLE 2 methodDeflated ++ Bytes.ofNatLE 2 0
    ++ Bytes.ofNatLE 2 firstDate ++ Bytes.ofNatLE 4 (crc32 content).toNat
    ++ Bytes.ofNatLE 4 packed.length ++ Bytes.ofNatLE 4 content.length
    ++ Bytes.ofNatLE 2 (Utf8.ofString name).length

def version : Nat := 20

def writeEntry (packer : Packer) (name : String) (content : Bytes) : Bytes :=
  let packed := packer.pack content
  entryMark ++ Bytes.ofNatLE 2 version ++ sharedFields name content packed ++ Bytes.ofNatLE 2 0
    ++ Utf8.ofString name ++ packed

/-- The directory row of an entry whose own header is at `offset`. -/
def writeRow (packer : Packer) (name : String) (content : Bytes) (offset : Nat) : Bytes :=
  rowMark ++ Bytes.ofNatLE 2 version ++ Bytes.ofNatLE 2 version
    ++ sharedFields name content (packer.pack content) ++ Bytes.ofNatLE 2 0 ++ Bytes.ofNatLE 2 0
    ++ Bytes.ofNatLE 2 0 ++ Bytes.ofNatLE 2 0 ++ Bytes.ofNatLE 4 0 ++ Bytes.ofNatLE 4 offset
    ++ Utf8.ofString name

/-- The entries and the rows of their directory, for an archive that already has `offset` bytes. -/
def writeParts (packer : Packer) (offset : Nat) : List (String × Bytes) → Bytes × Bytes
  | [] => ([], [])
  | (name, content) :: rest =>
    let entry := writeEntry packer name content
    let (entries, rows) := writeParts packer (offset + entry.length) rest
    (entry ++ entries, writeRow packer name content offset ++ rows)

/-- The wide end record for a directory of `count` rows and `size` bytes behind `offset` bytes. -/
def writeWideEnd (count offset size : Nat) : Bytes :=
  wideMark ++ Bytes.ofNatLE 8 44 ++ Bytes.ofNatLE 2 version ++ Bytes.ofNatLE 2 version
    ++ Bytes.ofNatLE 4 0 ++ Bytes.ofNatLE 4 0 ++ Bytes.ofNatLE 8 count ++ Bytes.ofNatLE 8 count
    ++ Bytes.ofNatLE 8 size ++ Bytes.ofNatLE 8 offset

def writeLocator (place : Nat) : Bytes :=
  locatorMark ++ Bytes.ofNatLE 4 0 ++ Bytes.ofNatLE 8 place ++ Bytes.ofNatLE 4 1

/-- The end record; what it has no room for is cut. -/
def writeNarrowEnd (count offset size : Nat) : Bytes :=
  endMark ++ Bytes.ofNatLE 2 0 ++ Bytes.ofNatLE 2 0 ++ Bytes.ofNatLE 2 (min count maxWord16)
    ++ Bytes.ofNatLE 2 (min count maxWord16) ++ Bytes.ofNatLE 4 (min size maxWord32)
    ++ Bytes.ofNatLE 4 (min offset maxWord32) ++ Bytes.ofNatLE 2 0

def writeEnd (count offset size : Nat) : Bytes :=
  if maxWord16 < count || maxWord32 < max offset size then
    writeWideEnd count offset size ++ writeLocator (offset + size)
      ++ writeNarrowEnd count offset size
  else writeNarrowEnd count offset size

/-- An archive of entries with given names and bytes, all packed and dated alike. -/
def write (packer : Packer) (entries : List (String × Bytes)) : Bytes :=
  let (body, rows) := writeParts packer 0 entries
  body ++ rows ++ writeEnd entries.length body.length rows.length

end ClassSwap.Zip
