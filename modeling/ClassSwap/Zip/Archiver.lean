import ClassSwap.Zip.Archive

namespace ClassSwap.Zip

structure Archiver where
  /-- An archive that is being made. -/
  Draft : Type
  /-- One in which an entry has been started. -/
  Opened : Type
  blank : Draft
  start : Draft → String → Except Fault Opened
  fill : Opened → Bytes → Except ContentFault Draft
  finish : Draft → Except Fault Bytes
  /-- The rows of the directory of an archive. -/
  rows : Bytes → Except Fault (List Header)
  /-- The packed bytes of an entry that can be unpacked. -/
  select : Bytes → Header → Except Fault Bytes
  unpack : Header → Bytes → Except ContentFault Bytes

/-- The entries of an archive that is being made, in reverse. -/
abbrev Pending := List (String × Bytes)

def startEntry (pending : Pending) (name : String) : Except Fault (String × Pending) :=
  if pending.any (·.1 == name) then .error .duplicateName
  else if maxWord16 < (Utf8.ofString name).length then .error .longName
  else .ok (name, pending)

def fillEntry (opened : String × Pending) (bytes : Bytes) : Except ContentFault Pending :=
  if maxWord32 < bytes.length then .error .largeEntry else .ok ((opened.1, bytes) :: opened.2)

def listRows (archive : Bytes) : Except Fault (List Header) :=
  match directory? archive with
  | some rows => .ok rows
  | none => .error .noDirectory

def archiver (packer : Packer) : Archiver where
  Draft := Pending
  Opened := String × Pending
  blank := []
  start := startEntry
  fill := fillEntry
  finish pending := .ok (write packer pending.reverse)
  rows := listRows
  select := packedBytes
  unpack := unpack

end ClassSwap.Zip
