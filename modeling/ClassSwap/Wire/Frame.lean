import ClassSwap.Base64
import ClassSwap.FileTree
import ClassSwap.Wire.Message

namespace ClassSwap

/-- What can go wrong with a frame or with the body inside one. -/
inductive CodecError where
  | tooLarge (size : Nat)
  | json (problem : JsonText.Problem)
  | base64 (fault : Base64.Fault)
  | io (text : String)
  deriving DecidableEq, Repr

namespace Frame

/-- The largest payload: 64 MiB. -/
def maxPayload : Nat := 67108864

def headerSize : Nat := 4

def ofPayload (payload : Bytes) : Except CodecError Bytes :=
  if maxPayload < payload.length then .error (.tooLarge payload.length)
  else .ok (Bytes.ofWord32 payload.length ++ payload)

/-- The payload of a message: its compact JSON text. -/
def payloadOf (message : Json) : Bytes := Utf8.encode message.compact

def encode (message : Json) : Except CodecError Bytes := ofPayload (payloadOf message)

def decode {α : Type} (r : JsonText.Reader α) (payload : Bytes) : Except CodecError α :=
  match JsonText.decode r payload with
  | .ok a => .ok a
  | .error p => .error (.json p)

inductive Front where
  /-- A whole frame, and the bytes after it. -/
  | frame (payload rest : Bytes)
  | tooLarge (size : Nat)
  /-- The stream breaks off before a length is complete. -/
  | noHeader
  /-- The stream breaks off inside a payload. -/
  | cut
  deriving DecidableEq, Repr

def announced (stream : Bytes) : Nat := Bytes.toNat (stream.take headerSize)

def front (stream : Bytes) : Front :=
  if stream.length < headerSize then .noHeader
  else if maxPayload < announced stream then .tooLarge (announced stream)
  else if (stream.drop headerSize).length < announced stream then .cut
  else
    .frame ((stream.drop headerSize).take (announced stream))
      ((stream.drop headerSize).drop (announced stream))

/-- Reads one frame from a stream that has ended; `none` is a clean end. -/
def readOne (stream : Bytes) : Except CodecError (Option (Bytes × Bytes)) :=
  match front stream with
  | .frame payload rest => .ok (some (payload, rest))
  | .tooLarge size => .error (.tooLarge size)
  | .noHeader => .ok none
  | .cut => .error (.io OsError.unexpectedEnd.message)

theorem front_rest_lt {stream payload rest : Bytes} (h : front stream = .frame payload rest) :
    rest.length < stream.length := by
  unfold front at h
  split at h
  · cases h
  next long =>
    split at h
    · cases h
    · split at h
      · cases h
      · injection h with _ hrest
        subst hrest
        simp only [List.length_drop, headerSize] at *
        omega

/-- All payloads of a stream that has ended, and the error that stops the reading, if any. -/
def readAll (stream : Bytes) : List Bytes × Option CodecError :=
  match _h : front stream with
  | .frame payload rest =>
    let (payloads, stop) := readAll rest
    (payload :: payloads, stop)
  | .tooLarge size => ([], some (.tooLarge size))
  | .noHeader => ([], none)
  | .cut => ([], some (.io OsError.unexpectedEnd.message))
termination_by stream.length
decreasing_by exact front_rest_lt _h

end Frame

namespace CodecError

def problemText : JsonText.Problem → String
  | .fault .malformed => "malformed"
  | .fault .truncated => "truncated"
  | .mismatch m => m.message

def message : CodecError → String
  | tooLarge size => s!"frame too large ({size} bytes, max {Frame.maxPayload})"
  | json problem => "malformed frame: " ++ problemText problem
  | base64 fault => "invalid base64 body: " ++ fault.message
  | io text => text

end CodecError

/-- The bytes of a base64 body. -/
def decodeBody (body : String) : Except CodecError Bytes :=
  match Base64.decode body with
  | .ok bytes => .ok bytes
  | .error fault => .error (.base64 fault)

end ClassSwap
