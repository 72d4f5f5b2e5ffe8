import ClassSwap.ClassName
import ClassSwap.Table
import ClassSwap.Wire.Message

namespace ClassSwap

structure TargetStatus where
  endpoint : Option Endpoint
  loaded : List ClassEntry := []
  lastFetched : Option ClassFile := none
  cache : Table ClassName Bytes := []
  detached : Bool := false
  /-- How many positive replies have been applied. -/
  generation : Nat := 0
  deriving DecidableEq, Repr

/-- What is known of one target, if anything. -/
abbrev Standing := Option TargetStatus

/-- What is known of a target at one moment, all but the cache. -/
structure Snapshot where
  endpoint : Option Endpoint
  loaded : List ClassEntry
  lastFetched : Option ClassFile
  detached : Bool
  generation : Nat
  deriving DecidableEq, Repr

namespace Standing

def endpoint? (s : Standing) : Option Endpoint := s.bind (·.endpoint)

def isAttached (s : Standing) : Bool := s.endpoint?.isSome

def snapshot? (s : Standing) : Option Snapshot :=
  s.map fun status =>
    ⟨status.endpoint, status.loaded, status.lastFetched, status.detached, status.generation⟩

def loaded (s : Standing) : List ClassEntry :=
  match s with
  | some status => status.loaded
  | none => []

def loadedNames (s : Standing) : List ClassName := s.loaded.map fun e => ⟨e.name⟩

def lastFetched? (s : Standing) : Option ClassFile := s.bind (·.lastFetched)

def cached? (s : Standing) (c : ClassName) : Option Bytes :=
  s.bind fun status => status.cache.get? c

def isDetached (s : Standing) : Bool :=
  match s with
  | some status => status.detached
  | none => true

def generation (s : Standing) : Nat :=
  match s with
  | some status => status.generation
  | none => 0

/-- A new session: everything from the one before is forgotten. -/
def attached (endpoint : Endpoint) : Standing := some { endpoint := some endpoint }

def acknowledge (s : Standing) : Standing :=
  s.map fun status => { status with detached := false, generation := status.generation + 1 }

def recordClasses (s : Standing) (classes : List ClassEntry) : Standing :=
  Standing.acknowledge (s.map fun status => { status with loaded := classes })

/-- Fetched bytes become the last ones and enter the cache. -/
def recordFetch (s : Standing) (fetched : ClassFile) : Standing :=
  Standing.acknowledge (s.map fun status =>
    { status with
      cache := status.cache.put fetched.className fetched.bytes
      lastFetched := some fetched })

/-- Cached bytes are stale once classes have been redefined. -/
def dropCache (s : Standing) : Standing := s.map fun status => { status with cache := [] }

/-- The agent cannot be reached any more; the endpoint is kept for another try. -/
def detach (s : Standing) : Standing := s.map fun status => { status with detached := true }

/-- The session is over: the endpoint is forgotten too. -/
def leave (s : Standing) : Standing :=
  s.map fun status => { status with detached := true, endpoint := none }

end Standing

end ClassSwap
