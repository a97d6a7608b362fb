import ExpertExchange.Device.Argument
import ExpertExchange.Device.Geometry
import ExpertExchange.Log

/-!
# Platforms

All that the exchange needs from an accelerator: devices and their streams, stream-ordered
allocation, kernel loading and launch, and events that order one stream after a point of another.
A platform is given by its operations over a state `σ`, with its own kinds of loaded kernel `F`
and of event `E`.
-/

namespace ExpertExchange

structure Platform (S : Service) (σ F E : Type) where
  /-- Name in records. -/
  name : String
  /-- Number of devices; they are numbered from zero. -/
  deviceCount : Nat
  /-- Whether kernels are host functions found by name. -/
  isHost : Bool
  /-- Architecture of a device. -/
  arch : Nat → Act S σ DeviceError String
  /-- A stream of a device. -/
  stream : Nat → StreamKind → Act S σ DeviceError Stream
  /-- A fresh buffer, allocated on a stream. -/
  alloc : Dtype → List Nat → Stream → Act S σ DeviceError Buffer
  /-- Register a stream as a user of a buffer, so that freeing the buffer waits for it. -/
  recordStream : Buffer → Stream → Act S σ DeviceError Unit
  /-- Copy bytes into a buffer. -/
  write : Buffer → Bytes → Act S σ DeviceError Unit
  /-- Copy a buffer's bytes out. -/
  read : Buffer → Act S σ DeviceError Bytes
  /-- Load an image on a device and find the entry in it; the last argument bounds the threads of
  a block. -/
  load : Nat → Image → String → Nat → Act S σ DeviceError F
  /-- Enqueue a launch. -/
  launch : F → Geometry → List Argument → Stream → Act S σ DeviceError Unit
  /-- Blocks and threads that occupy a device best. -/
  occupancy : F → Act S σ DeviceError (Nat × Nat)
  /-- The event behind a slot of a device's pool. -/
  createEvent : Nat → Nat → Act S σ DeviceError E
  /-- Record an event at the tail of a stream. -/
  recordEvent : E → Stream → Act S σ DeviceError Unit
  /-- Make a stream wait for the last record of an event. -/
  waitEvent : E → Stream → Act S σ DeviceError Unit
  /-- Wait until a stream has drained. -/
  synchronize : Stream → Act S σ DeviceError Unit
  /-- Another handle to a buffer comes to life. -/
  retain : Buffer → Act S σ DeviceError Unit
  /-- A handle to a buffer goes away; with the last one the memory is freed. -/
  release : Buffer → Act S σ DeviceError Unit
  /-- A loaded kernel goes away. -/
  unload : F → Act S σ DeviceError Unit
  /-- An event goes away. -/
  destroyEvent : E → Act S σ DeviceError Unit
  /-- Append a record to the log. -/
  record : LogRecord → σ → σ

namespace Platform

variable {S : Service} {σ F E ε : Type}

def log (P : Platform S σ F E) (level : LogLevel) (origin : LogOrigin) (message : String)
    (fields : List (String × LogValue)) : Act S σ ε Unit :=
  Act.modify (P.record ⟨level, origin, message, fields⟩)

def releaseAll (P : Platform S σ F E) (buffers : List Buffer) : Act S σ DeviceError Unit :=
  Act.forEach buffers P.release

end Platform

end ExpertExchange
