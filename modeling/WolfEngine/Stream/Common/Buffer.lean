import WolfEngine.Library.Overlay

/-! # The message buffer

`stream/common/buffer.rs`: the one 1024-byte buffer that a connection (or a UDP
socket) reads into, hands to its message callback and answers from.  The array's
fixed length is a field, so no operation has to re-establish it.
-/

namespace WolfEngine.Stream

open Overlay

/-- `MAX_MSG_SIZE`. -/
def maxMsgSize : Nat := 1024

inductive BufferType where
  | binary
  | text
deriving DecidableEq, Repr

structure Buffer where
  type_ : BufferType
  size : Nat
  buf : List UInt8
  bufLength : buf.length = maxMsgSize
deriving DecidableEq

/-- Bytes that fit in a buffer: what one read, or one callback, can put in it. -/
structure Chunk where
  bytes : List UInt8
  fits : bytes.length ≤ maxMsgSize
deriving DecidableEq

/-- No bytes: the end of a stream. -/
def Chunk.empty : Chunk := ⟨[], Nat.zero_le _⟩

namespace Buffer

def new (type_ : BufferType) : Buffer :=
  ⟨type_, 0, List.replicate maxMsgSize 0, List.length_replicate⟩

def reset (buffer : Buffer) : Buffer :=
  { buffer with
    size := 0
    buf := List.replicate maxMsgSize 0
    bufLength := List.length_replicate }

/-- Write `chunk` over the front of the array, as `read`, `recv_from` and the
copies do; the rest of the array and the other fields stay. -/
def fill (buffer : Buffer) (chunk : Chunk) : Buffer :=
  { buffer with
    buf := overlay chunk.bytes buffer.buf
    bufLength := by rw [overlay_length, buffer.bufLength, Nat.max_eq_right chunk.fits] }

/-- A read into the array followed by `msg.size = n`. -/
def receive (buffer : Buffer) (chunk : Chunk) : Buffer :=
  { buffer.fill chunk with size := chunk.bytes.length }

/-- `buf[0..size]`. -/
def payload (buffer : Buffer) : List UInt8 := buffer.buf.take buffer.size

@[simp] theorem new_size (type_ : BufferType) : (new type_).size = 0 := rfl

@[simp] theorem reset_buf (buffer : Buffer) :
    buffer.reset.buf = List.replicate maxMsgSize 0 := rfl

@[simp] theorem receive_size (buffer : Buffer) (chunk : Chunk) :
    (buffer.receive chunk).size = chunk.bytes.length := rfl

/-- The callback finds exactly what was read. -/
@[simp] theorem receive_payload (buffer : Buffer) (chunk : Chunk) :
    (buffer.receive chunk).payload = chunk.bytes :=
  overlay_take chunk.bytes buffer.buf

theorem payload_length {buffer : Buffer} (bound : buffer.size ≤ maxMsgSize) :
    buffer.payload.length = buffer.size := by
  simp only [payload, List.length_take, buffer.bufLength]
  omega

theorem payload_of_size_zero {buffer : Buffer} (empty : buffer.size = 0) :
    buffer.payload = [] := by
  simp [payload, empty]

/-- The slice is the whole array exactly when the size says so. -/
theorem payload_eq_buf_iff {buffer : Buffer} (bound : buffer.size ≤ maxMsgSize) :
    buffer.payload = buffer.buf ↔ buffer.size = maxMsgSize := by
  constructor
  · intro same
    have lengths := congrArg List.length same
    rwa [payload_length bound, buffer.bufLength] at lengths
  · intro full
    rw [payload, full, ← buffer.bufLength, List.take_length]

end Buffer

end WolfEngine.Stream
