import QuicMix.Boundary.Substrate
import QuicMix.Foundations.Frames

namespace QuicMix
namespace Framing

open Foundations
open Boundary

/-!
# Datagrams over a byte stream

`StreamDatagram` frames each datagram behind its length.  Senders take turns
under a lock and write a frame in two parts, each in as many writes as the
stream asks for; the receiving end reads a length and then a payload, each in as
many reads as the stream asks for.  The stream delivers the bytes in order.  It
can close at any time, and the bytes that are then on the way arrive up to some
point and are lost from there on.
-/

/-! ## Errors -/

inductive IoErrorKind where
  | unexpectedEof
  | other
  deriving DecidableEq, Repr

structure IoError where
  kind : IoErrorKind
  text : String

/-- The end of the stream is closed; every other error keeps its text. -/
def mapIo (error : IoError) : SubstrateError :=
  if error.kind = .unexpectedEof then .closed else .io ("tor stream: " ++ error.text)

/-- What `read_exact` returns at the end of the stream. -/
def earlyEof : IoError := ⟨.unexpectedEof, "early eof"⟩

/-! ## Receiving -/

/-- The bound of 1 MiB on a received length. -/
def maxDatagram : Nat := 1 <<< 20

/-- Where a call of `try_recv` stands.  Between calls the reader is idle. -/
inductive Reader where
  | idle
  | header (got : List UInt8)
  | payload (size : Nat) (got : List UInt8)

namespace Reader

/-- How many bytes the `read_exact` under way still has to fill. -/
def wanted : Reader -> Nat
  | .idle => 0
  | .header got => 4 - got.length
  | .payload size got => size - got.length

/-- The length is complete.  An empty payload needs no further read. -/
def ofHeader (bytes : List UInt8) : Reader × Option RecvResult :=
  if ofBe bytes > maxDatagram then (.idle, some (.error .malformed))
  else if ofBe bytes = 0 then (.idle, some (.ok []))
  else (.payload (ofBe bytes) [], none)

/-- One read brings some of the wanted bytes. -/
def read (reader : Reader) (chunk : List UInt8) : Reader × Option RecvResult :=
  match reader with
  | .idle => (.idle, none)
  | .header got =>
      if (got ++ chunk).length = 4 then ofHeader (got ++ chunk)
      else (.header (got ++ chunk), none)
  | .payload size got =>
      if (got ++ chunk).length = size then (.idle, some (.ok (got ++ chunk)))
      else (.payload size (got ++ chunk), none)

end Reader

/-! ## Sending -/

/-- What the holder of the write lock has left to do. -/
inductive Writer where
  | free
  | header (left : List UInt8) (datagram : Datagram)
  | payload (left : List UInt8)
  | flushing
  deriving DecidableEq, Repr

namespace Writer

/-- The length is written.  An empty payload needs no further write. -/
def afterHeader (datagram : Datagram) : Writer :=
  match datagram with
  | [] => .flushing
  | _ :: _ => .payload datagram

/-- One write takes the given number of bytes. -/
def write (size : Nat) : Writer -> Option (List UInt8 × Writer)
  | .header left datagram =>
      if 0 < size ∧ size <= left.length then
        match left.drop size with
        | [] => some (left.take size, afterHeader datagram)
        | byte :: rest => some (left.take size, .header (byte :: rest) datagram)
      else none
  | .payload left =>
      if 0 < size ∧ size <= left.length then
        match left.drop size with
        | [] => some (left.take size, .flushing)
        | byte :: rest => some (left.take size, .payload (byte :: rest))
      else none
  | _ => none

end Writer

/-! ## Two ends and the stream between them -/

structure Pipe where
  /-- Callers inside `try_send` that wait for the lock. -/
  waiting : List Datagram
  writer : Writer
  closed : Bool
  /-- Bytes that are written and not read. -/
  wire : List UInt8
  reader : Reader
  /-- The datagrams in the order in which their senders obtained the lock. -/
  order : List Datagram
  sent : List SendResult
  /-- Bytes that were read, in order. -/
  consumed : List UInt8
  results : List RecvResult

inductive Action where
  | call (datagram : Datagram)
  | lock (index : Nat)
  | write (size : Nat)
  | flush
  | failWrite (error : IoError)
  | close (arriving : Nat)
  | recv
  | read (size : Nat)
  | eof

namespace Pipe

def start : Pipe where
  waiting := []
  writer := .free
  closed := false
  wire := []
  reader := .idle
  order := []
  sent := []
  consumed := []
  results := []

/-- A caller obtains the lock and begins with the length of its datagram. -/
def lock (pipe : Pipe) (index : Nat) (datagram : Datagram) : Pipe :=
  { pipe with
    waiting := pipe.waiting.eraseIdx index
    writer := .header (be32 datagram.length) datagram
    order := pipe.order ++ [datagram] }

/-- The reader takes the next bytes from the stream. -/
def read (pipe : Pipe) (size : Nat) : Pipe :=
  match pipe.reader.read (pipe.wire.take size) with
  | (reader, result) =>
      { pipe with
        wire := pipe.wire.drop size
        reader := reader
        consumed := pipe.consumed ++ pipe.wire.take size
        results := pipe.results ++ result.toList }

def step (pipe : Pipe) : Action -> Option Pipe
  | .call datagram => some { pipe with waiting := pipe.waiting ++ [datagram] }
  | .lock index =>
      match pipe.writer, pipe.waiting[index]? with
      | .free, some datagram => some (pipe.lock index datagram)
      | _, _ => none
  | .write size =>
      if pipe.closed then none
      else
        match pipe.writer.write size with
        | none => none
        | some (bytes, writer) =>
            some { pipe with wire := pipe.wire ++ bytes, writer := writer }
  | .flush =>
      match pipe.writer with
      | .flushing => some { pipe with writer := .free, sent := pipe.sent ++ [.ok ()] }
      | _ => none
  | .failWrite error =>
      if pipe.closed = true ∧ pipe.writer ≠ .free then
        some { pipe with writer := .free, sent := pipe.sent ++ [.error (mapIo error)] }
      else none
  | .close arriving =>
      if pipe.closed then none
      else some { pipe with closed := true, wire := pipe.wire.take arriving }
  | .recv =>
      match pipe.reader with
      | .idle => some { pipe with reader := .header [] }
      | _ => none
  | .read size =>
      if 0 < size ∧ size <= pipe.wire.length ∧ size <= pipe.reader.wanted then
        some (pipe.read size)
      else none
  | .eof =>
      if pipe.closed = true ∧ pipe.wire = [] ∧ 0 < pipe.reader.wanted then
        some { pipe with
          reader := .idle
          results := pipe.results ++ [.error (mapIo earlyEof)] }
      else none

end Pipe
end Framing
end QuicMix
