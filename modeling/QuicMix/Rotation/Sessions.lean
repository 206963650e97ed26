import QuicMix.Boundary.Front
import QuicMix.Foundations.Lists
import QuicMix.Foundations.Schedule
import Mathlib.Logic.Function.Basic

namespace QuicMix
namespace Rotation

open Foundations
open Boundary

/-!
# Sessions over disposable circuits

A session lives inside the tunnel: `session_send` opens a stream on any circuit,
writes the session id and a message, ends the stream and waits for the server to
answer.  The server reads each stream of a connection to its end, one after the
other, notes the source address of the connection under the first eight bytes, and
acknowledges.

The calls of `session_send` and the server's tasks run side by side.  A call that
fails or is dropped ends its stream where it is.  A server that reads too long a
message gives up its connection, and so does one whose connection is lost; the
stream that it was reading ends then, and its client may take that for the answer.
-/

/-- Eight bytes that name a session. -/
@[ext] structure SessionId where
  bytes : List UInt8
  length_eq : bytes.length = 8
  deriving DecidableEq

/-- How much `read_to_end` of the server accepts. -/
def readLimit : Nat := 2 ^ 20

/-- Where a call of `session_send` stands once its stream is open. -/
inductive SendPhase where
  | writing
  | awaiting
  | returned (succeeded : Bool)
  deriving DecidableEq

/-- A stream and the call that has opened it. -/
structure SessionStream where
  session : SessionId
  msg : List UInt8
  written : Nat
  /-- The stream has ended behind what was written. -/
  finished : Bool
  phase : SendPhase

namespace SessionStream

def buf (stream : SessionStream) : List UInt8 :=
  stream.session.bytes ++ stream.msg

/-- What the server can read. -/
def data (stream : SessionStream) : List UInt8 :=
  stream.buf.take stream.written

/-- The id that the server reads. -/
def sid (stream : SessionStream) : Option SessionId :=
  if long : 8 <= stream.data.length then
    some ⟨stream.data.take 8, by rw [List.length_take, Nat.min_eq_left long]⟩
  else none

def openBi (session : SessionId) (msg : List UInt8) : SessionStream where
  session := session
  msg := msg
  written := 0
  finished := false
  phase := .writing

def write (count : Nat) (stream : SessionStream) : Option SessionStream :=
  if stream.phase = .writing ∧ stream.written + count <= stream.buf.length then
    some { stream with written := stream.written + count }
  else none

def finish (stream : SessionStream) : Option SessionStream :=
  if stream.phase = .writing ∧ stream.written = stream.buf.length then
    some { stream with finished := true, phase := .awaiting }
  else none

/-- The call returns with an error or is dropped. -/
def abandon (stream : SessionStream) : Option SessionStream :=
  match stream.phase with
  | .returned _ => none
  | _ => some { stream with finished := true, phase := .returned false }

/-- The call has read the answer to its end, whatever is in it. -/
def readAck (acked : Bool) (stream : SessionStream) : Option SessionStream :=
  if stream.phase = .awaiting ∧ acked = true then
    some { stream with phase := .returned true }
  else none

end SessionStream

/-- Where the server's task for a connection stands. -/
inductive ServerPhase where
  | accepting
  | reading
  | answering
  | refused
  | closed
  deriving DecidableEq

/-- A connection with its streams in the order in which they were opened. -/
structure Circuit where
  /-- The address that the server sees. -/
  source : Address
  streams : List SessionStream
  /-- How many streams the server is done with. -/
  served : Nat
  server : ServerPhase

/-- What the server notes: the stream of the connection, the session and the source
address. -/
structure Note where
  stream : Nat
  session : SessionId
  source : Address

inductive CircuitMove where
  | openBi (session : SessionId) (msg : List UInt8)
  | write (stream count : Nat)
  | finish (stream : Nat)
  | abandon (stream : Nat)
  | readAck (stream : Nat)
  | accept
  | read
  | refuse
  | answer
  | close

namespace Circuit

def connectFresh (source : Address) : Circuit where
  source := source
  streams := []
  served := 0
  server := .accepting

/-- A call goes on with its stream. -/
def call (circuit : Circuit) (index : Nat) (change : SessionStream -> Option SessionStream) :
    Option Circuit :=
  match circuit.streams[index]? with
  | none => none
  | some stream =>
      (change stream).map (fun stream =>
        { circuit with streams := circuit.streams.set index stream })

/-- The server's side of a stream has ended. -/
def acked (circuit : Circuit) (index : Nat) : Bool :=
  decide (index < circuit.served ∨ index = circuit.served ∧ circuit.server = .refused)

/-- The stream is read to its end, and the session noted. -/
def read (circuit : Circuit) : Option (Circuit × Option Note) :=
  match circuit.server, circuit.streams[circuit.served]? with
  | .reading, some stream =>
      if stream.finished = true ∧ stream.data.length <= readLimit then
        some ({ circuit with server := .answering },
          stream.sid.map (fun session => ⟨circuit.served, session, circuit.source⟩))
      else none
  | _, _ => none

/-- There is more than the server accepts: it drops the stream and the connection. -/
def refuse (circuit : Circuit) : Option Circuit :=
  match circuit.server, circuit.streams[circuit.served]? with
  | .reading, some stream =>
      if readLimit < stream.data.length then
        some { circuit with server := .refused }
      else none
  | _, _ => none

def step (circuit : Circuit) : CircuitMove -> Option (Circuit × Option Note)
  | .openBi session msg =>
      some ({ circuit with streams := circuit.streams ++ [SessionStream.openBi session msg] }, none)
  | .write index count => (circuit.call index (SessionStream.write count)).map (·, none)
  | .finish index => (circuit.call index SessionStream.finish).map (·, none)
  | .abandon index => (circuit.call index SessionStream.abandon).map (·, none)
  | .readAck index =>
      (circuit.call index (SessionStream.readAck (circuit.acked index))).map (·, none)
  | .accept =>
      if circuit.server = .accepting ∧ circuit.served < circuit.streams.length then
        some ({ circuit with server := .reading }, none)
      else none
  | .read => circuit.read
  | .refuse => circuit.refuse.map (·, none)
  | .answer =>
      if circuit.server = .answering then
        some ({ circuit with served := circuit.served + 1, server := .accepting }, none)
      else none
  | .close =>
      if circuit.server = .refused then none else some ({ circuit with server := .closed }, none)

end Circuit

/-- The circuits of the clients and the table of the server. -/
structure Rotating where
  circuits : List Circuit
  sessions : SessionId -> List Address
  /-- What was noted, with the circuits. -/
  log : List (Nat × Note)

inductive RotationMove where
  | connect (source : Address)
  | circuit (index : Nat) (move : CircuitMove)

namespace Rotating

def start : Rotating where
  circuits := []
  sessions := fun _ => []
  log := []

/-- The server appends the source to the entry of the session. -/
def note (rotating : Rotating) (index : Nat) : Option Note -> Rotating
  | none => rotating
  | some note =>
      { rotating with
        sessions := Function.update rotating.sessions note.session
          (rotating.sessions note.session ++ [note.source])
        log := rotating.log ++ [(index, note)] }

def step (rotating : Rotating) : RotationMove -> Option Rotating
  | .connect source =>
      some { rotating with circuits := rotating.circuits ++ [Circuit.connectFresh source] }
  | .circuit index move =>
      match rotating.circuits[index]? with
      | none => none
      | some circuit =>
          match circuit.step move with
          | none => none
          | some (next, noted) =>
              some ({ rotating with circuits := rotating.circuits.set index next }.note index noted)

end Rotating
end Rotation
end QuicMix
