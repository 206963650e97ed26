import QuicMix.Foundations.Frames
import QuicMix.Katzenpost.Handshake
import QuicMix.Katzenpost.Resolve
import QuicMix.Katzenpost.Token

namespace QuicMix
namespace Katzenpost

open Foundations

/-!
# The requests of a process

Every connection to a daemon begins with a session token, and every datagram that
is sent on it carries the identifier of a reply block.  Both come from the counter
of the process, which all connections share; a call draws its token, waits for the
lock of its connection, and writes one frame in as many writes as the socket asks
for.  Calls on one connection and on several run at the same time.

Whoever holds the lock writes its frame to the end, or fails, and then the socket is
gone.  So a daemon reads whole requests, with a token that no other request has, and
the session token before anything else.
-/

namespace SendMessage

/-- A message to a service with a reply block. -/
def withReplySurb (service : Service (List UInt8)) (payload surbid : List UInt8) :
    SendMessage where
  withSurb := true
  surbid := some surbid
  destinationIdHash := service.destinationIdHash
  recipientQueueId := service.recipientQueueId
  payload := payload

end SendMessage

/-- The sixteen bytes of a token. -/
def tokenBytes (chunks : List Chunk) : List UInt8 :=
  chunks.flatten.map UInt8.ofBitVec

/-- What a token is drawn for. -/
inductive Purpose where
  | session
  | message (service : Service (List UInt8)) (datagram : List UInt8)
  deriving DecidableEq

namespace Purpose

def request (token : List UInt8) : Purpose -> Request
  | .session => sessionRequest token
  | .message service datagram =>
      ⟨none, some (SendMessage.withReplySurb service datagram token)⟩

end Purpose

/-! ## Encoding -/

/-- The head of a CBOR item: its major type, and a number in its shortest form. -/
def cborHead (major number : Nat) : List UInt8 :=
  if number < 24 then [UInt8.ofNat (major * 32 + number)]
  else if number < 2 ^ 8 then [UInt8.ofNat (major * 32 + 24), UInt8.ofNat number]
  else if number < 2 ^ 16 then
    [UInt8.ofNat (major * 32 + 25), UInt8.ofNat (number / 2 ^ 8), UInt8.ofNat number]
  else if number < 2 ^ 32 then UInt8.ofNat (major * 32 + 26) :: be32 number
  else UInt8.ofNat (major * 32 + 27) :: (be32 (number / 2 ^ 32) ++ be32 number)

def cborBytes (bytes : List UInt8) : List UInt8 :=
  cborHead 2 bytes.length ++ bytes

/-- An array of fixed length, of which every byte is an item. -/
def cborArray (bytes : List UInt8) : List UInt8 :=
  cborHead 4 bytes.length ++ bytes.flatMap (fun byte => cborHead 0 byte.toNat)

def cborBool (value : Bool) : List UInt8 :=
  [if value then 0xf5 else 0xf4]

/-- A structure is a map from the names of its fields. -/
def cborMap (fields : List (String × List UInt8)) : List UInt8 :=
  cborHead 5 fields.length ++ fields.flatMap (fun field =>
    cborHead 3 (Text.encode field.1.toList).length ++ Text.encode field.1.toList ++ field.2)

namespace SendMessage

def cbor (message : SendMessage) : List UInt8 :=
  cborMap ([("with_surb", cborBool message.withSurb)] ++
    (message.surbid.map (fun surbid => ("surbid", cborArray surbid))).toList ++
    [("destination_id_hash", cborArray message.destinationIdHash),
      ("recipient_queue_id", cborBytes message.recipientQueueId),
      ("payload", cborBytes message.payload)])

end SendMessage

namespace Request

/-- A request as it is written: fields that are absent are left out. -/
def cbor (request : Request) : List UInt8 :=
  cborMap ((request.sessionToken.map (fun token =>
      ("session_token", cborMap [("client_instance_token", cborArray token)]))).toList ++
    (request.sendMessage.map (fun message => ("send_message", message.cbor))).toList)

end Request

/-! ## Connections -/

/-- The token of a request. -/
def Request.token (request : Request) : Option (List UInt8) :=
  request.sessionToken.or (request.sendMessage.bind SendMessage.surbid)

/-- A call, by its place among the calls of `instance_token`, and its request. -/
abbrev Entry := Nat × Request

/-- The writing half of a connection. -/
structure Connection where
  /-- What the PKI document names, once the handshake is over. -/
  service : Option (Service (List UInt8))
  /-- Calls that draw their token or wait for the lock. -/
  waiting : List (Nat × Purpose)
  /-- The call that has the lock, and what it has left to write. -/
  writer : Option (Entry × List UInt8)
  closed : Bool
  written : List UInt8
  /-- The calls in the order in which they obtained the lock. -/
  order : List Entry
  /-- The calls that have returned without an error. -/
  sent : List Entry

structure Client where
  process : Process
  connections : List Connection
  /-- On which connection each of the calls was made, and what for. -/
  callers : List (Nat × Purpose)

inductive RequestMove where
  /-- A connection is there, and the daemon has sent its first two frames. -/
  | connect
  /-- The daemon has answered the session token, and the service is resolved. -/
  | establish (connection : Nat) (service : Service (List UInt8))
  | trySend (connection : Nat) (datagram : List UInt8)
  | fetch (call : Nat)
  | lock (connection position : Nat)
  | write (connection count : Nat)
  | flush (connection : Nat)
  | writeFails (connection : Nat)
  /-- The socket is gone. -/
  | close (connection : Nat)

namespace RequestMove

/-- The move calls `instance_token`. -/
def draws : RequestMove -> Bool
  | .connect => true
  | .trySend _ _ => true
  | _ => false

end RequestMove

namespace Connection

def dialed (call : Nat) : Connection where
  service := none
  waiting := [(call, .session)]
  writer := none
  closed := false
  written := []
  order := []
  sent := []

def establish (connection : Connection) (service : Service (List UInt8)) : Option Connection :=
  if connection.service = none ∧ connection.sent ≠ [] then
    some { connection with service := some service }
  else none

def lock (encode : Request -> List UInt8) (connection : Connection) (position : Nat)
    (process : Process) : Option Connection :=
  match connection.writer, connection.waiting[position]? with
  | none, some (call, purpose) =>
      match process.calls[call]? with
      | none => none
      | some chunks =>
          if chunks.length = tokenChunks then
            let entry := (call, purpose.request (tokenBytes chunks))
            some { connection with
              waiting := connection.waiting.eraseIdx position
              writer := some (entry, frameOf encode entry.2)
              order := connection.order ++ [entry] }
          else none
  | _, _ => none

def write (connection : Connection) (count : Nat) : Option Connection :=
  match connection.writer with
  | none => none
  | some (entry, left) =>
      if connection.closed = false ∧ 0 < count ∧ count <= left.length then
        some { connection with
          writer := some (entry, left.drop count)
          written := connection.written ++ left.take count }
      else none

/-- The frame is written and flushed, and the call returns. -/
def flush (connection : Connection) : Option Connection :=
  match connection.writer with
  | some (entry, []) =>
      some { connection with writer := none, sent := connection.sent ++ [entry] }
  | _ => none

def writeFails (connection : Connection) : Option Connection :=
  match connection.writer with
  | none => none
  | some _ => some { connection with writer := none, closed := true }

end Connection

namespace Client

def start : Client where
  process := .start
  connections := []
  callers := []

/-- A call of `instance_token` begins. -/
def call (client : Client) (index : Nat) (purpose : Purpose) (connections : List Connection) :
    Client where
  process := { client.process with calls := client.process.calls ++ [[]] }
  connections := connections
  callers := client.callers ++ [(index, purpose)]

/-- One connection makes a move. -/
def on (client : Client) (index : Nat) (move : Connection -> Option Connection) : Option Client :=
  match client.connections[index]? with
  | none => none
  | some connection => (move connection).map (fun next =>
      { client with connections := client.connections.set index next })

def step (encode : Request -> List UInt8) (client : Client) : RequestMove -> Option Client
  | .connect =>
      some (client.call client.connections.length .session
        (client.connections ++ [Connection.dialed client.process.calls.length]))
  | .establish index service => client.on index (fun connection => connection.establish service)
  | .trySend index datagram =>
      match client.connections[index]? with
      | none => none
      | some connection =>
          match connection.service with
          | none => none
          | some service =>
              some (client.call index (.message service datagram) (client.connections.set index
                { connection with
                  waiting := connection.waiting ++
                    [(client.process.calls.length, .message service datagram)] }))
  | .fetch made =>
      (client.process.step (.fetch made)).map (fun process => { client with process := process })
  | .lock index position =>
      client.on index (fun connection => connection.lock encode position client.process)
  | .write index count => client.on index (fun connection => connection.write count)
  | .flush index => client.on index Connection.flush
  | .writeFails index => client.on index Connection.writeFails
  | .close index => client.on index (fun connection => some { connection with closed := true })

end Client

/-! ## What a move does -/

namespace Connection

/-- The moves of a connection. -/
inductive Moved (encode : Request -> List UInt8) (process : Process) (connection : Connection) :
    Connection -> Prop where
  | established (service : Service (List UInt8)) (fresh : connection.service = none)
      (greeted : connection.sent ≠ []) :
      Moved encode process connection { connection with service := some service }
  | locked (position call : Nat) (purpose : Purpose) (chunks : List Chunk)
      (free : connection.writer = none)
      (waits : connection.waiting[position]? = some (call, purpose))
      (drawn : process.calls[call]? = some chunks) (complete : chunks.length = tokenChunks) :
      Moved encode process connection
        { connection with
          waiting := connection.waiting.eraseIdx position
          writer := some ((call, purpose.request (tokenBytes chunks)),
            frameOf encode (purpose.request (tokenBytes chunks)))
          order := connection.order ++ [(call, purpose.request (tokenBytes chunks))] }
  | wrote (count : Nat) (entry : Entry) (left : List UInt8)
      (writer : connection.writer = some (entry, left)) (open_ : connection.closed = false)
      (positive : 0 < count) (fits : count <= left.length) :
      Moved encode process connection
        { connection with
          writer := some (entry, left.drop count)
          written := connection.written ++ left.take count }
  | flushed (entry : Entry) (writer : connection.writer = some (entry, [])) :
      Moved encode process connection
        { connection with writer := none, sent := connection.sent ++ [entry] }
  | failed (entry : Entry) (left : List UInt8)
      (writer : connection.writer = some (entry, left)) :
      Moved encode process connection { connection with writer := none, closed := true }
  | closed : Moved encode process connection { connection with closed := true }

variable {encode : Request -> List UInt8} {process : Process} {connection next : Connection}

theorem moved_of_establish {service : Service (List UInt8)}
    (moved : connection.establish service = some next) :
    Moved encode process connection next := by
  rcases Option.ite_none_right_eq_some.mp moved with ⟨⟨fresh, greeted⟩, same⟩
  cases same
  exact .established service fresh greeted

theorem moved_of_lock {position : Nat}
    (moved : connection.lock encode position process = some next) :
    Moved encode process connection next := by
  unfold lock at moved
  split at moved
  · rename_i call purpose free waits
    split at moved
    · cases moved
    · rename_i chunks drawn
      rcases Option.ite_none_right_eq_some.mp moved with ⟨complete, same⟩
      cases same
      exact .locked position call purpose chunks free waits drawn complete
  · cases moved

theorem moved_of_write {count : Nat} (moved : connection.write count = some next) :
    Moved encode process connection next := by
  unfold write at moved
  split at moved
  · cases moved
  · rename_i entry left writer
    rcases Option.ite_none_right_eq_some.mp moved with ⟨⟨open_, positive, fits⟩, same⟩
    cases same
    exact .wrote count entry left writer open_ positive fits

theorem moved_of_flush (moved : connection.flush = some next) :
    Moved encode process connection next := by
  unfold flush at moved
  split at moved
  · rename_i entry writer
    cases moved
    exact .flushed entry writer
  · cases moved

theorem moved_of_writeFails (moved : connection.writeFails = some next) :
    Moved encode process connection next := by
  unfold writeFails at moved
  split at moved
  · cases moved
  · rename_i held writer
    cases moved
    exact .failed held.1 held.2 writer

end Connection

namespace Client

/-- The moves of a client. -/
inductive Moved (encode : Request -> List UInt8) (client : Client) :
    RequestMove -> Client -> Prop where
  | connected :
      Moved encode client .connect (client.call client.connections.length .session
        (client.connections ++ [Connection.dialed client.process.calls.length]))
  | called (index : Nat) (datagram : List UInt8) (connection : Connection)
      (service : Service (List UInt8)) (located : client.connections[index]? = some connection)
      (established : connection.service = some service) :
      Moved encode client (.trySend index datagram) (client.call index (.message service datagram)
        (client.connections.set index
          { connection with
            waiting := connection.waiting ++
              [(client.process.calls.length, .message service datagram)] }))
  | fetched (made : Nat) (process : Process)
      (stepped : client.process.step (.fetch made) = some process) :
      Moved encode client (.fetch made) { client with process := process }
  | moved (move : RequestMove) (index : Nat) (connection next : Connection)
      (quiet : move.draws = false) (located : client.connections[index]? = some connection)
      (moved : Connection.Moved encode client.process connection next) :
      Moved encode client move
        { client with connections := client.connections.set index next }

variable {encode : Request -> List UInt8} {client next : Client} {move : RequestMove}

theorem moved_of_on {index : Nat} {operation : Connection -> Option Connection}
    (quiet : move.draws = false)
    (sound : forall connection later, operation connection = some later ->
      Connection.Moved encode client.process connection later)
    (moved : client.on index operation = some next) : Moved encode client move next := by
  unfold on at moved
  split at moved
  · cases moved
  · rename_i connection located
    rcases Option.map_eq_some_iff.mp moved with ⟨later, operated, same⟩
    cases same
    exact .moved move index connection later quiet located (sound connection later operated)

theorem moved_of_step (moved : client.step encode move = some next) :
    Moved encode client move next := by
  cases move with
  | connect =>
      cases moved
      exact .connected
  | establish index service =>
      exact moved_of_on rfl (fun _ _ operated => Connection.moved_of_establish operated) moved
  | trySend index datagram =>
      simp only [step] at moved
      split at moved
      · cases moved
      · rename_i connection located
        split at moved
        · cases moved
        · rename_i service established
          cases moved
          exact .called index datagram connection service located established
  | fetch made =>
      rcases Option.map_eq_some_iff.mp moved with ⟨process, stepped, same⟩
      cases same
      exact .fetched made process stepped
  | lock index position =>
      exact moved_of_on rfl (fun _ _ operated => Connection.moved_of_lock operated) moved
  | write index count =>
      exact moved_of_on rfl (fun _ _ operated => Connection.moved_of_write operated) moved
  | flush index =>
      exact moved_of_on rfl (fun _ _ operated => Connection.moved_of_flush operated) moved
  | writeFails index =>
      exact moved_of_on rfl (fun _ _ operated => Connection.moved_of_writeFails operated) moved
  | close index =>
      refine moved_of_on rfl (fun connection later operated => ?_) moved
      cases operated
      exact .closed

end Client
end Katzenpost
end QuicMix
