import QuicMix.Boundary.Front
import QuicMix.Foundations.Expiry

namespace QuicMix
namespace Nym

open Foundations Boundary

/-!
# The Nym gateway

`NymGateway::run` takes the messages of the mix one at a time.  A message
without a sender tag is passed over.  The first message of a tag binds a socket,
connects it to the local server and spawns the tag's reply task; every message
is then sent on the socket of its tag.  A reply task reads the server's
datagrams off its socket and puts them into a boundary of its own, the pump of
which ships them with `send_reply` under the tag that the transport was made
with.

The loop, the reply tasks and the pumps run concurrently.  A move names the one
that proceeds to its next `await`, together with what the system answers there:
the address of a new socket, whether a call succeeded, or what the mix or the
server sent.  Records of the tagged messages and of the shipped replies are kept
beside the state; no move reads them.
-/

variable {Tag : Type}

/-- Measured timing of Nym mainnet. -/
def nymOracle : OracleParams where
  hops := 3
  meanHopDelay := 470 * 1000000
  dropProb := 0
  slotInterval := 158 * 1000000
  mtu := 1200

/-- A message of the mix. -/
structure MixMessage (Tag : Type) where
  message : Datagram
  senderTag : Option Tag

/-- A local UDP socket with records of its traffic. -/
structure UdpSocket where
  localAddr : Address
  /-- Datagrams that have arrived and are not read yet. -/
  inbox : List Datagram
  received : List Datagram
  sent : List Datagram

namespace UdpSocket

def bind (localAddr : Address) : UdpSocket where
  localAddr := localAddr
  inbox := []
  received := []
  sent := []

/-- A datagram arrives if it is for this socket. -/
def arrive (address : Address) (datagram : Datagram) (socket : UdpSocket) : UdpSocket :=
  if socket.localAddr = address then
    { socket with
      inbox := socket.inbox ++ [datagram]
      received := socket.received ++ [datagram] }
  else socket

def send (datagram : Datagram) (socket : UdpSocket) : UdpSocket :=
  { socket with sent := socket.sent ++ [datagram] }

end UdpSocket

/-! ## Reply tasks -/

/-- The reply leg of one client. -/
structure NymReplyTransport (Tag : Type) where
  tag : Tag
  oracle : OracleParams

/-- The reply that `try_send` ships. -/
def NymReplyTransport.sendReply (transport : NymReplyTransport Tag) (datagram : Datagram) :
    Tag × Datagram :=
  (transport.tag, datagram)

/-- A reply task and the boundary that it alone has a handle of. -/
structure ReplyTask (Tag : Type) where
  transport : NymReplyTransport Tag
  /-- The socket that the task reads, by its position among the bound ones. -/
  reader : Nat
  pump : OutPump
  boundary : Traffic

inductive ReplyMove where
  | recv
  | socketError
  | reserve
  | commit
  | hangUp
  | release
  | elapse (duration : Duration)
  | sendPump
  | innerSent (result : SendResult)

namespace ReplyTask

def spawn (transport : NymReplyTransport Tag) (queueDepth reader : Nat) : ReplyTask Tag where
  transport := transport
  reader := reader
  pump := .receiving
  boundary := Traffic.start .datagram transport.oracle queueDepth

/-- The boundary makes a move and the task goes on from the given point. -/
def within (task : ReplyTask Tag) (move : Move) (after : OutPump) : Option (ReplyTask Tag) :=
  match task.boundary.step move with
  | none => none
  | some boundary => some { task with boundary := boundary, pump := after }

/-- A move of the task or of its boundary.  The inner receive never answers, so
the receive pump of the boundary makes none. -/
def step (task : ReplyTask Tag) (socket : UdpSocket) :
    ReplyMove -> Option (ReplyTask Tag × UdpSocket)
  | .recv =>
      match task.pump, socket.inbox with
      | .receiving, datagram :: rest =>
          (task.within (.send datagram) .sending).map (·, { socket with inbox := rest })
      | _, _ => none
  | .socketError =>
      if task.pump = .receiving then some ({ task with pump := .ended }, socket) else none
  | .reserve =>
      if task.pump = .sending then (task.within (.reserve 0) .sending).map (·, socket) else none
  | .commit =>
      if task.pump = .sending then (task.within (.commit 0) .receiving).map (·, socket) else none
  | .hangUp =>
      if task.pump = .sending then (task.within (.hangUp 0) .ended).map (·, socket) else none
  | .release =>
      if task.pump = .ended then (task.within .dropHandles .ended).map (·, socket) else none
  | .elapse duration => (task.within (.elapse duration) task.pump).map (·, socket)
  | .sendPump => (task.within .sendPump task.pump).map (·, socket)
  | .innerSent result => (task.within (.innerSent result) task.pump).map (·, socket)

/-- The replies whose inner send starts in a move. -/
def shipments (task moved : ReplyTask Tag) : List (Tag × Datagram) :=
  (moved.boundary.starts.drop task.boundary.starts.length).map
    (fun start => task.transport.sendReply start.2)

/-- The tag of the replies and the socket that they come from. -/
def wire (task : ReplyTask Tag) : Tag × Nat :=
  (task.transport.tag, task.reader)

end ReplyTask

/-! ## The loop -/

/-- Where `run` stands. -/
inductive Loop (Tag : Type) where
  | waiting
  | looking (tag : Tag) (message : Datagram)
  | binding (tag : Tag) (message : Datagram)
  | connecting (tag : Tag) (socket : Nat) (message : Datagram)
  | sending (tag : Tag) (socket : Nat) (message : Datagram)
  | returned

namespace Loop

/-- The message that has been taken and not been sent yet. -/
def inHand : Loop Tag -> List (Tag × Datagram)
  | .waiting => []
  | .looking tag message => [(tag, message)]
  | .binding tag message => [(tag, message)]
  | .connecting tag _ message => [(tag, message)]
  | .sending tag _ message => [(tag, message)]
  | .returned => []

/-- The socket that is bound and not in the table yet. -/
def unlisted : Loop Tag -> List (Tag × Nat)
  | .connecting tag socket _ => [(tag, socket)]
  | _ => []

end Loop

structure NymGateway (Tag : Type) where
  loop : Loop Tag
  /-- The sockets that were bound, in order. -/
  sockets : List UdpSocket
  socks : Table (Prod.fst : Tag × Nat -> Tag)
  replies : List (ReplyTask Tag)
  /-- The tagged messages that were taken off the mix. -/
  taken : List (Tag × Datagram)
  /-- The calls of `send_reply`. -/
  shipped : List (Tag × Datagram)

inductive GatewayMove (Tag : Type) where
  | next (message : Option (MixMessage Tag))
  | lookup
  | bind (answer : Option Address)
  | connect (succeeded : Bool)
  | send (succeeded : Bool)
  | udpIn (address : Address) (datagram : Datagram)
  | reply (index : Nat) (move : ReplyMove)

namespace GatewayMove

/-- The tagged message that the loop is given. -/
def tagged : GatewayMove Tag -> Option (Tag × Datagram)
  | .next (some ⟨message, some tag⟩) => some (tag, message)
  | _ => none

/-- The loop is given a message without a tag. -/
def untagged : GatewayMove Tag -> Bool
  | .next (some ⟨_, none⟩) => true
  | _ => false

end GatewayMove

namespace NymGateway

def start : NymGateway Tag where
  loop := .waiting
  sockets := []
  socks := Table.empty
  replies := []
  taken := []
  shipped := []

/-- Who each socket was bound for. -/
def owners (gateway : NymGateway Tag) : List (Tag × Nat) :=
  gateway.socks.entries ++ gateway.loop.unlisted

variable [DecidableEq Tag]

/-- The socket is connected: it enters the table and its reply task starts. -/
def enroll (queueDepth : Nat) (gateway : NymGateway Tag) (tag : Tag) (socket : Nat)
    (message : Datagram) : NymGateway Tag :=
  { gateway with
    loop := .sending tag socket message
    socks := gateway.socks.insert (tag, socket)
    replies := gateway.replies ++ [ReplyTask.spawn ⟨tag, nymOracle⟩ queueDepth socket] }

def reply (gateway : NymGateway Tag) (index : Nat) (move : ReplyMove) :
    Option (NymGateway Tag) :=
  match gateway.replies[index]? with
  | none => none
  | some task =>
      match gateway.sockets[task.reader]? with
      | none => none
      | some socket =>
          match task.step socket move with
          | none => none
          | some (moved, socket) =>
              some { gateway with
                sockets := gateway.sockets.set task.reader socket
                replies := gateway.replies.set index moved
                shipped := gateway.shipped ++ task.shipments moved }

def step (queueDepth : Nat) (gateway : NymGateway Tag) :
    GatewayMove Tag -> Option (NymGateway Tag)
  | .next message =>
      match gateway.loop, message with
      | .waiting, none => some { gateway with loop := .returned }
      | .waiting, some ⟨_, none⟩ => some gateway
      | .waiting, some ⟨message, some tag⟩ =>
          some { gateway with
            loop := .looking tag message
            taken := gateway.taken ++ [(tag, message)] }
      | _, _ => none
  | .lookup =>
      match gateway.loop with
      | .looking tag message =>
          match gateway.socks.get tag with
          | some (_, socket) => some { gateway with loop := .sending tag socket message }
          | none => some { gateway with loop := .binding tag message }
      | _ => none
  | .bind answer =>
      match gateway.loop, answer with
      | .binding tag message, some address =>
          some { gateway with
            loop := .connecting tag gateway.sockets.length message
            sockets := gateway.sockets ++ [UdpSocket.bind address] }
      | .binding _ _, none => some { gateway with loop := .returned }
      | _, _ => none
  | .connect succeeded =>
      match gateway.loop with
      | .connecting tag socket message =>
          if succeeded then some (gateway.enroll queueDepth tag socket message)
          else some { gateway with loop := .returned }
      | _ => none
  | .send succeeded =>
      match gateway.loop with
      | .sending _ socket message =>
          if succeeded then
            some { gateway with
              loop := .waiting
              sockets := gateway.sockets.modify socket (UdpSocket.send message) }
          else some { gateway with loop := .waiting }
      | _ => none
  | .udpIn address datagram =>
      some { gateway with sockets := gateway.sockets.map (UdpSocket.arrive address datagram) }
  | .reply index move => gateway.reply index move

end NymGateway
end Nym
end QuicMix
