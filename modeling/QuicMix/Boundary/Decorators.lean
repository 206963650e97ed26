import QuicMix.Boundary.Substrate
import Mathlib.Algebra.BigOperators.Fin

namespace QuicMix
namespace Boundary

open Foundations

/-!
# Stacks of transports

A transport is a leaf, a `Substrate` around a transport, or a `Striped` around
several.  Only leaves implement the fallible methods of the trait: the two
decorators implement `send` and `recv`, and their `try_send` and `try_recv` are
the defaults of the trait, which report success after a `send` and turn a `recv`
without a datagram into closed.

What a leaf answers is an argument of the call that reaches it.  A leaf's `send`
is its `try_send` without the answer.
-/

/-- A leaf, with records of what it accepted and of how its receives failed. -/
structure Leaf where
  accepted : List Datagram
  failures : List SubstrateError

namespace Leaf

def trySend (leaf : Leaf) (datagram : Datagram) : SendResult -> Leaf
  | .ok _ => { leaf with accepted := leaf.accepted ++ [datagram] }
  | .error _ => leaf

def tryRecv (leaf : Leaf) : RecvResult -> Leaf
  | .ok _ => leaf
  | .error error => { leaf with failures := leaf.failures ++ [error] }

end Leaf

inductive Stack where
  | leaf (base : Leaf)
  /-- The counter records how many datagrams of the send pump the inner
  transport has kept. -/
  | substrate (boundary : Substrate) (kept : Nat) (inner : Stack)
  /-- A receive task runs for each transport until that transport has no more
  datagrams. -/
  | striped (count next : Nat) (merged : List Datagram) (running : Fin count -> Bool)
      (subs : Fin count -> Stack)

namespace Stack

/-! ## Construction -/

def newLeaf : Stack :=
  .leaf ⟨[], []⟩

def newSubstrate (kind : SubstrateKind) (oracle : OracleParams) (queueDepth : Nat)
    (inner : Stack) : Stack :=
  .substrate (Substrate.new kind oracle queueDepth) 0 inner

def newStriped {count : Nat} (subs : Fin count -> Stack) : Stack :=
  .striped count 0 [] (fun _ => true) subs

/-- The stack is as it was built. -/
inductive Fresh : Stack -> Prop where
  | leaf : Fresh newLeaf
  | substrate (kind : SubstrateKind) (oracle : OracleParams) (queueDepth : Nat) (inner : Stack)
      (fresh : Fresh inner) : Fresh (newSubstrate kind oracle queueDepth inner)
  | striped {count : Nat} (subs : Fin count -> Stack) (fresh : forall index, Fresh (subs index)) :
      Fresh (newStriped subs)

def isLeaf : Stack -> Bool
  | .leaf _ => true
  | _ => false

/-! ## The methods of the trait -/

/-- The lossy `send` of a boundary counts what it drops. -/
def sendBoundary (boundary : Substrate) (clock : Instant) (datagram : Datagram) : Substrate :=
  match boundary.trySend clock datagram with
  | (.ok _, queued) => queued
  | (.error _, refused) => refused.countDrop

def send (clock : Instant) (datagram : Datagram) (verdict : SendResult) : Stack -> Stack
  | .leaf base => .leaf (base.trySend datagram verdict)
  | .substrate boundary kept inner => .substrate (sendBoundary boundary clock datagram) kept inner
  | .striped count next merged running subs =>
      if positive : 0 < count then
        let index : Fin count := ⟨next % count, Nat.mod_lt next positive⟩
        .striped count ((next + 1) % 2 ^ 64) merged running
          (Function.update subs index ((subs index).send clock datagram verdict))
      else .striped count next merged running subs

def trySend (clock : Instant) (datagram : Datagram) (verdict : SendResult) (stack : Stack) :
    SendResult × Stack :=
  match stack with
  | .leaf base => (verdict, .leaf (base.trySend datagram verdict))
  | decorated => (.ok (), decorated.send clock datagram verdict)

/-- `recv`, which waits while the answer is `none`.  A leaf answers with what its
`try_recv` yields, or without a datagram and without a failure. -/
def recv (answer : Option RecvResult) : Stack -> Option (Option Datagram × Stack)
  | .leaf base =>
      match answer with
      | none => some (none, .leaf base)
      | some (.ok datagram) => some (some datagram, .leaf base)
      | some (.error error) => some (none, .leaf (base.tryRecv (.error error)))
  | .substrate boundary kept inner =>
      match boundary.recv with
      | none => none
      | some (.ok datagram, taken) => some (some datagram, .substrate taken kept inner)
      | some (.error _, taken) => some (none, .substrate taken kept inner)
  | .striped count next merged running subs =>
      match merged with
      | datagram :: rest => some (some datagram, .striped count next rest running subs)
      | [] =>
          if exists index, running index = true then none
          else some (none, .striped count next [] running subs)

/-- `ok_or(SubstrateError::Closed)`. -/
def okOrClosed : Option Datagram -> RecvResult
  | some datagram => .ok datagram
  | none => .error .closed

def tryRecv (answer : RecvResult) (stack : Stack) : Option (RecvResult × Stack) :=
  match stack with
  | .leaf base => some (answer, .leaf (base.tryRecv answer))
  | decorated =>
      match decorated.recv (some answer) with
      | none => none
      | some (datagram, after) => some (okOrClosed datagram, after)

/-! ## What became of a datagram -/

/-- How many copies of the datagram the layer that is called holds: in the queue
of a boundary, or accepted by a leaf. -/
def custody (datagram : Datagram) : Stack -> Nat
  | .leaf base => base.accepted.count datagram
  | .substrate boundary _ _ => (boundary.sendQueue.queue.map Prod.snd).count datagram
  | .striped _ _ _ _ subs => ∑ index, (subs index).custody datagram

/-- The error with which some leaf of the stack has failed a receive. -/
def FailedWith (error : SubstrateError) : Stack -> Prop
  | .leaf base => error ∈ base.failures
  | .substrate _ _ inner => inner.FailedWith error
  | .striped _ _ _ _ subs => exists index, (subs index).FailedWith error

/-! ## The tasks inside a stack -/

inductive Task where
  | sendPump
  | innerSend (verdict : SendResult)
  | recvPump
  | innerRecv (answer : RecvResult)
  | merge (index : Nat) (answer : Option RecvResult)

/-- The send pump calls the inner transport, and the copies that the inner
transport gains are recorded. -/
def innerSend (boundary : Substrate) (kept : Nat) (inner : Stack) (clock : Instant)
    (verdict : SendResult) : Option Stack :=
  match boundary.sendPump with
  | .offering datagram =>
      match inner.trySend clock datagram verdict with
      | (result, after) =>
          some (.substrate (boundary.answer result)
            (kept + (after.custody datagram - inner.custody datagram)) after)
  | _ => none

def innerRecv (boundary : Substrate) (kept : Nat) (inner : Stack) (answer : RecvResult) :
    Option Stack :=
  match boundary.recvPump with
  | .polling =>
      match inner.tryRecv answer with
      | none => none
      | some (result, after) => some (.substrate (boundary.fetch result) kept after)
  | _ => none

/-- The receive task of one of the striped transports. -/
def merge {count : Nat} (next : Nat) (merged : List Datagram) (running : Fin count -> Bool)
    (subs : Fin count -> Stack) (index : Fin count) (answer : Option RecvResult) :
    Option Stack :=
  if running index then
    match (subs index).recv answer with
    | none => none
    | some (some datagram, after) =>
        some (.striped count next (merged ++ [datagram]) running
          (Function.update subs index after))
    | some (none, after) =>
        some (.striped count next merged (Function.update running index false)
          (Function.update subs index after))
  else none

/-- A task of the outermost layer moves. -/
def perform (clock : Instant) : Stack -> Task -> Option Stack
  | .substrate boundary kept inner, .sendPump =>
      match boundary.pumpSend clock with
      | none => none
      | some moved => some (.substrate moved kept inner)
  | .substrate boundary kept inner, .innerSend verdict =>
      innerSend boundary kept inner clock verdict
  | .substrate boundary kept inner, .recvPump =>
      match boundary.pumpRecv with
      | none => none
      | some moved => some (.substrate moved kept inner)
  | .substrate boundary kept inner, .innerRecv answer => innerRecv boundary kept inner answer
  | .striped count next merged running subs, .merge index answer =>
      if bound : index < count then merge next merged running subs ⟨index, bound⟩ answer
      else none
  | _, _ => none

/-- A task moves in the layer that the path leads to. -/
def performAt (clock : Instant) (task : Task) : List Nat -> Stack -> Option Stack
  | [], stack => stack.perform clock task
  | _ :: path, .substrate boundary kept inner =>
      match performAt clock task path inner with
      | none => none
      | some moved => some (.substrate boundary kept moved)
  | index :: path, .striped count next merged running subs =>
      if bound : index < count then
        match performAt clock task path (subs ⟨index, bound⟩) with
        | none => none
        | some moved =>
            some (.striped count next merged running
              (Function.update subs ⟨index, bound⟩ moved))
      else none
  | _ :: _, .leaf _ => none

end Stack

/-! ## A stack in use -/

/-- A stack that is used through the trait, with the answers to its fallible
sends, each with whether a copy of the datagram was kept, and the answers to its
fallible receives. -/
structure Usage where
  stack : Stack
  clock : Instant
  sends : List (SendResult × Bool)
  results : List RecvResult

inductive Use where
  | elapse (duration : Duration)
  | trySend (datagram : Datagram) (verdict : SendResult)
  | tryRecv (answer : RecvResult)
  | inside (path : List Nat) (task : Stack.Task)

namespace Usage

def start (stack : Stack) : Usage :=
  ⟨stack, 0, [], []⟩

def trySend (usage : Usage) (datagram : Datagram) (verdict : SendResult) : Usage :=
  match usage.stack.trySend usage.clock datagram verdict with
  | (result, after) =>
      { usage with
        stack := after
        sends := usage.sends ++
          [(result, decide (after.custody datagram = usage.stack.custody datagram + 1))] }

def tryRecv (usage : Usage) (answer : RecvResult) : Option Usage :=
  match usage.stack.tryRecv answer with
  | none => none
  | some (result, after) =>
      some { usage with stack := after, results := usage.results ++ [result] }

def step (usage : Usage) : Use -> Option Usage
  | .elapse duration => some { usage with clock := usage.clock + duration }
  | .trySend datagram verdict => some (usage.trySend datagram verdict)
  | .tryRecv answer => usage.tryRecv answer
  | .inside path task =>
      match usage.stack.performAt usage.clock task path with
      | none => none
      | some moved => some { usage with stack := moved }

end Usage
end Boundary
end QuicMix
