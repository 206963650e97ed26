import QuicMix.Boundary.Passage
import QuicMix.Nym.ReplyLeg

namespace QuicMix
namespace Nym

open Foundations
open Boundary

/-!
# The client's bridge

`spawn_client_bridge` puts a UDP front before a Nym client: one task reads the
front, notes the sender and enqueues, the other one sends what comes back to the
address that is noted.  A `NymSubstrate` passes each datagram to `send_message`,
and yields every message that reaches its client, whoever has sent it.

The caller may drop the handle that it was given, as `nym_front` does; the boundary
then lives until both tasks have ended.
-/

structure ClientBridge where
  front : Leg
  /-- Learned address of the local client. -/
  peer : Option Address
  /-- The returned handle exists. -/
  handle : Bool
  /-- What was handed to the socket of the front.  Its errors are ignored. -/
  replies : List (Address × Datagram)
  /-- What was sent to the front. -/
  arrived : List (Address × Datagram)

inductive BridgeMove where
  | elapse (duration : Duration)
  | leg (move : LegMove)
  | recv
  | reply
  | dropHandle
  | release

/-- The answer of `try_recv` that a move consists in. -/
def BridgeMove.answer : BridgeMove -> Option RecvResult
  | .leg (.innerReceived result) => some result
  | _ => none

namespace ClientBridge

def spawnClientBridge (oracle : OracleParams) (queueDepth : Nat) : ClientBridge where
  front := Leg.start .datagram oracle queueDepth
  peer := none
  handle := true
  replies := []
  arrived := []

/-- quinn → Nym -/
def recv (bridge : ClientBridge) : Option ClientBridge :=
  match bridge.front.recvFrom with
  | none => none
  | some (sender, front) => some { bridge with front := front, peer := some sender }

/-- Nym → quinn -/
def reply (bridge : ClientBridge) : Option ClientBridge :=
  match bridge.front.sendTo with
  | none => none
  | some (datagram, front) =>
      some { bridge with
        front := front
        replies := bridge.replies ++
          bridge.peer.toList.map (fun address => (address, datagram)) }

/-- The last handle of the boundary is gone. -/
def release (bridge : ClientBridge) : Option ClientBridge :=
  if bridge.handle = false ∧ bridge.front.feeder = .ended ∧ bridge.front.drainer = .ended then
    (bridge.front.within .dropHandles).map (fun front => { bridge with front := front })
  else none

def step (bridge : ClientBridge) : BridgeMove -> Option ClientBridge
  | .elapse duration =>
      (bridge.front.within (.elapse duration)).map (fun front => { bridge with front := front })
  | .leg move =>
      (bridge.front.step move).map (fun front =>
        { bridge with front := front, arrived := bridge.arrived ++ move.incoming.toList })
  | .recv => bridge.recv
  | .reply => bridge.reply
  | .dropHandle => if bridge.handle then some { bridge with handle := false } else none
  | .release => bridge.release

/-- The messages whose `send_message` starts in a move. -/
def messages (bridge moved : ClientBridge) : List Datagram :=
  (moved.front.boundary.starts.drop bridge.front.boundary.starts.length).map Prod.snd

/-! ## What a bridge records -/

/-- Inner sends and answers are recorded at the end. -/
structure Grown (traffic next : Traffic) (answers : List RecvResult) : Prop where
  starts : exists later, next.starts = traffic.starts ++ later
  yielded : next.yielded = traffic.yielded ++ answers

theorem grown_of_moved {traffic next : Traffic} {action : Move}
    (moved : Traffic.Moved traffic action next) : Grown traffic next action.answer.toList where
  starts := starts_of_moved moved
  yielded := moved.yielded

theorem grown_of_same {traffic next : Traffic} (same : next = traffic) :
    Grown traffic next [] := by
  subst same
  exact ⟨⟨[], (List.append_nil _).symm⟩, (List.append_nil _).symm⟩

/-- What holds of a bridge in every run. -/
structure Bridged (depth : Nat) (bridge : ClientBridge) : Prop where
  /-- Datagrams that came back before the client was heard of are sent to nobody. -/
  passing : exists early, Passing depth (bridge.arrived.map Prod.snd)
    (early ++ bridge.replies.map Prod.snd) bridge.front
  unheard : bridge.peer = none -> bridge.replies = []
  addressed : Addressed bridge.peer bridge.front.socket bridge.replies bridge.arrived

theorem bridged_start (oracle : OracleParams) (queueDepth : Nat) :
    Bridged (max queueDepth 1) (spawnClientBridge oracle queueDepth) where
  passing := ⟨[], Passing.start .datagram oracle queueDepth⟩
  unheard := fun _ => rfl
  addressed := ⟨nofun, nofun, nofun⟩

variable {depth : Nat} {bridge next : ClientBridge}

/-- The boundary moves in the background. -/
theorem Bridged.within (bridged : Bridged depth bridge) {action : Move} {front : Leg}
    (quiet : action.background = true)
    (kept : action = .dropHandles -> bridge.front.feeder = .ended)
    (moved : bridge.front.within action = some front) :
    Bridged depth { bridge with front := front } := by
  rcases bridged.passing with ⟨early, passing⟩
  refine { bridged with passing := ⟨early, passing.within quiet kept moved⟩, addressed := ?_ }
  change Addressed bridge.peer front.socket bridge.replies bridge.arrived
  rw [(Leg.within_eq_some moved).1]
  exact bridged.addressed

theorem Bridged.leg (bridged : Bridged depth bridge) {move : LegMove} {front : Leg}
    (moved : bridge.front.step move = some front) :
    Bridged depth { bridge with
      front := front
      arrived := bridge.arrived ++ move.incoming.toList } := by
  rcases bridged.passing with ⟨early, passing⟩
  have passed := passing.step moved
  have socket := (Leg.parts_of_step moved).1
  rw [move.arrival_eq] at passed
  cases incoming : move.incoming with
  | none =>
      rw [incoming, Option.map_none, Option.toList_none, List.append_nil] at passed
      rw [incoming, Option.toList_none, List.append_nil] at socket
      rw [Option.toList_none, List.append_nil]
      refine { bridged with passing := ⟨early, passed⟩, addressed := ?_ }
      change Addressed bridge.peer front.socket bridge.replies bridge.arrived
      rw [socket]
      exact bridged.addressed
  | some entry =>
      rw [incoming, Option.map_some, Option.toList_some] at passed
      rw [incoming, Option.toList_some] at socket
      refine ⟨⟨early, ?_⟩, bridged.unheard, ?_⟩
      · rw [Option.toList_some, List.map_append]
        exact passed
      · change Addressed bridge.peer front.socket bridge.replies (bridge.arrived ++ [entry])
        rw [socket]
        exact bridged.addressed.arrive entry

theorem Bridged.recv (bridged : Bridged depth bridge) (moved : bridge.recv = some next) :
    Bridged depth next := by
  unfold ClientBridge.recv at moved
  split at moved
  · cases moved
  · rename_i sender front taken
    cases moved
    rcases bridged.passing with ⟨early, passing⟩
    rcases Leg.recvFrom_eq_some taken with ⟨datagram, held, _⟩
    have addressed := bridged.addressed
    rw [held] at addressed
    exact ⟨⟨early, passing.recvFrom taken⟩, nofun, addressed.recvFrom⟩

/-- A datagram that comes back goes to the client, or joins the early ones. -/
theorem Bridged.reply (bridged : Bridged depth bridge) (moved : bridge.reply = some next) :
    Bridged depth next := by
  unfold ClientBridge.reply at moved
  split at moved
  · cases moved
  · rename_i datagram front taken
    cases moved
    rcases bridged.passing with ⟨early, passing⟩
    have passed := passing.sendTo taken
    have addressed := bridged.addressed.sendTo datagram
    rw [← (Leg.sendTo_eq_some taken).1] at addressed
    cases known : bridge.peer with
    | none =>
        have silent := bridged.unheard known
        rw [silent, List.map_nil, List.append_nil] at passed
        rw [known] at addressed
        refine ⟨⟨early ++ [datagram], ?_⟩, ?_, addressed⟩
        · simpa only [silent, Option.toList_none, List.map_nil, List.append_nil] using passed
        · intro _
          simp only [silent, Option.toList_none, List.map_nil, List.append_nil]
    | some address =>
        rw [known] at addressed
        refine ⟨⟨early, ?_⟩, nofun, addressed⟩
        simpa only [Option.toList_some, List.map_cons, List.map_nil, List.map_append,
          List.append_assoc] using passed

theorem Bridged.step (bridged : Bridged depth bridge) {move : BridgeMove}
    (moved : bridge.step move = some next) : Bridged depth next := by
  cases move with
  | elapse duration =>
      unfold ClientBridge.step at moved
      rcases Option.map_eq_some_iff.mp moved with ⟨front, stepped, rfl⟩
      exact bridged.within rfl Move.noConfusion stepped
  | leg move =>
      rcases Option.map_eq_some_iff.mp moved with ⟨front, stepped, rfl⟩
      exact bridged.leg stepped
  | recv => exact bridged.recv moved
  | reply => exact bridged.reply moved
  | dropHandle =>
      rcases Option.ite_none_right_eq_some.mp moved with ⟨_, same⟩
      cases same
      exact { bridged with unheard := bridged.unheard }
  | release =>
      rcases Option.ite_none_right_eq_some.mp moved with ⟨⟨_, ended, _⟩, released⟩
      rcases Option.map_eq_some_iff.mp released with ⟨front, stepped, rfl⟩
      exact bridged.within rfl (fun _ => ended) stepped

/-- What a move of the bridge adds to the records of its boundary. -/
theorem grown_of_step {move : BridgeMove} (moved : bridge.step move = some next) :
    Grown bridge.front.boundary next.front.boundary move.answer.toList := by
  cases move with
  | elapse duration =>
      unfold ClientBridge.step at moved
      rcases Option.map_eq_some_iff.mp moved with ⟨front, stepped, rfl⟩
      exact grown_of_moved (Leg.within_eq_some stepped).2
  | leg move =>
      rcases Option.map_eq_some_iff.mp moved with ⟨front, stepped, rfl⟩
      rcases (Leg.parts_of_step stepped).2 with ⟨inner, same⟩ | ⟨action, inner, outcome⟩
      · have silent : (BridgeMove.leg move).answer = none := by
          cases move <;> first | rfl | cases inner
        rw [silent]
        exact grown_of_same same
      · have answer : (BridgeMove.leg move).answer = action.answer := by
          cases move <;> cases inner <;> rfl
        rw [answer]
        exact grown_of_moved outcome
  | recv =>
      change bridge.recv = some next at moved
      unfold ClientBridge.recv at moved
      split at moved
      · cases moved
      · rename_i sender front taken
        cases moved
        rcases Leg.recvFrom_eq_some taken with ⟨datagram, _, outcome⟩
        exact grown_of_moved outcome
  | reply =>
      change bridge.reply = some next at moved
      unfold ClientBridge.reply at moved
      split at moved
      · cases moved
      · rename_i datagram front taken
        cases moved
        exact grown_of_same (Leg.sendTo_eq_some taken).2
  | dropHandle =>
      rcases Option.ite_none_right_eq_some.mp moved with ⟨_, same⟩
      cases same
      exact grown_of_same rfl
  | release =>
      rcases Option.ite_none_right_eq_some.mp moved with ⟨_, released⟩
      rcases Option.map_eq_some_iff.mp released with ⟨front, stepped, rfl⟩
      exact grown_of_moved (Leg.within_eq_some stepped).2

/-- The messages of a move are what the pump has begun to send in it. -/
theorem starts_of_step {move : BridgeMove} (moved : bridge.step move = some next) :
    next.front.boundary.starts.map Prod.snd =
      bridge.front.boundary.starts.map Prod.snd ++ bridge.messages next := by
  rcases (grown_of_step moved).starts with ⟨later, grown⟩
  rw [messages, grown, List.drop_left, List.map_append]

/-- What was begun to be sent arrived at the front before, in this order. -/
theorem Bridged.starts_prefix_of (bridged : Bridged depth bridge) :
    bridge.front.boundary.starts.map Prod.snd <+: bridge.arrived.map Prod.snd := by
  rcases bridged.passing with ⟨early, passing⟩
  rw [passing.passage.placed, List.append_assoc, List.append_assoc, List.append_assoc]
  exact List.prefix_append _ _

/-- What was sent to the client are datagrams that the Nym client yielded. -/
theorem Bridged.replies_sublist (bridged : Bridged depth bridge) :
    (bridge.replies.map Prod.snd).Sublist (oks bridge.front.boundary.yielded) := by
  rcases bridged.passing with ⟨early, passing⟩
  rcases passing.passage.relayed with ⟨behind, answers, _⟩
  rw [answers, List.append_assoc]
  exact (List.sublist_append_left _ _).trans (List.sublist_append_right _ _)

end ClientBridge
end Nym
end QuicMix
