import QuicMix.Boundary.Teardown
import QuicMix.Tor.Delivery

namespace QuicMix
namespace Tor

open Foundations
open Boundary
open Framing

/-!
# A tunnel without faults

Let the stream stay open and the sockets accept what they are given.  Then the tasks
of the front keep running, the receive pump is given datagrams only, and the bridge
runs until an empty datagram reaches it.  Permits and the receive lock are where
their owners stand, so a task that could move is not held up by a permit that
nobody will use.
-/

/-! ## The permits of a boundary with one caller and one receiver -/

/-- The draining task holds the lock. -/
def holdsLock : InPump -> Bool
  | .locked => true
  | _ => false

/-- A leg whose tasks are running: the only permits are that of the call under way
and that of the receive pump, and the only receiver is the draining task. -/
structure Settled (leg : Leg) : Prop where
  held : leg.boundary.held = true
  feeding : leg.feeder ≠ .ended
  permits : leg.boundary.substrate.sendQueue.permits = [] ∨ exists call,
    leg.boundary.waiting = [call] ∧ leg.boundary.substrate.sendQueue.permits = [call.id]
  places : leg.boundary.substrate.recvQueue.permits =
    reservedPlaces leg.boundary.substrate.recvPump
  holder : leg.boundary.holder.isSome = holdsLock leg.drainer

/-- The places of the receive queue after a move. -/
theorem places_kept {traffic next : Traffic} {action : Move}
    (moved : Traffic.Moved traffic action next)
    (places : traffic.substrate.recvQueue.permits = reservedPlaces traffic.substrate.recvPump) :
    next.substrate.recvQueue.permits = reservedPlaces next.substrate.recvPump := by
  cases moved with
  | fetched result pump =>
      rw [pump] at places
      cases result with
      | ok datagram => exact places
      | error error => exact places
  | recvUnread item pump gone =>
      rw [pump] at places
      exact places
  | recvReserved item channel pump reserved =>
      rw [pump] at places
      change channel.permits = [()]
      rw [Channel.permits_of_reserve reserved, places]
      rfl
  | recvQueued datagram channel pump committed =>
      rw [pump] at places
      change channel.permits = []
      rw [Channel.permits_of_commit committed, places]
      rfl
  | recvFailed error channel pump committed =>
      rw [pump] at places
      change channel.permits = []
      rw [Channel.permits_of_commit committed, places]
      rfl
  | delivered id item channel holder taken =>
      change channel.permits = _
      rw [Channel.permits_of_recv taken]
      exact places
  | counted result pump =>
      cases result with
      | ok _ => exact places
      | error error => exact places
  | _ => exact places

/-- A background move that is not the end leaves the callers' permits, the handle
and the receiver alone. -/
theorem background_kept {traffic next : Traffic} {action : Move}
    (moved : Traffic.Moved traffic action next) (quiet : action.background = true)
    (other : action ≠ .dropHandles) :
    next.substrate.sendQueue.permits = traffic.substrate.sendQueue.permits ∧
      next.held = traffic.held ∧ next.holder = traffic.holder := by
  cases moved with
  | took enqueued datagram channel pump taken =>
      exact ⟨Channel.permits_of_recv taken, rfl, rfl⟩
  | counted result pump =>
      cases result with
      | ok _ => exact ⟨rfl, rfl, rfl⟩
      | error error => exact ⟨rfl, rfl, rfl⟩
  | fetched result pump =>
      cases result with
      | ok datagram => exact ⟨rfl, rfl, rfl⟩
      | error error => exact ⟨rfl, rfl, rfl⟩
  | dropped held quiet => exact absurd rfl other
  | elapsed duration => exact ⟨rfl, rfl, rfl⟩
  | sendExited pump ended => exact ⟨rfl, rfl, rfl⟩
  | gauged enqueued datagram pump => exact ⟨rfl, rfl, rfl⟩
  | offered datagram pump => exact ⟨rfl, rfl, rfl⟩
  | answered datagram result pump => exact ⟨rfl, rfl, rfl⟩
  | paced pump => exact ⟨rfl, rfl, rfl⟩
  | woken wakeAt pump reached => exact ⟨rfl, rfl, rfl⟩
  | recvUnread item pump gone => exact ⟨rfl, rfl, rfl⟩
  | recvReserved item channel pump reserved => exact ⟨rfl, rfl, rfl⟩
  | recvQueued datagram channel pump committed => exact ⟨rfl, rfl, rfl⟩
  | recvFailed error channel pump committed => exact ⟨rfl, rfl, rfl⟩
  | _ => cases quiet

namespace Settled

variable {leg next : Leg}

theorem within (settled : Settled leg) {move : Move} (quiet : move.background = true)
    (other : move ≠ .dropHandles) (moved : leg.within move = some next) : Settled next := by
  unfold Leg.within at moved
  split at moved
  · cases moved
  · rename_i boundary stepped
    cases moved
    have outcome := Traffic.moved_of_step stepped
    rcases background_kept outcome quiet other with ⟨permits, held, holder⟩
    rcases outcome.background quiet with ⟨_, waiting, _⟩
    refine ⟨held.trans settled.held, settled.feeding, ?_, places_kept outcome settled.places,
      (congrArg Option.isSome holder).trans settled.holder⟩
    change boundary.substrate.sendQueue.permits = [] ∨ exists call,
      boundary.waiting = [call] ∧ boundary.substrate.sendQueue.permits = [call.id]
    rw [permits, waiting]
    exact settled.permits

theorem recvFrom (settled : Settled leg)
    (free : leg.feeder = .receiving -> leg.boundary.waiting = [])
    {sender : Address} (moved : leg.recvFrom = some (sender, next)) : Settled next := by
  unfold Leg.recvFrom at moved
  split at moved
  · rename_i other datagram rest receiving held
    split at moved
    · cases moved
    · rename_i boundary stepped
      cases moved
      have outcome := Traffic.moved_of_step stepped
      have places := places_kept outcome settled.places
      have empty : leg.boundary.substrate.sendQueue.permits = [] := by
        rcases settled.permits with none | ⟨call, alone, _⟩
        · exact none
        · cases (free receiving).symm.trans alone
      cases outcome with
      | entered _ live => exact ⟨live, OutPump.noConfusion, .inl empty, places, settled.holder⟩
  · cases moved

/-- A call takes a permit only if it has none. -/
theorem reserve_guard {traffic next : Traffic} {index : Nat}
    (stepped : traffic.step (.reserve index) = some next) :
    exists call, traffic.waiting[index]? = some call ∧
      call.id ∉ traffic.substrate.sendQueue.permits := by
  simp only [Traffic.step] at stepped
  split at stepped
  · cases stepped
  · rename_i call located
    refine ⟨call, located, ?_⟩
    unfold Traffic.reserve at stepped
    split at stepped
    · cases stepped
    · rename_i guard
      intro member
      apply guard
      rw [List.contains_iff_mem.mpr member, Bool.or_true]

theorem reserve (settled : Settled leg) (alone : leg.boundary.waiting.length = leg.feeder.calls)
    (moved : leg.send (.reserve 0) .sending = some next) : Settled next := by
  unfold Leg.send at moved
  split at moved
  · rename_i sending
    split at moved
    · cases moved
    · rename_i boundary stepped
      cases moved
      rw [sending] at alone
      rcases List.length_eq_one_iff.mp alone with ⟨call, single⟩
      rcases reserve_guard stepped with ⟨other, located, fresh⟩
      rw [single] at located
      cases located
      have empty : leg.boundary.substrate.sendQueue.permits = [] := by
        rcases settled.permits with none | ⟨other, same, permits⟩
        · exact none
        · rw [single] at same
          cases same
          rw [permits] at fresh
          exact absurd List.mem_cons_self fresh
      have outcome := Traffic.moved_of_step stepped
      have places := places_kept outcome settled.places
      cases outcome with
      | reserved _ other channel located reserved =>
          rw [single] at located
          cases located
          refine ⟨settled.held, OutPump.noConfusion, .inr ⟨call, single, ?_⟩, places,
            settled.holder⟩
          change channel.permits = [call.id]
          rw [Channel.permits_of_reserve reserved, empty]
          rfl
  · cases moved

theorem commit (settled : Settled leg) (alone : leg.boundary.waiting.length = leg.feeder.calls)
    (moved : leg.send (.commit 0) .receiving = some next) : Settled next := by
  unfold Leg.send at moved
  split at moved
  · rename_i sending
    split at moved
    · cases moved
    · rename_i boundary stepped
      cases moved
      rw [sending] at alone
      rcases List.length_eq_one_iff.mp alone with ⟨call, single⟩
      have outcome := Traffic.moved_of_step stepped
      have places := places_kept outcome settled.places
      cases outcome with
      | committed _ other channel located committed =>
          rw [single] at located
          cases located
          refine ⟨settled.held, OutPump.noConfusion, .inl ?_, places, settled.holder⟩
          change channel.permits = []
          rw [Channel.permits_of_commit committed]
          rcases settled.permits with none | ⟨other, same, permits⟩
          · rw [none]
            rfl
          · rw [single] at same
            cases same
            rw [permits, List.erase_cons_head]
  · cases moved

theorem lock (settled : Settled leg) (moved : leg.lock = some next) : Settled next := by
  unfold Leg.lock at moved
  split at moved
  · split at moved
    · cases moved
    · rename_i boundary stepped
      cases moved
      cases Traffic.moved_of_step stepped with
      | locked held free =>
          exact ⟨held, settled.feeding, settled.permits, settled.places, rfl⟩
  · cases moved

theorem take (settled : Settled leg) (moved : leg.take = some next) : Settled next := by
  unfold Leg.take at moved
  split at moved
  · split at moved
    · cases moved
    · rename_i boundary stepped
      have outcome := Traffic.moved_of_step stepped
      have places := places_kept outcome settled.places
      have kept : boundary.held = leg.boundary.held ∧ boundary.waiting = leg.boundary.waiting ∧
          boundary.substrate.sendQueue = leg.boundary.substrate.sendQueue ∧
          boundary.holder = none := by
        cases outcome with
        | delivered id item channel holder taken => exact ⟨rfl, rfl, rfl, rfl⟩
        | deliveredClosed id holder ended => exact ⟨rfl, rfl, rfl, rfl⟩
      rcases kept with ⟨held, waiting, queue, free⟩
      have permits := settled.permits
      rw [← queue, ← waiting] at permits
      split at moved
      · cases moved
        exact ⟨held.trans settled.held, settled.feeding, permits, places,
          congrArg Option.isSome free⟩
      · cases moved
        exact ⟨held.trans settled.held, settled.feeding, permits, places,
          congrArg Option.isSome free⟩
  · cases moved

theorem sendTo (settled : Settled leg) {datagram : Datagram}
    (moved : leg.sendTo = some (datagram, next)) : Settled next := by
  unfold Leg.sendTo at moved
  split at moved
  · rename_i other replying
    cases moved
    have holder := settled.holder
    rw [replying] at holder
    exact { settled with holder := holder }
  · cases moved

end Settled

/-! ## A tunnel without faults -/

namespace TunnelMove

/-- The stream closes, or a socket fails. -/
def fault : TunnelMove -> Bool
  | .front .socketError => true
  | .closeUp _ => true
  | .closeDown _ => true
  | .bridgeSend false => true
  | .bridgeRecvFails => true
  | .frontReplyFails => true
  | _ => false

/-- The move is made by a task, without time passing, without new input and without
a fault. -/
def internal : TunnelMove -> Bool
  | .elapse _ => false
  | .arrive _ _ => false
  | .gatewaySend _ => false
  | move => !move.fault

end TunnelMove

/-- The send pump waits for `try_send`. -/
def offers : SendPump -> Bool
  | .offering _ => true
  | _ => false

/-- Only the move that passes a datagram on begins to wait for `try_send`. -/
theorem offers_of_sendPump {traffic next : Traffic}
    (moved : Traffic.Moved traffic .sendPump next) :
    (exists datagram, traffic.substrate.sendPump = .gauged datagram ∧
      offers next.substrate.sendPump = true) ∨
    (forall datagram, traffic.substrate.sendPump ≠ .gauged datagram) ∧
      offers traffic.substrate.sendPump = false ∧ offers next.substrate.sendPump = false := by
  cases moved with
  | offered datagram pump => exact .inl ⟨datagram, pump, rfl⟩
  | took enqueued datagram channel pump taken =>
      rw [pump]
      exact .inr ⟨(fun _ same => by cases same), rfl, rfl⟩
  | sendExited pump ended =>
      rw [pump]
      exact .inr ⟨(fun _ same => by cases same), rfl, rfl⟩
  | gauged enqueued datagram pump =>
      rw [pump]
      exact .inr ⟨(fun _ same => by cases same), rfl, rfl⟩
  | counted result pump =>
      rw [pump]
      cases result with
      | ok _ => exact .inr ⟨(fun _ same => by cases same), rfl, rfl⟩
      | error error => exact .inr ⟨(fun _ same => by cases same), rfl, rfl⟩
  | paced pump =>
      rw [pump]
      refine .inr ⟨(fun _ same => by cases same), rfl, ?_⟩
      simp only [Traffic.put, Substrate.pace]
      split <;> rfl
  | woken wakeAt pump reached =>
      rw [pump]
      exact .inr ⟨(fun _ same => by cases same), rfl, rfl⟩

theorem offers_of_innerSent {traffic next : Traffic} {result : SendResult}
    (moved : Traffic.Moved traffic (.innerSent result) next) :
    offers next.substrate.sendPump = false := by
  cases moved with
  | answered datagram result pump => rfl

namespace Tunnel

/-- A tunnel in which nothing has failed. -/
structure Healthy (tunnel : Tunnel) : Prop where
  settled : Settled tunnel.front
  upOpen : tunnel.up.closed = false
  downOpen : tunnel.down.closed = false
  bridged : tunnel.bridged = true ∨ tunnel.toUdp = .stopped
  offering : offers tunnel.front.boundary.substrate.sendPump = true <-> tunnel.up.writer ≠ .free
  answers : tunnel.front.boundary.yielded = tunnel.down.results
  unrefused : tunnel.replies = tunnel.handed

variable {depth : Nat} {tunnel next : Tunnel}

/-- The front moves without the send pump and without an answer. -/
theorem Healthy.fronted (healthy : Healthy tunnel) {front : Leg} (settled : Settled front)
    (pump : front.boundary.substrate.sendPump = tunnel.front.boundary.substrate.sendPump)
    (yielded : front.boundary.yielded = tunnel.front.boundary.yielded) :
    Healthy { tunnel with front := front } := by
  refine { healthy with settled := settled, offering := ?_, answers := ?_ }
  · change offers front.boundary.substrate.sendPump = true <-> _
    rw [pump]
    exact healthy.offering
  · exact yielded.trans healthy.answers

theorem Healthy.front (healthy : Healthy tunnel) (sound : Sound depth tunnel) {move : LegMove}
    (own : ofFront move = true) (fine : (TunnelMove.front move).fault = false) {front : Leg}
    (moved : tunnel.front.step move = some front) : Healthy { tunnel with front := front } := by
  have settled : Settled front := by
    cases move with
    | socketError => cases fine
    | recvPump =>
        exact @Settled.within _ _ healthy.settled .recvPump rfl Move.noConfusion moved
    | reserve => exact healthy.settled.reserve sound.passing.calling moved
    | commit => exact healthy.settled.commit sound.passing.calling moved
    | hangUp =>
        exact absurd rfl (sound.passing.send (.inr (.inr ⟨rfl, rfl⟩)) moved).2
    | lock => exact healthy.settled.lock moved
    | take => exact healthy.settled.take moved
    | _ => cases own
  rcases boundary_of_front own moved with ⟨_, same | ⟨action, outcome, task⟩⟩
  · exact healthy.fronted settled (by rw [same]) (by rw [same])
  · rcases tasks_apart task with ⟨apart, silent⟩
    exact healthy.fronted settled (sendPump_kept outcome apart).2 (answers_kept outcome silent).1

theorem Healthy.frontRecv (healthy : Healthy tunnel) (sound : Sound depth tunnel)
    (moved : tunnel.frontRecv = some next) : Healthy next := by
  unfold Tunnel.frontRecv at moved
  split at moved
  · cases moved
  · rename_i sender front taken
    cases moved
    have settled := healthy.settled.recvFrom (fun receiving => by
      have calling := sound.passing.calling
      rw [receiving] at calling
      exact List.length_eq_zero_iff.mp calling) taken
    unfold Leg.recvFrom at taken
    split at taken
    · split at taken
      · cases taken
      · rename_i boundary stepped
        cases taken
        have outcome := Traffic.moved_of_step stepped
        have kept := healthy.fronted settled (sendPump_kept outcome rfl).2
          (answers_kept outcome rfl).1
        exact { kept with settled := kept.settled }
    · cases taken

theorem Healthy.frontReply (healthy : Healthy tunnel)
    (moved : tunnel.frontReply true = some next) : Healthy next := by
  unfold Tunnel.frontReply at moved
  split at moved
  · cases moved
  · rename_i datagram front taken
    cases moved
    have settled := healthy.settled.sendTo taken
    unfold Leg.sendTo at taken
    split at taken
    · cases taken
      have kept := healthy.fronted settled rfl rfl
      exact { kept with
        settled := kept.settled
        unrefused := congrArg (· ++ tunnel.peer.toList.map _) healthy.unrefused }
    · cases taken

theorem Healthy.sendPump (healthy : Healthy tunnel) (sound : Sound depth tunnel)
    (moved : tunnel.sendPump = some next) : Healthy next := by
  unfold Tunnel.sendPump at moved
  split at moved
  · cases moved
  · rename_i front stepped
    have settled := healthy.settled.within rfl Move.noConfusion stepped
    rcases Leg.within_eq_some stepped with ⟨_, outcome⟩
    have answers := (answers_kept outcome rfl).1.trans healthy.answers
    rcases offers_of_sendPump outcome with
      ⟨datagram, pump, offering⟩ | ⟨other, before, after⟩
    · simp only [pump] at moved
      split at moved
      · cases moved
      · rename_i up begun
        cases moved
        rcases beginFrame_eq_some sound.upward.alone begun with ⟨_, rfl⟩
        exact { healthy with
          settled := settled
          offering := iff_of_true offering Writer.noConfusion
          answers := answers }
    · split at moved
      · rename_i datagram pump
        exact absurd pump (other datagram)
      · cases moved
        refine { healthy with settled := settled, offering := ?_, answers := answers }
        have unoffered := healthy.offering
        rw [before] at unoffered
        change offers front.boundary.substrate.sendPump = true <-> _
        rw [after]
        exact unoffered

/-- On an open stream `try_send` returns only when it has finished. -/
theorem Healthy.flushed (healthy : Healthy tunnel)
    (moved : tunnel.sent .flush (.ok ()) = some next) : Healthy next := by
  unfold Tunnel.sent at moved
  split at moved
  · rename_i up front written stepped
    cases moved
    have settled := healthy.settled.within rfl Move.noConfusion stepped
    rcases Leg.within_eq_some stepped with ⟨_, outcome⟩
    cases Pipe.moved_of_step written with
    | flushed flushing =>
        refine { healthy with settled := settled, offering := ?_, answers := ?_ }
        · change offers front.boundary.substrate.sendPump = true <-> _
          rw [offers_of_innerSent outcome]
          exact iff_of_false nofun (fun contrary => contrary rfl)
        · exact (answers_kept outcome rfl).1.trans healthy.answers
  · cases moved

theorem Healthy.failWrite (healthy : Healthy tunnel) {error : IoError} {result : SendResult}
    (moved : tunnel.sent (.failWrite error) result = some next) : False := by
  unfold Tunnel.sent at moved
  split at moved
  · rename_i up front written stepped
    cases Pipe.moved_of_step written with
    | failed _ closed => cases healthy.upOpen.symm.trans closed
  · cases moved

theorem Healthy.written (healthy : Healthy tunnel) {size : Nat} {up : Pipe}
    (moved : tunnel.up.step (.write size) = some up) : Healthy { tunnel with up := up } := by
  cases Pipe.moved_of_step moved with
  | written _ bytes after live wrote =>
      rcases Writer.write_effect wrote with ⟨_, _, before, later⟩
      have unfree : forall {writer : Writer}, writer.turn = 1 -> writer ≠ .free := by
        intro writer turn free
        rw [free] at turn
        cases turn
      refine { healthy with offering := ?_ }
      exact healthy.offering.trans (iff_of_true (unfree before) (unfree later))

theorem Healthy.clientRecv (healthy : Healthy tunnel) (moved : tunnel.clientRecv = some next) :
    Healthy next := by
  unfold Tunnel.clientRecv at moved
  split at moved
  · rename_i down _ entered
    cases moved
    cases Pipe.moved_of_step entered with
    | entered idle => exact { healthy with answers := healthy.answers }
  · cases moved

theorem Healthy.clientRead (healthy : Healthy tunnel) {size : Nat}
    (moved : tunnel.clientRead size = some next) : Healthy next := by
  unfold Tunnel.clientRead at moved
  split at moved
  · rename_i down polling read
    have grown : down.results = tunnel.down.results ++
        (tunnel.down.reader.read (tunnel.down.wire.take size)).2.toList ∧
        down.closed = tunnel.down.closed := by
      cases Pipe.moved_of_step read with
      | received _ some available wanted => exact ⟨rfl, rfl⟩
    split at moved
    · rename_i unfinished
      cases moved
      rw [unfinished, Option.toList_none, List.append_nil] at grown
      exact { healthy with
        downOpen := grown.2.trans healthy.downOpen
        answers := healthy.answers.trans grown.1.symm }
    · rename_i result finished
      split at moved
      · cases moved
      · rename_i front stepped
        cases moved
        have settled := healthy.settled.within rfl Move.noConfusion stepped
        rcases Leg.within_eq_some stepped with ⟨_, outcome⟩
        rw [finished, Option.toList_some] at grown
        refine { healthy with
          settled := settled
          downOpen := grown.2.trans healthy.downOpen
          offering := ?_
          answers := ?_ }
        · change offers front.boundary.substrate.sendPump = true <-> _
          rw [(sendPump_kept outcome rfl).2]
          exact healthy.offering
        · change front.boundary.yielded = down.results
          rw [(held_of_innerReceived outcome).1, healthy.answers, grown.1]
  · cases moved

theorem Healthy.clientReadFails (healthy : Healthy tunnel) {error : IoError}
    (moved : tunnel.clientReadFails error = some next) : False := by
  unfold Tunnel.clientReadFails at moved
  split at moved
  · rename_i guard
    cases healthy.downOpen.symm.trans guard.1
  · cases moved

theorem Healthy.bridgeRead (healthy : Healthy tunnel) {size : Nat}
    (moved : tunnel.bridgeRead size = some next) : Healthy next := by
  unfold Tunnel.bridgeRead at moved
  split at moved
  · rename_i guard
    split at moved
    · cases moved
      exact { healthy with bridged := .inr rfl }
    · cases moved
      exact { healthy with bridged := .inl guard.1 }
  · cases moved

theorem Healthy.bridgeSend (healthy : Healthy tunnel)
    (moved : tunnel.bridgeSend true = some next) : Healthy next := by
  unfold Tunnel.bridgeSend at moved
  split at moved
  · rename_i buffer bridged sending
    cases moved
    exact { healthy with bridged := .inl bridged }
  · cases moved

theorem Healthy.bridgeRecv (healthy : Healthy tunnel) (sound : Sound depth tunnel)
    (moved : tunnel.bridgeRecv = some next) : Healthy next := by
  unfold Tunnel.bridgeRecv at moved
  split at moved
  · split at moved
    · cases moved
    · rename_i down begun
      cases moved
      rcases beginFrame_eq_some sound.downward.alone begun with ⟨_, rfl⟩
      exact { healthy with answers := healthy.answers }
  · cases moved

/-- The loop from the listener writes; on an open stream it does not fail. -/
theorem Healthy.bridgeWrite (healthy : Healthy tunnel) {action : Action}
    (writes : (exists size, action = .write size) ∨ action = .flush ∨
      exists error, action = .failWrite error)
    (moved : tunnel.bridgeWrite action = some next) :
    Healthy next ∧ forall error, action ≠ .failWrite error := by
  unfold Tunnel.bridgeWrite at moved
  split at moved
  · rename_i down bridged written
    cases moved
    have outcome := Pipe.moved_of_step written
    rcases writes with ⟨size, rfl⟩ | rfl | ⟨error, rfl⟩
    · cases outcome with
      | written _ bytes after live wrote =>
          exact ⟨{ healthy with answers := healthy.answers }, nofun⟩
    · cases outcome with
      | flushed flushing => exact ⟨{ healthy with answers := healthy.answers }, nofun⟩
    · cases outcome with
      | failed _ closed => cases healthy.downOpen.symm.trans closed
  · cases moved

theorem Healthy.step (healthy : Healthy tunnel) (sound : Sound depth tunnel) {move : TunnelMove}
    (fine : move.fault = false) (moved : tunnel.step move = some next) : Healthy next := by
  cases move with
  | elapse duration =>
      simp only [Tunnel.step, Option.map_eq_some_iff] at moved
      rcases moved with ⟨front, stepped, rfl⟩
      rcases Leg.within_eq_some stepped with ⟨_, outcome⟩
      exact healthy.fronted (healthy.settled.within rfl Move.noConfusion stepped)
        (sendPump_kept outcome rfl).2 (answers_kept outcome rfl).1
  | arrive sender datagram =>
      rcases Option.ite_none_right_eq_some.mp moved with ⟨_, same⟩
      cases same
      have settled := healthy.settled
      exact { healthy with
        settled := ⟨settled.held, settled.feeding, settled.permits, settled.places,
          settled.holder⟩ }
  | front move =>
      rcases Option.ite_none_right_eq_some.mp moved with ⟨own, mapped⟩
      rcases Option.map_eq_some_iff.mp mapped with ⟨front, stepped, rfl⟩
      exact healthy.front sound own fine stepped
  | frontRecv => exact healthy.frontRecv sound moved
  | frontReply => exact healthy.frontReply moved
  | frontReplyFails => cases fine
  | sendPump => exact healthy.sendPump sound moved
  | clientWrite size =>
      rcases Option.map_eq_some_iff.mp moved with ⟨up, stepped, rfl⟩
      exact healthy.written stepped
  | clientFlush => exact healthy.flushed moved
  | clientWriteFails error => exact (healthy.failWrite moved).elim
  | clientRecv => exact healthy.clientRecv moved
  | clientRead size => exact healthy.clientRead moved
  | clientReadFails error => exact (healthy.clientReadFails moved).elim
  | closeUp arriving => cases fine
  | closeDown arriving => cases fine
  | bridgeRead size => exact healthy.bridgeRead moved
  | bridgeReadFails =>
      rcases Option.ite_none_right_eq_some.mp moved with ⟨⟨_, closed, _⟩, _⟩
      cases healthy.upOpen.symm.trans closed
  | bridgeSend accepted =>
      cases accepted with
      | false => cases fine
      | true => exact healthy.bridgeSend moved
  | gatewaySend datagram =>
      rcases Option.ite_none_right_eq_some.mp moved with ⟨_, same⟩
      cases same
      exact { healthy with answers := healthy.answers }
  | bridgeRecv => exact healthy.bridgeRecv sound moved
  | bridgeRecvFails => cases fine
  | bridgeWrite size => exact (healthy.bridgeWrite (.inl ⟨size, rfl⟩) moved).1
  | bridgeFlush => exact (healthy.bridgeWrite (.inr (.inl rfl)) moved).1
  | bridgeWriteFails error =>
      rcases Option.map_eq_some_iff.mp moved with ⟨later, stepped, _⟩
      exact absurd rfl ((healthy.bridgeWrite (.inr (.inr ⟨error, rfl⟩)) stepped).2 error)

theorem healthy_start (oracle : OracleParams) (queueDepth : Nat) :
    Healthy (start oracle queueDepth) where
  settled := ⟨rfl, OutPump.noConfusion, .inl rfl, rfl, rfl⟩
  upOpen := rfl
  downOpen := rfl
  bridged := .inl rfl
  offering := iff_of_false nofun (fun contrary => contrary rfl)
  answers := rfl
  unrefused := rfl

end Tunnel
end Tor
end QuicMix
