import QuicMix.Boundary.ReceiveSide
import QuicMix.Boundary.Relay
import QuicMix.Boundary.SendSide

namespace QuicMix
namespace Boundary

open Foundations

/-!
# Through a relay

A leg of a relay is a boundary between two tasks.  Here the contracts of the two
sides of a boundary are put together with the tasks.  Every datagram that a leg
takes from its socket is in one place: passed to the inner transport, in the hand
of the send pump, queued, in the hand of the feeding task, or still with the
socket; and these places, in this order, spell the datagrams in the order of their
arrival.  On the other side, what the draining task has sent on begins the answers
of the inner transport.

The feeding task holds a handle of the boundary while it runs, and so does not
find its queue closed: no datagram is ever refused, and the task ends only with
its socket.
-/

/-- The datagrams among the answers of an inner transport. -/
def oks (results : List RecvResult) : List Datagram :=
  results.filterMap Except.toOption

theorem oks_append (first second : List RecvResult) :
    oks (first ++ second) = oks first ++ oks second :=
  List.filterMap_append

theorem oks_map_ok (datagrams : List Datagram) : oks (datagrams.map .ok) = datagrams := by
  induction datagrams with
  | nil => rfl
  | cons datagram rest inductionHypothesis =>
      exact congrArg (datagram :: ·) inductionHypothesis

/-- How many calls of `send` the feeding task has under way. -/
def OutPump.calls : OutPump -> Nat
  | .sending => 1
  | _ => 0

/-- What a draining task has made of the results that it was given. -/
def InPump.Drained (sent : List Datagram) (results : List RecvResult) : InPump -> Prop
  | .replying datagram => results = (sent ++ [datagram]).map .ok
  | .ended => exists error, results = sent.map .ok ++ [.error error]
  | _ => results = sent.map .ok

/-- The move is one of the pumps, the clock, the inner transport or the end. -/
def Move.background : Move -> Bool
  | .elapse _ => true
  | .sendPump => true
  | .innerSent _ => true
  | .innerReceived _ => true
  | .recvPump => true
  | .dropHandles => true
  | _ => false

namespace Traffic

/-- Such a move leaves the records of the callers alone. -/
theorem Moved.background {traffic next : Traffic} {action : Move}
    (moved : Moved traffic action next) (quiet : action.background = true) :
    next.accepted = traffic.accepted ∧ next.waiting = traffic.waiting ∧
      next.failed = traffic.failed ∧ next.results = traffic.results := by
  cases moved with
  | elapsed duration => exact ⟨rfl, rfl, rfl, rfl⟩
  | took enqueued datagram channel pump taken => exact ⟨rfl, rfl, rfl, rfl⟩
  | sendExited pump ended => exact ⟨rfl, rfl, rfl, rfl⟩
  | gauged enqueued datagram pump => exact ⟨rfl, rfl, rfl, rfl⟩
  | offered datagram pump => exact ⟨rfl, rfl, rfl, rfl⟩
  | answered datagram result pump => exact ⟨rfl, rfl, rfl, rfl⟩
  | counted result pump => exact ⟨rfl, rfl, rfl, rfl⟩
  | paced pump => exact ⟨rfl, rfl, rfl, rfl⟩
  | woken wakeAt pump reached => exact ⟨rfl, rfl, rfl, rfl⟩
  | fetched result pump => exact ⟨rfl, rfl, rfl, rfl⟩
  | recvUnread item pump gone => exact ⟨rfl, rfl, rfl, rfl⟩
  | recvReserved item channel pump reserved => exact ⟨rfl, rfl, rfl, rfl⟩
  | recvQueued datagram channel pump committed => exact ⟨rfl, rfl, rfl, rfl⟩
  | recvFailed error channel pump committed => exact ⟨rfl, rfl, rfl, rfl⟩
  | dropped held quiet => exact ⟨rfl, rfl, rfl, rfl⟩
  | _ => cases quiet

/-- The queue of the send pump loses its ends only after the last handle. -/
structure Open (traffic : Traffic) : Prop where
  senders : traffic.substrate.sendQueue.sendersGone = true -> traffic.held = false
  receiver : traffic.substrate.sendQueue.receiverGone = true ->
    traffic.substrate.sendQueue.sendersGone = true
  pump : traffic.substrate.sendPump = .exited ->
    traffic.substrate.sendQueue.sendersGone = true

theorem Open.attended {traffic : Traffic} (opened : Open traffic) (held : traffic.held = true) :
    traffic.substrate.sendQueue.receiverGone = false := by
  cases gone : traffic.substrate.sendQueue.receiverGone with
  | false => rfl
  | true => cases held.symm.trans (opened.senders (opened.receiver gone))

theorem Open.pumping {traffic : Traffic} (opened : Open traffic) (held : traffic.held = true) :
    traffic.substrate.sendPump ≠ .exited := by
  intro exited
  cases held.symm.trans (opened.senders (opened.pump exited))

/-- A queue whose ends are as before. -/
theorem Open.congr {traffic next : Traffic} (opened : Open traffic)
    (receiver : next.substrate.sendQueue.receiverGone = traffic.substrate.sendQueue.receiverGone)
    (senders : next.substrate.sendQueue.sendersGone = traffic.substrate.sendQueue.sendersGone)
    (pump : next.substrate.sendPump = .exited -> traffic.substrate.sendPump = .exited)
    (held : next.held = traffic.held) : Open next := by
  refine ⟨?_, ?_, ?_⟩
  · rw [senders, held]
    exact opened.senders
  · rw [receiver, senders]
    exact opened.receiver
  · rw [senders]
    exact fun exited => opened.pump (pump exited)

theorem Open.step {traffic next : Traffic} {action : Move} (opened : Open traffic)
    (moved : Moved traffic action next) : Open next := by
  cases moved with
  | tryAccepted datagram channel held sent =>
      rcases Channel.trySend_eq_sent sent with ⟨_, _, receiver, senders⟩
      exact opened.congr receiver senders id rfl
  | lossyAccepted datagram channel held sent =>
      rcases Channel.trySend_eq_sent sent with ⟨_, _, receiver, senders⟩
      exact opened.congr receiver senders id rfl
  | reserved index call channel located reserved =>
      rcases Channel.reserve_eq_some reserved with ⟨_, _, receiver, senders⟩
      exact opened.congr receiver senders id rfl
  | committed index call channel located committed =>
      rcases Channel.commit_eq_some committed with ⟨_, _, receiver, senders⟩
      exact opened.congr receiver senders id rfl
  | took enqueued datagram channel pump taken =>
      rcases Channel.recv_eq_message taken with ⟨_, _, receiver, senders⟩
      exact opened.congr receiver senders (fun exited => by cases exited) rfl
  | sendExited pump ended =>
      rcases Channel.recv_eq_ended ended with ⟨_, gone⟩
      exact ⟨opened.senders, fun _ => gone, fun _ => gone⟩
  | gauged enqueued datagram pump => exact opened.congr rfl rfl (fun exited => by cases exited) rfl
  | offered datagram pump => exact opened.congr rfl rfl (fun exited => by cases exited) rfl
  | answered datagram result pump => exact opened.congr rfl rfl (fun exited => by cases exited) rfl
  | counted result pump =>
      cases result with
      | ok _ => exact opened.congr rfl rfl (fun exited => by cases exited) rfl
      | error error => exact opened.congr rfl rfl (fun exited => by cases exited) rfl
  | paced pump =>
      refine opened.congr rfl rfl ?_ rfl
      simp only [put, Substrate.pace]
      split
      · intro exited
        cases exited
      · intro exited
        cases exited
  | woken wakeAt pump reached => exact opened.congr rfl rfl (fun exited => by cases exited) rfl
  | fetched result pump =>
      cases result with
      | ok datagram => exact opened.congr rfl rfl id rfl
      | error error => exact opened.congr rfl rfl id rfl
  | dropped held quiet => exact ⟨fun _ => rfl, fun _ => rfl, fun _ => rfl⟩
  | _ => exact opened.congr rfl rfl id rfl

end Traffic

/-! ## One leg -/

/-- A leg whose socket was sent the datagrams `arrived` and whose draining task
has sent on the datagrams `sent`. -/
structure Passing (depth : Nat) (arrived sent : List Datagram) (leg : Leg) : Prop where
  flowing : Traffic.Flowing depth leg.boundary
  relaying : Traffic.Relaying depth leg.boundary
  opened : Traffic.Open leg.boundary
  fed : arrived = leg.boundary.accepted.map Call.datagram ++
    leg.boundary.waiting.map Call.datagram ++ leg.socket.map Prod.snd
  calling : leg.boundary.waiting.length = leg.feeder.calls
  owned : leg.feeder ≠ .ended -> leg.boundary.held = true
  unrefused : leg.boundary.failed = []
  drained : leg.drainer.Drained sent (leg.boundary.results.map Prod.snd)

/-- The datagram that a move brings to the socket of the leg. -/
def LegMove.arrival : LegMove -> Option Datagram
  | .arrive _ datagram => some datagram
  | _ => none

/-- The same with its sender. -/
def LegMove.incoming : LegMove -> Option (Address × Datagram)
  | .arrive sender datagram => some (sender, datagram)
  | _ => none

theorem LegMove.arrival_eq (move : LegMove) : move.arrival = move.incoming.map Prod.snd := by
  cases move <;> rfl

/-- What a move of the leg is to the boundary. -/
def LegMove.inner : LegMove -> Option Move
  | .arrive _ _ => none
  | .socketError => none
  | .innerReceived result => some (.innerReceived result)
  | .innerSent result => some (.innerSent result)
  | .sendPump => some .sendPump
  | .recvPump => some .recvPump
  | .reserve => some (.reserve 0)
  | .commit => some (.commit 0)
  | .hangUp => some (.hangUp 0)
  | .lock => some .lockRecv
  | .take => some .takeRecv

namespace Leg

variable {leg next : Leg}

theorem within_eq_some {move : Move} (moved : leg.within move = some next) :
    next.socket = leg.socket ∧ Traffic.Moved leg.boundary move next.boundary := by
  unfold within at moved
  split at moved
  · cases moved
  · rename_i boundary stepped
    cases moved
    exact ⟨rfl, Traffic.moved_of_step stepped⟩

theorem send_eq_some {move : Move} {after : OutPump} (moved : leg.send move after = some next) :
    next.socket = leg.socket ∧ Traffic.Moved leg.boundary move next.boundary := by
  unfold send at moved
  split at moved
  · split at moved
    · cases moved
    · rename_i boundary stepped
      cases moved
      exact ⟨rfl, Traffic.moved_of_step stepped⟩
  · cases moved

theorem lock_eq_some (moved : leg.lock = some next) :
    next.socket = leg.socket ∧ Traffic.Moved leg.boundary .lockRecv next.boundary := by
  unfold lock at moved
  split at moved
  · split at moved
    · cases moved
    · rename_i boundary stepped
      cases moved
      exact ⟨rfl, Traffic.moved_of_step stepped⟩
  · cases moved

theorem take_eq_some (moved : leg.take = some next) :
    next.socket = leg.socket ∧ Traffic.Moved leg.boundary .takeRecv next.boundary := by
  unfold take at moved
  split at moved
  · split at moved
    · cases moved
    · rename_i boundary stepped
      have outcome := Traffic.moved_of_step stepped
      split at moved
      · cases moved
        exact ⟨rfl, outcome⟩
      · cases moved
        exact ⟨rfl, outcome⟩
  · cases moved

theorem recvFrom_eq_some {sender : Address} (moved : leg.recvFrom = some (sender, next)) :
    exists datagram, leg.socket = (sender, datagram) :: next.socket ∧
      Traffic.Moved leg.boundary (.send datagram) next.boundary := by
  unfold recvFrom at moved
  split at moved
  · rename_i other datagram rest _ held
    split at moved
    · cases moved
    · rename_i boundary stepped
      cases moved
      exact ⟨datagram, held, Traffic.moved_of_step stepped⟩
  · cases moved

theorem sendTo_eq_some {datagram : Datagram} (moved : leg.sendTo = some (datagram, next)) :
    next.socket = leg.socket ∧ next.boundary = leg.boundary := by
  unfold sendTo at moved
  split at moved
  · cases moved
    exact ⟨rfl, rfl⟩
  · cases moved

/-- A leg that moves by itself makes at most one move of its boundary. -/
theorem parts_of_step {move : LegMove} (moved : leg.step move = some next) :
    next.socket = leg.socket ++ move.incoming.toList ∧
      (move.inner = none ∧ next.boundary = leg.boundary ∨
        exists action, move.inner = some action ∧
          Traffic.Moved leg.boundary action next.boundary) := by
  have inside : forall {action : Move}, move.inner = some action -> move.incoming = none ->
      next.socket = leg.socket ∧ Traffic.Moved leg.boundary action next.boundary ->
      next.socket = leg.socket ++ move.incoming.toList ∧
        (move.inner = none ∧ next.boundary = leg.boundary ∨
          exists action, move.inner = some action ∧
            Traffic.Moved leg.boundary action next.boundary) := by
    intro action inner silent parts
    rw [silent, Option.toList_none, List.append_nil]
    exact ⟨parts.1, .inr ⟨action, inner, parts.2⟩⟩
  cases move with
  | arrive sender datagram =>
      cases moved
      exact ⟨rfl, .inl ⟨rfl, rfl⟩⟩
  | socketError =>
      simp only [step] at moved
      split at moved
      · cases moved
        exact ⟨(List.append_nil _).symm, .inl ⟨rfl, rfl⟩⟩
      · cases moved
  | reserve => exact inside rfl rfl (send_eq_some moved)
  | commit => exact inside rfl rfl (send_eq_some moved)
  | hangUp => exact inside rfl rfl (send_eq_some moved)
  | lock => exact inside rfl rfl (lock_eq_some moved)
  | take => exact inside rfl rfl (take_eq_some moved)
  | _ => exact inside rfl rfl (within_eq_some moved)

end Leg

namespace Passing

variable {depth : Nat} {arrived sent : List Datagram} {leg next : Leg}

theorem start (kind : SubstrateKind) (oracle : OracleParams) (queueDepth : Nat) :
    Passing (max queueDepth 1) [] [] (Leg.start kind oracle queueDepth) where
  flowing := ⟨rfl, rfl, rfl, Nat.zero_le _⟩
  relaying := ⟨.relaying [] RecvPump.noConfusion rfl rfl rfl, rfl, rfl, nofun, nofun,
    List.Sublist.refl _, rfl⟩
  opened := ⟨nofun, nofun, nofun⟩
  fed := rfl
  calling := rfl
  owned := fun _ => rfl
  unrefused := rfl
  drained := rfl

theorem arrive (passing : Passing depth arrived sent leg) (sender : Address)
    (datagram : Datagram) :
    Passing depth (arrived ++ [datagram]) sent
      { leg with socket := leg.socket ++ [(sender, datagram)] } := by
  refine { passing with fed := ?_ }
  rw [passing.fed]
  simp only [List.map_append, List.map_cons, List.map_nil, List.append_assoc]

/-- The invariants of the boundary after one of its moves. -/
theorem moved (passing : Passing depth arrived sent leg) {move : Move} {boundary : Traffic}
    (moved : leg.boundary.step move = some boundary) :
    Traffic.Flowing depth boundary ∧ Traffic.Relaying depth boundary ∧ Traffic.Open boundary := by
  have outcome := Traffic.moved_of_step moved
  exact ⟨passing.flowing.step outcome, passing.relaying.step outcome, passing.opened.step outcome⟩

/-- The boundary makes a background move.  It does not end while the feeding task
runs. -/
theorem within (passing : Passing depth arrived sent leg) {move : Move}
    (quiet : move.background = true) (kept : move = .dropHandles -> leg.feeder = .ended)
    (moved : leg.within move = some next) : Passing depth arrived sent next := by
  unfold Leg.within at moved
  split at moved
  · cases moved
  · rename_i boundary stepped
    cases moved
    rcases passing.moved stepped with ⟨flowing, relaying, opened⟩
    have outcome := Traffic.moved_of_step stepped
    rcases outcome.background quiet with ⟨accepted, waiting, failed, results⟩
    refine ⟨flowing, relaying, opened, ?_, ?_, ?_, failed.trans passing.unrefused, ?_⟩
    · change arrived = boundary.accepted.map _ ++ boundary.waiting.map _ ++ _
      rw [accepted, waiting]
      exact passing.fed
    · exact (congrArg List.length waiting).trans passing.calling
    · intro running
      have held := passing.owned running
      cases outcome with
      | dropped held quiet => exact absurd (kept rfl) running
      | _ => exact held
    · change leg.drainer.Drained sent (boundary.results.map Prod.snd)
      rw [results]
      exact passing.drained

/-- The feeding task takes the oldest datagram off its socket. -/
theorem recvFrom (passing : Passing depth arrived sent leg) {sender : Address}
    (moved : leg.recvFrom = some (sender, next)) : Passing depth arrived sent next := by
  unfold Leg.recvFrom at moved
  split at moved
  · rename_i other datagram rest receiving held
    split at moved
    · cases moved
    · rename_i boundary stepped
      cases moved
      rcases passing.moved stepped with ⟨flowing, relaying, opened⟩
      have fed := passing.fed
      have calling := passing.calling
      rw [held] at fed
      rw [receiving] at calling
      have free : leg.boundary.waiting = [] := List.length_eq_zero_iff.mp calling
      cases Traffic.moved_of_step stepped with
      | entered _ live =>
          refine ⟨flowing, relaying, opened, ?_, ?_, fun _ => live, passing.unrefused,
            passing.drained⟩
          · rw [fed, free]
            simp only [Traffic.enter, free, List.nil_append, List.map_cons, List.map_nil,
              List.append_nil, List.append_assoc, List.singleton_append]
          · simp only [Traffic.enter, free, List.nil_append, List.length_singleton]
            rfl
  · cases moved

/-- The feeding task waits for a permit or uses it; it is not turned away. -/
theorem send (passing : Passing depth arrived sent leg) {move : Move} {after : OutPump}
    (allowed : move = .reserve 0 ∧ after = .sending ∨ move = .commit 0 ∧ after = .receiving ∨
      move = .hangUp 0 ∧ after = .ended)
    (moved : leg.send move after = some next) :
    Passing depth arrived sent next ∧ move ≠ .hangUp 0 := by
  unfold Leg.send at moved
  split at moved
  · rename_i sending
    split at moved
    · cases moved
    · rename_i boundary stepped
      cases moved
      rcases passing.moved stepped with ⟨flowing, relaying, opened⟩
      have running : leg.feeder ≠ .ended := by
        rw [sending]
        exact OutPump.noConfusion
      have held := passing.owned running
      have calling := passing.calling
      rw [sending] at calling
      rcases List.length_eq_one_iff.mp calling with ⟨call, alone⟩
      have fed := passing.fed
      rw [alone] at fed
      rcases allowed with ⟨rfl, rfl⟩ | ⟨rfl, rfl⟩ | ⟨rfl, rfl⟩
      · cases Traffic.moved_of_step stepped with
        | reserved _ other channel located reserved =>
            refine ⟨⟨flowing, relaying, opened, passing.fed, calling, fun _ => held,
              passing.unrefused, passing.drained⟩, Move.noConfusion⟩
      · cases Traffic.moved_of_step stepped with
        | committed _ other channel located committed =>
            rw [alone] at located
            cases located
            refine ⟨⟨flowing, relaying, opened, ?_, ?_, fun _ => held, passing.unrefused,
              passing.drained⟩, Move.noConfusion⟩
            · rw [fed, alone]
              simp only [List.eraseIdx_cons_zero, List.map_append, List.map_cons, List.map_nil,
                List.append_assoc, List.append_nil]
            · change (leg.boundary.waiting.eraseIdx 0).length = 0
              rw [alone]
              rfl
      · cases Traffic.moved_of_step stepped with
        | hungUp _ other located gone => cases (passing.opened.attended held).symm.trans gone
  · cases moved

theorem socketError (passing : Passing depth arrived sent leg)
    (receiving : leg.feeder = .receiving) :
    Passing depth arrived sent { leg with feeder := .ended } := by
  have calling := passing.calling
  rw [receiving] at calling
  exact { passing with
    calling := calling
    owned := fun running => absurd rfl running }

/-- The draining task asks for the next result. -/
theorem lock (passing : Passing depth arrived sent leg) (moved : leg.lock = some next) :
    Passing depth arrived sent next := by
  unfold Leg.lock at moved
  split at moved
  · rename_i waiting
    split at moved
    · cases moved
    · rename_i boundary stepped
      cases moved
      rcases passing.moved stepped with ⟨flowing, relaying, opened⟩
      have drained := passing.drained
      rw [waiting] at drained
      cases Traffic.moved_of_step stepped with
      | locked held free =>
          exact ⟨flowing, relaying, opened, passing.fed, passing.calling, fun _ => held,
            passing.unrefused, drained⟩
  · cases moved

/-- The draining task is given a result. -/
theorem take (passing : Passing depth arrived sent leg) (moved : leg.take = some next) :
    Passing depth arrived sent next := by
  unfold Leg.take at moved
  split at moved
  · rename_i locked
    split at moved
    · cases moved
    · rename_i boundary stepped
      rcases passing.moved stepped with ⟨flowing, relaying, opened⟩
      have drained := passing.drained
      rw [locked] at drained
      -- both outcomes append one result, and the drainer keeps it or ends with it
      have given : exists id result, boundary.results = leg.boundary.results ++ [(id, result)] ∧
          boundary.accepted = leg.boundary.accepted ∧
          boundary.waiting = leg.boundary.waiting ∧ boundary.held = leg.boundary.held ∧
          boundary.failed = leg.boundary.failed := by
        cases Traffic.moved_of_step stepped with
        | delivered id item channel holder taken => exact ⟨id, item, rfl, rfl, rfl, rfl, rfl⟩
        | deliveredClosed id holder ended => exact ⟨id, _, rfl, rfl, rfl, rfl, rfl⟩
      rcases given with ⟨id, result, results, accepted, waiting, held, failed⟩
      have spelled : boundary.results.map Prod.snd = sent.map .ok ++ [result] := by
        rw [results, List.map_append, drained]
        rfl
      have passed : forall drainer : InPump,
          drainer.Drained sent (boundary.results.map Prod.snd) ->
          Passing depth arrived sent { leg with boundary := boundary, drainer := drainer } := by
        intro drainer known
        refine ⟨flowing, relaying, opened, ?_, ?_, ?_, failed.trans passing.unrefused, known⟩
        · rw [accepted, waiting]
          exact passing.fed
        · exact (congrArg List.length waiting).trans passing.calling
        · intro running
          exact held.trans (passing.owned running)
      rw [results, List.getLast?_concat] at moved
      cases result with
      | ok datagram =>
          cases moved
          apply passed
          change boundary.results.map Prod.snd = (sent ++ [datagram]).map .ok
          rw [spelled, List.map_append]
          rfl
      | error error =>
          cases moved
          apply passed
          exact ⟨error, spelled⟩
  · cases moved

/-- The draining task sends the datagram on. -/
theorem sendTo (passing : Passing depth arrived sent leg) {datagram : Datagram}
    (moved : leg.sendTo = some (datagram, next)) :
    Passing depth arrived (sent ++ [datagram]) next := by
  unfold Leg.sendTo at moved
  split at moved
  · rename_i other replying
    cases moved
    have drained := passing.drained
    rw [replying] at drained
    exact { passing with drained := drained }
  · cases moved

/-- A move of a leg by itself. -/
theorem step (passing : Passing depth arrived sent leg) {move : LegMove}
    (moved : leg.step move = some next) :
    Passing depth (arrived ++ move.arrival.toList) sent next := by
  cases move with
  | arrive sender datagram =>
      cases moved
      exact passing.arrive sender datagram
  | socketError =>
      refine (List.append_nil arrived).symm ▸ ?_
      simp only [Leg.step] at moved
      split at moved
      · rename_i receiving
        cases moved
        exact passing.socketError receiving
      · cases moved
  | innerReceived result =>
      exact (List.append_nil arrived).symm ▸
        @within _ _ _ _ _ passing (.innerReceived result) rfl Move.noConfusion moved
  | innerSent result =>
      exact (List.append_nil arrived).symm ▸
        @within _ _ _ _ _ passing (.innerSent result) rfl Move.noConfusion moved
  | sendPump =>
      exact (List.append_nil arrived).symm ▸
        @within _ _ _ _ _ passing .sendPump rfl Move.noConfusion moved
  | recvPump =>
      exact (List.append_nil arrived).symm ▸
        @within _ _ _ _ _ passing .recvPump rfl Move.noConfusion moved
  | reserve => exact (List.append_nil arrived).symm ▸ (passing.send (.inl ⟨rfl, rfl⟩) moved).1
  | commit =>
      exact (List.append_nil arrived).symm ▸ (passing.send (.inr (.inl ⟨rfl, rfl⟩)) moved).1
  | hangUp =>
      exact (List.append_nil arrived).symm ▸ (passing.send (.inr (.inr ⟨rfl, rfl⟩)) moved).1
  | lock => exact (List.append_nil arrived).symm ▸ passing.lock moved
  | take => exact (List.append_nil arrived).symm ▸ passing.take moved

end Passing

/-! ## What a leg promises -/

/-- A draining task has sent on the datagrams that it was given, except perhaps
one. -/
theorem InPump.Drained.oks {sent : List Datagram} {results : List RecvResult} {drainer : InPump}
    (drained : drainer.Drained sent results) :
    exists kept, oks results = sent ++ kept ∧ kept.length <= 1 := by
  cases drainer with
  | waiting =>
      have same : results = sent.map .ok := drained
      exact ⟨[], by rw [same, oks_map_ok, List.append_nil], Nat.zero_le _⟩
  | locked =>
      have same : results = sent.map .ok := drained
      exact ⟨[], by rw [same, oks_map_ok, List.append_nil], Nat.zero_le _⟩
  | replying datagram =>
      have same : results = (sent ++ [datagram]).map .ok := drained
      exact ⟨[datagram], by rw [same, oks_map_ok], Nat.le_refl _⟩
  | ended =>
      rcases drained with ⟨error, same⟩
      refine ⟨[], ?_, Nat.zero_le _⟩
      rw [same, oks_append, oks_map_ok]
      rfl

/-- The datagrams of the inner transport were handed over, except perhaps one. -/
theorem Traffic.Stage.oks {traffic : Traffic} (stage : Traffic.Stage traffic) :
    exists kept, oks traffic.yielded = oks traffic.handedOver ++ kept ∧ kept.length <= 1 := by
  cases stage with
  | relaying datagrams running live passed answers =>
      refine ⟨Boundary.oks traffic.substrate.recvPump.hand, ?_, ?_⟩
      · rw [answers, passed, oks_append]
      · exact Nat.le_trans (List.length_filterMap_le _ _)
          traffic.substrate.recvPump.hand_length_le_one
  | failed datagrams error closings exited passed answers drained =>
      refine ⟨[], ?_, Nat.zero_le _⟩
      have closed :
          Boundary.oks (.error error :: List.replicate closings (.error .closed)) = [] := by
        apply List.filterMap_eq_nil_iff.mpr
        intro result member
        rcases List.mem_cons.mp member with same | later
        · rw [same]
          rfl
        · rw [List.eq_of_mem_replicate later]
          rfl
      rw [answers, passed, oks_append, oks_append, closed]
      simp only [Boundary.oks, List.filterMap_cons, Except.toOption, List.filterMap_nil,
        List.append_nil]
  | unread datagrams item exited unheld passed answers =>
      refine ⟨Boundary.oks [item], ?_, List.length_filterMap_le _ _⟩
      rw [answers, passed, oks_append]

/-- What holds of a leg whose socket was sent the datagrams `arrived` and whose
draining task has sent on the datagrams `sent`. -/
structure Passage (depth : Nat) (arrived sent : List Datagram) (leg : Leg) : Prop where
  /-- Every datagram that arrived is in one place, and the places keep the order. -/
  placed : arrived = leg.boundary.starts.map Prod.snd ++ leg.boundary.substrate.sendPump.hand ++
    leg.boundary.substrate.sendQueue.queue.map Prod.snd ++
    leg.boundary.waiting.map Call.datagram ++ leg.socket.map Prod.snd
  /-- What was passed to the inner transport is counted, as sent or as failed. -/
  accounted : leg.boundary.starts.length = leg.boundary.substrate.metrics.sent +
    leg.boundary.substrate.metrics.sendErrors + leg.boundary.substrate.sendPump.uncounted
  /-- What was taken off the socket and not passed on is bounded. -/
  bounded : leg.boundary.substrate.sendPump.hand.length +
    leg.boundary.substrate.sendQueue.queue.length + leg.boundary.waiting.length <= depth + 2
  /-- No call of the feeding task is turned away. -/
  unrefused : leg.boundary.failed = []
  /-- The answers of the inner transport are sent on in order, but for the last
  ones. -/
  relayed : exists behind, oks leg.boundary.yielded = sent ++ behind ∧
    behind.length <= depth + 2

theorem SendPump.hand_length_le_one (pump : SendPump) : pump.hand.length <= 1 :=
  Nat.le_trans (Nat.le_add_right _ _) pump.inHand_le_one

theorem Passing.passage {depth : Nat} {arrived sent : List Datagram} {leg : Leg}
    (passing : Passing depth arrived sent leg) : Passage depth arrived sent leg where
  placed := by
    rw [passing.fed, passing.flowing.order]
  accounted := passing.flowing.counted
  bounded := by
    have pump := leg.boundary.substrate.sendPump.hand_length_le_one
    have queue := leg.boundary.substrate.sendQueue.queue_length_le
    rw [passing.flowing.capacity] at queue
    have calls : leg.feeder.calls <= 1 := by
      cases leg.feeder <;> exact Nat.le_of_ble_eq_true rfl
    rw [passing.calling]
    omega
  unrefused := passing.unrefused
  relayed := by
    rcases passing.relaying.stage.oks with ⟨pumped, answers, first⟩
    rcases passing.drained.oks with ⟨kept, given, second⟩
    have queue := leg.boundary.substrate.recvQueue.queue_length_le
    rw [passing.relaying.capacity] at queue
    have queued := List.length_filterMap_le Except.toOption leg.boundary.substrate.recvQueue.queue
    refine ⟨kept ++ oks leg.boundary.substrate.recvQueue.queue ++ pumped, ?_, ?_⟩
    · rw [answers, Traffic.handedOver, oks_append, given]
      simp only [List.append_assoc]
    · rw [oks]
      simp only [List.length_append]
      omega

/-- Over a network that neither invents datagrams nor changes their order, what a
leg sends on is a part of what it was sent, in order. -/
theorem Passage.sublist {depth : Nat} {arrived sent : List Datagram} {leg : Leg}
    (passage : Passage depth arrived sent leg)
    (network : (oks leg.boundary.yielded).Sublist (leg.boundary.starts.map Prod.snd)) :
    sent.Sublist arrived := by
  rcases passage.relayed with ⟨behind, answers, _⟩
  rw [answers] at network
  rw [passage.placed, List.append_assoc, List.append_assoc, List.append_assoc]
  exact ((List.sublist_append_left _ _).trans network).trans (List.sublist_append_left _ _)

/-- Replies go to addresses from which something arrived. -/
structure Addressed (peer : Option Address) (socket replies arrived : List (Address × Datagram)) :
    Prop where
  socket : forall entry, entry ∈ socket -> entry.1 ∈ arrived.map Prod.fst
  peer : forall address, peer = some address -> address ∈ arrived.map Prod.fst
  replies : forall reply, reply ∈ replies -> reply.1 ∈ arrived.map Prod.fst

namespace Addressed

variable {peer : Option Address} {socket replies arrived : List (Address × Datagram)}

theorem arrive (addressed : Addressed peer socket replies arrived) (entry : Address × Datagram) :
    Addressed peer (socket ++ [entry]) replies (arrived ++ [entry]) := by
  have grown : forall address, address ∈ arrived.map Prod.fst ->
      address ∈ (arrived ++ [entry]).map Prod.fst := by
    intro address member
    rw [List.map_append]
    exact List.mem_append_left _ member
  refine ⟨?_, ?_, ?_⟩
  · intro other member
    rcases List.mem_append.mp member with old | new
    · exact grown _ (addressed.socket other old)
    · rw [List.mem_singleton.mp new, List.map_append]
      exact List.mem_append_right _ List.mem_cons_self
  · exact fun address known => grown _ (addressed.peer address known)
  · exact fun reply member => grown _ (addressed.replies reply member)

/-- The oldest datagram is taken off the socket and its sender noted. -/
theorem recvFrom {sender : Address} {datagram : Datagram}
    (addressed : Addressed peer ((sender, datagram) :: socket) replies arrived) :
    Addressed (some sender) socket replies arrived := by
  refine ⟨?_, ?_, addressed.replies⟩
  · intro entry member
    exact addressed.socket entry (List.mem_cons_of_mem _ member)
  · intro address known
    cases known
    exact addressed.socket (sender, datagram) List.mem_cons_self

/-- A datagram is sent to the address that is noted, if there is one. -/
theorem sendTo (addressed : Addressed peer socket replies arrived) (datagram : Datagram) :
    Addressed peer socket (replies ++ peer.toList.map (fun address => (address, datagram)))
      arrived := by
  refine { addressed with replies := ?_ }
  intro reply member
  rcases List.mem_append.mp member with old | new
  · exact addressed.replies reply old
  · rcases List.mem_map.mp new with ⟨address, known, rfl⟩
    exact addressed.peer address (Option.mem_toList.mp known)

end Addressed

/-! ## Both legs -/

theorem filterMap_concat {Source Target : Type} (pick : Source -> Option Target)
    (past : List Source) (last : Source) :
    (past ++ [last]).filterMap pick = past.filterMap pick ++ (pick last).toList := by
  rw [List.filterMap_append]
  cases found : pick last with
  | none => rw [List.filterMap_cons_none found, List.filterMap_nil, Option.toList_none]
  | some item => rw [List.filterMap_cons_some found, List.filterMap_nil, Option.toList_some]

namespace RelayMove

/-- The datagram that a move brings to the socket of the given direction. -/
def arrival (direction : Direction) : RelayMove -> Option Datagram
  | .leg moving move => if moving = direction then move.arrival else none
  | _ => none

/-- The datagrams that a schedule brings to the socket of the given direction. -/
def arrivals (direction : Direction) (schedule : List RelayMove) : List Datagram :=
  schedule.filterMap (arrival direction)

/-- The datagram that a client sends to the front socket. -/
def incoming : RelayMove -> Option (Address × Datagram)
  | .leg .up move => move.incoming
  | _ => none

/-- What the clients send to the front socket. -/
def clients (schedule : List RelayMove) : List (Address × Datagram) :=
  schedule.filterMap incoming

/-- The sender of a datagram is noted. -/
def hears : RelayMove -> Bool
  | .clientRecv => true
  | _ => false

/-- A datagram has come back. -/
def returns : RelayMove -> Bool
  | .clientSend => true
  | _ => false

/-- How many datagrams come back before anybody has been heard of. -/
def unheardReturns : List RelayMove -> Nat
  | [] => 0
  | move :: rest =>
      if move.hears then 0 else (if move.returns then 1 else 0) + unheardReturns rest

theorem unheardReturns_concat (past : List RelayMove) (move : RelayMove) :
    unheardReturns (past ++ [move]) =
      unheardReturns past + if !past.any hears && move.returns then 1 else 0 := by
  induction past with
  | nil => cases move <;> rfl
  | cons head rest inductionHypothesis =>
      cases heard : head.hears with
      | true => simp only [List.cons_append, unheardReturns, heard, if_true, List.any_cons,
          Bool.true_or, Bool.not_true, Bool.false_and, Bool.false_eq_true, if_false]
      | false =>
          simp only [List.cons_append, unheardReturns, heard, Bool.false_eq_true, if_false,
            List.any_cons, Bool.false_or, inductionHypothesis, Nat.add_assoc]

end RelayMove

namespace Relay

open RelayMove

/-- Whom the relay knows, when these datagrams have been taken off the front
socket: the sender of the last one.  Datagrams have been handed to the front
socket for such senders only. -/
structure Learned (past : List RelayMove) (taken : List (Address × Datagram)) (relay : Relay) :
    Prop where
  read : clients past = taken ++ relay.up.socket
  client : relay.clientAddr = (taken.map Prod.fst).getLast?
  replies : forall reply, reply ∈ relay.replies -> reply.1 ∈ taken.map Prod.fst

/-- Both legs, with what the past brought to their sockets.  Datagrams that came
back before the client was heard of are sent to nobody. -/
structure Carrying (serverAddr : Address) (upDepth downDepth : Nat) (past : List RelayMove)
    (relay : Relay) : Prop where
  up : Passing upDepth (arrivals .up past) (relay.forwarded.map Prod.snd) relay.up
  down : exists early, early.length = unheardReturns past ∧
    Passing downDepth (arrivals .down past) (early ++ relay.replies.map Prod.snd) relay.down
  server : relay.serverAddr = serverAddr
  addressed : forall entry, entry ∈ relay.forwarded -> entry.1 = serverAddr
  learned : exists taken, Learned past taken relay
  heard : past.any hears = relay.clientAddr.isSome

variable {serverAddr : Address} {upDepth downDepth : Nat} {past : List RelayMove}
  {relay next : Relay}

/-- Before the client is heard of, nobody is sent anything. -/
theorem Learned.silent {taken : List (Address × Datagram)} (learned : Learned past taken relay)
    (unknown : relay.clientAddr = none) : relay.replies = [] := by
  have nobody := learned.client.symm.trans unknown
  rw [List.getLast?_eq_none_iff] at nobody
  apply List.eq_nil_iff_forall_not_mem.mpr
  intro reply member
  have known := learned.replies reply member
  rw [nobody] at known
  cases known

theorem Carrying.leg (carrying : Carrying serverAddr upDepth downDepth past relay)
    {direction : Direction} {move : LegMove}
    (moved : relay.step (.leg direction move) = some next) :
    Carrying serverAddr upDepth downDepth (past ++ [.leg direction move]) next := by
  rcases Option.map_eq_some_iff.mp moved with ⟨leg, stepped, rfl⟩
  rcases carrying.down with ⟨early, count, down⟩
  rcases carrying.learned with ⟨taken, learned⟩
  have unheard : early.length = unheardReturns (past ++ [.leg direction move]) := by
    rw [unheardReturns_concat, count]
    simp only [returns, Bool.and_false, Bool.false_eq_true, if_false, Nat.add_zero]
  have heard : (past ++ [RelayMove.leg direction move]).any hears = relay.clientAddr.isSome := by
    rw [List.any_append, carrying.heard]
    exact Bool.or_false _
  cases direction with
  | up =>
      refine ⟨?_, ⟨early, unheard, ?_⟩, carrying.server, carrying.addressed, ⟨taken, ?_⟩, heard⟩
      · rw [arrivals, filterMap_concat]
        exact carrying.up.step stepped
      · rw [arrivals, filterMap_concat]
        exact (List.append_nil _).symm ▸ down
      · refine ⟨?_, learned.client, learned.replies⟩
        have socket := (Leg.parts_of_step stepped).1
        rw [clients, filterMap_concat]
        change clients past ++ move.incoming.toList = taken ++ leg.socket
        rw [learned.read, socket]
        exact List.append_assoc _ _ _
  | down =>
      refine ⟨?_, ⟨early, unheard, ?_⟩, carrying.server, carrying.addressed, ⟨taken, ?_⟩, heard⟩
      · rw [arrivals, filterMap_concat]
        exact (List.append_nil _).symm ▸ carrying.up
      · rw [arrivals, filterMap_concat]
        exact down.step stepped
      · refine ⟨?_, learned.client, learned.replies⟩
        rw [clients, filterMap_concat]
        exact (List.append_nil _).trans learned.read

/-- A move that brings nothing to the sockets. -/
theorem Carrying.quiet {move : RelayMove}
    (carrying : Carrying serverAddr upDepth downDepth past relay)
    (silent : forall direction, move.arrival direction = none) (incoming : move.incoming = none)
    (unheard : move.hears = false) (kept : move.returns = false) :
    Carrying serverAddr upDepth downDepth (past ++ [move]) relay := by
  rcases carrying with ⟨up, ⟨early, count, down⟩, server, addressed, ⟨taken, learned⟩, heard⟩
  have brought : forall direction,
      arrivals direction (past ++ [move]) = arrivals direction past := by
    intro direction
    rw [arrivals, filterMap_concat, silent, Option.toList_none, List.append_nil, arrivals]
  refine ⟨?_, ⟨early, ?_, ?_⟩, server, addressed, ⟨taken, ?_, learned.client, learned.replies⟩, ?_⟩
  · rw [brought]
    exact up
  · rw [unheardReturns_concat, kept, count, Bool.and_false]
    rfl
  · rw [brought]
    exact down
  · rw [clients, filterMap_concat, incoming, Option.toList_none, List.append_nil]
    exact learned.read
  · rw [List.any_append, heard, List.any_cons, unheard]
    exact Bool.or_false _

/-- One leg moves without its socket. -/
theorem Carrying.within (carrying : Carrying serverAddr upDepth downDepth past relay)
    {up down : Leg}
    (upward : forall arrived sent, Passing upDepth arrived sent relay.up ->
      Passing upDepth arrived sent up)
    (downward : forall arrived sent, Passing downDepth arrived sent relay.down ->
      Passing downDepth arrived sent down)
    (socket : up.socket = relay.up.socket) :
    Carrying serverAddr upDepth downDepth past { relay with up := up, down := down } := by
  rcases carrying with ⟨passing, ⟨early, count, back⟩, server, addressed, ⟨taken, learned⟩, heard⟩
  refine ⟨upward _ _ passing, ⟨early, count, downward _ _ back⟩, server, addressed,
    ⟨taken, ?_, learned.client, learned.replies⟩, heard⟩
  rw [learned.read, ← socket]

theorem Carrying.elapse (carrying : Carrying serverAddr upDepth downDepth past relay)
    {duration : Duration} (moved : relay.elapse duration = some next) :
    Carrying serverAddr upDepth downDepth past next := by
  unfold Relay.elapse at moved
  split at moved
  · rename_i up down upMoved downMoved
    cases moved
    exact carrying.within (fun _ _ passing => passing.within rfl Move.noConfusion upMoved)
      (fun _ _ passing => passing.within rfl Move.noConfusion downMoved)
      (Leg.within_eq_some upMoved).1
  · cases moved

/-- The sender of the datagram is the client from now on. -/
theorem Carrying.clientRecv (carrying : Carrying serverAddr upDepth downDepth past relay)
    (moved : relay.clientRecv = some next) :
    Carrying serverAddr upDepth downDepth (past ++ [.clientRecv]) next := by
  unfold Relay.clientRecv at moved
  split at moved
  · cases moved
  · rename_i sender up read
    cases moved
    rcases carrying.down with ⟨early, count, down⟩
    rcases carrying.learned with ⟨taken, learned⟩
    rcases Leg.recvFrom_eq_some read with ⟨datagram, socket, _⟩
    refine ⟨?_, ⟨early, ?_, ?_⟩, carrying.server, carrying.addressed,
      ⟨taken ++ [(sender, datagram)], ?_, ?_, ?_⟩, ?_⟩
    · rw [arrivals, filterMap_concat]
      exact (List.append_nil _).symm ▸ carrying.up.recvFrom read
    · rw [unheardReturns_concat, count]
      simp only [returns, Bool.and_false, Bool.false_eq_true, if_false, Nat.add_zero]
    · rw [arrivals, filterMap_concat]
      exact (List.append_nil _).symm ▸ down
    · rw [clients, filterMap_concat]
      change clients past ++ [] = _
      rw [List.append_nil, learned.read, socket, List.append_assoc]
      rfl
    · rw [List.map_append]
      exact List.getLast?_concat.symm
    · intro reply member
      rw [List.map_append]
      exact List.mem_append_left _ (learned.replies reply member)
    · rw [List.any_append]
      exact Bool.or_true _

theorem Carrying.serverSend (carrying : Carrying serverAddr upDepth downDepth past relay)
    (moved : relay.serverSend = some next) :
    Carrying serverAddr upDepth downDepth past next := by
  unfold Relay.serverSend at moved
  split at moved
  · cases moved
  · rename_i datagram up sent
    cases moved
    rcases carrying.learned with ⟨taken, learned⟩
    refine { carrying with up := ?_, addressed := ?_, learned := ⟨taken, ?_⟩ }
    · rw [List.map_append]
      exact carrying.up.sendTo sent
    · intro entry member
      rcases List.mem_append.mp member with old | new
      · exact carrying.addressed entry old
      · rw [List.mem_singleton.mp new]
        exact carrying.server
    · refine ⟨?_, learned.client, learned.replies⟩
      rw [learned.read, ← (Leg.sendTo_eq_some sent).1]

theorem Carrying.serverRecv (carrying : Carrying serverAddr upDepth downDepth past relay)
    (moved : relay.serverRecv = some next) :
    Carrying serverAddr upDepth downDepth past next := by
  unfold Relay.serverRecv at moved
  split at moved
  · cases moved
  · rename_i sender down taken
    cases moved
    exact carrying.within (fun _ _ => id) (fun _ _ passing => passing.recvFrom taken) rfl

/-- A datagram that comes back goes to the client, or joins the early ones. -/
theorem Carrying.clientSend (carrying : Carrying serverAddr upDepth downDepth past relay)
    (moved : relay.clientSend = some next) :
    Carrying serverAddr upDepth downDepth (past ++ [.clientSend]) next := by
  unfold Relay.clientSend at moved
  split at moved
  · cases moved
  · rename_i datagram down sent
    cases moved
    rcases carrying.down with ⟨early, count, passing⟩
    rcases carrying.learned with ⟨taken, learned⟩
    have passed := passing.sendTo sent
    have read : clients (past ++ [.clientSend]) = taken ++ relay.up.socket := by
      rw [clients, filterMap_concat]
      exact (List.append_nil _).trans learned.read
    have up : Passing upDepth (arrivals .up (past ++ [.clientSend]))
        (relay.forwarded.map Prod.snd) relay.up := by
      rw [arrivals, filterMap_concat]
      exact (List.append_nil _).symm ▸ carrying.up
    have back : arrivals .down (past ++ [.clientSend]) = arrivals .down past := by
      rw [arrivals, filterMap_concat]
      exact List.append_nil _
    have heard : (past ++ [RelayMove.clientSend]).any hears = relay.clientAddr.isSome := by
      rw [List.any_append, carrying.heard]
      exact Bool.or_false _
    have unheard := unheardReturns_concat past .clientSend
    rw [carrying.heard] at unheard
    have client := learned.client
    cases known : relay.clientAddr with
    | none =>
        have silent := learned.silent known
        rw [silent, List.map_nil, List.append_nil] at passed
        rw [known] at heard unheard client
        refine ⟨up, ⟨early ++ [datagram], ?_, ?_⟩, carrying.server, carrying.addressed,
          ⟨taken, read, client, ?_⟩, heard⟩
        · rw [unheard, List.length_append, count]
          rfl
        · rw [back]
          simpa only [silent, Option.toList_none, List.map_nil, List.append_nil] using passed
        · simpa only [Option.toList_none, List.map_nil, List.append_nil] using learned.replies
    | some address =>
        rw [known] at heard unheard client
        refine ⟨up, ⟨early, ?_, ?_⟩, carrying.server, carrying.addressed,
          ⟨taken, read, client, ?_⟩, heard⟩
        · rw [unheard, count]
          rfl
        · rw [back]
          simpa only [Option.toList_some, List.map_cons, List.map_nil, List.map_append,
            List.append_assoc] using passed
        · intro reply member
          rcases List.mem_append.mp member with old | new
          · exact learned.replies reply old
          · rw [Option.toList_some, List.map_singleton, List.mem_singleton] at new
            rw [new]
            exact List.mem_of_getLast? client.symm

theorem Carrying.release (carrying : Carrying serverAddr upDepth downDepth past relay)
    {direction : Direction} (moved : relay.release direction = some next) :
    Carrying serverAddr upDepth downDepth past next := by
  rcases Option.ite_none_right_eq_some.mp moved with ⟨⟨_, ended, _⟩, released⟩
  rcases Option.map_eq_some_iff.mp released with ⟨leg, stepped, rfl⟩
  cases direction with
  | up =>
      exact carrying.within (fun _ _ passing => passing.within rfl (fun _ => ended) stepped)
        (fun _ _ => id) (Leg.within_eq_some stepped).1
  | down =>
      exact carrying.within (fun _ _ => id)
        (fun _ _ passing => passing.within rfl (fun _ => ended) stepped) rfl

theorem Carrying.step (carrying : Carrying serverAddr upDepth downDepth past relay)
    {move : RelayMove} (moved : relay.step move = some next) :
    Carrying serverAddr upDepth downDepth (past ++ [move]) next := by
  cases move with
  | leg direction move => exact carrying.leg moved
  | elapse duration => exact (carrying.elapse moved).quiet (fun _ => rfl) rfl rfl rfl
  | clientRecv => exact carrying.clientRecv moved
  | serverSend => exact (carrying.serverSend moved).quiet (fun _ => rfl) rfl rfl rfl
  | serverRecv => exact (carrying.serverRecv moved).quiet (fun _ => rfl) rfl rfl rfl
  | clientSend => exact carrying.clientSend moved
  | dropHandle =>
      rcases Option.ite_none_right_eq_some.mp moved with ⟨_, same⟩
      cases same
      refine Carrying.quiet ?_ (fun _ => rfl) rfl rfl rfl
      rcases carrying.learned with ⟨taken, learned⟩
      exact ⟨carrying.up, carrying.down, carrying.server, carrying.addressed,
        ⟨taken, learned.read, learned.client, learned.replies⟩, carrying.heard⟩
  | release direction => exact (carrying.release moved).quiet (fun _ => rfl) rfl rfl rfl

/-- In every run of a relay, both directions.  Whatever arrives at a socket is
found, in order, in one of the places of its direction and is accounted for by
the counters; what a draining task hands to its socket begins what the inner
transport yielded, and is addressed to the server in one direction and to
clients that have been heard of in the other.  The relay knows the sender of the
last datagram that it took off the front socket, and what comes back before the
first one, and nothing else, is sent to nobody.  Between the socket and the inner
transport there are never more than the depth of the queue and two. -/
theorem relay_passes (serverAddr : Address) (upKind downKind : SubstrateKind)
    (upOracle downOracle : OracleParams) (upDepth downDepth : Nat) (schedule : List RelayMove)
    (relay : Relay)
    (ran : run Relay.step
      (startRelay serverAddr upKind downKind upOracle downOracle upDepth downDepth) schedule =
      some relay) :
    Passage (max upDepth 1) (arrivals .up schedule) (relay.forwarded.map Prod.snd) relay.up ∧
    (forall entry, entry ∈ relay.forwarded -> entry.1 = serverAddr) ∧
    (exists early, early.length = unheardReturns schedule ∧
      Passage (max downDepth 1) (arrivals .down schedule)
        (early ++ relay.replies.map Prod.snd) relay.down) ∧
    (exists taken, Learned schedule taken relay) ∧
    (relay.clientAddr = none -> relay.replies = []) ∧
    ((oks relay.up.boundary.yielded).Sublist (relay.up.boundary.starts.map Prod.snd) ->
      (relay.forwarded.map Prod.snd).Sublist (arrivals .up schedule)) ∧
    ((oks relay.down.boundary.yielded).Sublist (relay.down.boundary.starts.map Prod.snd) ->
      (relay.replies.map Prod.snd).Sublist (arrivals .down schedule)) := by
  have initially : Carrying serverAddr (max upDepth 1) (max downDepth 1) []
      (startRelay serverAddr upKind downKind upOracle downOracle upDepth downDepth) :=
    ⟨Passing.start upKind upOracle upDepth, ⟨[], rfl, Passing.start downKind downOracle downDepth⟩,
      rfl, nofun, ⟨[], rfl, rfl, nofun⟩, rfl⟩
  have carrying := invariant_of_history
    (Carrying serverAddr (max upDepth 1) (max downDepth 1))
    (fun _ _ _ _ carrying stepped => carrying.step stepped) initially ran
  rw [List.nil_append] at carrying
  rcases carrying.down with ⟨early, count, down⟩
  rcases carrying.learned with ⟨taken, learned⟩
  refine ⟨carrying.up.passage, carrying.addressed, ⟨early, count, down.passage⟩,
    ⟨taken, learned⟩, learned.silent, carrying.up.passage.sublist, ?_⟩
  intro network
  exact (List.sublist_append_right _ _).trans (down.passage.sublist network)

/-- A client's datagram goes up and through, over transports that loop back, and
so does the answer of the server. -/
def loopedSchedule : List RelayMove :=
  [.leg .up (.arrive 7 [1]), .clientRecv, .leg .up .reserve, .leg .up .commit,
    .leg .up .sendPump, .leg .up .sendPump, .leg .up .sendPump,
    .leg .up (.innerReceived (.ok [1])), .leg .up .recvPump, .leg .up .recvPump, .leg .up .lock,
    .leg .up .take, .serverSend, .leg .down (.arrive 5 [2]), .serverRecv, .leg .down .reserve,
    .leg .down .commit, .leg .down .sendPump, .leg .down .sendPump, .leg .down .sendPump,
    .leg .down (.innerReceived (.ok [2])), .leg .down .recvPump, .leg .down .recvPump,
    .leg .down .lock, .leg .down .take, .clientSend]

theorem relay_passes_looped :
    exists relay,
      run Relay.step (startRelay 5 .datagram .datagram ⟨3, 50, 0, 20, 1200⟩
        ⟨3, 50, 0, 20, 1200⟩ 8 8) loopedSchedule = some relay ∧
      relay.forwarded = [(5, [1])] ∧ relay.replies = [(7, [2])] ∧
      Passage 8 [[1]] [[1]] relay.up := by
  have passes := relay_passes 5 .datagram .datagram ⟨3, 50, 0, 20, 1200⟩ ⟨3, 50, 0, 20, 1200⟩ 8 8
    loopedSchedule _ rfl
  exact ⟨_, rfl, rfl, rfl, passes.1⟩

end Relay
end Boundary
end QuicMix
