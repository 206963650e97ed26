import QuicMix.Boundary.Front
import QuicMix.Boundary.ReceiveSide

namespace QuicMix
namespace Boundary

open Foundations

/-!
# Which fronts are torn down

The task from the boundary to the socket holds a handle of the boundary and ends
only when the boundary's `recv` fails.  Over a transport that does not fail,
`recv` fails only after the receive pump has ended, and the receive pump ends
only when the last handle is gone.  So the task keeps itself alive, and no front
is ever torn down.
-/

/-- The move brings no failure of the inner transport and does not end the
boundary. -/
def Move.failureless : Move -> Bool
  | .dropHandles => false
  | .innerReceived (.error _) => false
  | _ => true

namespace Traffic

theorem Moved.held {traffic next : Traffic} {action : Move} (moved : Moved traffic action next)
    (fine : action.failureless = true) : next.held = traffic.held := by
  cases moved with
  | dropped held quiet => cases fine
  | _ => rfl

/-- While the inner transport has not failed and a handle exists, the boundary
hands over datagrams and its receive queue stays open. -/
theorem Relaying.unfailed {depth : Nat} {traffic : Traffic} (relaying : Relaying depth traffic)
    (answers : forall result, result ∈ traffic.yielded -> result.isOk = true)
    (held : traffic.held = true) :
    traffic.substrate.recvQueue.sendersGone = false ∧
      exists datagrams : List Datagram, traffic.handedOver = datagrams.map .ok := by
  cases relaying.stage with
  | relaying datagrams running live passed yielded => exact ⟨live, datagrams, passed⟩
  | failed datagrams error closings exited passed yielded drained =>
      have failed := answers (.error error) (by
        rw [yielded]
        exact List.mem_append_right _ List.mem_cons_self)
      cases failed
  | unread datagrams item exited unheld passed yielded => cases held.symm.trans unheld

/-- Then a receiver is given a datagram. -/
theorem Relaying.taken {depth : Nat} {traffic next : Traffic} (relaying : Relaying depth traffic)
    (answers : forall result, result ∈ traffic.yielded -> result.isOk = true)
    (held : traffic.held = true) (moved : Moved traffic .takeRecv next) :
    exists id datagram, next.results.getLast? = some (id, .ok datagram) := by
  rcases relaying.unfailed answers held with ⟨live, datagrams, passed⟩
  cases moved with
  | delivered id item channel holder taken =>
      rcases Channel.recv_eq_message taken with ⟨_, queue, _⟩
      have listed : item ∈ traffic.handedOver := by
        rw [handedOver, queue]
        exact List.mem_append_right _ List.mem_cons_self
      rw [passed] at listed
      rcases List.mem_map.mp listed with ⟨datagram, _, same⟩
      exact ⟨id, datagram, by rw [← same, List.getLast?_concat]⟩
  | deliveredClosed id holder ended =>
      rcases Channel.recv_eq_ended ended with ⟨_, gone⟩
      cases live.symm.trans gone

end Traffic

namespace Front

/-- The task towards the socket is running, over a boundary that has not
failed. -/
structure Pumping (front : Front) : Prop where
  relaying : exists depth, Traffic.Relaying depth front.boundary
  answers : forall result, result ∈ front.boundary.yielded -> result.isOk = true
  held : front.boundary.held = true
  running : front.inPump ≠ .ended

theorem failureless_answer {move : Move} {result : RecvResult} (fine : move.failureless = true)
    (answered : move.answer = some result) : result.isOk = true := by
  cases move with
  | innerReceived answer =>
      cases answered
      cases result with
      | ok datagram => rfl
      | error error => cases fine
  | _ => cases answered

/-- A move of the boundary without failures. -/
theorem Pumping.moved {front : Front} (pumping : Pumping front) {move : Move} {boundary : Traffic}
    (fine : move.failureless = true) (moved : front.boundary.step move = some boundary) :
    (exists depth, Traffic.Relaying depth boundary) ∧
    (forall result, result ∈ boundary.yielded -> result.isOk = true) ∧
    boundary.held = true := by
  have moved := Traffic.moved_of_step moved
  rcases pumping.relaying with ⟨depth, relaying⟩
  refine ⟨⟨depth, relaying.step moved⟩, ?_, (moved.held fine).trans pumping.held⟩
  intro result member
  rw [moved.yielded] at member
  rcases List.mem_append.mp member with old | new
  · exact pumping.answers result old
  · exact failureless_answer fine (Option.mem_toList.mp new)

/-- A move outside the boundary that leaves the task running. -/
theorem Pumping.outside {front next : Front} (pumping : Pumping front)
    (same : next.boundary = front.boundary) (running : next.inPump ≠ .ended) : Pumping next := by
  refine ⟨?_, ?_, ?_, running⟩
  · rw [same]
    exact pumping.relaying
  · rw [same]
    exact pumping.answers
  · rw [same]
    exact pumping.held

theorem Pumping.within {front next : Front} (pumping : Pumping front) (move : Move)
    (fine : move.failureless = true) (moved : front.within move = some next) : Pumping next := by
  cases stepped : front.boundary.step move with
  | none => simp only [Front.within, stepped, reduceCtorEq] at moved
  | some boundary =>
      simp only [Front.within, stepped, Option.some.injEq] at moved
      subst moved
      rcases pumping.moved fine stepped with ⟨relaying, answers, held⟩
      exact ⟨relaying, answers, held, pumping.running⟩

theorem Pumping.outSend {front next : Front} (pumping : Pumping front) (move : Move)
    {after : OutPump} (fine : move.failureless = true)
    (moved : front.outSend move after = some next) : Pumping next := by
  unfold Front.outSend at moved
  split at moved
  · cases stepped : front.boundary.step move with
    | none => simp only [stepped, reduceCtorEq] at moved
    | some boundary =>
        simp only [stepped, Option.some.injEq] at moved
        subst moved
        rcases pumping.moved fine stepped with ⟨relaying, answers, held⟩
        exact ⟨relaying, answers, held, pumping.running⟩
  · cases moved

theorem Pumping.outRecv {front next : Front} (pumping : Pumping front)
    (moved : front.outRecv = some next) : Pumping next := by
  unfold Front.outRecv at moved
  split at moved
  · rename_i sender datagram rest _ _
    cases stepped : front.boundary.step (.send datagram) with
    | none => simp only [stepped, reduceCtorEq] at moved
    | some boundary =>
        simp only [stepped, Option.some.injEq] at moved
        subst moved
        rcases pumping.moved rfl stepped with ⟨relaying, answers, held⟩
        exact ⟨relaying, answers, held, pumping.running⟩
  · cases moved

theorem Pumping.inLock {front next : Front} (pumping : Pumping front)
    (moved : front.inLock = some next) : Pumping next := by
  unfold Front.inLock at moved
  split at moved
  · cases stepped : front.boundary.step .lockRecv with
    | none => simp only [stepped, reduceCtorEq] at moved
    | some boundary =>
        simp only [stepped, Option.some.injEq] at moved
        subst moved
        rcases pumping.moved rfl stepped with ⟨relaying, answers, held⟩
        exact ⟨relaying, answers, held, InPump.noConfusion⟩
  · cases moved

/-- The task is never given an error. -/
theorem Pumping.inTake {front next : Front} (pumping : Pumping front)
    (moved : front.inTake = some next) : Pumping next := by
  unfold Front.inTake at moved
  split at moved
  · cases stepped : front.boundary.step .takeRecv with
    | none => simp only [stepped, reduceCtorEq] at moved
    | some boundary =>
        rcases pumping.relaying with ⟨depth, relaying⟩
        rcases relaying.taken pumping.answers pumping.held (Traffic.moved_of_step stepped) with
          ⟨id, datagram, last⟩
        simp only [stepped, last, Option.some.injEq] at moved
        subst moved
        rcases pumping.moved rfl stepped with ⟨relaying, answers, held⟩
        exact ⟨relaying, answers, held, InPump.noConfusion⟩
  · cases moved

theorem Pumping.step {front next : Front} {move : FrontMove} (pumping : Pumping front)
    (moved : front.step move = some next) : Pumping next := by
  cases move with
  | elapse duration => exact pumping.within (.elapse duration) rfl moved
  | udpIn sender datagram =>
      simp only [Front.step, Option.ite_none_right_eq_some, Option.some.injEq] at moved
      rcases moved with ⟨_, moved⟩
      subst moved
      exact pumping.outside rfl pumping.running
  | socketError =>
      simp only [Front.step] at moved
      split at moved
      · cases moved
        exact pumping.outside rfl pumping.running
      · cases moved
  | innerReceived datagram =>
      exact pumping.within (.innerReceived (.ok datagram)) rfl moved
  | dropHandle =>
      simp only [Front.step, Option.ite_none_right_eq_some, Option.some.injEq] at moved
      rcases moved with ⟨_, moved⟩
      subst moved
      exact pumping.outside rfl pumping.running
  | dropClient =>
      simp only [Front.step, Option.ite_none_right_eq_some, Option.some.injEq] at moved
      rcases moved with ⟨_, moved⟩
      subst moved
      exact pumping.outside rfl pumping.running
  | innerSent result => exact pumping.within (.innerSent result) rfl moved
  | sendPump => exact pumping.within .sendPump rfl moved
  | recvPump => exact pumping.within .recvPump rfl moved
  | outRecv => exact pumping.outRecv moved
  | outReserve => exact pumping.outSend (.reserve 0) rfl moved
  | outCommit => exact pumping.outSend (.commit 0) rfl moved
  | outHangUp => exact pumping.outSend (.hangUp 0) rfl moved
  | inLock => exact pumping.inLock moved
  | inTake => exact pumping.inTake moved
  | inReply =>
      simp only [Front.step, Front.inReply] at moved
      split at moved
      · cases moved
        exact pumping.outside rfl InPump.noConfusion
      · cases moved
  | release =>
      simp only [Front.step, Front.release, Option.ite_none_right_eq_some] at moved
      exact absurd moved.1.2.2 pumping.running

theorem pumping_spawn (origin : Origin) (kind : SubstrateKind) (oracle : OracleParams)
    (queueDepth : Nat) : Pumping (spawn origin kind oracle queueDepth) := by
  have ran : run Traffic.step (Traffic.start kind oracle queueDepth) [] =
      some (Traffic.start kind oracle queueDepth) := rfl
  exact ⟨⟨_, Traffic.relaying_of_run ran⟩, fun _ member => absurd member List.not_mem_nil, rfl,
    InPump.noConfusion⟩

end Front

namespace Process

theorem pumping_step {fronts next : Process} {move : ProcessMove}
    (pumping : forall front, front ∈ fronts -> front.Pumping)
    (moved : fronts.step move = some next) : forall front, front ∈ next -> front.Pumping := by
  cases move with
  | spawn origin kind oracle queueDepth =>
      cases moved
      intro front member
      rcases List.mem_append.mp member with old | new
      · exact pumping front old
      · rw [List.mem_singleton.mp new]
        exact Front.pumping_spawn origin kind oracle queueDepth
  | front index move =>
      cases located : fronts[index]? with
      | none => simp only [Process.step, located, reduceCtorEq] at moved
      | some front =>
          cases stepped : front.step move with
          | none => simp only [Process.step, located, stepped, reduceCtorEq] at moved
          | some after =>
              simp only [Process.step, located, stepped, Option.some.injEq] at moved
              subst moved
              intro other member
              rcases List.mem_or_eq_of_mem_set member with old | new
              · exact pumping other old
              · rw [new]
                exact (pumping front (List.mem_of_getElem? located)).step stepped

/-- Teardown.  In every state that a process reaches, quiescent or not, the
dropped fronts are torn down if and only if no front has been dropped. -/
theorem tornDown_iff (schedule : List ProcessMove) (fronts : Process)
    (ran : run Process.step [] schedule = some fronts) :
    fronts.TornDown <-> forall front, front ∈ fronts -> front.dropped = false := by
  have pumping : forall front, front ∈ fronts -> front.Pumping := by
    refine invariant (fun state : Process => forall front, front ∈ state -> front.Pumping) ?_ ?_ ran
    · intro state move next pumping stepped
      exact pumping_step pumping stepped
    · intro front member
      cases member
  constructor
  · intro torn front member
    cases dropped : front.dropped with
    | false => rfl
    | true =>
        have alive : front.Alive := .inr (.inl (pumping front member).running)
        exact absurd alive (torn.ended front member dropped)
  · intro kept
    refine ⟨?_, ?_, ?_⟩
    · intro front member dropped
      cases (kept front member).symm.trans dropped
    · intro front member dropped
      cases (kept front member).symm.trans dropped
    · have all : fronts.inUse = fronts.length := by
        apply List.countP_eq_length.mpr
        intro front member
        rw [kept front member]
        rfl
      rw [all]
      exact List.countP_le_length

/-- One front over a transport that never answers, with its client in use. -/
theorem tornDown_iff_inUse :
    exists fronts, run Process.step [] [.spawn .resolved .datagram ⟨3, 50, 0, 20, 1200⟩ 8] =
        some fronts ∧ fronts.TornDown :=
  ⟨_, rfl, (tornDown_iff [.spawn .resolved .datagram ⟨3, 50, 0, 20, 1200⟩ 8] _ rfl).mpr (by decide)⟩

/-- A front carries one datagram of its client out; then the client and the
`Front` are dropped. -/
def retiredSchedule : List ProcessMove :=
  [.spawn .resolved .datagram ⟨3, 50, 0, 20, 1200⟩ 8, .front 0 .inLock, .front 0 (.udpIn 0 [1]),
    .front 0 .outRecv, .front 0 .outReserve, .front 0 .outCommit, .front 0 .sendPump,
    .front 0 .sendPump, .front 0 .sendPump, .front 0 (.innerSent (.ok ())), .front 0 .sendPump,
    .front 0 .sendPump, .front 0 (.elapse 20), .front 0 .sendPump, .front 0 .dropClient,
    .front 0 .dropHandle]

/-- The dropped front has come to rest with its tasks and its boundary. -/
theorem retired_not_tornDown :
    exists fronts, run Process.step [] retiredSchedule = some fronts ∧ fronts.Quiescent ∧
      fronts.liveBoundaries = 1 ∧ fronts.inUse = 0 ∧ ¬ fronts.TornDown := by
  refine ⟨_, rfl, ?_, rfl, rfl, ?_⟩
  · intro front member duration later move elapsed internal
    rcases List.mem_singleton.mp member with rfl
    cases elapsed
    cases move <;> first | rfl | cases internal
  · intro torn
    exact absurd torn.bounded (by decide)

end Process
end Boundary
end QuicMix
