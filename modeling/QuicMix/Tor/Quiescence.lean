import QuicMix.Tor.Health

namespace QuicMix
namespace Tor

open Foundations
open Boundary
open Framing

/-!
# A tunnel that comes to rest

A tunnel without faults, to which no empty datagram was sent, has nothing left to
do only when all has been delivered, in both directions.  The argument follows the
datagrams back from each end: if the last place is empty and its task waits, the
place before it is empty, or else its task could move.
-/

namespace Tunnel

variable {depth : Nat} {tunnel : Tunnel}

/-- No task can move in this state. -/
def Stuck (tunnel : Tunnel) : Prop :=
  forall move, move.internal = true -> tunnel.step move = none

/-- No task can move, whatever time passes, without new input. -/
def Quiescent (tunnel : Tunnel) : Prop :=
  forall duration later, tunnel.step (.elapse duration) = some later -> later.Stuck

theorem within_of_step {leg : Leg} {move : Move} {boundary : Traffic}
    (stepped : leg.boundary.step move = some boundary) :
    leg.within move = some { leg with boundary := boundary } := by
  rw [Leg.within, stepped]

/-- The writer of the client has finished. -/
theorem free_of_stuck (sound : Sound depth tunnel) (healthy : Healthy tunnel)
    (stuck : tunnel.Stuck) : tunnel.up.writer = .free := by
  by_contra busy
  by_cases flushing : tunnel.up.writer = .flushing
  · have offering := healthy.offering.mpr busy
    cases pump : tunnel.front.boundary.substrate.sendPump with
    | offering datagram =>
        have flushed : tunnel.up.step .flush =
            some { tunnel.up with writer := .free, sent := tunnel.up.sent ++ [.ok ()] } := by
          simp only [Pipe.step, flushing]
        have told : tunnel.front.boundary.step (.innerSent (.ok ())) =
            some (tunnel.front.boundary.put
              (tunnel.front.boundary.substrate.answer (.ok ()))) := by
          simp only [Traffic.step, pump]
        have blocked := stuck .clientFlush rfl
        simp only [Tunnel.step, Tunnel.sent, flushed, within_of_step told, reduceCtorEq] at blocked
    | _ =>
        rw [pump] at offering
        cases offering
  · rcases sound.upward.busy.write busy flushing with ⟨⟨bytes, after⟩, wrote⟩
    have blocked := stuck (.clientWrite 1) rfl
    simp only [Tunnel.step, Pipe.step, healthy.upOpen, Bool.false_eq_true, if_false, wrote,
      Option.map_some, reduceCtorEq] at blocked

/-- The send pump waits for a datagram, and there is none. -/
theorem idle_of_stuck (sound : Sound depth tunnel) (healthy : Healthy tunnel)
    (awake : forall wakeAt, tunnel.front.boundary.substrate.sendPump = .sleeping wakeAt ->
      wakeAt <= tunnel.front.boundary.clock)
    (stuck : tunnel.Stuck) :
    tunnel.front.boundary.substrate.sendPump = .idle ∧
      tunnel.front.boundary.substrate.sendQueue.queue = [] := by
  have free := free_of_stuck sound healthy stuck
  have blocked := stuck .sendPump rfl
  simp only [Tunnel.step, Tunnel.sendPump, Leg.within, Traffic.step, Traffic.sendPump,
    Substrate.pumpSend] at blocked
  cases pump : tunnel.front.boundary.substrate.sendPump with
  | idle =>
      refine ⟨rfl, ?_⟩
      simp only [pump, Substrate.take] at blocked
      cases taken : tunnel.front.boundary.substrate.sendQueue.recv with
      | message head channel => simp only [taken, reduceCtorEq] at blocked
      | pending => exact Channel.recv_eq_pending taken
      | ended => simp only [taken, reduceCtorEq] at blocked
  | taken enqueued datagram => simp only [pump, reduceCtorEq] at blocked
  | gauged datagram =>
      simp only [pump, beginFrame, Pipe.step, sound.upward.alone, free, List.nil_append,
        List.getElem?_cons_zero, reduceCtorEq] at blocked
  | offering datagram =>
      have writing := healthy.offering.mp (by rw [pump]; rfl)
      exact absurd free writing
  | answered result => simp only [pump, reduceCtorEq] at blocked
  | counted => simp only [pump, reduceCtorEq] at blocked
  | sleeping wakeAt => simp only [pump, awake wakeAt pump, if_true, reduceCtorEq] at blocked
  | exited => exact absurd pump (sound.passing.opened.pumping healthy.settled.held)

/-- The feeding task waits for a datagram, and there is none. -/
theorem fed_of_stuck (sound : Sound depth tunnel) (healthy : Healthy tunnel) (positive : 0 < depth)
    (empty : tunnel.front.boundary.substrate.sendQueue.queue = []) (stuck : tunnel.Stuck) :
    tunnel.front.boundary.waiting = [] ∧ tunnel.front.socket = [] := by
  have held := healthy.settled.held
  have calling := sound.passing.calling
  cases feeder : tunnel.front.feeder with
  | receiving =>
      rw [feeder] at calling
      refine ⟨List.length_eq_zero_iff.mp calling, ?_⟩
      cases socket : tunnel.front.socket with
      | nil => rfl
      | cons entry rest =>
          have blocked := stuck .frontRecv rfl
          simp only [Tunnel.step, Tunnel.frontRecv, Leg.recvFrom, feeder, socket, Traffic.step,
            held, if_true, reduceCtorEq] at blocked
  | sending =>
      exfalso
      rw [feeder] at calling
      rcases List.length_eq_one_iff.mp calling with ⟨call, alone⟩
      rcases healthy.settled.permits with free | ⟨other, same, permits⟩
      · have capacity : 0 < tunnel.front.boundary.substrate.sendQueue.capacity := by
          rw [sound.passing.flowing.capacity]
          exact positive
        rcases Channel.exists_reserve capacity empty free call.id with ⟨channel, reserved⟩
        have blocked := stuck (.front .reserve) rfl
        simp only [Tunnel.step, ofFront, if_true, Leg.step, Leg.send, feeder, Traffic.step, alone,
          List.getElem?_cons_zero, Traffic.reserve, sound.passing.opened.attended held, free,
          List.contains_nil, Bool.or_self, Bool.false_eq_true, if_false, reserved, Option.map_some,
          reduceCtorEq] at blocked
      · rw [alone] at same
        cases same
        have listed : call.id ∈ tunnel.front.boundary.substrate.sendQueue.permits := by
          rw [permits]
          exact List.mem_cons_self
        rcases Channel.exists_commit listed (call.enqueued, call.datagram) with
          ⟨channel, committed⟩
        have blocked := stuck (.front .commit) rfl
        simp only [Tunnel.step, ofFront, if_true, Leg.step, Leg.send, feeder, Traffic.step, alone,
          List.getElem?_cons_zero, Traffic.commit, committed, Option.map_some,
          reduceCtorEq] at blocked
  | ended => exact absurd feeder healthy.settled.feeding

/-- The loop to the listener waits for bytes, and there are none. -/
theorem read_of_stuck (sound : Sound depth tunnel) (bridged : tunnel.bridged = true)
    (stuck : tunnel.Stuck) : tunnel.up.wire = [] ∧ 0 < tunnel.toUdp.wanted := by
  have live := sound.running bridged
  have proper := (sound.upward.gathered live).1
  have reads : 0 < tunnel.toUdp.wanted -> tunnel.up.wire = [] := by
    intro wanted
    by_contra bytes
    have available : 1 <= tunnel.up.wire.length := List.length_pos_of_ne_nil bytes
    have blocked := stuck (.bridgeRead 1) rfl
    have guard : tunnel.bridged = true ∧ 0 < 1 ∧ 1 <= tunnel.up.wire.length ∧
        1 <= tunnel.toUdp.wanted := ⟨bridged, Nat.zero_lt_one, available, wanted⟩
    simp only [Tunnel.step, Tunnel.bridgeRead, if_pos guard] at blocked
    split at blocked <;> cases blocked
  cases phase : tunnel.toUdp with
  | header got =>
      rw [phase] at proper
      have wanted : 0 < tunnel.toUdp.wanted := by
        rw [phase]
        exact Nat.sub_pos_of_lt proper
      exact ⟨reads wanted, phase ▸ wanted⟩
  | payload size got =>
      rw [phase] at proper
      have wanted : 0 < tunnel.toUdp.wanted := by
        rw [phase]
        exact Nat.sub_pos_of_lt proper.2
      exact ⟨reads wanted, phase ▸ wanted⟩
  | sending buffer =>
      have blocked := stuck (.bridgeSend true) rfl
      simp only [Tunnel.step, Tunnel.bridgeSend, bridged, phase, if_true, reduceCtorEq] at blocked
  | stopped => exact absurd phase live

/-- All that was passed on is injected. -/
theorem injected_of_stuck (sound : Sound depth tunnel) (healthy : Healthy tunnel)
    (bridged : tunnel.bridged = true) (stuck : tunnel.Stuck) :
    tunnel.injected = tunnel.front.boundary.starts.map Prod.snd := by
  rcases read_of_stuck sound bridged stuck with ⟨drained, wanted⟩
  rcases sound.upward.gathered (sound.running bridged) with ⟨proper, consumed⟩
  have whole := sound.upward.ordered.open_ healthy.upOpen
  rw [free_of_stuck sound healthy stuck, drained, consumed] at whole
  simp only [Writer.left, List.append_nil] at whole
  rw [← sound.upward.begun]
  apply eq_of_stuck sound.upward.within sound.upward.ordered.orderFits (proper.stuck wanted)
    stuck_nil
  rw [whole, List.append_nil]

/-- The answers of the transport are datagrams, and the receive side is running. -/
theorem relaying_of_healthy (sound : Sound depth tunnel) (healthy : Healthy tunnel) :
    exists datagrams : List Datagram,
      tunnel.front.boundary.substrate.recvPump ≠ .exited ∧
      tunnel.front.boundary.handedOver = datagrams.map .ok ∧
      tunnel.front.boundary.yielded =
        datagrams.map .ok ++ tunnel.front.boundary.substrate.recvPump.hand := by
  rcases sound.downward.returned with ⟨returned, results⟩
  cases sound.passing.relaying.stage with
  | relaying datagrams running live passed answers => exact ⟨datagrams, running, passed, answers⟩
  | failed datagrams error closings exited passed answers drained =>
      have listed : .error error ∈ tunnel.front.boundary.yielded := by
        rw [answers]
        exact List.mem_append_right _ List.mem_cons_self
      rw [healthy.answers, results] at listed
      rcases List.mem_map.mp listed with ⟨_, _, same⟩
      cases same
  | unread datagrams item exited unheld passed answers =>
      cases healthy.settled.held.symm.trans unheld

/-- The draining task waits for a result, and there is none. -/
theorem drained_of_stuck (sound : Sound depth tunnel) (healthy : Healthy tunnel)
    (stuck : tunnel.Stuck) :
    tunnel.front.drainer = .locked ∧
      tunnel.front.boundary.substrate.recvQueue.queue = [] := by
  have held := healthy.settled.held
  have holder := healthy.settled.holder
  cases drainer : tunnel.front.drainer with
  | waiting =>
      rw [drainer] at holder
      have free : tunnel.front.boundary.holder.isNone = true := by
        rw [← Option.not_isSome, holder]
        rfl
      have blocked := stuck (.front .lock) rfl
      simp only [Tunnel.step, ofFront, if_true, Leg.step, Leg.lock, drainer, Traffic.step, held,
        free, Bool.and_self, Option.map_some, reduceCtorEq] at blocked
  | replying datagram =>
      have blocked := stuck .frontReply rfl
      simp only [Tunnel.step, Tunnel.frontReply, Leg.sendTo, drainer, reduceCtorEq] at blocked
  | locked =>
      refine ⟨rfl, ?_⟩
      rw [drainer] at holder
      rcases Option.isSome_iff_exists.mp holder with ⟨id, same⟩
      have blocked := stuck (.front .take) rfl
      simp only [Tunnel.step, ofFront, if_true, Leg.step, Leg.take, drainer, Traffic.step, same,
        Substrate.recv, Option.map_eq_none_iff] at blocked
      cases taken : tunnel.front.boundary.substrate.recvQueue.recv with
      | pending => exact Channel.recv_eq_pending taken
      | message item channel =>
          simp only [taken] at blocked
          split at blocked <;> cases blocked
      | ended => exact (Channel.recv_eq_ended taken).1
  | ended =>
      rcases relaying_of_healthy sound healthy with ⟨datagrams, _, passed, _⟩
      have drained := sound.passing.drained
      rw [drainer] at drained
      rcases drained with ⟨error, results⟩
      have listed : .error error ∈ tunnel.front.boundary.handedOver := by
        rw [Traffic.handedOver, results]
        exact List.mem_append_left _ (List.mem_append_right _ List.mem_cons_self)
      rw [passed] at listed
      rcases List.mem_map.mp listed with ⟨_, _, same⟩
      cases same

/-- The receive pump waits for the transport. -/
theorem polling_of_stuck (sound : Sound depth tunnel) (healthy : Healthy tunnel)
    (positive : 0 < depth) (stuck : tunnel.Stuck) :
    tunnel.front.boundary.substrate.recvPump = .polling := by
  have empty := (drained_of_stuck sound healthy stuck).2
  have places := healthy.settled.places
  have blocked := stuck (.front .recvPump) rfl
  simp only [Tunnel.step, ofFront, if_true, Leg.step, Leg.within, Traffic.step, Traffic.recvPump,
    Substrate.pumpRecv] at blocked
  cases pump : tunnel.front.boundary.substrate.recvPump with
  | polling => rfl
  | holding item =>
      rw [pump] at places
      have gone : tunnel.front.boundary.substrate.recvQueue.receiverGone = false := by
        by_contra contrary
        have unheld := sound.passing.relaying.unheld (Bool.not_eq_false _ ▸ contrary)
        cases healthy.settled.held.symm.trans unheld
      have capacity : 0 < tunnel.front.boundary.substrate.recvQueue.capacity := by
        rw [sound.passing.relaying.capacity]
        exact positive
      rcases Channel.exists_reserve capacity empty places () with ⟨channel, reserved⟩
      simp only [pump, Substrate.recvReserve, gone, Bool.false_eq_true, if_false, reserved,
        Option.map_some, reduceCtorEq] at blocked
  | permitted item =>
      rw [pump] at places
      have listed : () ∈ tunnel.front.boundary.substrate.recvQueue.permits := by
        rw [places]
        exact List.mem_cons_self
      rcases Channel.exists_commit listed item with ⟨channel, committed⟩
      cases item with
      | ok datagram =>
          simp only [pump, Substrate.recvCommit, committed, Option.map_some,
            reduceCtorEq] at blocked
      | error error =>
          simp only [pump, Substrate.recvCommit, committed, Option.map_some,
            reduceCtorEq] at blocked
  | exited =>
      rcases relaying_of_healthy sound healthy with ⟨_, running, _⟩
      exact absurd pump running

/-- The loop from the listener waits for a datagram, and there is none. -/
theorem written_of_stuck (sound : Sound depth tunnel) (healthy : Healthy tunnel)
    (bridged : tunnel.bridged = true) (stuck : tunnel.Stuck) :
    tunnel.down.writer = .free ∧ tunnel.udp = [] := by
  have free : tunnel.down.writer = .free := by
    by_contra busy
    by_cases flushing : tunnel.down.writer = .flushing
    · have blocked := stuck .bridgeFlush rfl
      simp only [Tunnel.step, Tunnel.bridgeWrite, bridged, Pipe.step, flushing,
        reduceCtorEq] at blocked
    · rcases sound.downward.sound.busy.write busy flushing with ⟨⟨bytes, after⟩, wrote⟩
      have blocked := stuck (.bridgeWrite 1) rfl
      simp only [Tunnel.step, Tunnel.bridgeWrite, bridged, Pipe.step, healthy.downOpen,
        Bool.false_eq_true, if_false, wrote, reduceCtorEq] at blocked
  refine ⟨free, ?_⟩
  cases socket : tunnel.udp with
  | nil => rfl
  | cons datagram rest =>
      have blocked := stuck .bridgeRecv rfl
      simp only [Tunnel.step, Tunnel.bridgeRecv, bridged, free, socket, beginFrame, Pipe.step,
        sound.downward.alone, List.nil_append, List.getElem?_cons_zero, reduceCtorEq] at blocked

/-- `try_recv` waits for bytes, and there are none. -/
theorem returned_of_stuck (sound : Sound depth tunnel)
    (polling : tunnel.front.boundary.substrate.recvPump = .polling) (stuck : tunnel.Stuck) :
    tunnel.down.wire = [] := by
  by_contra bytes
  rcases Pipe.receive_progress sound.downward.sound.proper bytes with
    ⟨action, down, rfl | rfl, stepped⟩
  · have blocked := stuck .clientRecv rfl
    simp only [Tunnel.step, Tunnel.clientRecv, polling, stepped, reduceCtorEq] at blocked
  · have blocked := stuck (.clientRead 1) rfl
    simp only [Tunnel.step, Tunnel.clientRead, polling, stepped] at blocked
    split at blocked
    · cases blocked
    · rename_i result finished
      have told : exists boundary, tunnel.front.boundary.step (.innerReceived result) =
          some boundary := by
        simp only [Traffic.step, polling, Option.some.injEq, exists_eq']
      rcases told with ⟨boundary, told⟩
      rw [within_of_step told] at blocked
      cases blocked

/-- All that the gateway sent is delivered. -/
theorem replied_of_stuck (sound : Sound depth tunnel) (healthy : Healthy tunnel)
    (positive : 0 < depth) (bridged : tunnel.bridged = true) (stuck : tunnel.Stuck) :
    tunnel.replies.map Prod.snd = tunnel.answered := by
  rcases drained_of_stuck sound healthy stuck with ⟨locked, empty⟩
  have polling := polling_of_stuck sound healthy positive stuck
  rcases written_of_stuck sound healthy bridged stuck with ⟨free, taken⟩
  have delivered := sound.downward.sound.delivered healthy.downOpen free
    (returned_of_stuck sound polling stuck)
  rcases relaying_of_healthy sound healthy with ⟨datagrams, _, passed, answers⟩
  have drained := sound.passing.drained
  rw [locked] at drained
  have results : tunnel.front.boundary.results.map Prod.snd =
      (tunnel.handed.map Prod.snd).map .ok := drained
  rw [Traffic.handedOver, empty, List.append_nil, results] at passed
  have unheld : RecvPump.polling.hand = [] := rfl
  rw [polling, unheld, List.append_nil, healthy.answers, delivered] at answers
  have equal := congrArg oks (passed.trans answers.symm)
  rw [oks_map_ok, oks_map_ok] at equal
  rw [healthy.unrefused, equal, sound.downward.taken, taken, List.append_nil]

/-- A healthy tunnel that is stuck has delivered everything. -/
theorem delivered_of_stuck (sound : Sound depth tunnel) (healthy : Healthy tunnel)
    (positive : 0 < depth) (solid : [] ∉ tunnel.arrived.map Prod.snd)
    (awake : forall wakeAt, tunnel.front.boundary.substrate.sendPump = .sleeping wakeAt ->
      wakeAt <= tunnel.front.boundary.clock)
    (stuck : tunnel.Stuck) :
    tunnel.injected = tunnel.arrived.map Prod.snd ∧
      tunnel.replies.map Prod.snd = tunnel.answered := by
  have placed := sound.passing.passage.placed
  have bridged : tunnel.bridged = true := by
    rcases healthy.bridged with running | stopped
    · exact running
    · have empty := (sound.upward.ended stopped).2
      rw [sound.upward.begun] at empty
      refine absurd ?_ solid
      rw [placed]
      simp only [List.append_assoc]
      exact List.mem_append_left _ empty
  rcases idle_of_stuck sound healthy awake stuck with ⟨idle, queue⟩
  rcases fed_of_stuck sound healthy positive queue stuck with ⟨waiting, socket⟩
  refine ⟨?_, replied_of_stuck sound healthy positive bridged stuck⟩
  rw [injected_of_stuck sound healthy bridged stuck, placed, idle, queue, waiting, socket]
  simp only [SendPump.hand, List.map_nil, List.append_nil]

/-- The same tunnel at a later time. -/
def waited (tunnel : Tunnel) (duration : Duration) : Tunnel :=
  { tunnel with
    front := { tunnel.front with
      boundary := { tunnel.front.boundary with
        clock := tunnel.front.boundary.clock + duration } } }

theorem step_elapse (tunnel : Tunnel) (duration : Duration) :
    tunnel.step (.elapse duration) = some (tunnel.waited duration) :=
  rfl

/-- Nothing is lost.  Let a run have neither a close of the stream nor an error of a
socket, and let no empty datagram have arrived.  When no task can move any more,
whatever time passes, the gateway has been sent all that arrived at the front, and
the client all that the gateway sent back, in order. -/
theorem tunnel_delivers (oracle : OracleParams) (queueDepth : Nat) (schedule : List TunnelMove)
    (tunnel : Tunnel) (faultless : forall move, move ∈ schedule -> move.fault = false)
    (solid : [] ∉ tunnel.arrived.map Prod.snd)
    (ran : run Tunnel.step (start oracle queueDepth) schedule = some tunnel)
    (quiescent : tunnel.Quiescent) :
    tunnel.injected = tunnel.arrived.map Prod.snd ∧
      tunnel.replies.map Prod.snd = tunnel.answered := by
  have both : Sound (max queueDepth 1) tunnel ∧ Healthy tunnel := by
    refine invariant_of_schedule (fun state => Sound (max queueDepth 1) state ∧ Healthy state) ?_
      ⟨sound_start oracle queueDepth, healthy_start oracle queueDepth⟩ ran
    intro state move next member known stepped
    exact ⟨known.1.step stepped, known.2.step known.1 (faultless move member) stepped⟩
  have positive : 0 < max queueDepth 1 := Nat.lt_of_lt_of_le Nat.zero_lt_one (Nat.le_max_right _ _)
  -- a sleeping send pump is given the time until it wakes
  have wakes : exists duration, forall wakeAt,
      tunnel.front.boundary.substrate.sendPump = .sleeping wakeAt ->
      wakeAt <= tunnel.front.boundary.clock + duration := by
    cases pump : tunnel.front.boundary.substrate.sendPump with
    | sleeping wakeAt =>
        refine ⟨wakeAt, ?_⟩
        intro other same
        cases same
        exact Nat.le_add_left _ _
    | _ => exact ⟨0, nofun⟩
  rcases wakes with ⟨duration, awake⟩
  have sound := both.1.step (step_elapse tunnel duration)
  have healthy := both.2.step both.1 rfl (step_elapse tunnel duration)
  have delivered := @delivered_of_stuck _ (tunnel.waited duration) sound healthy positive solid
    awake (quiescent duration _ (step_elapse tunnel duration))
  exact delivered

/-- A datagram of the client at 7 goes through in pieces, the gateway answers, and
all tasks go back to wait. -/
def deliveredSchedule : List TunnelMove :=
  [.arrive 7 [1, 2], .frontRecv, .front .reserve, .front .commit, .sendPump, .sendPump, .sendPump,
    .clientWrite 3, .bridgeRead 2, .clientWrite 1, .bridgeRead 2, .clientWrite 2, .clientFlush,
    .sendPump, .sendPump, .bridgeRead 1, .bridgeRead 1, .bridgeSend true, .gatewaySend [9],
    .bridgeRecv, .bridgeWrite 4, .bridgeWrite 1, .bridgeFlush, .clientRecv, .clientRead 4,
    .clientRead 1, .front .recvPump, .front .recvPump, .front .lock, .front .take, .frontReply,
    .front .lock, .clientRecv]

/-- The tunnel at the end of that schedule. -/
def rested : Tunnel :=
  (run Tunnel.step (start torOracle 16) deliveredSchedule).getD (start torOracle 16)

theorem rested_quiescent : rested.Quiescent := by
  intro duration later elapsed move internal
  rw [step_elapse] at elapsed
  cases elapsed
  cases move with
  | front move => cases move <;> first | rfl | cases internal
  | clientRead size =>
      have guard : ¬ (0 < size ∧ size <= (rested.waited duration).down.wire.length ∧
          size <= (rested.waited duration).down.reader.wanted) := by
        rintro ⟨some, none, _⟩
        exact Nat.lt_irrefl 0 (Nat.lt_of_lt_of_le some none)
      simp only [Tunnel.step, Tunnel.clientRead, Pipe.step, if_neg guard]
      rfl
  | bridgeRead size =>
      apply if_neg
      rintro ⟨_, some, none, _⟩
      exact Nat.lt_irrefl 0 (Nat.lt_of_lt_of_le some none)
  | clientReadFails error =>
      have guard : ¬ ((rested.waited duration).down.closed = true ∧
          0 < (rested.waited duration).down.reader.wanted ∧
          (error.kind = .unexpectedEof -> (rested.waited duration).down.wire = [])) := by
        rintro ⟨closed, _⟩
        cases closed
      simp only [Tunnel.step, Tunnel.clientReadFails, if_neg guard]
  | bridgeSend accepted => cases accepted <;> rfl
  | elapse duration => cases internal
  | arrive sender datagram => cases internal
  | gatewaySend datagram => cases internal
  | closeUp arriving => cases internal
  | closeDown arriving => cases internal
  | bridgeRecvFails => cases internal
  | frontReplyFails => cases internal
  | _ => rfl

theorem tunnel_delivers_rested :
    run Tunnel.step (start torOracle 16) deliveredSchedule = some rested ∧
      rested.Quiescent ∧ rested.injected = [[1, 2]] ∧ rested.replies.map Prod.snd = [[9]] := by
  have delivers := tunnel_delivers torOracle 16 deliveredSchedule rested (by decide)
    (by decide) rfl rested_quiescent
  exact ⟨rfl, rested_quiescent, delivers.1, delivers.2⟩

end Tunnel
end Tor
end QuicMix
