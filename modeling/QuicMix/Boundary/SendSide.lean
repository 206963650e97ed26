import QuicMix.Boundary.Traffic
import Mathlib.Data.List.Nodup

namespace QuicMix
namespace Boundary

open Foundations

/-!
# The send side of a boundary

Every accepted datagram is in exactly one place: passed to the inner transport,
in the pump's hand, or queued, and the three places in this order spell the
accepted datagrams in the order of their acceptance.  The counters of the pump
agree with its place in the loop.  Calls are told apart by their identities, of
which each is mentioned at most once among the waiting, refused, accepted and
failed calls.
-/

namespace SendPump

/-- The datagram that the pump has taken and not yet passed on. -/
def hand : SendPump -> List Datagram
  | .taken _ datagram => [datagram]
  | .gauged datagram => [datagram]
  | _ => []

/-- The inner send that has started and is not counted yet. -/
def uncounted : SendPump -> Nat
  | .offering _ => 1
  | .answered _ => 1
  | _ => 0

/-- Accepted datagrams that are neither queued nor counted. -/
def inHand (pump : SendPump) : Nat :=
  pump.hand.length + pump.uncounted

theorem inHand_le_one (pump : SendPump) : pump.inHand <= 1 := by
  cases pump <;> exact Nat.le_of_ble_eq_true rfl

end SendPump

/-- The move starts a lossy call. -/
def Move.isLossySend : Move -> Bool
  | .lossySend _ => true
  | _ => false

namespace Traffic

/-! ## Acceptance order -/

/-- Where the accepted datagrams are, and which of them are counted. -/
structure Flowing (depth : Nat) (traffic : Traffic) : Prop where
  order : traffic.accepted.map Call.datagram =
    traffic.starts.map Prod.snd ++ traffic.substrate.sendPump.hand ++
      traffic.substrate.sendQueue.queue.map Prod.snd
  counted : traffic.starts.length = traffic.substrate.metrics.sent +
    traffic.substrate.metrics.sendErrors + traffic.substrate.sendPump.uncounted
  capacity : traffic.substrate.sendQueue.capacity = depth
  gauge : traffic.substrate.metrics.queueDepth <= depth

/-- A datagram that enters the queue joins the accepted ones at the end. -/
theorem Flowing.accept {depth : Nat} {traffic : Traffic} (sound : Flowing depth traffic)
    (call : Call) {channel : Channel CallId (Instant × Datagram)}
    (capacity : channel.capacity = traffic.substrate.sendQueue.capacity)
    (queue : channel.queue =
      traffic.substrate.sendQueue.queue ++ [(call.enqueued, call.datagram)]) :
    (traffic.accepted ++ [call]).map Call.datagram =
      traffic.starts.map Prod.snd ++ traffic.substrate.sendPump.hand ++
        channel.queue.map Prod.snd ∧ channel.capacity = depth := by
  refine ⟨?_, capacity.trans sound.capacity⟩
  rw [queue, List.map_append, List.map_append, sound.order]
  simp only [List.map_cons, List.map_nil, List.append_assoc]

/-- The two equations at a known point of the pump's loop. -/
theorem Flowing.at_pump {depth : Nat} {traffic : Traffic} {pump : SendPump}
    (sound : Flowing depth traffic) (same : traffic.substrate.sendPump = pump) :
    traffic.accepted.map Call.datagram = traffic.starts.map Prod.snd ++ pump.hand ++
      traffic.substrate.sendQueue.queue.map Prod.snd ∧
    traffic.starts.length = traffic.substrate.metrics.sent +
      traffic.substrate.metrics.sendErrors + pump.uncounted := by
  subst same
  exact ⟨sound.order, sound.counted⟩

theorem Flowing.step {depth : Nat} {traffic next : Traffic} {action : Move}
    (sound : Flowing depth traffic) (moved : Moved traffic action next) : Flowing depth next := by
  cases moved with
  | tryAccepted datagram channel held sent =>
      rcases Channel.trySend_eq_sent sent with ⟨capacity, queue, _⟩
      rcases sound.accept ⟨traffic.nextCall, .trySend, traffic.clock, datagram⟩
        capacity queue with ⟨order, capacity⟩
      exact ⟨order, sound.counted, capacity, sound.gauge⟩
  | lossyAccepted datagram channel held sent =>
      rcases Channel.trySend_eq_sent sent with ⟨capacity, queue, _⟩
      rcases sound.accept ⟨traffic.nextCall, .lossy, traffic.clock, datagram⟩
        capacity queue with ⟨order, capacity⟩
      exact ⟨order, sound.counted, capacity, sound.gauge⟩
  | committed index call channel located committed =>
      rcases Channel.commit_eq_some committed with ⟨capacity, queue, _⟩
      rcases sound.accept call capacity queue with ⟨order, capacity⟩
      exact ⟨order, sound.counted, capacity, sound.gauge⟩
  | reserved index call channel located reserved =>
      rcases Channel.reserve_eq_some reserved with ⟨capacity, queue, _⟩
      refine ⟨?_, sound.counted, capacity.trans sound.capacity, sound.gauge⟩
      change _ = _ ++ channel.queue.map Prod.snd
      rw [queue]
      exact sound.order
  | took enqueued datagram channel pump taken =>
      rcases Channel.recv_eq_message taken with ⟨capacity, queue, _⟩
      rcases sound.at_pump pump with ⟨order, counted⟩
      rw [queue] at order
      refine ⟨?_, counted, capacity.trans sound.capacity, sound.gauge⟩
      simpa only [put, SendPump.hand, List.map_cons, List.append_nil, List.append_assoc,
        List.singleton_append] using order
  | sendExited pump ended =>
      rcases sound.at_pump pump with ⟨order, counted⟩
      exact ⟨order, counted, sound.capacity, sound.gauge⟩
  | gauged enqueued datagram pump =>
      rcases sound.at_pump pump with ⟨order, counted⟩
      refine ⟨order, counted, sound.capacity, ?_⟩
      exact sound.capacity ▸ traffic.substrate.sendQueue.queue_length_le
  | offered datagram pump =>
      rcases sound.at_pump pump with ⟨order, counted⟩
      refine ⟨?_, ?_, sound.capacity, sound.gauge⟩
      · simpa only [SendPump.hand, Substrate.offer, put, List.map_append, List.map_cons,
          List.map_nil, List.append_nil] using order
      · rw [List.length_append, List.length_singleton, counted]
        rfl
  | answered datagram result pump =>
      rcases sound.at_pump pump with ⟨order, counted⟩
      exact ⟨order, counted, sound.capacity, sound.gauge⟩
  | counted result pump =>
      rcases sound.at_pump pump with ⟨order, counted⟩
      cases result with
      | ok _ =>
          refine ⟨order, ?_, sound.capacity, sound.gauge⟩
          simp only [put, Substrate.count, counted, SendPump.uncounted]
          omega
      | error error =>
          refine ⟨order, ?_, sound.capacity, sound.gauge⟩
          simp only [put, Substrate.count, counted, SendPump.uncounted]
          omega
  | paced pump =>
      rcases sound.at_pump pump with ⟨order, counted⟩
      by_cases zero : traffic.substrate.oracle.slotInterval = 0
      · simp only [put, Substrate.pace, zero, if_true]
        exact ⟨order, counted, sound.capacity, sound.gauge⟩
      · simp only [put, Substrate.pace, zero, if_false]
        exact ⟨order, counted, sound.capacity, sound.gauge⟩
  | woken wakeAt pump reached =>
      rcases sound.at_pump pump with ⟨order, counted⟩
      exact ⟨order, counted, sound.capacity, sound.gauge⟩
  | fetched result pump =>
      cases result with
      | ok datagram => exact ⟨sound.order, sound.counted, sound.capacity, sound.gauge⟩
      | error error => exact ⟨sound.order, sound.counted, sound.capacity, sound.gauge⟩
  | _ => exact ⟨sound.order, sound.counted, sound.capacity, sound.gauge⟩

theorem flowing_of_run {kind : SubstrateKind} {oracle : OracleParams} {queueDepth : Nat}
    {schedule : List Move} {traffic : Traffic}
    (ran : run Traffic.step (start kind oracle queueDepth) schedule = some traffic) :
    Flowing (max queueDepth 1) traffic := by
  refine invariant (Flowing (max queueDepth 1)) ?_ ⟨rfl, rfl, rfl, Nat.zero_le _⟩ ran
  intro state action next sound stepped
  exact sound.step (moved_of_step stepped)

/-! ## Calls -/

/-- How often an identity is mentioned among the calls that are recorded. -/
def mentions (traffic : Traffic) (id : CallId) : Nat :=
  traffic.waiting.countP (fun call => call.id == id) +
    traffic.refused.countP (fun call => call.id == id) +
    traffic.accepted.countP (fun call => call.id == id) +
    traffic.failed.countP (fun failure => failure.1.id == id)

/-- Identities are given out once, and only callers of the backpressured sends
wait. -/
structure Registered (traffic : Traffic) : Prop where
  once : forall id, traffic.mentions id <= if id < traffic.nextCall then 1 else 0
  patient : forall call, call ∈ traffic.waiting -> call.kind ≠ .lossy

/-- A new call takes the next identity. -/
theorem Registered.enroll {traffic : Traffic} (sound : Registered traffic) {id : CallId}
    {mentioned : Nat}
    (added : mentioned <= traffic.mentions id + if traffic.nextCall == id then 1 else 0) :
    mentioned <= if id < traffic.nextCall + 1 then 1 else 0 := by
  have once := sound.once id
  by_cases same : traffic.nextCall = id
  · subst same
    rw [if_neg (Nat.lt_irrefl _)] at once
    rw [if_pos (Nat.lt_succ_self _)]
    simp only [beq_self_eq_true, if_true] at added
    omega
  · simp only [beq_eq_false_iff_ne.mpr same, Bool.false_eq_true, if_false] at added
    by_cases older : id < traffic.nextCall
    · rw [if_pos older] at once
      rw [if_pos (Nat.lt_succ_of_lt older)]
      omega
    · rw [if_neg older] at once
      omega

/-- A caller who is ready to wait. -/
theorem Registered.entered {traffic : Traffic} (sound : Registered traffic) {kind : CallKind}
    (patient : kind ≠ .lossy) (datagram : Datagram) : Registered (traffic.enter kind datagram) := by
  refine ⟨fun id => sound.enroll ?_, ?_⟩
  · simp only [mentions, enter, List.countP_append, List.countP_singleton]
    omega
  · intro call member
    rcases List.mem_append.mp member with old | new
    · exact sound.patient call old
    · rw [List.mem_singleton.mp new]
      exact patient

/-- A caller who waits no more is given an error. -/
theorem Registered.failed {traffic : Traffic} (sound : Registered traffic) {index : Nat}
    {call : Call} (located : traffic.waiting[index]? = some call) (error : SubstrateError) :
    Registered (traffic.fail index call error) := by
  refine ⟨fun id => Nat.le_trans ?_ (sound.once id), ?_⟩
  · simp only [mentions, fail, leave, List.countP_append, List.countP_singleton,
      countP_eraseIdx located]
    omega
  · exact fun other member => sound.patient other (List.mem_of_mem_eraseIdx member)

theorem Registered.step {traffic next : Traffic} {action : Move} (sound : Registered traffic)
    (moved : Moved traffic action next) : Registered next := by
  cases moved with
  | entered datagram held => exact sound.entered CallKind.noConfusion datagram
  | enteredTimeout datagram timeout held => exact sound.entered CallKind.noConfusion datagram
  | tryAccepted datagram channel held sent =>
      refine ⟨fun id => sound.enroll ?_, sound.patient⟩
      simp only [mentions, List.countP_append, List.countP_singleton]
      omega
  | tryFailed datagram error held =>
      refine ⟨fun id => sound.enroll ?_, sound.patient⟩
      simp only [mentions, List.countP_append, List.countP_singleton]
      omega
  | lossyAccepted datagram channel held sent =>
      refine ⟨fun id => sound.enroll ?_, sound.patient⟩
      simp only [mentions, List.countP_append, List.countP_singleton]
      omega
  | lossyRefused datagram held =>
      refine ⟨fun id => sound.enroll ?_, sound.patient⟩
      simp only [mentions, List.countP_append, List.countP_singleton]
      omega
  | committed index call channel located committed =>
      refine ⟨fun id => Nat.le_trans ?_ (sound.once id), ?_⟩
      · simp only [mentions, List.countP_append, List.countP_singleton,
          countP_eraseIdx located]
        omega
      · exact fun other member => sound.patient other (List.mem_of_mem_eraseIdx member)
  | expired index call deadline located kind reached => exact sound.failed located _
  | hungUp index call located gone => exact sound.failed located _
  | cancelled index call located =>
      refine ⟨fun id => Nat.le_trans ?_ (sound.once id), ?_⟩
      · simp only [mentions, leave, countP_eraseIdx located]
        omega
      · exact fun other member => sound.patient other (List.mem_of_mem_eraseIdx member)
  | dropCounted index call located =>
      refine ⟨fun id => Nat.le_trans ?_ (sound.once id), sound.patient⟩
      simp only [mentions, countP_eraseIdx located]
      omega
  | _ => exact ⟨sound.once, sound.patient⟩

theorem registered_start (kind : SubstrateKind) (oracle : OracleParams) (queueDepth : Nat) :
    Registered (start kind oracle queueDepth) :=
  ⟨fun _ => Nat.zero_le _, fun _ member => absurd member List.not_mem_nil⟩

theorem Registered.stepped (state : Traffic) (action : Move) (next : Traffic)
    (sound : Registered state) (stepped : state.step action = some next) : Registered next :=
  sound.step (moved_of_step stepped)

/-- A call that failed is not among the accepted ones. -/
theorem Registered.failed_not_accepted {traffic : Traffic} (sound : Registered traffic)
    {call other : Call} {error : SubstrateError} (failed : (call, error) ∈ traffic.failed)
    (accepted : other ∈ traffic.accepted) : other.id ≠ call.id := by
  intro same
  have once := sound.once call.id
  have first : 0 < traffic.failed.countP (fun failure => failure.1.id == call.id) :=
    List.countP_pos_iff.mpr ⟨(call, error), failed, beq_self_eq_true _⟩
  have second : 0 < traffic.accepted.countP (fun accepted => accepted.id == call.id) :=
    List.countP_pos_iff.mpr ⟨other, accepted, beq_iff_eq.mpr same⟩
  unfold mentions at once
  split at once <;> omega

/-- No call is accepted twice. -/
theorem Registered.accepted_nodup {traffic : Traffic} (sound : Registered traffic) :
    (traffic.accepted.map Call.id).Nodup := by
  rw [List.nodup_iff_count_le_one]
  intro id
  have once := sound.once id
  have counted : (traffic.accepted.map Call.id).count id =
      traffic.accepted.countP (fun call => call.id == id) := List.countP_map ..
  unfold mentions at once
  rw [counted]
  split at once <;> omega

/-! ## Lossy calls -/

/-- The lossy calls made so far, by what became of them. -/
def lossyCalls (traffic : Traffic) : Nat :=
  traffic.accepted.countP (fun call => call.kind == .lossy) +
    traffic.substrate.metrics.dropped + traffic.refused.length

theorem Moved.lossyCalls {traffic next : Traffic} {action : Move} (sound : Registered traffic)
    (moved : Moved traffic action next) :
    next.lossyCalls = traffic.lossyCalls + if Move.isLossySend action then 1 else 0 := by
  cases moved with
  | tryAccepted datagram channel held sent =>
      simp only [Traffic.lossyCalls, List.countP_append, List.countP_singleton]
      rfl
  | lossyAccepted datagram channel held sent =>
      simp only [Traffic.lossyCalls, List.countP_append, List.countP_singleton,
        Move.isLossySend, beq_self_eq_true, if_true]
      omega
  | lossyRefused datagram held =>
      simp only [Traffic.lossyCalls, List.length_append, List.length_singleton,
        Move.isLossySend, if_true]
      omega
  | committed index call channel located committed =>
      have patient := beq_eq_false_iff_ne.mpr
        (sound.patient call (List.mem_of_getElem? located))
      simp only [Traffic.lossyCalls, List.countP_append, List.countP_singleton, patient]
      rfl
  | dropCounted index call located =>
      have erased := countP_eraseIdx located (fun _ => true)
      simp only [List.countP_true, if_true] at erased
      simp only [Traffic.lossyCalls, Substrate.countDrop, Move.isLossySend, erased,
        Bool.false_eq_true, if_false]
      omega
  | counted result pump =>
      cases result with
      | ok _ => rfl
      | error error => rfl
  | fetched result pump =>
      cases result with
      | ok datagram => rfl
      | error error => rfl
  | _ => rfl

/-! ## The contract of the send side -/

/-- The send side, for a boundary with the given queue depth, after a
schedule. -/
structure SendContract (queueDepth : Nat) (schedule : List Move) (traffic : Traffic) : Prop where
  /-- The inner transport is passed the accepted datagrams in order, without
  gaps or repetitions. -/
  ordered : traffic.starts.map Prod.snd <+: traffic.accepted.map Call.datagram
  /-- Every accepted datagram is counted, queued, or the one in the pump's
  hand. -/
  accounted : traffic.accepted.length = traffic.substrate.metrics.sent +
    traffic.substrate.metrics.sendErrors + traffic.substrate.sendQueue.queue.length +
    traffic.substrate.sendPump.inHand
  oneInHand : traffic.substrate.sendPump.inHand <= 1
  acceptedOnce : (traffic.accepted.map Call.id).Nodup
  /-- A call that returned an error contributes no datagram. -/
  failedNot : forall call error, (call, error) ∈ traffic.failed ->
    call.id ∉ traffic.accepted.map Call.id
  /-- A lossy call is accepted, or counted as dropped once it returns. -/
  lossy : schedule.countP Move.isLossySend =
    traffic.accepted.countP (fun call => call.kind == .lossy) +
      traffic.substrate.metrics.dropped + traffic.refused.length
  queueBounded : traffic.substrate.sendQueue.queue.length <= max queueDepth 1
  gaugeBounded : traffic.substrate.metrics.queueDepth <= max queueDepth 1

/-- The contract holds in every reachable state: for all callers, all answers of
the inner transport and all interleavings. -/
theorem send_contract (kind : SubstrateKind) (oracle : OracleParams) (queueDepth : Nat)
    (schedule : List Move) (traffic : Traffic)
    (ran : run Traffic.step (start kind oracle queueDepth) schedule = some traffic) :
    SendContract queueDepth schedule traffic := by
  have flowing := flowing_of_run ran
  have initially := registered_start kind oracle queueDepth
  have registered := invariant Registered Registered.stepped initially ran
  have lossy := counter_of_run Registered Traffic.lossyCalls Move.isLossySend Registered.stepped
    (fun _ _ _ sound stepped => (moved_of_step stepped).lossyCalls sound) initially ran
  have lengths := congrArg List.length flowing.order
  simp only [List.length_map, List.length_append] at lengths
  exact {
    ordered := by
      rw [flowing.order, List.append_assoc]
      exact List.prefix_append _ _
    accounted := by
      rw [lengths, flowing.counted, SendPump.inHand]
      omega
    oneInHand := SendPump.inHand_le_one _
    acceptedOnce := registered.accepted_nodup
    failedNot := by
      intro call error failed member
      rcases List.mem_map.mp member with ⟨other, accepted, same⟩
      exact registered.failed_not_accepted failed accepted same
    lossy := by
      rw [← Nat.zero_add (schedule.countP _)]
      exact lossy.symm
    queueBounded := by
      rw [← flowing.capacity]
      exact Channel.queue_length_le _
    gaugeBounded := flowing.gauge }

def exampleOracle : OracleParams := ⟨3, 50, 0, 20, 1200⟩

/-- A boundary of depth one.  The pump takes the first datagram, a second one is
queued, a third caller is refused, a lossy one is dropped, and a fourth gives up
at its deadline. -/
def crowdedSchedule : List Move :=
  [.send [1], .reserve 0, .commit 0, .sendPump, .trySend [2], .trySend [3], .lossySend [4],
    .countDrop 0, .sendTimeout [5] 10, .sendPump, .sendPump, .elapse 10, .expire 0,
    .innerSent (.ok ()), .sendPump]

theorem send_contract_crowded :
    exists traffic,
      run Traffic.step (start .datagram exampleOracle 0) crowdedSchedule = some traffic ∧
      traffic.failed.map (fun failure => (failure.1.id, failure.2)) =
        [(2, .backpressure), (4, .backpressure)] ∧
      traffic.substrate.metrics.dropped = 1 ∧ traffic.substrate.metrics.sent = 1 ∧
      SendContract 0 crowdedSchedule traffic :=
  ⟨_, rfl, rfl, rfl, rfl, send_contract .datagram exampleOracle 0 crowdedSchedule _ rfl⟩

end Traffic
end Boundary
end QuicMix
