import QuicMix.Boundary.Traffic

namespace QuicMix
namespace Boundary

open Foundations

/-!
# The receive side of a boundary

While the receive pump runs, what has been delivered, what is queued and what
the pump holds spell the answers of the inner transport.  When the inner
transport fails, its error is the last thing queued, and the pump drops its
sending half; a receiver that finds the queue empty after that is told that the
boundary is closed.  The pump also ends when it finds that nobody can receive
any more, and then nobody does.
-/

/-- The answer of the inner transport that a move brings. -/
def Move.answer : Move -> Option RecvResult
  | .innerReceived result => some result
  | _ => none

/-- The place that the receive pump has reserved. -/
def reservedPlaces : RecvPump -> List Unit
  | .permitted _ => [()]
  | _ => []

namespace RecvPump

/-- The answer that the pump holds and has not queued. -/
def hand : RecvPump -> List RecvResult
  | .holding item => [item]
  | .permitted item => [item]
  | _ => []

theorem hand_length_le_one (pump : RecvPump) : pump.hand.length <= 1 := by
  cases pump <;> exact Nat.le_of_ble_eq_true rfl

end RecvPump

namespace Traffic

/-- What the pump has handed over: delivered already, or still queued. -/
def handedOver (traffic : Traffic) : List RecvResult :=
  traffic.results.map Prod.snd ++ traffic.substrate.recvQueue.queue

/-- How far the receive side has come. -/
inductive Stage (traffic : Traffic) : Prop where
  | relaying (datagrams : List Datagram) (running : traffic.substrate.recvPump ≠ .exited)
      (live : traffic.substrate.recvQueue.sendersGone = false)
      (passed : traffic.handedOver = datagrams.map .ok)
      (answers : traffic.yielded = datagrams.map .ok ++ traffic.substrate.recvPump.hand)
  | failed (datagrams : List Datagram) (error : SubstrateError) (closings : Nat)
      (exited : traffic.substrate.recvPump = .exited)
      (passed : traffic.handedOver =
        datagrams.map .ok ++ .error error :: List.replicate closings (.error .closed))
      (answers : traffic.yielded = datagrams.map .ok ++ [.error error])
      (drained : closings = 0 ∨ traffic.substrate.recvQueue.queue = [])
  | unread (datagrams : List Datagram) (item : RecvResult)
      (exited : traffic.substrate.recvPump = .exited) (unheld : traffic.held = false)
      (passed : traffic.handedOver = datagrams.map .ok)
      (answers : traffic.yielded = datagrams.map .ok ++ [item])

structure Relaying (depth : Nat) (traffic : Traffic) : Prop where
  stage : Stage traffic
  counted : traffic.substrate.metrics.received = traffic.yielded.countP Except.isOk
  capacity : traffic.substrate.recvQueue.capacity = depth
  /-- Only the last handle's drop takes the reader away. -/
  unheld : traffic.substrate.recvQueue.receiverGone = true -> traffic.held = false
  unlocked : traffic.held = false -> traffic.holder = none
  lockOrder : (traffic.results.map Prod.fst ++ traffic.holder.toList).Sublist traffic.locked
  lockedOnce : traffic.locked = List.range traffic.nextRecv

/-- A stage depends on a few parts of the state only. -/
theorem Stage.congr {traffic next : Traffic} (stage : Stage traffic)
    (passed : next.handedOver = traffic.handedOver)
    (queue : next.substrate.recvQueue.queue = traffic.substrate.recvQueue.queue)
    (live : next.substrate.recvQueue.sendersGone = traffic.substrate.recvQueue.sendersGone)
    (pump : next.substrate.recvPump = traffic.substrate.recvPump)
    (answers : next.yielded = traffic.yielded)
    (held : traffic.held = false -> next.held = false) : Stage next := by
  cases stage with
  | relaying datagrams running live' passed' answers' =>
      exact .relaying datagrams (pump ▸ running) (live.trans live') (passed.trans passed')
        (by rw [answers, answers', pump])
  | failed datagrams error closings exited passed' answers' drained =>
      exact .failed datagrams error closings (pump.trans exited) (passed.trans passed')
        (answers.trans answers') (queue ▸ drained)
  | unread datagrams item exited unheld passed' answers' =>
      exact .unread datagrams item (pump.trans exited) (held unheld) (passed.trans passed')
        (answers.trans answers')

/-- While the pump is inside its loop, the boundary is relaying. -/
theorem Stage.running {traffic : Traffic} {pump : RecvPump} (stage : Stage traffic)
    (same : traffic.substrate.recvPump = pump) (running : pump ≠ .exited) :
    traffic.substrate.recvQueue.sendersGone = false ∧
    exists datagrams : List Datagram, traffic.handedOver = datagrams.map .ok ∧
      traffic.yielded = datagrams.map .ok ++ pump.hand := by
  subst same
  cases stage with
  | relaying datagrams running live passed answers => exact ⟨live, datagrams, passed, answers⟩
  | failed datagrams error closings exited passed answers drained => exact absurd exited running
  | unread datagrams item exited unheld passed answers => exact absurd exited running

/-- The stage after a move. -/
theorem Relaying.stage_step {depth : Nat} {traffic next : Traffic} {action : Move}
    (sound : Relaying depth traffic) (moved : Moved traffic action next) : Stage next := by
  cases moved with
  | fetched result pump =>
      rcases sound.stage.running pump RecvPump.noConfusion with ⟨live, datagrams, passed, answers⟩
      simp only [RecvPump.hand, List.append_nil] at answers
      cases result with
      | ok datagram =>
          exact .relaying datagrams RecvPump.noConfusion live passed (by rw [answers]; rfl)
      | error error =>
          exact .relaying datagrams RecvPump.noConfusion live passed (by rw [answers]; rfl)
  | recvUnread item pump gone =>
      rcases sound.stage.running pump RecvPump.noConfusion with ⟨live, datagrams, passed, answers⟩
      exact .unread datagrams item rfl (sound.unheld gone) passed answers
  | recvReserved item channel pump reserved =>
      rcases sound.stage.running pump RecvPump.noConfusion with ⟨live, datagrams, passed, answers⟩
      rcases Channel.reserve_eq_some reserved with ⟨_, queue, _, senders⟩
      refine .relaying datagrams RecvPump.noConfusion (senders.trans live) ?_ answers
      rw [← passed]
      exact congrArg (traffic.results.map Prod.snd ++ ·) queue
  | recvQueued datagram channel pump committed =>
      rcases sound.stage.running pump RecvPump.noConfusion with ⟨live, datagrams, passed, answers⟩
      rcases Channel.commit_eq_some committed with ⟨_, queue, _, senders⟩
      refine .relaying (datagrams ++ [datagram]) RecvPump.noConfusion (senders.trans live) ?_ ?_
      · rw [List.map_append, ← passed, handedOver, handedOver, List.append_assoc]
        exact congrArg (traffic.results.map Prod.snd ++ ·) queue
      · change traffic.yielded = _
        rw [answers, List.map_append]
        exact (List.append_nil _).symm
  | recvFailed error channel pump committed =>
      rcases sound.stage.running pump RecvPump.noConfusion with ⟨live, datagrams, passed, answers⟩
      rcases Channel.commit_eq_some committed with ⟨_, queue, _, senders⟩
      refine .failed datagrams error 0 rfl ?_ answers (.inl rfl)
      rw [List.replicate_zero, ← passed, handedOver, handedOver, List.append_assoc]
      exact congrArg (traffic.results.map Prod.snd ++ ·) queue
  | delivered id item channel holder taken =>
      rcases Channel.recv_eq_message taken with ⟨_, queue, _, senders⟩
      have passed : handedOver { traffic.put { traffic.substrate with recvQueue := channel } with
          holder := none
          results := traffic.results ++ [(id, item)] } = traffic.handedOver := by
        simp only [handedOver, put, queue, List.map_append, List.map_cons, List.map_nil,
          List.append_assoc, List.singleton_append]
      cases sound.stage with
      | relaying datagrams running live passed' answers =>
          exact .relaying datagrams running (senders.trans live) (passed.trans passed') answers
      | failed datagrams error closings exited passed' answers drained =>
          refine .failed datagrams error closings exited (passed.trans passed') answers (.inl ?_)
          rcases drained with none | empty
          · exact none
          · rw [queue] at empty
            cases empty
      | unread datagrams item exited unheld passed' answers =>
          rw [sound.unlocked unheld] at holder
          cases holder
  | deliveredClosed id holder ended =>
      rcases Channel.recv_eq_ended ended with ⟨empty, gone⟩
      cases sound.stage with
      | relaying datagrams running live passed answers =>
          rw [live] at gone
          cases gone
      | failed datagrams error closings exited passed answers drained =>
          refine .failed datagrams error (closings + 1) exited ?_ answers (.inr empty)
          rw [handedOver, empty, List.append_nil] at passed
          simp only [handedOver, empty, List.append_nil, List.map_append, List.map_cons,
            List.map_nil, passed, List.append_assoc, List.cons_append, List.replicate_succ']
      | unread datagrams item exited unheld passed answers =>
          rw [sound.unlocked unheld] at holder
          cases holder
  | locked held free => exact sound.stage.congr rfl rfl rfl rfl rfl id
  | dropped held quiet => exact sound.stage.congr rfl rfl rfl rfl rfl (fun _ => rfl)
  | counted result pump =>
      cases result with
      | ok _ => exact sound.stage.congr rfl rfl rfl rfl rfl id
      | error error => exact sound.stage.congr rfl rfl rfl rfl rfl id
  | _ => exact sound.stage.congr rfl rfl rfl rfl rfl id

theorem Relaying.step {depth : Nat} {traffic next : Traffic} {action : Move}
    (sound : Relaying depth traffic) (moved : Moved traffic action next) :
    Relaying depth next := by
  have stage := sound.stage_step moved
  rcases sound with ⟨_, counted, capacity, unheld, unlocked, lockOrder, lockedOnce⟩
  cases moved with
  | fetched result pump =>
      refine ⟨stage, ?_, ?_, ?_, unlocked, lockOrder, lockedOnce⟩
      · rw [List.countP_append, ← counted]
        cases result <;> rfl
      · cases result <;> exact capacity
      · cases result <;> exact unheld
  | recvReserved item channel pump reserved =>
      rcases Channel.reserve_eq_some reserved with ⟨size, _, reader, _⟩
      exact ⟨stage, counted, size.trans capacity, fun gone => unheld (reader.symm.trans gone),
        unlocked, lockOrder, lockedOnce⟩
  | recvQueued datagram channel pump committed =>
      rcases Channel.commit_eq_some committed with ⟨size, _, reader, _⟩
      exact ⟨stage, counted, size.trans capacity, fun gone => unheld (reader.symm.trans gone),
        unlocked, lockOrder, lockedOnce⟩
  | recvFailed error channel pump committed =>
      rcases Channel.commit_eq_some committed with ⟨size, _, reader, _⟩
      exact ⟨stage, counted, size.trans capacity, fun gone => unheld (reader.symm.trans gone),
        unlocked, lockOrder, lockedOnce⟩
  | locked held free =>
      refine ⟨stage, counted, capacity, unheld, ?_, ?_, ?_⟩
      · intro gone
        rw [held] at gone
        cases gone
      · rw [free, Option.toList_none, List.append_nil] at lockOrder
        exact lockOrder.append (List.Sublist.refl _)
      · rw [lockedOnce, List.range_succ]
  | delivered id item channel holder taken =>
      rcases Channel.recv_eq_message taken with ⟨size, _, reader, _⟩
      refine ⟨stage, counted, size.trans capacity,
        fun gone => unheld (reader.symm.trans gone), fun _ => rfl, ?_, lockedOnce⟩
      rw [holder] at lockOrder
      simpa only [put, List.map_append, List.map_cons, List.map_nil, Option.toList_none,
        Option.toList_some, List.append_nil] using lockOrder
  | deliveredClosed id holder ended =>
      refine ⟨stage, counted, capacity, unheld, fun _ => rfl, ?_, lockedOnce⟩
      rw [holder] at lockOrder
      simpa only [List.map_append, List.map_cons, List.map_nil, Option.toList_none,
        Option.toList_some, List.append_nil] using lockOrder
  | recvCancelled held =>
      refine ⟨stage, counted, capacity, unheld, fun _ => rfl, ?_, lockedOnce⟩
      exact (List.Sublist.append_left (List.nil_sublist _) _).trans lockOrder
  | dropped held quiet =>
      refine ⟨stage, counted, capacity, fun _ => rfl, fun _ => ?_, lockOrder, lockedOnce⟩
      simp only [occupied, Bool.or_eq_false_iff, Option.isSome_eq_false_iff,
        Option.isNone_iff_eq_none] at quiet
      exact quiet.2
  | counted result pump =>
      cases result with
      | ok _ => exact ⟨stage, counted, capacity, unheld, unlocked, lockOrder, lockedOnce⟩
      | error error => exact ⟨stage, counted, capacity, unheld, unlocked, lockOrder, lockedOnce⟩
  | _ => exact ⟨stage, counted, capacity, unheld, unlocked, lockOrder, lockedOnce⟩

theorem relaying_of_run {kind : SubstrateKind} {oracle : OracleParams} {queueDepth : Nat}
    {schedule : List Move} {traffic : Traffic}
    (ran : run Traffic.step (start kind oracle queueDepth) schedule = some traffic) :
    Relaying (max queueDepth 1) traffic := by
  refine invariant (Relaying (max queueDepth 1)) ?_ ?_ ran
  · intro state action next sound stepped
    exact sound.step (moved_of_step stepped)
  · exact ⟨.relaying [] RecvPump.noConfusion rfl rfl rfl, rfl, rfl, nofun, nofun,
      List.Sublist.refl _, rfl⟩

theorem Moved.yielded {traffic next : Traffic} {action : Move}
    (moved : Moved traffic action next) :
    next.yielded = traffic.yielded ++ action.answer.toList := by
  cases moved with
  | fetched result pump => rfl
  | _ => exact (List.append_nil _).symm

/-- All datagrams that the inner transport yielded were handed over, except
perhaps one. -/
theorem Stage.received {traffic : Traffic} (stage : Stage traffic) :
    traffic.handedOver.countP Except.isOk <= traffic.yielded.countP Except.isOk ∧
    traffic.yielded.countP Except.isOk <= traffic.handedOver.countP Except.isOk + 1 := by
  cases stage with
  | relaying datagrams running live passed answers =>
      have one := Nat.le_trans (List.countP_le_length (p := Except.isOk))
        traffic.substrate.recvPump.hand_length_le_one
      rw [passed, answers, List.countP_append]
      omega
  | failed datagrams error closings exited passed answers drained =>
      have none : (List.replicate closings (Except.error .closed : RecvResult)).countP
          Except.isOk = 0 := List.countP_replicate ..
      have last : [(Except.error error : RecvResult)].countP Except.isOk = 0 := rfl
      rw [passed, answers, List.countP_append, List.countP_append, List.countP_cons, none, last]
      exact ⟨Nat.le_refl _, Nat.le_succ _⟩
  | unread datagrams item exited unheld passed answers =>
      have one : [item].countP Except.isOk <= 1 := List.countP_le_length
      rw [passed, answers, List.countP_append]
      omega

/-! ## The contract of the receive side -/

/-- The answers of an inner transport that yields the datagrams and then fails,
or does not fail. -/
def script (datagrams : List Datagram) (failure : Option SubstrateError) : List RecvResult :=
  datagrams.map .ok ++ failure.toList.map .error

/-- What receivers of such a transport are given: after the failure, the given
number of them are told that the boundary is closed. -/
def deliveries (datagrams : List Datagram) (failure : Option SubstrateError)
    (closings : Nat) : List RecvResult :=
  match failure with
  | none => datagrams.map .ok
  | some error => datagrams.map .ok ++ .error error :: List.replicate closings (.error .closed)

theorem script_prefix_deliveries (datagrams : List Datagram) (failure : Option SubstrateError)
    (closings : Nat) : script datagrams failure <+: deliveries datagrams failure closings := by
  cases failure with
  | none =>
      simp only [script, deliveries, Option.toList_none, List.map_nil, List.append_nil,
        List.prefix_refl]
  | some error =>
      refine ⟨List.replicate closings (.error .closed), ?_⟩
      simp only [script, deliveries, Option.toList_some, List.map_cons, List.map_nil,
        List.append_assoc, List.singleton_append]

/-- A script that has failed is complete. -/
theorem script_of_failed {before datagrams : List Datagram} {error : SubstrateError}
    {failure : Option SubstrateError}
    (answered : before.map .ok ++ [.error error] <+: script datagrams failure) :
    before = datagrams ∧ failure = some error := by
  induction before generalizing datagrams with
  | nil =>
      cases datagrams with
      | nil =>
          cases failure with
          | none => cases List.prefix_nil.mp answered
          | some last =>
              cases (List.cons_prefix_cons.mp answered).1
              exact ⟨rfl, rfl⟩
      | cons datagram rest => cases (List.cons_prefix_cons.mp answered).1
  | cons first before inductionHypothesis =>
      cases datagrams with
      | nil =>
          cases failure with
          | none => cases List.prefix_nil.mp answered
          | some last => cases (List.cons_prefix_cons.mp answered).1
      | cons datagram rest =>
          rcases List.cons_prefix_cons.mp answered with ⟨head, tail⟩
          cases head
          rcases inductionHypothesis tail with ⟨same, failed⟩
          exact ⟨by rw [same], failed⟩

theorem Stage.delivered {traffic : Traffic} (stage : Stage traffic)
    {datagrams : List Datagram} {failure : Option SubstrateError}
    (inner : traffic.yielded <+: script datagrams failure) :
    exists closings, traffic.results.map Prod.snd <+: deliveries datagrams failure closings := by
  have taken : traffic.results.map Prod.snd <+: traffic.handedOver := List.prefix_append _ _
  cases stage with
  | relaying before running live passed answers =>
      rw [answers] at inner
      rw [passed] at taken
      exact ⟨0, taken.trans ((List.prefix_append _ _).trans
        (inner.trans (script_prefix_deliveries _ _ _)))⟩
  | failed before error closings exited passed answers drained =>
      rw [answers] at inner
      rcases script_of_failed inner with ⟨same, failed⟩
      subst same failed
      rw [passed] at taken
      exact ⟨closings, taken⟩
  | unread before item exited unheld passed answers =>
      rw [answers] at inner
      rw [passed] at taken
      exact ⟨0, taken.trans ((List.prefix_append _ _).trans
        (inner.trans (script_prefix_deliveries _ _ _)))⟩

/-- Let the inner transport answer with the datagrams in turn and then, if at
all, with one error.  In every reachable state the receivers, in the order in
which they obtained the lock, were given a beginning of the datagrams, the
error, and closed for ever; and the counter of received datagrams is ahead of
the delivered ones by at most the queue and the pump's hand. -/
theorem recv_contract (kind : SubstrateKind) (oracle : OracleParams) (queueDepth : Nat)
    (datagrams : List Datagram) (failure : Option SubstrateError) (schedule : List Move)
    (traffic : Traffic)
    (inner : schedule.filterMap Move.answer <+: script datagrams failure)
    (ran : run Traffic.step (start kind oracle queueDepth) schedule = some traffic) :
    (exists closings,
      traffic.results.map Prod.snd <+: deliveries datagrams failure closings) ∧
    (traffic.results.map Prod.fst).Sublist traffic.locked ∧ traffic.locked.Nodup ∧
    traffic.results.countP (fun result => result.2.isOk) <=
      traffic.substrate.metrics.received ∧
    traffic.substrate.metrics.received <=
      traffic.results.countP (fun result => result.2.isOk) + max queueDepth 1 + 1 := by
  have sound := relaying_of_run ran
  have recorded := record_of_run Traffic.yielded Move.answer
    (fun _ _ _ stepped => (moved_of_step stepped).yielded) ran
  have inOrder : (traffic.results.map Prod.fst).Sublist traffic.locked :=
    (List.sublist_append_left _ _).trans sound.lockOrder
  have counted : (traffic.results.map Prod.snd).countP Except.isOk =
      traffic.results.countP (fun result => result.2.isOk) := List.countP_map ..
  have queued : traffic.substrate.recvQueue.queue.countP Except.isOk <= max queueDepth 1 := by
    rw [← sound.capacity]
    exact Nat.le_trans List.countP_le_length (Channel.queue_length_le _)
  have received := sound.stage.received
  rw [handedOver, List.countP_append, counted, ← sound.counted] at received
  refine ⟨sound.stage.delivered (recorded ▸ inner), inOrder, ?_, ?_, ?_⟩
  · rw [sound.lockedOnce]
    exact List.nodup_range
  · omega
  · omega

/-- A boundary of depth one over a transport that yields two datagrams and then
rejects; four receivers take turns. -/
def rejectedSchedule : List Move :=
  [.innerReceived (.ok [1]), .lockRecv, .recvPump, .recvPump, .innerReceived (.ok [2]),
    .takeRecv, .recvPump, .recvPump, .innerReceived (.error .remoteRejected), .lockRecv,
    .takeRecv, .recvPump, .recvPump, .lockRecv, .takeRecv, .lockRecv, .takeRecv]

theorem recv_contract_rejected :
    exists traffic,
      run Traffic.step (start .datagram ⟨3, 50, 0, 20, 1200⟩ 0) rejectedSchedule =
        some traffic ∧
      traffic.results.map Prod.snd =
        [.ok [1], .ok [2], .error .remoteRejected, .error .closed] ∧
      (exists closings, traffic.results.map Prod.snd <+:
        deliveries [[1], [2]] (some .remoteRejected) closings) ∧
      traffic.substrate.metrics.received <= 4 :=
  have contract := recv_contract .datagram ⟨3, 50, 0, 20, 1200⟩ 0 [[1], [2]]
    (some .remoteRejected) rejectedSchedule _ (List.prefix_refl _) rfl
  ⟨_, rfl, rfl, contract.1, contract.2.2.2.2⟩

end Traffic
end Boundary
end QuicMix
