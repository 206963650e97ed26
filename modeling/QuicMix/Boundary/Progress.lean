import QuicMix.Boundary.ReceiveSide
import QuicMix.Boundary.Spent

namespace QuicMix
namespace Boundary

open Foundations

/-!
# Stacks that still answer

Nothing inside a boundary holds up its receive path for good: the queue has a reader
and a place, the only permit is that of the pump, and the pump leaves by dropping
its sending half.  So the tasks inside a stack can always bring the next answer,
and a spent stack can always be brought to its error.
-/

namespace Stack

/-- The receive path of a boundary is whole. -/
structure Receiving (boundary : Substrate) : Prop where
  place : 0 < boundary.recvQueue.capacity
  read : boundary.recvQueue.receiverGone = false
  permits : boundary.recvQueue.permits = reservedPlaces boundary.recvPump
  ended : boundary.recvPump = .exited -> boundary.recvQueue.sendersGone = true

/-- The receive paths of all boundaries of the stack are whole. -/
def Wired : Stack -> Prop
  | .leaf _ => True
  | .substrate boundary _ inner => Receiving boundary ∧ inner.Wired
  | .striped _ _ _ _ subs => forall index, (subs index).Wired

/-- A `recv` would be answered. -/
def Ready (stack : Stack) : Prop :=
  forall answer, exists taken, stack.recv answer = some taken

/-- A task moves in the layer that its path leads to. -/
def work (clock : Instant) (stack : Stack) (task : List Nat × Task) : Option Stack :=
  stack.performAt clock task.2 task.1

/-- The tasks inside can bring an answer. -/
def Answerable (clock : Instant) (stack : Stack) : Prop :=
  exists tasks after, run (work clock) stack tasks = some after ∧ after.Ready

/-! ## What keeps the receive paths whole -/

theorem Receiving.congr {boundary moved : Substrate} (receiving : Receiving boundary)
    (same : moved.recvQueue = boundary.recvQueue ∧ moved.recvPump = boundary.recvPump) :
    Receiving moved := by
  rcases same with ⟨queue, pump⟩
  refine ⟨?_, ?_, ?_, ?_⟩
  · rw [queue]
    exact receiving.place
  · rw [queue]
    exact receiving.read
  · rw [queue, pump]
    exact receiving.permits
  · rw [queue, pump]
    exact receiving.ended

theorem Receiving.recv {boundary taken : Substrate} {result : RecvResult}
    (receiving : Receiving boundary) (received : boundary.recv = some (result, taken)) :
    Receiving taken := by
  unfold Substrate.recv at received
  cases answer : boundary.recvQueue.recv with
  | message item channel =>
      rw [answer] at received
      cases received
      rcases Channel.recv_eq_message answer with ⟨size, _, reader, senders⟩
      exact ⟨size ▸ receiving.place, reader.trans receiving.read,
        (Channel.permits_of_recv answer).trans receiving.permits,
        fun exited => senders.trans (receiving.ended exited)⟩
  | pending =>
      rw [answer] at received
      cases received
  | ended =>
      rw [answer] at received
      cases received
      exact receiving

theorem Receiving.fetch {boundary : Substrate} (receiving : Receiving boundary)
    (polling : boundary.recvPump = .polling) (result : RecvResult) :
    Receiving (boundary.fetch result) := by
  have permits := receiving.permits
  rw [polling] at permits
  cases result with
  | ok datagram => exact ⟨receiving.place, receiving.read, permits, RecvPump.noConfusion⟩
  | error error => exact ⟨receiving.place, receiving.read, permits, RecvPump.noConfusion⟩

theorem Receiving.pumpRecv {boundary moved : Substrate} (receiving : Receiving boundary)
    (pumped : boundary.pumpRecv = some moved) : Receiving moved := by
  have permits := receiving.permits
  cases pump : boundary.recvPump with
  | polling => simp only [Substrate.pumpRecv, pump, reduceCtorEq] at pumped
  | holding item =>
      rw [pump] at permits
      simp only [Substrate.pumpRecv, pump, Substrate.recvReserve, receiving.read,
        Bool.false_eq_true, if_false] at pumped
      cases reserved : boundary.recvQueue.reserve () with
      | none => simp only [reserved, reduceCtorEq] at pumped
      | some channel =>
          simp only [reserved, Option.some.injEq] at pumped
          subst pumped
          rcases Channel.reserve_eq_some reserved with ⟨size, _, reader, _⟩
          refine ⟨size ▸ receiving.place, reader.trans receiving.read, ?_, RecvPump.noConfusion⟩
          change channel.permits = [()]
          rw [Channel.permits_of_reserve reserved, permits]
          rfl
  | permitted item =>
      rw [pump] at permits
      simp only [Substrate.pumpRecv, pump, Substrate.recvCommit] at pumped
      cases committed : boundary.recvQueue.commit () item with
      | none => simp only [committed, reduceCtorEq] at pumped
      | some channel =>
          rcases Channel.commit_eq_some committed with ⟨size, _, reader, _⟩
          have free : channel.permits = [] := by
            rw [Channel.permits_of_commit committed, permits]
            rfl
          simp only [committed] at pumped
          cases item with
          | ok datagram =>
              cases pumped
              exact ⟨size ▸ receiving.place, reader.trans receiving.read, free,
                RecvPump.noConfusion⟩
          | error error =>
              cases pumped
              exact ⟨size ▸ receiving.place, reader.trans receiving.read, free, fun _ => rfl⟩
  | exited => simp only [Substrate.pumpRecv, pump, reduceCtorEq] at pumped

theorem Wired.send {stack : Stack} (wired : stack.Wired) (clock : Instant)
    (datagram : Datagram) (verdict : SendResult) :
    (stack.send clock datagram verdict).Wired := by
  induction stack with
  | leaf base => trivial
  | substrate boundary kept inner _ =>
      exact ⟨wired.1.congr (sendBoundary_recv boundary clock datagram), wired.2⟩
  | striped count next merged running subs inductionHypothesis =>
      by_cases positive : 0 < count
      · simp only [Stack.send, positive, dite_true]
        exact forall_update wired (inductionHypothesis _ (wired _)) _
      · simp only [Stack.send, positive, dite_false]
        exact wired

theorem Wired.trySend {stack : Stack} (wired : stack.Wired) (clock : Instant)
    (datagram : Datagram) (verdict : SendResult) :
    (stack.trySend clock datagram verdict).2.Wired := by
  cases stack with
  | leaf base => trivial
  | substrate boundary kept inner => exact wired.send clock datagram verdict
  | striped count next merged running subs => exact wired.send clock datagram verdict

theorem Wired.recv {stack after : Stack} {answer : Option RecvResult}
    {datagram : Option Datagram} (wired : stack.Wired)
    (received : stack.recv answer = some (datagram, after)) : after.Wired := by
  cases stack with
  | leaf base => rcases answer with _ | _ | _ <;> cases received <;> trivial
  | substrate boundary kept inner =>
      rcases recv_boundary received with ⟨item, taken, result, _, rfl⟩
      exact ⟨wired.1.recv result, wired.2⟩
  | striped count next merged running subs =>
      rcases recv_striped received with ⟨rest, _, rfl⟩
      exact wired

theorem Wired.tryRecv {stack after : Stack} {answer result : RecvResult} (wired : stack.Wired)
    (received : stack.tryRecv answer = some (result, after)) : after.Wired := by
  cases decorated : stack.isLeaf with
  | true =>
      cases stack with
      | leaf base =>
          cases received
          trivial
      | substrate boundary kept inner => cases decorated
      | striped count next merged running subs => cases decorated
  | false =>
      rcases recv_of_tryRecv decorated received with ⟨datagram, inside, _⟩
      exact wired.recv inside

theorem Wired.perform {stack after : Stack} {clock : Instant} {task : Task} (wired : stack.Wired)
    (performed : stack.perform clock task = some after) : after.Wired := by
  cases performed_of_perform performed with
  | pumpedSend pumped => exact ⟨wired.1.congr (pumpSend_recv pumped), wired.2⟩
  | sent pump => exact ⟨wired.1.congr ⟨rfl, rfl⟩, wired.2.trySend _ _ _⟩
  | pumpedRecv pumped => exact ⟨wired.1.pumpRecv pumped, wired.2⟩
  | received pump received => exact ⟨wired.1.fetch pump _, wired.2.tryRecv received⟩
  | merged runs received => exact forall_update wired (Wired.recv (wired _) received) _
  | ended runs received => exact forall_update wired (Wired.recv (wired _) received) _

theorem Wired.performAt {path : List Nat} {stack after : Stack} {clock : Instant} {task : Task}
    (wired : stack.Wired) (performed : stack.performAt clock task path = some after) :
    after.Wired := by
  induction path generalizing stack after with
  | nil => exact wired.perform performed
  | cons index path inductionHypothesis =>
      cases stack with
      | leaf base => cases performed
      | substrate boundary kept inner =>
          rcases performAt_boundary performed with ⟨moved, inside, rfl⟩
          exact ⟨wired.1, inductionHypothesis wired.2 inside⟩
      | striped count next merged running subs =>
          rcases performAt_striped performed with ⟨bound, moved, inside, rfl⟩
          exact forall_update wired (inductionHypothesis (wired _) inside) _

theorem Fresh.wired {stack : Stack} (fresh : Fresh stack) : stack.Wired := by
  induction fresh with
  | leaf => trivial
  | substrate kind oracle queueDepth inner _ inductionHypothesis =>
      refine ⟨⟨?_, rfl, rfl, RecvPump.noConfusion⟩, inductionHypothesis⟩
      exact Nat.lt_of_lt_of_le Nat.one_pos (Nat.le_max_right queueDepth 1)
  | striped subs _ inductionHypothesis => exact inductionHypothesis

/-! ## The next answer -/

theorem Answerable.of_run {clock : Instant} {stack middle : Stack} {tasks : List (List Nat × Task)}
    (ran : run (work clock) stack tasks = some middle) (answerable : Answerable clock middle) :
    Answerable clock stack := by
  rcases answerable with ⟨more, after, ranMore, ready⟩
  exact ⟨tasks ++ more, after, run_append_eq_some.mpr ⟨middle, ran, ranMore⟩, ready⟩

/-- The outermost layer moves first. -/
theorem Answerable.of_perform {clock : Instant} {stack middle : Stack} {task : Task}
    (performed : stack.perform clock task = some middle) (answerable : Answerable clock middle) :
    Answerable clock stack := by
  have ran : run (work clock) stack [([], task)] = some middle :=
    run_cons.mpr ⟨middle, performed, rfl⟩
  exact .of_run ran answerable

theorem Ready.answerable {stack : Stack} (ready : stack.Ready) (clock : Instant) :
    Answerable clock stack :=
  ⟨[], stack, rfl, ready⟩

theorem Ready.tryRecv {stack : Stack} (ready : stack.Ready) (answer : RecvResult) :
    exists result after, stack.tryRecv answer = some (result, after) := by
  rcases ready (some answer) with ⟨⟨datagram, after⟩, received⟩
  cases stack with
  | leaf base => exact ⟨_, _, rfl⟩
  | substrate boundary kept inner =>
      refine ⟨okOrClosed datagram, after, ?_⟩
      simp only [Stack.tryRecv, received]
  | striped count next merged running subs =>
      refine ⟨okOrClosed datagram, after, ?_⟩
      simp only [Stack.tryRecv, received]

/-- A boundary that keeps a caller waiting has nothing queued, and its pump may
still queue something. -/
theorem recv_eq_none {boundary : Substrate} (waits : boundary.recv = none) :
    boundary.recvQueue.queue = [] ∧ boundary.recvQueue.sendersGone = false := by
  unfold Substrate.recv at waits
  cases answer : boundary.recvQueue.recv with
  | message item channel =>
      rw [answer] at waits
      cases waits
  | pending => exact ⟨Channel.recv_eq_pending answer, Channel.sendersGone_of_pending answer⟩
  | ended =>
      rw [answer] at waits
      cases waits

theorem ready_boundary {boundary : Substrate} (kept : Nat) (inner : Stack)
    (answers : boundary.recv ≠ none) : (Stack.substrate boundary kept inner).Ready := by
  intro answer
  cases result : boundary.recv with
  | none => exact absurd result answers
  | some taken =>
      rcases taken with ⟨item, taken⟩
      cases item with
      | ok datagram =>
          refine ⟨(some datagram, .substrate taken kept inner), ?_⟩
          simp only [Stack.recv, result]
      | error error =>
          refine ⟨(none, .substrate taken kept inner), ?_⟩
          simp only [Stack.recv, result]

/-- The pump queues what it has a permit for. -/
theorem answerable_permitted {boundary : Substrate} {item : RecvResult}
    (receiving : Receiving boundary) (pump : boundary.recvPump = .permitted item) (clock : Instant)
    (kept : Nat) (inner : Stack) : Answerable clock (.substrate boundary kept inner) := by
  have permits := receiving.permits
  rw [pump] at permits
  have held : () ∈ boundary.recvQueue.permits := by
    rw [permits]
    exact List.mem_singleton_self ()
  rcases Channel.exists_commit held item with ⟨channel, committed⟩
  have queue := (Channel.commit_eq_some committed).2.1
  have queued : exists moved, boundary.pumpRecv = some moved ∧
      moved.recvQueue.queue = channel.queue := by
    simp only [Substrate.pumpRecv, pump, Substrate.recvCommit, committed]
    cases item with
    | ok datagram => exact ⟨_, rfl, rfl⟩
    | error error => exact ⟨_, rfl, rfl⟩
  rcases queued with ⟨moved, pumped, same⟩
  have performed : (Stack.substrate boundary kept inner).perform clock .recvPump =
      some (.substrate moved kept inner) := by
    simp only [Stack.perform, pumped]
  refine .of_perform performed ((ready_boundary kept inner ?_).answerable clock)
  intro waits
  have empty := (recv_eq_none waits).1
  rw [same, queue] at empty
  exact List.append_ne_nil_of_right_ne_nil _ (List.cons_ne_nil _ _) empty

/-- The pump finds a place for what it holds, unless something is queued already. -/
theorem answerable_holding {boundary : Substrate} {item : RecvResult}
    (receiving : Receiving boundary) (pump : boundary.recvPump = .holding item) (clock : Instant)
    (kept : Nat) (inner : Stack) : Answerable clock (.substrate boundary kept inner) := by
  by_cases waits : boundary.recv = none
  · have free := receiving.permits
    rw [pump] at free
    rcases Channel.exists_reserve receiving.place (recv_eq_none waits).1 free () with
      ⟨channel, reserved⟩
    have pumped : boundary.pumpRecv =
        some { boundary with recvQueue := channel, recvPump := .permitted item } := by
      simp only [Substrate.pumpRecv, pump, Substrate.recvReserve, receiving.read,
        Bool.false_eq_true, if_false, reserved]
    have performed : (Stack.substrate boundary kept inner).perform clock .recvPump =
        some (.substrate { boundary with recvQueue := channel, recvPump := .permitted item }
          kept inner) := by
      simp only [Stack.perform, pumped]
    exact .of_perform performed
      (answerable_permitted (receiving.pumpRecv pumped) rfl clock kept inner)
  · exact (ready_boundary kept inner waits).answerable clock

/-- The tasks below a boundary leave it alone. -/
theorem run_below {clock : Instant} {inner after : Stack} {tasks : List (List Nat × Task)}
    (boundary : Substrate) (kept : Nat) (ran : run (work clock) inner tasks = some after) :
    run (work clock) (.substrate boundary kept inner)
      (tasks.map (fun task => (0 :: task.1, task.2))) = some (.substrate boundary kept after) := by
  refine run_inside (Stack.substrate boundary kept) _ ?_ ran
  intro stack task next moved
  unfold work at moved
  simp only [work, Stack.performAt, moved]

/-- The tasks of one of the striped transports leave the others alone. -/
theorem run_beside {count next : Nat} {merged : List Datagram} {running : Fin count -> Bool}
    {clock : Instant} {subs : Fin count -> Stack} {index : Fin count} {after : Stack}
    {tasks : List (List Nat × Task)} (ran : run (work clock) (subs index) tasks = some after) :
    run (work clock) (.striped count next merged running subs)
      (tasks.map (fun task => (index.val :: task.1, task.2))) =
        some (.striped count next merged running (Function.update subs index after)) := by
  have inside : run (work clock)
      (.striped count next merged running (Function.update subs index (subs index)))
        (tasks.map (fun task => (index.val :: task.1, task.2))) =
          some (.striped count next merged running (Function.update subs index after)) := by
    refine run_inside (fun sub =>
      Stack.striped count next merged running (Function.update subs index sub)) _ ?_ ran
    intro sub task next moved
    unfold work at moved
    simp only [work, Stack.performAt, index.isLt, dite_true, Fin.eta, Function.update_self, moved,
      Function.update_idem]
  rwa [Function.update_eq_self] at inside

/-- The pump passes on what the inner transport answers. -/
theorem answerable_boundary {boundary : Substrate} {clock : Instant} {inner : Stack}
    (receiving : Receiving boundary) (answerable : Answerable clock inner) (kept : Nat) :
    Answerable clock (.substrate boundary kept inner) := by
  cases pump : boundary.recvPump with
  | polling =>
      rcases answerable with ⟨tasks, after, ran, ready⟩
      rcases ready.tryRecv (.ok []) with ⟨result, moved, received⟩
      have performed : (Stack.substrate boundary kept after).perform clock (.innerRecv (.ok [])) =
          some (.substrate (boundary.fetch result) kept moved) := by
        simp only [Stack.perform, innerRecv, pump, received]
      have holding : (boundary.fetch result).recvPump = .holding result := by
        cases result <;> rfl
      exact .of_run (run_below boundary kept ran) (.of_perform performed
        (answerable_holding (receiving.fetch pump result) holding clock kept moved))
  | holding item => exact answerable_holding receiving pump clock kept inner
  | permitted item => exact answerable_permitted receiving pump clock kept inner
  | exited =>
      refine (ready_boundary kept inner ?_).answerable clock
      intro waits
      have live := (recv_eq_none waits).2
      rw [receiving.ended pump] at live
      cases live

theorem ready_merged {count next : Nat} {merged : List Datagram} {running : Fin count -> Bool}
    {subs : Fin count -> Stack}
    (answers : merged ≠ [] ∨ ¬ exists index, running index = true) :
    (Stack.striped count next merged running subs).Ready := by
  intro answer
  cases merged with
  | cons first rest => exact ⟨_, rfl⟩
  | nil =>
      rcases answers with queued | stopped
      · exact absurd rfl queued
      · refine ⟨(none, .striped count next [] running subs), ?_⟩
        simp only [Stack.recv, stopped, if_false]

/-- The receive tasks of the striped transports bring a datagram, or end one after
the other. -/
theorem answerable_striped {count next : Nat} {merged : List Datagram}
    {running : Fin count -> Bool} {clock : Instant} {subs : Fin count -> Stack}
    (answerable : forall index, running index = true -> Answerable clock (subs index)) :
    Answerable clock (.striped count next merged running subs) := by
  induction left : (Finset.univ.filter (fun index => running index = true)).card
    using Nat.strong_induction_on generalizing merged running subs with
  | _ number inductionHypothesis =>
      by_cases runs : exists index, running index = true
      · rcases runs with ⟨index, runs⟩
        rcases answerable index runs with ⟨tasks, after, ran, ready⟩
        refine .of_run (run_beside ran) ?_
        rcases ready none with ⟨⟨datagram, moved⟩, received⟩
        cases datagram with
        | some datagram =>
            have performed : (Stack.striped count next merged running
                (Function.update subs index after)).perform clock (.merge index none) =
                  some (.striped count next (merged ++ [datagram]) running
                    (Function.update subs index moved)) := by
              simp only [Stack.perform, index.isLt, dite_true, Fin.eta, merge, runs, if_true,
                Function.update_self, received, Function.update_idem]
            exact .of_perform performed (Ready.answerable (ready_merged (.inl
              (List.append_ne_nil_of_right_ne_nil _ (List.cons_ne_nil _ _)))) clock)
        | none =>
            have performed : (Stack.striped count next merged running
                (Function.update subs index after)).perform clock (.merge index none) =
                  some (.striped count next merged (Function.update running index false)
                    (Function.update subs index moved)) := by
              simp only [Stack.perform, index.isLt, dite_true, Fin.eta, merge, runs, if_true,
                Function.update_self, received, Function.update_idem]
            refine .of_perform performed (inductionHypothesis _ ?_ ?_ rfl)
            · rw [← left]
              apply Finset.card_lt_card
              refine Finset.ssubset_iff_subset_ne.mpr ⟨?_, ?_⟩
              · intro other member
                simp only [Finset.mem_filter, Finset.mem_univ, true_and] at member ⊢
                by_cases same : other = index
                · rw [same]
                  exact runs
                · rwa [Function.update_of_ne same] at member
              · intro same
                have member := same.symm ▸ Finset.mem_filter.mpr ⟨Finset.mem_univ index, runs⟩
                simp only [Finset.mem_filter, Function.update_self] at member
                cases member.2
            · intro other stillRuns
              by_cases same : other = index
              · rw [same, Function.update_self] at stillRuns
                cases stillRuns
              · rw [Function.update_of_ne same] at stillRuns ⊢
                exact answerable other stillRuns
      · exact (ready_merged (.inr runs)).answerable clock

/-- Whatever a stack is doing, its tasks can bring the next answer. -/
theorem answerable_of_wired {stack : Stack} (wired : stack.Wired) (clock : Instant) :
    Answerable clock stack := by
  induction stack with
  | leaf base =>
      refine Ready.answerable ?_ clock
      intro answer
      rcases answer with _ | _ | _ <;> exact ⟨_, rfl⟩
  | substrate boundary kept inner inductionHypothesis =>
      exact answerable_boundary wired.1 (inductionHypothesis wired.2) kept
  | striped count next merged running subs inductionHypothesis =>
      exact answerable_striped (fun index _ => inductionHypothesis index (wired index))

end Stack

/-- A receive, or a task inside. -/
def Use.receives : Use -> Bool
  | .tryRecv _ => true
  | .inside _ _ => true
  | _ => false

namespace Usage

/-- Receives and the tasks inside can bring the error, behind datagrams only. -/
def Brings (error : SubstrateError) (usage : Usage) : Prop :=
  exists (schedule : List Use) (final : Usage) (drained : List Datagram),
    schedule.all Use.receives = true ∧ run Usage.step usage schedule = some final ∧
      final.results = usage.results ++ drained.map .ok ++ [.error error]

theorem wired_step {usage next : Usage} {use : Use} (wired : usage.stack.Wired)
    (moved : usage.step use = some next) : next.stack.Wired := by
  cases use with
  | elapse duration =>
      cases moved
      exact wired
  | trySend datagram verdict =>
      cases moved
      exact wired.trySend usage.clock datagram verdict
  | tryRecv answer =>
      rcases tryRecv_eq_some moved with ⟨result, after, received, rfl⟩
      exact wired.tryRecv received
  | inside path task =>
      rcases step_inside moved with ⟨after, performed, rfl⟩
      exact wired.performAt performed

theorem wired_of_run {usage later : Usage} {schedule : List Use} (wired : usage.stack.Wired)
    (ran : run Usage.step usage schedule = some later) : later.stack.Wired :=
  invariant (fun state => state.stack.Wired) (fun _ _ _ => wired_step) wired ran

/-- The tasks of the stack, as its user sees them. -/
theorem run_tasks {usage : Usage} {after : Stack} {tasks : List (List Nat × Stack.Task)}
    (ran : run (Stack.work usage.clock) usage.stack tasks = some after) :
    exists schedule, schedule.all Use.receives = true ∧
      run Usage.step usage schedule = some { usage with stack := after } := by
  refine ⟨tasks.map (fun task => .inside task.1 task.2), ?_, ?_⟩
  · rw [List.all_map]
    exact List.all_eq_true.mpr (fun _ _ => rfl)
  · refine run_inside (fun stack => { usage with stack := stack }) _ ?_ ran
    intro stack task next moved
    unfold Stack.work at moved
    simp only [Usage.step, moved]

/-- A spent stack can be brought to its error: every receive before that takes a
datagram that the stack held. -/
theorem brings_of_spent {usage : Usage} (wired : usage.stack.Wired) (spent : usage.stack.Spent) :
    Brings .closed usage := by
  induction size : usage.stack.held using Nat.strong_induction_on generalizing usage with
  | _ held inductionHypothesis =>
      rcases Stack.answerable_of_wired wired usage.clock with ⟨tasks, after, worked, ready⟩
      rcases run_tasks worked with ⟨inside, receives, ran⟩
      rcases ebbs_of_run spent ran with ⟨answers, ebbs⟩
      rcases ready.tryRecv (.ok []) with ⟨result, moved, received⟩
      have taken : Usage.step { usage with stack := after } (.tryRecv (.ok [])) =
          some { usage with stack := moved, results := usage.results ++ [result] } := by
        simp only [Usage.step, Usage.tryRecv, received]
      have ranBoth : run Usage.step usage (inside ++ [.tryRecv (.ok [])]) =
          some { usage with stack := moved, results := usage.results ++ [result] } :=
        run_append_eq_some.mpr ⟨_, ran, run_cons.mpr ⟨_, taken, rfl⟩⟩
      have receivesBoth : (inside ++ [Use.tryRecv (.ok [])]).all Use.receives = true := by
        rw [List.all_append, receives]
        rfl
      cases result with
      | error error =>
          rw [Stack.tryRecv_closed (Stack.isLeaf_of_spent ebbs.spent) received] at ranBoth
          exact ⟨_, _, [], receivesBoth, ranBoth, by rw [List.map_nil, List.append_nil]⟩
      | ok datagram =>
          have wanes := Stack.wanes_tryRecv ebbs.spent received
          have fewer := wanes.held
          have kept := ebbs.held
          change moved.held + 1 <= after.held at fewer
          change after.held + _ <= _ at kept
          have less : moved.held < usage.stack.held := by omega
          have wiredAfter := wired_of_run wired ranBoth
          rcases inductionHypothesis _ (size ▸ less) wiredAfter wanes.spent rfl with
            ⟨schedule, final, drained, more, rest, results⟩
          have all := List.all_append.trans (Bool.and_eq_true_iff.mpr ⟨receivesBoth, more⟩)
          refine ⟨_, final, datagram :: drained, all,
            run_append_eq_some.mpr ⟨_, ranBoth, rest⟩, ?_⟩
          rw [results, List.map_cons]
          simp only [List.append_assoc, List.cons_append, List.nil_append]

end Usage
end Boundary
end QuicMix
