import QuicMix.Boundary.Steps
import Mathlib.Algebra.Order.BigOperators.Group.Finset

namespace QuicMix
namespace Boundary

open Foundations

/-!
# Stacks that receive nothing new

The receive path of a stack dries up from below: once no pump and no receive
task can bring a datagram from a leaf, what the queues hold is all that the
stack will ever deliver.  No call and no task changes that, whatever the leaves
answer.
-/

namespace Stack

/-- The receive pump has a datagram in hand. -/
def inHand : RecvPump -> Nat
  | .holding (.ok _) => 1
  | .permitted (.ok _) => 1
  | _ => 0

/-- The receive pump has not met an error, so it will ask the inner transport
again. -/
def polls : RecvPump -> Bool
  | .polling => true
  | .holding item => item.isOk
  | .permitted item => item.isOk
  | .exited => false

/-- How many of the answers are datagrams. -/
def delivered (answers : List RecvResult) : Nat :=
  answers.countP (fun answer => answer.isOk)

/-- How many datagrams on their way up a receive path still reaches. -/
def held : Stack -> Nat
  | .leaf _ => 0
  | .substrate boundary _ inner =>
      delivered boundary.recvQueue.queue + inHand boundary.recvPump +
        if polls boundary.recvPump then inner.held else 0
  | .striped _ _ merged running subs =>
      merged.length + ∑ index, if running index then (subs index).held else 0

/-- No receive path of the stack leads to a leaf any more. -/
def Spent : Stack -> Prop
  | .leaf _ => False
  | .substrate boundary _ inner => polls boundary.recvPump = false ∨ inner.Spent
  | .striped _ _ _ running subs => forall index, running index = true -> (subs index).Spent

/-- The change leaves the stack spent, with what it gives away taken from what it
holds. -/
structure Wanes (stack after : Stack) (given : Nat) : Prop where
  spent : after.Spent
  held : after.held + given <= stack.held

theorem delivered_append (first second : List RecvResult) :
    delivered (first ++ second) = delivered first + delivered second :=
  List.countP_append

theorem delivered_cons (answer : RecvResult) (rest : List RecvResult) :
    delivered (answer :: rest) = delivered [answer] + delivered rest :=
  delivered_append [answer] rest

/-- Replacing one of the striped transports exchanges its share of a sum. -/
theorem sum_update {count : Nat} (subs : Fin count -> Stack) (index : Fin count) (after : Stack)
    (share : Fin count -> Stack -> Nat) :
    ∑ other, share other (Function.update subs index after other) + share index (subs index) =
      ∑ other, share other (subs other) + share index after := by
  have others : forall other, other ∈ Finset.univ.erase index ->
      share other (Function.update subs index after other) = share other (subs other) := by
    intro other member
    rw [Function.update_of_ne (Finset.ne_of_mem_erase member)]
  rw [← Finset.add_sum_erase _ _ (Finset.mem_univ index), Finset.sum_congr rfl others,
    Function.update_self,
    ← Finset.add_sum_erase _ (fun other => share other (subs other)) (Finset.mem_univ index)]
  omega

/-- If one of the striped transports wanes, so do those that still run together. -/
theorem Wanes.update {count : Nat} {running : Fin count -> Bool} {subs : Fin count -> Stack}
    {index : Fin count} {after : Stack} {given : Nat}
    (spent : forall other, running other = true -> (subs other).Spent)
    (wanes : running index = true -> Wanes (subs index) after given)
    (nothing : running index = false -> given = 0) :
    (forall other, running other = true -> (Function.update subs index after other).Spent) ∧
      (∑ other, if running other then (Function.update subs index after other).held else 0) +
        given <= ∑ other, if running other then (subs other).held else 0 := by
  have exchanged := sum_update subs index after
    (fun other sub => if running other then sub.held else 0)
  constructor
  · intro other runs
    by_cases same : other = index
    · subst same
      rw [Function.update_self]
      exact (wanes runs).spent
    · rw [Function.update_of_ne same]
      exact spent other runs
  · cases runs : running index with
    | true =>
        have fewer := (wanes runs).held
        simp only [runs, if_true] at exchanged
        omega
    | false =>
        have none := nothing runs
        simp only [runs, Bool.false_eq_true, if_false] at exchanged
        omega

theorem Wanes.refl {stack : Stack} (spent : stack.Spent) : Wanes stack stack 0 :=
  ⟨spent, Nat.le_refl _⟩

/-- An inner transport that the receive pump no longer asks may do as it likes. -/
theorem Wanes.inner {boundary moved : Substrate} {kept now : Nat} {inner after : Stack}
    (spent : (Stack.substrate boundary kept inner).Spent)
    (same : moved.recvQueue = boundary.recvQueue ∧ moved.recvPump = boundary.recvPump)
    (wanes : inner.Spent -> Wanes inner after 0) :
    Wanes (.substrate boundary kept inner) (.substrate moved now after) 0 := by
  rcases same with ⟨queue, pump⟩
  constructor
  · simp only [Spent, pump]
    exact spent.imp_right (fun last => (wanes last).spent)
  · simp only [Stack.held, queue, pump]
    cases polling : polls boundary.recvPump with
    | false => exact Nat.le_refl _
    | true =>
        rcases spent with ended | last
        · rw [polling] at ended
          cases ended
        · exact Nat.add_le_add_left (wanes last).held _

/-! ## Calls -/

theorem sendBoundary_recv (boundary : Substrate) (clock : Instant) (datagram : Datagram) :
    (sendBoundary boundary clock datagram).recvQueue = boundary.recvQueue ∧
      (sendBoundary boundary clock datagram).recvPump = boundary.recvPump := by
  unfold sendBoundary Substrate.trySend
  cases boundary.sendQueue.trySend (clock, datagram) <;> exact ⟨rfl, rfl⟩

/-- A `send` changes nothing of the receive paths. -/
theorem wanes_send {stack : Stack} (spent : stack.Spent) (clock : Instant)
    (datagram : Datagram) (verdict : SendResult) :
    Wanes stack (stack.send clock datagram verdict) 0 := by
  induction stack with
  | leaf base => exact spent.elim
  | substrate boundary kept inner _ =>
      exact Wanes.inner spent (sendBoundary_recv boundary clock datagram) Wanes.refl
  | striped count next merged running subs inductionHypothesis =>
      by_cases positive : 0 < count
      · simp only [send, positive, dite_true]
        rcases Wanes.update spent (inductionHypothesis _ <| spent _ ·) (fun _ => rfl)
          with ⟨rest, fewer⟩
        exact ⟨rest, Nat.add_le_add_left fewer _⟩
      · simp only [send, positive, dite_false]
        exact ⟨spent, Nat.le_refl _⟩

theorem wanes_trySend {stack : Stack} (spent : stack.Spent) (clock : Instant)
    (datagram : Datagram) (verdict : SendResult) :
    Wanes stack (stack.trySend clock datagram verdict).2 0 := by
  cases stack with
  | leaf base => exact spent.elim
  | substrate boundary kept inner => exact wanes_send spent clock datagram verdict
  | striped count next merged running subs => exact wanes_send spent clock datagram verdict

/-- A boundary that answers gives the first item of its queue away, or its queue
is empty. -/
theorem recv_queue {boundary taken : Substrate} {result : RecvResult}
    (received : boundary.recv = some (result, taken)) :
    taken.recvPump = boundary.recvPump ∧
      delivered taken.recvQueue.queue + delivered [result] =
        delivered boundary.recvQueue.queue := by
  unfold Substrate.recv at received
  cases answer : boundary.recvQueue.recv with
  | message item channel =>
      rw [answer] at received
      cases received
      rw [(Channel.recv_eq_message answer).2.1]
      exact ⟨rfl, (Nat.add_comm _ _).trans (delivered_cons _ _).symm⟩
  | pending =>
      rw [answer] at received
      cases received
  | ended =>
      rw [answer] at received
      cases received
      exact ⟨rfl, rfl⟩

/-- A datagram that a spent stack gives away is one that it held. -/
theorem wanes_recv {stack after : Stack} {answer : Option RecvResult}
    {datagram : Option Datagram} (spent : stack.Spent)
    (received : stack.recv answer = some (datagram, after)) :
    Wanes stack after (delivered [okOrClosed datagram]) := by
  cases stack with
  | leaf base => exact spent.elim
  | substrate boundary kept inner =>
      rcases recv_boundary received with ⟨item, taken, result, rfl, rfl⟩
      rcases recv_queue result with ⟨pump, queue⟩
      have given : delivered [okOrClosed item.toOption] = delivered [item] := by
        cases item <;> rfl
      constructor
      · simp only [Spent, pump]
        exact spent
      · simp only [held, pump, given]
        omega
  | striped count next merged running subs =>
      rcases recv_striped received with ⟨rest, rfl, rfl⟩
      refine ⟨spent, ?_⟩
      have given : delivered [okOrClosed datagram] = datagram.toList.length := by
        cases datagram <;> rfl
      simp only [held, given, List.length_append]
      omega

theorem isLeaf_of_spent {stack : Stack} (spent : stack.Spent) : stack.isLeaf = false := by
  cases stack with
  | leaf base => exact spent.elim
  | substrate boundary kept inner => rfl
  | striped count next merged running subs => rfl

theorem wanes_tryRecv {stack after : Stack} {answer result : RecvResult} (spent : stack.Spent)
    (received : stack.tryRecv answer = some (result, after)) :
    Wanes stack after (delivered [result]) := by
  rcases recv_of_tryRecv (isLeaf_of_spent spent) received with ⟨datagram, inside, rfl⟩
  exact wanes_recv spent inside

/-! ## Tasks -/

theorem pumpSend_recv {boundary moved : Substrate} {clock : Instant}
    (pumped : boundary.pumpSend clock = some moved) :
    moved.recvQueue = boundary.recvQueue ∧ moved.recvPump = boundary.recvPump := by
  cases pump : boundary.sendPump with
  | idle =>
      simp only [Substrate.pumpSend, pump, Substrate.take] at pumped
      split at pumped <;> cases pumped <;> exact ⟨rfl, rfl⟩
  | answered result =>
      simp only [Substrate.pumpSend, pump] at pumped
      cases result <;> cases pumped <;> exact ⟨rfl, rfl⟩
  | sleeping wakeAt =>
      simp only [Substrate.pumpSend, pump] at pumped
      split at pumped <;> cases pumped
      exact ⟨rfl, rfl⟩
  | offering datagram => simp only [Substrate.pumpSend, pump, reduceCtorEq] at pumped
  | exited => simp only [Substrate.pumpSend, pump, reduceCtorEq] at pumped
  | _ =>
      simp only [Substrate.pumpSend, pump] at pumped
      cases pumped
      exact ⟨rfl, rfl⟩

/-- The receive pump carries what it has in hand to the queue. -/
theorem pumpRecv_polls {boundary moved : Substrate} (pumped : boundary.pumpRecv = some moved) :
    (polls moved.recvPump = true -> polls boundary.recvPump = true) ∧
      delivered moved.recvQueue.queue + inHand moved.recvPump <=
        delivered boundary.recvQueue.queue + inHand boundary.recvPump := by
  cases pump : boundary.recvPump with
  | polling => simp only [Substrate.pumpRecv, pump, reduceCtorEq] at pumped
  | holding item =>
      simp only [Substrate.pumpRecv, pump, Substrate.recvReserve] at pumped
      split at pumped
      · cases pumped
        refine ⟨?_, Nat.add_le_add_left (Nat.zero_le _) _⟩
        intro polling
        cases polling
      · cases reserved : boundary.recvQueue.reserve () with
        | none => simp only [reserved, reduceCtorEq] at pumped
        | some channel =>
            simp only [reserved, Option.some.injEq] at pumped
            subst pumped
            rw [(Channel.reserve_eq_some reserved).2.1]
            cases item <;> exact ⟨id, Nat.le_refl _⟩
  | permitted item =>
      simp only [Substrate.pumpRecv, pump, Substrate.recvCommit] at pumped
      cases committed : boundary.recvQueue.commit () item with
      | none => simp only [committed, reduceCtorEq] at pumped
      | some channel =>
          have queue := (Channel.commit_eq_some committed).2.1
          have longer := delivered_append boundary.recvQueue.queue [item]
          simp only [committed] at pumped
          cases item with
          | ok datagram =>
              cases pumped
              refine ⟨fun _ => rfl, ?_⟩
              rw [queue, longer]
              exact Nat.le_refl _
          | error error =>
              cases pumped
              constructor
              · intro polling
                cases polling
              · change delivered channel.queue + 0 <= delivered boundary.recvQueue.queue + 0
                rw [queue, longer]
                exact Nat.le_refl _
  | exited => simp only [Substrate.pumpRecv, pump, reduceCtorEq] at pumped

/-- What the inner transport answers is in the hand of the receive pump. -/
theorem wanes_fetch {boundary : Substrate} {kept : Nat} {inner after : Stack}
    {result : RecvResult} (polling : boundary.recvPump = .polling)
    (wanes : Wanes inner after (delivered [result])) :
    Wanes (.substrate boundary kept inner) (.substrate (boundary.fetch result) kept after) 0 := by
  have fewer := wanes.held
  cases result with
  | ok datagram =>
      refine ⟨.inr wanes.spent, ?_⟩
      change delivered boundary.recvQueue.queue + 1 + after.held + 0 <= _
      change after.held + 1 <= inner.held at fewer
      rw [held, polling]
      change _ <= delivered boundary.recvQueue.queue + 0 + inner.held
      omega
  | error error =>
      refine ⟨.inl rfl, ?_⟩
      change delivered boundary.recvQueue.queue + 0 <= _
      rw [held, polling]
      exact Nat.le_add_right _ _

/-- The receive pump goes on, or ends with its error. -/
theorem wanes_pumpRecv {boundary moved : Substrate} {kept : Nat} {inner : Stack}
    (spent : (Stack.substrate boundary kept inner).Spent)
    (pumped : boundary.pumpRecv = some moved) :
    Wanes (.substrate boundary kept inner) (.substrate moved kept inner) 0 := by
  rcases pumpRecv_polls pumped with ⟨polling, fewer⟩
  cases pump : polls moved.recvPump with
  | false =>
      refine ⟨.inl pump, ?_⟩
      simp only [held, pump, Bool.false_eq_true, if_false]
      exact Nat.le_trans fewer (Nat.le_add_right _ _)
  | true =>
      refine ⟨spent.imp_left (fun ended => ?_), ?_⟩
      · rw [polling pump] at ended
        cases ended
      · simp only [held, pump, polling pump, if_true]
        exact Nat.add_le_add_right fewer _

/-- A receive task that ends takes its transport out of the sum. -/
theorem held_ended {count : Nat} {running : Fin count -> Bool} {subs : Fin count -> Stack}
    (index : Fin count) :
    (∑ other, if Function.update running index false other then (subs other).held else 0) <=
      ∑ other, if running other then (subs other).held else 0 := by
  apply Finset.sum_le_sum
  intro other _
  by_cases same : other = index
  · subst same
    rw [Function.update_self]
    exact Nat.zero_le _
  · rw [Function.update_of_ne same]

theorem wanes_perform {stack after : Stack} {clock : Instant} {task : Task}
    (spent : stack.Spent) (performed : stack.perform clock task = some after) :
    Wanes stack after 0 := by
  cases performed_of_perform performed with
  | pumpedSend pumped => exact Wanes.inner spent (pumpSend_recv pumped) Wanes.refl
  | sent pump => exact Wanes.inner spent ⟨rfl, rfl⟩ (wanes_trySend · _ _ _)
  | pumpedRecv pumped => exact wanes_pumpRecv spent pumped
  | received pump received =>
      have last := spent.resolve_left (fun ended => by
        rw [pump] at ended
        cases ended)
      exact wanes_fetch pump (wanes_tryRecv last received)
  | merged runs received =>
      rcases Wanes.update spent (fun _ => wanes_recv (spent _ runs) received) (fun stopped => by
        rw [runs] at stopped
        cases stopped) with ⟨rest, fewer⟩
      refine ⟨rest, ?_⟩
      change _ + 1 <= _ at fewer
      simp only [held, List.length_append, List.length_singleton]
      omega
  | @ended _ _ _ running _ index _ _ runs received =>
      rcases Wanes.update spent (fun _ => wanes_recv (spent _ runs) received) (fun _ => rfl) with
        ⟨rest, fewer⟩
      refine ⟨?_, Nat.add_le_add_left (Nat.le_trans (held_ended index) fewer) _⟩
      intro other still
      by_cases same : other = index
      · rw [same, Function.update_self] at still
        cases still
      · rw [Function.update_of_ne same] at still
        exact rest other still

/-- No task, however deep, brings a spent stack anything. -/
theorem wanes_performAt {path : List Nat} {stack after : Stack} {clock : Instant} {task : Task}
    (spent : stack.Spent) (performed : stack.performAt clock task path = some after) :
    Wanes stack after 0 := by
  induction path generalizing stack after with
  | nil => exact wanes_perform spent performed
  | cons index path inductionHypothesis =>
      cases stack with
      | leaf base => exact spent.elim
      | substrate boundary kept inner =>
          rcases performAt_boundary performed with ⟨moved, inside, rfl⟩
          exact Wanes.inner spent ⟨rfl, rfl⟩ (inductionHypothesis · inside)
      | striped count next merged running subs =>
          rcases performAt_striped performed with ⟨bound, moved, inside, rfl⟩
          rcases Wanes.update spent (fun runs => inductionHypothesis (spent _ runs) inside)
            (fun _ => rfl) with ⟨rest, fewer⟩
          exact ⟨rest, Nat.add_le_add_left fewer _⟩

end Stack

/-! ## What a spent stack still answers -/

namespace Usage

/-- The answers are that error, but for at most so many datagrams. -/
def Answers (held : Nat) (error : SubstrateError) (answers : List RecvResult) : Prop :=
  Stack.delivered answers <= held ∧ forall other, .error other ∈ answers -> other = error

/-- The stack was spent at the start, and these answers have been given since. -/
structure Ebbs (start usage : Usage) (answers : List RecvResult) : Prop where
  results : usage.results = start.results ++ answers
  spent : usage.stack.Spent
  held : usage.stack.held + Stack.delivered answers <= start.stack.held
  closed : forall other, .error other ∈ answers -> other = .closed

theorem Ebbs.step {start usage next : Usage} {answers : List RecvResult} {use : Use}
    (ebbs : Ebbs start usage answers) (moved : usage.step use = some next) :
    exists more, Ebbs start next (answers ++ more) := by
  rcases ebbs with ⟨results, spent, held, closed⟩
  -- Only a receive answers.
  have silent : next.results = usage.results -> Stack.Wanes usage.stack next.stack 0 ->
      exists more, Ebbs start next (answers ++ more) := by
    intro same wanes
    refine ⟨[], ?_⟩
    rw [List.append_nil]
    exact ⟨same.trans results, wanes.spent,
      Nat.le_trans (Nat.add_le_add_right wanes.held _) held, closed⟩
  cases use with
  | elapse duration =>
      cases moved
      exact silent rfl (.refl spent)
  | trySend datagram verdict =>
      cases moved
      exact silent rfl (Stack.wanes_trySend spent usage.clock datagram verdict)
  | tryRecv answer =>
      rcases tryRecv_eq_some moved with ⟨result, after, received, rfl⟩
      have wanes := Stack.wanes_tryRecv spent received
      have fewer := wanes.held
      refine ⟨[result], ?_, wanes.spent, ?_, ?_⟩
      · rw [← List.append_assoc, ← results]
      · rw [Stack.delivered_append]
        change after.held + _ <= _
        omega
      · intro other member
        rcases List.mem_append.mp member with before | last
        · exact closed other before
        · have failed := List.mem_singleton.mp last
          subst failed
          exact Stack.tryRecv_closed (Stack.isLeaf_of_spent spent) received
  | inside path task =>
      rcases step_inside moved with ⟨after, performed, rfl⟩
      exact silent rfl (Stack.wanes_performAt spent performed)

theorem ebbs_of_run {usage later : Usage} {schedule : List Use}
    (spent : usage.stack.Spent) (ran : run Usage.step usage schedule = some later) :
    exists answers, Ebbs usage later answers := by
  refine invariant (fun state => exists answers, Ebbs usage state answers) ?_ ?_ ran
  · intro state use next ebbs moved
    rcases ebbs with ⟨answers, ebbs⟩
    rcases ebbs.step moved with ⟨more, kept⟩
    exact ⟨_, kept⟩
  · exact ⟨[], (List.append_nil _).symm, spent, Nat.le_refl _,
      fun other member => absurd member List.not_mem_nil⟩

/-- Whatever follows, a spent stack answers that it is closed, as soon as the
datagrams that it holds have been taken. -/
theorem answers_of_spent {usage later : Usage} {schedule : List Use}
    (spent : usage.stack.Spent) (ran : run Usage.step usage schedule = some later) :
    exists answers, later.results = usage.results ++ answers ∧
      Answers usage.stack.held .closed answers := by
  rcases ebbs_of_run spent ran with ⟨answers, ebbs⟩
  exact ⟨answers, ebbs.results, Nat.le_trans (Nat.le_add_left _ _) ebbs.held, ebbs.closed⟩

end Usage
end Boundary
end QuicMix
