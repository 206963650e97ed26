import QuicMix.Boundary.Progress

namespace QuicMix
namespace Boundary

open Foundations

/-!
# Which errors survive a stack of decorators

The defaults of the trait lose two things.  A decorated `try_send` reports
success whatever becomes of the datagram, so it is right exactly when the queue
or the leaf that the datagram reaches takes it.  A decorated `try_recv` has one
error only, and a `Striped` has it only after the last of its transports, so it
is right when the leaf's error is that one and nothing else can bring data.
-/

namespace Stack

/-! ## Sending -/

/-- Whether `send` reaches a queue that has a receiver and room, or a leaf that
takes the datagram. -/
def takes (verdict : SendResult) : Stack -> Bool
  | .leaf _ => verdict.isOk
  | .substrate boundary _ _ =>
      !boundary.sendQueue.receiverGone && boundary.sendQueue.hasRoom
  | .striped count next _ _ subs =>
      if positive : 0 < count then
        (subs ⟨next % count, Nat.mod_lt next positive⟩).takes verdict
      else false

/-- The condition on a `try_send`: none for a bare leaf, whose own answer is
given. -/
def accepts (verdict : SendResult) (stack : Stack) : Bool :=
  stack.isLeaf || stack.takes verdict

theorem custody_leaf (base : Leaf) (datagram : Datagram) (verdict : SendResult) :
    (Stack.leaf (base.trySend datagram verdict)).custody datagram =
      (Stack.leaf base).custody datagram + if verdict.isOk then 1 else 0 := by
  cases verdict with
  | ok _ =>
      simp only [custody, Leaf.trySend, List.count_append, List.count_singleton_self]
      rfl
  | error error => rfl

theorem custody_boundary (boundary : Substrate) (clock : Instant) (datagram : Datagram) :
    ((sendBoundary boundary clock datagram).sendQueue.queue.map Prod.snd).count datagram =
      (boundary.sendQueue.queue.map Prod.snd).count datagram +
        if !boundary.sendQueue.receiverGone && boundary.sendQueue.hasRoom then 1 else 0 := by
  have taken : (exists next, boundary.sendQueue.trySend (clock, datagram) = .sent next) <->
      (!boundary.sendQueue.receiverGone && boundary.sendQueue.hasRoom) = true :=
    Channel.trySend_sent_iff
  cases sent : boundary.sendQueue.trySend (clock, datagram) with
  | sent channel =>
      rcases Channel.trySend_eq_sent sent with ⟨_, queue, _⟩
      simp only [sendBoundary, Substrate.trySend, sent, queue, taken.mp ⟨channel, sent⟩,
        List.map_append, List.count_append, List.map_cons, List.map_nil,
        List.count_singleton_self, if_true]
  | full =>
      simp only [sent, reduceCtorEq, exists_false, false_iff] at taken
      simp only [sendBoundary, Substrate.trySend, sent, taken]
      rfl
  | closed =>
      simp only [sent, reduceCtorEq, exists_false, false_iff] at taken
      simp only [sendBoundary, Substrate.trySend, sent, taken]
      rfl

/-- A `send` adds a copy to the custody of the layer it is called on exactly when
it is taken. -/
theorem custody_send (clock : Instant) (datagram : Datagram) (verdict : SendResult)
    (stack : Stack) :
    (stack.send clock datagram verdict).custody datagram =
      stack.custody datagram + if stack.takes verdict then 1 else 0 := by
  induction stack with
  | leaf base => exact custody_leaf base datagram verdict
  | substrate boundary kept inner _ => exact custody_boundary boundary clock datagram
  | striped count next merged running subs inductionHypothesis =>
      by_cases positive : 0 < count
      · have reached := inductionHypothesis ⟨next % count, Nat.mod_lt next positive⟩
        have replaced := sum_update subs ⟨next % count, Nat.mod_lt next positive⟩
          ((subs ⟨next % count, Nat.mod_lt next positive⟩).send clock datagram verdict)
          (fun _ sub => sub.custody datagram)
        simp only [send, positive, dite_true, custody, takes]
        omega
      · simp only [send, positive, dite_false, takes]
        rfl

/-- The exact condition under which success means that the datagram was kept. -/
theorem trySend_kept_iff (clock : Instant) (datagram : Datagram) (verdict : SendResult)
    (stack : Stack) :
    ((stack.trySend clock datagram verdict).1 = .ok () ->
      (stack.trySend clock datagram verdict).2.custody datagram =
        stack.custody datagram + 1) <-> stack.accepts verdict = true := by
  have sent := custody_send clock datagram verdict stack
  cases stack with
  | leaf base =>
      refine iff_of_true ?_ rfl
      intro success
      change verdict = .ok () at success
      subst success
      exact sent
  | substrate boundary kept inner =>
      simp only [trySend, accepts, isLeaf, Bool.false_or, sent]
      cases takes verdict (.substrate boundary kept inner) <;> simp
  | striped count next merged running subs =>
      simp only [trySend, accepts, isLeaf, Bool.false_or, sent]
      cases takes verdict (.striped count next merged running subs) <;> simp

/-! ## Counting -/

/-- The pump has a success in hand that it has not counted. -/
def confirmed : SendPump -> Nat
  | .answered (.ok _) => 1
  | _ => 0

/-- Every boundary of the stack counts as sent only what its inner transport
kept. -/
def Counted : Stack -> Prop
  | .leaf _ => True
  | .substrate boundary kept inner => boundary.metrics.sent <= kept ∧ inner.Counted
  | .striped _ _ _ _ subs => forall index, (subs index).Counted

/-- The same with the success that is about to be counted. -/
def Honest : Stack -> Prop
  | .leaf _ => True
  | .substrate boundary kept inner =>
      boundary.metrics.sent + confirmed boundary.sendPump <= kept ∧ inner.Honest
  | .striped _ _ _ _ subs => forall index, (subs index).Honest

theorem Honest.counted {stack : Stack} (honest : stack.Honest) : stack.Counted := by
  induction stack with
  | leaf base => trivial
  | substrate boundary kept inner inductionHypothesis =>
      exact ⟨Nat.le_trans (Nat.le_add_right _ _) honest.1, inductionHypothesis honest.2⟩
  | striped count next merged running subs inductionHypothesis =>
      exact fun index => inductionHypothesis index (honest index)

theorem sendBoundary_sent (boundary : Substrate) (clock : Instant) (datagram : Datagram) :
    (sendBoundary boundary clock datagram).metrics.sent = boundary.metrics.sent ∧
      (sendBoundary boundary clock datagram).sendPump = boundary.sendPump := by
  unfold sendBoundary Substrate.trySend
  cases boundary.sendQueue.trySend (clock, datagram) <;> exact ⟨rfl, rfl⟩

theorem Honest.send {stack : Stack} (honest : stack.Honest) (clock : Instant)
    (datagram : Datagram) (verdict : SendResult) :
    (stack.send clock datagram verdict).Honest := by
  induction stack with
  | leaf base => trivial
  | substrate boundary kept inner _ =>
      rcases sendBoundary_sent boundary clock datagram with ⟨sent, pump⟩
      refine ⟨?_, honest.2⟩
      rw [sent, pump]
      exact honest.1
  | striped count next merged running subs inductionHypothesis =>
      by_cases positive : 0 < count
      · simp only [Stack.send, positive, dite_true]
        exact forall_update honest (inductionHypothesis _ (honest _)) _
      · simp only [Stack.send, positive, dite_false]
        exact honest

theorem Honest.trySend {stack : Stack} (honest : stack.Honest) (clock : Instant)
    (datagram : Datagram) (verdict : SendResult) :
    (stack.trySend clock datagram verdict).2.Honest := by
  cases stack with
  | leaf base => trivial
  | substrate boundary kept inner => exact honest.send clock datagram verdict
  | striped count next merged running subs => exact honest.send clock datagram verdict

theorem isLeaf_trySend (clock : Instant) (datagram : Datagram) (verdict : SendResult)
    (stack : Stack) : (stack.trySend clock datagram verdict).2.isLeaf = stack.isLeaf := by
  cases stack with
  | leaf base => rfl
  | substrate boundary kept inner => rfl
  | striped count next merged running subs =>
      simp only [Stack.trySend, Stack.send]
      split <;> rfl

theorem recv_sent {boundary taken : Substrate} {result : RecvResult}
    (received : boundary.recv = some (result, taken)) :
    taken.metrics = boundary.metrics ∧ taken.sendPump = boundary.sendPump := by
  unfold Substrate.recv at received
  cases answer : boundary.recvQueue.recv with
  | message item channel =>
      rw [answer] at received
      cases received
      exact ⟨rfl, rfl⟩
  | pending =>
      rw [answer] at received
      cases received
  | ended =>
      rw [answer] at received
      cases received
      exact ⟨rfl, rfl⟩

/-! ## Failing -/

theorem failedWith_update {count : Nat} {subs : Fin count -> Stack} {index : Fin count}
    {after : Stack} {error : SubstrateError}
    (failed : exists other, (Function.update subs index after other).FailedWith error) :
    (exists other, (subs other).FailedWith error) ∨ after.FailedWith error := by
  rcases failed with ⟨other, failed⟩
  by_cases same : other = index
  · subst same
    rw [Function.update_self] at failed
    exact .inr failed
  · rw [Function.update_of_ne same] at failed
    exact .inl ⟨other, failed⟩

/-- No receive fails in a `send`. -/
theorem failedWith_send {stack : Stack} {clock : Instant} {datagram : Datagram}
    {verdict : SendResult} {error : SubstrateError}
    (failed : (stack.send clock datagram verdict).FailedWith error) :
    stack.FailedWith error := by
  induction stack with
  | leaf base => cases verdict <;> exact failed
  | substrate boundary kept inner _ => exact failed
  | striped count next merged running subs inductionHypothesis =>
      by_cases positive : 0 < count
      · simp only [send, positive, dite_true] at failed
        rcases failedWith_update failed with before | reached
        · exact before
        · exact ⟨_, inductionHypothesis _ reached⟩
      · simp only [send, positive, dite_false] at failed
        exact failed

theorem failedWith_trySend {stack : Stack} {clock : Instant} {datagram : Datagram}
    {verdict : SendResult} {error : SubstrateError}
    (failed : (stack.trySend clock datagram verdict).2.FailedWith error) :
    stack.FailedWith error := by
  cases stack with
  | leaf base => cases verdict <;> exact failed
  | substrate boundary kept inner => exact failed
  | striped count next merged running subs => exact failedWith_send failed

/-- What a `recv` can do: a leaf records the failure with which it answers, and
nothing else of what is recorded changes. -/
theorem recv_effect {stack after : Stack} {answer : Option RecvResult}
    {datagram : Option Datagram} (received : stack.recv answer = some (datagram, after)) :
    (stack.Honest -> after.Honest) ∧ after.isLeaf = stack.isLeaf ∧
    forall error, after.FailedWith error ->
      stack.FailedWith error ∨ stack.isLeaf = true ∧ answer = some (.error error) := by
  cases stack with
  | leaf base =>
      rcases answer with _ | _ | _
      · cases received
        exact ⟨id, rfl, fun error failed => .inl failed⟩
      · rename_i failure
        cases received
        refine ⟨id, rfl, ?_⟩
        intro error failed
        rcases List.mem_append.mp failed with before | last
        · exact .inl before
        · rw [List.mem_singleton.mp last]
          exact .inr ⟨rfl, rfl⟩
      · cases received
        exact ⟨id, rfl, fun error failed => .inl failed⟩
  | substrate boundary kept inner =>
      rcases recv_boundary received with ⟨item, taken, result, _, rfl⟩
      rcases recv_sent result with ⟨metrics, pump⟩
      refine ⟨?_, rfl, fun error failed => .inl failed⟩
      intro honest
      refine ⟨?_, honest.2⟩
      rw [metrics, pump]
      exact honest.1
  | striped count next merged running subs =>
      rcases recv_striped received with ⟨rest, _, rfl⟩
      exact ⟨id, rfl, fun error failed => .inl failed⟩

theorem tryRecv_effect {stack after : Stack} {answer result : RecvResult}
    (received : stack.tryRecv answer = some (result, after)) :
    (stack.Honest -> after.Honest) ∧ after.isLeaf = stack.isLeaf ∧
    forall error, after.FailedWith error ->
      stack.FailedWith error ∨ stack.isLeaf = true ∧ answer = .error error := by
  cases decorated : stack.isLeaf with
  | true =>
      cases stack with
      | leaf base =>
          have same : recv (some answer) (.leaf base) = some (result.toOption, after) := by
            cases answer <;> cases received <;> rfl
          rcases recv_effect same with ⟨honest, leaf, failed⟩
          exact ⟨honest, leaf, fun error before => (failed error before).imp_right
            (fun last => ⟨last.1, Option.some.inj last.2⟩)⟩
      | substrate boundary kept inner => cases decorated
      | striped count next merged running subs => cases decorated
  | false =>
      rcases recv_of_tryRecv decorated received with ⟨datagram, inside, _⟩
      rcases recv_effect inside with ⟨honest, leaf, failed⟩
      rw [decorated] at leaf failed
      exact ⟨honest, leaf, fun error before => (failed error before).imp_right
        (fun last => ⟨last.1, Option.some.inj last.2⟩)⟩

/-! ## The tasks inside -/

/-- The task lets a receive of a leaf fail. -/
def FailsAt (task : Task) : List Nat -> Stack -> Prop
  | [], .substrate _ _ inner =>
      inner.isLeaf = true ∧ exists error, task = .innerRecv (.error error)
  | [], .striped count _ _ _ subs =>
      exists index, exists bound : index < count, (subs ⟨index, bound⟩).isLeaf = true ∧
        exists error, task = .merge index (some (.error error))
  | _ :: path, .substrate _ _ inner => FailsAt task path inner
  | index :: path, .striped count _ _ _ subs =>
      exists bound : index < count, FailsAt task path (subs ⟨index, bound⟩)
  | _, .leaf _ => False

/-- None of the other striped transports can still bring data. -/
def Last {count : Nat} (running : Fin count -> Bool) (subs : Fin count -> Stack)
    (index : Fin count) : Prop :=
  forall other, other ≠ index -> running other = true -> (subs other).Spent

/-- The condition on a task of the outermost layer: what its send pump offers is
accepted, and a leaf whose receive fails is closed and, if it is striped, the
last of its siblings. -/
def Clear : Stack -> Task -> Prop
  | .substrate _ _ inner, .innerSend verdict => inner.accepts verdict = true
  | .substrate _ _ inner, .innerRecv answer =>
      inner.isLeaf = true -> forall error, answer = .error error -> error = .closed
  | .striped count _ _ running subs, .merge index answer =>
      forall bound : index < count, (subs ⟨index, bound⟩).isLeaf = true ->
        forall error, answer = some (.error error) ->
          error = .closed ∧ Last running subs ⟨index, bound⟩
  | _, _ => True

/-- The condition on a task in the layer that the path leads to.  A failure has
to be the last in every `Striped` on the way. -/
def ClearAt (task : Task) : List Nat -> Stack -> Prop
  | [], stack => stack.Clear task
  | _ :: path, .substrate _ _ inner => ClearAt task path inner
  | index :: path, .striped count _ _ running subs =>
      forall bound : index < count, ClearAt task path (subs ⟨index, bound⟩) ∧
        (FailsAt task path (subs ⟨index, bound⟩) -> Last running subs ⟨index, bound⟩)
  | _ :: _, .leaf _ => True

/-- The change leaves the counting honest, and a failure that it adds is a
closed that leaves the stack spent. -/
structure Harmless (failing : Prop) (stack after : Stack) : Prop where
  honest : stack.Honest -> after.Honest
  leaf : after.isLeaf = stack.isLeaf
  failed : forall error, after.FailedWith error ->
    stack.FailedWith error ∨ failing ∧ error = .closed ∧ after.Spent

/-- After the last of the striped transports nothing new is merged. -/
theorem Last.spent {count : Nat} {running : Fin count -> Bool} {subs : Fin count -> Stack}
    {index : Fin count} {after : Stack} (last : Last running subs index) (still : Fin count -> Bool)
    (others : forall other, other ≠ index -> still other = running other)
    (own : still index = true -> after.Spent) (other : Fin count) (runs : still other = true) :
    (Function.update subs index after other).Spent := by
  by_cases same : other = index
  · subst same
    rw [Function.update_self]
    exact own runs
  · rw [Function.update_of_ne same]
    exact last other same ((others other same).symm.trans runs)

theorem pumpSend_sent {boundary moved : Substrate} {clock : Instant}
    (pumped : boundary.pumpSend clock = some moved) :
    moved.metrics.sent + confirmed moved.sendPump <=
      boundary.metrics.sent + confirmed boundary.sendPump := by
  cases pump : boundary.sendPump with
  | idle =>
      cases taken : boundary.sendQueue.recv with
      | message head channel =>
          simp only [Substrate.pumpSend, pump, Substrate.take, taken, Option.some.injEq] at pumped
          subst pumped
          exact Nat.le_refl _
      | pending =>
          simp only [Substrate.pumpSend, pump, Substrate.take, taken, reduceCtorEq] at pumped
      | ended =>
          simp only [Substrate.pumpSend, pump, Substrate.take, taken, Option.some.injEq] at pumped
          subst pumped
          exact Nat.le_refl _
  | taken enqueued datagram =>
      simp only [Substrate.pumpSend, pump, Option.some.injEq] at pumped
      subst pumped
      exact Nat.le_refl _
  | gauged datagram =>
      simp only [Substrate.pumpSend, pump, Option.some.injEq] at pumped
      subst pumped
      exact Nat.le_refl _
  | offering datagram => simp only [Substrate.pumpSend, pump, reduceCtorEq] at pumped
  | answered result =>
      simp only [Substrate.pumpSend, pump, Option.some.injEq] at pumped
      subst pumped
      cases result <;> exact Nat.le_refl _
  | counted =>
      simp only [Substrate.pumpSend, pump, Option.some.injEq] at pumped
      subst pumped
      unfold Substrate.pace
      split <;> exact Nat.le_refl _
  | sleeping wakeAt =>
      simp only [Substrate.pumpSend, pump, Option.ite_none_right_eq_some,
        Option.some.injEq] at pumped
      rcases pumped with ⟨_, pumped⟩
      subst pumped
      exact Nat.le_refl _
  | exited => simp only [Substrate.pumpSend, pump, reduceCtorEq] at pumped

theorem pumpRecv_sent {boundary moved : Substrate} (pumped : boundary.pumpRecv = some moved) :
    moved.metrics = boundary.metrics ∧ moved.sendPump = boundary.sendPump := by
  cases pump : boundary.recvPump with
  | polling => simp only [Substrate.pumpRecv, pump, reduceCtorEq] at pumped
  | holding item =>
      simp only [Substrate.pumpRecv, pump, Substrate.recvReserve] at pumped
      split at pumped
      · cases pumped
        exact ⟨rfl, rfl⟩
      · split at pumped
        · cases pumped
        · cases pumped
          exact ⟨rfl, rfl⟩
  | permitted item =>
      simp only [Substrate.pumpRecv, pump, Substrate.recvCommit] at pumped
      split at pumped
      · cases pumped
      · cases item <;> cases pumped <;> exact ⟨rfl, rfl⟩
  | exited => simp only [Substrate.pumpRecv, pump, reduceCtorEq] at pumped

theorem sent_harmless {boundary : Substrate} {kept : Nat} {inner : Stack} {clock : Instant}
    {datagram : Datagram} {verdict : SendResult} {failing : Prop}
    (accepted : inner.accepts verdict = true) (pump : boundary.sendPump = .offering datagram) :
    Harmless failing (.substrate boundary kept inner)
      (.substrate (boundary.answer (inner.trySend clock datagram verdict).1)
        (kept + ((inner.trySend clock datagram verdict).2.custody datagram -
          inner.custody datagram))
        (inner.trySend clock datagram verdict).2) := by
  have unfailed : forall error,
      (inner.trySend clock datagram verdict).2.FailedWith error -> inner.FailedWith error :=
    fun error failed => failedWith_trySend failed
  refine ⟨?_, rfl, fun error failed => .inl (unfailed error failed)⟩
  intro honest
  refine ⟨?_, honest.2.trySend clock datagram verdict⟩
  have counted := honest.1
  have gained := (trySend_kept_iff clock datagram verdict inner).mpr accepted
  rw [pump] at counted
  change boundary.metrics.sent + 0 <= kept at counted
  change boundary.metrics.sent +
    confirmed (.answered (inner.trySend clock datagram verdict).1) <= _
  cases result : (inner.trySend clock datagram verdict).1 with
  | ok _ =>
      have gained := gained result
      simp only [confirmed]
      omega
  | error error =>
      simp only [confirmed]
      omega

theorem received_harmless {boundary : Substrate} {kept : Nat} {inner after : Stack}
    {answer result : RecvResult}
    (clear : inner.isLeaf = true -> forall error, answer = .error error -> error = .closed)
    (received : inner.tryRecv answer = some (result, after)) :
    Harmless (FailsAt (.innerRecv answer) [] (.substrate boundary kept inner))
      (.substrate boundary kept inner) (.substrate (boundary.fetch result) kept after) := by
  rcases tryRecv_effect received with ⟨honest, _, failed⟩
  refine ⟨?_, rfl, ?_⟩
  · intro before
    refine ⟨?_, honest before.2⟩
    cases result <;> exact before.1
  · intro error after
    rcases failed error after with before | ⟨leaf, last⟩
    · exact .inl before
    · have answered := tryRecv_leaf leaf received
      subst answered
      subst last
      exact .inr ⟨⟨leaf, error, rfl⟩, clear leaf error rfl, .inl rfl⟩

/-- The failures of the striped transports after one of them has answered. -/
theorem failures_merged {count : Nat} {subs : Fin count -> Stack} {index : Fin count}
    {answer : Option RecvResult} {datagram : Option Datagram} {moved : Stack}
    {error : SubstrateError} (received : (subs index).recv answer = some (datagram, moved))
    (after : exists other, (Function.update subs index moved other).FailedWith error) :
    (exists other, (subs other).FailedWith error) ∨
      (subs index).isLeaf = true ∧ answer = some (.error error) := by
  rcases failedWith_update after with before | last
  · exact .inl before
  · exact ((recv_effect received).2.2 error last).imp_left (fun before => ⟨index, before⟩)

theorem perform_harmless {stack after : Stack} {clock : Instant} {task : Task}
    (clear : stack.Clear task) (performed : stack.perform clock task = some after) :
    Harmless (FailsAt task [] stack) stack after := by
  cases performed_of_perform performed with
  | pumpedSend pumped =>
      exact ⟨fun before => ⟨Nat.le_trans (pumpSend_sent pumped) before.1, before.2⟩, rfl,
        fun error failed => .inl failed⟩
  | sent pump => exact sent_harmless clear pump
  | pumpedRecv pumped =>
      rcases pumpRecv_sent pumped with ⟨metrics, pump⟩
      refine ⟨?_, rfl, fun error failed => .inl failed⟩
      intro before
      refine ⟨?_, before.2⟩
      rw [metrics, pump]
      exact before.1
  | received pump received => exact received_harmless clear received
  | @merged _ _ _ _ _ index _ _ _ runs received =>
      have honest := (recv_effect received).1
      refine ⟨fun before => forall_update before (honest (before index)) index, rfl, ?_⟩
      intro error after
      rcases failures_merged received after with before | ⟨leaf, answered⟩
      · exact .inl before
      · rcases exists_leaf leaf with ⟨base, stack⟩
        rw [stack, answered] at received
        cases received
  | @ended _ _ _ _ _ index _ _ runs received =>
      have honest := (recv_effect received).1
      refine ⟨fun before => forall_update before (honest (before index)) index, rfl, ?_⟩
      intro error after
      rcases failures_merged received after with before | ⟨leaf, answered⟩
      · exact .inl before
      · rcases clear index.isLt leaf error answered with ⟨closed, last⟩
        refine .inr ⟨⟨index, index.isLt, leaf, error, by rw [answered]⟩, closed, ?_⟩
        refine last.spent _ (fun other apart => Function.update_of_ne apart _ _) ?_
        intro still
        rw [Function.update_self] at still
        cases still

theorem performAt_harmless {path : List Nat} {stack after : Stack} {clock : Instant}
    {task : Task} (clear : stack.ClearAt task path)
    (performed : stack.performAt clock task path = some after) :
    Harmless (FailsAt task path stack) stack after := by
  induction path generalizing stack after with
  | nil => exact perform_harmless clear performed
  | cons index path inductionHypothesis =>
      cases stack with
      | leaf base => cases performed
      | substrate boundary kept inner =>
          rcases performAt_boundary performed with ⟨moved, inside, rfl⟩
          have harmless := inductionHypothesis clear inside
          refine ⟨fun before => ⟨before.1, harmless.honest before.2⟩, rfl, ?_⟩
          intro error after
          rcases harmless.failed error after with before | ⟨fails, closed, spent⟩
          · exact .inl before
          · exact .inr ⟨fails, closed, .inr spent⟩
      | striped count next merged running subs =>
          rcases performAt_striped performed with ⟨bound, moved, inside, rfl⟩
          rcases clear bound with ⟨clear, alone⟩
          have harmless := inductionHypothesis clear inside
          refine ⟨fun before => forall_update before (harmless.honest (before _)) _, rfl, ?_⟩
          intro error failed
          rcases failedWith_update failed with before | last
          · exact .inl before
          · rcases harmless.failed error last with before | ⟨fails, closed, spent⟩
            · exact .inl ⟨_, before⟩
            · exact .inr ⟨⟨bound, fails⟩, closed,
                (alone fails).spent running (fun _ _ => rfl) (fun _ => spent)⟩

theorem Fresh.honest {stack : Stack} (fresh : Fresh stack) : stack.Honest := by
  induction fresh with
  | leaf => trivial
  | substrate kind oracle queueDepth inner _ inductionHypothesis =>
      exact ⟨Nat.le_refl _, inductionHypothesis⟩
  | striped subs _ inductionHypothesis => exact inductionHypothesis

theorem Fresh.not_failed {stack : Stack} (fresh : Fresh stack) (error : SubstrateError) :
    ¬ stack.FailedWith error := by
  induction fresh with
  | leaf => exact List.not_mem_nil
  | substrate kind oracle queueDepth inner _ inductionHypothesis => exact inductionHypothesis
  | striped subs _ inductionHypothesis =>
      intro failed
      rcases failed with ⟨index, failed⟩
      exact inductionHypothesis index failed

end Stack

/-! ## A stack in use -/

namespace Usage

/-- The decorators are transparent to errors. -/
structure Transparent (usage : Usage) : Prop where
  /-- A successful `try_send` kept its datagram. -/
  kept : forall copied, (.ok (), copied) ∈ usage.sends -> copied = true
  /-- No boundary counts as sent what its inner transport did not keep. -/
  counted : usage.stack.Counted
  /-- The error of a bare leaf has been an answer of its `try_recv`. -/
  reported : usage.stack.isLeaf = true -> forall error : SubstrateError,
    usage.stack.FailedWith error -> .error error ∈ usage.results
  /-- Once a leaf has failed, every further answer of a `try_recv` is its error,
  whatever happens, as soon as the datagrams received before have been taken. -/
  answered : usage.stack.isLeaf = false -> forall error : SubstrateError,
    usage.stack.FailedWith error -> forall (schedule : List Use) (later : Usage),
      run Usage.step usage schedule = some later ->
      exists answers, later.results = usage.results ++ answers ∧
        Answers usage.stack.held error answers
  /-- And that answer does not stay away: whatever has happened since, the tasks
  inside and further receives bring it. -/
  brought : usage.stack.isLeaf = false -> forall error : SubstrateError,
    usage.stack.FailedWith error -> forall (schedule : List Use) (later : Usage),
      run Usage.step usage schedule = some later -> Brings error later

/-- The condition on a step: a `try_send`, from outside or by a pump inside,
reaches a queue with a receiver and room, or a leaf that takes the datagram, or
is made on a leaf directly; and a leaf inside a decorator fails with closed
only, and as the last of its siblings in every `Striped` above it. -/
def Clear (usage : Usage) : Use -> Prop
  | .trySend _ verdict => usage.stack.accepts verdict = true
  | .inside path task => usage.stack.ClearAt task path
  | _ => True

structure Sound (usage : Usage) : Prop where
  kept : forall copied, (.ok (), copied) ∈ usage.sends -> copied = true
  honest : usage.stack.Honest
  bare : forall base, usage.stack = .leaf base -> forall error : SubstrateError,
    error ∈ base.failures -> .error error ∈ usage.results
  closed : usage.stack.isLeaf = false -> forall error, usage.stack.FailedWith error ->
    error = .closed ∧ usage.stack.Spent

theorem Sound.transparent {usage : Usage} (sound : Sound usage) (wired : usage.stack.Wired) :
    Transparent usage := by
  refine ⟨sound.kept, sound.honest.counted, ?_, ?_, ?_⟩
  · intro leaf error failed
    rcases Stack.exists_leaf leaf with ⟨base, stack⟩
    rw [stack] at failed
    exact sound.bare base stack error failed
  · intro decorated error failed schedule later ran
    rcases sound.closed decorated error failed with ⟨rfl, spent⟩
    exact answers_of_spent spent ran
  · intro decorated error failed schedule later ran
    rcases sound.closed decorated error failed with ⟨rfl, spent⟩
    rcases ebbs_of_run spent ran with ⟨_, ebbs⟩
    exact brings_of_spent (wired_of_run wired ran) ebbs.spent

/-- A change inside the stack. -/
theorem Sound.inside {usage : Usage} (sound : Sound usage) {after : Stack} {failing : Prop}
    (harmless : Stack.Harmless failing usage.stack after)
    (wanes : usage.stack.Spent -> Stack.Wanes usage.stack after 0)
    (decorated : forall base, after ≠ .leaf base) :
    Sound { usage with stack := after } := by
  refine ⟨sound.kept, harmless.honest sound.honest,
    fun base same => absurd same (decorated base), ?_⟩
  intro decorated error failed
  rcases harmless.failed error failed with before | ⟨_, closed, spent⟩
  · rcases sound.closed (harmless.leaf.symm.trans decorated) error before with ⟨closed, spent⟩
    exact ⟨closed, (wanes spent).spent⟩
  · exact ⟨closed, spent⟩

theorem Sound.trySend {usage : Usage} (sound : Sound usage) {datagram : Datagram}
    {verdict : SendResult} (accepted : usage.stack.accepts verdict = true) :
    Sound (usage.trySend datagram verdict) := by
  have kept := (Stack.trySend_kept_iff usage.clock datagram verdict usage.stack).mpr accepted
  have leaf := Stack.isLeaf_trySend usage.clock datagram verdict usage.stack
  refine ⟨?_, sound.honest.trySend usage.clock datagram verdict, ?_, ?_⟩
  · intro copied member
    rcases List.mem_append.mp member with old | new
    · exact sound.kept copied old
    · rcases Prod.mk.inj (List.mem_singleton.mp new) with ⟨success, copy⟩
      rw [copy]
      exact decide_eq_true (kept success.symm)
  · intro base same error member
    have whole : (usage.stack.trySend usage.clock datagram verdict).2 = .leaf base := same
    rw [whole] at leaf
    rcases Stack.exists_leaf leaf.symm with ⟨before, stack⟩
    rw [stack] at whole
    cases whole
    apply sound.bare before stack error
    cases verdict <;> exact member
  · intro decorated error failed
    rcases sound.closed (leaf.symm.trans decorated) error (Stack.failedWith_trySend failed)
      with ⟨closed, spent⟩
    exact ⟨closed, (Stack.wanes_trySend spent usage.clock datagram verdict).spent⟩

theorem Sound.tryRecv {usage next : Usage} (sound : Sound usage) {answer : RecvResult}
    (moved : usage.tryRecv answer = some next) : Sound next := by
  rcases tryRecv_eq_some moved with ⟨result, after, received, rfl⟩
  rcases Stack.tryRecv_effect received with ⟨honest, leaf, failed⟩
  refine ⟨sound.kept, honest sound.honest, ?_, ?_⟩
  · intro base same error member
    change after = .leaf base at same
    subst same
    have answered := Stack.tryRecv_leaf leaf.symm received
    rcases failed error member with before | ⟨_, last⟩
    · rcases Stack.exists_leaf leaf.symm with ⟨bare, stack⟩
      rw [stack] at before
      exact List.mem_append_left _ (sound.bare bare stack error before)
    · rw [answered, last]
      exact List.mem_append_right _ List.mem_cons_self
  · intro decorated error member
    rcases failed error member with before | ⟨bare, _⟩
    · rcases sound.closed (leaf.symm.trans decorated) error before with ⟨closed, spent⟩
      exact ⟨closed, (Stack.wanes_tryRecv spent received).spent⟩
    · rw [← leaf] at bare
      exact Bool.noConfusion (bare.symm.trans decorated)

theorem Sound.step {usage next : Usage} {use : Use} (clear : usage.Clear use)
    (sound : Sound usage) (moved : usage.step use = some next) : Sound next := by
  cases use with
  | elapse duration =>
      cases moved
      exact ⟨sound.kept, sound.honest, sound.bare, sound.closed⟩
  | trySend datagram verdict =>
      cases moved
      exact sound.trySend clear
  | tryRecv answer => exact sound.tryRecv moved
  | inside path task =>
      rcases step_inside moved with ⟨after, performed, rfl⟩
      have harmless := Stack.performAt_harmless clear performed
      apply sound.inside harmless (Stack.wanes_performAt · performed)
      intro base same
      have leaf := harmless.leaf
      rw [same] at leaf
      rcases Stack.exists_leaf leaf.symm with ⟨before, stack⟩
      rw [stack] at performed
      cases path with
      | nil => cases task <;> cases performed
      | cons index path => cases performed

/-- Transparency.  If every step of a run of a stack, from its construction on,
meets the condition, the stack is transparent to errors in the state that is
reached.  For one call the condition is exact: a `try_send` on any layer that
reports success has kept its datagram if and only if it is made on a leaf, or
reaches a queue with a receiver and room or a leaf that takes the datagram. -/
theorem transparency (stack : Stack) (schedule : List Use) (usage : Usage)
    (fresh : Stack.Fresh stack) (ran : run Usage.step (start stack) schedule = some usage) :
    (Meets Usage.step Usage.Clear (start stack) schedule -> Transparent usage) ∧
    (forall (clock : Instant) (datagram : Datagram) (verdict : SendResult) (layer : Stack),
      ((layer.trySend clock datagram verdict).1 = .ok () ->
        (layer.trySend clock datagram verdict).2.custody datagram =
          layer.custody datagram + 1) <-> layer.accepts verdict = true) := by
  refine ⟨?_, Stack.trySend_kept_iff⟩
  intro met
  have initially : (start stack).stack.Wired := fresh.wired
  have wired := wired_of_run initially ran
  refine Sound.transparent (invariant_of_meets Usage.Clear Sound ?_ ?_ met ran) wired
  · intro state use next clear sound stepped
    exact sound.step clear stepped
  · refine ⟨?_, fresh.honest, ?_, ?_⟩
    · intro copied member
      cases member
    · intro base same error failed
      cases fresh <;> cases same
      cases failed
    · intro _ error failed
      exact absurd failed (fresh.not_failed error)

/-! ## Failing stacks -/

def unpaced : OracleParams := ⟨1, 0, 0, 0, 1200⟩

/-- One boundary around another, each with a queue of one datagram. -/
def doubled : Stack :=
  .newSubstrate .datagram unpaced 1 (.newSubstrate .datagram unpaced 1 .newLeaf)

/-- One datagram passes the outer boundary and waits in the inner one. -/
def passing : List Use :=
  [.trySend [1] (.ok ()), .inside [] .sendPump, .inside [] .sendPump, .inside [] .sendPump,
    .inside [] (.innerSend (.ok ())), .inside [] .sendPump, .inside [] .sendPump]

theorem transparency_passing :
    exists usage, run Usage.step (start doubled) passing = some usage ∧
      usage.sends = [(.ok (), true)] ∧ Transparent usage :=
  ⟨_, rfl, rfl, (transparency doubled passing _
    (.substrate _ _ _ _ (.substrate _ _ _ _ .leaf)) rfl).1
    (.cons rfl rfl (.cons trivial rfl (.cons trivial rfl (.cons trivial rfl
      (.cons rfl rfl (.cons trivial rfl (.cons trivial rfl trivial)))))))⟩

/-- The second datagram finds the inner queue full. -/
def overflowing : List Use :=
  passing ++ [.trySend [2] (.ok ()), .inside [] .sendPump, .inside [] .sendPump,
    .inside [] .sendPump, .inside [] (.innerSend (.ok ())), .inside [] .sendPump]

/-- The leaf of a single boundary fails to authenticate. -/
def failing : List Use :=
  [.inside [] (.innerRecv (.error .authFailed)), .inside [] .recvPump, .inside [] .recvPump,
    .tryRecv (.error .authFailed)]

/-- A boundary with room for one datagram around a leaf. -/
def single : Stack :=
  .newSubstrate .datagram unpaced 1 .newLeaf

/-- Two leaves side by side. -/
def paired : Stack :=
  .newStriped (fun _ : Fin 2 => .newLeaf)

/-- The first leaf is closed and the second receives. -/
def outliving : List Use :=
  [.inside [] (.merge 0 (some (.error .closed))), .inside [] (.merge 1 (some (.ok [1]))),
    .tryRecv (.ok [])]

/-- None of the runs is transparent: in the first a dropped datagram is counted
as sent, in the second the failure is answered with another error, and in the
third a datagram is received where nothing was held. -/
theorem doubled_not_transparent :
    (exists usage, run Usage.step (start doubled) overflowing = some usage ∧
      usage.sends = [(.ok (), true), (.ok (), true)] ∧ ¬ Transparent usage) ∧
    (exists usage later, run Usage.step (start single) (failing.take 1) = some usage ∧
      run Usage.step usage (failing.drop 1) = some later ∧
      later.results = [.error .closed] ∧ ¬ Transparent usage) ∧
    (exists usage later, run Usage.step (start paired) (outliving.take 1) = some usage ∧
      run Usage.step usage (outliving.drop 1) = some later ∧
      later.results = [.ok [1]] ∧ ¬ Transparent usage) := by
  refine ⟨⟨_, rfl, rfl, ?_⟩, ⟨_, _, rfl, rfl, rfl, ?_⟩, ⟨_, _, rfl, rfl, rfl, ?_⟩⟩
  · intro transparent
    have counted : 2 <= 1 := transparent.counted.1
    omega
  · intro transparent
    rcases transparent.answered rfl .authFailed List.mem_cons_self (failing.drop 1) _ rfl
      with ⟨answers, results, _, same⟩
    have answered : answers = [.error .closed] := results.symm
    rw [answered] at same
    cases same .closed List.mem_cons_self
  · intro transparent
    rcases transparent.answered rfl .closed ⟨0, List.mem_cons_self⟩ (outliving.drop 1) _ rfl
      with ⟨answers, results, few, _⟩
    have answered : answers = [.ok [1]] := results.symm
    rw [answered] at few
    exact absurd few (by decide)

end Usage
end Boundary
end QuicMix
