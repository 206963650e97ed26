import QuicMix.Boundary.Decorators

namespace QuicMix
namespace Boundary

open Foundations

/-!
# One step of a stack

What a receive and a task of a stack can do, layer by layer.  Everything that is
preserved by the steps of a stack is read off these descriptions.
-/

namespace Stack

theorem exists_leaf {stack : Stack} (leaf : stack.isLeaf = true) :
    exists base, stack = .leaf base := by
  cases stack with
  | leaf base => exact ⟨base, rfl⟩
  | substrate boundary kept inner => cases leaf
  | striped count next merged running subs => cases leaf

/-- What holds of all striped transports still holds when one of them is replaced. -/
theorem forall_update {count : Nat} {property : Stack -> Prop} {subs : Fin count -> Stack}
    (all : forall index, property (subs index)) {after : Stack} (replaced : property after)
    (index other : Fin count) : property (Function.update subs index after other) := by
  by_cases same : other = index
  · subst same
    rw [Function.update_self]
    exact replaced
  · rw [Function.update_of_ne same]
    exact all other

/-! ## Receives -/

/-- A boundary answers with the next item of its queue. -/
theorem recv_boundary {boundary : Substrate} {kept : Nat} {inner after : Stack}
    {answer : Option RecvResult} {datagram : Option Datagram}
    (received : (Stack.substrate boundary kept inner).recv answer = some (datagram, after)) :
    exists item taken, boundary.recv = some (item, taken) ∧ datagram = item.toOption ∧
      after = .substrate taken kept inner := by
  cases result : boundary.recv with
  | none => simp only [recv, result, reduceCtorEq] at received
  | some taken =>
      rcases taken with ⟨item, taken⟩
      cases item with
      | ok first =>
          simp only [recv, result, Option.some.injEq, Prod.mk.injEq] at received
          exact ⟨_, taken, rfl, received.1.symm, received.2.symm⟩
      | error error =>
          simp only [recv, result, Option.some.injEq, Prod.mk.injEq] at received
          exact ⟨_, taken, rfl, received.1.symm, received.2.symm⟩

/-- A `Striped` answers with the next datagram that was merged. -/
theorem recv_striped {count next : Nat} {merged : List Datagram} {running : Fin count -> Bool}
    {subs : Fin count -> Stack} {after : Stack} {answer : Option RecvResult}
    {datagram : Option Datagram}
    (received : (Stack.striped count next merged running subs).recv answer =
      some (datagram, after)) :
    exists rest, merged = datagram.toList ++ rest ∧
      after = .striped count next rest running subs := by
  cases merged with
  | cons first rest =>
      cases received
      exact ⟨rest, rfl, rfl⟩
  | nil =>
      simp only [recv] at received
      split at received
      · cases received
      · cases received
        exact ⟨[], rfl, rfl⟩

/-- A leaf gives its own answer. -/
theorem tryRecv_leaf {stack after : Stack} {answer result : RecvResult}
    (leaf : stack.isLeaf = true) (received : stack.tryRecv answer = some (result, after)) :
    result = answer := by
  rcases exists_leaf leaf with ⟨base, rfl⟩
  cases received
  rfl

/-- The `try_recv` of a decorator is its `recv`. -/
theorem recv_of_tryRecv {stack after : Stack} {answer result : RecvResult}
    (decorated : stack.isLeaf = false) (received : stack.tryRecv answer = some (result, after)) :
    exists datagram, stack.recv (some answer) = some (datagram, after) ∧
      result = okOrClosed datagram := by
  cases inside : stack.recv (some answer) with
  | none =>
      cases stack with
      | leaf base => cases decorated
      | substrate boundary kept inner => simp only [tryRecv, inside, reduceCtorEq] at received
      | striped count next merged running subs =>
          simp only [tryRecv, inside, reduceCtorEq] at received
  | some taken =>
      rcases taken with ⟨datagram, moved⟩
      cases stack with
      | leaf base => cases decorated
      | substrate boundary kept inner =>
          simp only [tryRecv, inside, Option.some.injEq, Prod.mk.injEq] at received
          exact ⟨datagram, by rw [received.2], received.1.symm⟩
      | striped count next merged running subs =>
          simp only [tryRecv, inside, Option.some.injEq, Prod.mk.injEq] at received
          exact ⟨datagram, by rw [received.2], received.1.symm⟩

/-- A decorator reports one error only. -/
theorem tryRecv_closed {stack after : Stack} {answer : RecvResult} {error : SubstrateError}
    (decorated : stack.isLeaf = false)
    (received : stack.tryRecv answer = some (.error error, after)) : error = .closed := by
  rcases recv_of_tryRecv decorated received with ⟨datagram, _, reported⟩
  cases datagram with
  | none => exact Except.error.inj reported
  | some datagram => cases reported

/-! ## Tasks -/

/-- What the tasks of the outermost layer do. -/
inductive Performed (clock : Instant) : Stack -> Task -> Stack -> Prop where
  | pumpedSend {boundary moved : Substrate} {kept : Nat} {inner : Stack}
      (pumped : boundary.pumpSend clock = some moved) :
      Performed clock (.substrate boundary kept inner) .sendPump (.substrate moved kept inner)
  | sent {boundary : Substrate} {kept : Nat} {inner : Stack} {verdict : SendResult}
      {datagram : Datagram} (pump : boundary.sendPump = .offering datagram) :
      Performed clock (.substrate boundary kept inner) (.innerSend verdict)
        (.substrate (boundary.answer (inner.trySend clock datagram verdict).1)
          (kept + ((inner.trySend clock datagram verdict).2.custody datagram -
            inner.custody datagram))
          (inner.trySend clock datagram verdict).2)
  | pumpedRecv {boundary moved : Substrate} {kept : Nat} {inner : Stack}
      (pumped : boundary.pumpRecv = some moved) :
      Performed clock (.substrate boundary kept inner) .recvPump (.substrate moved kept inner)
  | received {boundary : Substrate} {kept : Nat} {inner after : Stack}
      {answer result : RecvResult} (pump : boundary.recvPump = .polling)
      (received : inner.tryRecv answer = some (result, after)) :
      Performed clock (.substrate boundary kept inner) (.innerRecv answer)
        (.substrate (boundary.fetch result) kept after)
  | merged {count next : Nat} {merged : List Datagram} {running : Fin count -> Bool}
      {subs : Fin count -> Stack} {index : Fin count} {answer : Option RecvResult}
      {datagram : Datagram} {after : Stack} (runs : running index = true)
      (received : (subs index).recv answer = some (some datagram, after)) :
      Performed clock (.striped count next merged running subs) (.merge index answer)
        (.striped count next (merged ++ [datagram]) running (Function.update subs index after))
  | ended {count next : Nat} {merged : List Datagram} {running : Fin count -> Bool}
      {subs : Fin count -> Stack} {index : Fin count} {answer : Option RecvResult}
      {after : Stack} (runs : running index = true)
      (received : (subs index).recv answer = some (none, after)) :
      Performed clock (.striped count next merged running subs) (.merge index answer)
        (.striped count next merged (Function.update running index false)
          (Function.update subs index after))

theorem performed_of_merge {count next : Nat} {merged : List Datagram}
    {running : Fin count -> Bool} {subs : Fin count -> Stack} {index : Fin count}
    {answer : Option RecvResult} {after : Stack} (clock : Instant)
    (performed : merge next merged running subs index answer = some after) :
    Performed clock (.striped count next merged running subs) (.merge index answer) after := by
  cases runs : running index with
  | false => simp only [merge, runs, Bool.false_eq_true, if_false, reduceCtorEq] at performed
  | true =>
      cases received : (subs index).recv answer with
      | none => simp only [merge, runs, if_true, received, reduceCtorEq] at performed
      | some taken =>
          rcases taken with ⟨datagram, moved⟩
          cases datagram with
          | some datagram =>
              simp only [merge, runs, if_true, received, Option.some.injEq] at performed
              subst performed
              exact .merged runs received
          | none =>
              simp only [merge, runs, if_true, received, Option.some.injEq] at performed
              subst performed
              exact .ended runs received

theorem performed_of_perform {stack after : Stack} {clock : Instant} {task : Task}
    (performed : stack.perform clock task = some after) : Performed clock stack task after := by
  cases stack with
  | leaf base => cases task <;> cases performed
  | substrate boundary kept inner =>
      cases task with
      | sendPump =>
          cases pumped : boundary.pumpSend clock with
          | none => simp only [perform, pumped, reduceCtorEq] at performed
          | some moved =>
              simp only [perform, pumped, Option.some.injEq] at performed
              subst performed
              exact .pumpedSend pumped
      | innerSend verdict =>
          cases pump : boundary.sendPump with
          | offering datagram =>
              simp only [perform, innerSend, pump, Option.some.injEq] at performed
              subst performed
              exact .sent pump
          | _ => simp only [perform, innerSend, pump, reduceCtorEq] at performed
      | recvPump =>
          cases pumped : boundary.pumpRecv with
          | none => simp only [perform, pumped, reduceCtorEq] at performed
          | some moved =>
              simp only [perform, pumped, Option.some.injEq] at performed
              subst performed
              exact .pumpedRecv pumped
      | innerRecv answer =>
          cases pump : boundary.recvPump with
          | polling =>
              cases received : inner.tryRecv answer with
              | none => simp only [perform, innerRecv, pump, received, reduceCtorEq] at performed
              | some taken =>
                  rcases taken with ⟨result, moved⟩
                  simp only [perform, innerRecv, pump, received, Option.some.injEq] at performed
                  subst performed
                  exact .received pump received
          | _ => simp only [perform, innerRecv, pump, reduceCtorEq] at performed
      | merge index answer => cases performed
  | striped count next merged running subs =>
      cases task with
      | merge index answer =>
          by_cases bound : index < count
          · simp only [perform, bound, dite_true] at performed
            exact performed_of_merge clock performed
          · simp only [perform, bound, dite_false, reduceCtorEq] at performed
      | _ => cases performed

/-- A task below a boundary. -/
theorem performAt_boundary {boundary : Substrate} {kept index : Nat} {path : List Nat}
    {inner after : Stack} {clock : Instant} {task : Task}
    (performed : (Stack.substrate boundary kept inner).performAt clock task (index :: path) =
      some after) :
    exists moved, inner.performAt clock task path = some moved ∧
      after = .substrate boundary kept moved := by
  cases inside : inner.performAt clock task path with
  | none => simp only [performAt, inside, reduceCtorEq] at performed
  | some moved =>
      simp only [performAt, inside, Option.some.injEq] at performed
      exact ⟨moved, rfl, performed.symm⟩

/-- A task in one of the striped transports. -/
theorem performAt_striped {count next index : Nat} {merged : List Datagram} {path : List Nat}
    {running : Fin count -> Bool} {subs : Fin count -> Stack} {after : Stack} {clock : Instant}
    {task : Task}
    (performed : (Stack.striped count next merged running subs).performAt clock task
      (index :: path) = some after) :
    exists (bound : index < count) (moved : Stack),
      (subs ⟨index, bound⟩).performAt clock task path = some moved ∧
        after = .striped count next merged running (Function.update subs ⟨index, bound⟩ moved) := by
  by_cases bound : index < count
  · cases inside : (subs ⟨index, bound⟩).performAt clock task path with
    | none => simp only [performAt, bound, dite_true, inside, reduceCtorEq] at performed
    | some moved =>
        simp only [performAt, bound, dite_true, inside, Option.some.injEq] at performed
        exact ⟨bound, moved, inside, performed.symm⟩
  · simp only [performAt, bound, dite_false, reduceCtorEq] at performed

end Stack

/-! ## A stack in use -/

namespace Usage

theorem tryRecv_eq_some {usage next : Usage} {answer : RecvResult}
    (moved : usage.tryRecv answer = some next) :
    exists result after, usage.stack.tryRecv answer = some (result, after) ∧
      next = { usage with stack := after, results := usage.results ++ [result] } := by
  cases received : usage.stack.tryRecv answer with
  | none => simp only [tryRecv, received, reduceCtorEq] at moved
  | some taken =>
      rcases taken with ⟨result, after⟩
      simp only [tryRecv, received, Option.some.injEq] at moved
      exact ⟨result, after, rfl, moved.symm⟩

theorem step_inside {usage next : Usage} {path : List Nat} {task : Stack.Task}
    (moved : usage.step (.inside path task) = some next) :
    exists after, usage.stack.performAt usage.clock task path = some after ∧
      next = { usage with stack := after } := by
  cases performed : usage.stack.performAt usage.clock task path with
  | none => simp only [step, performed, reduceCtorEq] at moved
  | some after =>
      simp only [step, performed, Option.some.injEq] at moved
      exact ⟨after, rfl, moved.symm⟩

end Usage
end Boundary
end QuicMix
