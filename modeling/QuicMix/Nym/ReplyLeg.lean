import QuicMix.Nym.Gateway
import QuicMix.Boundary.SendSide

namespace QuicMix
namespace Nym

open Foundations Boundary

/-!
# One reply task

A reply task is the only caller of its boundary.  The datagrams that its socket
received are, in order, those that the boundary accepted, the one being sent,
one that was lost when the boundary refused it, and those not read yet; and the
boundary passes on what it accepted in the order of acceptance.
-/

variable {Tag : Type}

/-- What a reply task has done with the datagrams of its socket. -/
structure Relayed (depth : Nat) (task : ReplyTask Tag) (socket : UdpSocket) : Prop where
  flowing : Traffic.Flowing depth task.boundary
  single : task.boundary.waiting.length <= 1
  calling : task.pump ≠ .sending -> task.boundary.waiting = []
  read : exists lost : List Datagram, (task.pump ≠ .ended -> lost = []) ∧
    socket.received = task.boundary.accepted.map Call.datagram ++
      task.boundary.waiting.map Call.datagram ++ lost ++ socket.inbox

/-- Inner sends are recorded at the end. -/
theorem starts_of_moved {traffic next : Traffic} {move : Move}
    (moved : Traffic.Moved traffic move next) :
    exists later, next.starts = traffic.starts ++ later := by
  cases moved with
  | offered datagram pump => exact ⟨_, rfl⟩
  | _ => exact ⟨[], (List.append_nil _).symm⟩

namespace ReplyTask

theorem within_eq_some {task next : ReplyTask Tag} {kept after : UdpSocket} {move : Move}
    {pump : OutPump} (moved : (task.within move pump).map (·, kept) = some (next, after)) :
    after = kept ∧ exists boundary, Traffic.Moved task.boundary move boundary ∧
      next = { task with boundary := boundary, pump := pump } := by
  unfold within at moved
  cases stepped : task.boundary.step move with
  | none => simp only [stepped, Option.map_none, reduceCtorEq] at moved
  | some boundary =>
      simp only [stepped, Option.map_some, Option.some.injEq, Prod.mk.injEq] at moved
      exact ⟨moved.2.symm, boundary, Traffic.moved_of_step stepped, moved.1.symm⟩

theorem guarded_within {task next : ReplyTask Tag} {socket after : UdpSocket} {move : Move}
    {before pump : OutPump}
    (moved : (if task.pump = before then (task.within move pump).map (·, socket) else none) =
      some (next, after)) :
    task.pump = before ∧ after = socket ∧
      exists boundary, Traffic.Moved task.boundary move boundary ∧
        next = { task with boundary := boundary, pump := pump } := by
  rw [Option.ite_none_right_eq_some] at moved
  exact ⟨moved.1, within_eq_some moved.2⟩

/-- The outcomes of a move of a reply task, each with the guard under which it
happens. -/
inductive Stepped (task : ReplyTask Tag) (socket : UdpSocket) :
    ReplyMove -> ReplyTask Tag -> UdpSocket -> Prop where
  | read (datagram : Datagram) (rest : List Datagram) (boundary : Traffic)
      (pump : task.pump = .receiving) (inbox : socket.inbox = datagram :: rest)
      (moved : Traffic.Moved task.boundary (.send datagram) boundary) :
      Stepped task socket .recv { task with boundary := boundary, pump := .sending }
        { socket with inbox := rest }
  | broken (pump : task.pump = .receiving) :
      Stepped task socket .socketError { task with pump := .ended } socket
  | reserved (boundary : Traffic) (pump : task.pump = .sending)
      (moved : Traffic.Moved task.boundary (.reserve 0) boundary) :
      Stepped task socket .reserve { task with boundary := boundary, pump := .sending } socket
  | committed (boundary : Traffic) (pump : task.pump = .sending)
      (moved : Traffic.Moved task.boundary (.commit 0) boundary) :
      Stepped task socket .commit { task with boundary := boundary, pump := .receiving } socket
  | hungUp (boundary : Traffic) (pump : task.pump = .sending)
      (moved : Traffic.Moved task.boundary (.hangUp 0) boundary) :
      Stepped task socket .hangUp { task with boundary := boundary, pump := .ended } socket
  | released (boundary : Traffic) (pump : task.pump = .ended)
      (moved : Traffic.Moved task.boundary .dropHandles boundary) :
      Stepped task socket .release { task with boundary := boundary, pump := .ended } socket
  | elapsed (duration : Duration) (boundary : Traffic)
      (moved : Traffic.Moved task.boundary (.elapse duration) boundary) :
      Stepped task socket (.elapse duration) { task with boundary := boundary } socket
  | pumped (boundary : Traffic) (moved : Traffic.Moved task.boundary .sendPump boundary) :
      Stepped task socket .sendPump { task with boundary := boundary } socket
  | answered (result : SendResult) (boundary : Traffic)
      (moved : Traffic.Moved task.boundary (.innerSent result) boundary) :
      Stepped task socket (.innerSent result) { task with boundary := boundary } socket

theorem stepped_of_step {task next : ReplyTask Tag} {socket after : UdpSocket}
    {move : ReplyMove} (stepped : task.step socket move = some (next, after)) :
    Stepped task socket move next after := by
  cases move with
  | recv =>
      cases pump : task.pump with
      | receiving =>
          cases inbox : socket.inbox with
          | nil => simp only [step, pump, inbox, reduceCtorEq] at stepped
          | cons datagram rest =>
              simp only [step, pump, inbox] at stepped
              rcases within_eq_some stepped with ⟨rfl, boundary, moved, rfl⟩
              exact .read datagram rest boundary pump inbox moved
      | sending => simp only [step, pump, reduceCtorEq] at stepped
      | ended => simp only [step, pump, reduceCtorEq] at stepped
  | socketError =>
      simp only [step, Option.ite_none_right_eq_some, Option.some.injEq, Prod.mk.injEq] at stepped
      rcases stepped with ⟨pump, rfl, rfl⟩
      exact .broken pump
  | reserve =>
      rcases guarded_within stepped with ⟨pump, rfl, boundary, moved, rfl⟩
      exact .reserved boundary pump moved
  | commit =>
      rcases guarded_within stepped with ⟨pump, rfl, boundary, moved, rfl⟩
      exact .committed boundary pump moved
  | hangUp =>
      rcases guarded_within stepped with ⟨pump, rfl, boundary, moved, rfl⟩
      exact .hungUp boundary pump moved
  | release =>
      rcases guarded_within stepped with ⟨pump, rfl, boundary, moved, rfl⟩
      exact .released boundary pump moved
  | elapse duration =>
      unfold step at stepped
      rcases within_eq_some stepped with ⟨rfl, boundary, moved, rfl⟩
      exact .elapsed duration boundary moved
  | sendPump =>
      unfold step at stepped
      rcases within_eq_some stepped with ⟨rfl, boundary, moved, rfl⟩
      exact .pumped boundary moved
  | innerSent result =>
      unfold step at stepped
      rcases within_eq_some stepped with ⟨rfl, boundary, moved, rfl⟩
      exact .answered result boundary moved

/-- A move keeps what the task and the socket are and what the socket sent and
received. -/
theorem Stepped.frame {task next : ReplyTask Tag} {socket after : UdpSocket} {move : ReplyMove}
    (stepped : Stepped task socket move next after) :
    next.wire = task.wire ∧ after.localAddr = socket.localAddr ∧
      after.received = socket.received ∧ after.sent = socket.sent := by
  cases stepped <;> exact ⟨rfl, rfl, rfl, rfl⟩

theorem Stepped.starts {task next : ReplyTask Tag} {socket after : UdpSocket} {move : ReplyMove}
    (stepped : Stepped task socket move next after) :
    exists later, next.boundary.starts = task.boundary.starts ++ later := by
  cases stepped with
  | broken pump => exact ⟨[], (List.append_nil _).symm⟩
  | _ => apply starts_of_moved; assumption

end ReplyTask

namespace Relayed

variable {depth : Nat} {task : ReplyTask Tag} {socket : UdpSocket} {boundary : Traffic}

/-- A move of the boundary that concerns no call. -/
theorem uncalled (relayed : Relayed depth task socket) {move : Move}
    (moved : Traffic.Moved task.boundary move boundary)
    (same : boundary.accepted = task.boundary.accepted ∧
      boundary.waiting = task.boundary.waiting) :
    Relayed depth { task with boundary := boundary } socket where
  flowing := relayed.flowing.step moved
  single := by
    rw [same.2]
    exact relayed.single
  calling := by
    rw [same.2]
    exact relayed.calling
  read := by
    rw [same.1, same.2]
    exact relayed.read

/-- While the task runs, only the socket and the call in progress hold
datagrams that are not accepted. -/
theorem running (relayed : Relayed depth task socket) (runs : task.pump ≠ .ended) :
    socket.received = task.boundary.accepted.map Call.datagram ++
      task.boundary.waiting.map Call.datagram ++ socket.inbox := by
  rcases relayed.read with ⟨lost, nothing, read⟩
  rw [read, nothing runs, List.append_nil]

/-- The task takes a datagram off the socket and enters `send`. -/
theorem taking (relayed : Relayed depth task socket) {datagram : Datagram}
    {rest : List Datagram} (pump : task.pump = .receiving)
    (inbox : socket.inbox = datagram :: rest)
    (moved : Traffic.Moved task.boundary (.send datagram) boundary) :
    Relayed depth { task with boundary := boundary, pump := .sending }
      { socket with inbox := rest } := by
  have idle : task.boundary.waiting = [] := relayed.calling (by
    rw [pump]
    exact OutPump.noConfusion)
  have read := relayed.running (by
    rw [pump]
    exact OutPump.noConfusion)
  have flowing := relayed.flowing.step moved
  cases moved with
  | entered _ held =>
      refine ⟨flowing, ?_, fun other => absurd rfl other, [], fun _ => rfl, ?_⟩
      · change (task.boundary.waiting ++ [_]).length <= 1
        rw [idle]
        exact Nat.le_refl 1
      · change socket.received = task.boundary.accepted.map Call.datagram ++
          (task.boundary.waiting ++ [_]).map Call.datagram ++ [] ++ rest
        rw [read, idle, inbox]
        simp only [List.map_nil, List.append_nil, List.nil_append, List.map_cons,
          List.append_assoc, List.cons_append]

/-- The call that the task is in, when it leaves the boundary. -/
theorem leaving (relayed : Relayed depth task socket) (pump : task.pump = .sending) {call : Call}
    (located : task.boundary.waiting[0]? = some call) :
    task.boundary.waiting.eraseIdx 0 = [] ∧
      socket.received = task.boundary.accepted.map Call.datagram ++
        call.datagram :: socket.inbox := by
  have single := relayed.single
  have read := relayed.running (by
    rw [pump]
    exact OutPump.noConfusion)
  cases waiting : task.boundary.waiting with
  | nil =>
      rw [waiting] at located
      cases located
  | cons head tail =>
      rw [waiting] at located single read
      cases located
      have alone := List.length_eq_zero_iff.mp (Nat.le_zero.mp (Nat.le_of_succ_le_succ single))
      subst alone
      refine ⟨rfl, ?_⟩
      rw [read]
      simp only [List.map_cons, List.map_nil, List.append_assoc, List.cons_append,
        List.nil_append]

theorem committing (relayed : Relayed depth task socket) (pump : task.pump = .sending)
    (moved : Traffic.Moved task.boundary (.commit 0) boundary) :
    Relayed depth { task with boundary := boundary, pump := .receiving } socket := by
  have flowing := relayed.flowing.step moved
  cases moved with
  | committed _ call channel located committed =>
      rcases relayed.leaving pump located with ⟨gone, read⟩
      refine ⟨flowing, ?_, fun _ => gone, [], fun _ => rfl, ?_⟩
      · change (task.boundary.waiting.eraseIdx 0).length <= 1
        rw [gone]
        exact Nat.zero_le 1
      · change socket.received = (task.boundary.accepted ++ [call]).map Call.datagram ++
          (task.boundary.waiting.eraseIdx 0).map Call.datagram ++ [] ++ socket.inbox
        rw [read, gone]
        simp only [List.map_append, List.map_cons, List.map_nil, List.append_nil,
          List.append_assoc, List.cons_append, List.nil_append]

/-- A refused call is the last one, and its datagram goes nowhere. -/
theorem refused (relayed : Relayed depth task socket) (pump : task.pump = .sending)
    (moved : Traffic.Moved task.boundary (.hangUp 0) boundary) :
    Relayed depth { task with boundary := boundary, pump := .ended } socket := by
  have flowing := relayed.flowing.step moved
  cases moved with
  | hungUp _ call located closed =>
      rcases relayed.leaving pump located with ⟨gone, read⟩
      refine ⟨flowing, ?_, fun _ => gone, [call.datagram], fun runs => absurd rfl runs, ?_⟩
      · change (task.boundary.waiting.eraseIdx 0).length <= 1
        rw [gone]
        exact Nat.zero_le 1
      · change socket.received = task.boundary.accepted.map Call.datagram ++
          (task.boundary.waiting.eraseIdx 0).map Call.datagram ++ [call.datagram] ++ socket.inbox
        rw [read, gone]
        simp only [List.map_nil, List.append_nil, List.append_assoc, List.cons_append,
          List.nil_append]

theorem broken (relayed : Relayed depth task socket) (pump : task.pump = .receiving) :
    Relayed depth { task with pump := .ended } socket := by
  have runs : task.pump ≠ .ended := by
    rw [pump]
    exact OutPump.noConfusion
  have idle : task.boundary.waiting = [] := relayed.calling (by
    rw [pump]
    exact OutPump.noConfusion)
  rcases relayed.read with ⟨lost, nothing, read⟩
  refine ⟨relayed.flowing, relayed.single, fun _ => idle, lost, ?_, read⟩
  intro _
  exact nothing runs

theorem step (relayed : Relayed depth task socket) {move : ReplyMove} {next : ReplyTask Tag}
    {after : UdpSocket} (stepped : ReplyTask.Stepped task socket move next after) :
    Relayed depth next after := by
  cases stepped with
  | read datagram rest boundary pump inbox moved => exact relayed.taking pump inbox moved
  | broken pump => exact relayed.broken pump
  | reserved boundary pump moved =>
      have kept := relayed.uncalled moved (by cases moved; exact ⟨rfl, rfl⟩)
      rw [← pump]
      exact kept
  | committed boundary pump moved => exact relayed.committing pump moved
  | hungUp boundary pump moved => exact relayed.refused pump moved
  | released boundary pump moved =>
      have kept := relayed.uncalled moved (by cases moved; exact ⟨rfl, rfl⟩)
      rw [← pump]
      exact kept
  | elapsed duration boundary moved =>
      exact relayed.uncalled moved (by cases moved; exact ⟨rfl, rfl⟩)
  | pumped boundary moved =>
      exact relayed.uncalled moved (by cases moved <;> exact ⟨rfl, rfl⟩)
  | answered result boundary moved =>
      exact relayed.uncalled moved (by cases moved; exact ⟨rfl, rfl⟩)

/-- The server's datagram waits in the socket. -/
theorem arrive (relayed : Relayed depth task socket) (address : Address) (datagram : Datagram) :
    Relayed depth task (socket.arrive address datagram) := by
  by_cases here : socket.localAddr = address
  · rw [UdpSocket.arrive, if_pos here]
    rcases relayed.read with ⟨lost, nothing, read⟩
    refine ⟨relayed.flowing, relayed.single, relayed.calling, lost, nothing, ?_⟩
    rw [read, List.append_assoc]
  · rw [UdpSocket.arrive, if_neg here]
    exact relayed

theorem spawn (transport : NymReplyTransport Tag) (queueDepth reader : Nat)
    (unread : socket.inbox = socket.received) :
    Relayed (max queueDepth 1) (ReplyTask.spawn transport queueDepth reader) socket where
  flowing := ⟨rfl, rfl, rfl, Nat.zero_le _⟩
  single := Nat.zero_le 1
  calling := fun _ => rfl
  read := ⟨[], fun _ => rfl, unread.symm⟩

/-- The inner sends follow the order in which the socket received. -/
theorem starts_prefix (relayed : Relayed depth task socket) :
    task.boundary.starts.map Prod.snd <+: socket.received := by
  rcases relayed.read with ⟨lost, _, read⟩
  rw [read, relayed.flowing.order]
  simp only [List.append_assoc]
  exact List.prefix_append _ _

end Relayed

end Nym
end QuicMix
