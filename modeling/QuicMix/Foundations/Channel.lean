import Mathlib.Data.List.Basic

namespace QuicMix
namespace Foundations

universe u v

/-!
# A bounded first-in first-out channel

Many senders share one receiver.  A sender that is willing to wait first takes
a permit, which reserves a place, and then commits its message to that place; a
sender that gives up in between hands the permit back and leaves no trace.  A
sender that is not willing to wait is told that the channel is full.  The
receiver takes messages in the order in which they were committed.

Queued messages and permits together never exceed the capacity.  This is a
field of the structure, so a channel that is over its capacity cannot be built.
-/

structure Channel (Sender : Type u) (Message : Type v) where
  capacity : Nat
  queue : List Message
  permits : List Sender
  /-- The receiving half has been dropped; nobody will take messages. -/
  receiverGone : Bool
  /-- Every sending half has been dropped; nobody will commit messages. -/
  sendersGone : Bool
  bounded : queue.length + permits.length <= capacity

/-- The answer to a sender that does not wait. -/
inductive TrySend (Sender : Type u) (Message : Type v) where
  | sent (channel : Channel Sender Message)
  | full
  | closed

/-- The answer to the receiver.  It waits while the answer is `pending`. -/
inductive Recv (Sender : Type u) (Message : Type v) where
  | message (head : Message) (channel : Channel Sender Message)
  | pending
  | ended

namespace Channel

variable {Sender : Type u} {Message : Type v}

def create (capacity : Nat) : Channel Sender Message where
  capacity := capacity
  queue := []
  permits := []
  receiverGone := false
  sendersGone := false
  bounded := Nat.zero_le _

/-- Neither a message nor a permit occupies the last place. -/
def hasRoom (channel : Channel Sender Message) : Bool :=
  decide (channel.queue.length + channel.permits.length < channel.capacity)

theorem queue_length_le (channel : Channel Sender Message) :
    channel.queue.length <= channel.capacity :=
  Nat.le_trans (Nat.le_add_right _ _) channel.bounded

/-- Take a permit if there is room. -/
def reserve (channel : Channel Sender Message) (who : Sender) : Option (Channel Sender Message) :=
  if room : channel.queue.length + channel.permits.length < channel.capacity then
    some { channel with
      permits := channel.permits ++ [who]
      bounded := by
        rw [List.length_append, List.length_singleton]
        omega }
  else none

theorem reserve_eq_some {channel next : Channel Sender Message} {who : Sender}
    (reserved : channel.reserve who = some next) :
    next.capacity = channel.capacity ∧ next.queue = channel.queue ∧
      next.receiverGone = channel.receiverGone ∧ next.sendersGone = channel.sendersGone := by
  unfold reserve at reserved
  split at reserved
  · cases reserved
    exact ⟨rfl, rfl, rfl, rfl⟩
  · cases reserved

/-- The permit that was taken. -/
theorem permits_of_reserve {channel next : Channel Sender Message} {who : Sender}
    (reserved : channel.reserve who = some next) : next.permits = channel.permits ++ [who] := by
  unfold reserve at reserved
  split at reserved
  · cases reserved
    rfl
  · cases reserved

/-- An empty channel without permits has room. -/
theorem exists_reserve {channel : Channel Sender Message} (positive : 0 < channel.capacity)
    (empty : channel.queue = []) (free : channel.permits = []) (who : Sender) :
    exists next, channel.reserve who = some next := by
  have room : channel.queue.length + channel.permits.length < channel.capacity := by
    rw [empty, free]
    exact positive
  exact ⟨_, dif_pos room⟩

/-- A non-waiting send. -/
def trySend (channel : Channel Sender Message) (message : Message) : TrySend Sender Message :=
  if channel.receiverGone then .closed
  else if room : channel.queue.length + channel.permits.length < channel.capacity then
    .sent { channel with
      queue := channel.queue ++ [message]
      bounded := by
        rw [List.length_append, List.length_singleton]
        omega }
  else .full

theorem trySend_eq_sent {channel next : Channel Sender Message} {message : Message}
    (sent : channel.trySend message = .sent next) :
    next.capacity = channel.capacity ∧ next.queue = channel.queue ++ [message] ∧
      next.receiverGone = channel.receiverGone ∧ next.sendersGone = channel.sendersGone := by
  unfold trySend at sent
  split at sent
  · cases sent
  · split at sent
    · cases sent
      exact ⟨rfl, rfl, rfl, rfl⟩
    · cases sent

/-- A non-waiting send succeeds exactly when the channel has a receiver and
room. -/
theorem trySend_sent_iff {channel : Channel Sender Message} {message : Message} :
    (exists next, channel.trySend message = .sent next) <->
      (!channel.receiverGone && channel.hasRoom) = true := by
  unfold trySend hasRoom
  cases gone : channel.receiverGone with
  | true => simp only [if_true, reduceCtorEq, exists_false, Bool.not_true, Bool.false_and,
      Bool.false_eq_true]
  | false =>
      by_cases room : channel.queue.length + channel.permits.length < channel.capacity
      · simp only [Bool.false_eq_true, if_false, room, dif_pos, TrySend.sent.injEq, exists_eq',
          Bool.not_false, decide_true, Bool.and_self]
      · simp only [Bool.false_eq_true, if_false, room, dif_neg, not_false_eq_true, reduceCtorEq,
          exists_false, Bool.not_false, decide_false, Bool.and_false]

/-- The receiver takes the oldest message; without one it learns whether more
can come. -/
def recv (channel : Channel Sender Message) : Recv Sender Message :=
  match found : channel.queue with
  | head :: tail =>
      .message head { channel with
        queue := tail
        bounded := by
          have bounded := channel.bounded
          rw [found, List.length_cons] at bounded
          omega }
  | [] => if channel.sendersGone then .ended else .pending

theorem recv_eq_message {channel next : Channel Sender Message} {head : Message}
    (taken : channel.recv = .message head next) :
    next.capacity = channel.capacity ∧ channel.queue = head :: next.queue ∧
      next.receiverGone = channel.receiverGone ∧ next.sendersGone = channel.sendersGone := by
  unfold recv at taken
  split at taken
  · rename_i first rest found
    cases taken
    exact ⟨rfl, found, rfl, rfl⟩
  · split at taken <;> cases taken

theorem permits_of_recv {channel next : Channel Sender Message} {head : Message}
    (taken : channel.recv = .message head next) : next.permits = channel.permits := by
  unfold recv at taken
  split at taken
  · cases taken
    rfl
  · split at taken <;> cases taken

/-- A receiver that waits finds no message. -/
theorem recv_eq_pending {channel : Channel Sender Message} (pending : channel.recv = .pending) :
    channel.queue = [] := by
  unfold recv at pending
  split at pending
  · cases pending
  · rename_i empty
    exact empty

/-- As long as the receiver waits, a message can come. -/
theorem sendersGone_of_pending {channel : Channel Sender Message}
    (pending : channel.recv = .pending) : channel.sendersGone = false := by
  unfold recv at pending
  split at pending
  · cases pending
  · split at pending
    · cases pending
    · rename_i live
      exact Bool.not_eq_true _ |>.mp live

theorem recv_eq_ended {channel : Channel Sender Message} (ended : channel.recv = .ended) :
    channel.queue = [] ∧ channel.sendersGone = true := by
  unfold recv at ended
  split at ended
  · cases ended
  · rename_i empty
    split at ended
    · rename_i gone
      exact ⟨empty, gone⟩
    · cases ended

def dropReceiver (channel : Channel Sender Message) : Channel Sender Message :=
  { channel with receiverGone := true }

def dropSenders (channel : Channel Sender Message) : Channel Sender Message :=
  { channel with sendersGone := true }

variable [DecidableEq Sender]

/-- Commit a message to the place that a permit reserved. -/
def commit (channel : Channel Sender Message) (who : Sender) (message : Message) :
    Option (Channel Sender Message) :=
  if held : who ∈ channel.permits then
    some { channel with
      queue := channel.queue ++ [message]
      permits := channel.permits.erase who
      bounded := by
        have bounded := channel.bounded
        have positive := List.length_pos_of_mem held
        rw [List.length_append, List.length_singleton, List.length_erase_of_mem held]
        omega }
  else none

theorem commit_eq_some {channel next : Channel Sender Message} {who : Sender} {message : Message}
    (committed : channel.commit who message = some next) :
    next.capacity = channel.capacity ∧ next.queue = channel.queue ++ [message] ∧
      next.receiverGone = channel.receiverGone ∧ next.sendersGone = channel.sendersGone := by
  unfold commit at committed
  split at committed
  · cases committed
    exact ⟨rfl, rfl, rfl, rfl⟩
  · cases committed

theorem permits_of_commit {channel next : Channel Sender Message} {who : Sender}
    {message : Message} (committed : channel.commit who message = some next) :
    next.permits = channel.permits.erase who := by
  unfold commit at committed
  split at committed
  · cases committed
    rfl
  · cases committed

theorem exists_commit {channel : Channel Sender Message} {who : Sender}
    (held : who ∈ channel.permits) (message : Message) :
    exists next, channel.commit who message = some next :=
  ⟨_, dif_pos held⟩

/-- Hand a permit back, if one is held. -/
def abandon (channel : Channel Sender Message) (who : Sender) : Channel Sender Message :=
  { channel with
    permits := channel.permits.erase who
    bounded := Nat.le_trans (Nat.add_le_add_left List.length_erase_le _) channel.bounded }

end Channel
end Foundations
end QuicMix
