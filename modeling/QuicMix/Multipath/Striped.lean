import QuicMix.Foundations.Lists
import QuicMix.Foundations.RoundRobin
import QuicMix.Foundations.Schedule
import Mathlib.Data.List.Nodup
import Mathlib.Data.List.Perm.Basic

namespace QuicMix
namespace Multipath

open Foundations

/-!
# Striping over several substrates

`Striped` gives every datagram to one of its substrates, in turn, and merges what
they receive.  A call of `send` first draws a slot from a shared counter and then
calls the substrate of that slot; calls run concurrently, and so the calls of the
substrates come in any order.  Each substrate has a pump that moves what it
receives into one channel, from which `recv` is served.

A send is known by its ticket, the number of sends that drew a slot before it.
Entries of the channel carry the number of their pump.  Neither is read by the
code.
-/

universe u

/-- Where the counter wraps. -/
def usizeModulus : Nat := 2 ^ 64

/-- A substrate's receiving end and the task that empties it. -/
structure Pump (Datagram : Type u) where
  /-- What the substrate's `recv` has returned, in order. -/
  received : List Datagram
  /-- Received and not yet sent into the channel. -/
  held : Option Datagram
  /-- The substrate's `recv` has returned `None`, and the task is over. -/
  ended : Bool

structure Striped (Datagram : Type u) where
  next : Nat
  /-- The slot and the datagram of each ticket. -/
  assigned : List (Nat × Datagram)
  /-- Tickets of sends that have drawn a slot and not reached their substrate. -/
  pending : List Nat
  /-- Calls of the substrates' `send`: the substrate and the ticket. -/
  handed : List (Nat × Nat)
  pumps : List (Pump Datagram)
  /-- The open sending ends of the channel. -/
  senders : Nat
  merged : List (Nat × Datagram)
  delivered : List (Nat × Datagram)
  /-- How many calls of `recv` returned `None`. -/
  exhausted : Nat

inductive Move (Datagram : Type u) where
  | assign (datagram : Datagram)
  | hand (index : Nat)
  | arrive (sub : Nat) (datagram : Datagram)
  | finish (sub : Nat)
  | merge (sub : Nat)
  | recv
  | recvNone

namespace Striped

variable {Datagram : Type u}

/-- `Striped::new`: one pump for each substrate, with a sending end of its own.
The first sending end is dropped. -/
def start (subs : Nat) : Striped Datagram where
  next := 0
  assigned := []
  pending := []
  handed := []
  pumps := List.replicate subs ⟨[], none, false⟩
  senders := subs
  merged := []
  delivered := []
  exhausted := 0

/-- A send without substrates does nothing and is left out. -/
def step (striped : Striped Datagram) : Move Datagram -> Option (Striped Datagram)
  | .assign datagram =>
      if striped.pumps.isEmpty then none
      else some { striped with
        next := (striped.next + 1) % usizeModulus
        assigned := striped.assigned ++ [(striped.next % striped.pumps.length, datagram)]
        pending := striped.pending ++ [striped.assigned.length] }
  | .hand index =>
      match striped.pending[index]? with
      | none => none
      | some ticket =>
          match striped.assigned[ticket]? with
          | none => none
          | some (slot, _) => some { striped with
              pending := striped.pending.eraseIdx index
              handed := striped.handed ++ [(slot, ticket)] }
  | .arrive sub datagram =>
      match striped.pumps[sub]? with
      | some ⟨received, none, false⟩ => some { striped with
          pumps := striped.pumps.set sub ⟨received ++ [datagram], some datagram, false⟩ }
      | _ => none
  | .finish sub =>
      match striped.pumps[sub]? with
      | some ⟨received, none, false⟩ => some { striped with
          pumps := striped.pumps.set sub ⟨received, none, true⟩
          senders := striped.senders - 1 }
      | _ => none
  | .merge sub =>
      match striped.pumps[sub]? with
      | some ⟨received, some datagram, false⟩ => some { striped with
          pumps := striped.pumps.set sub ⟨received, none, false⟩
          merged := striped.merged ++ [(sub, datagram)] }
      | _ => none
  | .recv =>
      match striped.merged with
      | [] => none
      | entry :: rest => some { striped with
          merged := rest, delivered := striped.delivered ++ [entry] }
  | .recvNone =>
      if striped.merged = [] ∧ striped.senders = 0 then
        some { striped with exhausted := striped.exhausted + 1 }
      else none

/-- What one move does. -/
inductive Moved (striped : Striped Datagram) : Move Datagram -> Striped Datagram -> Prop where
  | assign (datagram : Datagram) (some : striped.pumps ≠ []) :
      Moved striped (.assign datagram) { striped with
        next := (striped.next + 1) % usizeModulus
        assigned := striped.assigned ++ [(striped.next % striped.pumps.length, datagram)]
        pending := striped.pending ++ [striped.assigned.length] }
  | hand {index ticket slot : Nat} {datagram : Datagram}
      (waiting : striped.pending[index]? = some ticket)
      (drawn : striped.assigned[ticket]? = some (slot, datagram)) :
      Moved striped (.hand index) { striped with
        pending := striped.pending.eraseIdx index
        handed := striped.handed ++ [(slot, ticket)] }
  | arrive {sub : Nat} {received : List Datagram} (datagram : Datagram)
      (located : striped.pumps[sub]? = some ⟨received, none, false⟩) :
      Moved striped (.arrive sub datagram) { striped with
        pumps := striped.pumps.set sub ⟨received ++ [datagram], some datagram, false⟩ }
  | finish {sub : Nat} {received : List Datagram}
      (located : striped.pumps[sub]? = some ⟨received, none, false⟩) :
      Moved striped (.finish sub) { striped with
        pumps := striped.pumps.set sub ⟨received, none, true⟩
        senders := striped.senders - 1 }
  | merge {sub : Nat} {received : List Datagram} {datagram : Datagram}
      (located : striped.pumps[sub]? = some ⟨received, some datagram, false⟩) :
      Moved striped (.merge sub) { striped with
        pumps := striped.pumps.set sub ⟨received, none, false⟩
        merged := striped.merged ++ [(sub, datagram)] }
  | recv {entry : Nat × Datagram} {rest : List (Nat × Datagram)}
      (front : striped.merged = entry :: rest) :
      Moved striped .recv { striped with
        merged := rest, delivered := striped.delivered ++ [entry] }
  | recvNone (drained : striped.merged = []) (closed : striped.senders = 0) :
      Moved striped .recvNone { striped with exhausted := striped.exhausted + 1 }

theorem moved_of_step {striped next : Striped Datagram} {move : Move Datagram}
    (moved : striped.step move = some next) : Moved striped move next := by
  cases move with
  | assign datagram =>
      simp only [step] at moved
      split at moved
      case isTrue => cases moved
      case isFalse nonempty =>
          cases moved
          exact .assign datagram (fun empty => nonempty (List.isEmpty_iff.mpr empty))
  | hand index =>
      simp only [step] at moved
      split at moved
      case h_1 => cases moved
      case h_2 ticket waiting =>
          split at moved
          case h_1 => cases moved
          case h_2 slot datagram drawn =>
              cases moved
              exact .hand waiting drawn
  | arrive sub datagram =>
      simp only [step] at moved
      split at moved
      case h_1 received located =>
          cases moved
          exact .arrive datagram located
      case h_2 => cases moved
  | finish sub =>
      simp only [step] at moved
      split at moved
      case h_1 received located =>
          cases moved
          exact .finish located
      case h_2 => cases moved
  | merge sub =>
      simp only [step] at moved
      split at moved
      case h_1 received datagram located =>
          cases moved
          exact .merge located
      case h_2 => cases moved
  | recv =>
      simp only [step] at moved
      split at moved
      case h_1 => cases moved
      case h_2 entry rest front =>
          cases moved
          exact .recv front
  | recvNone =>
      simp only [step] at moved
      split at moved
      case isTrue finished =>
          cases moved
          exact .recvNone finished.1 finished.2
      case isFalse => cases moved

/-! ## Sending -/

/-- The slots are drawn in turn, and every ticket is either waiting or was given
to the substrate of its slot, once. -/
structure Sending (subs : Nat) (striped : Striped Datagram) : Prop where
  pumps : striped.pumps.length = subs
  next : striped.next = striped.assigned.length % usizeModulus
  slots : striped.assigned.map Prod.fst =
    (List.range striped.assigned.length).map (fun ticket => ticket % usizeModulus % subs)
  tickets : (striped.pending ++ striped.handed.map Prod.snd).Perm
    (List.range striped.assigned.length)
  handed : forall call, call ∈ striped.handed ->
    exists datagram, striped.assigned[call.2]? = some (call.1, datagram)

theorem sending_start (subs : Nat) : Sending subs (start subs : Striped Datagram) where
  pumps := List.length_replicate
  next := rfl
  slots := rfl
  tickets := .refl []
  handed := fun _ member => (List.not_mem_nil member).elim

theorem Sending.assign {subs : Nat} {striped : Striped Datagram} (sending : Sending subs striped)
    (datagram : Datagram) :
    Sending subs { striped with
      next := (striped.next + 1) % usizeModulus
      assigned := striped.assigned ++ [(striped.next % striped.pumps.length, datagram)]
      pending := striped.pending ++ [striped.assigned.length] } := by
  refine ⟨sending.pumps, ?_, ?_, ?_, ?_⟩
  · simp only [List.length_append, List.length_singleton, sending.next, Nat.mod_add_mod]
  · simp only [List.length_append, List.length_singleton, List.map_append, List.range_succ,
      sending.slots, List.map_cons, List.map_nil, sending.next, sending.pumps]
  · simp only [List.length_append, List.length_singleton, List.range_succ, List.append_assoc]
    refine List.Perm.trans ?_ (sending.tickets.append_right [striped.assigned.length])
    rw [List.append_assoc]
    exact List.Perm.append_left striped.pending List.perm_append_comm
  · intro call member
    rcases sending.handed call member with ⟨old, drawn⟩
    exact ⟨old, getElem?_append_of_some drawn _⟩

theorem Sending.hand {subs : Nat} {striped : Striped Datagram} (sending : Sending subs striped)
    {index ticket slot : Nat} {datagram : Datagram}
    (waiting : striped.pending[index]? = some ticket)
    (drawn : striped.assigned[ticket]? = some (slot, datagram)) :
    Sending subs { striped with
      pending := striped.pending.eraseIdx index
      handed := striped.handed ++ [(slot, ticket)] } := by
  refine ⟨sending.pumps, sending.next, sending.slots, ?_, ?_⟩
  · refine List.Perm.trans ?_ sending.tickets
    rcases split_at waiting with ⟨before, after, split, _, erased⟩
    dsimp only
    rw [erased, split]
    simp only [List.map_append, List.map_cons, List.map_nil, List.append_assoc, List.cons_append]
    apply List.Perm.append_left before
    rw [← List.append_assoc]
    exact List.perm_append_singleton ticket _
  · intro call member
    rcases List.mem_append.mp member with old | new
    · exact sending.handed call old
    · cases List.mem_singleton.mp new
      exact ⟨datagram, drawn⟩

theorem Moved.sending {subs : Nat} {striped next : Striped Datagram} {move : Move Datagram}
    (moved : Moved striped move next) (sending : Sending subs striped) : Sending subs next := by
  cases moved with
  | assign datagram some => exact sending.assign datagram
  | hand waiting drawn => exact sending.hand waiting drawn
  | arrive datagram located =>
      exact ⟨List.length_set.trans sending.pumps, sending.next, sending.slots, sending.tickets,
        sending.handed⟩
  | finish located =>
      exact ⟨List.length_set.trans sending.pumps, sending.next, sending.slots, sending.tickets,
        sending.handed⟩
  | merge located =>
      exact ⟨List.length_set.trans sending.pumps, sending.next, sending.slots, sending.tickets,
        sending.handed⟩
  | recv front =>
      exact ⟨sending.pumps, sending.next, sending.slots, sending.tickets, sending.handed⟩
  | recvNone drained closed =>
      exact ⟨sending.pumps, sending.next, sending.slots, sending.tickets, sending.handed⟩

/-- Before the counter wraps the slots are the turns of the substrates. -/
theorem Sending.turns_eq {subs : Nat} {striped : Striped Datagram}
    (sending : Sending subs striped) (fits : striped.assigned.length <= usizeModulus) :
    striped.assigned.map Prod.fst = turns 0 subs striped.assigned.length := by
  rw [sending.slots, turns]
  apply List.map_congr_left
  intro ticket member
  have small : ticket < usizeModulus := Nat.lt_of_lt_of_le (List.mem_range.mp member) fits
  rw [Nat.mod_eq_of_lt small, Nat.zero_add]

/-! ## Receiving -/

/-- What a pump received is what was delivered of it, what is in the channel of
it and what it holds, in this order. -/
def Pump.Accounted (striped : Striped Datagram) (sub : Nat) (pump : Pump Datagram) : Prop :=
  labelled striped.delivered sub ++ labelled striped.merged sub ++ pump.held.toList =
      pump.received ∧
    (pump.ended = true -> pump.held = none)

structure Receiving (subs : Nat) (striped : Striped Datagram) : Prop where
  pumps : striped.pumps.length = subs
  accounted : forall sub pump, striped.pumps[sub]? = some pump ->
    Pump.Accounted striped sub pump
  labels : forall entry, entry ∈ striped.delivered ++ striped.merged -> entry.1 < subs
  senders : striped.senders = striped.pumps.countP (fun pump => !pump.ended)
  exhausted : 0 < striped.exhausted -> striped.senders = 0 ∧ striped.merged = []

/-- After a pump was written every other pump is as before. -/
theorem located_set {pumps : List (Pump Datagram)} {sub other : Nat}
    {old updated pump : Pump Datagram}
    (located : pumps[sub]? = some old) (there : (pumps.set sub updated)[other]? = some pump) :
    (other = sub ∧ pump = updated) ∨ (other ≠ sub ∧ pumps[other]? = some pump) := by
  by_cases same : other = sub
  · subst same
    rw [List.getElem?_set_self (List.getElem?_eq_some_iff.mp located).1] at there
    exact .inl ⟨rfl, (Option.some.inj there).symm⟩
  · rw [List.getElem?_set_ne (Ne.symm same)] at there
    exact .inr ⟨same, there⟩

/-- Writing a pump that is as open as before keeps the number of open pumps. -/
theorem countP_open_set {pumps : List (Pump Datagram)} {sub : Nat} {old updated : Pump Datagram}
    (located : pumps[sub]? = some old) :
    (pumps.set sub updated).countP (fun pump => !pump.ended) + (if old.ended then 0 else 1) =
      pumps.countP (fun pump => !pump.ended) + (if updated.ended then 0 else 1) := by
  rcases split_at located with ⟨before, after, split, written, _⟩
  rw [written, split]
  simp only [List.countP_append, List.countP_cons]
  cases old.ended <;> cases updated.ended <;> simp only [Bool.not_true, Bool.not_false,
    Bool.false_eq_true, if_true, if_false] <;> omega

theorem countP_open_keep {pumps : List (Pump Datagram)} {sub : Nat} {old : Pump Datagram}
    (updated : Pump Datagram) (located : pumps[sub]? = some old)
    (same : updated.ended = old.ended) :
    (pumps.set sub updated).countP (fun pump => !pump.ended) =
      pumps.countP (fun pump => !pump.ended) := by
  have counts := @countP_open_set _ pumps sub old updated located
  rw [same] at counts
  exact Nat.add_right_cancel counts

theorem labelled_one_self (sub : Nat) (datagram : Datagram) :
    labelled [(sub, datagram)] sub = [datagram] :=
  labelled_self sub [datagram]

theorem labelled_one_other {sub other : Nat} (apart : other ≠ sub) (datagram : Datagram) :
    labelled [(sub, datagram)] other = [] :=
  labelled_other [datagram] apart.symm

theorem receiving_start (subs : Nat) : Receiving subs (start subs : Striped Datagram) where
  pumps := List.length_replicate
  accounted := by
    intro sub pump located
    rcases List.getElem?_eq_some_iff.mp located with ⟨bound, same⟩
    simp only [start, List.getElem_replicate] at same
    subst same
    exact ⟨rfl, fun _ => rfl⟩
  labels := fun _ member => (List.not_mem_nil member).elim
  senders := by
    simp only [start, List.countP_replicate, Bool.not_false, if_true]
  exhausted := fun positive => (Nat.lt_irrefl 0 positive).elim

theorem Moved.receiving {subs : Nat} {striped next : Striped Datagram} {move : Move Datagram}
    (moved : Moved striped move next) (receiving : Receiving subs striped) :
    Receiving subs next := by
  cases moved with
  | assign datagram some =>
      exact ⟨receiving.pumps, receiving.accounted, receiving.labels, receiving.senders,
        receiving.exhausted⟩
  | hand waiting drawn =>
      exact ⟨receiving.pumps, receiving.accounted, receiving.labels, receiving.senders,
        receiving.exhausted⟩
  | @arrive sub received datagram located =>
      refine ⟨List.length_set.trans receiving.pumps, ?_, receiving.labels, ?_,
        receiving.exhausted⟩
      · intro other pump there
        rcases located_set located there with ⟨rfl, rfl⟩ | ⟨_, old⟩
        · have before := (receiving.accounted other _ located).1
          simp only [Option.toList_none, List.append_nil] at before
          exact ⟨congrArg (· ++ [datagram]) before, fun ended => nomatch ended⟩
        · exact receiving.accounted other pump old
      · exact receiving.senders.trans
          (countP_open_keep ⟨received ++ [datagram], some datagram, false⟩ located rfl).symm
  | @finish sub received located =>
      refine ⟨List.length_set.trans receiving.pumps, ?_, receiving.labels, ?_, ?_⟩
      · intro other pump there
        rcases located_set located there with ⟨rfl, rfl⟩ | ⟨_, old⟩
        · exact ⟨(receiving.accounted other _ located).1, fun _ => rfl⟩
        · exact receiving.accounted other pump old
      · have counts := @countP_open_set _ _ _ _ ⟨received, none, true⟩ located
        simp only [Bool.false_eq_true, if_false, if_true] at counts
        dsimp only
        rw [receiving.senders]
        omega
      · intro positive
        rcases receiving.exhausted positive with ⟨closed, drained⟩
        exact ⟨by dsimp only; rw [closed], drained⟩
  | @merge sub received datagram located =>
      refine ⟨List.length_set.trans receiving.pumps, ?_, ?_, ?_, ?_⟩
      · intro other pump there
        rcases located_set located there with ⟨rfl, rfl⟩ | ⟨apart, old⟩
        · have before := (receiving.accounted other _ located).1
          refine ⟨?_, fun _ => rfl⟩
          simp only [labelled_append, labelled_one_self, Option.toList_none, List.append_nil]
          rw [← List.append_assoc]
          exact before
        · have before := receiving.accounted other pump old
          refine ⟨?_, before.2⟩
          simp only [labelled_append, labelled_one_other apart, List.append_nil]
          exact before.1
      · intro entry member
        rw [← List.append_assoc] at member
        rcases List.mem_append.mp member with old | new
        · exact receiving.labels entry old
        · cases List.mem_singleton.mp new
          rw [← receiving.pumps]
          exact (List.getElem?_eq_some_iff.mp located).1
      · exact receiving.senders.trans
          (countP_open_keep ⟨received, none, false⟩ located rfl).symm
      · intro positive
        -- a pump that holds a datagram keeps its sending end
        have closed := (receiving.exhausted positive).1
        rw [receiving.senders, List.countP_eq_zero] at closed
        exact absurd rfl (closed _ (List.mem_of_getElem? located))
  | @recv entry rest front =>
      refine ⟨receiving.pumps, ?_, ?_, receiving.senders, ?_⟩
      · intro sub pump there
        have before := receiving.accounted sub pump there
        have cut : labelled striped.merged sub = labelled [entry] sub ++ labelled rest sub := by
          rw [front]
          exact labelled_append [entry] rest sub
        refine ⟨?_, before.2⟩
        rw [← before.1, cut]
        simp only [labelled_append, List.append_assoc]
      · intro other member
        apply receiving.labels other
        rw [front, ← List.singleton_append, ← List.append_assoc]
        exact member
      · intro positive
        rw [(receiving.exhausted positive).2] at front
        cases front
  | recvNone drained closed =>
      exact ⟨receiving.pumps, receiving.accounted, receiving.labels, receiving.senders,
        fun _ => ⟨closed, drained⟩⟩

/-- An exhausted `recv` has delivered all that any substrate ever received. -/
theorem Receiving.all_delivered {subs : Nat} {striped : Striped Datagram}
    (receiving : Receiving subs striped) (positive : 0 < striped.exhausted) {sub : Nat}
    {pump : Pump Datagram} (located : striped.pumps[sub]? = some pump) :
    pump.ended = true ∧ labelled striped.delivered sub = pump.received := by
  rcases receiving.exhausted positive with ⟨closed, drained⟩
  have ended : pump.ended = true := by
    rw [receiving.senders, List.countP_eq_zero] at closed
    have shut := closed pump (List.mem_of_getElem? located)
    cases finished : pump.ended with
    | true => rfl
    | false =>
        rw [finished] at shut
        exact absurd rfl shut
  rcases receiving.accounted sub pump located with ⟨all, idle⟩
  rw [drained, idle ended] at all
  refine ⟨ended, ?_⟩
  rw [← all]
  exact (List.append_nil _).symm.trans (List.append_nil _).symm

/-- Striping neither loses nor invents datagrams and splits evenly.  In every
run over a positive number of substrates: every send that drew a slot is waiting
or was given to one substrate, once; each substrate drew its share of the slots,
rounded down or up; what `recv` returned of a substrate is a beginning of what
the substrate received; and `recv` returns `None` only when every substrate's
receive has ended and all that was received is delivered. -/
theorem striping_conserves (subs : Nat) (positive : 0 < subs) (moves : List (Move Datagram))
    (striped : Striped Datagram) (ran : run step (start subs) moves = some striped)
    (fits : striped.assigned.length <= usizeModulus) :
    ((striped.pending ++ striped.handed.map Prod.snd).Perm
        (List.range striped.assigned.length) ∧
      forall call, call ∈ striped.handed -> call.1 < subs ∧
        exists datagram, striped.assigned[call.2]? = some (call.1, datagram)) ∧
    (forall sub, sub < subs ->
      (striped.assigned.map Prod.fst).count sub = striped.assigned.length / subs ∨
        (striped.assigned.map Prod.fst).count sub =
          (striped.assigned.length + subs - 1) / subs) ∧
    ((forall entry, entry ∈ striped.delivered -> entry.1 < striped.pumps.length) ∧
      striped.pumps.length = subs ∧
      forall sub pump, striped.pumps[sub]? = some pump ->
        labelled striped.delivered sub <+: pump.received) ∧
    (0 < striped.exhausted -> striped.merged = [] ∧
      forall sub pump, striped.pumps[sub]? = some pump ->
        pump.ended = true ∧ labelled striped.delivered sub = pump.received) := by
  have sending : Sending subs striped := invariant (Sending subs)
    (fun _ _ _ holds moved => (moved_of_step moved).sending holds) (sending_start subs) ran
  have receiving : Receiving subs striped := invariant (Receiving subs)
    (fun _ _ _ holds moved => (moved_of_step moved).receiving holds) (receiving_start subs) ran
  refine ⟨⟨sending.tickets, ?_⟩, ?_, ⟨?_, sending.pumps, ?_⟩, ?_⟩
  · intro call member
    rcases sending.handed call member with ⟨datagram, drawn⟩
    refine ⟨?_, datagram, drawn⟩
    have listed : call.1 ∈ striped.assigned.map Prod.fst :=
      List.mem_map_of_mem (List.mem_of_getElem? drawn)
    rw [sending.slots] at listed
    rcases List.mem_map.mp listed with ⟨ticket, _, same⟩
    rw [← same]
    exact Nat.mod_lt _ positive
  · intro sub inside
    rw [sending.turns_eq fits]
    exact count_turns_floor_or_ceil inside striped.assigned.length
  · intro entry member
    rw [sending.pumps]
    exact receiving.labels entry (List.mem_append_left _ member)
  · intro sub pump located
    rw [← (receiving.accounted sub pump located).1, List.append_assoc]
    exact List.prefix_append _ _
  · intro none
    exact ⟨(receiving.exhausted none).2, fun sub pump located =>
      receiving.all_delivered none located⟩

/-- Two substrates, three sends and both ends of receiving. -/
theorem striping_conserves_two :
    exists striped : Striped Nat, run step (start 2)
        [.assign 10, .assign 11, .hand 1, .assign 12, .hand 0, .arrive 1 7, .merge 1, .arrive 0 8,
          .recv, .merge 0, .recv, .finish 0, .finish 1, .recvNone] = some striped ∧
      striped.pending = [2] ∧ striped.handed = [(1, 1), (0, 0)] ∧
      (forall sub, sub < 2 ->
        (striped.assigned.map Prod.fst).count sub = striped.assigned.length / 2 ∨
          (striped.assigned.map Prod.fst).count sub = (striped.assigned.length + 2 - 1) / 2) := by
  refine ⟨_, rfl, rfl, rfl, ?_⟩
  exact (striping_conserves 2 (by decide)
    [.assign 10, .assign 11, .hand 1, .assign 12, .hand 0, .arrive 1 7, .merge 1, .arrive 0 8,
      .recv, .merge 0, .recv, .finish 0, .finish 1, .recvNone] _ rfl (by decide)).2.1

end Striped
end Multipath
end QuicMix
