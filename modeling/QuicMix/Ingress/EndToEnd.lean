import QuicMix.Ingress.Progress

namespace QuicMix
namespace Ingress
namespace Connect

open Foundations
open Gateway

/-!
# A CONNECT tunnel from end to end

Whatever the order in which the two ends, the client and the target move, and
whatever fails, the gateway dials the authority of the request or nothing, the
target has a beginning of what the client has written, and the client has a
beginning of what the target has written.  If nothing fails and nothing is left to
do, both have all of it, and the end of either side's bytes has been passed on to
the other.
-/

section Whole

variable {authority : Text} {connect next : Connect} {intact : Bool}
  {past : List ConnectMove} {move : ConnectMove}

theorem Answering.moved (answering : connect.Answering intact)
    (moved : Moved authority connect move next) (sound : intact = true -> move.fault = false)
    (unmeasured : forall left, next.stream.phase ≠ .measuring left)
    (dialed : intact = true -> forall succeeded, next.stream.phase = .returned succeeded ->
      next.stream.dialed ≠ []) : next.Answering intact := by
  cases moved with
  | targetWrote chunk unended => exact answering.target chunk unended
  | targetEnded => exact answering.targetEnd
  | gateway move stream stepped reads =>
      exact answering.gateway stepped reads sound unmeasured dialed
  | _ => exact answering

/-- A tunnel that is intact has not returned an error. -/
def Unfailed (connect : Connect) : Prop :=
  forall succeeded, connect.phase = .returned succeeded -> succeeded = true

theorem Unfailed.moved (unfailed : connect.Unfailed) (moved : Moved authority connect move next)
    (sound : move.fault = false) : next.Unfailed := by
  intro succeeded phase
  cases moved with
  | named count left before positive bound =>
      dsimp only [nextPhase] at phase
      split at phase
      · cases phase
      · cases phase
  | refused before => cases sound
  | nameFailed left before => cases sound
  | failed up down before => cases sound
  | streamFailed up down before => cases sound
  | clientWrote chunk unended => exact unfailed succeeded phase
  | clientEnded => exact unfailed succeeded phase
  | targetWrote chunk unended => exact unfailed succeeded phase
  | targetEnded => exact unfailed succeeded phase
  | gateway step stream stepped reads => exact unfailed succeeded phase
  | returned before =>
      cases phase
      rfl
  | _ => cases phase

theorem fails_of_fault {step : StreamMove} (sound : (ConnectMove.gateway step).fault = false) :
    step.fails = false := by
  cases step with
  | downFails => cases sound
  | _ => exact sound

/-- What every run keeps track of. -/
structure Tracked (authority : Text) (intact : Bool) (past : List ConnectMove)
    (connect : Connect) : Prop where
  linked : Linked authority past connect
  answering : connect.Answering intact
  arriving : connect.Arriving
  unfailed : intact = true -> connect.Unfailed

theorem fails_of_past (sound : forall step, step ∈ past -> step.fault = false) :
    forall step, step ∈ past.filterMap ConnectMove.gateway? -> step.fails = false := by
  intro step member
  rcases List.mem_filterMap.mp member with ⟨whole, listed, found⟩
  cases whole with
  | gateway inner =>
      cases found
      exact fails_of_fault (sound _ listed)
  | _ => cases found

theorem tracked_start : Tracked authority intact [] start where
  linked := ⟨[], ⟨rfl, rfl, rfl⟩, rfl⟩
  answering := ⟨rfl, rfl, rfl⟩
  arriving := ⟨List.prefix_refl _, rfl, rfl⟩
  unfailed := fun _ => nofun

theorem Tracked.moved (valid : Authority authority)
    (tracked : Tracked authority intact past connect)
    (sound : intact = true -> forall step, step ∈ past ++ [move] -> step.fault = false)
    (moved : Moved authority connect move next) :
    Tracked authority intact (past ++ [move]) next := by
  have linked := tracked.linked.step moved
  have now : intact = true -> move.fault = false := fun whole =>
    sound whole move (List.mem_append_right past List.mem_cons_self)
  refine ⟨linked, ?_, tracked.arriving.moved moved,
    fun whole => (tracked.unfailed whole).moved moved (now whole)⟩
  refine tracked.answering.moved moved now (linked.not_measuring valid) ?_
  intro whole succeeded phase
  rw [linked.dialed_of_returned valid (fails_of_past (sound whole)) phase]
  exact nofun

theorem tracked_of_run (valid : Authority authority) {schedule : List ConnectMove}
    (sound : intact = true -> forall step, step ∈ schedule -> step.fault = false)
    (ran : run (step authority) start schedule = some connect) :
    Tracked authority intact schedule connect := by
  have kept := @invariant_of_history _ _ (step authority)
    (fun past state =>
      (intact = true -> forall step, step ∈ past -> step.fault = false) ->
        Tracked authority intact past state)
    (fun past state move next tracked stepped sound =>
      (tracked (fun whole step member => sound whole step (List.mem_append_left _ member))).moved
        valid sound (moved_of_step stepped))
    start connect [] schedule (fun _ => tracked_start) ran
  exact kept sound

end Whole

/-! ## Nothing is left to do -/

/-- Neither end can do anything. -/
def Quiescent (authority : Text) (connect : Connect) : Prop :=
  forall move, move.internal = true -> connect.step authority move = none

/-- The end of the target's bytes has been passed on to the client. -/
def clientShut (connect : Connect) : Bool :=
  match connect.phase with
  | .splicing _ .closed => true
  | .returned succeeded => succeeded
  | _ => false

theorem exists_write {copy : Copy} {held : List UInt8} (filled : held ≠ [])
    (active : copy = .running held ∨ copy = .draining held) :
    exists written, copy.write 1 = some written := by
  have bound : 0 < 1 ∧ 1 <= held.length := ⟨Nat.one_pos, List.length_pos_iff.mpr filled⟩
  rcases active with rfl | rfl
  · exact ⟨_, if_pos bound⟩
  · exact ⟨_, if_pos bound⟩

section Quiescent

variable {authority : Text} {connect : Connect} {up down : Copy}

theorem Quiescent.settled (quiescent : connect.Quiescent authority) :
    connect.stream.Settled := by
  intro move carries
  have apart : (ConnectMove.gateway move).internal = true := by
    cases move with
    | connect succeeded =>
        cases carries
        rfl
    | _ => first | rfl | cases carries
  have stuck := quiescent (.gateway move) apart
  cases move with
  | replyIn chunk => cases carries
  | replyEnd => cases carries
  | _ => exact Option.map_eq_none_iff.mp stuck

/-- The loop to the stream has nothing to write and nothing to read. -/
theorem Quiescent.sends (quiescent : connect.Quiescent authority)
    (phase : connect.phase = .splicing up down) :
    up = .running [] ∧ connect.pending = [] ∧ connect.clientEnded = false ∨
      up = .stopped ∨ up = .closed := by
  have empty {held : List UInt8} (active : up = .running held ∨ up = .draining held) :
      held = [] := by
    by_contra filled
    rcases exists_write filled active with ⟨written, wrote⟩
    have stuck := quiescent (.writeStream 1) rfl
    simp only [step, phase, wrote, Option.map_some, reduceCtorEq] at stuck
  cases up with
  | running held =>
      cases empty (.inl rfl)
      have unread : connect.pending = [] := by
        by_contra filled
        have stuck := quiescent (.readClient 1) rfl
        have bound : 0 < 1 ∧ 1 <= connect.pending.length :=
          ⟨Nat.one_pos, List.length_pos_iff.mpr filled⟩
        simp only [step, phase, bound, and_self, if_true, Copy.read, Option.map_some,
          reduceCtorEq] at stuck
      refine .inl ⟨rfl, unread, ?_⟩
      cases ended : connect.clientEnded with
      | false => rfl
      | true =>
          have stuck := quiescent .clientEof rfl
          simp only [step, phase, ended, unread, and_self, if_true, Copy.sourceEnd,
            Option.map_some, reduceCtorEq] at stuck
  | draining held =>
      cases empty (.inr rfl)
      have stuck := quiescent .finishStream rfl
      simp only [step, phase, Copy.close, Option.map_some, reduceCtorEq] at stuck
  | stopped => exact .inr (.inl rfl)
  | closed => exact .inr (.inr rfl)

/-- The loop to the client has nothing to write and nothing to read. -/
theorem Quiescent.receives (quiescent : connect.Quiescent authority)
    (phase : connect.phase = .splicing up down) :
    down = .running [] ∧ connect.unreceived = [] ∧ answered connect.stream = false ∨
      down = .stopped ∨ down = .closed := by
  have empty {held : List UInt8} (active : down = .running held ∨ down = .draining held) :
      held = [] := by
    by_contra filled
    rcases exists_write filled active with ⟨written, wrote⟩
    have stuck := quiescent (.writeClient 1) rfl
    simp only [step, phase, wrote, Option.map_some, reduceCtorEq] at stuck
  cases down with
  | running held =>
      cases empty (.inl rfl)
      have unread : connect.unreceived = [] := by
        by_contra filled
        have stuck := quiescent (.readStream 1) rfl
        have bound : 0 < 1 ∧ 1 <= connect.unreceived.length :=
          ⟨Nat.one_pos, List.length_pos_iff.mpr filled⟩
        simp only [step, phase, bound, and_self, if_true, Copy.read, Option.map_some,
          reduceCtorEq] at stuck
      refine .inl ⟨rfl, unread, ?_⟩
      cases ended : answered connect.stream with
      | false => rfl
      | true =>
          have stuck := quiescent .streamEof rfl
          simp only [step, phase, ended, unread, and_self, if_true, Copy.sourceEnd,
            Option.map_some, reduceCtorEq] at stuck
  | draining held =>
      cases empty (.inr rfl)
      have stuck := quiescent .shutClient rfl
      simp only [step, phase, Copy.close, Option.map_some, reduceCtorEq] at stuck
  | stopped => exact .inr (.inl rfl)
  | closed => exact .inr (.inr rfl)

/-- The gateway's loop back has nothing to write and nothing to read. -/
theorem Quiescent.replies (quiescent : connect.Quiescent authority)
    (phase : connect.stream.phase = .splicing up down) :
    down = .running [] ∧ connect.waiting = [] ∧ connect.targetEnded = false ∨
      down = .stopped ∨ down = .closed := by
  have empty {held : List UInt8} (active : down = .running held ∨ down = .draining held) :
      held = [] := by
    by_contra filled
    rcases exists_write filled active with ⟨written, wrote⟩
    have stuck := quiescent (.gateway (.replyOut 1)) rfl
    simp only [step, gatewayStep, GatewayStream.step, phase, wrote, Option.map_some,
      reduceCtorEq] at stuck
  cases down with
  | running held =>
      cases empty (.inl rfl)
      have unread : connect.waiting = [] := by
        cases waits : connect.waiting with
        | nil => rfl
        | cons first rest =>
            have stuck := quiescent (.gateway (.replyIn [first])) rfl
            have begins : [first].isPrefixOf (first :: rest) = true :=
              List.isPrefixOf_iff_prefix.mpr ⟨rest, rfl⟩
            simp only [step, gatewayStep, GatewayStream.step, phase, waits, begins, ne_eq,
              List.cons_ne_nil, not_false_eq_true, and_self, if_true, Copy.read, Option.map_some,
              reduceCtorEq] at stuck
      refine .inl ⟨rfl, unread, ?_⟩
      cases ended : connect.targetEnded with
      | false => rfl
      | true =>
          have stuck := quiescent (.gateway .replyEnd) rfl
          simp only [step, gatewayStep, GatewayStream.step, phase, ended, unread, and_self, if_true,
            Copy.sourceEnd, Option.map_some, reduceCtorEq] at stuck
  | draining held =>
      cases empty (.inr rfl)
      have stuck := quiescent (.gateway .finish) rfl
      simp only [step, gatewayStep, GatewayStream.step, phase, Copy.close, Option.map_some,
        reduceCtorEq] at stuck
  | stopped => exact .inr (.inl rfl)
  | closed => exact .inr (.inr rfl)

end Quiescent

/-- Everything that the client has written is on the stream. -/
theorem Tracked.sent {authority : Text} {past : List ConnectMove} {connect : Connect}
    (tracked : Tracked authority true past connect) (quiescent : connect.Quiescent authority) :
    run GatewayStream.step (GatewayStream.start (clientStream authority connect.sent)
      connect.stream.clientFinishes) (past.filterMap ConnectMove.gateway?) =
        some connect.stream ∧
      (connect.clientEnded = true -> connect.stream.clientFinishes = true) := by
  rcases tracked.linked with ⟨written, upward, ran⟩
  have unfailed := tracked.unfailed rfl
  unfold Upward at upward
  split at upward
  case h_1 phase =>
      have stuck := quiescent (.opened true) rfl
      simp only [step, phase, if_true, reduceCtorEq] at stuck
  case h_2 left phase =>
      have bound : 0 < 1 ∧ 1 <= left.length :=
        ⟨Nat.one_pos, List.length_pos_iff.mpr upward.1⟩
      have stuck := quiescent (.name 1) rfl
      simp only [step, phase, bound, and_self, if_true, reduceCtorEq] at stuck
  case h_3 up down phase =>
      rcases upward with ⟨carried, rfl, sending⟩
      rcases quiescent.sends phase with ⟨rfl, unread, unended⟩ | rfl | rfl
      · rcases sending with ⟨whole, finishes⟩
        rw [unread, List.append_nil, List.append_nil] at whole
        rw [whole] at ran
        exact ⟨ran, fun ended => by cases unended.symm.trans ended⟩
      · exact sending.elim
      · rcases sending with ⟨whole, _, finishes⟩
        rw [whole] at ran
        exact ⟨ran, fun _ => finishes⟩
  case h_4 succeeded phase =>
      cases unfailed succeeded phase
      rcases upward with ⟨_, _, failed⟩ | ⟨carried, rfl, _, whole⟩
      · cases failed
      · rw [(whole rfl).1] at ran
        exact ⟨ran, fun _ => (whole rfl).2.2⟩

/-- Everything that the target has written is on the stream. -/
theorem Tracked.replied {authority : Text} {past : List ConnectMove} {connect : Connect}
    (tracked : Tracked authority true past connect) (quiescent : connect.Quiescent authority)
    (dialed : connect.stream.dialed ≠ []) :
    connect.stream.toClient = connect.replied ∧
      (connect.targetEnded = true -> answered connect.stream = true) := by
  have answering := tracked.answering
  unfold Answering at answering
  split at answering
  case h_1 line phase => exact absurd answering.2.2 dialed
  case h_2 left phase => exact answering.elim
  case h_3 name phase =>
      have stuck := quiescent.settled (.connect true) rfl
      simp only [GatewayStream.step, phase, if_true, reduceCtorEq] at stuck
  case h_4 up down phase =>
      rcases quiescent.replies phase with ⟨rfl, unread, unended⟩ | rfl | rfl
      · change connect.stream.toClient ++ [] ++ connect.waiting = connect.replied at answering
        rw [unread, List.append_nil, List.append_nil] at answering
        exact ⟨answering, fun ended => by cases unended.symm.trans ended⟩
      · cases answering.2
      · refine ⟨(answering.2 rfl).1, fun _ => ?_⟩
        rw [answered, phase]
  case h_5 succeeded phase =>
      refine ⟨(answering.2 rfl).1, fun _ => ?_⟩
      rw [answered, phase]

/-- Everything on the stream has been written to the client. -/
theorem Tracked.received {authority : Text} {past : List ConnectMove} {connect : Connect}
    (tracked : Tracked authority true past connect) (quiescent : connect.Quiescent authority) :
    connect.toUser = connect.stream.toClient ∧
      (answered connect.stream = true -> connect.clientShut = true) := by
  have written := tracked.arriving.written
  have unfailed := tracked.unfailed rfl
  split at written
  case h_1 phase =>
      have stuck := quiescent (.opened true) rfl
      simp only [step, phase, if_true, reduceCtorEq] at stuck
  case h_2 left phase =>
      rcases tracked.linked with ⟨bytes, upward, _⟩
      rw [Upward, phase] at upward
      have bound : 0 < 1 ∧ 1 <= left.length :=
        ⟨Nat.one_pos, List.length_pos_iff.mpr upward.1⟩
      have stuck := quiescent (.name 1) rfl
      simp only [step, phase, bound, and_self, if_true, reduceCtorEq] at stuck
  case h_3 up down phase =>
      rcases quiescent.receives phase with ⟨rfl, unread, unended⟩ | rfl | rfl
      · have whole := tracked.arriving.append_unreceived
        rw [unread, List.append_nil] at whole
        change connect.toUser ++ [] = connect.received at written
        rw [List.append_nil] at written
        exact ⟨written.trans whole, fun ended => by cases unended.symm.trans ended⟩
      · exact written.elim
      · refine ⟨written.1.trans written.2.1, fun _ => ?_⟩
        rw [clientShut, phase]
  case h_4 succeeded phase =>
      cases unfailed succeeded phase
      rcases written.2 rfl with ⟨all, read, _⟩
      refine ⟨all.trans read, fun _ => ?_⟩
      rw [clientShut, phase]

/-- What becomes of a CONNECT request. -/
structure Tunnelled (authority : Text) (schedule : List ConnectMove) (connect : Connect) :
    Prop where
  dialed : connect.stream.dialed <+: [authority]
  upward : connect.stream.toTarget <+: connect.sent
  downward : connect.toUser <+: connect.replied
  complete : (forall move, move ∈ schedule -> move.fault = false) ->
    connect.Quiescent authority ->
    connect.stream.dialed = [authority] ∧ connect.stream.toTarget = connect.sent ∧
      connect.toUser = connect.replied ∧
      (connect.clientEnded = true -> connect.stream.targetShut = true) ∧
      (connect.targetEnded = true -> connect.clientShut = true)
  bounded : schedule.countP ConnectMove.internal <=
    4 * (header authority).length + 5 * connect.sent.length + 4 * connect.replied.length +
      (measureMax + 14)

theorem Answering.begins {connect : Connect} {intact : Bool}
    (answering : connect.Answering intact) : connect.stream.toClient <+: connect.replied := by
  unfold Answering at answering
  split at answering
  · exact answering.1 ▸ List.nil_prefix
  · exact answering.elim
  · exact answering.1 ▸ List.nil_prefix
  · exact answering.begins
  · exact answering.1

/-- A tunnel carries the bytes of the client to the authority of the request, and
those of the target back, in every order of the steps at both ends. -/
theorem connect_tunnelled {authority : Text} (valid : Authority authority)
    {schedule : List ConnectMove} {connect : Connect}
    (ran : run (step authority) start schedule = some connect) :
    Tunnelled authority schedule connect := by
  have tracked : Tracked authority false schedule connect := tracked_of_run valid nofun ran
  refine ⟨(tracked.linked.within valid).1, (tracked.linked.within valid).2, ?_, ?_, ?_⟩
  · exact tracked.arriving.begins.trans (tracked.arriving.read.trans tracked.answering.begins)
  · intro sound quiescent
    have whole : Tracked authority true schedule connect :=
      tracked_of_run valid (fun _ => sound) ran
    rcases whole.sent quiescent with ⟨written, finishes⟩
    have carried := GatewayStream.carried_of_run valid.trimmed valid.single valid.ordinary written
    rcases carried.complete (fails_of_past sound) quiescent.settled with ⟨dialed, toTarget, shut⟩
    rcases whole.replied quiescent (by rw [dialed]; exact nofun) with ⟨toClient, ends⟩
    rcases whole.received quiescent with ⟨toUser, shutClient⟩
    exact ⟨dialed, toTarget, toUser.trans toClient, fun ended => shut (finishes ended),
      fun ended => shutClient (ends ended)⟩
  · have bound := internal_of_run valid ran
    rw [potential_start, traffic] at bound
    omega

/-- The line is written in two pieces, of which the gateway has read the first
before the second is there. -/
def openedSchedule : List ConnectMove :=
  [.opened true, .clientWrites [65, 10], .name 2, .gateway (.fill 2), .name 2,
    .readClient 2, .gateway (.fill 2), .gateway (.connect true), .writeStream 1, .clientEnds,
    .gateway (.pull 1 1), .writeStream 1, .clientEof, .gateway (.push 1), .finishStream,
    .targetWrites [66], .gateway (.pull 1 1), .gateway (.replyIn [66]), .targetEnds,
    .gateway (.push 1), .gateway .replyEnd, .gateway .pullEnd, .gateway (.replyOut 1),
    .readStream 1, .gateway .shutdown, .gateway .finish, .gateway .join, .writeClient 1,
    .streamEof, .shutClient, .returns]

theorem connect_tunnelled_opened :
    exists connect, run (step "h:1".toList) start openedSchedule = some connect ∧
      Tunnelled "h:1".toList openedSchedule connect ∧
      connect.stream.dialed = ["h:1".toList] ∧ connect.stream.toTarget = [65, 10] ∧
      connect.toUser = [66] := by
  have valid : Authority "h:1".toList := by
    refine ⟨by decide, ?_⟩
    intro char member
    exact eq_false_of_ne_true (List.any_eq_false.mp rfl char member)
  have ran : run (step "h:1".toList) start openedSchedule =
      some ⟨.returned true, ⟨⟨[], []⟩, true, .returned true, ["h:1".toList], [65, 10], [66]⟩,
        [65, 10], [], true, [66], [66], [66], [], true⟩ := rfl
  exact ⟨_, ran, connect_tunnelled valid ran, rfl, rfl, rfl⟩

end Connect
end Ingress
end QuicMix
