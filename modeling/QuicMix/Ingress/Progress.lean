import QuicMix.Ingress.Answers

namespace QuicMix
namespace Ingress

open Foundations
open Gateway

/-!
# How long a CONNECT tunnel works

Every byte is read and written a bounded number of times on its way, and every
loop ends once.  So the moves that the ingress and the gateway make are bounded by
what the client and the target write, and a tunnel that is left alone comes to
rest.
-/

/-- The moves that a copy loop still has to make, with what each byte that it holds
costs, and one for each of its two ends. -/
def loopCost (each : Nat) : Copy -> Nat
  | .running held => each * held.length + 2
  | .draining held => each * held.length + 1
  | .stopped => 1
  | .closed => 0

/-- What the ingress still has to do with what it holds. -/
def TunnelPhase.cost (authority : Text) : TunnelPhase -> Nat
  | .opening => 4 * (header authority).length + 7
  | .naming left => 4 * left.length + 6
  | .splicing up down => loopCost 4 up + loopCost 1 down + 1
  | .returned _ => 0

/-- What the gateway still has to do with what it holds for the client. -/
def backCost : StreamPhase -> Nat
  | .splicing _ down => loopCost 3 down + 1
  | .returned _ => 0
  | _ => 3

namespace Connect

/-- A bound for the moves of both ends. -/
def potential (authority : Text) (connect : Connect) : Nat :=
  connect.phase.cost authority + 5 * connect.pending.length + connect.stream.potential +
    4 * connect.waiting.length + backCost connect.stream.phase + 2 * connect.unreceived.length

/-- What has been written at the two ends, with what each byte costs. -/
def traffic (connect : Connect) : Nat :=
  5 * connect.sent.length + 4 * connect.replied.length

/-- One move, which lowers the bound if it is one of the two ends and raises it
only by what is written. -/
def Pays (authority : Text) (connect next : Connect) (move : ConnectMove) : Prop :=
  next.potential authority + connect.traffic + (if move.internal then 1 else 0) <=
    connect.potential authority + next.traffic

theorem potential_extend (more : List UInt8) (finishes : Bool) (stream : GatewayStream) :
    (extend more finishes stream).potential = stream.potential + 3 * more.length := by
  have unread : (stream.reader.feed more).unread.length =
      stream.reader.unread.length + more.length := by
    rw [Buffered.unread_feed, List.length_append]
  have source : (stream.reader.feed more).source.length =
      stream.reader.source.length + more.length := List.length_append
  simp only [GatewayStream.potential, extend, unread, source]
  omega

section Pays

variable {authority : Text} {connect next : Connect} {move : ConnectMove}

/-- What the ingress does on its own. -/
theorem pays_of_phase (stream : next.stream = connect.stream) (sent : next.sent = connect.sent)
    (replied : next.replied = connect.replied) (waiting : next.waiting = connect.waiting)
    (lighter : next.phase.cost authority + 5 * next.pending.length +
      2 * next.unreceived.length + 1 <=
      connect.phase.cost authority + 5 * connect.pending.length + 2 * connect.unreceived.length) :
    Pays authority connect next move := by
  have internal : (if move.internal then 1 else 0) <= 1 := by
    split
    · exact Nat.le_refl 1
    · exact Nat.zero_le 1
  unfold Pays potential traffic
  rw [stream, sent, replied, waiting]
  omega

theorem loopCost_write {each count : Nat} {copy after : Copy} {chunk : List UInt8}
    (wrote : copy.write count = some (chunk, after)) :
    loopCost each copy = loopCost each after + each * chunk.length ∧ 1 <= chunk.length := by
  rcases write_eq_some wrote with ⟨filled, held, rest, rfl, ⟨rfl, rfl⟩ | ⟨rfl, rfl⟩⟩
  · simp only [loopCost, List.length_append, Nat.mul_add]
    exact ⟨by omega, List.length_pos_iff.mpr filled⟩
  · simp only [loopCost, List.length_append, Nat.mul_add]
    exact ⟨by omega, List.length_pos_iff.mpr filled⟩

theorem backCost_accept (line : List UInt8) : backCost (GatewayStream.accept line) <= 3 := by
  unfold GatewayStream.accept
  split
  · exact Nat.zero_le 3
  · split
    · exact Nat.zero_le 3
    · split
      · exact Nat.le_refl 3
      · exact Nat.le_refl 3

/-- On the way to the target the gateway writes nothing back, unless it answers a
probe. -/
theorem backCost_upward {stream after : GatewayStream} {step : StreamMove}
    (moved : GatewayStream.Moved stream step after)
    (upward : step.carries = true ∨ step.fails = true)
    (unmeasured : forall left, stream.phase ≠ .measuring left) :
    backCost after.phase <= backCost stream.phase ∧ after.toClient = stream.toClient := by
  cases moved with
  | lineRead count line reader phase filled =>
      refine ⟨?_, readLine_toClient stream line reader⟩
      rw [phase, GatewayStream.readLine]
      rcases reader.readUntil (· == 10) with ⟨taken, _ | _, next⟩
      · exact Nat.le_refl 3
      · rw [GatewayStream.enter_phase]
        exact backCost_accept _
  | lineEnded line phase ended =>
      refine ⟨?_, enter_toClient stream _⟩
      rw [phase, GatewayStream.enter_phase]
      exact backCost_accept _
  | lineFailed line phase => exact ⟨Nat.zero_le _, rfl⟩
  | chunkWritten left phase more => exact absurd phase (unmeasured left)
  | chunkFailed left count phase part => exact absurd phase (unmeasured left)
  | measured phase => exact absurd phase (unmeasured 0)
  | connected target phase =>
      rw [phase]
      exact ⟨Nat.le_refl 3, rfl⟩
  | refused target phase => exact ⟨Nat.zero_le _, rfl⟩
  | downward _ up down behind toClient apart phase =>
      rw [apart.1, apart.2] at upward
      rcases upward with carries | fails
      · cases carries
      · cases fails
  | joined phase => exact ⟨Nat.zero_le _, rfl⟩
  | pulled count taken held down reader phase filled some bound =>
      rw [phase]
      exact ⟨Nat.le_refl _, rfl⟩
  | pullEnded held down phase ended =>
      rw [phase]
      exact ⟨Nat.le_refl _, rfl⟩
  | pushed count held down phase some bound =>
      rw [phase]
      exact ⟨Nat.le_refl _, rfl⟩
  | drained count held down phase some bound =>
      rw [phase]
      exact ⟨Nat.le_refl _, rfl⟩
  | upFailed up down phase active =>
      rw [phase]
      exact ⟨Nat.le_refl _, rfl⟩
  | shut up down phase through =>
      rw [phase]
      exact ⟨Nat.le_refl _, rfl⟩

/-- A move of the gateway on the way to the target. -/
theorem pays_upward {stream : GatewayStream} {step : StreamMove}
    (stepped : connect.stream.step step = some stream)
    (upward : step.carries = true ∨ step.fails = true)
    (unmeasured : forall left, connect.stream.phase ≠ .measuring left) :
    Pays authority connect { connect with stream := stream } (.gateway step) := by
  have moved := GatewayStream.moved_of_step stepped
  have lowered := GatewayStream.potential_moved moved
  rcases backCost_upward moved upward unmeasured with ⟨lighter, same⟩
  have counted : (if (ConnectMove.gateway step).internal then 1 else 0) <=
      (if step.carries then 1 else 0) := by
    rcases upward with carries | fails
    · rw [if_pos carries]
      split
      · exact Nat.le_refl 1
      · exact Nat.zero_le 1
    · have fault : (ConnectMove.gateway step).internal = false := by
        cases step with
        | downFails => rfl
        | _ => simp only [ConnectMove.internal, ConnectMove.fault, fails, Bool.not_true]
      rw [fault]
      exact Nat.zero_le _
  unfold Pays potential traffic unreceived
  dsimp only
  rw [same]
  omega

/-- A move of the gateway's loop back. -/
theorem pays_downward {stream : GatewayStream} {step : StreamMove} {up down after : Copy}
    {chunk : List UInt8} {waiting : List UInt8}
    (phase : connect.stream.phase = .splicing up down)
    (behind : stream = { connect.stream with
      phase := .splicing up after
      toClient := connect.stream.toClient ++ chunk })
    (lighter : loopCost 3 after + 2 * chunk.length + 4 * waiting.length +
      (if (ConnectMove.gateway step).internal then 1 else 0) <=
      loopCost 3 down + 4 * connect.waiting.length) :
    Pays authority connect { connect with stream := stream, waiting := waiting }
      (.gateway step) := by
  subst behind
  unfold Pays potential traffic unreceived GatewayStream.potential
  simp only [phase, backCost, StreamPhase.weight, List.length_drop, List.length_append]
  omega

/-- Every move of the gateway pays. -/
theorem pays_gateway {stream : GatewayStream} {step : StreamMove}
    (stepped : connect.stream.step step = some stream) (reads : connect.Reads step)
    (unmeasured : forall left, connect.stream.phase ≠ .measuring left) :
    Pays authority connect { connect with stream := stream, waiting := connect.stillWaiting step }
      (.gateway step) := by
  have same (toClient : List UInt8) : toClient ++ [] = toClient := List.append_nil toClient
  cases step with
  | replyIn chunk =>
      cases phase : connect.stream.phase <;>
        simp only [GatewayStream.step, phase, reduceCtorEq] at stepped
      rcases Option.map_eq_some_iff.mp stepped with ⟨after, read, rfl⟩
      rcases read_eq_some read with ⟨held, rfl, rfl⟩
      have filled := List.length_pos_iff.mpr reads.1
      have bound := reads.2.length_le
      refine @pays_downward _ _ _ _ _ _ _ [] _ phase (by rw [same]) ?_
      simp only [loopCost, stillWaiting, List.length_append, List.length_drop, List.length_nil]
      change _ + 1 <= _
      omega
  | replyEnd =>
      cases phase : connect.stream.phase <;>
        simp only [GatewayStream.step, phase, reduceCtorEq] at stepped
      rcases Option.map_eq_some_iff.mp stepped with ⟨after, read, rfl⟩
      rcases sourceEnd_eq_some read with ⟨held, rfl, rfl⟩
      refine @pays_downward _ _ _ _ _ _ _ [] _ phase (by rw [same]) ?_
      simp only [loopCost, stillWaiting, List.length_nil]
      change _ + 1 <= _
      omega
  | replyOut count =>
      cases phase : connect.stream.phase <;>
        simp only [GatewayStream.step, phase, reduceCtorEq] at stepped
      rcases Option.map_eq_some_iff.mp stepped with ⟨⟨chunk, after⟩, wrote, rfl⟩
      rcases @loopCost_write 3 _ _ _ _ wrote with ⟨cost, filled⟩
      refine pays_downward phase rfl ?_
      change _ + 1 <= _
      simp only [stillWaiting]
      omega
  | downFails =>
      cases phase : connect.stream.phase <;>
        simp only [GatewayStream.step, phase, reduceCtorEq] at stepped
      rcases Option.map_eq_some_iff.mp stepped with ⟨after, failed, rfl⟩
      rcases GatewayStream.fail_eq_some failed with ⟨rfl, held, rfl | rfl⟩
      · refine @pays_downward _ _ _ _ _ _ _ [] _ phase (by rw [same]) ?_
        change 1 + 0 + 4 * connect.waiting.length + 0 <= 3 * held.length + 2 + _
        omega
      · refine @pays_downward _ _ _ _ _ _ _ [] _ phase (by rw [same]) ?_
        change 1 + 0 + 4 * connect.waiting.length + 0 <= 3 * held.length + 1 + _
        omega
  | finish =>
      cases phase : connect.stream.phase <;>
        simp only [GatewayStream.step, phase, reduceCtorEq] at stepped
      rcases Option.map_eq_some_iff.mp stepped with ⟨after, closed, rfl⟩
      rcases GatewayStream.close_eq_some closed with ⟨rfl, rfl | rfl⟩
      · refine @pays_downward _ _ _ _ _ _ _ [] _ phase (by rw [same]) ?_
        change 0 + 0 + 4 * connect.waiting.length + 1 <= 1 + _
        omega
      · refine @pays_downward _ _ _ _ _ _ _ [] _ phase (by rw [same]) ?_
        change 0 + 0 + 4 * connect.waiting.length + 1 <= 1 + _
        omega
  | join =>
      cases phase : connect.stream.phase <;>
        simp only [GatewayStream.step, phase, reduceCtorEq] at stepped
      next up down =>
        cases up <;> cases down <;> simp only [reduceCtorEq] at stepped
        cases stepped
        unfold Pays potential traffic unreceived GatewayStream.potential
        simp only [phase, backCost, StreamPhase.weight, Copy.weight, loopCost, stillWaiting]
        change _ + 1 <= _
        omega
  | connect succeeded =>
      refine pays_upward stepped ?_ unmeasured
      cases succeeded with
      | true => exact .inl rfl
      | false => exact .inr rfl
  | headerError => exact pays_upward stepped (.inr rfl) unmeasured
  | writeFails count => exact pays_upward stepped (.inr rfl) unmeasured
  | upFails => exact pays_upward stepped (.inr rfl) unmeasured
  | _ => exact pays_upward stepped (.inl rfl) unmeasured

/-- What the ingress does to the stream. -/
theorem pays_of_extend {more : List UInt8} {finishes : Bool} {phase : TunnelPhase}
    (lighter : phase.cost authority + 3 * more.length + (if move.internal then 1 else 0) <=
      connect.phase.cost authority) :
    Pays authority connect
      { connect with phase := phase, stream := extend more finishes connect.stream } move := by
  unfold Pays potential traffic unreceived
  simp only [potential_extend]
  change _ + 4 * connect.waiting.length + backCost connect.stream.phase +
    2 * (connect.stream.toClient.drop connect.received.length).length + _ + _ <= _
  omega

/-- Every move pays. -/
theorem pays_of_moved (moved : Moved authority connect move next)
    (unmeasured : forall left, connect.stream.phase ≠ .measuring left) :
    Pays authority connect next move := by
  cases moved with
  | clientWrote chunk unended =>
      unfold Pays potential traffic
      simp only [List.length_append, ConnectMove.internal, unreceived, Bool.false_eq_true, if_false]
      omega
  | clientEnded => exact Nat.le_refl _
  | targetWrote chunk unended =>
      unfold Pays potential traffic
      simp only [List.length_append, ConnectMove.internal, unreceived, Bool.false_eq_true, if_false]
      omega
  | targetEnded => exact Nat.le_refl _
  | opened phase =>
      refine pays_of_phase rfl rfl rfl rfl ?_
      simp only [phase, TunnelPhase.cost, unreceived]
      omega
  | refused phase =>
      refine pays_of_phase rfl rfl rfl rfl ?_
      simp only [phase, TunnelPhase.cost, unreceived]
      omega
  | named count left phase positive bound =>
      refine pays_of_extend ?_
      change (nextPhase (left.drop count)).cost authority + _ + 1 <= _
      have shorter : (nextPhase (left.drop count)).cost authority <=
          4 * (left.drop count).length + 6 := by
        rw [nextPhase]
        split
        · exact Nat.le_add_left 5 (4 * (left.drop count).length + 1)
        · exact Nat.le_refl _
      have whole : connect.phase.cost authority = 4 * left.length + 6 := by
        rw [phase]
        rfl
      rw [List.length_drop] at shorter
      rw [whole, List.length_take]
      omega
  | nameFailed left phase =>
      refine pays_of_phase rfl rfl rfl rfl ?_
      simp only [phase, TunnelPhase.cost, unreceived]
      omega
  | clientRead count held down phase positive bound =>
      refine pays_of_phase rfl rfl rfl rfl ?_
      simp only [phase, TunnelPhase.cost, loopCost, unreceived, List.length_append,
        List.length_take, List.length_drop]
      omega
  | clientAtEnd held down phase ended empty =>
      refine pays_of_phase rfl rfl rfl rfl ?_
      simp only [phase, TunnelPhase.cost, loopCost, unreceived]
      omega
  | streamWritten count up after down chunk phase wrote =>
      rcases @loopCost_write 4 _ _ _ _ wrote with ⟨cost, filled⟩
      refine pays_of_extend ?_
      change loopCost 4 after + loopCost 1 down + 1 + _ + 1 <= _
      simp only [phase, TunnelPhase.cost]
      omega
  | streamFinished up down phase through =>
      refine pays_of_extend ?_
      change 0 + loopCost 1 down + 1 + 0 + 1 <= _
      rcases through with rfl | rfl
      · simp only [phase, TunnelPhase.cost, loopCost, List.length_nil]
        omega
      · simp only [phase, TunnelPhase.cost, loopCost]
        omega
  | streamRead count up held phase positive bound =>
      refine pays_of_phase rfl rfl rfl rfl ?_
      simp only [unreceived, List.length_drop] at bound
      simp only [phase, TunnelPhase.cost, loopCost, unreceived, List.length_append,
        List.length_take, List.length_drop]
      omega
  | streamAtEnd up held phase ended empty =>
      refine pays_of_phase rfl rfl rfl rfl ?_
      simp only [phase, TunnelPhase.cost, loopCost, unreceived]
      omega
  | clientWritten count up down after chunk phase wrote =>
      rcases @loopCost_write 1 _ _ _ _ wrote with ⟨cost, filled⟩
      refine pays_of_phase rfl rfl rfl rfl ?_
      simp only [phase, TunnelPhase.cost, unreceived]
      omega
  | clientShut up down phase through =>
      refine pays_of_phase rfl rfl rfl rfl ?_
      rcases through with rfl | rfl
      · simp only [phase, TunnelPhase.cost, loopCost, unreceived, List.length_nil]
        omega
      · simp only [phase, TunnelPhase.cost, loopCost, unreceived]
        omega
  | failed up down phase =>
      refine pays_of_extend ?_
      exact Nat.zero_le _
  | streamFailed up down phase =>
      refine pays_of_phase rfl rfl rfl rfl ?_
      simp only [phase, TunnelPhase.cost, unreceived]
      omega
  | returned phase =>
      refine pays_of_phase rfl rfl rfl rfl ?_
      simp only [phase, TunnelPhase.cost, loopCost, unreceived]
      omega
  | gateway step stream stepped reads => exact pays_gateway stepped reads unmeasured

end Pays

/-- The moves of the two ends are bounded by what is written at them. -/
theorem internal_of_run {authority : Text} (valid : Authority authority)
    {schedule : List ConnectMove} {connect : Connect}
    (ran : run (step authority) start schedule = some connect) :
    schedule.countP ConnectMove.internal <= start.potential authority + connect.traffic := by
  have initially : [].countP ConnectMove.internal + start.potential authority <=
      start.potential authority + start.traffic := by
    rw [List.countP_nil]
    omega
  have kept := @invariant_of_history _ _ (step authority)
    (fun past state => Linked authority past state ∧
      past.countP ConnectMove.internal + state.potential authority <=
        start.potential authority + state.traffic)
    (by
      rintro past state move next ⟨linked, bound⟩ stepped
      have moved := moved_of_step stepped
      have pays := pays_of_moved moved (linked.not_measuring valid)
      refine ⟨linked.step moved, ?_⟩
      rw [List.countP_append, List.countP_singleton]
      unfold Pays at pays
      omega)
    start connect [] schedule ⟨⟨[], ⟨rfl, rfl, rfl⟩, rfl⟩, initially⟩ ran
  rw [List.nil_append] at kept
  have bound := kept.2
  omega

theorem potential_start (authority : Text) :
    start.potential authority = 4 * (header authority).length + (measureMax + 14) := by
  have stream : start.stream.potential = measureMax + 4 := rfl
  unfold potential
  rw [stream]
  change 4 * (header authority).length + 7 + 0 + (measureMax + 4) + 0 + 3 + 0 = _
  omega

end Connect
end Ingress
end QuicMix
