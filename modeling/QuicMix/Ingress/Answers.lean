import QuicMix.Ingress.Splice

namespace QuicMix
namespace Ingress
namespace Connect

open Foundations
open Gateway

/-!
# The way back through a CONNECT tunnel

What the target writes goes through two loops: the gateway copies it to the
stream, and the ingress copies the stream to the client.  Each loop holds bytes
that it has read and not written.  The gateway's loop begins when the target is
connected, and the ingress reads until the gateway has finished its half of the
stream.
-/

/-! ## From the target to the stream -/

/-- Where the bytes of the target are while the gateway's loop to the stream runs.
The tunnel is intact if nothing fails. -/
def Replying (connect : Connect) (intact : Bool) : Copy -> Prop
  | .running held => connect.stream.toClient ++ held ++ connect.waiting = connect.replied
  | .draining held => connect.stream.toClient ++ held = connect.replied ∧
      connect.targetEnded = true
  | .stopped => connect.stream.toClient <+: connect.replied ∧ intact = false
  | .closed => connect.stream.toClient <+: connect.replied ∧
      (intact = true -> connect.stream.toClient = connect.replied ∧ connect.targetEnded = true)

/-- What the gateway has written back. -/
def Answering (connect : Connect) (intact : Bool) : Prop :=
  match connect.stream.phase with
  | .header _ => connect.stream.toClient = [] ∧ connect.waiting = connect.replied ∧
      connect.stream.dialed = []
  | .measuring _ => False
  | .dialing _ => connect.stream.toClient = [] ∧ connect.waiting = connect.replied
  | .splicing _ down => connect.Replying intact down
  | .returned _ => connect.stream.toClient <+: connect.replied ∧
      (intact = true -> connect.stream.toClient = connect.replied ∧ connect.targetEnded = true)

section Answering

variable {connect : Connect} {intact : Bool} {stream : GatewayStream} {move : StreamMove}

/-- The line has been read: the gateway dials or returns. -/
theorem Answering.enter {line : List UInt8} (answering : connect.Answering intact)
    (phase : connect.stream.phase = .header line) {reader : Buffered UInt8} {after : StreamPhase}
    (entered : stream = { connect.stream with reader := reader }.enter after)
    (target : forall name, after ≠ .header name)
    (spliced : forall up down, after ≠ .splicing up down)
    (unmeasured : forall left, stream.phase ≠ .measuring left)
    (dialed : intact = true -> forall succeeded, stream.phase = .returned succeeded ->
      stream.dialed ≠ []) :
    { connect with stream := stream }.Answering intact := by
  rw [Answering, phase] at answering
  rcases answering with ⟨empty, all, undialed⟩
  subst entered
  cases after with
  | header line => exact absurd rfl (target line)
  | measuring left => exact absurd rfl (unmeasured left)
  | dialing name => exact ⟨empty, all⟩
  | splicing up down => exact absurd rfl (spliced up down)
  | returned succeeded =>
      refine ⟨?_, fun whole => absurd undialed (dialed whole succeeded rfl)⟩
      change connect.stream.toClient <+: connect.replied
      rw [empty]
      exact List.nil_prefix

theorem accept_phase (line : List UInt8) :
    (forall name, GatewayStream.accept line ≠ .header name) ∧
      forall up down, GatewayStream.accept line ≠ .splicing up down := by
  unfold GatewayStream.accept
  split
  · exact ⟨nofun, nofun⟩
  · split
    · exact ⟨nofun, nofun⟩
    · split
      · exact ⟨nofun, nofun⟩
      · exact ⟨nofun, nofun⟩

/-- The moves of the gateway on the way to the target leave alone what comes
back. -/
theorem Answering.upward (answering : connect.Answering intact)
    (stepped : connect.stream.step move = some stream)
    (upward : move.carries = true ∨ move.fails = true)
    (sound : intact = true -> move.fails = false)
    (unmeasured : forall left, stream.phase ≠ .measuring left)
    (dialed : intact = true -> forall succeeded, stream.phase = .returned succeeded ->
      stream.dialed ≠ []) :
    { connect with stream := stream }.Answering intact := by
  have failed : move.fails = true -> intact = false := by
    intro fails
    cases whole : intact with
    | false => rfl
    | true => cases (sound whole).symm.trans fails
  cases GatewayStream.moved_of_step stepped with
  | lineRead count line reader phase filled =>
      unfold GatewayStream.readLine at unmeasured dialed ⊢
      split
      case h_1 taken next found =>
          rw [found] at unmeasured dialed
          exact answering.enter phase rfl (accept_phase _).1 (accept_phase _).2 unmeasured dialed
      case h_2 taken next found =>
          rw [Answering, phase] at answering
          exact answering
  | lineEnded line phase ended =>
      exact answering.enter phase rfl (accept_phase _).1 (accept_phase _).2 unmeasured dialed
  | lineFailed line phase =>
      rw [Answering, phase] at answering
      refine ⟨?_, fun whole => by cases (failed rfl).symm.trans whole⟩
      change connect.stream.toClient <+: connect.replied
      rw [answering.1]
      exact List.nil_prefix
  | chunkWritten left phase more =>
      rw [Answering, phase] at answering
      exact answering.elim
  | chunkFailed left count phase part =>
      rw [Answering, phase] at answering
      exact answering.elim
  | measured phase =>
      rw [Answering, phase] at answering
      exact answering.elim
  | connected target phase =>
      rw [Answering, phase] at answering
      change connect.stream.toClient ++ [] ++ connect.waiting = connect.replied
      rw [answering.1, answering.2]
      rfl
  | refused target phase =>
      rw [Answering, phase] at answering
      refine ⟨?_, fun whole => by cases (failed rfl).symm.trans whole⟩
      change connect.stream.toClient <+: connect.replied
      rw [answering.1]
      exact List.nil_prefix
  | pulled count taken held down reader phase filled some bound =>
      rw [Answering, phase] at answering
      exact answering
  | pullEnded held down phase ended =>
      rw [Answering, phase] at answering
      exact answering
  | pushed count held down phase some bound =>
      rw [Answering, phase] at answering
      exact answering
  | drained count held down phase some bound =>
      rw [Answering, phase] at answering
      exact answering
  | upFailed up down phase active =>
      rw [Answering, phase] at answering
      exact answering
  | shut up down phase through =>
      rw [Answering, phase] at answering
      exact answering
  | downward _ up down after toClient apart phase =>
      rw [apart.1, apart.2] at upward
      rcases upward with carries | fails
      · cases carries
      · cases fails
  | joined phase =>
      rcases upward with carries | fails
      · cases carries
      · cases fails

theorem Answering.target (answering : connect.Answering intact) (chunk : List UInt8)
    (unended : connect.targetEnded = false) :
    { connect with
      replied := connect.replied ++ chunk
      waiting := connect.waiting ++ chunk }.Answering intact := by
  have longer {bytes : List UInt8} (begins : bytes <+: connect.replied) :
      bytes <+: connect.replied ++ chunk :=
    begins.trans (List.prefix_append _ _)
  unfold Answering at answering ⊢
  dsimp only
  split at answering
  case h_1 line phase => exact ⟨answering.1, by rw [answering.2.1], answering.2.2⟩
  case h_2 left phase => exact answering
  case h_3 name phase => exact ⟨answering.1, by rw [answering.2]⟩
  case h_4 up down phase =>
      cases down with
      | running held =>
          change connect.stream.toClient ++ held ++ (connect.waiting ++ chunk) = _
          rw [← List.append_assoc]
          exact congrArg (· ++ chunk) answering
      | draining held => cases unended.symm.trans answering.2
      | stopped => exact ⟨longer answering.1, answering.2⟩
      | closed =>
          refine ⟨longer answering.1, ?_⟩
          intro whole
          cases unended.symm.trans (answering.2 whole).2
  case h_5 succeeded phase =>
      refine ⟨longer answering.1, ?_⟩
      intro whole
      cases unended.symm.trans (answering.2 whole).2

theorem Answering.targetEnd (answering : connect.Answering intact) :
    { connect with targetEnded := true }.Answering intact := by
  unfold Answering at answering ⊢
  dsimp only
  split at answering
  case h_1 line phase => exact answering
  case h_2 left phase => exact answering
  case h_3 name phase => exact answering
  case h_4 up down phase =>
      cases down with
      | running held => exact answering
      | draining held => exact ⟨answering.1, rfl⟩
      | stopped => exact answering
      | closed => exact ⟨answering.1, fun whole => ⟨(answering.2 whole).1, rfl⟩⟩
  case h_5 succeeded phase => exact ⟨answering.1, fun whole => ⟨(answering.2 whole).1, rfl⟩⟩

/-- The end of a loop, after which nothing is written. -/
theorem Replying.close {down after : Copy} (replying : connect.Replying intact down)
    (closed : down.close = some after) : connect.Replying intact after := by
  rcases GatewayStream.close_eq_some closed with ⟨rfl, rfl | rfl⟩
  · rcases replying with ⟨whole, ended⟩
    rw [List.append_nil] at whole
    exact ⟨whole ▸ List.prefix_refl _, fun _ => ⟨whole, ended⟩⟩
  · refine ⟨replying.1, ?_⟩
    intro sound
    cases replying.2.symm.trans sound

theorem Replying.begins {down : Copy} (replying : connect.Replying intact down) :
    connect.stream.toClient <+: connect.replied := by
  cases down with
  | running held => exact ⟨held ++ connect.waiting, (List.append_assoc _ _ _).symm.trans replying⟩
  | draining held => exact ⟨held, replying.1⟩
  | stopped => exact replying.1
  | closed => exact replying.1

/-- Every move of the gateway keeps track of what comes back. -/
theorem Answering.gateway (answering : connect.Answering intact)
    (stepped : connect.stream.step move = some stream) (reads : connect.Reads move)
    (sound : intact = true -> (ConnectMove.gateway move).fault = false)
    (unmeasured : forall left, stream.phase ≠ .measuring left)
    (dialed : intact = true -> forall succeeded, stream.phase = .returned succeeded ->
      stream.dialed ≠ []) :
    { connect with stream := stream, waiting := connect.stillWaiting move }.Answering intact := by
  cases move with
  | replyIn chunk =>
      cases phase : connect.stream.phase <;>
        simp only [GatewayStream.step, phase, reduceCtorEq] at stepped
      rcases Option.map_eq_some_iff.mp stepped with ⟨after, read, rfl⟩
      rcases read_eq_some read with ⟨held, rfl, rfl⟩
      rw [Answering, phase] at answering
      rcases reads.2 with ⟨rest, waits⟩
      have left : connect.stillWaiting (.replyIn chunk) = rest := by
        rw [stillWaiting, ← waits, List.drop_left]
      rw [left]
      change connect.stream.toClient ++ (held ++ chunk) ++ rest = connect.replied
      change connect.stream.toClient ++ held ++ connect.waiting = connect.replied at answering
      rw [← answering, ← waits]
      simp only [List.append_assoc]
  | replyEnd =>
      cases phase : connect.stream.phase <;>
        simp only [GatewayStream.step, phase, reduceCtorEq] at stepped
      rcases Option.map_eq_some_iff.mp stepped with ⟨after, read, rfl⟩
      rcases sourceEnd_eq_some read with ⟨held, rfl, rfl⟩
      rw [Answering, phase] at answering
      refine ⟨?_, reads.1⟩
      change connect.stream.toClient ++ held ++ connect.waiting = connect.replied at answering
      rw [reads.2, List.append_nil] at answering
      exact answering
  | replyOut count =>
      cases phase : connect.stream.phase <;>
        simp only [GatewayStream.step, phase, reduceCtorEq] at stepped
      rcases Option.map_eq_some_iff.mp stepped with ⟨⟨chunk, after⟩, wrote, rfl⟩
      rw [Answering, phase] at answering
      rcases write_eq_some wrote with ⟨_, held, rest, rfl, ⟨rfl, rfl⟩ | ⟨rfl, rfl⟩⟩
      · change connect.stream.toClient ++ chunk ++ rest ++ connect.waiting = connect.replied
        rw [List.append_assoc connect.stream.toClient]
        exact answering
      · refine ⟨?_, answering.2⟩
        change connect.stream.toClient ++ chunk ++ rest = connect.replied
        rw [List.append_assoc]
        exact answering.1
  | downFails =>
      cases phase : connect.stream.phase <;>
        simp only [GatewayStream.step, phase, reduceCtorEq] at stepped
      rcases Option.map_eq_some_iff.mp stepped with ⟨after, failed, rfl⟩
      rcases GatewayStream.fail_eq_some failed with ⟨rfl, _⟩
      rw [Answering, phase] at answering
      refine ⟨answering.begins, ?_⟩
      cases whole : intact with
      | false => rfl
      | true => cases sound whole
  | finish =>
      cases phase : connect.stream.phase <;>
        simp only [GatewayStream.step, phase, reduceCtorEq] at stepped
      rcases Option.map_eq_some_iff.mp stepped with ⟨after, closed, rfl⟩
      rw [Answering, phase] at answering
      exact answering.close closed
  | join =>
      cases phase : connect.stream.phase <;>
        simp only [GatewayStream.step, phase, reduceCtorEq] at stepped
      next up down =>
        cases up <;> cases down <;> simp only [reduceCtorEq] at stepped
        cases stepped
        rw [Answering, phase] at answering
        exact answering
  | connect succeeded =>
      refine answering.upward stepped ?_ sound unmeasured dialed
      cases succeeded with
      | true => exact .inl rfl
      | false => exact .inr rfl
  | headerError => exact answering.upward stepped (.inr rfl) sound unmeasured dialed
  | writeFails count => exact answering.upward stepped (.inr rfl) sound unmeasured dialed
  | upFails => exact answering.upward stepped (.inr rfl) sound unmeasured dialed
  | _ => exact answering.upward stepped (.inl rfl) sound unmeasured dialed

end Answering

/-! ## From the stream to the client -/

/-- What the gateway has written stays written, and behind its end nothing is
added. -/
def Appends (stream next : GatewayStream) : Prop :=
  stream.toClient <+: next.toClient ∧
    (answered stream = true -> answered next = true ∧ next.toClient = stream.toClient)

section Appends

variable {stream next : GatewayStream} {move : StreamMove}

theorem appends_of_same (same : next.toClient = stream.toClient)
    (ends : answered stream = true -> answered next = true) : Appends stream next :=
  ⟨same ▸ List.prefix_refl _, fun ended => ⟨ends ended, same⟩⟩

theorem enter_toClient (stream : GatewayStream) (phase : StreamPhase) :
    (stream.enter phase).toClient = stream.toClient := by
  cases phase with
  | _ => rfl

theorem readLine_toClient (stream : GatewayStream) (line : List UInt8)
    (reader : Buffered UInt8) : (stream.readLine line reader).toClient = stream.toClient := by
  rw [GatewayStream.readLine]
  rcases reader.readUntil (· == 10) with ⟨taken, _ | _, next⟩
  · rfl
  · exact enter_toClient _ _

theorem appends_beside {up after down : Copy} (phase : stream.phase = .splicing up down)
    (spliced : next.phase = .splicing after down) (same : next.toClient = stream.toClient) :
    Appends stream next := by
  refine appends_of_same same (fun ended => ?_)
  rw [answered, phase] at ended
  rw [answered, spliced]
  cases down with
  | closed => rfl
  | _ => cases ended

theorem appends_upward (moved : GatewayStream.Moved stream move next)
    (upward : move.carries = true ∨ move.fails = true) : Appends stream next := by
  have waits {phase : StreamPhase} (same : stream.phase = phase)
      (unended : answered { stream with phase := phase } = false) : answered stream ≠ true := by
    rw [← same] at unended
    exact fun ended => Bool.false_ne_true (unended.symm.trans ended)
  cases moved with
  | lineRead count line reader phase filled =>
      exact appends_of_same (readLine_toClient stream line reader)
        (fun ended => absurd ended (waits phase rfl))
  | lineEnded line phase ended =>
      exact appends_of_same (enter_toClient stream _)
        (fun ended => absurd ended (waits phase rfl))
  | lineFailed line phase => exact appends_of_same rfl (fun _ => rfl)
  | chunkWritten left phase more =>
      exact ⟨List.prefix_append _ _, fun ended => absurd ended (waits phase rfl)⟩
  | chunkFailed left count phase part =>
      exact ⟨List.prefix_append _ _, fun ended => absurd ended (waits phase rfl)⟩
  | measured phase => exact appends_of_same rfl (fun _ => rfl)
  | connected target phase =>
      exact appends_of_same rfl (fun ended => absurd ended (waits phase rfl))
  | refused target phase => exact appends_of_same rfl (fun _ => rfl)
  | pulled count taken held down reader phase filled some bound =>
      exact appends_beside phase rfl rfl
  | pullEnded held down phase finished =>
      exact appends_beside phase rfl rfl
  | pushed count held down phase some bound =>
      exact appends_beside phase rfl rfl
  | drained count held down phase some bound =>
      exact appends_beside phase rfl rfl
  | upFailed up down phase active =>
      exact appends_beside phase rfl rfl
  | shut up down phase through =>
      exact appends_beside phase rfl rfl
  | downward _ up down after toClient apart phase =>
      rw [apart.1, apart.2] at upward
      rcases upward with carries | fails
      · cases carries
      · cases fails
  | joined phase => exact appends_of_same rfl (fun _ => rfl)

/-- The loop back goes on only as long as it has not ended. -/
theorem appends_downward {up down after : Copy} {toClient : List UInt8}
    (running : answered { stream with phase := .splicing up down } = false)
    (phase : stream.phase = .splicing up down) (grows : stream.toClient <+: toClient) :
    Appends stream { stream with phase := .splicing up after, toClient := toClient } := by
  refine ⟨grows, fun ended => ?_⟩
  rw [answered, phase] at ended
  cases running.symm.trans ended

theorem appends_of_step (stepped : stream.step move = some next) : Appends stream next := by
  cases move with
  | replyIn chunk =>
      cases phase : stream.phase <;>
        simp only [GatewayStream.step, phase, reduceCtorEq] at stepped
      rcases Option.map_eq_some_iff.mp stepped with ⟨after, read, rfl⟩
      rcases read_eq_some read with ⟨held, rfl, rfl⟩
      exact appends_downward rfl phase (List.prefix_refl _)
  | replyEnd =>
      cases phase : stream.phase <;>
        simp only [GatewayStream.step, phase, reduceCtorEq] at stepped
      rcases Option.map_eq_some_iff.mp stepped with ⟨after, read, rfl⟩
      rcases sourceEnd_eq_some read with ⟨held, rfl, rfl⟩
      exact appends_downward rfl phase (List.prefix_refl _)
  | replyOut count =>
      cases phase : stream.phase <;>
        simp only [GatewayStream.step, phase, reduceCtorEq] at stepped
      rcases Option.map_eq_some_iff.mp stepped with ⟨⟨chunk, after⟩, wrote, rfl⟩
      rcases write_eq_some wrote with ⟨_, held, rest, rfl, ⟨rfl, rfl⟩ | ⟨rfl, rfl⟩⟩
      · exact appends_downward rfl phase (List.prefix_append _ _)
      · exact appends_downward rfl phase (List.prefix_append _ _)
  | downFails =>
      cases phase : stream.phase <;>
        simp only [GatewayStream.step, phase, reduceCtorEq] at stepped
      rcases Option.map_eq_some_iff.mp stepped with ⟨after, failed, rfl⟩
      rcases GatewayStream.fail_eq_some failed with ⟨rfl, held, rfl | rfl⟩
      · exact appends_downward rfl phase (List.prefix_refl _)
      · exact appends_downward rfl phase (List.prefix_refl _)
  | finish =>
      cases phase : stream.phase <;>
        simp only [GatewayStream.step, phase, reduceCtorEq] at stepped
      rcases Option.map_eq_some_iff.mp stepped with ⟨after, closed, rfl⟩
      rcases GatewayStream.close_eq_some closed with ⟨rfl, rfl | rfl⟩
      · exact appends_downward rfl phase (List.prefix_refl _)
      · exact appends_downward rfl phase (List.prefix_refl _)
  | join =>
      cases phase : stream.phase <;>
        simp only [GatewayStream.step, phase, reduceCtorEq] at stepped
      next up down =>
        cases up <;> cases down <;> simp only [reduceCtorEq] at stepped
        cases stepped
        exact appends_of_same rfl (fun _ => rfl)
  | connect succeeded =>
      refine appends_upward (GatewayStream.moved_of_step stepped) ?_
      cases succeeded with
      | true => exact .inl rfl
      | false => exact .inr rfl
  | headerError => exact appends_upward (GatewayStream.moved_of_step stepped) (.inr rfl)
  | writeFails count => exact appends_upward (GatewayStream.moved_of_step stepped) (.inr rfl)
  | upFails => exact appends_upward (GatewayStream.moved_of_step stepped) (.inr rfl)
  | _ => exact appends_upward (GatewayStream.moved_of_step stepped) (.inl rfl)

end Appends

/-- Where the bytes from the stream are while the loop to the client runs. -/
def Receiving (connect : Connect) : Copy -> Prop
  | .running held => connect.toUser ++ held = connect.received
  | .draining held => connect.toUser ++ held = connect.received ∧
      connect.received = connect.stream.toClient ∧ answered connect.stream = true
  | .stopped => False
  | .closed => connect.toUser = connect.received ∧
      connect.received = connect.stream.toClient ∧ answered connect.stream = true

/-- What the ingress has written to the client. -/
structure Arriving (connect : Connect) : Prop where
  read : connect.received <+: connect.stream.toClient
  written : match connect.phase with
    | .opening => connect.toUser = [] ∧ connect.received = []
    | .naming _ => connect.toUser = [] ∧ connect.received = []
    | .splicing _ down => connect.Receiving down
    | .returned succeeded => connect.toUser <+: connect.received ∧
        (succeeded = true -> connect.toUser = connect.received ∧
          connect.received = connect.stream.toClient ∧ answered connect.stream = true)

section Arriving

variable {authority : Text} {connect next : Connect}

theorem Receiving.begins {down : Copy} (receiving : connect.Receiving down) :
    connect.toUser <+: connect.received := by
  cases down with
  | running held => exact ⟨held, receiving⟩
  | draining held => exact ⟨held, receiving.1⟩
  | stopped => exact receiving.elim
  | closed => exact receiving.1 ▸ List.prefix_refl _

theorem Arriving.begins (arriving : connect.Arriving) : connect.toUser <+: connect.received := by
  have written := arriving.written
  split at written
  · exact written.1 ▸ List.nil_prefix
  · exact written.1 ▸ List.nil_prefix
  · exact written.begins
  · exact written.1

theorem Arriving.append_unreceived (arriving : connect.Arriving) :
    connect.received ++ connect.unreceived = connect.stream.toClient :=
  List.prefix_iff_eq_append.mp arriving.read

/-- The stream has changed, but not what was read from it, nor its end. -/
theorem Arriving.stream (arriving : connect.Arriving) {stream : GatewayStream}
    (waiting : List UInt8)
    (grows : connect.stream.toClient <+: stream.toClient)
    (ends : answered connect.stream = true ->
      answered stream = true ∧ stream.toClient = connect.stream.toClient) :
    { connect with stream := stream, waiting := waiting }.Arriving := by
  refine ⟨arriving.read.trans grows, ?_⟩
  have written := arriving.written
  dsimp only
  split at written
  · exact written
  · exact written
  · rename_i up down phase
    cases down with
    | running held => exact written
    | draining held =>
        rcases ends written.2.2 with ⟨ended, same⟩
        exact ⟨written.1, written.2.1.trans same.symm, ended⟩
    | stopped => exact written
    | closed =>
        rcases ends written.2.2 with ⟨ended, same⟩
        exact ⟨written.1, written.2.1.trans same.symm, ended⟩
  · refine ⟨written.1, ?_⟩
    intro succeeds
    rcases written.2 succeeds with ⟨all, read, answers⟩
    rcases ends answers with ⟨ended, same⟩
    exact ⟨all, read.trans same.symm, ended⟩

theorem Arriving.moved {move : ConnectMove} (arriving : connect.Arriving)
    (moved : Moved authority connect move next) : next.Arriving := by
  have written := arriving.written
  cases moved with
  | clientWrote chunk unended => exact ⟨arriving.read, written⟩
  | clientEnded => exact ⟨arriving.read, written⟩
  | targetWrote chunk unended => exact ⟨arriving.read, written⟩
  | targetEnded => exact ⟨arriving.read, written⟩
  | opened phase =>
      rw [phase] at written
      exact ⟨arriving.read, written⟩
  | refused phase =>
      rw [phase] at written
      exact ⟨arriving.read, written.1 ▸ List.nil_prefix, nofun⟩
  | named count left phase positive bound =>
      rw [phase] at written
      refine ⟨arriving.read, ?_⟩
      dsimp only
      cases more : left.drop count with
      | nil => exact (List.append_nil _).trans (written.1.trans written.2.symm)
      | cons head tail => exact written
  | nameFailed left phase =>
      rw [phase] at written
      exact ⟨arriving.read, written.1 ▸ List.nil_prefix, nofun⟩
  | clientRead count held down phase positive bound =>
      rw [phase] at written
      exact ⟨arriving.read, written⟩
  | clientAtEnd held down phase ended empty =>
      rw [phase] at written
      exact ⟨arriving.read, written⟩
  | streamWritten count up after down chunk phase wrote =>
      rw [phase] at written
      exact ⟨arriving.read, written⟩
  | streamFinished up down phase through =>
      rw [phase] at written
      exact ⟨arriving.read, written⟩
  | streamRead count up held phase positive bound =>
      rw [phase] at written
      constructor
      · rw [← arriving.append_unreceived]
        exact (List.prefix_append_right_inj _).mpr (List.take_prefix _ _)
      · change connect.toUser ++ (held ++ _) = connect.received ++ _
        rw [← List.append_assoc]
        exact congrArg (· ++ _) written
  | streamAtEnd up held phase ended empty =>
      rw [phase] at written
      refine ⟨arriving.read, written, ?_, ended⟩
      have whole := arriving.append_unreceived
      rw [empty, List.append_nil] at whole
      exact whole
  | clientWritten count up down after chunk phase wrote =>
      rw [phase] at written
      refine ⟨arriving.read, ?_⟩
      rcases write_eq_some wrote with ⟨_, held, rest, rfl, ⟨rfl, rfl⟩ | ⟨rfl, rfl⟩⟩
      · exact (List.append_assoc _ _ _).trans written
      · exact ⟨(List.append_assoc _ _ _).trans written.1, written.2⟩
  | clientShut up down phase through =>
      rw [phase] at written
      refine ⟨arriving.read, ?_⟩
      rcases through with rfl | rfl
      · exact ⟨(List.append_nil _).symm.trans written.1, written.2⟩
      · exact written.elim
  | failed up down phase =>
      rw [phase] at written
      exact ⟨arriving.read, written.begins, nofun⟩
  | streamFailed up down phase =>
      rw [phase] at written
      exact ⟨arriving.read, written.begins, nofun⟩
  | returned phase =>
      rw [phase] at written
      exact ⟨arriving.read, written.1 ▸ List.prefix_refl _, fun _ => written⟩
  | gateway move stream stepped reads =>
      rcases appends_of_step stepped with ⟨grows, ends⟩
      exact arriving.stream _ grows ends

end Arriving

end Connect
end Ingress
end QuicMix
