import QuicMix.Gateway.Carriage

namespace QuicMix
namespace Ingress

open Foundations
open Gateway

/-!
# A CONNECT tunnel

The ingress answers a CONNECT request and splices the client's connection to a
QUIC stream: it writes the authority and a line feed and then copies in both
directions until both have ended.  At the other end of the stream the gateway
reads the line, dials the authority and copies as well, with loops of its own.

Here are both of them, with the client at one end and the target at the other.
The stream of the ingress is the source of the gateway's reader, to which every
write adds; what the gateway writes back, the ingress reads in pieces.  A failed
read or write ends the ingress, which drops its half of the stream: this ends the
stream as if it were finished, unless it is the write to the stream itself that
has failed.
-/

/-! ## More input for the gateway -/

/-- The other end has written more, and may have finished its half of the stream. -/
def extend (more : List UInt8) (finishes : Bool) (stream : GatewayStream) : GatewayStream :=
  { stream with reader := stream.reader.feed more, clientFinishes := finishes }

theorem enter_extend (stream : GatewayStream) (more : List UInt8) (finishes : Bool)
    (phase : StreamPhase) :
    (extend more finishes stream).enter phase = extend more finishes (stream.enter phase) := by
  cases phase with
  | _ => rfl

theorem enter_finishes (stream : GatewayStream) (phase : StreamPhase) :
    (stream.enter phase).clientFinishes = stream.clientFinishes := by
  cases phase with
  | _ => rfl

theorem readLine_extend (stream : GatewayStream) (more line : List UInt8) (finishes : Bool)
    (reader : Buffered UInt8) :
    (extend more finishes stream).readLine line (reader.feed more) =
      extend more finishes (stream.readLine line reader) := by
  rw [GatewayStream.readLine, GatewayStream.readLine, Buffered.readUntil_feed]
  rcases reader.readUntil (· == 10) with ⟨taken, _ | _, next⟩
  · rfl
  · exact enter_extend { stream with reader := next } more finishes _

theorem readLine_finishes (stream : GatewayStream) (line : List UInt8)
    (reader : Buffered UInt8) :
    (stream.readLine line reader).clientFinishes = stream.clientFinishes := by
  rw [GatewayStream.readLine]
  rcases reader.readUntil (· == 10) with ⟨taken, _ | _, next⟩
  · rfl
  · exact enter_finishes _ _

/-- A step that a gateway takes is one that it takes with more input, unless its
input had ended. -/
theorem step_extend {stream next : GatewayStream} {move : StreamMove} {more : List UInt8}
    {finishes : Bool} (extends_ : stream.clientFinishes = true -> more = [] ∧ finishes = true)
    (moved : stream.step move = some next) :
    (extend more finishes stream).step move = some (extend more finishes next) ∧
      next.clientFinishes = stream.clientFinishes := by
  have ended : stream.clientFinishes = true ∧ stream.reader.unread = [] ->
      finishes = true ∧ (stream.reader.feed more).unread = [] := by
    rintro ⟨whole, empty⟩
    rcases extends_ whole with ⟨rfl, rfl⟩
    exact ⟨rfl, by rw [Buffered.unread_feed, empty, List.append_nil]⟩
  cases move with
  | fill count =>
      cases phase : stream.phase <;>
        simp only [GatewayStream.step, phase, extend, reduceCtorEq] at moved ⊢
      next line =>
        rcases Option.map_eq_some_iff.mp moved with ⟨reader, filled, rfl⟩
        rw [Buffered.fill_feed filled more, Option.map_some]
        exact ⟨congrArg some (readLine_extend stream more line finishes reader),
          readLine_finishes stream line reader⟩
  | headerEnd =>
      cases phase : stream.phase <;>
        simp only [GatewayStream.step, phase, extend, reduceCtorEq] at moved ⊢
      next line =>
        rw [Option.ite_none_right_eq_some, Option.some.injEq] at moved
        rcases moved with ⟨guard, rfl⟩
        rw [if_pos (ended guard)]
        exact ⟨congrArg some (enter_extend stream more finishes _), enter_finishes stream _⟩
  | pull count taken =>
      cases phase : stream.phase <;>
        simp only [GatewayStream.step, phase, extend, reduceCtorEq] at moved ⊢
      next up down =>
        simp only [GatewayStream.pull, Option.bind_eq_bind, Option.bind_eq_some_iff,
          Option.ite_none_right_eq_some, Option.pure_def, Option.some.injEq] at moved ⊢
        rcases moved with ⟨reader, filled, bound, read, taking, rfl⟩
        exact ⟨⟨reader.feed more, Buffered.fill_feed filled more, bound, read, taking, rfl⟩, rfl⟩
  | pullEnd =>
      cases phase : stream.phase <;>
        simp only [GatewayStream.step, phase, extend, reduceCtorEq] at moved ⊢
      next up down =>
        rw [Option.ite_none_right_eq_some] at moved
        rcases moved with ⟨guard, moved⟩
        rcases Option.map_eq_some_iff.mp moved with ⟨after, read, rfl⟩
        rw [if_pos (ended guard), read]
        exact ⟨rfl, rfl⟩
  | connect succeeded =>
      cases phase : stream.phase <;>
        simp only [GatewayStream.step, phase, extend, reduceCtorEq] at moved ⊢
      next target =>
        cases succeeded with
        | true =>
            cases moved
            exact ⟨rfl, rfl⟩
        | false =>
            cases moved
            exact ⟨rfl, rfl⟩
  | finishMeasure =>
      cases phase : stream.phase <;>
        simp only [GatewayStream.step, phase, extend, reduceCtorEq] at moved ⊢
      next left =>
        cases left with
        | zero =>
            cases moved
            exact ⟨rfl, rfl⟩
        | succ left => cases moved
  | join =>
      cases phase : stream.phase <;>
        simp only [GatewayStream.step, phase, extend, reduceCtorEq] at moved ⊢
      next up down =>
        cases up <;> cases down <;> simp only [reduceCtorEq] at moved
        cases moved
        exact ⟨rfl, rfl⟩
  | headerError =>
      cases phase : stream.phase <;>
        simp only [GatewayStream.step, phase, extend, reduceCtorEq] at moved ⊢
      cases moved
      exact ⟨rfl, rfl⟩
  | writeChunk =>
      cases phase : stream.phase <;>
        simp only [GatewayStream.step, phase, extend, reduceCtorEq] at moved ⊢
      rw [Option.ite_none_right_eq_some, Option.some.injEq] at moved
      rcases moved with ⟨guard, rfl⟩
      exact ⟨if_pos guard, rfl⟩
  | writeFails count =>
      cases phase : stream.phase <;>
        simp only [GatewayStream.step, phase, extend, reduceCtorEq] at moved ⊢
      rw [Option.ite_none_right_eq_some, Option.some.injEq] at moved
      rcases moved with ⟨guard, rfl⟩
      exact ⟨if_pos guard, rfl⟩
  | _ =>
      cases phase : stream.phase <;>
        simp only [GatewayStream.step, phase, extend, reduceCtorEq] at moved ⊢
      rcases Option.map_eq_some_iff.mp moved with ⟨_, taken, rfl⟩
      rw [taken]
      exact ⟨rfl, rfl⟩

/-- A run of a gateway is a run with more input. -/
theorem run_extend {content more : List UInt8} {clientFinishes finishes : Bool}
    (extends_ : clientFinishes = true -> more = [] ∧ finishes = true)
    {schedule : List StreamMove} {stream : GatewayStream}
    (ran : run GatewayStream.step (GatewayStream.start content clientFinishes) schedule =
      some stream) :
    run GatewayStream.step (GatewayStream.start (content ++ more) finishes) schedule =
      some (extend more finishes stream) := by
  refine run_changed (extend more finishes) (fun state => state.clientFinishes = clientFinishes)
    ?_ rfl ran
  intro state action next same moved
  rw [← same] at extends_
  rcases step_extend extends_ moved with ⟨extended, kept⟩
  exact ⟨extended, kept.trans same⟩

/-! ## Both ends of the stream -/

/-- Where `tunnel` stands. -/
inductive TunnelPhase where
  | opening
  | naming (left : List UInt8)
  | splicing (up down : Copy)
  | returned (succeeded : Bool)

/-- What the ingress writes first. -/
def header (authority : Text) : List UInt8 :=
  Text.encode (authority ++ ['\n'])

/-- Nothing more comes back: the gateway has finished its half of the stream, or
dropped it. -/
def answered (stream : GatewayStream) : Bool :=
  match stream.phase with
  | .splicing _ .closed => true
  | .returned _ => true
  | _ => false

structure Connect where
  phase : TunnelPhase
  stream : GatewayStream
  /-- Everything that the client has written. -/
  sent : List UInt8
  /-- Bytes of the client that the ingress has not read. -/
  pending : List UInt8
  clientEnded : Bool
  /-- Everything that the ingress has read from the stream. -/
  received : List UInt8
  /-- Bytes written to the client. -/
  toUser : List UInt8
  /-- Everything that the target has written. -/
  replied : List UInt8
  /-- Bytes of the target that the gateway has not read. -/
  waiting : List UInt8
  targetEnded : Bool

inductive ConnectMove where
  | clientWrites (chunk : List UInt8)
  | clientEnds
  | targetWrites (chunk : List UInt8)
  | targetEnds
  | opened (succeeded : Bool)
  | name (count : Nat)
  | nameFails
  | readClient (count : Nat)
  | clientEof
  | writeStream (count : Nat)
  | finishStream
  | readStream (count : Nat)
  | streamEof
  | writeClient (count : Nat)
  | shutClient
  | fails
  | streamFails
  | returns
  | gateway (move : StreamMove)

namespace ConnectMove

/-- Something fails on the way, at one end of the stream or at the other. -/
def fault : ConnectMove -> Bool
  | .opened succeeded => !succeeded
  | .nameFails => true
  | .fails => true
  | .streamFails => true
  | .gateway .downFails => true
  | .gateway move => move.fails
  | _ => false

/-- The move is one of the ingress or the gateway that carries the tunnel on; the
others are the doings of the client and the target, and faults. -/
def internal : ConnectMove -> Bool
  | .clientWrites _ => false
  | .clientEnds => false
  | .targetWrites _ => false
  | .targetEnds => false
  | move => !move.fault

/-- The step of the gateway. -/
def gateway? : ConnectMove -> Option StreamMove
  | .gateway move => some move
  | _ => none

end ConnectMove

namespace Connect

def start : Connect where
  phase := .opening
  stream := GatewayStream.start [] false
  sent := []
  pending := []
  clientEnded := false
  received := []
  toUser := []
  replied := []
  waiting := []
  targetEnded := false

/-- What the gateway has written back and the ingress has not read. -/
def unreceived (connect : Connect) : List UInt8 :=
  connect.stream.toClient.drop connect.received.length

/-- The ingress writes to the stream. -/
def write (connect : Connect) (chunk : List UInt8) : GatewayStream :=
  extend chunk connect.stream.clientFinishes connect.stream

/-- The ingress finishes its half of the stream, or drops it. -/
def finish (connect : Connect) : GatewayStream :=
  extend [] true connect.stream

/-- The copy loops start as soon as the line is written. -/
def nextPhase (left : List UInt8) : TunnelPhase :=
  if left.isEmpty then .splicing (.running []) (.running []) else .naming left

/-- The gateway moves.  What it reads from the target is what the target has
written. -/
def gatewayStep (connect : Connect) (move : StreamMove) : Option Connect :=
  match move with
  | .replyIn chunk =>
      if chunk ≠ [] ∧ chunk.isPrefixOf connect.waiting then
        (connect.stream.step move).map (fun stream =>
          { connect with stream := stream, waiting := connect.waiting.drop chunk.length })
      else none
  | .replyEnd =>
      if connect.targetEnded ∧ connect.waiting = [] then
        (connect.stream.step move).map (fun stream => { connect with stream := stream })
      else none
  | _ => (connect.stream.step move).map (fun stream => { connect with stream := stream })

def step (authority : Text) (connect : Connect) : ConnectMove -> Option Connect
  | .clientWrites chunk =>
      if connect.clientEnded then none
      else
        some { connect with sent := connect.sent ++ chunk, pending := connect.pending ++ chunk }
  | .clientEnds => if connect.clientEnded then none else some { connect with clientEnded := true }
  | .targetWrites chunk =>
      if connect.targetEnded then none
      else
        some { connect with
          replied := connect.replied ++ chunk
          waiting := connect.waiting ++ chunk }
  | .targetEnds => if connect.targetEnded then none else some { connect with targetEnded := true }
  | .opened succeeded =>
      match connect.phase with
      | .opening =>
          if succeeded then some { connect with phase := .naming (header authority) }
          else some { connect with phase := .returned false }
      | _ => none
  | .name count =>
      match connect.phase with
      | .naming left =>
          if 0 < count ∧ count <= left.length then
            some { connect with
              phase := nextPhase (left.drop count)
              stream := connect.write (left.take count) }
          else none
      | _ => none
  | .nameFails =>
      match connect.phase with
      | .naming _ => some { connect with phase := .returned false }
      | _ => none
  | .readClient count =>
      match connect.phase with
      | .splicing up down =>
          if 0 < count ∧ count <= connect.pending.length then
            (up.read (connect.pending.take count)).map (fun up =>
              { connect with
                phase := .splicing up down
                pending := connect.pending.drop count })
          else none
      | _ => none
  | .clientEof =>
      match connect.phase with
      | .splicing up down =>
          if connect.clientEnded ∧ connect.pending = [] then
            up.sourceEnd.map (fun up => { connect with phase := .splicing up down })
          else none
      | _ => none
  | .writeStream count =>
      match connect.phase with
      | .splicing up down =>
          (up.write count).map (fun written =>
            { connect with
              phase := .splicing written.2 down
              stream := connect.write written.1 })
      | _ => none
  | .finishStream =>
      match connect.phase with
      | .splicing up down =>
          up.close.map (fun up =>
            { connect with phase := .splicing up down, stream := connect.finish })
      | _ => none
  | .readStream count =>
      match connect.phase with
      | .splicing up down =>
          if 0 < count ∧ count <= connect.unreceived.length then
            (down.read (connect.unreceived.take count)).map (fun down =>
              { connect with
                phase := .splicing up down
                received := connect.received ++ connect.unreceived.take count })
          else none
      | _ => none
  | .streamEof =>
      match connect.phase with
      | .splicing up down =>
          if answered connect.stream ∧ connect.unreceived = [] then
            down.sourceEnd.map (fun down => { connect with phase := .splicing up down })
          else none
      | _ => none
  | .writeClient count =>
      match connect.phase with
      | .splicing up down =>
          (down.write count).map (fun written =>
            { connect with
              phase := .splicing up written.2
              toUser := connect.toUser ++ written.1 })
      | _ => none
  | .shutClient =>
      match connect.phase with
      | .splicing up down =>
          down.close.map (fun down => { connect with phase := .splicing up down })
      | _ => none
  | .fails =>
      match connect.phase with
      | .splicing _ _ => some { connect with phase := .returned false, stream := connect.finish }
      | _ => none
  | .streamFails =>
      match connect.phase with
      | .splicing _ _ => some { connect with phase := .returned false }
      | _ => none
  | .returns =>
      match connect.phase with
      | .splicing .closed .closed => some { connect with phase := .returned true }
      | _ => none
  | .gateway move => connect.gatewayStep move

/-! ## The outcomes of a move -/

/-- What the gateway's reads from the target do to the bytes that wait for them. -/
def stillWaiting (connect : Connect) : StreamMove -> List UInt8
  | .replyIn chunk => connect.waiting.drop chunk.length
  | _ => connect.waiting

/-- The guards of the gateway's reads from the target. -/
def Reads (connect : Connect) : StreamMove -> Prop
  | .replyIn chunk => chunk ≠ [] ∧ chunk <+: connect.waiting
  | .replyEnd => connect.targetEnded = true ∧ connect.waiting = []
  | _ => True

/-- The outcomes of a move, each with the guard under which it happens. -/
inductive Moved (authority : Text) (connect : Connect) : ConnectMove -> Connect -> Prop where
  | clientWrote (chunk : List UInt8) (unended : connect.clientEnded = false) :
      Moved authority connect (.clientWrites chunk)
        { connect with sent := connect.sent ++ chunk, pending := connect.pending ++ chunk }
  | clientEnded : Moved authority connect .clientEnds { connect with clientEnded := true }
  | targetWrote (chunk : List UInt8) (unended : connect.targetEnded = false) :
      Moved authority connect (.targetWrites chunk)
        { connect with
          replied := connect.replied ++ chunk
          waiting := connect.waiting ++ chunk }
  | targetEnded : Moved authority connect .targetEnds { connect with targetEnded := true }
  | opened (phase : connect.phase = .opening) :
      Moved authority connect (.opened true) { connect with phase := .naming (header authority) }
  | refused (phase : connect.phase = .opening) :
      Moved authority connect (.opened false) { connect with phase := .returned false }
  | named (count : Nat) (left : List UInt8) (phase : connect.phase = .naming left)
      (some : 0 < count) (bound : count <= left.length) :
      Moved authority connect (.name count)
        { connect with
          phase := nextPhase (left.drop count)
          stream := connect.write (left.take count) }
  | nameFailed (left : List UInt8) (phase : connect.phase = .naming left) :
      Moved authority connect .nameFails { connect with phase := .returned false }
  | clientRead (count : Nat) (held : List UInt8) (down : Copy)
      (phase : connect.phase = .splicing (.running held) down) (some : 0 < count)
      (bound : count <= connect.pending.length) :
      Moved authority connect (.readClient count)
        { connect with
          phase := .splicing (.running (held ++ connect.pending.take count)) down
          pending := connect.pending.drop count }
  | clientAtEnd (held : List UInt8) (down : Copy)
      (phase : connect.phase = .splicing (.running held) down)
      (ended : connect.clientEnded = true) (empty : connect.pending = []) :
      Moved authority connect .clientEof { connect with phase := .splicing (.draining held) down }
  | streamWritten (count : Nat) (up after down : Copy) (chunk : List UInt8)
      (phase : connect.phase = .splicing up down) (wrote : up.write count = some (chunk, after)) :
      Moved authority connect (.writeStream count)
        { connect with phase := .splicing after down, stream := connect.write chunk }
  | streamFinished (up down : Copy) (phase : connect.phase = .splicing up down)
      (through : up = .draining [] ∨ up = .stopped) :
      Moved authority connect .finishStream
        { connect with phase := .splicing .closed down, stream := connect.finish }
  | streamRead (count : Nat) (up : Copy) (held : List UInt8)
      (phase : connect.phase = .splicing up (.running held)) (some : 0 < count)
      (bound : count <= connect.unreceived.length) :
      Moved authority connect (.readStream count)
        { connect with
          phase := .splicing up (.running (held ++ connect.unreceived.take count))
          received := connect.received ++ connect.unreceived.take count }
  | streamAtEnd (up : Copy) (held : List UInt8)
      (phase : connect.phase = .splicing up (.running held))
      (ended : answered connect.stream = true) (empty : connect.unreceived = []) :
      Moved authority connect .streamEof { connect with phase := .splicing up (.draining held) }
  | clientWritten (count : Nat) (up down after : Copy) (chunk : List UInt8)
      (phase : connect.phase = .splicing up down)
      (wrote : down.write count = some (chunk, after)) :
      Moved authority connect (.writeClient count)
        { connect with phase := .splicing up after, toUser := connect.toUser ++ chunk }
  | clientShut (up down : Copy) (phase : connect.phase = .splicing up down)
      (through : down = .draining [] ∨ down = .stopped) :
      Moved authority connect .shutClient { connect with phase := .splicing up .closed }
  | failed (up down : Copy) (phase : connect.phase = .splicing up down) :
      Moved authority connect .fails
        { connect with phase := .returned false, stream := connect.finish }
  | streamFailed (up down : Copy) (phase : connect.phase = .splicing up down) :
      Moved authority connect .streamFails { connect with phase := .returned false }
  | returned (phase : connect.phase = .splicing .closed .closed) :
      Moved authority connect .returns { connect with phase := .returned true }
  | gateway (move : StreamMove) (stream : GatewayStream)
      (stepped : connect.stream.step move = some stream) (reads : connect.Reads move) :
      Moved authority connect (.gateway move)
        { connect with stream := stream, waiting := connect.stillWaiting move }

theorem moved_of_gateway {authority : Text} {connect next : Connect} {move : StreamMove}
    (moved : connect.gatewayStep move = some next) :
    Moved authority connect (.gateway move) next := by
  cases move with
  | replyIn chunk =>
      simp only [gatewayStep, Option.ite_none_right_eq_some] at moved
      rcases moved with ⟨⟨filled, begins⟩, moved⟩
      rcases Option.map_eq_some_iff.mp moved with ⟨stream, stepped, rfl⟩
      exact .gateway _ stream stepped ⟨filled, List.isPrefixOf_iff_prefix.mp begins⟩
  | replyEnd =>
      simp only [gatewayStep, Option.ite_none_right_eq_some] at moved
      rcases moved with ⟨guard, moved⟩
      rcases Option.map_eq_some_iff.mp moved with ⟨stream, stepped, rfl⟩
      exact .gateway _ stream stepped guard
  | _ =>
      rcases Option.map_eq_some_iff.mp moved with ⟨stream, stepped, rfl⟩
      exact .gateway _ stream stepped trivial

theorem read_eq_some {copy after : Copy} {chunk : List UInt8}
    (read : copy.read chunk = some after) :
    exists held, copy = .running held ∧ after = .running (held ++ chunk) := by
  cases copy with
  | running held =>
      cases read
      exact ⟨held, rfl, rfl⟩
  | _ => cases read

theorem sourceEnd_eq_some {copy after : Copy} (ended : copy.sourceEnd = some after) :
    exists held, copy = .running held ∧ after = .draining held := by
  cases copy with
  | running held =>
      cases ended
      exact ⟨held, rfl, rfl⟩
  | _ => cases ended

theorem moved_of_step {authority : Text} {connect next : Connect} {move : ConnectMove}
    (moved : connect.step authority move = some next) : Moved authority connect move next := by
  cases move with
  | clientWrites chunk =>
      simp only [step, Option.ite_none_left_eq_some, Option.some.injEq] at moved
      rcases moved with ⟨unended, rfl⟩
      exact .clientWrote chunk (Bool.eq_false_iff.mpr unended)
  | clientEnds =>
      simp only [step, Option.ite_none_left_eq_some, Option.some.injEq] at moved
      rcases moved with ⟨_, rfl⟩
      exact .clientEnded
  | targetWrites chunk =>
      simp only [step, Option.ite_none_left_eq_some, Option.some.injEq] at moved
      rcases moved with ⟨unended, rfl⟩
      exact .targetWrote chunk (Bool.eq_false_iff.mpr unended)
  | targetEnds =>
      simp only [step, Option.ite_none_left_eq_some, Option.some.injEq] at moved
      rcases moved with ⟨_, rfl⟩
      exact .targetEnded
  | gateway move => exact moved_of_gateway moved
  | opened succeeded =>
      cases phase : connect.phase <;> simp only [step, phase, reduceCtorEq] at moved
      cases succeeded with
      | true =>
          cases moved
          exact .opened phase
      | false =>
          cases moved
          exact .refused phase
  | name count =>
      cases phase : connect.phase <;> simp only [step, phase, reduceCtorEq] at moved
      next left =>
        rw [Option.ite_none_right_eq_some, Option.some.injEq] at moved
        rcases moved with ⟨⟨positive, bound⟩, rfl⟩
        exact .named count left phase positive bound
  | nameFails =>
      cases phase : connect.phase <;> simp only [step, phase, reduceCtorEq] at moved
      next left =>
        cases moved
        exact .nameFailed left phase
  | readClient count =>
      cases phase : connect.phase <;> simp only [step, phase, reduceCtorEq] at moved
      next up down =>
        rw [Option.ite_none_right_eq_some] at moved
        rcases Option.map_eq_some_iff.mp moved.2 with ⟨after, read, rfl⟩
        rcases read_eq_some read with ⟨held, rfl, rfl⟩
        exact .clientRead count held down phase moved.1.1 moved.1.2
  | clientEof =>
      cases phase : connect.phase <;> simp only [step, phase, reduceCtorEq] at moved
      next up down =>
        rw [Option.ite_none_right_eq_some] at moved
        rcases Option.map_eq_some_iff.mp moved.2 with ⟨after, read, rfl⟩
        rcases sourceEnd_eq_some read with ⟨held, rfl, rfl⟩
        exact .clientAtEnd held down phase moved.1.1 moved.1.2
  | writeStream count =>
      cases phase : connect.phase <;> simp only [step, phase, reduceCtorEq] at moved
      next up down =>
        rcases Option.map_eq_some_iff.mp moved with ⟨⟨chunk, after⟩, wrote, rfl⟩
        exact .streamWritten count up after down chunk phase wrote
  | finishStream =>
      cases phase : connect.phase <;> simp only [step, phase, reduceCtorEq] at moved
      next up down =>
        rcases Option.map_eq_some_iff.mp moved with ⟨after, closed, rfl⟩
        rcases GatewayStream.close_eq_some closed with ⟨rfl, through⟩
        exact .streamFinished up down phase through
  | readStream count =>
      cases phase : connect.phase <;> simp only [step, phase, reduceCtorEq] at moved
      next up down =>
        rw [Option.ite_none_right_eq_some] at moved
        rcases Option.map_eq_some_iff.mp moved.2 with ⟨after, read, rfl⟩
        rcases read_eq_some read with ⟨held, rfl, rfl⟩
        exact .streamRead count up held phase moved.1.1 moved.1.2
  | streamEof =>
      cases phase : connect.phase <;> simp only [step, phase, reduceCtorEq] at moved
      next up down =>
        rw [Option.ite_none_right_eq_some] at moved
        rcases Option.map_eq_some_iff.mp moved.2 with ⟨after, read, rfl⟩
        rcases sourceEnd_eq_some read with ⟨held, rfl, rfl⟩
        exact .streamAtEnd up held phase moved.1.1 moved.1.2
  | writeClient count =>
      cases phase : connect.phase <;> simp only [step, phase, reduceCtorEq] at moved
      next up down =>
        rcases Option.map_eq_some_iff.mp moved with ⟨⟨chunk, after⟩, wrote, rfl⟩
        exact .clientWritten count up down after chunk phase wrote
  | shutClient =>
      cases phase : connect.phase <;> simp only [step, phase, reduceCtorEq] at moved
      next up down =>
        rcases Option.map_eq_some_iff.mp moved with ⟨after, closed, rfl⟩
        rcases GatewayStream.close_eq_some closed with ⟨rfl, through⟩
        exact .clientShut up down phase through
  | fails =>
      cases phase : connect.phase <;> simp only [step, phase, reduceCtorEq] at moved
      next up down =>
        cases moved
        exact .failed up down phase
  | streamFails =>
      cases phase : connect.phase <;> simp only [step, phase, reduceCtorEq] at moved
      next up down =>
        cases moved
        exact .streamFailed up down phase
  | returns =>
      cases phase : connect.phase <;> simp only [step, phase, reduceCtorEq] at moved
      next up down =>
        cases up <;> cases down <;> simp only [reduceCtorEq] at moved
        cases moved
        exact .returned phase

end Connect

end Ingress
end QuicMix
