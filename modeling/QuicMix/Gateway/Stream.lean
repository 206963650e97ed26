import QuicMix.Foundations.Buffered
import QuicMix.Foundations.Schedule
import QuicMix.Foundations.Text

namespace QuicMix
namespace Gateway

open Foundations

/-!
# The stream protocol between ingress and gateway

The ingress writes the target and a line feed on a QUIC stream and then the
payload, on the same stream.  The gateway reads the line through a buffered
reader, which may read ahead into the payload, trims it, dials what is left and
copies the rest of the stream to the target, while a second copy loop carries
the target's answers back.  A line that begins with `@measure ` asks for
throwaway bytes instead, and nothing is dialed.

Everything that the client writes is the source of the reader.  The size of each
read and of each write is an argument of the move that makes it, so a schedule
contains every way in which the stream is split.
-/

def measurePrefix : Text := "@measure ".toList

def measureMax : Nat := 64 * 1024 * 1024

/-- The zero bytes that one round of the probe writes at most. -/
def chunkSize : Nat := 64 * 1024

/-- What a client writes, as `tunnel` and `forward` do. -/
def clientStream (target : Text) (payload : List UInt8) : List UInt8 :=
  Text.encode (target ++ ['\n']) ++ payload

/-- A copy loop with the bytes that it has read and not written. -/
inductive Copy where
  | running (held : List UInt8)
  /-- The source has ended. -/
  | draining (held : List UInt8)
  /-- The loop has returned an error, which is ignored. -/
  | stopped
  /-- The destination is shut down. -/
  | closed

namespace Copy

def read (chunk : List UInt8) : Copy -> Option Copy
  | .running held => some (.running (held ++ chunk))
  | _ => none

def sourceEnd : Copy -> Option Copy
  | .running held => some (.draining held)
  | _ => none

/-- One write takes some of the bytes. -/
def write (count : Nat) : Copy -> Option (List UInt8 × Copy)
  | .running held =>
      if 0 < count ∧ count <= held.length then
        some (held.take count, .running (held.drop count))
      else none
  | .draining held =>
      if 0 < count ∧ count <= held.length then
        some (held.take count, .draining (held.drop count))
      else none
  | _ => none

def fail : Copy -> Option Copy
  | .running _ => some .stopped
  | .draining _ => some .stopped
  | _ => none

/-- The loop has returned, and the destination is shut down. -/
def close : Copy -> Option Copy
  | .draining [] => some .closed
  | .stopped => some .closed
  | _ => none

end Copy

/-- Where `gateway_stream` stands. -/
inductive StreamPhase where
  | header (line : List UInt8)
  | measuring (left : Nat)
  | dialing (target : Text)
  | splicing (up down : Copy)
  | returned (succeeded : Bool)

structure GatewayStream where
  reader : Buffered UInt8
  /-- The client finishes the stream behind what it writes. -/
  clientFinishes : Bool
  phase : StreamPhase
  dialed : List Text
  /-- Bytes written to the target. -/
  toTarget : List UInt8
  /-- Bytes written back to the client. -/
  toClient : List UInt8

inductive StreamMove where
  | fill (count : Nat)
  | headerEnd
  | headerError
  | writeChunk
  | writeFails (count : Nat)
  | finishMeasure
  | connect (succeeded : Bool)
  | pull (count taken : Nat)
  | pullEnd
  | push (count : Nat)
  | upFails
  | shutdown
  | replyIn (chunk : List UInt8)
  | replyEnd
  | replyOut (count : Nat)
  | downFails
  | finish
  | join

namespace StreamMove

/-- The move carries the stream on, towards the target or to the end of a
probe. -/
def carries : StreamMove -> Bool
  | .fill _ => true
  | .headerEnd => true
  | .writeChunk => true
  | .finishMeasure => true
  | .connect succeeded => succeeded
  | .pull _ _ => true
  | .pullEnd => true
  | .push _ => true
  | .shutdown => true
  | _ => false

/-- The move is a failed read, write or dial on that way. -/
def fails : StreamMove -> Bool
  | .headerError => true
  | .writeFails _ => true
  | .connect succeeded => !succeeded
  | .upFails => true
  | _ => false

end StreamMove

namespace GatewayStream

def start (stream : List UInt8) (clientFinishes : Bool) : GatewayStream where
  reader := ⟨[], stream⟩
  clientFinishes := clientFinishes
  phase := .header []
  dialed := []
  toTarget := []
  toClient := []

/-- The line is complete: it is decoded, trimmed and understood. -/
def accept (line : List UInt8) : StreamPhase :=
  match Text.decode line with
  | none => .returned false
  | some text =>
      if text.trim.isEmpty then .returned true
      else
        match text.trim.stripStart measurePrefix with
        | some rest => .measuring (min ((Text.parseU64 rest.trim).getD 0) measureMax)
        | none => .dialing text.trim

/-- The task goes on to the given phase; a dial starts as soon as it is due. -/
def enter (stream : GatewayStream) (phase : StreamPhase) : GatewayStream :=
  match phase with
  | .dialing target => { stream with phase := phase, dialed := stream.dialed ++ [target] }
  | _ => { stream with phase := phase }

/-- One round of `read_line`. -/
def readLine (stream : GatewayStream) (line : List UInt8) (reader : Buffered UInt8) :
    GatewayStream :=
  match reader.readUntil (· == 10) with
  | (taken, true, next) => { stream with reader := next }.enter (accept (line ++ taken))
  | (taken, false, next) => { stream with reader := next, phase := .header (line ++ taken) }

/-- The copy loop to the target reads. -/
def pull (stream : GatewayStream) (up down : Copy) (count taken : Nat) : Option GatewayStream := do
  let reader <- stream.reader.fill count
  if 0 < taken ∧ taken <= reader.buffer.length then
    let up <- up.read (reader.buffer.take taken)
    return { stream with reader := reader.consume taken, phase := .splicing up down }
  else none

def step (stream : GatewayStream) : StreamMove -> Option GatewayStream
  | .fill count =>
      match stream.phase with
      | .header line => (stream.reader.fill count).map (stream.readLine line)
      | _ => none
  | .headerEnd =>
      match stream.phase with
      | .header line =>
          if stream.clientFinishes ∧ stream.reader.unread = [] then
            some (stream.enter (accept line))
          else none
      | _ => none
  | .headerError =>
      match stream.phase with
      | .header _ => some { stream with phase := .returned false }
      | _ => none
  | .writeChunk =>
      match stream.phase with
      | .measuring left =>
          if 0 < left then
            some { stream with
              phase := .measuring (left - min left chunkSize)
              toClient := stream.toClient ++ List.replicate (min left chunkSize) 0 }
          else none
      | _ => none
  | .writeFails count =>
      match stream.phase with
      | .measuring left =>
          if 0 < left ∧ count < min left chunkSize then
            some { stream with
              phase := .returned true
              toClient := stream.toClient ++ List.replicate count 0 }
          else none
      | _ => none
  | .finishMeasure =>
      match stream.phase with
      | .measuring 0 => some { stream with phase := .returned true }
      | _ => none
  | .connect succeeded =>
      match stream.phase with
      | .dialing _ =>
          if succeeded then some { stream with phase := .splicing (.running []) (.running []) }
          else some { stream with phase := .returned false }
      | _ => none
  | .pull count taken =>
      match stream.phase with
      | .splicing up down => stream.pull up down count taken
      | _ => none
  | .pullEnd =>
      match stream.phase with
      | .splicing up down =>
          if stream.clientFinishes ∧ stream.reader.unread = [] then
            up.sourceEnd.map (fun up => { stream with phase := .splicing up down })
          else none
      | _ => none
  | .push count =>
      match stream.phase with
      | .splicing up down =>
          (up.write count).map (fun written =>
            { stream with
              phase := .splicing written.2 down
              toTarget := stream.toTarget ++ written.1 })
      | _ => none
  | .upFails =>
      match stream.phase with
      | .splicing up down => up.fail.map (fun up => { stream with phase := .splicing up down })
      | _ => none
  | .shutdown =>
      match stream.phase with
      | .splicing up down => up.close.map (fun up => { stream with phase := .splicing up down })
      | _ => none
  | .replyIn chunk =>
      match stream.phase with
      | .splicing up down =>
          (down.read chunk).map (fun down => { stream with phase := .splicing up down })
      | _ => none
  | .replyEnd =>
      match stream.phase with
      | .splicing up down =>
          down.sourceEnd.map (fun down => { stream with phase := .splicing up down })
      | _ => none
  | .replyOut count =>
      match stream.phase with
      | .splicing up down =>
          (down.write count).map (fun written =>
            { stream with
              phase := .splicing up written.2
              toClient := stream.toClient ++ written.1 })
      | _ => none
  | .downFails =>
      match stream.phase with
      | .splicing up down => down.fail.map (fun down => { stream with phase := .splicing up down })
      | _ => none
  | .finish =>
      match stream.phase with
      | .splicing up down => down.close.map (fun down => { stream with phase := .splicing up down })
      | _ => none
  | .join =>
      match stream.phase with
      | .splicing .closed .closed => some { stream with phase := .returned true }
      | _ => none

/-! ## The outcomes of a move -/

/-- The outcomes of a move, each with the guard under which it happens.  The
moves of the way back are one case. -/
inductive Moved (stream : GatewayStream) : StreamMove -> GatewayStream -> Prop where
  | lineRead (count : Nat) (line : List UInt8) (reader : Buffered UInt8)
      (phase : stream.phase = .header line) (filled : stream.reader.fill count = some reader) :
      Moved stream (.fill count) (stream.readLine line reader)
  | lineEnded (line : List UInt8) (phase : stream.phase = .header line)
      (ended : stream.reader.unread = []) :
      Moved stream .headerEnd (stream.enter (accept line))
  | lineFailed (line : List UInt8) (phase : stream.phase = .header line) :
      Moved stream .headerError { stream with phase := .returned false }
  | chunkWritten (left : Nat) (phase : stream.phase = .measuring left) (more : 0 < left) :
      Moved stream .writeChunk
        { stream with
          phase := .measuring (left - min left chunkSize)
          toClient := stream.toClient ++ List.replicate (min left chunkSize) 0 }
  | chunkFailed (left count : Nat) (phase : stream.phase = .measuring left)
      (part : count < min left chunkSize) :
      Moved stream (.writeFails count)
        { stream with
          phase := .returned true
          toClient := stream.toClient ++ List.replicate count 0 }
  | measured (phase : stream.phase = .measuring 0) :
      Moved stream .finishMeasure { stream with phase := .returned true }
  | connected (target : Text) (phase : stream.phase = .dialing target) :
      Moved stream (.connect true)
        { stream with phase := .splicing (.running []) (.running []) }
  | refused (target : Text) (phase : stream.phase = .dialing target) :
      Moved stream (.connect false) { stream with phase := .returned false }
  | pulled (count taken : Nat) (held : List UInt8) (down : Copy) (reader : Buffered UInt8)
      (phase : stream.phase = .splicing (.running held) down)
      (filled : stream.reader.fill count = some reader) (some : 0 < taken)
      (bound : taken <= reader.buffer.length) :
      Moved stream (.pull count taken)
        { stream with
          reader := reader.consume taken
          phase := .splicing (.running (held ++ reader.buffer.take taken)) down }
  | pullEnded (held : List UInt8) (down : Copy)
      (phase : stream.phase = .splicing (.running held) down)
      (ended : stream.reader.unread = []) :
      Moved stream .pullEnd { stream with phase := .splicing (.draining held) down }
  | pushed (count : Nat) (held : List UInt8) (down : Copy)
      (phase : stream.phase = .splicing (.running held) down) (some : 0 < count)
      (bound : count <= held.length) :
      Moved stream (.push count)
        { stream with
          phase := .splicing (.running (held.drop count)) down
          toTarget := stream.toTarget ++ held.take count }
  | drained (count : Nat) (held : List UInt8) (down : Copy)
      (phase : stream.phase = .splicing (.draining held) down) (some : 0 < count)
      (bound : count <= held.length) :
      Moved stream (.push count)
        { stream with
          phase := .splicing (.draining (held.drop count)) down
          toTarget := stream.toTarget ++ held.take count }
  | upFailed (up down : Copy) (phase : stream.phase = .splicing up down)
      (active : exists held, up = .running held ∨ up = .draining held) :
      Moved stream .upFails { stream with phase := .splicing .stopped down }
  | shut (up down : Copy) (phase : stream.phase = .splicing up down)
      (through : up = .draining [] ∨ up = .stopped) :
      Moved stream .shutdown { stream with phase := .splicing .closed down }
  | downward (move : StreamMove) (up down after : Copy) (toClient : List UInt8)
      (apart : move.carries = false ∧ move.fails = false)
      (phase : stream.phase = .splicing up down) :
      Moved stream move { stream with phase := .splicing up after, toClient := toClient }
  | joined (phase : stream.phase = .splicing .closed .closed) :
      Moved stream .join { stream with phase := .returned true }

theorem moved_of_pull {stream next : GatewayStream} {up down : Copy} {count taken : Nat}
    (phase : stream.phase = .splicing up down)
    (moved : stream.pull up down count taken = some next) :
    Moved stream (.pull count taken) next := by
  simp only [pull, Option.bind_eq_bind, Option.bind_eq_some_iff, Option.ite_none_right_eq_some,
    Option.pure_def, Option.some.injEq] at moved
  rcases moved with ⟨reader, filled, ⟨positive, bound⟩, read, taking, rfl⟩
  cases up with
  | running held =>
      cases taking
      exact .pulled count taken held down reader phase filled positive bound
  | _ => cases taking

theorem moved_of_push {stream next : GatewayStream} {up down : Copy} {count : Nat}
    (phase : stream.phase = .splicing up down)
    (moved : (up.write count).map (fun written =>
      { stream with
        phase := .splicing written.2 down
        toTarget := stream.toTarget ++ written.1 }) = some next) :
    Moved stream (.push count) next := by
  rcases Option.map_eq_some_iff.mp moved with ⟨written, wrote, rfl⟩
  cases up with
  | running held =>
      simp only [Copy.write, Option.ite_none_right_eq_some, Option.some.injEq] at wrote
      rcases wrote with ⟨⟨positive, bound⟩, rfl⟩
      exact .pushed count held down phase positive bound
  | draining held =>
      simp only [Copy.write, Option.ite_none_right_eq_some, Option.some.injEq] at wrote
      rcases wrote with ⟨⟨positive, bound⟩, rfl⟩
      exact .drained count held down phase positive bound
  | _ => cases wrote

theorem close_eq_some {up after : Copy} (closed : up.close = some after) :
    after = .closed ∧ (up = .draining [] ∨ up = .stopped) := by
  cases up with
  | draining held =>
      cases held with
      | nil =>
          cases closed
          exact ⟨rfl, .inl rfl⟩
      | cons head tail => cases closed
  | stopped =>
      cases closed
      exact ⟨rfl, .inr rfl⟩
  | _ => cases closed

theorem fail_eq_some {up after : Copy} (failed : up.fail = some after) :
    after = .stopped ∧ exists held, up = .running held ∨ up = .draining held := by
  cases up with
  | running held =>
      cases failed
      exact ⟨rfl, held, .inl rfl⟩
  | draining held =>
      cases failed
      exact ⟨rfl, held, .inr rfl⟩
  | _ => cases failed

theorem moved_of_step {stream next : GatewayStream} {move : StreamMove}
    (moved : stream.step move = some next) : Moved stream move next := by
  cases move with
  | fill count =>
      cases phase : stream.phase <;> simp only [step, phase, reduceCtorEq] at moved
      next line =>
        rcases Option.map_eq_some_iff.mp moved with ⟨reader, filled, rfl⟩
        exact .lineRead count line reader phase filled
  | headerEnd =>
      cases phase : stream.phase <;> simp only [step, phase, reduceCtorEq] at moved
      next line =>
        rw [Option.ite_none_right_eq_some, Option.some.injEq] at moved
        rcases moved with ⟨⟨_, ended⟩, rfl⟩
        exact .lineEnded line phase ended
  | headerError =>
      cases phase : stream.phase <;> simp only [step, phase, reduceCtorEq] at moved
      next line =>
        cases moved
        exact .lineFailed line phase
  | writeChunk =>
      cases phase : stream.phase <;> simp only [step, phase, reduceCtorEq] at moved
      next left =>
        rw [Option.ite_none_right_eq_some, Option.some.injEq] at moved
        rcases moved with ⟨more, rfl⟩
        exact .chunkWritten left phase more
  | writeFails count =>
      cases phase : stream.phase <;> simp only [step, phase, reduceCtorEq] at moved
      next left =>
        rw [Option.ite_none_right_eq_some, Option.some.injEq] at moved
        rcases moved with ⟨⟨_, part⟩, rfl⟩
        exact .chunkFailed left count phase part
  | finishMeasure =>
      cases phase : stream.phase <;> simp only [step, phase, reduceCtorEq] at moved
      next left =>
        cases left with
        | zero =>
            cases moved
            exact .measured phase
        | succ left => cases moved
  | connect succeeded =>
      cases phase : stream.phase <;> simp only [step, phase, reduceCtorEq] at moved
      next target =>
        cases succeeded with
        | true =>
            cases moved
            exact .connected target phase
        | false =>
            cases moved
            exact .refused target phase
  | pull count taken =>
      cases phase : stream.phase <;> simp only [step, phase, reduceCtorEq] at moved
      exact moved_of_pull phase moved
  | pullEnd =>
      cases phase : stream.phase <;> simp only [step, phase, reduceCtorEq] at moved
      next up down =>
        rw [Option.ite_none_right_eq_some] at moved
        rcases moved with ⟨⟨_, ended⟩, moved⟩
        rcases Option.map_eq_some_iff.mp moved with ⟨after, read, rfl⟩
        cases up with
        | running held =>
            cases read
            exact .pullEnded held down phase ended
        | _ => cases read
  | push count =>
      cases phase : stream.phase <;> simp only [step, phase, reduceCtorEq] at moved
      exact moved_of_push phase moved
  | upFails =>
      cases phase : stream.phase <;> simp only [step, phase, reduceCtorEq] at moved
      next up down =>
        rcases Option.map_eq_some_iff.mp moved with ⟨after, failed, rfl⟩
        rcases fail_eq_some failed with ⟨rfl, active⟩
        exact .upFailed up down phase active
  | shutdown =>
      cases phase : stream.phase <;> simp only [step, phase, reduceCtorEq] at moved
      next up down =>
        rcases Option.map_eq_some_iff.mp moved with ⟨after, closed, rfl⟩
        rcases close_eq_some closed with ⟨rfl, through⟩
        exact .shut up down phase through
  | join =>
      cases phase : stream.phase <;> simp only [step, phase, reduceCtorEq] at moved
      next up down =>
        cases up <;> cases down <;> simp only [reduceCtorEq] at moved
        cases moved
        exact .joined phase
  | _ =>
      cases phase : stream.phase <;> simp only [step, phase, reduceCtorEq] at moved
      rcases Option.map_eq_some_iff.mp moved with ⟨_, _, rfl⟩
      exact .downward _ _ _ _ _ ⟨rfl, rfl⟩ phase

end GatewayStream
end Gateway
end QuicMix
