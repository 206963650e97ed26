import QuicMix.Ingress.Connect

namespace QuicMix
namespace Measure

open Foundations
open Gateway

/-!
# A measurement

`run_measure` connects to a gateway, fetches a page over the connection and then
asks the gateway for a number of bytes, which it counts as they arrive.  On the way
it reports to the browser: `connected`, `egress`, `page`, a `sample` now and then,
and `done`.  Where a call fails, `handle` reports an `error` instead of what would
follow.  The page is fetched elsewhere; here it either fails or has a status and a
length.

The probe goes through the gateway's end of the stream, which works at the same
time.  A frame shows quotients of counts and times, and these are what is kept of
it.  A read that has not returned within its limit may be given up, and a read that
is given a chance to return does so.
-/

def probeCapBytes : Nat := 4 * 1024 * 1024

def probeCapTime : Duration := 5 * 1000000000

/-- The buffer of the probe. -/
def readSize : Nat := 64 * 1024

/-- How long a read of the probe may take. -/
def readTimeout : Duration := 6 * 1000000000

/-- How long after the first byte the throughput is not sampled. -/
def settleTime : Duration := 120 * 1000000

def sampleEvery : Duration := 250 * 1000000

/-- The number of bytes to ask for: a setting that is a number, or the default. -/
def probeSize (setting : Option Text) : Nat :=
  (setting.bind Text.parseU64).getD 3000000

/-- The request of a probe. -/
def probeRequest (probeBytes : Nat) : List UInt8 :=
  clientStream (measurePrefix ++ Nat.toDigits 10 probeBytes) []

/-- What a `sample` shows. -/
structure Sample where
  bytes : Nat
  /-- When it was taken. -/
  taken : Instant
  /-- When the first bytes arrived. -/
  first : Instant
  deriving DecidableEq

inductive Frame where
  | connected
  | egress
  /-- The status and the length of the page, or an error. -/
  | page (fetched : Option (Nat × Nat))
  | sample (shown : Sample)
  | done (code bytes bodyBytes : Nat)
  | error
  deriving DecidableEq

def Frame.sampled : Frame -> Option Sample
  | .sample shown => some shown
  | _ => none

/-- Where `run_measure` or its caller stands. -/
inductive MeasurePhase where
  | fetchCert
  | resolve
  | connect
  | connected
  | egress
  | fetch
  | page (fetched : Option (Nat × Nat))
  | openProbe
  | request
  | reading (since : Instant)
  | sampling (sample : Sample)
  | done
  | failed
  | closing
  | closed
  deriving DecidableEq

namespace MeasurePhase

/-- The stream of the probe has been opened. -/
def opened : MeasurePhase -> Bool
  | .fetchCert => false
  | .resolve => false
  | .connect => false
  | .connected => false
  | .egress => false
  | .fetch => false
  | .page _ => false
  | .openProbe => false
  | _ => true

end MeasurePhase

structure Measurement where
  phase : MeasurePhase
  clock : Instant
  /-- The frames that were sent. -/
  frames : List Frame
  pageCode : Nat
  pageBytes : Nat
  /-- The gateway's end of the probe. -/
  stream : GatewayStream
  bodyBytes : Nat
  /-- When the loop was entered. -/
  start : Instant
  firstByte : Option Instant
  lastSample : Instant

inductive MeasureMove where
  | elapse (duration : Duration)
  /-- The call under way returns. -/
  | returns (succeeded : Bool)
  | fetched (page : Option (Nat × Nat))
  | gateway (move : StreamMove)
  | read (count : Nat)
  | readEnd
  | readFails
  | readExpires

namespace MeasureMove

/-- A call or a read fails, here or at the gateway, or is given up. -/
def fault : MeasureMove -> Bool
  | .returns succeeded => !succeeded
  | .gateway move => move.fails
  | .readFails => true
  | .readExpires => true
  | _ => false

/-- Something is done, at this end or by the gateway. -/
def carries : MeasureMove -> Bool
  | .elapse _ => false
  | .gateway move => move.carries
  | _ => true

end MeasureMove

namespace Measurement

def initial (probeBytes : Nat) (now : Instant) : Measurement where
  phase := .fetchCert
  clock := now
  frames := []
  pageCode := 0
  pageBytes := 0
  stream := GatewayStream.start (probeRequest probeBytes) true
  bodyBytes := 0
  start := now
  firstByte := none
  lastSample := now

def send (measurement : Measurement) (frame : Frame) (after : MeasurePhase) : Measurement :=
  { measurement with frames := measurement.frames ++ [frame], phase := after }

/-- The end of a round of the loop. -/
def nextRound (measurement : Measurement) : Measurement :=
  if probeCapBytes <= measurement.bodyBytes ∨
      measurement.start + probeCapTime <= measurement.clock then
    { measurement with phase := .done }
  else { measurement with phase := .reading measurement.clock }

/-- The call under way succeeds. -/
def succeeds (measurement : Measurement) : Option Measurement :=
  match measurement.phase with
  | .fetchCert => some { measurement with phase := .resolve }
  | .resolve => some { measurement with phase := .connect }
  | .connect => some { measurement with phase := .connected }
  | .connected => some (measurement.send .connected .egress)
  | .egress => some (measurement.send .egress .fetch)
  | .page fetched => some (measurement.send (.page fetched) .openProbe)
  | .openProbe => some { measurement with phase := .request }
  | .request =>
      some { measurement with
        phase := .reading measurement.clock
        start := measurement.clock
        lastSample := measurement.clock }
  | .sampling sample =>
      some (measurement.send (.sample sample) (.sampling sample)).nextRound
  | .done =>
      some (measurement.send
        (.done measurement.pageCode measurement.pageBytes measurement.bodyBytes) .closing)
  | .failed => some (measurement.send .error .closing)
  | .closing => some { measurement with phase := .closed }
  | _ => none

/-- The call under way fails. -/
def fails (measurement : Measurement) : Option Measurement :=
  match measurement.phase with
  | .fetch => none
  | .reading _ => none
  | .failed => some { measurement with phase := .closing }
  | .closing => some { measurement with phase := .closed }
  | .closed => none
  | _ => some { measurement with phase := .failed }

def fetched (measurement : Measurement) (page : Option (Nat × Nat)) : Option Measurement :=
  match measurement.phase, page with
  | .fetch, some (code, bytes) =>
      some { measurement with
        phase := .page (some (code, bytes))
        pageCode := code
        pageBytes := bytes }
  | .fetch, none => some { measurement with phase := .page none }
  | _, _ => none

/-- Bytes have arrived. -/
def read (measurement : Measurement) (count : Nat) : Option Measurement :=
  match measurement.phase with
  | .reading _ =>
      if 0 < count ∧ count <= readSize ∧
          measurement.bodyBytes + count <= measurement.stream.toClient.length then
        let first := measurement.firstByte.getD measurement.clock
        let counted := { measurement with
          firstByte := some first
          bodyBytes := measurement.bodyBytes + count }
        if first + settleTime <= measurement.clock ∧
            measurement.lastSample + sampleEvery <= measurement.clock then
          some { counted with
            lastSample := measurement.clock
            phase := .sampling ⟨counted.bodyBytes, measurement.clock, first⟩ }
        else some counted.nextRound
      else none
  | _ => none

/-- The loop ends without bytes. -/
def stop (measurement : Measurement) (allowed : Instant -> Bool) : Option Measurement :=
  match measurement.phase with
  | .reading since => if allowed since then some { measurement with phase := .done } else none
  | _ => none

def step (measurement : Measurement) : MeasureMove -> Option Measurement
  | .elapse duration => some { measurement with clock := measurement.clock + duration }
  | .returns true => measurement.succeeds
  | .returns false => measurement.fails
  | .fetched page => measurement.fetched page
  | .gateway move =>
      if measurement.phase.opened then
        (measurement.stream.step move).map (fun stream => { measurement with stream := stream })
      else none
  | .read count => measurement.read count
  | .readEnd =>
      measurement.stop (fun _ => Ingress.answered measurement.stream &&
        measurement.bodyBytes == measurement.stream.toClient.length)
  | .readFails => measurement.stop (fun _ => true)
  | .readExpires =>
      measurement.stop (fun since => decide (since + readTimeout <= measurement.clock))

/-! ## What a move does -/

/-- The moves of a measurement. -/
inductive Moved (measurement : Measurement) : MeasureMove -> Measurement -> Prop where
  | elapsed (duration : Duration) :
      Moved measurement (.elapse duration)
        { measurement with clock := measurement.clock + duration }
  /-- A call before the first frame, or before the probe, has returned. -/
  | advanced (after : MeasurePhase)
      (phase : (measurement.phase, after) ∈
        [(.fetchCert, .resolve), (.resolve, .connect), (.connect, .connected),
          (.openProbe, .request)]) :
      Moved measurement (.returns true) { measurement with phase := after }
  | announced (frame : Frame) (after : MeasurePhase)
      (phase : measurement.phase = .connected ∧ frame = .connected ∧ after = .egress ∨
        measurement.phase = .egress ∧ frame = .egress ∧ after = .fetch ∨
        exists page, measurement.phase = .page page ∧ frame = .page page ∧ after = .openProbe) :
      Moved measurement (.returns true) (measurement.send frame after)
  | pageFetched (code bytes : Nat) (phase : measurement.phase = .fetch) :
      Moved measurement (.fetched (some (code, bytes)))
        { measurement with
          phase := .page (some (code, bytes))
          pageCode := code
          pageBytes := bytes }
  | pageFailed (phase : measurement.phase = .fetch) :
      Moved measurement (.fetched none) { measurement with phase := .page none }
  | requested (phase : measurement.phase = .request) :
      Moved measurement (.returns true)
        { measurement with
          phase := .reading measurement.clock
          start := measurement.clock
          lastSample := measurement.clock }
  | gatewayMoved (move : StreamMove) (stream : GatewayStream)
      (opened : measurement.phase.opened = true)
      (stepped : measurement.stream.step move = some stream) :
      Moved measurement (.gateway move) { measurement with stream := stream }
  | counted (count : Nat) (since first : Instant) (phase : measurement.phase = .reading since)
      (positive : 0 < count) (fits : count <= readSize)
      (sent : measurement.bodyBytes + count <= measurement.stream.toClient.length)
      (first_eq : first = measurement.firstByte.getD measurement.clock) :
      Moved measurement (.read count)
        { measurement with
          firstByte := some first
          bodyBytes := measurement.bodyBytes + count }.nextRound
  | taken (count : Nat) (since first : Instant) (phase : measurement.phase = .reading since)
      (positive : 0 < count) (fits : count <= readSize)
      (sent : measurement.bodyBytes + count <= measurement.stream.toClient.length)
      (first_eq : first = measurement.firstByte.getD measurement.clock)
      (settled : first + settleTime <= measurement.clock)
      (due : measurement.lastSample + sampleEvery <= measurement.clock) :
      Moved measurement (.read count)
        { measurement with
          firstByte := some first
          bodyBytes := measurement.bodyBytes + count
          lastSample := measurement.clock
          phase := .sampling ⟨measurement.bodyBytes + count, measurement.clock, first⟩ }
  | sampleSent (sample : Sample) (phase : measurement.phase = .sampling sample) :
      Moved measurement (.returns true)
        (measurement.send (.sample sample) (.sampling sample)).nextRound
  | ended (since : Instant) (phase : measurement.phase = .reading since)
      (answered : Ingress.answered measurement.stream = true)
      (whole : measurement.bodyBytes = measurement.stream.toClient.length) :
      Moved measurement .readEnd { measurement with phase := .done }
  | givenUp (move : MeasureMove) (since : Instant) (phase : measurement.phase = .reading since)
      (faulty : move.fault = true) : Moved measurement move { measurement with phase := .done }
  | doneSent (phase : measurement.phase = .done) :
      Moved measurement (.returns true) (measurement.send
        (.done measurement.pageCode measurement.pageBytes measurement.bodyBytes) .closing)
  | broke (running : measurement.phase ≠ .failed ∧ measurement.phase ≠ .closing ∧
        measurement.phase ≠ .closed) :
      Moved measurement (.returns false) { measurement with phase := .failed }
  | errorSent (phase : measurement.phase = .failed) :
      Moved measurement (.returns true) (measurement.send .error .closing)
  | errorLost (phase : measurement.phase = .failed) :
      Moved measurement (.returns false) { measurement with phase := .closing }
  | closed (succeeded : Bool) (phase : measurement.phase = .closing) :
      Moved measurement (.returns succeeded) { measurement with phase := .closed }

variable {measurement next : Measurement}

theorem moved_of_succeeds (moved : measurement.succeeds = some next) :
    Moved measurement (.returns true) next := by
  unfold succeeds at moved
  split at moved <;> rename_i phase
  case h_13 => cases moved
  all_goals cases moved
  · exact .advanced .resolve (by simp [phase])
  · exact .advanced .connect (by simp [phase])
  · exact .advanced .connected (by simp [phase])
  · exact .announced .connected .egress (.inl ⟨phase, rfl, rfl⟩)
  · exact .announced .egress .fetch (.inr (.inl ⟨phase, rfl, rfl⟩))
  · exact .announced _ .openProbe (.inr (.inr ⟨_, phase, rfl, rfl⟩))
  · exact .advanced .request (by simp [phase])
  · exact .requested phase
  · exact .sampleSent _ phase
  · exact .doneSent phase
  · exact .errorSent phase
  · exact .closed true phase

theorem moved_of_fails (moved : measurement.fails = some next) :
    Moved measurement (.returns false) next := by
  unfold fails at moved
  split at moved
  · cases moved
  · cases moved
  · cases moved
    exact .errorLost ‹_›
  · cases moved
    exact .closed false ‹_›
  · cases moved
  · rename_i failed closing closed
    cases moved
    exact .broke ⟨failed, closing, closed⟩

theorem moved_of_fetched {page : Option (Nat × Nat)}
    (moved : measurement.fetched page = some next) : Moved measurement (.fetched page) next := by
  unfold fetched at moved
  split at moved
  · cases moved
    exact .pageFetched _ _ ‹_›
  · cases moved
    exact .pageFailed ‹_›
  · cases moved

theorem moved_of_read {count : Nat} (moved : measurement.read count = some next) :
    Moved measurement (.read count) next := by
  unfold read at moved
  split at moved
  · rename_i since phase
    rcases Option.ite_none_right_eq_some.mp moved with ⟨⟨positive, fits, sent⟩, moved⟩
    dsimp only at moved
    split at moved
    · rename_i due
      cases moved
      exact .taken count since _ phase positive fits sent rfl due.1 due.2
    · cases moved
      exact .counted count since _ phase positive fits sent rfl
  · cases moved

theorem stop_eq_some {allowed : Instant -> Bool} (moved : measurement.stop allowed = some next) :
    exists since, measurement.phase = .reading since ∧ allowed since = true ∧
      next = { measurement with phase := .done } := by
  unfold stop at moved
  split at moved
  · rename_i since phase
    rcases Option.ite_none_right_eq_some.mp moved with ⟨allowed, same⟩
    cases same
    exact ⟨since, phase, allowed, rfl⟩
  · cases moved

theorem moved_of_step {move : MeasureMove} (moved : measurement.step move = some next) :
    Moved measurement move next := by
  cases move with
  | elapse duration =>
      cases moved
      exact .elapsed duration
  | returns succeeded =>
      cases succeeded with
      | true => exact moved_of_succeeds moved
      | false => exact moved_of_fails moved
  | fetched page => exact moved_of_fetched moved
  | gateway move =>
      rcases Option.ite_none_right_eq_some.mp moved with ⟨opened, moved⟩
      rcases Option.map_eq_some_iff.mp moved with ⟨stream, stepped, same⟩
      cases same
      exact .gatewayMoved move stream opened stepped
  | read count => exact moved_of_read moved
  | readEnd =>
      rcases stop_eq_some moved with ⟨since, phase, allowed, rfl⟩
      rcases Bool.and_eq_true_iff.mp allowed with ⟨answered, whole⟩
      exact .ended since phase answered (beq_iff_eq.mp whole)
  | readFails =>
      rcases stop_eq_some moved with ⟨since, phase, _, rfl⟩
      exact .givenUp .readFails since phase rfl
  | readExpires =>
      rcases stop_eq_some moved with ⟨since, phase, _, rfl⟩
      exact .givenUp .readExpires since phase rfl

end Measurement
end Measure
end QuicMix
