import QuicMix.Framing.RoundTrip

namespace QuicMix
namespace Framing

open Foundations
open Boundary

/-!
# The gateway's stream bridge

The bridge accepts the stream of a client's `StreamDatagram`, takes the frames
off it and injects the payloads into the local listener over UDP.  Its loop and
`StreamDatagram::try_recv` were written separately.  They agree on everything
but a length of zero, which the loop takes for an absurd one and on which it
ends, and with it the bridged connection.

Only the direction from the stream to the listener is modelled.  Whether the
local socket accepts a datagram is an argument of the move that sends it.
-/

/-- The loop from the stream to the listener, at its points of waiting. -/
inductive BridgePhase where
  | header (got : List UInt8)
  | payload (size : Nat) (got : List UInt8)
  | sending (buffer : Datagram)
  | stopped

structure Bridge where
  /-- Bytes of the stream that are not read. -/
  wire : List UInt8
  /-- The stream ends behind these bytes. -/
  ended : Bool
  phase : BridgePhase
  injected : List Datagram

inductive BridgeMove where
  | read (size : Nat)
  | eof
  | send (accepted : Bool)
  deriving DecidableEq

namespace BridgePhase

/-- How many bytes the `read_exact` under way still has to fill. -/
def wanted : BridgePhase -> Nat
  | .header got => 4 - got.length
  | .payload size got => size - got.length
  | _ => 0

/-- The length is complete: absurd lengths end the loop. -/
def ofHeader (bytes : List UInt8) : BridgePhase :=
  if ofBe bytes = 0 ∨ ofBe bytes > maxDatagram then .stopped
  else .payload (ofBe bytes) []

/-- One read brings some of the wanted bytes. -/
def read (chunk : List UInt8) : BridgePhase -> BridgePhase
  | .header got =>
      if (got ++ chunk).length = 4 then ofHeader (got ++ chunk) else .header (got ++ chunk)
  | .payload size got =>
      if (got ++ chunk).length = size then .sending (got ++ chunk)
      else .payload size (got ++ chunk)
  | phase => phase

end BridgePhase

namespace Bridge

def start (stream : List UInt8) (ended : Bool) : Bridge :=
  ⟨stream, ended, .header [], []⟩

def step (bridge : Bridge) : BridgeMove -> Option Bridge
  | .read size =>
      if 0 < size ∧ size <= bridge.wire.length ∧ size <= bridge.phase.wanted then
        some { bridge with
          wire := bridge.wire.drop size
          phase := bridge.phase.read (bridge.wire.take size) }
      else none
  | .eof =>
      if bridge.ended = true ∧ bridge.wire = [] ∧ 0 < bridge.phase.wanted then
        some { bridge with phase := .stopped }
      else none
  | .send accepted =>
      match bridge.phase with
      | .sending buffer =>
          if accepted then
            some { bridge with phase := .header [], injected := bridge.injected ++ [buffer] }
          else some { bridge with phase := .stopped }
      | _ => none

/-- The loop has ended, or it waits for bytes that have not come. -/
def Done (bridge : Bridge) : Prop :=
  bridge.phase = .stopped ∨ bridge.wire = [] ∧ 0 < bridge.phase.wanted

end Bridge

/-! ## The receiving end on an arbitrary stream -/

namespace Action

/-- The action is one of the receiving end. -/
def receives : Action -> Bool
  | .recv => true
  | .read _ => true
  | .eof => true
  | _ => false

end Action

namespace Pipe

/-- The given bytes arrive, from wherever they come. -/
def arriving (stream : List UInt8) (ended : Bool) : Pipe :=
  { start with wire := stream, closed := ended }

/-- All bytes were read, or a call has failed. -/
def Done (pipe : Pipe) : Prop :=
  pipe.wire = [] ∨ exists error, .error error ∈ pipe.results

/-- The datagrams that were returned before the first error. -/
def beforeError : List RecvResult -> List Datagram
  | .ok datagram :: rest => datagram :: beforeError rest
  | _ => []

theorem beforeError_oks (datagrams : List Datagram) (rest : List RecvResult) :
    beforeError (datagrams.map .ok ++ rest) = datagrams ++ beforeError rest := by
  induction datagrams with
  | nil => rfl
  | cons datagram datagrams inductionHypothesis =>
      change datagram :: beforeError (datagrams.map .ok ++ rest) = _
      rw [inductionHypothesis, List.cons_append]

/-- How far the receiving end has come with the stream. -/
inductive Extracted (stream : List UInt8) (pipe : Pipe) : Prop where
  | reading (datagrams : List Datagram) (within : Within maxDatagram datagrams)
      (results : pipe.results = datagrams.map .ok) (proper : pipe.reader.Proper)
      (bytes : stream = frames datagrams ++ (pipe.reader.held ++ pipe.wire))
  | failed (datagrams : List Datagram) (error : SubstrateError) (later : List RecvResult)
      (tail : List UInt8) (within : Within maxDatagram datagrams)
      (results : pipe.results = datagrams.map .ok ++ .error error :: later)
      (bytes : stream = frames datagrams ++ tail) (stuck : Stuck maxDatagram tail)

/-- Later results do not change what came before the first error. -/
theorem Extracted.later {stream : List UInt8} {pipe next : Pipe} {datagrams : List Datagram}
    {error : SubstrateError} {later more : List RecvResult} {tail : List UInt8}
    (within : Within maxDatagram datagrams)
    (results : pipe.results = datagrams.map .ok ++ .error error :: later)
    (bytes : stream = frames datagrams ++ tail) (stuck : Stuck maxDatagram tail)
    (grown : next.results = pipe.results ++ more) : Extracted stream next := by
  refine .failed datagrams error (later ++ more) tail within ?_ bytes stuck
  rw [grown, results, List.append_assoc, List.cons_append]

theorem Extracted.read {stream : List UInt8} {pipe : Pipe} (extracted : Extracted stream pipe)
    {size : Nat} (some : 0 < size) (available : size <= pipe.wire.length)
    (wanted : size <= pipe.reader.wanted) : Extracted stream (pipe.read size) := by
  cases extracted with
  | failed datagrams error later tail within results bytes stuck =>
      exact Extracted.later within results bytes stuck rfl
  | reading datagrams within results proper bytes =>
      have taken : (pipe.wire.take size).length = size := by
        rw [List.length_take]
        omega
      have outcome := proper.read (taken.symm ▸ some) (Nat.le_trans (Nat.le_of_eq taken) wanted)
      have split : stream =
          frames datagrams ++ (pipe.reader.held ++ pipe.wire.take size ++ pipe.wire.drop size) := by
        rw [bytes, List.append_assoc, List.take_append_drop]
      unfold Pipe.read
      generalize pipe.reader.read (pipe.wire.take size) = answer at outcome
      cases outcome with
      | gathered after proper held =>
          refine .reading datagrams within ((List.append_nil _).trans results) proper ?_
          rw [split, held]
      | completed datagram fits frame =>
          refine .reading (datagrams ++ [datagram]) (within.concat fits) ?_ trivial ?_
          · change pipe.results ++ [.ok datagram] = _
            rw [results, List.map_append]
            rfl
          · rw [split, frame, frames_concat]
            simp only [Reader.held, List.append_assoc, List.nil_append]
      | malformed four large =>
          refine .failed datagrams .malformed [] _ within ?_ split (.inr (.inl ?_))
          · change pipe.results ++ [.error .malformed] = _
            rw [results]
          · rw [List.take_left' four]
            exact large

theorem Extracted.moved {stream : List UInt8} {pipe next : Pipe} {action : Action}
    (extracted : Extracted stream pipe) (receives : action.receives = true)
    (moved : Moved pipe action next) : Extracted stream next := by
  cases moved with
  | entered idle =>
      cases extracted with
      | failed datagrams error later tail within results bytes stuck =>
          exact .failed datagrams error later tail within results bytes stuck
      | reading datagrams within results proper bytes =>
          rw [idle] at bytes
          exact .reading datagrams within results (Nat.zero_lt_succ _) bytes
  | received size some available wanted => exact extracted.read some available wanted
  | ended closed drained =>
      cases extracted with
      | failed datagrams error later tail within results bytes stuck =>
          exact Extracted.later within results bytes stuck rfl
      | reading datagrams within results proper bytes =>
          rw [drained, List.append_nil] at bytes
          refine .failed datagrams .closed [] pipe.reader.held within ?_ bytes proper.stuck
          change pipe.results ++ [.error .closed] = _
          rw [results]
  | _ => cases receives

theorem extracted_of_run {stream : List UInt8} {ended : Bool} {schedule : List Action} {pipe : Pipe}
    (receives : forall action, action ∈ schedule -> action.receives = true)
    (ran : run Pipe.step (arriving stream ended) schedule = some pipe) :
    Extracted stream pipe := by
  refine invariant_of_schedule (Extracted stream) ?_ ?_ ran
  · intro state action next member extracted stepped
    exact extracted.moved (receives action member) (moved_of_step stepped)
  · refine .reading [] ?_ rfl trivial rfl
    intro datagram member
    cases member

/-- A finished receiving end has taken all frames off the stream. -/
theorem Extracted.finished {stream : List UInt8} {pipe : Pipe} (extracted : Extracted stream pipe)
    (done : pipe.Done) :
    exists tail, stream = frames (beforeError pipe.results) ++ tail ∧
      Within maxDatagram (beforeError pipe.results) ∧ Stuck maxDatagram tail := by
  cases extracted with
  | failed datagrams error later tail within results bytes stuck =>
      have before : beforeError pipe.results = datagrams := by
        rw [results, beforeError_oks]
        exact List.append_nil _
      exact ⟨tail, before.symm ▸ bytes, before.symm ▸ within, stuck⟩
  | reading datagrams within results proper bytes =>
      have before : beforeError pipe.results = datagrams := by
        rw [results]
        simpa only [List.append_nil, beforeError] using beforeError_oks datagrams []
      have drained : pipe.wire = [] := by
        rcases done with drained | ⟨error, failed⟩
        · exact drained
        · rw [results] at failed
          rcases List.mem_map.mp failed with ⟨datagram, _, same⟩
          cases same
      rw [drained, List.append_nil] at bytes
      exact ⟨pipe.reader.held, before.symm ▸ bytes, before.symm ▸ within, proper.stuck⟩

theorem progress {stream : List UInt8} {pipe : Pipe} (extracted : Extracted stream pipe)
    (unfinished : ¬ pipe.Done) :
    exists action next, action.receives = true ∧ pipe.step action = some next := by
  have bytes : pipe.wire ≠ [] := fun drained => unfinished (.inl drained)
  cases extracted with
  | failed datagrams error later tail within results _ stuck =>
      refine absurd (.inr ⟨error, ?_⟩) unfinished
      rw [results]
      exact List.mem_append_right _ List.mem_cons_self
  | reading datagrams within results proper _ =>
      rcases receive_progress proper bytes with ⟨action, next, receives, stepped⟩
      refine ⟨action, next, ?_, stepped⟩
      rcases receives with same | same <;> rw [same] <;> rfl

/-- Results are only added. -/
theorem Moved.results_begin {pipe next : Pipe} {action : Action}
    (moved : Moved pipe action next) : pipe.results <+: next.results := by
  cases moved with
  | received size some available wanted => exact List.prefix_append _ _
  | ended closed drained => exact List.prefix_append _ _
  | _ => exact List.prefix_rfl

/-- A receiving end that has not finished has not seen the end of the stream. -/
theorem eof_not_mem {start pipe : Pipe} {schedule : List Action}
    (ran : run Pipe.step start schedule = some pipe) (unfinished : ¬ pipe.Done) :
    .eof ∉ schedule := by
  intro member
  rcases List.append_of_mem member with ⟨before, after, split⟩
  rw [split] at ran
  rcases run_append_eq_some.mp ran with ⟨state, _, ranRest⟩
  rcases run_cons.mp ranRest with ⟨failed, stepped, ranAfter⟩
  have error : .error .closed ∈ failed.results := by
    cases moved_of_step stepped with
    | ended closed drained => exact List.mem_append_right _ List.mem_cons_self
  have kept : failed.results <+: pipe.results := by
    refine invariant (fun later => failed.results <+: later.results) ?_ List.prefix_rfl ranAfter
    intro state action next known stepped
    exact known.trans (moved_of_step stepped).results_begin
  exact unfinished (.inr ⟨_, kept.subset error⟩)

/-- A receiving end finishes within two moves for each byte and one more. -/
theorem length_of_unfinished {stream : List UInt8} {ended : Bool} {schedule : List Action}
    {pipe : Pipe} (receives : forall action, action ∈ schedule -> action.receives = true)
    (ran : run Pipe.step (arriving stream ended) schedule = some pipe)
    (unfinished : ¬ pipe.Done) : schedule.length <= 2 * stream.length + 1 := by
  have lowered : forall state action next, action ∈ schedule ->
      Pipe.step state action = some next -> next.pending < state.pending := by
    intro state action next member stepped
    apply (moved_of_step stepped).pending_lt
    have received := receives action member
    cases action with
    | recv => rfl
    | read size => rfl
    | eof => exact absurd member (eof_not_mem ran unfinished)
    | _ => cases received
  have bound := length_of_run pending lowered ran
  have initially : (arriving stream ended).pending = 2 * stream.length + 1 := by
    simp only [pending, arriving, start, Writer.left, Writer.turn, Reader.unentered,
      List.flatten_nil, List.length_nil]
    omega
  omega

end Pipe

/-! ## The bridge on an arbitrary stream -/

namespace BridgePhase

/-- The bytes that the loop has gathered and not injected. -/
def held : BridgePhase -> List UInt8
  | .header got => got
  | .payload size got => be32 size ++ got
  | .sending buffer => be32 buffer.length ++ buffer
  | .stopped => []

def Proper : BridgePhase -> Prop
  | .header got => got.length < 4
  | .payload size got => size <= maxDatagram ∧ got.length < size
  | .sending buffer => buffer.length <= maxDatagram ∧ buffer ≠ []
  | .stopped => True

/-- How many moves the loop has left at most before it reads again or ends. -/
def turns : BridgePhase -> Nat
  | .sending _ => 2
  | .stopped => 0
  | _ => 1

theorem turns_le (phase : BridgePhase) : phase.turns <= 2 := by
  cases phase <;> simp only [turns] <;> omega

theorem turns_of_wanted {phase : BridgePhase} (wanted : 0 < phase.wanted) : phase.turns = 1 := by
  cases phase with
  | header got => rfl
  | payload size got => rfl
  | sending buffer => exact absurd wanted (Nat.lt_irrefl 0)
  | stopped => exact absurd wanted (Nat.lt_irrefl 0)

theorem Proper.stuck {phase : BridgePhase} (proper : phase.Proper) (reading : 0 < phase.wanted) :
    Stuck maxDatagram phase.held := by
  cases phase with
  | header got =>
      have same : (Reader.header got).Proper := proper
      exact same.stuck
  | payload size got =>
      have same : (Reader.payload size got).Proper := proper
      exact same.stuck
  | sending buffer => exact absurd reading (Nat.lt_irrefl 0)
  | stopped => exact absurd reading (Nat.lt_irrefl 0)

/-- What one read does: it gathers the bytes, or completes a length on which the
loop ends. -/
theorem Proper.read {phase : BridgePhase} (proper : phase.Proper) {chunk : List UInt8}
    (some : 0 < chunk.length) (fits : chunk.length <= phase.wanted) :
    (phase.read chunk).Proper ∧ phase.read chunk ≠ .stopped ∧
        (phase.read chunk).held = phase.held ++ chunk ∨
      phase.read chunk = .stopped ∧ (phase.held ++ chunk).length = 4 ∧
        (ofBe (phase.held ++ chunk) = 0 ∨ maxDatagram < ofBe (phase.held ++ chunk)) := by
  cases phase with
  | header got =>
      have short : got.length < 4 := proper
      have room : chunk.length <= 4 - got.length := fits
      simp only [BridgePhase.read]
      split
      · rename_i four
        unfold ofHeader
        split
        · rename_i absurdLength
          exact .inr ⟨rfl, four, absurdLength⟩
        · rename_i sane
          rw [not_or, Nat.not_lt] at sane
          refine .inl ⟨⟨sane.2, Nat.pos_of_ne_zero sane.1⟩, BridgePhase.noConfusion, ?_⟩
          exact (List.append_nil _).trans (be32_ofBe four)
      · rename_i less
        rw [List.length_append] at less
        refine .inl ⟨?_, BridgePhase.noConfusion, rfl⟩
        change (got ++ chunk).length < 4
        rw [List.length_append]
        omega
  | payload size got =>
      have short : got.length < size := proper.2
      have room : chunk.length <= size - got.length := fits
      left
      simp only [BridgePhase.read]
      split
      · rename_i full
        refine ⟨⟨Nat.le_trans (Nat.le_of_eq full) proper.1, ?_⟩, BridgePhase.noConfusion, ?_⟩
        · intro empty
          rw [empty, List.length_nil] at full
          omega
        · rw [held, held, full, List.append_assoc]
      · rename_i less
        rw [List.length_append] at less
        refine ⟨⟨proper.1, ?_⟩, BridgePhase.noConfusion, (List.append_assoc _ _ _).symm⟩
        rw [List.length_append]
        omega
  | sending buffer => exact absurd (Nat.lt_of_lt_of_le some fits) (Nat.lt_irrefl 0)
  | stopped => exact absurd (Nat.lt_of_lt_of_le some fits) (Nat.lt_irrefl 0)

end BridgePhase

namespace Bridge

/-- The bytes begin with a length on which the loop ends. -/
def AbsurdHead (bytes : List UInt8) : Prop :=
  4 <= bytes.length ∧ (ofBe (bytes.take 4) = 0 ∨ maxDatagram < ofBe (bytes.take 4))

/-- How far the bridge has come with the stream. -/
structure Extracted (stream : List UInt8) (ended : Bool) (bridge : Bridge) : Prop where
  within : Within maxDatagram bridge.injected
  nonempty : [] ∉ bridge.injected
  proper : bridge.phase.Proper
  same : bridge.ended = ended
  running : bridge.phase ≠ .stopped ->
    stream = frames bridge.injected ++ (bridge.phase.held ++ bridge.wire)
  stopped : bridge.phase = .stopped -> exists tail, stream = frames bridge.injected ++ tail ∧
    (ended = true ∧ Stuck maxDatagram tail ∨ AbsurdHead tail)

theorem Extracted.step {stream : List UInt8} {ended : Bool} {bridge next : Bridge}
    {move : BridgeMove} (extracted : Extracted stream ended bridge) (accepted : move ≠ .send false)
    (moved : bridge.step move = some next) : Extracted stream ended next := by
  cases move with
  | read size =>
      simp only [Bridge.step, Option.ite_none_right_eq_some, Option.some.injEq] at moved
      rcases moved with ⟨⟨some, available, wanted⟩, moved⟩
      subst moved
      have taken : (bridge.wire.take size).length = size := by
        rw [List.length_take]
        omega
      have outcome := extracted.proper.read (taken.symm ▸ some)
        (Nat.le_trans (Nat.le_of_eq taken) wanted)
      have running : bridge.phase ≠ .stopped := by
        intro stopped
        rw [stopped] at wanted
        exact absurd (Nat.lt_of_lt_of_le some wanted) (Nat.lt_irrefl 0)
      have split : stream = frames bridge.injected ++
          (bridge.phase.held ++ bridge.wire.take size ++ bridge.wire.drop size) := by
        rw [List.append_assoc (bridge.phase.held), List.take_append_drop]
        exact extracted.running running
      rcases outcome with ⟨proper, still, held⟩ | ⟨stopped, four, absurdLength⟩
      · refine ⟨extracted.within, extracted.nonempty, proper, extracted.same, ?_, ?_⟩
        · intro _
          rw [split, ← held]
        · exact fun stopped => absurd stopped still
      · refine ⟨extracted.within, extracted.nonempty, ?_, extracted.same, ?_, ?_⟩
        · rw [stopped]
          trivial
        · exact fun still => absurd stopped still
        · intro _
          refine ⟨_, split, .inr ⟨?_, ?_⟩⟩
          · rw [List.length_append, four]
            exact Nat.le_add_right _ _
          · rw [List.take_left' four]
            exact absurdLength
  | eof =>
      simp only [Bridge.step, Option.ite_none_right_eq_some, Option.some.injEq] at moved
      rcases moved with ⟨⟨closed, drained, wanted⟩, moved⟩
      subst moved
      have running : bridge.phase ≠ .stopped := by
        intro stopped
        rw [stopped] at wanted
        exact absurd wanted (Nat.lt_irrefl 0)
      have bytes := extracted.running running
      rw [drained, List.append_nil] at bytes
      refine ⟨extracted.within, extracted.nonempty, trivial, extracted.same,
        fun still => absurd rfl still, fun _ => ⟨_, bytes, .inl ⟨?_, ?_⟩⟩⟩
      · exact extracted.same.symm.trans closed
      · exact extracted.proper.stuck wanted
  | send took =>
      cases took with
      | false => exact absurd rfl accepted
      | true =>
          simp only [Bridge.step] at moved
          split at moved
          · rename_i buffer sending
            cases moved
            have proper := extracted.proper
            have bytes := extracted.running (by rw [sending]; exact BridgePhase.noConfusion)
            rw [sending] at proper bytes
            refine ⟨extracted.within.concat proper.1, ?_, Nat.zero_lt_succ _, extracted.same,
              fun _ => ?_, fun stopped => BridgePhase.noConfusion stopped⟩
            · intro member
              rcases List.mem_append.mp member with old | new
              · exact extracted.nonempty old
              · exact proper.2 (List.mem_singleton.mp new).symm
            · rw [bytes, frames_concat]
              simp only [BridgePhase.held, List.append_assoc, List.nil_append]
          · cases moved

theorem extracted_of_run {stream : List UInt8} {ended : Bool} {schedule : List BridgeMove}
    {bridge : Bridge} (accepted : .send false ∉ schedule)
    (ran : run Bridge.step (start stream ended) schedule = some bridge) :
    Extracted stream ended bridge := by
  refine invariant_of_schedule (Extracted stream ended) ?_ ?_ ran
  · intro state move next member extracted stepped
    refine extracted.step ?_ stepped
    intro refused
    exact accepted (refused ▸ member)
  · refine ⟨?_, List.not_mem_nil, Nat.zero_lt_succ _, rfl, fun _ => rfl, ?_⟩
    · intro datagram member
      cases member
    · intro stopped
      cases stopped

theorem progress {stream : List UInt8} {ended : Bool} {bridge : Bridge}
    (extracted : Extracted stream ended bridge) (unfinished : ¬ bridge.Done) :
    exists move next, move ≠ .send false ∧ bridge.step move = some next := by
  have reads : 0 < bridge.phase.wanted ->
      exists move next, move ≠ .send false ∧ bridge.step move = some next := by
    intro wanted
    have bytes : bridge.wire ≠ [] := fun drained => unfinished (.inr ⟨drained, wanted⟩)
    have available : 1 <= bridge.wire.length := List.length_pos_of_ne_nil bytes
    exact ⟨.read 1, _, BridgeMove.noConfusion,
      if_pos ⟨Nat.zero_lt_one, available, wanted⟩⟩
  have proper := extracted.proper
  cases phase : bridge.phase with
  | header got =>
      rw [phase] at reads proper
      exact reads (Nat.sub_pos_of_lt proper)
  | payload size got =>
      rw [phase] at reads proper
      exact reads (Nat.sub_pos_of_lt proper.2)
  | sending buffer =>
      refine ⟨.send true,
        { bridge with phase := .header [], injected := bridge.injected ++ [buffer] }, ?_, ?_⟩
      · intro same
        cases same
      · simp only [Bridge.step, phase, if_true]
  | stopped => exact absurd (.inl phase) unfinished

/-- How many moves of the loop are left at most. -/
def pending (bridge : Bridge) : Nat :=
  2 * bridge.wire.length + bridge.phase.turns

theorem pending_lt {bridge next : Bridge} {move : BridgeMove}
    (moved : bridge.step move = some next) : next.pending < bridge.pending := by
  cases move with
  | read size =>
      simp only [Bridge.step, Option.ite_none_right_eq_some, Option.some.injEq] at moved
      rcases moved with ⟨⟨some, available, wanted⟩, moved⟩
      subst moved
      have before := BridgePhase.turns_of_wanted (Nat.lt_of_lt_of_le some wanted)
      have after := BridgePhase.turns_le (bridge.phase.read (bridge.wire.take size))
      simp only [pending, List.length_drop, before]
      omega
  | eof =>
      simp only [Bridge.step, Option.ite_none_right_eq_some, Option.some.injEq] at moved
      rcases moved with ⟨⟨_, _, wanted⟩, moved⟩
      subst moved
      have before := BridgePhase.turns_of_wanted wanted
      simp only [pending, before]
      exact Nat.lt_succ_self _
  | send took =>
      simp only [Bridge.step] at moved
      split at moved
      · rename_i buffer sending
        cases took <;> cases moved <;> simp only [pending, sending, BridgePhase.turns] <;> omega
      · cases moved

theorem length_of_schedule {stream : List UInt8} {ended : Bool} {schedule : List BridgeMove}
    {bridge : Bridge} (ran : run Bridge.step (start stream ended) schedule = some bridge) :
    schedule.length <= 2 * stream.length + 1 := by
  have bound := length_of_run pending (fun _ _ _ _ stepped => pending_lt stepped) ran
  have initially : (start stream ended).pending = 2 * stream.length + 1 := rfl
  omega

/-- A head that is absurd but not too large is a length of zero. -/
theorem AbsurdHead.zero {tail : List UInt8} (head : AbsurdHead tail) :
    Stuck maxDatagram tail ∨ exists rest, tail = be32 0 ++ rest := by
  rcases head with ⟨four, zero | large⟩
  · right
    have taken : (tail.take 4).length = 4 := by
      rw [List.length_take]
      omega
    refine ⟨tail.drop 4, ?_⟩
    rw [← zero, be32_ofBe taken, List.take_append_drop]
  · exact .inl (.inr (.inl large))

/-- A finished bridge has taken all frames off the stream, or has stopped at a
length of zero. -/
theorem Extracted.finished {stream : List UInt8} {ended : Bool} {bridge : Bridge}
    (extracted : Extracted stream ended bridge) (done : bridge.Done) :
    exists tail, stream = frames bridge.injected ++ tail ∧
      (Stuck maxDatagram tail ∧ (bridge.phase = .stopped -> ended = true ∨ tail ≠ []) ∨
        bridge.phase = .stopped ∧ exists rest, tail = be32 0 ++ rest) := by
  by_cases stopped : bridge.phase = .stopped
  · rcases extracted.stopped stopped with ⟨tail, bytes, ⟨closed, stuck⟩ | head⟩
    · exact ⟨tail, bytes, .inl ⟨stuck, fun _ => .inl closed⟩⟩
    · rcases head.zero with stuck | zero
      · refine ⟨tail, bytes, .inl ⟨stuck, fun _ => .inr ?_⟩⟩
        intro empty
        rw [empty] at head
        exact absurd head.1 (by decide)
      · exact ⟨tail, bytes, .inr ⟨stopped, zero⟩⟩
  · have bytes := extracted.running stopped
    rcases done with halted | ⟨drained, wanted⟩
    · exact absurd halted stopped
    · rw [drained, List.append_nil] at bytes
      exact ⟨_, bytes, .inl ⟨extracted.proper.stuck wanted, fun halted => absurd halted stopped⟩⟩

end Bridge

/-! ## Where the two agree -/

/-- A length of zero stands where the stream has a frame to begin, behind frames
that are not empty. -/
def ZeroLength (stream : List UInt8) : Prop :=
  exists datagrams rest, Within maxDatagram datagrams ∧ [] ∉ datagrams ∧
    stream = frames datagrams ++ (be32 0 ++ rest)

theorem not_stuck_zero (rest : List UInt8) : ¬ Stuck maxDatagram (be32 0 ++ rest) := by
  have empty : ([] : List UInt8).length <= maxDatagram := Nat.zero_le _
  exact not_stuck_frame maxDatagram_small empty rest

/-- Before a stuck rest, a length of zero is that of an empty datagram. -/
theorem mem_of_zeroLength {datagrams : List Datagram} {tail : List UInt8}
    (within : Within maxDatagram datagrams) (stuck : Stuck maxDatagram tail)
    (zero : ZeroLength (frames datagrams ++ tail)) : [] ∈ datagrams := by
  rcases zero with ⟨before, rest, beforeWithin, _, same⟩
  have split : frames datagrams ++ tail = frames (before ++ [[]]) ++ rest := by
    rw [same, frames_concat]
    simp only [List.length_nil, List.append_nil, List.append_assoc]
  rcases prefix_of_stuck maxDatagram_small within (beforeWithin.concat (Nat.zero_le _)) stuck
    split with ⟨more, extended, _⟩
  rw [extended]
  exact List.mem_append_left _ (List.mem_append_right _ List.mem_cons_self)

theorem stuck_nil : Stuck maxDatagram [] :=
  .inl (Nat.zero_lt_succ _)

/-- Two decompositions of a stream, both with a stuck rest, have the same
datagrams. -/
theorem eq_of_stuck {first second : List Datagram} {firstTail secondTail : List UInt8}
    (firstWithin : Within maxDatagram first) (secondWithin : Within maxDatagram second)
    (firstStuck : Stuck maxDatagram firstTail) (secondStuck : Stuck maxDatagram secondTail)
    (same : frames first ++ firstTail = frames second ++ secondTail) : first = second := by
  rcases prefix_of_stuck maxDatagram_small firstWithin secondWithin firstStuck same with
    ⟨more, extended, tail⟩
  cases more with
  | nil => rw [extended, List.append_nil]
  | cons datagram more =>
      have fits : datagram.length <= maxDatagram := by
        apply firstWithin datagram
        rw [extended]
        exact List.mem_append_right _ List.mem_cons_self
      rw [tail, frames_cons, List.append_assoc, List.append_assoc] at secondStuck
      exact absurd secondStuck (not_stuck_frame maxDatagram_small fits _)

/-- What a finished bridge has injected, compared with any decomposition whose
rest is stuck: it is all of it exactly when there is no length of zero. -/
theorem Bridge.Extracted.injected_iff {stream : List UInt8} {ended : Bool} {bridge : Bridge}
    (extracted : Bridge.Extracted stream ended bridge) (done : bridge.Done)
    {datagrams : List Datagram} {tail : List UInt8} (within : Within maxDatagram datagrams)
    (stuck : Stuck maxDatagram tail) (bytes : stream = frames datagrams ++ tail) :
    bridge.injected = datagrams <-> ¬ ZeroLength stream := by
  rcases extracted.finished done with ⟨rest, injected, ⟨blocked, _⟩ | ⟨_, later, zero⟩⟩
  · have same := eq_of_stuck extracted.within within blocked stuck (injected.symm.trans bytes)
    apply iff_of_true same
    rw [injected]
    exact fun zero => extracted.nonempty (mem_of_zeroLength extracted.within blocked zero)
  · refine iff_of_false ?_ (fun clear => clear ?_)
    · intro same
      rw [same, zero] at injected
      have tails := List.append_cancel_left (bytes.symm.trans injected)
      rw [tails] at stuck
      exact not_stuck_zero later stuck
    · exact ⟨bridge.injected, later, extracted.within, extracted.nonempty, zero ▸ injected⟩

/-- Frames of a list have a length of zero where the list has an empty
datagram. -/
theorem zeroLength_frames {datagrams : List Datagram} (within : Within maxDatagram datagrams) :
    ZeroLength (frames datagrams) <-> [] ∈ datagrams := by
  constructor
  · intro zero
    rw [← List.append_nil (frames datagrams)] at zero
    exact mem_of_zeroLength within stuck_nil zero
  · intro member
    rcases List.eq_append_cons_of_mem member with ⟨before, after, split, earlier⟩
    refine ⟨before, frames after, ?_, earlier, ?_⟩
    · intro datagram listed
      apply within datagram
      rw [split]
      exact List.mem_append_left _ listed
    · rw [split, frames_append, frames_cons]
      rfl

/-- On which streams the bridge and the receiving end of a `StreamDatagram`
agree, whatever reads the stream is split into and provided that the local
socket takes each datagram.  Both go on until they have finished, which takes at
most two moves for each byte and one more.  Then the bridge has injected what
the receiving end has returned before its first error if and only if no length
of zero stands where a frame begins; and of a list of datagrams that a client
sends, all are injected, and the connection stays, if and only if none of them
is empty. -/
theorem bridge_agrees_iff (stream : List UInt8) (ended : Bool)
    (receiverSchedule : List Action) (bridgeSchedule : List BridgeMove) (pipe : Pipe)
    (bridge : Bridge)
    (receives : forall action, action ∈ receiverSchedule -> action.receives = true)
    (accepted : .send false ∉ bridgeSchedule)
    (ranReceiver : run Pipe.step (Pipe.arriving stream ended) receiverSchedule = some pipe)
    (ranBridge : run Bridge.step (Bridge.start stream ended) bridgeSchedule = some bridge) :
    (¬ pipe.Done -> receiverSchedule.length <= 2 * stream.length + 1 ∧
      exists action next, action.receives = true ∧ pipe.step action = some next) ∧
    (¬ bridge.Done -> bridgeSchedule.length <= 2 * stream.length + 1 ∧
      exists move next, move ≠ .send false ∧ bridge.step move = some next) ∧
    (pipe.Done -> bridge.Done ->
      (bridge.injected = Pipe.beforeError pipe.results <-> ¬ ZeroLength stream)) ∧
    (bridge.Done -> forall datagrams, Within (2 ^ 20) datagrams -> stream = frames datagrams ->
      (bridge.injected = datagrams <-> [] ∉ datagrams) ∧
      (ended = false -> (bridge.phase ≠ .stopped <-> [] ∉ datagrams))) := by
  have received := Pipe.extracted_of_run receives ranReceiver
  have bridged := Bridge.extracted_of_run accepted ranBridge
  refine ⟨?_, ?_, ?_, ?_⟩
  · intro unfinished
    exact ⟨Pipe.length_of_unfinished receives ranReceiver unfinished,
      Pipe.progress received unfinished⟩
  · intro unfinished
    exact ⟨Bridge.length_of_schedule ranBridge, Bridge.progress bridged unfinished⟩
  · intro pipeDone bridgeDone
    rcases received.finished pipeDone with ⟨tail, bytes, within, stuck⟩
    exact bridged.injected_iff bridgeDone within stuck bytes
  · intro bridgeDone datagrams within sent
    have whole : stream = frames datagrams ++ [] := by rw [sent, List.append_nil]
    have injected := bridged.injected_iff bridgeDone within stuck_nil whole
    rw [sent, zeroLength_frames within] at injected
    refine ⟨injected, ?_⟩
    intro live
    rcases bridged.finished bridgeDone with
      ⟨rest, bytes, ⟨blocked, halted⟩ | ⟨stopped, later, zero⟩⟩
    · have same := eq_of_stuck bridged.within within blocked stuck_nil (bytes.symm.trans whole)
      refine iff_of_true ?_ (injected.mp same)
      intro stopped
      rw [same, sent] at bytes
      have empty := List.append_cancel_left ((List.append_nil _).trans bytes)
      rcases halted stopped with closed | some
      · cases closed.symm.trans live
      · exact some empty.symm
    · refine iff_of_false (fun still => still stopped) (fun clear => ?_)
      have same := injected.mpr clear
      rw [same, sent, zero] at bytes
      have empty := List.append_cancel_left ((List.append_nil _).trans bytes)
      cases empty

/-- A client sends one datagram of two bytes. -/
def oneDatagram : List UInt8 := frames [[7, 8]]

theorem bridge_agrees_iff_oneDatagram :
    exists pipe bridge,
      run Pipe.step (Pipe.arriving oneDatagram false) [.recv, .read 3, .read 1, .read 2] =
        some pipe ∧
      run Bridge.step (Bridge.start oneDatagram false) [.read 4, .read 1, .read 1, .send true] =
        some bridge ∧
      bridge.injected = Pipe.beforeError pipe.results ∧ bridge.phase ≠ .stopped := by
  have agrees := bridge_agrees_iff oneDatagram false [.recv, .read 3, .read 1, .read 2]
    [.read 4, .read 1, .read 1, .send true] _ _ (by decide) (by decide) rfl rfl
  have sent := agrees.2.2.2 (.inr ⟨rfl, by decide⟩) [[7, 8]] (by decide) rfl
  refine ⟨_, _, rfl, rfl, ?_, (sent.2 rfl).mpr (by decide)⟩
  exact sent.1.mpr (by decide)

/-- The front forwards an empty UDP datagram, and the client's `StreamDatagram`
frames it.  Another one returns it; the bridge injects nothing and ends the
connection, together with the datagram that follows. -/
theorem bridge_stops_at_empty :
    exists pipe bridge,
      run Pipe.step (Pipe.arriving (frames [[], [7]]) false)
        [.recv, .read 4, .recv, .read 4, .read 1] = some pipe ∧
      run Bridge.step (Bridge.start (frames [[], [7]]) false) [.read 4] = some bridge ∧
      pipe.Done ∧ bridge.Done ∧ Pipe.beforeError pipe.results = [[], [7]] ∧
      bridge.injected ≠ Pipe.beforeError pipe.results ∧ bridge.phase = .stopped :=
  ⟨_, _, rfl, rfl, .inl rfl, .inl rfl, rfl, by decide, rfl⟩

end Framing
end QuicMix
