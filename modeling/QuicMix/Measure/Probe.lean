import QuicMix.Ingress.Answers
import QuicMix.Measure.Report

namespace QuicMix
namespace Measure

open Foundations
open Gateway

/-!
# A whole measurement

The gateway reads the number that the probe asks for as it was meant, so a
measurement without a fault ends with all of the bytes, unless a bound on their
number or on the time ends it before.  Until it has ended something can be done that
is no fault, and only so much can be done.
-/

/-! ## The bytes of the probe -/

/-- The number in the request is the number that the gateway sends, up to its own
bound. -/
theorem probeAmount_toDigits {probeBytes : Nat} (fits : probeBytes < 2 ^ 64) :
    GatewayStream.probeAmount (Nat.toDigits 10 probeBytes) = min probeBytes measureMax := by
  have trimmed : Text.Trimmed (Nat.toDigits 10 probeBytes) :=
    ⟨Nat.toDigits_ne_nil,
      fun _ first => Text.isWhitespace_of_mem_toDigits (List.mem_of_head? first),
      fun _ last => Text.isWhitespace_of_mem_toDigits (List.mem_of_getLast? last)⟩
  have trim : Text.trim (Nat.toDigits 10 probeBytes) = Nat.toDigits 10 probeBytes := by
    have whole := trimmed.trim_append (List.forall_mem_nil _)
    rwa [List.append_nil] at whole
  rw [GatewayStream.probeAmount, trim, Text.parseU64_toDigits fits, Option.getD_some]

/-- Every setting asks for a number of bytes that a `u64` holds. -/
theorem probeSize_lt (setting : Option Text) : probeSize setting < 2 ^ 64 := by
  rw [probeSize]
  cases read : setting.bind Text.parseU64 with
  | none => decide
  | some number =>
      rcases Option.bind_eq_some_iff.mp read with ⟨text, _, parsed⟩
      exact Text.parseU64_lt parsed

theorem visible_toDigits (probeBytes : Nat) :
    exists char, char ∈ Nat.toDigits 10 probeBytes ∧ Text.isWhitespace char = false := by
  rcases List.exists_mem_of_ne_nil _ (@Nat.toDigits_ne_nil probeBytes 10) with ⟨char, member⟩
  exact ⟨char, member, Text.isWhitespace_of_mem_toDigits member⟩

namespace Measurement

variable {probeBytes : Nat} {intact : Bool} {measurement next : Measurement} {move : MeasureMove}

/-- The gateway's end of the probe, and what has been counted of it. -/
structure Fed (probeBytes : Nat) (intact : Bool) (measurement : Measurement) : Prop where
  probing : measurement.stream.Probing (Nat.toDigits 10 probeBytes) []
    (GatewayStream.probeAmount (Nat.toDigits 10 probeBytes)) intact
  received : measurement.bodyBytes <= measurement.stream.toClient.length

/-- The probe has come to its end, or to a bound. -/
def Exhausted (amount : Nat) (measurement : Measurement) : Prop :=
  measurement.bodyBytes = amount ∨ probeCapBytes <= measurement.bodyBytes ∨
    measurement.start + probeCapTime <= measurement.clock

theorem Fed.step (fed : Fed probeBytes intact measurement)
    (sound : intact = true -> move.fault = false) (moved : Moved measurement move next) :
    Fed probeBytes intact next := by
  cases moved with
  | gatewayMoved move stream opened stepped =>
      refine ⟨fed.probing.step (visible_toDigits probeBytes)
        (Text.newline_not_mem_toDigits probeBytes) sound
        (GatewayStream.moved_of_step stepped), ?_⟩
      exact Nat.le_trans fed.received (Ingress.Connect.appends_of_step stepped).1.length_le
  | counted count since first phase positive fits sent first_eq =>
      rw [nextRound_eq]
      exact ⟨fed.probing, sent⟩
  | taken count since first phase positive fits sent first_eq settled due =>
      exact ⟨fed.probing, sent⟩
  | sampleSent sample phase =>
      rw [nextRound_eq]
      exact ⟨fed.probing, fed.received⟩
  | _ => exact ⟨fed.probing, fed.received⟩

/-- At the end of the stream of a probe without a fault there is all of it. -/
theorem Fed.whole (fed : Fed probeBytes true measurement)
    (answered : Ingress.answered measurement.stream = true)
    (whole : measurement.bodyBytes = measurement.stream.toClient.length) :
    measurement.bodyBytes = GatewayStream.probeAmount (Nat.toDigits 10 probeBytes) := by
  have probing := fed.probing
  unfold GatewayStream.Probing at probing
  unfold Ingress.answered at answered
  split at answered
  · rename_i phase
    rw [phase] at probing
    exact probing.elim
  · rename_i phase
    rw [phase] at probing
    rw [whole, probing.2.2 rfl, List.length_replicate]
  · cases answered

/-- Where a measurement without a fault has left the loop, it had reason to. -/
def Finished (probeBytes : Nat) (measurement : Measurement) : Prop :=
  measurement.phase = .done ∨ measurement.phase = .closing ∨ measurement.phase = .closed ->
    measurement.Exhausted (GatewayStream.probeAmount (Nat.toDigits 10 probeBytes))

theorem Finished.nextRound : Finished probeBytes measurement.nextRound := by
  intro ending
  rcases nextRound_phase measurement with ⟨_, bound⟩ | ⟨reading, _⟩
  · rw [nextRound_eq]
    exact .inr bound
  · rw [reading] at ending
    rcases ending with ending | ending | ending <;> cases ending

theorem Finished.step (finished : Finished probeBytes measurement)
    (fed : Fed probeBytes true measurement) (told : Told true measurement)
    (sound : move.fault = false) (moved : Moved measurement move next) :
    Finished probeBytes next := by
  cases moved with
  | elapsed duration =>
      intro ending
      rcases finished ending with whole | bytes | time
      · exact .inl whole
      · exact .inr (.inl bytes)
      · exact .inr (.inr (Nat.le_trans time (Nat.le_add_right _ _)))
  | gatewayMoved move stream opened stepped => exact finished
  | counted count since first phase positive fits sent first_eq => exact Finished.nextRound
  | sampleSent sample phase => exact Finished.nextRound
  | ended since phase answered whole => exact fun _ => .inl (fed.whole answered whole)
  | givenUp move since phase faulty => cases sound.symm.trans faulty
  | doneSent phase => exact fun _ => finished (.inl phase)
  | broke running => cases sound
  | errorSent phase =>
      rcases told with ⟨page, _, tells⟩
      rw [Tells, phase] at tells
      cases tells.1
  | errorLost phase => cases sound
  | closed succeeded phase => exact fun _ => finished (.inr (.inl phase))
  | advanced after phase =>
      intro ending
      simp only [List.mem_cons, Prod.mk.injEq, List.not_mem_nil, or_false] at phase
      rcases phase with ⟨_, rfl⟩ | ⟨_, rfl⟩ | ⟨_, rfl⟩ | ⟨_, rfl⟩ <;>
        rcases ending with ending | ending | ending <;> cases ending
  | announced frame after phase =>
      intro ending
      rcases phase with ⟨_, rfl, rfl⟩ | ⟨_, rfl, rfl⟩ | ⟨_, _, rfl, rfl⟩ <;>
        rcases ending with ending | ending | ending <;> cases ending
  | _ => rintro (ending | ending | ending) <;> cases ending

/-! ## Something can be done -/

/-- Where the gateway cannot go on, it has returned. -/
theorem Fed.answered (fed : Fed probeBytes intact measurement)
    (settled : measurement.stream.Settled) : Ingress.answered measurement.stream = true := by
  have probing := fed.probing
  unfold GatewayStream.Probing at probing
  split at probing
  · rename_i line phase
    exact absurd (settled.not_header phase) probing.1.unread_ne_nil
  · rename_i left phase
    exfalso
    by_cases more : 0 < left
    · have stuck := settled .writeChunk rfl
      simp only [GatewayStream.step, phase, more, if_true, reduceCtorEq] at stuck
    · have none : left = 0 := Nat.eq_zero_of_not_pos more
      have stuck := settled .finishMeasure rfl
      simp only [GatewayStream.step, phase, none, reduceCtorEq] at stuck
  · rename_i phase
    rw [Ingress.answered, phase]
  · exact probing.elim

/-- A move is open that is no fault. -/
def Unblocked (measurement : Measurement) : Prop :=
  exists move, move.carries = true ∧ move.fault = false ∧ (measurement.step move).isSome = true

/-- In the loop there are bytes to read, or the gateway can go on, or its stream has
ended. -/
theorem Fed.unblocked_reading (fed : Fed probeBytes intact measurement) {since : Instant}
    (phase : measurement.phase = .reading since) : measurement.Unblocked := by
  by_cases more : measurement.bodyBytes + 1 <= measurement.stream.toClient.length
  · refine ⟨.read 1, rfl, rfl, ?_⟩
    simp only [Measurement.step, read, phase]
    rw [if_pos ⟨Nat.one_pos, by decide, more⟩]
    split <;> rfl
  · by_cases settled : measurement.stream.Settled
    · have whole : measurement.bodyBytes = measurement.stream.toClient.length :=
        Nat.le_antisymm fed.received (Nat.le_of_not_lt more)
      refine ⟨.readEnd, rfl, rfl, ?_⟩
      simp only [Measurement.step, stop, phase, fed.answered settled, whole, BEq.rfl, Bool.and_self,
        if_true, Option.isSome_some]
    · unfold GatewayStream.Settled at settled
      push Not at settled
      rcases settled with ⟨move, carries, stepped⟩
      refine ⟨.gateway move, carries, ?_, ?_⟩
      · cases move with
        | connect succeeded =>
            cases succeeded with
            | true => rfl
            | false => cases carries
        | _ => first | rfl | cases carries
      · simp only [Measurement.step, phase, MeasurePhase.opened, if_true, Option.isSome_map]
        exact Option.isSome_iff_ne_none.mpr stepped

theorem Fed.unblocked (fed : Fed probeBytes intact measurement)
    (open_ : measurement.phase ≠ .closed) : measurement.Unblocked := by
  cases phase : measurement.phase with
  | reading since => exact fed.unblocked_reading phase
  | closed => exact absurd phase open_
  | fetch =>
      refine ⟨.fetched none, rfl, rfl, ?_⟩
      simp only [Measurement.step, Measurement.fetched, phase, Option.isSome_some]
  | _ =>
      refine ⟨.returns true, rfl, rfl, ?_⟩
      simp only [Measurement.step, succeeds, phase, Option.isSome_some]

end Measurement

/-! ## Only so much can be done -/

/-- The calls that are left, if the loop ends. -/
def MeasurePhase.weight : MeasurePhase -> Nat
  | .fetchCert => 14
  | .resolve => 13
  | .connect => 12
  | .connected => 11
  | .egress => 10
  | .fetch => 9
  | .page _ => 8
  | .openProbe => 7
  | .request => 6
  | .reading _ => 4
  | .sampling _ => 5
  | .done => 3
  | .failed => 2
  | .closing => 1
  | .closed => 0

namespace Measurement

variable {probeBytes : Nat} {measurement next : Measurement} {move : MeasureMove}

def potential (measurement : Measurement) : Nat :=
  measurement.phase.weight + 2 * (probeCapBytes + readSize - measurement.bodyBytes) +
    measurement.stream.potential

theorem weight_nextRound (measurement : Measurement) :
    measurement.nextRound.phase.weight <= 4 := by
  rcases nextRound_phase measurement with ⟨phase, _⟩ | ⟨phase, _⟩ <;>
    rw [phase] <;> exact Nat.le_of_ble_eq_true rfl

/-- A call returns and nothing else happens. -/
theorem potential_of_phase (bodyBytes : next.bodyBytes = measurement.bodyBytes)
    (stream : next.stream = measurement.stream)
    (less : next.phase.weight + 1 <= measurement.phase.weight) :
    next.potential + 1 <= measurement.potential := by
  rw [potential, potential, bodyBytes, stream]
  omega

/-- Bytes are read, after which a sample may have to be sent. -/
theorem potential_of_read {since : Instant} {count : Nat}
    (fewer : measurement.bodyBytes < probeCapBytes) (positive : 0 < count)
    (phase : measurement.phase = .reading since)
    (bodyBytes : next.bodyBytes = measurement.bodyBytes + count)
    (stream : next.stream = measurement.stream) (weight : next.phase.weight <= 5) :
    next.potential + 1 <= measurement.potential := by
  have here : measurement.phase.weight = 4 := by
    rw [phase]
    rfl
  rw [potential, potential, bodyBytes, stream, here]
  omega

/-- A call that may fail has more than the error behind it. -/
theorem weight_running {phase : MeasurePhase}
    (running : phase ≠ .failed ∧ phase ≠ .closing ∧ phase ≠ .closed) :
    MeasurePhase.failed.weight + 1 <= phase.weight := by
  rcases running with ⟨unfailed, unclosing, unclosed⟩
  cases phase with
  | failed => exact absurd rfl unfailed
  | closing => exact absurd rfl unclosing
  | closed => exact absurd rfl unclosed
  | _ => exact Nat.le_of_ble_eq_true rfl

theorem potential_moved (paced : Paced measurement) (moved : Moved measurement move next) :
    next.potential + (if move.carries then 1 else 0) <= measurement.potential := by
  cases moved with
  | elapsed duration => exact Nat.le_refl _
  | gatewayMoved move stream opened stepped =>
      have less := GatewayStream.potential_moved (GatewayStream.moved_of_step stepped)
      rw [potential, potential, Nat.add_assoc]
      exact Nat.add_le_add_left less _
  | counted count since first phase positive fits sent first_eq =>
      have fewer := (paced.reading since phase).2.2.2
      refine potential_of_read fewer positive phase ?_ ?_ (Nat.le_succ_of_le (weight_nextRound _))
      · rw [nextRound_eq]
      · rw [nextRound_eq]
  | taken count since first phase positive fits sent first_eq settled due =>
      have fewer := (paced.reading since phase).2.2.2
      exact potential_of_read fewer positive phase rfl rfl (Nat.le_refl 5)
  | sampleSent sample phase =>
      refine potential_of_phase ?_ ?_ ?_
      · rw [nextRound_eq]
        rfl
      · rw [nextRound_eq]
        rfl
      · rw [phase]
        exact Nat.succ_le_succ (weight_nextRound _)
  | advanced after phase =>
      simp only [List.mem_cons, Prod.mk.injEq, List.not_mem_nil, or_false] at phase
      rcases phase with ⟨phase, rfl⟩ | ⟨phase, rfl⟩ | ⟨phase, rfl⟩ | ⟨phase, rfl⟩ <;>
        refine potential_of_phase rfl rfl ?_ <;> rw [phase] <;> exact Nat.le_refl _
  | announced frame after phase =>
      rcases phase with ⟨phase, rfl, rfl⟩ | ⟨phase, rfl, rfl⟩ | ⟨fetched, phase, rfl, rfl⟩ <;>
        refine potential_of_phase rfl rfl ?_ <;> rw [phase] <;> exact Nat.le_refl _
  | givenUp move since phase faulty =>
      have less := @potential_of_phase measurement { measurement with phase := .done } rfl rfl
        (by rw [phase]; exact Nat.le_refl _)
      split
      · exact less
      · exact Nat.le_of_succ_le less
  | broke running =>
      exact potential_of_phase rfl rfl (weight_running running)
  | _ =>
      refine potential_of_phase rfl rfl ?_
      rw [‹measurement.phase = _›]
      exact Nat.le_of_ble_eq_true rfl

/-! ## Whole measurements -/

/-- What holds in every state of a measurement. -/
structure Sound (probeBytes : Nat) (intact : Bool) (measurement : Measurement) : Prop where
  told : Told intact measurement
  paced : Paced measurement
  fed : Fed probeBytes intact measurement
  finished : intact = true -> Finished probeBytes measurement

theorem sound_initial (probeBytes : Nat) (intact : Bool) (now : Instant) :
    Sound probeBytes intact (initial probeBytes now) where
  told := ⟨none, .inr ⟨rfl, rfl, rfl⟩, rfl, rfl⟩
  paced := by
    have within : 0 < probeCapBytes + readSize := by decide
    refine ⟨⟨.nil, List.forall_mem_nil _, ?_, Nat.zero_le _, Nat.le_refl _, within⟩, ?_, ?_⟩
    · exact Nat.le_of_eq (congrArg (now + ·) (Nat.zero_mul sampleEvery))
    · intro since reading
      cases reading
    · exact fun _ => ⟨rfl, rfl⟩
  fed := by
    refine ⟨?_, Nat.le_refl _⟩
    rw [initial, probeRequest, GatewayStream.clientStream_eq]
    exact ⟨GatewayStream.inLine_start [], rfl, rfl⟩
  finished := by
    rintro _ (ending | ending | ending) <;> cases ending

theorem Sound.step {intact : Bool} (kept : Sound probeBytes intact measurement)
    (sound : intact = true -> move.fault = false) (moved : Moved measurement move next) :
    Sound probeBytes intact next where
  told := kept.told.step sound moved
  paced := kept.paced.step moved
  fed := kept.fed.step sound moved
  finished := by
    intro whole
    subst whole
    exact (kept.finished rfl).step kept.fed kept.told (sound rfl) moved

theorem sound_of_run {intact : Bool} {now : Instant} {schedule : List MeasureMove}
    (sound : intact = true -> forall move, move ∈ schedule -> move.fault = false)
    (ran : run step (initial probeBytes now) schedule = some measurement) :
    Sound probeBytes intact measurement := by
  refine invariant_of_schedule (Sound probeBytes intact) ?_
    (sound_initial probeBytes intact now) ran
  intro state move next member kept stepped
  exact kept.step (fun whole => sound whole move member) (moved_of_step stepped)

/-- How often something can be done in a measurement. -/
def maxMoves (probeBytes : Nat) : Nat :=
  (initial probeBytes 0).potential

theorem carries_of_run {now : Instant} {schedule : List MeasureMove}
    (ran : run step (initial probeBytes now) schedule = some measurement) :
    schedule.countP MeasureMove.carries <= maxMoves probeBytes := by
  have kept := @invariant_of_history _ _ step
    (fun past state => Paced state ∧
      past.countP MeasureMove.carries + state.potential <= maxMoves probeBytes)
    (by
      rintro past state move next ⟨paced, bound⟩ stepped
      have moved := moved_of_step stepped
      have less := potential_moved paced moved
      refine ⟨paced.step moved, ?_⟩
      rw [List.countP_append, List.countP_singleton]
      omega)
    (initial probeBytes now) measurement [] schedule
    ⟨(sound_initial probeBytes false now).paced, Nat.le_of_eq (Nat.zero_add _)⟩ ran
  exact Nat.le_trans (Nat.le_add_right _ _) kept.2

/-- What a browser and the gateway see of a measurement. -/
structure Reported (probeBytes : Nat) (schedule : List MeasureMove) (measurement : Measurement) :
    Prop where
  /-- The frames come in their order, with an error in the place of what is missing. -/
  told : exists page, measurement.Shows page ∧
    (measurement.frames <+: report page measurement.samples ++
        [.done measurement.pageCode measurement.pageBytes measurement.bodyBytes] ∨
      exists part, part <+: report page measurement.samples ∧
        measurement.frames = part ++ [.error])
  apart : measurement.samples.Pairwise Apart
  fair : forall sample, sample ∈ measurement.samples -> measurement.Fair sample
  few : measurement.samples.length <= maxSamples
  /-- No more is counted than was asked for, and the loop stops soon behind its bound. -/
  bytes : measurement.bodyBytes <= min probeBytes measureMax ∧
    measurement.bodyBytes < probeCapBytes + readSize
  /-- The probe makes the gateway connect to nothing. -/
  undialed : measurement.stream.dialed = []
  /-- Long after the bound on the time a read can be given up. -/
  patient : forall since, measurement.phase = .reading since ->
    measurement.start + probeCapTime + readTimeout <= measurement.clock ->
    (measurement.step .readExpires).isSome = true
  unblocked : measurement.phase ≠ .closed -> measurement.Unblocked
  bounded : schedule.countP MeasureMove.carries <= maxMoves probeBytes
  /-- Without a fault the whole report is there at the end, and the probe is whole
  unless it met a bound. -/
  complete : (forall move, move ∈ schedule -> move.fault = false) ->
    measurement.phase = .closed -> exists page, measurement.Shows page ∧
      measurement.frames = report page measurement.samples ++
        [.done measurement.pageCode measurement.pageBytes measurement.bodyBytes] ∧
      measurement.Exhausted (min probeBytes measureMax)

theorem Told.reported {intact : Bool} (told : Told intact measurement) :
    exists page, measurement.Shows page ∧
      (measurement.frames <+: report page measurement.samples ++
          [.done measurement.pageCode measurement.pageBytes measurement.bodyBytes] ∨
        exists part, part <+: report page measurement.samples ∧
          measurement.frames = part ++ [.error]) := by
  rcases told with ⟨page, shows_, tells⟩
  refine ⟨page, shows_, ?_⟩
  have ended (ending : Ended intact page measurement) :
      measurement.frames <+: report page measurement.samples ++
          [.done measurement.pageCode measurement.pageBytes measurement.bodyBytes] ∨
        exists part, part <+: report page measurement.samples ∧
          measurement.frames = part ++ [.error] := by
    rcases ending with whole | ⟨_, part, begins, same | same⟩
    · exact .inl (whole ▸ List.prefix_refl _)
    · exact .inl (same ▸ begins.trans (List.prefix_append _ _))
    · exact .inr ⟨part, begins, same⟩
  by_cases closing : measurement.phase = .closing
  · rw [Tells, closing] at tells
    exact ended tells
  · by_cases closed : measurement.phase = .closed
    · rw [Tells, closed] at tells
      exact ended tells
    · exact .inl ((tells.begun ⟨closing, closed⟩).trans (List.prefix_append _ _))

/-- Whatever fails and however the two ends take turns, a measurement sends a
well-formed report of bytes that the gateway sent, and it comes to its end. -/
theorem measurement_reported (probeBytes : Nat) (now : Instant) (schedule : List MeasureMove)
    (measurement : Measurement) (fits : probeBytes < 2 ^ 64)
    (ran : run step (initial probeBytes now) schedule = some measurement) :
    Reported probeBytes schedule measurement := by
  have kept : Sound probeBytes false measurement := sound_of_run nofun ran
  have sublist := List.sublist_append_left measurement.samples measurement.pending
  have spaced : measurement.Spaced measurement.samples :=
    kept.paced.spaced.of_eq sublist rfl rfl rfl rfl (Nat.le_refl _)
  have within := kept.fed.probing.within
  rw [probeAmount_toDigits fits] at within
  refine ⟨kept.told.reported, spaced.apart, spaced.fair, spaced.few, ⟨?_, spaced.small⟩, within.1,
    ?_, kept.fed.unblocked, carries_of_run ran, ?_⟩
  · have sent := within.2.length_le
    rw [List.length_replicate] at sent
    exact Nat.le_trans kept.fed.received sent
  · intro since phase late
    rcases kept.paced.reading since phase with ⟨_, _, sooner, _⟩
    have expired : since + readTimeout <= measurement.clock :=
      Nat.le_trans (Nat.add_le_add_right (Nat.le_of_lt sooner) readTimeout) late
    simp only [step, stop, phase, decide_eq_true expired, if_true, Option.isSome_some]
  · intro faultless closed
    have whole : Sound probeBytes true measurement := sound_of_run (fun _ => faultless) ran
    rcases whole.told with ⟨page, shows_, tells⟩
    rw [Tells, closed] at tells
    have exhausted := whole.finished rfl (.inr (.inr closed))
    rw [probeAmount_toDigits fits] at exhausted
    rcases tells with same | ⟨broken, _⟩
    · exact ⟨page, shows_, same, exhausted⟩
    · cases broken

/-- A probe of three bytes with one sample on the way. -/
def measureSchedule : List MeasureMove :=
  [.returns true, .returns true, .returns true, .returns true, .returns true,
    .fetched (some (200, 12)), .returns true, .returns true, .returns true, .gateway (.fill 7),
    .gateway (.fill 4), .gateway .writeChunk, .read 1, .elapse 300000000, .read 1, .returns true,
    .gateway .finishMeasure, .read 1, .readEnd, .returns true, .returns true]

theorem measurement_reported_sampled :
    exists measurement : Measurement,
      run step (initial (probeSize (some ['3'])) 0) measureSchedule = some measurement ∧
      Reported (probeSize (some ['3'])) measureSchedule measurement ∧ measurement.frames =
        [.connected, .egress, .page (some (200, 12)), .sample ⟨2, 300000000, 0⟩,
          .done 200 12 3] := by
  refine ⟨_, rfl, measurement_reported (probeSize (some ['3'])) 0 measureSchedule _
    (probeSize_lt (some ['3'])) rfl, ?_⟩
  rfl

end Measurement
end Measure
end QuicMix
