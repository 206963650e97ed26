import QuicMix.Foundations.Numerals
import QuicMix.Measure.Session

namespace QuicMix
namespace Measure

open Foundations
open Gateway

/-!
# What a measurement reports

The frames of a measurement come in one order: that it is connected, where the
traffic leaves, the page, samples of the throughput and the end, or an error in the
place of what would follow.  The samples are counted from bytes that the gateway
has sent, at least a quarter of a second apart, and there are at most twenty of
them, since the loop looks at its bounds after each round.
-/

/-! ## The frames -/

/-- The frames up to the end of the probe. -/
def report (page : Option (Nat × Nat)) (samples : List Sample) : List Frame :=
  [.connected, .egress, .page page] ++ samples.map .sample

theorem report_concat (page : Option (Nat × Nat)) (samples : List Sample) (sample : Sample) :
    report page (samples ++ [sample]) = report page samples ++ [.sample sample] := by
  rw [report, report, List.map_append, List.append_assoc]
  rfl

namespace Measurement

variable {probeBytes : Nat} {intact : Bool} {measurement next : Measurement} {move : MeasureMove}

/-- The samples that were sent. -/
def samples (measurement : Measurement) : List Sample :=
  measurement.frames.filterMap Frame.sampled

theorem samples_send {frame : Frame} (silent : frame.sampled = none) (after : MeasurePhase) :
    (measurement.send frame after).samples = measurement.samples := by
  rw [samples, send, List.filterMap_append, List.filterMap_cons_none silent]
  exact List.append_nil _

theorem samples_send_sample (sample : Sample) (after : MeasurePhase) :
    (measurement.send (.sample sample) after).samples = measurement.samples ++ [sample] := by
  rw [samples, send, List.filterMap_append]
  rfl

/-- The page that the frames show, whose status and length are kept for the end. -/
def Shows (page : Option (Nat × Nat)) (measurement : Measurement) : Prop :=
  page = some (measurement.pageCode, measurement.pageBytes) ∨
    page = none ∧ measurement.pageCode = 0 ∧ measurement.pageBytes = 0

/-- The frames of a measurement that is over: the last one says so, unless something
went wrong. -/
def Ended (intact : Bool) (page : Option (Nat × Nat)) (measurement : Measurement) : Prop :=
  measurement.frames = report page measurement.samples ++
      [.done measurement.pageCode measurement.pageBytes measurement.bodyBytes] ∨
    intact = false ∧ exists part, part <+: report page measurement.samples ∧
      (measurement.frames = part ∨ measurement.frames = part ++ [.error])

/-- The frames that were sent, at each place. -/
def Tells (intact : Bool) (page : Option (Nat × Nat)) (measurement : Measurement) : Prop :=
  match measurement.phase with
  | .fetchCert => page = none ∧ measurement.frames = []
  | .resolve => page = none ∧ measurement.frames = []
  | .connect => page = none ∧ measurement.frames = []
  | .connected => page = none ∧ measurement.frames = []
  | .egress => page = none ∧ measurement.frames = [.connected]
  | .fetch => page = none ∧ measurement.frames = [.connected, .egress]
  | .page fetched => fetched = page ∧ measurement.frames = [.connected, .egress]
  | .openProbe => measurement.frames = report page []
  | .request => measurement.frames = report page []
  | .reading _ => measurement.frames = report page measurement.samples
  | .sampling _ => measurement.frames = report page measurement.samples
  | .done => measurement.frames = report page measurement.samples
  | .failed => intact = false ∧ measurement.frames <+: report page measurement.samples
  | .closing => Ended intact page measurement
  | .closed => Ended intact page measurement

theorem nextRound_phase (measurement : Measurement) :
    measurement.nextRound.phase = .done ∧ (probeCapBytes <= measurement.bodyBytes ∨
        measurement.start + probeCapTime <= measurement.clock) ∨
      measurement.nextRound.phase = .reading measurement.clock ∧
        measurement.bodyBytes < probeCapBytes ∧
        measurement.clock < measurement.start + probeCapTime := by
  unfold nextRound
  split
  · exact .inl ⟨rfl, ‹_›⟩
  · rename_i small
    rcases not_or.mp small with ⟨fewer, sooner⟩
    exact .inr ⟨rfl, Nat.not_le.mp fewer, Nat.not_le.mp sooner⟩

/-- A round of the loop ends with a move to another place and nothing else. -/
theorem nextRound_eq (measurement : Measurement) :
    measurement.nextRound = { measurement with phase := measurement.nextRound.phase } := by
  unfold nextRound
  split <;> rfl

/-- Before the end the frames are the beginning of a report. -/
theorem Tells.begun {page : Option (Nat × Nat)} (tells : measurement.Tells intact page)
    (running : measurement.phase ≠ .closing ∧ measurement.phase ≠ .closed) :
    measurement.frames <+: report page measurement.samples := by
  have opening : report page [] <+: report page measurement.samples :=
    List.prefix_append _ _
  have first : [.connected] <+: report page [] := ⟨[.egress, .page page], rfl⟩
  have second : [.connected, .egress] <+: report page [] := ⟨[.page page], rfl⟩
  unfold Tells at tells
  split at tells
  case h_5 => exact tells.2 ▸ first.trans opening
  case h_6 => exact tells.2 ▸ second.trans opening
  case h_7 => exact tells.2 ▸ second.trans opening
  case h_8 => exact tells ▸ opening
  case h_9 => exact tells ▸ opening
  case h_10 => exact tells ▸ List.prefix_refl _
  case h_11 => exact tells ▸ List.prefix_refl _
  case h_12 => exact tells ▸ List.prefix_refl _
  case h_13 => exact tells.2
  case h_14 => exact absurd ‹_› running.1
  case h_15 => exact absurd ‹_› running.2
  all_goals exact tells.2 ▸ List.nil_prefix

/-- The frames of a measurement and the page they show. -/
def Told (intact : Bool) (measurement : Measurement) : Prop :=
  exists page, measurement.Shows page ∧ measurement.Tells intact page

/-- The loop goes on or ends, with the report as it stands. -/
theorem Told.nextRound (page : Option (Nat × Nat)) (shows_ : measurement.Shows page)
    (told : measurement.frames = report page measurement.samples) :
    Told intact measurement.nextRound := by
  refine ⟨page, ?_, ?_⟩
  · rw [nextRound_eq]
    exact shows_
  · rw [nextRound_eq]
    unfold Tells
    rcases nextRound_phase measurement with ⟨done, _⟩ | ⟨reading, _⟩
    · simp only [done]
      exact told
    · simp only [reading]
      exact told

theorem Told.step (told : Told intact measurement)
    (sound : intact = true -> move.fault = false) (moved : Moved measurement move next) :
    Told intact next := by
  rcases told with ⟨page, shows_, tells⟩
  cases moved with
  | elapsed duration => exact ⟨page, shows_, tells⟩
  | gatewayMoved move stream opened stepped => exact ⟨page, shows_, tells⟩
  | advanced after phase =>
      refine ⟨page, shows_, ?_⟩
      simp only [List.mem_cons, Prod.mk.injEq, List.not_mem_nil, or_false] at phase
      rcases phase with ⟨phase, rfl⟩ | ⟨phase, rfl⟩ | ⟨phase, rfl⟩ | ⟨phase, rfl⟩ <;>
        rw [Tells, phase] at tells <;> exact tells
  | announced frame after phase =>
      rcases phase with ⟨phase, rfl, rfl⟩ | ⟨phase, rfl, rfl⟩ | ⟨fetched, phase, rfl, rfl⟩ <;>
        rw [Tells, phase] at tells
      · exact ⟨page, shows_, tells.1, congrArg (· ++ [Frame.connected]) tells.2⟩
      · exact ⟨page, shows_, tells.1, congrArg (· ++ [Frame.egress]) tells.2⟩
      · rcases tells with ⟨rfl, tells⟩
        exact ⟨fetched, shows_, congrArg (· ++ [Frame.page fetched]) tells⟩
  | pageFetched code bytes phase =>
      rw [Tells, phase] at tells
      exact ⟨some (code, bytes), .inl rfl, rfl, tells.2⟩
  | pageFailed phase =>
      rw [Tells, phase] at tells
      rcases tells with ⟨rfl, tells⟩
      exact ⟨none, shows_, rfl, tells⟩
  | requested phase =>
      rw [Tells, phase] at tells
      refine ⟨page, shows_, ?_⟩
      change measurement.frames = report page (measurement.frames.filterMap Frame.sampled)
      rw [tells]
      rfl
  | counted count since first phase positive fits sent first_eq =>
      rw [Tells, phase] at tells
      exact Told.nextRound page shows_ tells
  | taken count since first phase positive fits sent first_eq settled due =>
      rw [Tells, phase] at tells
      exact ⟨page, shows_, tells⟩
  | sampleSent sample phase =>
      rw [Tells, phase] at tells
      refine Told.nextRound page shows_ ?_
      rw [samples_send_sample, report_concat]
      exact congrArg (· ++ [Frame.sample sample]) tells
  | ended since phase answered whole =>
      rw [Tells, phase] at tells
      exact ⟨page, shows_, tells⟩
  | givenUp move since phase faulty =>
      rw [Tells, phase] at tells
      exact ⟨page, shows_, tells⟩
  | doneSent phase =>
      rw [Tells, phase] at tells
      refine ⟨page, shows_, .inl ?_⟩
      rw [samples_send rfl]
      exact congrArg (· ++ [_]) tells
  | broke running =>
      refine ⟨page, shows_, ?_, tells.begun running.2⟩
      exact eq_false_of_ne_true (fun whole => nomatch sound whole)
  | errorSent phase =>
      rw [Tells, phase] at tells
      refine ⟨page, shows_, .inr ⟨tells.1, measurement.frames, ?_, .inr rfl⟩⟩
      rw [samples_send rfl]
      exact tells.2
  | errorLost phase =>
      rw [Tells, phase] at tells
      exact ⟨page, shows_, .inr ⟨tells.1, measurement.frames, tells.2, .inl rfl⟩⟩
  | closed succeeded phase =>
      rw [Tells, phase] at tells
      exact ⟨page, shows_, tells⟩

/-! ## The pace of the samples -/

/-- The sample that is being sent. -/
def pending (measurement : Measurement) : List Sample :=
  match measurement.phase with
  | .sampling sample => [sample]
  | _ => []

/-- A sample is due to bytes that had been counted, and is not taken too early. -/
structure Fair (measurement : Measurement) (sample : Sample) : Prop where
  positive : 0 < sample.bytes
  counted : sample.bytes <= measurement.bodyBytes
  first : measurement.firstByte = some sample.first
  settled : sample.first + settleTime <= sample.taken
  late : measurement.start + sampleEvery <= sample.taken
  past : sample.taken <= measurement.lastSample

/-- A sample shows more than those before it and is taken some time later. -/
def Apart (earlier later : Sample) : Prop :=
  earlier.bytes < later.bytes ∧ earlier.taken + sampleEvery <= later.taken

def maxSamples : Nat := 20

/-- What holds of the samples that were taken. -/
structure Spaced (samples : List Sample) (measurement : Measurement) : Prop where
  apart : samples.Pairwise Apart
  fair : forall sample, sample ∈ samples -> measurement.Fair sample
  spaced : measurement.start + samples.length * sampleEvery <= measurement.lastSample
  few : samples.length <= maxSamples
  past : measurement.lastSample <= measurement.clock
  small : measurement.bodyBytes < probeCapBytes + readSize

/-- What holds of the loop at each place. -/
structure Paced (measurement : Measurement) : Prop where
  spaced : measurement.Spaced (measurement.samples ++ measurement.pending)
  reading : forall since, measurement.phase = .reading since ->
    measurement.lastSample <= since ∧ since <= measurement.clock ∧
      since < measurement.start + probeCapTime ∧ measurement.bodyBytes < probeCapBytes
  before : measurement.phase.opened = false ∨ measurement.phase = .request ->
    measurement.samples = [] ∧ measurement.bodyBytes = 0

theorem Fair.of_eq {sample : Sample} (fair : measurement.Fair sample)
    (bodyBytes : measurement.bodyBytes <= next.bodyBytes)
    (firstByte : next.firstByte = measurement.firstByte) (start : next.start = measurement.start)
    (lastSample : measurement.lastSample <= next.lastSample) : next.Fair sample :=
  ⟨fair.positive, Nat.le_trans fair.counted bodyBytes, firstByte.trans fair.first, fair.settled,
    start ▸ fair.late, Nat.le_trans fair.past lastSample⟩

/-- Fewer samples of the same loop are still spaced. -/
theorem Spaced.of_eq {all part : List Sample} (spaced : measurement.Spaced all)
    (part_all : part.Sublist all) (bodyBytes : next.bodyBytes = measurement.bodyBytes)
    (firstByte : next.firstByte = measurement.firstByte) (start : next.start = measurement.start)
    (lastSample : next.lastSample = measurement.lastSample)
    (clock : measurement.clock <= next.clock) : next.Spaced part := by
  refine ⟨spaced.apart.sublist part_all, ?_, ?_, ?_, ?_, ?_⟩
  · intro sample member
    exact (spaced.fair sample (part_all.mem member)).of_eq (Nat.le_of_eq bodyBytes.symm)
      firstByte start (Nat.le_of_eq lastSample.symm)
  · rw [start, lastSample]
    exact Nat.le_trans (Nat.add_le_add_left
      (Nat.mul_le_mul_right sampleEvery part_all.length_le) _) spaced.spaced
  · exact Nat.le_trans part_all.length_le spaced.few
  · rw [lastSample]
    exact Nat.le_trans spaced.past clock
  · rw [bodyBytes]
    exact spaced.small

/-- Bytes are counted without a sample. -/
theorem Spaced.count {all : List Sample} (spaced : measurement.Spaced all)
    (fewer : measurement.bodyBytes < probeCapBytes) {count : Nat} (fits : count <= readSize) :
    Spaced all { measurement with
      firstByte := some (measurement.firstByte.getD measurement.clock)
      bodyBytes := measurement.bodyBytes + count } := by
  refine ⟨spaced.apart, ?_, spaced.spaced, spaced.few, spaced.past,
    Nat.add_lt_add_of_lt_of_le fewer fits⟩
  intro sample member
  have fair := spaced.fair sample member
  refine fair.of_eq (Nat.le_add_right _ _) ?_ rfl (Nat.le_refl _)
  rw [fair.first]
  rfl

/-- Samples that are so far apart are few. -/
theorem Spaced.length_lt {all : List Sample} (spaced : measurement.Spaced all)
    (soon : measurement.lastSample < measurement.start + probeCapTime) :
    all.length < maxSamples := by
  have far := Nat.lt_of_le_of_lt spaced.spaced soon
  have within : all.length * sampleEvery < maxSamples * sampleEvery :=
    Nat.lt_of_add_lt_add_left far
  exact Nat.lt_of_mul_lt_mul_right within

/-- Another sample is taken. -/
theorem Spaced.take {all : List Sample} (spaced : measurement.Spaced all)
    (soon : measurement.lastSample < measurement.start + probeCapTime)
    (fewer : measurement.bodyBytes < probeCapBytes) {count : Nat} (positive : 0 < count)
    (fits : count <= readSize) {first : Instant}
    (first_eq : first = measurement.firstByte.getD measurement.clock)
    (settled : first + settleTime <= measurement.clock)
    (due : measurement.lastSample + sampleEvery <= measurement.clock) (after : MeasurePhase) :
    Spaced (all ++ [⟨measurement.bodyBytes + count, measurement.clock, first⟩])
      { measurement with
        firstByte := some first
        bodyBytes := measurement.bodyBytes + count
        lastSample := measurement.clock
        phase := after } := by
  subst first_eq
  have counted := spaced.count fewer fits
  refine ⟨?_, ?_, ?_, ?_, Nat.le_refl _, counted.small⟩
  · refine List.pairwise_append.mpr ⟨spaced.apart, List.pairwise_singleton _ _, ?_⟩
    intro earlier member later new
    cases List.mem_singleton.mp new
    have fair := spaced.fair earlier member
    exact ⟨Nat.lt_of_le_of_lt fair.counted (Nat.lt_add_of_pos_right positive),
      Nat.le_trans (Nat.add_le_add_right fair.past sampleEvery) due⟩
  · intro sample member
    rcases List.mem_append.mp member with old | new
    · exact (counted.fair sample old).of_eq (Nat.le_refl _) rfl rfl spaced.past
    · cases List.mem_singleton.mp new
      have begun : measurement.start <= measurement.lastSample :=
        Nat.le_trans (Nat.le_add_right _ _) spaced.spaced
      refine ⟨Nat.lt_of_lt_of_le positive (Nat.le_add_left _ _), Nat.le_refl _, rfl, settled, ?_,
        Nat.le_refl _⟩
      exact Nat.le_trans (Nat.add_le_add_right begun sampleEvery) due
  · rw [List.length_append, List.length_singleton, Nat.add_mul, Nat.one_mul, ← Nat.add_assoc]
    exact Nat.le_trans (Nat.add_le_add_right spaced.spaced sampleEvery) due
  · rw [List.length_append]
    exact spaced.length_lt soon

/-- A round of the loop is over. -/
theorem Paced.nextRound (spaced : measurement.Spaced measurement.samples) :
    Paced measurement.nextRound := by
  have pause : measurement.nextRound.samples ++ measurement.nextRound.pending =
      measurement.samples := by
    rcases nextRound_phase measurement with ⟨phase, _⟩ | ⟨phase, _⟩ <;>
      rw [pending, phase, List.append_nil, nextRound_eq] <;> rfl
  have same : Spaced measurement.samples measurement.nextRound := by
    rw [nextRound_eq]
    exact spaced.of_eq (List.Sublist.refl _) rfl rfl rfl rfl (Nat.le_refl _)
  refine ⟨pause ▸ same, ?_, ?_⟩
  · intro since phase
    rcases nextRound_phase measurement with ⟨done, _⟩ | ⟨reading, fewer, sooner⟩
    · cases done.symm.trans phase
    · cases reading.symm.trans phase
      rw [nextRound_eq]
      exact ⟨spaced.past, Nat.le_refl _, sooner, fewer⟩
  · intro early
    rcases nextRound_phase measurement with ⟨phase, _⟩ | ⟨phase, _⟩ <;>
      rw [phase] at early <;> rcases early with early | early <;> cases early

/-- The measurement goes on outside of the loop, or leaves it. -/
theorem Paced.leave (paced : Paced measurement) (frames : next.samples = measurement.samples)
    (bodyBytes : next.bodyBytes = measurement.bodyBytes)
    (firstByte : next.firstByte = measurement.firstByte) (start : next.start = measurement.start)
    (lastSample : next.lastSample = measurement.lastSample)
    (clock : next.clock = measurement.clock) (idle : next.pending = [])
    (still : forall since, next.phase ≠ .reading since)
    (early : next.phase.opened = false ∨ next.phase = .request ->
      measurement.phase.opened = false ∨ measurement.phase = .request) : Paced next := by
  refine ⟨?_, fun since reading => absurd reading (still since), ?_⟩
  · rw [frames, idle, List.append_nil]
    exact paced.spaced.of_eq (List.sublist_append_left _ _) bodyBytes firstByte start lastSample
      (Nat.le_of_eq clock.symm)
  · intro before
    rw [frames, bodyBytes]
    exact paced.before (early before)

/-- The last frame is sent. -/
theorem Paced.last (paced : Paced measurement) {frame : Frame} (silent : frame.sampled = none) :
    Paced (measurement.send frame .closing) := by
  refine paced.leave (samples_send silent _) rfl rfl rfl rfl rfl rfl
    (fun _ => MeasurePhase.noConfusion) ?_
  rintro (early | early) <;> cases early

theorem Paced.finish (paced : Paced measurement) {after : MeasurePhase}
    (ending : after = .done ∨ after = .failed ∨ after = .closing ∨ after = .closed) :
    Paced { measurement with phase := after } := by
  rcases ending with rfl | rfl | rfl | rfl <;>
    refine paced.leave rfl rfl rfl rfl rfl rfl rfl (fun _ => MeasurePhase.noConfusion) ?_ <;>
    rintro (early | early) <;> cases early

theorem Paced.step (paced : Paced measurement) (moved : Moved measurement move next) :
    Paced next := by
  cases moved with
  | elapsed duration =>
      refine ⟨paced.spaced.of_eq (List.Sublist.refl _) rfl rfl rfl rfl (Nat.le_add_right _ _), ?_,
        paced.before⟩
      intro since reading
      rcases paced.reading since reading with ⟨later, past, sooner, fewer⟩
      exact ⟨later, Nat.le_trans past (Nat.le_add_right _ _), sooner, fewer⟩
  | gatewayMoved move stream opened stepped =>
      exact ⟨paced.spaced.of_eq (List.Sublist.refl _) rfl rfl rfl rfl (Nat.le_refl _),
        paced.reading, paced.before⟩
  | advanced after phase =>
      simp only [List.mem_cons, Prod.mk.injEq, List.not_mem_nil, or_false] at phase
      rcases phase with ⟨phase, rfl⟩ | ⟨phase, rfl⟩ | ⟨phase, rfl⟩ | ⟨phase, rfl⟩ <;>
        exact paced.leave rfl rfl rfl rfl rfl rfl rfl (fun _ => MeasurePhase.noConfusion)
          (fun _ => .inl (phase ▸ rfl))
  | announced frame after phase =>
      rcases phase with ⟨phase, rfl, rfl⟩ | ⟨phase, rfl, rfl⟩ | ⟨fetched, phase, rfl, rfl⟩ <;>
        exact paced.leave (samples_send rfl _) rfl rfl rfl rfl rfl rfl
          (fun _ => MeasurePhase.noConfusion) (fun _ => .inl (phase ▸ rfl))
  | pageFetched code bytes phase =>
      exact paced.leave rfl rfl rfl rfl rfl rfl rfl (fun _ => MeasurePhase.noConfusion)
        (fun _ => .inl (phase ▸ rfl))
  | pageFailed phase =>
      exact paced.leave rfl rfl rfl rfl rfl rfl rfl (fun _ => MeasurePhase.noConfusion)
        (fun _ => .inl (phase ▸ rfl))
  | requested phase =>
      rcases paced.before (.inr phase) with ⟨silent, empty⟩
      refine ⟨?_, ?_, ?_⟩
      · change Spaced (measurement.samples ++ []) _
        rw [silent]
        refine ⟨.nil, List.forall_mem_nil _, ?_, Nat.zero_le _, Nat.le_refl _, ?_⟩
        · exact Nat.le_of_eq (by rw [List.append_nil, List.length_nil, Nat.zero_mul]; rfl)
        · change measurement.bodyBytes < _
          rw [empty]
          decide
      · intro since reading
        cases reading
        refine ⟨Nat.le_refl _, Nat.le_refl _, Nat.lt_add_of_pos_right (by decide), ?_⟩
        change measurement.bodyBytes < _
        rw [empty]
        decide
      · rintro (early | early) <;> cases early
  | counted count since first phase positive fits sent first_eq =>
      subst first_eq
      have fewer := (paced.reading since phase).2.2.2
      have spaced := paced.spaced
      rw [pending, phase, List.append_nil] at spaced
      exact Paced.nextRound (spaced.count fewer fits)
  | taken count since first phase positive fits sent first_eq settled due =>
      rcases paced.reading since phase with ⟨later, past, sooner, fewer⟩
      have spaced := paced.spaced
      rw [pending, phase, List.append_nil] at spaced
      have soon : measurement.lastSample < measurement.start + probeCapTime :=
        Nat.lt_of_le_of_lt later sooner
      refine ⟨spaced.take soon fewer positive fits first_eq settled due _, ?_, ?_⟩
      · intro since reading
        cases reading
      · rintro (early | early) <;> cases early
  | sampleSent sample phase =>
      apply Paced.nextRound
      have spaced := paced.spaced
      rw [pending, phase] at spaced
      rw [samples_send_sample]
      exact spaced.of_eq (List.Sublist.refl _) rfl rfl rfl rfl (Nat.le_refl _)
  | ended since phase answered whole => exact paced.finish (.inl rfl)
  | givenUp move since phase faulty => exact paced.finish (.inl rfl)
  | broke running => exact paced.finish (.inr (.inl rfl))
  | errorLost phase => exact paced.finish (.inr (.inr (.inl rfl)))
  | closed succeeded phase => exact paced.finish (.inr (.inr (.inr rfl)))
  | doneSent phase => exact paced.last rfl
  | errorSent phase => exact paced.last rfl

end Measurement
end Measure
end QuicMix
