import QuicMix.Gateway.Stream

namespace QuicMix
namespace Gateway

open Foundations

/-!
# What the gateway makes of a stream

While the line is read, the bytes of the line that were handed out and what the
reader has not handed out yet make up the whole stream; so whatever the reader
read ahead is still there for the copy loop when the line is complete.  From
then on the bytes written to the target, those in the loop and those unread make
up the payload.  A bound on the moves that carry the stream on shows that it
comes to an end.
-/

namespace GatewayStream

/-! ## The line -/

@[simp]
theorem enter_phase (stream : GatewayStream) (phase : StreamPhase) :
    (stream.enter phase).phase = phase := by
  cases phase <;> rfl

@[simp]
theorem enter_reader (stream : GatewayStream) (phase : StreamPhase) :
    (stream.enter phase).reader = stream.reader := by
  cases phase <;> rfl

/-- The reader is inside the line `head`, behind which a line feed and `tail`
stand. -/
structure InLine (head tail line : List UInt8) (reader : Buffered UInt8) : Prop where
  content : line ++ reader.unread = head ++ 10 :: tail
  clear : forall byte, byte ∈ line -> (byte == 10) = false

theorem inLine_start {head : List UInt8} (tail : List UInt8) :
    InLine head tail [] ⟨[], head ++ 10 :: tail⟩ where
  content := rfl
  clear := by
    intro byte member
    cases member

/-- The end of the line has not been read. -/
theorem InLine.unread_ne_nil {head tail line : List UInt8} {reader : Buffered UInt8}
    (inLine : InLine head tail line reader) : reader.unread ≠ [] := by
  intro empty
  have content := inLine.content
  rw [empty, List.append_nil] at content
  have feed := inLine.clear 10 (by
    rw [content]
    exact List.mem_append_right head List.mem_cons_self)
  cases feed

/-- A round of `read_line` stays inside the line and hands out the whole buffer, or ends
the line and leaves what is behind it unread, however the stream is split into reads. -/
theorem InLine.readLine {stream : GatewayStream} {head tail line : List UInt8}
    (inLine : InLine head tail line stream.reader)
    (clearHead : forall byte, byte ∈ head -> (byte == 10) = false)
    {count : Nat} {reader : Buffered UInt8} (filled : stream.reader.fill count = some reader) :
    (exists next, next.unread = tail ∧
      stream.readLine line reader = { stream with reader := next }.enter (accept (head ++ [10]))) ∨
    (exists more next, InLine head tail more next ∧ next.unread = reader.source ∧
      stream.readLine line reader = { stream with reader := next, phase := .header more }) := by
  rcases Buffered.fill_eq_some filled with ⟨_, same, _⟩
  have content := inLine.content
  rw [← same] at content
  rcases searched : reader.readUntil (· == 10) with ⟨taken, found, next⟩
  cases found with
  | true =>
      rcases Buffered.readUntil_found searched with ⟨_, left, before, feed, rfl, ends, clear⟩
      rw [← left, List.append_assoc, List.singleton_append, ← List.append_assoc] at content
      rcases split_unique content ends rfl (by
        intro byte member
        rcases List.mem_append.mp member with old | new
        · exact inLine.clear byte old
        · exact clear byte new) clearHead with ⟨lines, rfl, rest⟩
      refine .inl ⟨next, rest, ?_⟩
      rw [GatewayStream.readLine, searched, ← lines, List.append_assoc]
  | false =>
      rcases Buffered.readUntil_missed searched with ⟨source, left, empty, clear⟩
      refine .inr ⟨line ++ taken, next, ⟨?_, ?_⟩, ?_, ?_⟩
      · rw [List.append_assoc, left, content]
      · intro byte member
        rcases List.mem_append.mp member with old | new
        · exact inLine.clear byte old
        · exact clear byte new
      · rw [Buffered.unread, empty, source, List.nil_append]
      · rw [GatewayStream.readLine, searched]

/-- The whole line may arrive with the first read. -/
theorem exists_lineRead {head : List UInt8}
    (clear : forall byte, byte ∈ head -> (byte == 10) = false) (tail : List UInt8)
    (clientFinishes : Bool) :
    exists stream schedule, run step (start (head ++ 10 :: tail) clientFinishes) schedule =
        some stream ∧ stream.phase = accept (head ++ [10]) ∧
      forall target, stream.phase = .dialing target -> stream.dialed = [target] := by
  have filled : (start (head ++ 10 :: tail) clientFinishes).reader.fill
      (head ++ 10 :: tail).length = some ⟨head ++ 10 :: tail, []⟩ := by
    have most : 0 < (head ++ 10 :: tail).length := List.length_pos_iff.mpr (by simp)
    rw [start, Buffered.fill, if_pos ⟨most, Nat.le_refl _⟩, List.take_length, List.drop_length]
  rcases (inLine_start tail).readLine clear filled with
    ⟨next, _, read⟩ | ⟨more, next, inLine, handed, _⟩
  · have ran : run step (start (head ++ 10 :: tail) clientFinishes)
        [.fill (head ++ 10 :: tail).length] =
          some ((start (head ++ 10 :: tail) clientFinishes).readLine []
            ⟨head ++ 10 :: tail, []⟩) := by
      rw [run, step, show (start (head ++ 10 :: tail) clientFinishes).phase = .header [] from rfl]
      simp only [filled, Option.map_some, run]
    refine ⟨_, _, ran, ?_, ?_⟩
    · rw [read, enter_phase]
    · intro target phase
      rw [read, enter_phase] at phase
      rw [read, phase]
      rfl
  · exact absurd handed inLine.unread_ne_nil

/-! ## What a line means -/

theorem encode_newline (text : Text) : Text.encode (text ++ ['\n']) = Text.encode text ++ [10] := by
  rw [Text.encode_append]
  rfl

theorem clear_encode {text : Text} (single : '\n' ∉ text) :
    forall byte, byte ∈ Text.encode text -> (byte == 10) = false := by
  intro byte member
  rw [beq_eq_false_iff_ne]
  intro feed
  subst feed
  exact Text.newline_not_mem_encode single member

theorem white_newline : forall char, char ∈ ['\n'] -> Text.isWhitespace char = true := by
  intro char member
  rw [List.mem_singleton.mp member]
  rfl

/-- A target without white space around it is dialed as it was written. -/
theorem accept_target {target : Text} (trimmed : Text.Trimmed target)
    (ordinary : ¬ measurePrefix <+: target) :
    accept (Text.encode target ++ [10]) = .dialing target := by
  have trim : Text.trim (target ++ ['\n']) = target := trimmed.trim_append white_newline
  have other : target.stripStart measurePrefix = none := by
    rw [Text.stripStart, if_neg]
    rw [List.isPrefixOf_iff_prefix]
    exact ordinary
  have visible : target.isEmpty = false := List.isEmpty_eq_false_iff.mpr trimmed.nonempty
  rw [accept, ← encode_newline, Text.decode_encode]
  simp only [trim, visible, other, Bool.false_eq_true, if_false]

/-- A line that is not blank is dialed without the white space around it, unless it is a
probe. -/
theorem accept_visible {line : Text}
    (visible : exists char, char ∈ line ∧ Text.isWhitespace char = false) :
    (exists left, accept (Text.encode line ++ [10]) = .measuring left) ∨
      accept (Text.encode line ++ [10]) = .dialing (Text.trim line) := by
  have same : Text.trim (line ++ ['\n']) = Text.trim line :=
    @Text.trim_between [] line ['\n'] visible nofun white_newline
  have shown : (Text.trim line).isEmpty = false :=
    List.isEmpty_eq_false_iff.mpr (Text.trimmed_trim visible).nonempty
  rw [accept, ← encode_newline, Text.decode_encode]
  simp only [same, shown, Bool.false_eq_true, if_false]
  cases Text.stripStart (Text.trim line) measurePrefix with
  | some number => exact .inl ⟨_, rfl⟩
  | none => exact .inr rfl

/-- A probe is measured by its number, which white space may surround. -/
theorem accept_probe {number : Text}
    (visible : exists char, char ∈ number ∧ Text.isWhitespace char = false) :
    accept (Text.encode (measurePrefix ++ number) ++ [10]) =
      .measuring (min ((Text.parseU64 number.trim).getD 0) measureMax) := by
  rcases Text.exists_trimmed visible with ⟨before, core, after, rfl, trimmed, white, whiteAfter⟩
  have whole : Text.Trimmed (measurePrefix ++ before ++ core) := by
    refine Text.trimmed_append (List.cons_ne_nil _ _) ?_ trimmed.nonempty trimmed.last
    intro char first
    cases first
    rfl
  have trim : Text.trim (measurePrefix ++ (before ++ core ++ after) ++ ['\n']) =
      measurePrefix ++ (before ++ core) := by
    have white : forall char, char ∈ after ++ ['\n'] -> Text.isWhitespace char = true := by
      intro char member
      rcases List.mem_append.mp member with inside | feed
      · exact whiteAfter char inside
      · exact white_newline char feed
    have trimmed := whole.trim_append white
    simpa only [List.append_assoc] using trimmed
  have inner : Text.trim (before ++ core) = core := by
    have parted := @Text.trim_of_trimmed before core [] trimmed white
      (fun _ member => absurd member List.not_mem_nil)
    rw [List.append_nil] at parted
    exact parted
  have number : Text.trim (before ++ core ++ after) = core :=
    Text.trim_of_trimmed trimmed white whiteAfter
  have visible : List.isEmpty (measurePrefix ++ (before ++ core)) = false := rfl
  rw [accept, ← encode_newline, Text.decode_encode]
  simp only [trim, visible, Text.stripStart_append, inner, number, Bool.false_eq_true, if_false]

/-! ## How long it takes -/

end GatewayStream

/-- The moves that a copy loop still has to make for what it holds, and one for
each of the two ends. -/
def Copy.weight : Copy -> Nat
  | .running held => held.length + 2
  | .draining held => held.length + 1
  | .stopped => 1
  | .closed => 0

def StreamPhase.weight : StreamPhase -> Nat
  | .header _ => measureMax + 4
  | .measuring left => left + 1
  | .dialing _ => 3
  | .splicing up _ => up.weight
  | .returned _ => 0

namespace GatewayStream

/-- A bound for the moves that carry the stream on. -/
def potential (stream : GatewayStream) : Nat :=
  2 * stream.reader.unread.length + stream.reader.source.length + stream.phase.weight

theorem weight_accept (line : List UInt8) : (accept line).weight + 1 <= measureMax + 4 := by
  unfold accept
  split
  · exact Nat.le_add_left 1 _
  · split
    · exact Nat.le_add_left 1 _
    · split
      · have capped := Nat.min_le_right ((Text.parseU64 (Text.trim ‹_›)).getD 0) measureMax
        simp only [StreamPhase.weight]
        omega
      · exact Nat.le_add_left 4 _

/-- The bound sinks with the weight of the phase. -/
theorem potential_of_phase {stream next : GatewayStream} {count : Nat}
    (reader : next.reader = stream.reader)
    (lighter : next.phase.weight + count <= stream.phase.weight) :
    next.potential + count <= stream.potential := by
  unfold potential
  rw [reader]
  omega

/-- A round of `read_line` hands something out. -/
theorem potential_readLine {stream : GatewayStream} {count : Nat} {line : List UInt8}
    {reader : Buffered UInt8} (phase : stream.phase = .header line)
    (filled : stream.reader.fill count = some reader) :
    (stream.readLine line reader).potential + 1 <= stream.potential := by
  rcases Buffered.fill_eq_some filled with ⟨stocked, same, shorter⟩
  have stock := List.length_pos_iff.mpr stocked
  rcases searched : reader.readUntil (· == 10) with ⟨taken, found, next⟩
  cases found with
  | true =>
      rcases Buffered.readUntil_found searched with ⟨source, left, before, feed, rfl, _⟩
      have handed := congrArg List.length left
      have weight := weight_accept (line ++ (before ++ [feed]))
      have before : (StreamPhase.header line).weight = measureMax + 4 := rfl
      simp only [GatewayStream.readLine, searched, potential, phase, enter_phase, enter_reader]
      rw [source, ← same, before]
      simp only [List.length_append, List.length_singleton] at handed
      omega
  | false =>
      rcases Buffered.readUntil_missed searched with ⟨source, left, empty, _⟩
      have handed := congrArg List.length left
      have unread : next.unread.length = reader.source.length := by
        rw [Buffered.unread, empty, source, List.nil_append]
      have whole : reader.unread.length = reader.buffer.length + reader.source.length :=
        List.length_append
      simp only [GatewayStream.readLine, searched, potential, phase, StreamPhase.weight]
      rw [source, ← same]
      rw [List.length_append] at handed
      omega

/-- A read of the copy loop moves bytes from the reader to the loop. -/
theorem potential_pull {stream : GatewayStream} {count taken : Nat} {held : List UInt8}
    {down : Copy} {reader : Buffered UInt8}
    (phase : stream.phase = .splicing (.running held) down)
    (filled : stream.reader.fill count = some reader) (positive : 0 < taken)
    (bound : taken <= reader.buffer.length) :
    potential { stream with
      reader := reader.consume taken
      phase := .splicing (.running (held ++ reader.buffer.take taken)) down } + 1 <=
      stream.potential := by
  rcases Buffered.fill_eq_some filled with ⟨_, same, shorter⟩
  have handed := congrArg List.length (reader.unread_consume taken)
  have source : (reader.consume taken).source = reader.source := rfl
  simp only [potential, phase, StreamPhase.weight, Copy.weight, source, ← same]
  simp only [List.length_append, List.length_take] at handed ⊢
  omega

theorem potential_moved {stream next : GatewayStream} {move : StreamMove}
    (moved : Moved stream move next) :
    next.potential + (if move.carries then 1 else 0) <= stream.potential := by
  cases moved with
  | lineRead count line reader phase filled => exact potential_readLine phase filled
  | lineEnded line phase ended =>
      refine potential_of_phase (enter_reader _ _) ?_
      rw [enter_phase, phase]
      exact weight_accept line
  | lineFailed line phase =>
      refine potential_of_phase (by rfl) ?_
      exact Nat.zero_le _
  | chunkWritten left phase more =>
      have size : 0 < min left chunkSize := Nat.lt_min.mpr ⟨more, by decide⟩
      have most := Nat.min_le_left left chunkSize
      refine potential_of_phase (by rfl) ?_
      rw [phase]
      change left - min left chunkSize + 1 + 1 <= left + 1
      omega
  | chunkFailed left count phase part =>
      refine potential_of_phase (by rfl) ?_
      exact Nat.zero_le _
  | measured phase =>
      refine potential_of_phase (by rfl) ?_
      rw [phase]
      exact Nat.le_refl 1
  | connected target phase =>
      refine potential_of_phase (by rfl) ?_
      rw [phase]
      exact Nat.le_refl 3
  | refused target phase =>
      refine potential_of_phase (by rfl) ?_
      exact Nat.zero_le _
  | pulled count taken held down reader phase filled positive bound =>
      exact potential_pull phase filled positive bound
  | pullEnded held down phase ended =>
      refine potential_of_phase (by rfl) ?_
      rw [phase]
      exact Nat.le_refl _
  | pushed count held down phase positive bound =>
      refine potential_of_phase (by rfl) ?_
      rw [phase]
      change (held.drop count).length + 2 + 1 <= held.length + 2
      rw [List.length_drop]
      omega
  | drained count held down phase positive bound =>
      refine potential_of_phase (by rfl) ?_
      rw [phase]
      change (held.drop count).length + 1 + 1 <= held.length + 1
      rw [List.length_drop]
      omega
  | upFailed up down phase active =>
      refine potential_of_phase (by rfl) ?_
      rw [phase]
      rcases active with ⟨held, rfl | rfl⟩
      · exact Nat.succ_le_succ (Nat.zero_le _)
      · exact Nat.succ_le_succ (Nat.zero_le _)
  | shut up down phase through =>
      refine potential_of_phase (by rfl) ?_
      rw [phase]
      rcases through with rfl | rfl
      · exact Nat.le_refl 1
      · exact Nat.le_refl 1
  | downward move up down after toClient apart phase =>
      refine potential_of_phase (by rfl) ?_
      rw [phase, apart.1]
      exact Nat.le_refl _
  | joined phase =>
      refine potential_of_phase (by rfl) ?_
      exact Nat.zero_le _

/-! ## A target -/

/-- Where the payload is while the copy loop runs. -/
def Copied (payload : List UInt8) (intact : Bool) (stream : GatewayStream) : Copy -> Prop
  | .running held => stream.toTarget ++ held ++ stream.reader.unread = payload
  | .draining held => stream.toTarget ++ held = payload
  | .stopped => stream.toTarget <+: payload ∧ intact = false
  | .closed => stream.toTarget <+: payload ∧ (intact = true -> stream.toTarget = payload)

/-- Where the target and the payload are.  The stream is intact if nothing has
failed on the way. -/
def Carrying (target : Text) (payload : List UInt8) (intact : Bool) (stream : GatewayStream) :
    Prop :=
  match stream.phase with
  | .header line => InLine (Text.encode target) payload line stream.reader ∧
      stream.dialed = [] ∧ stream.toTarget = []
  | .measuring _ => False
  | .dialing name => name = target ∧ stream.reader.unread = payload ∧
      stream.dialed = [target] ∧ stream.toTarget = []
  | .splicing up _ => stream.dialed = [target] ∧ stream.Copied payload intact up
  | .returned succeeded => stream.dialed <+: [target] ∧ stream.toTarget <+: payload ∧
      (intact = true -> succeeded = true ∧ stream.dialed = [target] ∧ stream.toTarget = payload)

section Target

variable {target : Text} {payload : List UInt8} {intact : Bool} {stream next : GatewayStream}

theorem Carrying.readLine (trimmed : Text.Trimmed target) (single : '\n' ∉ target)
    (ordinary : ¬ measurePrefix <+: target)
    (carrying : stream.Carrying target payload intact) {line : List UInt8} {count : Nat}
    {reader : Buffered UInt8} (phase : stream.phase = .header line)
    (filled : stream.reader.fill count = some reader) :
    (stream.readLine line reader).Carrying target payload intact := by
  rw [Carrying, phase] at carrying
  rcases carrying with ⟨inLine, undialed, unwritten⟩
  rcases inLine.readLine (clear_encode single) filled with
    ⟨next, rest, read⟩ | ⟨more, next, inLine, _, read⟩
  · rw [read, accept_target trimmed ordinary]
    exact ⟨rfl, rest, congrArg (· ++ [target]) undialed, unwritten⟩
  · rw [read]
    exact ⟨inLine, undialed, unwritten⟩

/-- The read-ahead bytes are the first that the copy loop reads. -/
theorem Carrying.pull (carrying : stream.Carrying target payload intact) {held : List UInt8}
    {down : Copy} {count taken : Nat} {reader : Buffered UInt8}
    (phase : stream.phase = .splicing (.running held) down)
    (filled : stream.reader.fill count = some reader) :
    Carrying target payload intact { stream with
      reader := reader.consume taken
      phase := .splicing (.running (held ++ reader.buffer.take taken)) down } := by
  rcases Buffered.fill_eq_some filled with ⟨_, same, _⟩
  rw [Carrying, phase] at carrying
  rcases carrying with ⟨dialed, copied⟩
  refine ⟨dialed, ?_⟩
  have handed := reader.unread_consume taken
  rw [same] at handed
  change stream.toTarget ++ (held ++ reader.buffer.take taken) ++ (reader.consume taken).unread =
    payload
  rw [← copied, ← handed]
  simp only [List.append_assoc]

/-- What has been written is the beginning of the payload. -/
theorem Copied.written {up : Copy} (copied : stream.Copied payload intact up) :
    stream.toTarget <+: payload := by
  cases up with
  | running held =>
      rw [Copied, List.append_assoc] at copied
      exact ⟨_, copied⟩
  | draining held => exact ⟨held, copied⟩
  | stopped => exact copied.1
  | closed => exact copied.1

theorem not_intact {move : StreamMove} (sound : intact = true -> move.fails = false)
    (fails : move.fails = true) : intact = false := by
  cases intact with
  | false => rfl
  | true => cases (sound rfl).symm.trans fails

theorem Carrying.step (trimmed : Text.Trimmed target) (single : '\n' ∉ target)
    (ordinary : ¬ measurePrefix <+: target)
    (carrying : stream.Carrying target payload intact) {move : StreamMove}
    (sound : intact = true -> move.fails = false) (moved : Moved stream move next) :
    next.Carrying target payload intact := by
  cases moved with
  | lineRead count line reader phase filled =>
      exact carrying.readLine trimmed single ordinary phase filled
  | lineEnded line phase ended =>
      rw [Carrying, phase] at carrying
      exact absurd ended carrying.1.unread_ne_nil
  | lineFailed line phase =>
      rw [Carrying, phase] at carrying
      rcases carrying with ⟨_, undialed, unwritten⟩
      refine ⟨?_, ?_, fun whole => nomatch sound whole⟩
      · rw [undialed]
        exact List.nil_prefix
      · rw [unwritten]
        exact List.nil_prefix
  | chunkWritten left phase more =>
      rw [Carrying, phase] at carrying
      exact carrying.elim
  | chunkFailed left count phase part =>
      rw [Carrying, phase] at carrying
      exact carrying.elim
  | measured phase =>
      rw [Carrying, phase] at carrying
      exact carrying.elim
  | connected name phase =>
      rw [Carrying, phase] at carrying
      rcases carrying with ⟨_, unread, dialed, unwritten⟩
      refine ⟨dialed, ?_⟩
      change stream.toTarget ++ [] ++ stream.reader.unread = payload
      rw [unwritten, unread]
      rfl
  | refused name phase =>
      rw [Carrying, phase] at carrying
      rcases carrying with ⟨_, _, dialed, unwritten⟩
      refine ⟨dialed ▸ List.prefix_refl _, ?_, fun whole => nomatch sound whole⟩
      rw [unwritten]
      exact List.nil_prefix
  | pulled count taken held down reader phase filled positive bound =>
      exact carrying.pull phase filled
  | pullEnded held down phase ended =>
      rw [Carrying, phase] at carrying
      rcases carrying with ⟨dialed, copied⟩
      rw [Copied, ended, List.append_nil] at copied
      exact ⟨dialed, copied⟩
  | pushed count held down phase positive bound =>
      rw [Carrying, phase] at carrying
      rcases carrying with ⟨dialed, copied⟩
      refine ⟨dialed, ?_⟩
      change stream.toTarget ++ held.take count ++ held.drop count ++ stream.reader.unread = payload
      rw [List.append_assoc stream.toTarget, List.take_append_drop]
      exact copied
  | drained count held down phase positive bound =>
      rw [Carrying, phase] at carrying
      rcases carrying with ⟨dialed, copied⟩
      refine ⟨dialed, ?_⟩
      change stream.toTarget ++ held.take count ++ held.drop count = payload
      rw [List.append_assoc stream.toTarget, List.take_append_drop]
      exact copied
  | upFailed up down phase active =>
      rw [Carrying, phase] at carrying
      exact ⟨carrying.1, carrying.2.written, not_intact sound rfl⟩
  | shut up down phase through =>
      rw [Carrying, phase] at carrying
      rcases carrying with ⟨dialed, copied⟩
      refine ⟨dialed, copied.written, ?_⟩
      intro whole
      rcases through with rfl | rfl
      · exact (List.append_nil _).symm.trans copied
      · rw [copied.2] at whole
        cases whole
  | downward move up down after toClient apart phase =>
      rw [Carrying, phase] at carrying
      cases up with
      | _ => exact carrying
  | joined phase =>
      rw [Carrying, phase] at carrying
      rcases carrying with ⟨dialed, written, exact⟩
      exact ⟨dialed ▸ List.prefix_refl _, written, fun whole => ⟨rfl, dialed, exact whole⟩⟩

end Target

/-! ## Nothing is left to do -/

/-- No move carries the stream on. -/
def Settled (stream : GatewayStream) : Prop :=
  forall move, move.carries = true -> stream.step move = none

/-- The way to the target has been shut down. -/
def targetShut (stream : GatewayStream) : Bool :=
  match stream.phase with
  | .splicing .closed _ => true
  | .returned succeeded => succeeded
  | _ => false

theorem Settled.not_header {stream : GatewayStream} (settled : stream.Settled)
    {line : List UInt8} (phase : stream.phase = .header line) : stream.reader.unread = [] := by
  by_contra more
  rcases Buffered.exists_fill more with ⟨reader, filled⟩
  have stuck := settled (.fill 1) rfl
  simp only [step, phase, filled, Option.map_some, reduceCtorEq] at stuck

theorem Settled.held_eq_nil {stream : GatewayStream} (settled : stream.Settled) {up down : Copy}
    {held : List UInt8} (phase : stream.phase = .splicing up down)
    (active : up = .running held ∨ up = .draining held) : held = [] := by
  by_contra more
  have some := List.length_pos_iff.mpr more
  have stuck := settled (.push 1) rfl
  rcases active with rfl | rfl
  · simp only [step, phase, Copy.write, Nat.one_pos, true_and, Nat.succ_le_of_lt some,
      if_true, Option.map_some, reduceCtorEq] at stuck
  · simp only [step, phase, Copy.write, Nat.one_pos, true_and, Nat.succ_le_of_lt some,
      if_true, Option.map_some, reduceCtorEq] at stuck

theorem Settled.unread_eq_nil {stream : GatewayStream} (settled : stream.Settled) {down : Copy}
    {held : List UInt8} (phase : stream.phase = .splicing (.running held) down) :
    stream.reader.unread = [] ∧ stream.clientFinishes = false := by
  have empty : stream.reader.unread = [] := by
    by_contra more
    rcases Buffered.exists_fill more with ⟨reader, filled⟩
    have stocked := List.length_pos_iff.mpr (Buffered.fill_eq_some filled).1
    have stuck := settled (.pull 1 1) rfl
    simp only [step, phase, GatewayStream.pull, filled, Option.bind_eq_bind, Option.bind_some,
      Nat.one_pos, true_and, Nat.succ_le_of_lt stocked, if_true, Copy.read, Option.pure_def,
      reduceCtorEq] at stuck
  refine ⟨empty, ?_⟩
  cases finishes : stream.clientFinishes with
  | false => rfl
  | true =>
      have stuck := settled .pullEnd rfl
      simp only [step, phase, finishes, empty, and_self, if_true, Copy.sourceEnd, Option.map_some,
        reduceCtorEq] at stuck

/-- Where nothing has failed and nothing is left to do, the target was dialed and
has the whole payload. -/
theorem Carrying.settled {target : Text} {payload : List UInt8} {stream : GatewayStream}
    (carrying : stream.Carrying target payload true) (settled : stream.Settled) :
    stream.dialed = [target] ∧ stream.toTarget = payload ∧
      (stream.clientFinishes = true -> stream.targetShut = true) := by
  unfold Carrying at carrying
  split at carrying
  · rename_i line phase
    exact absurd (settled.not_header phase) carrying.1.unread_ne_nil
  · exact carrying.elim
  · rename_i name phase
    have stuck := settled (.connect true) rfl
    simp only [GatewayStream.step, phase, if_true, reduceCtorEq] at stuck
  · rename_i up down phase
    rcases carrying with ⟨dialed, copied⟩
    refine ⟨dialed, ?_⟩
    cases up with
    | running held =>
        rcases settled.unread_eq_nil phase with ⟨empty, open_⟩
        rw [Copied, settled.held_eq_nil phase (.inl rfl), empty, List.append_nil,
          List.append_nil] at copied
        refine ⟨copied, ?_⟩
        intro finishes
        cases finishes.symm.trans open_
    | draining held =>
        have stuck := settled .shutdown rfl
        simp only [GatewayStream.step, phase, settled.held_eq_nil phase (.inr rfl), Copy.close,
          Option.map_some, reduceCtorEq] at stuck
    | stopped => cases copied.2
    | closed =>
        refine ⟨copied.2 rfl, ?_⟩
        intro _
        rw [targetShut, phase]
  · rename_i succeeded phase
    rcases carrying.2.2 rfl with ⟨rfl, dialed, written⟩
    refine ⟨dialed, written, ?_⟩
    intro _
    rw [targetShut, phase]

/-! ## A probe -/

/-- Where a probe stands that asks for the given number of bytes. -/
def Probing (number : Text) (rest : List UInt8) (amount : Nat) (intact : Bool)
    (stream : GatewayStream) : Prop :=
  match stream.phase with
  | .header line => InLine (Text.encode (measurePrefix ++ number)) rest line stream.reader ∧
      stream.dialed = [] ∧ stream.toClient = []
  | .measuring left => stream.dialed = [] ∧
      stream.toClient ++ List.replicate left 0 = List.replicate amount 0
  | .returned _ => stream.dialed = [] ∧ stream.toClient <+: List.replicate amount 0 ∧
      (intact = true -> stream.toClient = List.replicate amount 0)
  | _ => False

section Probe

variable {number : Text} {rest : List UInt8} {intact : Bool} {stream next : GatewayStream}

/-- The number of bytes that a probe asks for. -/
def probeAmount (number : Text) : Nat :=
  min ((Text.parseU64 number.trim).getD 0) measureMax

theorem Probing.readLine
    (visible : exists char, char ∈ number ∧ Text.isWhitespace char = false)
    (single : '\n' ∉ number)
    (probing : stream.Probing number rest (probeAmount number) intact) {line : List UInt8}
    {count : Nat} {reader : Buffered UInt8} (phase : stream.phase = .header line)
    (filled : stream.reader.fill count = some reader) :
    (stream.readLine line reader).Probing number rest (probeAmount number) intact := by
  have clear : '\n' ∉ measurePrefix ++ number := by
    intro member
    rcases List.mem_append.mp member with front | back
    · exact absurd front (by decide)
    · exact single back
  rw [Probing, phase] at probing
  rcases probing with ⟨inLine, undialed, unwritten⟩
  rcases inLine.readLine (clear_encode clear) filled with
    ⟨next, _, read⟩ | ⟨more, next, inLine, _, read⟩
  · rw [read, accept_probe visible]
    refine ⟨undialed, ?_⟩
    change stream.toClient ++ _ = _
    rw [unwritten]
    rfl
  · rw [read]
    exact ⟨inLine, undialed, unwritten⟩

theorem Probing.step
    (visible : exists char, char ∈ number ∧ Text.isWhitespace char = false)
    (single : '\n' ∉ number)
    (probing : stream.Probing number rest (probeAmount number) intact) {move : StreamMove}
    (sound : intact = true -> move.fails = false) (moved : Moved stream move next) :
    next.Probing number rest (probeAmount number) intact := by
  cases moved with
  | lineRead count line reader phase filled => exact probing.readLine visible single phase filled
  | lineEnded line phase ended =>
      rw [Probing, phase] at probing
      exact absurd ended probing.1.unread_ne_nil
  | lineFailed line phase =>
      rw [Probing, phase] at probing
      rcases probing with ⟨_, undialed, unwritten⟩
      refine ⟨undialed, ?_, fun whole => nomatch sound whole⟩
      rw [unwritten]
      exact List.nil_prefix
  | chunkWritten left phase more =>
      rw [Probing, phase] at probing
      rcases probing with ⟨undialed, written⟩
      refine ⟨undialed, ?_⟩
      change stream.toClient ++ List.replicate (min left chunkSize) 0 ++
        List.replicate (left - min left chunkSize) 0 = _
      rw [List.append_assoc, List.replicate_append_replicate,
        Nat.add_sub_cancel' (Nat.min_le_left left chunkSize)]
      exact written
  | chunkFailed left count phase part =>
      rw [Probing, phase] at probing
      rcases probing with ⟨undialed, written⟩
      refine ⟨undialed, ?_, fun whole => nomatch sound whole⟩
      have fewer : count <= left := Nat.le_of_lt (Nat.lt_of_lt_of_le part (Nat.min_le_left _ _))
      refine ⟨List.replicate (left - count) 0, ?_⟩
      rw [List.append_assoc, List.replicate_append_replicate, Nat.add_sub_cancel' fewer]
      exact written
  | measured phase =>
      rw [Probing, phase] at probing
      rcases probing with ⟨undialed, written⟩
      rw [List.replicate_zero, List.append_nil] at written
      refine ⟨undialed, ?_, fun _ => written⟩
      exact written ▸ List.prefix_refl _
  | _ =>
      rw [Probing, ‹stream.phase = _›] at probing
      exact probing.elim

theorem Probing.settled (probing : stream.Probing number rest (probeAmount number) true)
    (settled : stream.Settled) : stream.toClient = List.replicate (probeAmount number) 0 := by
  unfold Probing at probing
  split at probing
  · rename_i line phase
    exact absurd (settled.not_header phase) probing.1.unread_ne_nil
  · rename_i left phase
    exfalso
    by_cases more : 0 < left
    · have stuck := settled .writeChunk rfl
      simp only [GatewayStream.step, phase, more, if_true, reduceCtorEq] at stuck
    · have none : left = 0 := Nat.eq_zero_of_not_pos more
      have stuck := settled .finishMeasure rfl
      simp only [GatewayStream.step, phase, none, reduceCtorEq] at stuck
  · exact probing.2.2 rfl
  · exact probing.elim

end Probe

/-! ## Whole runs -/

/-- The moves of a schedule that carry a stream on are bounded. -/
theorem carries_of_run {content : List UInt8} {clientFinishes : Bool}
    {schedule : List StreamMove} {stream : GatewayStream}
    (ran : run step (start content clientFinishes) schedule = some stream) :
    schedule.countP StreamMove.carries <= 3 * content.length + measureMax + 4 := by
  have bound := count_of_run potential StreamMove.carries
    (fun _ _ _ _ stepped => potential_moved (moved_of_step stepped)) ran
  have initial : (start content clientFinishes).potential =
      2 * content.length + content.length + (measureMax + 4) := rfl
  omega

theorem clientStream_eq (target : Text) (payload : List UInt8) :
    clientStream target payload = Text.encode target ++ 10 :: payload := by
  rw [clientStream, encode_newline, List.append_assoc, List.singleton_append]

/-- What becomes of a stream for a target.  Whatever fails, nothing else is dialed
and what the target has is the beginning of the payload; if nothing fails on the
way, it has all of it as soon as nothing is left to do, and that is after a
bounded number of moves. -/
structure Carried (target : Text) (payload : List UInt8) (schedule : List StreamMove)
    (stream : GatewayStream) : Prop where
  dialed : stream.dialed <+: [target]
  written : stream.toTarget <+: payload
  complete : (forall move, move ∈ schedule -> move.fails = false) -> stream.Settled ->
    stream.dialed = [target] ∧ stream.toTarget = payload ∧
      (stream.clientFinishes = true -> stream.targetShut = true)
  bounded : schedule.countP StreamMove.carries <=
    3 * (clientStream target payload).length + measureMax + 4

/-- What becomes of a probe for a number of bytes. -/
structure Probed (amount : Nat) (content : List UInt8) (schedule : List StreamMove)
    (stream : GatewayStream) : Prop where
  undialed : stream.dialed = []
  written : stream.toClient <+: List.replicate amount 0
  complete : (forall move, move ∈ schedule -> move.fails = false) -> stream.Settled ->
    stream.toClient = List.replicate amount 0
  bounded : schedule.countP StreamMove.carries <= 3 * content.length + measureMax + 4

/-- The protocol, for a reading of the number of a probe. -/
structure StreamProtocol (amount : Text -> Nat) : Prop where
  targets : forall target payload clientFinishes schedule stream,
    Text.Trimmed target -> '\n' ∉ target -> ¬ measurePrefix <+: target ->
    run step (start (clientStream target payload) clientFinishes) schedule = some stream ->
    Carried target payload schedule stream
  probes : forall number rest clientFinishes schedule stream,
    (exists char, char ∈ number ∧ Text.isWhitespace char = false) -> '\n' ∉ number ->
    run step (start (clientStream (measurePrefix ++ number) rest) clientFinishes) schedule =
      some stream ->
    Probed (amount number) (clientStream (measurePrefix ++ number) rest) schedule stream

theorem carrying_of_run {target : Text} {payload : List UInt8} {clientFinishes intact : Bool}
    {schedule : List StreamMove} {stream : GatewayStream} (trimmed : Text.Trimmed target)
    (single : '\n' ∉ target) (ordinary : ¬ measurePrefix <+: target)
    (sound : intact = true -> forall move, move ∈ schedule -> move.fails = false)
    (ran : run step (start (clientStream target payload) clientFinishes) schedule = some stream) :
    stream.Carrying target payload intact := by
  refine invariant_of_schedule (Carrying target payload intact) ?_ ?_ ran
  · intro state move next member carrying stepped
    exact carrying.step trimmed single ordinary (fun whole => sound whole move member)
      (moved_of_step stepped)
  · rw [clientStream_eq]
    exact ⟨inLine_start payload, rfl, rfl⟩

theorem probing_of_run {number : Text} {rest : List UInt8} {clientFinishes intact : Bool}
    {schedule : List StreamMove} {stream : GatewayStream}
    (visible : exists char, char ∈ number ∧ Text.isWhitespace char = false)
    (single : '\n' ∉ number)
    (sound : intact = true -> forall move, move ∈ schedule -> move.fails = false)
    (ran : run step (start (clientStream (measurePrefix ++ number) rest) clientFinishes) schedule =
      some stream) :
    stream.Probing number rest (probeAmount number) intact := by
  refine invariant_of_schedule (Probing number rest (probeAmount number) intact) ?_ ?_ ran
  · intro state move next member probing stepped
    exact probing.step visible single (fun whole => sound whole move member)
      (moved_of_step stepped)
  · rw [clientStream_eq]
    exact ⟨inLine_start rest, rfl, rfl⟩

theorem Carrying.within {target : Text} {payload : List UInt8} {intact : Bool}
    {stream : GatewayStream} (carrying : stream.Carrying target payload intact) :
    stream.dialed <+: [target] ∧ stream.toTarget <+: payload := by
  unfold Carrying at carrying
  split at carrying
  · rw [carrying.2.1, carrying.2.2]
    exact ⟨List.nil_prefix, List.nil_prefix⟩
  · exact carrying.elim
  · rw [carrying.2.2.1, carrying.2.2.2]
    exact ⟨List.prefix_refl _, List.nil_prefix⟩
  · rw [carrying.1]
    exact ⟨List.prefix_refl _, carrying.2.written⟩
  · exact ⟨carrying.1, carrying.2.1⟩

theorem Probing.within {number : Text} {rest : List UInt8} {amount : Nat} {intact : Bool}
    {stream : GatewayStream} (probing : stream.Probing number rest amount intact) :
    stream.dialed = [] ∧ stream.toClient <+: List.replicate amount 0 := by
  unfold Probing at probing
  split at probing
  · rw [probing.2.2]
    exact ⟨probing.2.1, List.nil_prefix⟩
  · exact ⟨probing.1, _, probing.2⟩
  · exact ⟨probing.1, probing.2.1⟩
  · exact probing.elim

theorem carried_of_run {target : Text} {payload : List UInt8} {clientFinishes : Bool}
    {schedule : List StreamMove} {stream : GatewayStream} (trimmed : Text.Trimmed target)
    (single : '\n' ∉ target) (ordinary : ¬ measurePrefix <+: target)
    (ran : run step (start (clientStream target payload) clientFinishes) schedule = some stream) :
    Carried target payload schedule stream := by
  have carrying : stream.Carrying target payload false :=
    carrying_of_run trimmed single ordinary nofun ran
  refine ⟨carrying.within.1, carrying.within.2, ?_, carries_of_run ran⟩
  intro sound settled
  exact (carrying_of_run trimmed single ordinary (fun _ => sound) ran).settled settled

/-- The gateway dials the target that the client wrote and hands it the payload,
however the stream is split, and answers a probe with the number of bytes that
its number, without white space around it, stands for. -/
theorem stream_protocol : StreamProtocol probeAmount where
  targets := by
    intro target payload clientFinishes schedule stream trimmed single ordinary ran
    exact carried_of_run trimmed single ordinary ran
  probes := by
    intro number rest clientFinishes schedule stream visible single ran
    have probing : stream.Probing number rest (probeAmount number) false :=
      probing_of_run visible single nofun ran
    refine ⟨probing.within.1, probing.within.2, ?_, carries_of_run ran⟩
    intro sound settled
    exact (probing_of_run visible single (fun _ => sound) ran).settled settled

/-- The first read ends inside the target and the second inside the payload. -/
def splitSchedule : List StreamMove :=
  [.fill 2, .fill 3, .connect true, .pull 1 1, .push 1, .pull 2 1, .pull 1 1, .push 2, .pullEnd,
    .shutdown]

theorem stream_protocol_split :
    exists stream,
      run step (start (clientStream "h:1".toList [10, 65, 10]) true) splitSchedule =
        some stream ∧
      Carried "h:1".toList [10, 65, 10] splitSchedule stream ∧
      stream.dialed = ["h:1".toList] ∧ stream.toTarget = [10, 65, 10] := by
  have trimmed : Text.Trimmed "h:1".toList := by
    refine ⟨nofun, ?_, ?_⟩
    · intro char found
      cases found
      rfl
    · intro char found
      cases found
      rfl
  have ran : run step (start (clientStream "h:1".toList [10, 65, 10]) true) splitSchedule =
      some ⟨⟨[], []⟩, true, .splicing .closed (.running []), ["h:1".toList], [10, 65, 10], []⟩ :=
    rfl
  exact ⟨_, ran, stream_protocol.targets _ _ _ _ _ trimmed (by decide) (by decide) ran, rfl, rfl⟩

/-- The number of this probe does not parse, for it begins with white space, and
five bytes are written all the same. -/
theorem padded_number_measured :
    Text.parseU64 " 5".toList = none ∧
      (exists stream,
        run step (start (clientStream (measurePrefix ++ " 5".toList) []) true)
          [.fill 12, .writeChunk, .finishMeasure] = some stream ∧
        stream.phase = .returned true ∧ stream.toClient.length = 5) ∧
      ¬ StreamProtocol (fun number => min ((Text.parseU64 number).getD 0) measureMax) := by
  have ran : run step (start (clientStream (measurePrefix ++ " 5".toList) []) true)
      [.fill 12, .writeChunk, .finishMeasure] =
        some ⟨⟨[], []⟩, true, .returned true, [], [], [0, 0, 0, 0, 0]⟩ := rfl
  refine ⟨by decide, ⟨_, ran, rfl, rfl⟩, ?_⟩
  intro protocol
  have probed := protocol.probes _ _ _ _ _ ⟨'5', by decide, by decide⟩ (by decide) ran
  have none := probed.complete (by decide) (by
    intro move carries
    cases move <;> rfl)
  cases none

end GatewayStream
end Gateway
end QuicMix
