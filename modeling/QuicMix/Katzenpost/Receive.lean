import QuicMix.Boundary.Substrate
import QuicMix.Foundations.Frames
import QuicMix.Foundations.Script

namespace QuicMix
namespace Katzenpost

open Foundations
open Boundary

/-!
# Receiving from the thin-client daemon

The daemon sends frames, each an encoded response behind its length.  A call of
`try_recv` reads frames until one carries a message reply and hands its payload
up.  Status events, PKI updates and acks are passed over.

The error code of a reply is decoded and not looked at, and every error of the
loop is reported as the end of the connection: a frame that is too large, a
frame that cannot be decoded, and the end of the socket are told apart by
nobody.
-/

structure MessageReplyEvent where
  payload : List UInt8
  errorCode : UInt8
  deriving DecidableEq, Repr

structure Response where
  connectionStatusEvent : Option Bool
  newPkiDocumentEvent : Option (List UInt8)
  sessionTokenReply : Option Bool
  messageReplyEvent : Option MessageReplyEvent
  deriving DecidableEq, Repr

/-- The bound of 16 MiB on the length of a frame. -/
def maxFrame : Nat := 1 <<< 24

/-- What a call takes from the stream: a whole frame, or the length of one that
is too large. -/
inductive Frame where
  | whole (buf : List UInt8)
  | tooLarge (size : Nat)
  deriving DecidableEq, Repr

/-- The reads of `read_frame`. -/
def readFrame : Script Frame :=
  .read 4 (fun len =>
    if ofBe len > maxFrame then .done (.tooLarge (ofBe len))
    else .read (ofBe len) (fun buf => .done (.whole buf)))

inductive FrameError where
  | tooLarge (size : Nat)
  | undecodable
  deriving DecidableEq, Repr

/-- The end of `read_frame`: a whole frame is decoded. -/
def Frame.response (decode : List UInt8 -> Option Response) : Frame -> Except FrameError Response
  | .tooLarge size => .error (.tooLarge size)
  | .whole buf =>
      match decode buf with
      | none => .error .undecodable
      | some response => .ok response

/-- The reading half of the substrate. -/
structure Receiver where
  /-- What the call under way has left to read of its frame. -/
  call : Option (Script Frame)
  unread : List UInt8
  /-- The socket is closed: nothing arrives behind the unread bytes. -/
  closed : Bool
  /-- What was taken from the stream, in order. -/
  taken : List Frame
  results : List RecvResult

inductive Event where
  | recv
  | read (size : Nat)
  | close
  | eof
  | reset

namespace Receiver

def start (stream : List UInt8) : Receiver where
  call := none
  unread := stream
  closed := false
  taken := []
  results := []

/-- A call returns. -/
def answer (receiver : Receiver) (result : RecvResult) : Receiver :=
  { receiver with call := none, results := receiver.results ++ [result] }

/-- One round of `read_until_reply`, and what `try_recv` makes of its end. -/
def handle (decode : List UInt8 -> Option Response) (receiver : Receiver) (frame : Frame) :
    Receiver :=
  match frame.response decode with
  | .error _ => receiver.answer (.error .closed)
  | .ok response =>
      match response.messageReplyEvent with
      | some event => receiver.answer (.ok event.payload)
      | none => { receiver with call := some readFrame }

/-- Some of the wanted bytes arrived. -/
def progress (decode : List UInt8 -> Option Response) (receiver : Receiver) :
    Script Frame -> Receiver
  | .done frame => handle decode { receiver with taken := receiver.taken ++ [frame] } frame
  | script => { receiver with call := some script }

def step (decode : List UInt8 -> Option Response) (receiver : Receiver) :
    Event -> Option Receiver
  | .recv =>
      match receiver.call with
      | none => some { receiver with call := some readFrame }
      | some _ => none
  | .read size =>
      match receiver.call with
      | some (.read wanted next) =>
          if 0 < size ∧ size <= wanted ∧ size <= receiver.unread.length then
            some (progress decode { receiver with unread := receiver.unread.drop size }
              (Script.after wanted next (receiver.unread.take size)).settle)
          else none
      | _ => none
  | .close => some { receiver with closed := true }
  | .eof =>
      match receiver.call with
      | some (.read _ _) =>
          if receiver.closed = true ∧ receiver.unread = [] then
            some (receiver.answer (.error .closed))
          else none
      | _ => none
  | .reset =>
      match receiver.call with
      | some (.read _ _) =>
          some ({ receiver with closed := true, unread := [] }.answer (.error .closed))
      | _ => none

end Receiver

/-! ## What should be received -/

/-- The bytes of what was taken. -/
def Frame.wire : Frame -> List UInt8
  | .whole buf => be32 buf.length ++ buf
  | .tooLarge size => be32 size

/-- The lengths are those that `read_frame` takes the frame for. -/
def Frame.Proper : Frame -> Prop
  | .whole buf => buf.length <= maxFrame
  | .tooLarge size => maxFrame < size ∧ size < 2 ^ 32

section Specification

variable (decode : List UInt8 -> Option Response)

/-- The datagram of a frame: the payload of a reply without an error. -/
def Frame.datagram (frame : Frame) : Option Datagram :=
  match frame.response decode with
  | .error _ => none
  | .ok response =>
      match response.messageReplyEvent with
      | some event => if event.errorCode = 0 then some event.payload else none
      | none => none

/-- The frame is too large or cannot be decoded. -/
def Frame.damaged (frame : Frame) : Bool :=
  match frame.response decode with
  | .error _ => true
  | .ok _ => false

def isMalformed : RecvResult -> Bool
  | .error .malformed => true
  | _ => false

/-- The calls have returned what they should: the datagrams of the frames that
were taken, in order, an error for each damaged frame, and the end of the
connection only where it ended. -/
structure Faithful (stream : List UInt8) (receiver : Receiver) : Prop where
  taken : exists held lost,
    receiver.taken.flatMap Frame.wire ++ held ++ receiver.unread ++ lost = stream ∧
      (receiver.call = none -> held = []) ∧ (receiver.closed = false -> lost = [])
  datagrams : receiver.results.filterMap Except.toOption =
    receiver.taken.filterMap (Frame.datagram decode)
  malformed : receiver.results.countP isMalformed = receiver.taken.countP (Frame.damaged decode)
  ended : .error .closed ∈ receiver.results -> receiver.closed = true ∧ receiver.unread = []
  ready : receiver.call ≠ none ->
    (receiver.unread ≠ [] -> exists next, receiver.step decode (.read 1) = some next) ∧
      (receiver.unread = [] -> receiver.closed = true ->
        exists next, receiver.step decode .eof = some next)

/-- The frame is an event or a reply without an error. -/
def Frame.Acceptable (frame : Frame) : Prop :=
  exists response, frame.response decode = .ok response ∧
    forall event, response.messageReplyEvent = some event -> event.errorCode = 0

/-- No frame of the stream is damaged and none is a reply with an error. -/
def Clean (stream : List UInt8) : Prop :=
  forall (frames : List Frame) (rest : List UInt8), stream = frames.flatMap Frame.wire ++ rest ->
    (forall frame, frame ∈ frames -> frame.Proper) ->
    forall frame, frame ∈ frames -> frame.Acceptable decode

end Specification

variable {decode : List UInt8 -> Option Response}

/-! ## Frames on the stream -/

theorem silent_readFrame : readFrame.Silent := by
  intro len
  dsimp only
  split
  · exact trivial
  · exact fun _ => trivial

/-- What `read_frame` takes from the stream are the bytes of the frame. -/
theorem finish_readFrame {stream rest : List UInt8} {frame : Frame}
    (finished : readFrame.finish stream = some (frame, rest)) :
    stream = frame.wire ++ rest ∧ frame.Proper := by
  rcases Script.finish_read_eq_some finished with ⟨header, behind, rfl, four, continued⟩
  split at continued
  case isTrue large =>
      cases continued
      refine ⟨?_, large, ofBe_lt four⟩
      rw [Frame.wire, be32_ofBe four]
  case isFalse small =>
      rcases Script.finish_read_eq_some continued with ⟨buf, after, rfl, exactly, ended⟩
      cases ended
      refine ⟨?_, ?_⟩
      · rw [Frame.wire, exactly, be32_ofBe four, List.append_assoc]
      · change buf.length <= maxFrame
        omega

/-- A script that has read some bytes of a frame and wants more. -/
structure Pending (held : List UInt8) (script : Script Frame) : Prop where
  settled : script.Settled
  silent : script.Silent
  unfinished : forall frame, script ≠ .done frame
  residual : forall rest, script.evaluate rest = readFrame.evaluate (held ++ rest)

theorem pending_readFrame : Pending [] readFrame where
  settled := Nat.succ_pos 3
  silent := silent_readFrame
  unfinished := fun _ same => nomatch same
  residual := fun _ => rfl

/-- A pending script is about to read. -/
theorem Pending.reads {held : List UInt8} {script : Script Frame} (pending : Pending held script) :
    exists wanted next, script = .read wanted next ∧ 0 < wanted := by
  cases script with
  | done frame => exact absurd rfl (pending.unfinished frame)
  | write bytes next => exact pending.silent.elim
  | read wanted next => exact ⟨wanted, next, rfl, pending.settled⟩

/-- Some of the wanted bytes complete the frame, or the script goes on wanting. -/
theorem Pending.read {held : List UInt8} {wanted : Nat} {next : List UInt8 -> Script Frame}
    (pending : Pending held (.read wanted next)) {chunk : List UInt8}
    (within : chunk.length <= wanted) :
    (exists frame, (Script.after wanted next chunk).settle = .done frame ∧
      held ++ chunk = frame.wire ∧ frame.Proper) ∨
    Pending (held ++ chunk) (Script.after wanted next chunk).settle := by
  have residual : forall rest, (Script.after wanted next chunk).settle.evaluate rest =
      readFrame.evaluate (held ++ chunk ++ rest) := by
    intro rest
    rw [Script.evaluate_settle, Script.evaluate_after within, pending.residual, List.append_assoc]
  have silent : (Script.after wanted next chunk).settle.Silent :=
    Script.Silent.settle (fun rest => pending.silent (chunk ++ rest))
  cases shape : (Script.after wanted next chunk).settle with
  | done frame =>
      refine .inl ⟨frame, rfl, ?_⟩
      have ended := congrArg Prod.snd (residual [])
      rw [shape, List.append_nil] at ended
      rcases finish_readFrame ended.symm with ⟨bytes, proper⟩
      exact ⟨bytes.trans (List.append_nil _), proper⟩
  | write bytes after =>
      rw [shape] at silent
      exact silent.elim
  | read size after =>
      have settled := Script.settled_settle (Script.after wanted next chunk)
      rw [shape] at settled silent residual
      exact .inr ⟨settled, silent, (fun _ same => nomatch same), residual⟩

/-! ## Runs -/

namespace Receiver

/-- Where the receiver stands in the stream. -/
structure Aligned (stream : List UInt8) (receiver : Receiver) : Prop where
  proper : forall frame, frame ∈ receiver.taken -> frame.Proper
  position : exists held lost,
    receiver.taken.flatMap Frame.wire ++ held ++ receiver.unread ++ lost = stream ∧
      (receiver.closed = false -> lost = []) ∧
      ((receiver.call = none ∧ held = []) ∨
        exists script, receiver.call = some script ∧ Pending held script)

/-- What one event does. -/
inductive Moved (decode : List UInt8 -> Option Response) (receiver : Receiver) :
    Event -> Receiver -> Prop where
  | recv (idle : receiver.call = none) :
      Moved decode receiver .recv { receiver with call := some readFrame }
  | read (wanted : Nat) (next : List UInt8 -> Script Frame) (chunk rest : List UInt8)
      (reading : receiver.call = some (.read wanted next)) (within : chunk.length <= wanted)
      (bytes : receiver.unread = chunk ++ rest) :
      Moved decode receiver (.read chunk.length)
        (progress decode { receiver with unread := rest } (Script.after wanted next chunk).settle)
  | close : Moved decode receiver .close { receiver with closed := true }
  | eof (wanted : Nat) (next : List UInt8 -> Script Frame)
      (reading : receiver.call = some (.read wanted next)) (closed : receiver.closed = true)
      (ended : receiver.unread = []) :
      Moved decode receiver .eof (receiver.answer (.error .closed))
  | reset (wanted : Nat) (next : List UInt8 -> Script Frame)
      (reading : receiver.call = some (.read wanted next)) :
      Moved decode receiver .reset
        ({ receiver with closed := true, unread := [] }.answer (.error .closed))

theorem moved_of_step {receiver next : Receiver} {event : Event}
    (moved : receiver.step decode event = some next) : Moved decode receiver event next := by
  cases event with
  | recv =>
      simp only [step] at moved
      split at moved
      case h_1 idle =>
          cases moved
          exact .recv idle
      case h_2 => cases moved
  | read size =>
      simp only [step] at moved
      split at moved
      case h_1 wanted after reading =>
          split at moved
          case isTrue enough =>
              cases moved
              have exactly : (receiver.unread.take size).length = size :=
                List.length_take_of_le enough.2.2
              have made := @Moved.read decode receiver wanted after (receiver.unread.take size)
                (receiver.unread.drop size) reading (exactly.symm ▸ enough.2.1)
                (List.take_append_drop size receiver.unread).symm
              rw [exactly] at made
              exact made
          case isFalse => cases moved
      case h_2 => cases moved
  | close =>
      cases moved
      exact .close
  | eof =>
      simp only [step] at moved
      split at moved
      case h_1 wanted after reading =>
          split at moved
          case isTrue ended =>
              cases moved
              exact .eof wanted after reading ended.1 ended.2
          case isFalse => cases moved
      case h_2 => cases moved
  | reset =>
      simp only [step] at moved
      split at moved
      case h_1 wanted after reading =>
          cases moved
          exact .reset wanted after reading
      case h_2 => cases moved

/-- Handling a frame adds results and decides whether the call goes on. -/
theorem handle_frame (receiver : Receiver) (frame : Frame) :
    (handle decode receiver frame).taken = receiver.taken ∧
      (handle decode receiver frame).unread = receiver.unread ∧
      (handle decode receiver frame).closed = receiver.closed ∧
      ((handle decode receiver frame).call = none ∨
        (handle decode receiver frame).call = some readFrame) := by
  rw [handle]
  split
  · exact ⟨rfl, rfl, rfl, .inl rfl⟩
  · split
    · exact ⟨rfl, rfl, rfl, .inl rfl⟩
    · exact ⟨rfl, rfl, rfl, .inr rfl⟩

/-- An acceptable frame is handed up if it is a reply. -/
theorem results_handle {receiver : Receiver} {frame : Frame}
    (acceptable : frame.Acceptable decode) :
    (handle decode receiver frame).results =
        receiver.results ++ (frame.datagram decode).toList.map Except.ok ∧
      frame.damaged decode = false := by
  rcases acceptable with ⟨response, decoded, free⟩
  cases reply : response.messageReplyEvent with
  | none =>
      simp only [handle, Frame.datagram, Frame.damaged, decoded, reply, Option.toList_none,
        List.map_nil, List.append_nil, and_self]
  | some event =>
      simp only [handle, Frame.datagram, Frame.damaged, decoded, reply, free event reply, if_true,
        Option.toList_some, List.map_cons, List.map_nil, answer, and_self]

theorem progress_pending {held : List UInt8} {script : Script Frame}
    (pending : Pending held script) (receiver : Receiver) :
    progress decode receiver script = { receiver with call := some script } := by
  rcases pending.reads with ⟨wanted, next, rfl, _⟩
  rfl

/-- The bytes that were read are the frames that were taken and a part of the
next one. -/
theorem Moved.aligned {stream : List UInt8} {receiver next : Receiver} {event : Event}
    (moved : Moved decode receiver event next) (aligned : Aligned stream receiver) :
    Aligned stream next := by
  rcases aligned with ⟨proper, held, lost, bytes, complete, standing⟩
  cases moved with
  | recv idle =>
      rcases standing with ⟨_, rfl⟩ | ⟨script, busy, _⟩
      · exact ⟨proper, [], lost, bytes, complete, .inr ⟨readFrame, rfl, pending_readFrame⟩⟩
      · rw [idle] at busy
        cases busy
  | close =>
      exact ⟨proper, held, lost, bytes, (fun same => nomatch same), standing⟩
  | eof wanted after reading closed ended =>
      refine ⟨proper, [], held ++ lost, ?_, fun open_ => ?_, .inl ⟨rfl, rfl⟩⟩
      · change receiver.taken.flatMap Frame.wire ++ [] ++ receiver.unread ++ (held ++ lost) = stream
        rw [← bytes, ended]
        simp only [List.append_nil, List.append_assoc]
      · exact absurd (open_.symm.trans closed) Bool.false_ne_true
  | reset wanted after reading =>
      refine ⟨proper, [], held ++ (receiver.unread ++ lost), ?_, (fun same => nomatch same),
        .inl ⟨rfl, rfl⟩⟩
      change receiver.taken.flatMap Frame.wire ++ [] ++ [] ++
        (held ++ (receiver.unread ++ lost)) = stream
      rw [← bytes]
      simp only [List.append_nil, List.append_assoc]
  | read wanted after chunk rest reading within arrived =>
      rcases standing with ⟨idle, _⟩ | ⟨script, busy, pending⟩
      · rw [reading] at idle
        cases idle
      · rw [reading] at busy
        cases busy
        rw [arrived] at bytes
        rcases pending.read within with ⟨frame, done, whole, isProper⟩ | going
        · rw [done, progress]
          rcases @handle_frame decode { receiver with
            unread := rest, taken := receiver.taken ++ [frame] } frame with
            ⟨taken, unread, closed, call⟩
          refine ⟨?_, [], lost, ?_, ?_, ?_⟩
          · rw [taken]
            intro other member
            rcases List.mem_append.mp member with old | new
            · exact proper other old
            · rw [List.mem_singleton.mp new]
              exact isProper
          · rw [taken, unread, ← bytes, List.flatMap_append, List.flatMap_singleton, ← whole]
            simp only [List.append_nil, List.append_assoc]
          · rw [closed]
            exact complete
          · rcases call with idle | again
            · exact .inl ⟨idle, rfl⟩
            · exact .inr ⟨readFrame, again, pending_readFrame⟩
        · rw [progress_pending going]
          refine ⟨proper, held ++ chunk, lost, ?_, complete, .inr ⟨_, rfl, going⟩⟩
          rw [← bytes]
          simp only [List.append_assoc]

theorem aligned_start (stream : List UInt8) : Aligned stream (start stream) :=
  ⟨fun _ member => (List.not_mem_nil member).elim, [], [], List.append_nil _, fun _ => rfl,
    .inl ⟨rfl, rfl⟩⟩

/-- The results so far are those of the frames so far. -/
structure Reported (decode : List UInt8 -> Option Response) (receiver : Receiver) : Prop where
  datagrams : receiver.results.filterMap Except.toOption =
    receiver.taken.filterMap (Frame.datagram decode)
  malformed : receiver.results.countP isMalformed = receiver.taken.countP (Frame.damaged decode)
  ended : .error .closed ∈ receiver.results -> receiver.closed = true ∧ receiver.unread = []

/-- The end of the connection is one more result and no datagram. -/
theorem Reported.answer_closed {receiver next : Receiver} (reported : Reported decode receiver)
    (taken : next.taken = receiver.taken)
    (results : next.results = receiver.results ++ [.error .closed])
    (closed : next.closed = true) (ended : next.unread = []) : Reported decode next where
  datagrams := by
    rw [results, taken, List.filterMap_append, ← reported.datagrams]
    exact List.append_nil _
  malformed := by
    rw [results, taken, List.countP_append, ← reported.malformed]
    rfl
  ended := fun _ => ⟨closed, ended⟩

theorem Reported.handle {receiver : Receiver} (reported : Reported decode receiver)
    {frame : Frame} (acceptable : frame.Acceptable decode) {rest : List UInt8}
    (exhausted : .error .closed ∈ receiver.results -> receiver.closed = true ∧ rest = []) :
    Reported decode (handle decode
      { receiver with unread := rest, taken := receiver.taken ++ [frame] } frame) := by
  have kept := @handle_frame decode
    { receiver with unread := rest, taken := receiver.taken ++ [frame] } frame
  have added := @results_handle decode
    { receiver with unread := rest, taken := receiver.taken ++ [frame] } frame acceptable
  refine ⟨?_, ?_, ?_⟩
  · have one : [frame].filterMap (Frame.datagram decode) = (frame.datagram decode).toList := by
      cases read : frame.datagram decode with
      | none => rw [List.filterMap_cons_none read, List.filterMap_nil, Option.toList_none]
      | some payload => rw [List.filterMap_cons_some read, List.filterMap_nil, Option.toList_some]
    rw [kept.1, added.1, List.filterMap_append, List.filterMap_append, reported.datagrams, one]
    cases frame.datagram decode with
    | none => rfl
    | some payload => rfl
  · rw [kept.1, added.1, List.countP_append, List.countP_append, reported.malformed,
      List.countP_singleton, added.2]
    cases frame.datagram decode with
    | none => rfl
    | some payload => rfl
  · rw [added.1, kept.2.1, kept.2.2.1]
    intro member
    rcases List.mem_append.mp member with old | new
    · exact exhausted old
    · rcases List.mem_map.mp new with ⟨payload, _, same⟩
      cases same

theorem Moved.reported {stream : List UInt8} (clean : Clean decode stream)
    {receiver next : Receiver} {event : Event} (moved : Moved decode receiver event next)
    (aligned : Aligned stream receiver) (reported : Reported decode receiver) :
    Reported decode next := by
  cases moved with
  | recv idle => exact ⟨reported.datagrams, reported.malformed, reported.ended⟩
  | close =>
      exact ⟨reported.datagrams, reported.malformed, fun member => ⟨rfl, (reported.ended member).2⟩⟩
  | eof wanted after reading closed ended =>
      exact reported.answer_closed rfl rfl closed ended
  | reset wanted after reading => exact reported.answer_closed rfl rfl rfl rfl
  | read wanted after chunk rest reading within arrived =>
      have exhausted : .error .closed ∈ receiver.results -> receiver.closed = true ∧ rest = [] := by
        intro member
        rcases reported.ended member with ⟨closed, empty⟩
        rw [arrived] at empty
        exact ⟨closed, (List.append_eq_nil_iff.mp empty).2⟩
      rcases aligned with ⟨proper, held, lost, bytes, _, standing⟩
      rcases standing with ⟨idle, _⟩ | ⟨script, busy, pending⟩
      · rw [reading] at idle
        cases idle
      · rw [reading] at busy
        cases busy
        rw [arrived] at bytes
        rcases pending.read within with ⟨frame, done, whole, isProper⟩ | going
        · have acceptable : frame.Acceptable decode := by
            refine clean (receiver.taken ++ [frame]) (rest ++ lost) ?_ ?_ frame
              (List.mem_append_right _ List.mem_cons_self)
            · rw [← bytes, List.flatMap_append, List.flatMap_singleton, ← whole]
              simp only [List.append_assoc]
            · intro other member
              rcases List.mem_append.mp member with old | new
              · exact proper other old
              · rw [List.mem_singleton.mp new]
                exact isProper
          rw [done, progress]
          exact reported.handle acceptable exhausted
        · rw [progress_pending going]
          exact ⟨reported.datagrams, reported.malformed, exhausted⟩

theorem Aligned.faithful {stream : List UInt8} {receiver : Receiver}
    (aligned : Aligned stream receiver) (reported : Reported decode receiver) :
    Faithful decode stream receiver := by
  rcases aligned with ⟨_, held, lost, bytes, complete, standing⟩
  refine ⟨⟨held, lost, bytes, ?_, complete⟩, reported.datagrams, reported.malformed,
    reported.ended, ?_⟩
  · intro idle
    rcases standing with ⟨_, empty⟩ | ⟨script, busy, _⟩
    · exact empty
    · rw [idle] at busy
      cases busy
  · intro going
    rcases standing with ⟨idle, _⟩ | ⟨script, busy, pending⟩
    · exact absurd idle going
    · rcases pending.reads with ⟨wanted, next, rfl, positive⟩
      constructor
      · intro bytesLeft
        have enough : 1 <= receiver.unread.length := List.length_pos_of_ne_nil bytesLeft
        simp only [step, busy]
        exact ⟨_, if_pos ⟨Nat.one_pos, positive, enough⟩⟩
      · intro empty closed
        simp only [step, busy]
        exact ⟨_, if_pos ⟨closed, empty⟩⟩

theorem faithful_of_run {stream : List UInt8} (clean : Clean decode stream) {events : List Event}
    {receiver : Receiver} (ran : run (step decode) (start stream) events = some receiver) :
    Faithful decode stream receiver := by
  have both := invariant (fun receiver => Aligned stream receiver ∧ Reported decode receiver)
    (fun _ _ _ holds moved => ⟨(moved_of_step moved).aligned holds.1,
      (moved_of_step moved).reported clean holds.1 holds.2⟩)
    ⟨aligned_start stream, rfl, rfl, fun member => (List.not_mem_nil member).elim⟩ ran
  exact both.1.faithful both.2

/-! ## Every frame is reached -/

theorem handle_call (receiver : Receiver) (call : Option (Script Frame)) (frame : Frame) :
    handle decode { receiver with call := call } frame = handle decode receiver frame := by
  simp only [handle]
  split
  · rfl
  · split
    · rfl
    · rfl

/-- A pending call can take the frame at the front of the stream, byte by byte. -/
theorem takes_frame {frame : Frame} {rest : List UInt8} {receiver : Receiver}
    {held : List UInt8} {script : Script Frame} (busy : receiver.call = some script)
    (pending : Pending held script)
    (finishes : script.finish receiver.unread = some (frame, rest)) :
    exists events, run (step decode) receiver events = some (handle decode
      { receiver with unread := rest, taken := receiver.taken ++ [frame] } frame) := by
  generalize arrived : receiver.unread = bytes at finishes
  induction bytes generalizing receiver held script with
  | nil =>
      rcases pending.reads with ⟨wanted, next, rfl, positive⟩
      rw [Script.finish, Script.evaluate_read_short positive] at finishes
      cases finishes
  | cons byte bytes inductionHypothesis =>
      rcases pending.reads with ⟨wanted, next, rfl, positive⟩
      have moved : receiver.step decode (.read 1) = some (progress decode
          { receiver with unread := bytes } (Script.after wanted next [byte]).settle) := by
        have enough : 1 <= receiver.unread.length := by
          rw [arrived]
          exact Nat.succ_le_succ (Nat.zero_le bytes.length)
        simp only [step, busy]
        rw [if_pos ⟨Nat.one_pos, positive, enough⟩, arrived]
        rfl
      have left : (Script.after wanted next [byte]).settle.finish bytes = some (frame, rest) := by
        rw [Script.finish, Script.evaluate_settle, Script.evaluate_after positive]
        exact finishes
      rcases @Pending.read _ _ _ pending [byte] positive with ⟨other, done, _⟩ | going
      · rw [done] at left moved
        cases left
        exact ⟨[.read 1], run_cons.mpr ⟨_, moved, rfl⟩⟩
      · rw [progress_pending going] at moved
        rcases @inductionHypothesis { receiver with
            unread := bytes
            call := some (Script.after wanted next [byte]).settle } _ _ rfl going rfl
            left with ⟨events, ran⟩
        refine ⟨.read 1 :: events, run_cons.mpr ⟨_, moved, ran.trans (congrArg some ?_)⟩⟩
        exact handle_call { receiver with
          unread := rest, taken := receiver.taken ++ [frame] } _ frame

/-- The bytes of a frame are taken for that frame. -/
theorem finish_wire {frame : Frame} (proper : frame.Proper) (rest : List UInt8) :
    readFrame.finish (frame.wire ++ rest) = some (frame, rest) := by
  have small : maxFrame < 2 ^ 32 := by decide
  cases frame with
  | whole buf =>
      have fits : buf.length <= maxFrame := proper
      have read : ofBe (be32 buf.length) = buf.length := ofBe_be32 (Nat.lt_of_le_of_lt fits small)
      rw [Frame.wire, List.append_assoc, Script.finish, readFrame,
        Script.evaluate_read (length_be32 _), read, if_neg (Nat.not_lt.mpr fits),
        Script.evaluate_read rfl, Script.evaluate]
  | tooLarge size =>
      rw [Frame.wire, Script.finish, readFrame, Script.evaluate_read (length_be32 _),
        ofBe_be32 proper.2, if_pos proper.1, Script.evaluate]

/-- A call, or the next round of one, takes the next frame. -/
theorem takes_next {frame : Frame} (proper : frame.Proper) {rest : List UInt8}
    {receiver : Receiver} (standing : receiver.call = none ∨ receiver.call = some readFrame)
    (bytes : receiver.unread = frame.wire ++ rest) :
    exists events, run (step decode) receiver events = some (handle decode
      { receiver with unread := rest, taken := receiver.taken ++ [frame] } frame) := by
  have finishes : readFrame.finish receiver.unread = some (frame, rest) := by
    rw [bytes]
    exact finish_wire proper rest
  rcases standing with idle | busy
  · have moved : receiver.step decode .recv = some { receiver with call := some readFrame } := by
      simp only [step, idle]
    rcases @takes_frame decode frame rest { receiver with call := some readFrame } [] readFrame rfl
      pending_readFrame finishes with ⟨events, ran⟩
    refine ⟨.recv :: events, run_cons.mpr ⟨_, moved, ran.trans (congrArg some ?_)⟩⟩
    exact handle_call { receiver with unread := rest, taken := receiver.taken ++ [frame] } _ frame
  · exact takes_frame busy pending_readFrame finishes

/-- The calls can reach every frame of the stream before the socket is closed. -/
theorem reaches {frames : List Frame} {rest : List UInt8} {receiver : Receiver}
    (proper : forall frame, frame ∈ frames -> frame.Proper)
    (standing : receiver.call = none ∨ receiver.call = some readFrame)
    (live : receiver.closed = false)
    (bytes : receiver.unread = frames.flatMap Frame.wire ++ rest) :
    exists events reached, run (step decode) receiver events = some reached ∧
      (reached.call = none ∨ reached.call = some readFrame) ∧ reached.closed = false ∧
      reached.unread = rest := by
  induction frames generalizing receiver with
  | nil => exact ⟨[], receiver, rfl, standing, live, bytes⟩
  | cons frame frames inductionHypothesis =>
      rw [List.flatMap_cons, List.append_assoc] at bytes
      rcases @takes_next decode frame (proper frame List.mem_cons_self) _ receiver standing bytes
        with ⟨first, ranFirst⟩
      have kept := @handle_frame decode { receiver with
        unread := frames.flatMap Frame.wire ++ rest, taken := receiver.taken ++ [frame] } frame
      rcases inductionHypothesis (fun other member => proper other (List.mem_cons_of_mem _ member))
        kept.2.2.2 (kept.2.2.1.trans live) kept.2.1 with ⟨events, reached, ran, rest⟩
      exact ⟨first ++ events, reached, run_append_eq_some.mpr ⟨_, ranFirst, ran⟩, rest⟩

/-- What is reported right is acceptable: an error would end the calls on a live
socket, and the payload of a reply with an error would be handed up. -/
theorem acceptable_of_faithful {stream : List UInt8} {receiver : Receiver} {frame : Frame}
    {rest : List UInt8} (before : Faithful decode stream receiver)
    (live : receiver.closed = false)
    (after : Faithful decode stream (handle decode
      { receiver with unread := rest, taken := receiver.taken ++ [frame] } frame)) :
    frame.Acceptable decode := by
  cases decoded : frame.response decode with
  | error error =>
      simp only [handle, decoded] at after
      have ended := after.ended (List.mem_append_right _ List.mem_cons_self)
      exact absurd (live.symm.trans ended.1) Bool.false_ne_true
  | ok response =>
      refine ⟨response, decoded, ?_⟩
      intro event reply
      by_contra code
      have none : frame.datagram decode = none := by
        simp only [Frame.datagram, decoded, reply, if_neg code]
      simp only [handle, decoded, reply] at after
      have datagrams := after.datagrams
      simp only [answer, List.filterMap_append, before.datagrams, List.filterMap_cons_none none,
        List.filterMap_nil, List.append_nil] at datagrams
      have lengths := congrArg List.length datagrams
      simp only [List.length_append] at lengths
      have one : ([.ok event.payload] : List RecvResult).filterMap Except.toOption =
        [event.payload] := rfl
      rw [one] at lengths
      exact absurd lengths (Nat.ne_of_gt (Nat.lt_succ_self _))

end Receiver

/-- In every run the calls return what they should, exactly if no frame of the
stream is damaged and none is a reply with an error. -/
theorem faithful_iff_clean (decode : List UInt8 -> Option Response) (stream : List UInt8) :
    (forall (events : List Event) (receiver : Receiver),
      run (Receiver.step decode) (Receiver.start stream) events = some receiver ->
      Faithful decode stream receiver) <-> Clean decode stream := by
  constructor
  · intro faithful frames rest bytes proper frame member
    rcases List.append_of_mem member with ⟨before, after, rfl⟩
    rw [List.flatMap_append, List.flatMap_cons, List.append_assoc, List.append_assoc] at bytes
    rcases @Receiver.reaches decode before _ (Receiver.start stream)
      (fun other inside => proper other (List.mem_append_left _ inside)) (.inl rfl) rfl bytes
      with ⟨events, reached, ran, standing, live, left⟩
    rcases @Receiver.takes_next decode frame (proper frame member) _ reached standing left
      with ⟨more, ranMore⟩
    exact Receiver.acceptable_of_faithful (faithful events reached ran) live
      (faithful (events ++ more) _ (run_append_eq_some.mpr ⟨reached, ran, ranMore⟩))
  · intro clean events receiver ran
    exact Receiver.faithful_of_run clean ran

/-- A message reply event with an empty payload and the error code 1, as the
daemon encodes it. -/
def errorReply : List UInt8 :=
  [0xa1, 0x73, 0x6d, 0x65, 0x73, 0x73, 0x61, 0x67, 0x65, 0x5f, 0x72, 0x65, 0x70, 0x6c, 0x79, 0x5f,
    0x65, 0x76, 0x65, 0x6e, 0x74, 0xa2, 0x67, 0x70, 0x61, 0x79, 0x6c, 0x6f, 0x61, 0x64, 0x40, 0x6a,
    0x65, 0x72, 0x72, 0x6f, 0x72, 0x5f, 0x63, 0x6f, 0x64, 0x65, 0x01]

/-- A decoder that reads this event. -/
def decodeErrorReply (buf : List UInt8) : Option Response :=
  if buf = errorReply then some ⟨none, none, none, some ⟨[], 1⟩⟩ else none

/-- The reply with an error is handed up as an empty datagram, and a frame that
cannot be decoded is reported as the end of a live socket. -/
theorem not_faithful_errorReply :
    run (Receiver.step decodeErrorReply)
        (Receiver.start (be32 43 ++ errorReply ++ (be32 1 ++ [0xff])))
        [.recv, .read 4, .read 43, .recv, .read 4, .read 1] =
      some ⟨none, [], false, [.whole errorReply, .whole [0xff]], [.ok [], .error .closed]⟩ ∧
    ¬ forall (events : List Event) (receiver : Receiver),
      run (Receiver.step decodeErrorReply)
        (Receiver.start (be32 43 ++ errorReply ++ (be32 1 ++ [0xff]))) events = some receiver ->
      Faithful decodeErrorReply (be32 43 ++ errorReply ++ (be32 1 ++ [0xff])) receiver := by
  refine ⟨rfl, ?_⟩
  intro faithful
  have ended := (faithful [.recv, .read 4, .read 43, .recv, .read 4, .read 1] _ rfl).ended
    (List.mem_cons_of_mem _ List.mem_cons_self)
  exact absurd ended.1 Bool.false_ne_true

end Katzenpost
end QuicMix
