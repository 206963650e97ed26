import QuicMix.Katzenpost.Receive

namespace QuicMix
namespace Katzenpost

open Foundations
open Boundary

/-!
# The handshake with the thin-client daemon

On a new connection the daemon speaks first: a frame with the status of its own
connection, and one with the PKI document.  The client answers with its session
token, and the daemon acknowledges it.  From then on the stream belongs to the
substrate, whose receiver takes the next byte for the first byte of a frame.  The
handshake therefore has to take its three frames and nothing else, however the
bytes arrive.
-/

structure SendMessage where
  withSurb : Bool
  surbid : Option (List UInt8)
  destinationIdHash : List UInt8
  recipientQueueId : List UInt8
  payload : List UInt8
  deriving DecidableEq, Repr

structure Request where
  sessionToken : Option (List UInt8)
  sendMessage : Option SendMessage
  deriving DecidableEq, Repr

structure Handshake where
  isConnected : Bool
  pkiDoc : List UInt8
  sessionResumed : Bool
  deriving DecidableEq, Repr

inductive HandshakeError where
  | frame (error : FrameError)
  | expectedConnectionStatus
  | expectedPkiDocument
  | expectedSessionTokenReply
  deriving DecidableEq, Repr

namespace HandshakeError

/-- The texts of the errors; what the CBOR library says of a frame is its own. -/
def text (library : String) : HandshakeError -> String
  | .frame (.tooLarge size) => "thin-client frame too large: " ++ toString size ++ " bytes"
  | .frame .undecodable => library
  | .expectedConnectionStatus => "protocol: expected ConnectionStatusEvent first"
  | .expectedPkiDocument => "protocol: expected NewPKIDocumentEvent second"
  | .expectedSessionTokenReply => "protocol: expected SessionTokenReply"

end HandshakeError

section Protocol

variable (encode : Request -> List UInt8) (decode : List UInt8 -> Option Response)

/-- The bytes of `write_frame`. -/
def frameOf (request : Request) : List UInt8 :=
  frame (encode request)

/-- Read a frame that has to carry a certain event. -/
def expecting {Value Result : Type} (event : Response -> Option Value) (missing : HandshakeError)
    (next : Value -> Script (Except HandshakeError Result)) :
    Script (Except HandshakeError Result) :=
  readFrame.bind (fun frame =>
    match frame.response decode with
    | .error error => .done (.error (.frame error))
    | .ok response =>
        match event response with
        | none => .done (.error missing)
        | some value => next value)

def sessionRequest (token : List UInt8) : Request := ⟨some token, none⟩

/-- The last part of the handshake. -/
def awaitReply (isConnected : Bool) (pkiDoc : List UInt8) :
    Script (Except HandshakeError Handshake) :=
  expecting decode Response.sessionTokenReply .expectedSessionTokenReply (fun resumed =>
    .done (.ok ⟨isConnected, pkiDoc, resumed⟩))

/-- The handshake from its second frame on. -/
def awaitDocument (token : List UInt8) (isConnected : Bool) :
    Script (Except HandshakeError Handshake) :=
  expecting decode Response.newPkiDocumentEvent .expectedPkiDocument (fun pkiDoc =>
    .write (frameOf encode (sessionRequest token)) (awaitReply decode isConnected pkiDoc))

def connectAndHandshake (token : List UInt8) : Script (Except HandshakeError Handshake) :=
  expecting decode Response.connectionStatusEvent .expectedConnectionStatus
    (awaitDocument encode decode token)

/-! ## What the daemon has to send -/

/-- The frame can be read and carries the event. -/
def Frame.Bears {Value : Type} (frame : Frame) (event : Response -> Option Value)
    (value : Value) : Prop :=
  frame.Proper ∧ exists response, frame.response decode = .ok response ∧
    event response = some value

/-- The two frames with which the daemon begins. -/
structure Announces (isConnected : Bool) (pkiDoc : List UInt8) (first second : Frame) :
    Prop where
  status : first.Bears decode Response.connectionStatusEvent isConnected
  document : second.Bears decode Response.newPkiDocumentEvent pkiDoc

/-- The three frames of a handshake. -/
structure Greets (handshake : Handshake) (first second third : Frame) : Prop where
  announces : Announces decode handshake.isConnected handshake.pkiDoc first second
  reply : third.Bears decode Response.sessionTokenReply handshake.sessionResumed

end Protocol

variable {encode : Request -> List UInt8} {decode : List UInt8 -> Option Response}

theorem finish_readFrame_iff {stream rest : List UInt8} {frame : Frame} :
    readFrame.finish stream = some (frame, rest) <->
      stream = frame.wire ++ rest ∧ frame.Proper := by
  constructor
  · exact finish_readFrame
  · rintro ⟨rfl, proper⟩
    exact Receiver.finish_wire proper rest

section Expecting

variable {Value Result : Type} {event : Response -> Option Value} {missing : HandshakeError}
  {next : Value -> Script (Except HandshakeError Result)} {stream : List UInt8}

/-- A frame that is expected and comes is taken, and no byte behind it. -/
theorem finish_expecting {result : Result} {rest : List UInt8} :
    (expecting decode event missing next).finish stream = some (.ok result, rest) <->
      exists (frame : Frame) (value : Value) (behind : List UInt8),
        frame.Bears decode event value ∧ stream = frame.wire ++ behind ∧
        (next value).finish behind = some (.ok result, rest) := by
  rw [expecting, Script.finish_bind_eq_some]
  constructor
  · rintro ⟨frame, behind, read, ended⟩
    rcases finish_readFrame_iff.mp read with ⟨rfl, proper⟩
    split at ended
    case h_1 error failed => cases ended
    case h_2 response decoded =>
        split at ended
        case h_1 absent => cases ended
        case h_2 value found =>
            exact ⟨frame, value, behind, ⟨proper, response, decoded, found⟩, rfl, ended⟩
  · rintro ⟨frame, value, behind, ⟨proper, response, decoded, found⟩, rfl, ended⟩
    refine ⟨frame, behind, finish_readFrame_iff.mpr ⟨rfl, proper⟩, ?_⟩
    simp only [decoded, found]
    exact ended

theorem output_bears {frame : Frame} {value : Value} (bears : frame.Bears decode event value)
    (behind : List UInt8) :
    (expecting decode event missing next).output (frame.wire ++ behind) =
      (next value).output behind := by
  rcases bears with ⟨proper, response, decoded, found⟩
  rw [expecting, Script.output_bind_silent silent_readFrame,
    finish_readFrame_iff.mpr ⟨rfl, proper⟩, Option.map_some, Option.getD_some]
  simp only [decoded, found]

/-- Nothing is written unless the expected frame has come. -/
theorem bears_of_output (written : (expecting decode event missing next).output stream ≠ []) :
    exists (frame : Frame) (value : Value) (behind : List UInt8),
      frame.Bears decode event value ∧ stream = frame.wire ++ behind ∧
        (next value).output behind ≠ [] := by
  have same := written
  rw [expecting, Script.output_bind_silent silent_readFrame] at same
  cases read : readFrame.finish stream with
  | none =>
      rw [read] at same
      exact absurd rfl same
  | some outcome =>
      rcases outcome with ⟨frame, behind⟩
      rcases finish_readFrame_iff.mp read with ⟨rfl, proper⟩
      rw [read, Option.map_some, Option.getD_some] at same
      dsimp only at same
      split at same
      case h_1 error failed => exact absurd rfl same
      case h_2 response decoded =>
          split at same
          case h_1 absent => exact absurd rfl same
          case h_2 value found =>
              exact ⟨frame, value, behind, ⟨proper, response, decoded, found⟩, rfl, same⟩

end Expecting

section Handshake

variable {token stream : List UInt8}

/-- The handshake succeeds on a stream that begins with its three frames, and takes
them and nothing else. -/
theorem finish_connectAndHandshake {handshake : Handshake} {rest : List UInt8} :
    (connectAndHandshake encode decode token).finish stream = some (.ok handshake, rest) <->
      exists first second third, Greets decode handshake first second third ∧
        stream = first.wire ++ (second.wire ++ (third.wire ++ rest)) := by
  constructor
  · intro whole
    rcases finish_expecting.mp whole with ⟨first, isConnected, _, status, rfl, fromSecond⟩
    rcases finish_expecting.mp fromSecond with ⟨second, pkiDoc, _, document, rfl, fromThird⟩
    rcases finish_expecting.mp fromThird with ⟨third, resumed, behind, reply, rfl, ended⟩
    cases ended
    exact ⟨first, second, third, ⟨⟨status, document⟩, reply⟩, rfl⟩
  · rintro ⟨first, second, third, ⟨⟨status, document⟩, reply⟩, rfl⟩
    refine finish_expecting.mpr ⟨first, handshake.isConnected, _, status, rfl, ?_⟩
    refine finish_expecting.mpr ⟨second, handshake.pkiDoc, _, document, rfl, ?_⟩
    exact finish_expecting.mpr ⟨third, handshake.sessionResumed, rest, reply, rfl, rfl⟩

theorem output_awaitReply (isConnected : Bool) (pkiDoc stream : List UInt8) :
    (awaitReply decode isConnected pkiDoc).output stream = [] := by
  by_contra written
  rcases bears_of_output written with ⟨_, _, _, _, _, nothing⟩
  exact nothing rfl

/-- Behind the first two frames the token is sent, once. -/
theorem output_announced {isConnected : Bool} {pkiDoc rest : List UInt8} {first second : Frame}
    (announces : Announces decode isConnected pkiDoc first second) :
    (connectAndHandshake encode decode token).output
      (first.wire ++ (second.wire ++ rest)) = frameOf encode (sessionRequest token) := by
  rw [connectAndHandshake, output_bears announces.status, awaitDocument,
    output_bears announces.document, Script.output, Script.evaluate]
  exact (congrArg (frameOf encode (sessionRequest token) ++ ·)
    (output_awaitReply isConnected pkiDoc rest)).trans (List.append_nil _)

/-- Without the first two frames nothing is sent. -/
theorem announces_of_output
    (written : (connectAndHandshake encode decode token).output stream ≠ []) :
    exists isConnected pkiDoc first second rest,
      Announces decode isConnected pkiDoc first second ∧
        stream = first.wire ++ (second.wire ++ rest) := by
  rcases bears_of_output written with ⟨first, isConnected, _, status, rfl, fromSecond⟩
  rcases bears_of_output fromSecond with ⟨second, pkiDoc, rest, document, rfl, _⟩
  exact ⟨isConnected, pkiDoc, first, second, rest, ⟨status, document⟩, rfl⟩

theorem output_connectAndHandshake :
    (connectAndHandshake encode decode token).output stream = [] ∨
      (connectAndHandshake encode decode token).output stream =
        frameOf encode (sessionRequest token) := by
  by_cases nothing : (connectAndHandshake encode decode token).output stream = []
  · exact .inl nothing
  · rcases announces_of_output nothing with ⟨_, _, _, _, _, announces, rfl⟩
    exact .inr (output_announced announces)

end Handshake

/-- What becomes of a handshake on a stream of the daemon. -/
structure Shaken (encode : Request -> List UInt8) (decode : List UInt8 -> Option Response)
    (token stream : List UInt8) {Fault : Type} (early : Fault)
    (moves : List (Session.Move Fault))
    (session : Session Fault (Except HandshakeError Handshake)) : Prop where
  returned : forall handshake, session.Returned (.ok handshake) ->
    exists first second third, Greets decode handshake first second third ∧
      stream = first.wire ++ (second.wire ++ (third.wire ++ session.unread)) ∧
      session.written = frameOf encode (sessionRequest token)
  received : forall events receiver,
    run (Receiver.step decode) (Receiver.start session.unread) events = some receiver ->
      receiver.Aligned session.unread
  written : session.written <+: frameOf encode (sessionRequest token)
  announced : session.written ≠ [] -> exists isConnected pkiDoc first second rest,
    Announces decode isConnected pkiDoc first second ∧ stream = first.wire ++ (second.wire ++ rest)
  complete : (forall move, move ∈ moves -> move.sound = true) -> session.Over ->
    forall handshake, session.Returned (.ok handshake) <->
      exists first second third rest, Greets decode handshake first second third ∧
        stream = first.wire ++ (second.wire ++ (third.wire ++ rest))
  progress : ¬ session.Over ->
    exists move next, Session.Move.sound move = true ∧ session.step early move = some next
  bounded : moves.length <= stream.length + (frameOf encode (sessionRequest token)).length + 1

/-- In every session with a daemon, whatever it sends and however its bytes arrive:
a handshake that succeeds has taken exactly its three frames, in their order, and
has sent its token; what is received afterwards begins with the next frame; and
nothing is sent before the daemon has announced its PKI document. -/
theorem handshake_takes_three_frames (encode : Request -> List UInt8)
    (decode : List UInt8 -> Option Response) (token stream : List UInt8) {Fault : Type}
    (early : Fault) (moves : List (Session.Move Fault))
    (session : Session Fault (Except HandshakeError Handshake))
    (ran : run (Session.step early)
      (Session.start (connectAndHandshake encode decode token) stream) moves = some session) :
    Shaken encode decode token stream early moves session := by
  have follows := Session.follows_of_run ran
  rcases follows.written with ⟨rest, wrote⟩
  refine ⟨?_, ?_, ?_, ?_, ?_, fun going => follows.progress going, ?_⟩
  · intro handshake returned
    rcases Session.finish_of_run ran returned with ⟨finished, written⟩
    rcases finish_connectAndHandshake.mp finished with ⟨first, second, third, greets, same⟩
    refine ⟨first, second, third, greets, same, ?_⟩
    rw [written, same]
    exact output_announced greets.announces
  · intro events receiver received
    exact invariant (Receiver.Aligned session.unread)
      (fun _ _ _ holds moved => (Receiver.moved_of_step moved).aligned holds)
      (Receiver.aligned_start session.unread) received
  · rcases @output_connectAndHandshake encode decode token stream with nothing | frame
    · rw [nothing] at wrote
      rw [(List.append_eq_nil_iff.mp wrote).1]
      exact List.nil_prefix
    · exact ⟨rest, wrote.trans frame⟩
  · intro sent
    refine @announces_of_output encode decode token stream (fun nothing => sent ?_)
    rw [nothing] at wrote
    exact (List.append_eq_nil_iff.mp wrote).1
  · intro intact ended handshake
    constructor
    · intro returned
      rcases finish_connectAndHandshake.mp (Session.finish_of_run ran returned).1 with
        ⟨first, second, third, greets, same⟩
      exact ⟨first, second, third, session.unread, greets, same⟩
    · rintro ⟨first, second, third, behind, greets, same⟩
      exact Session.returned_of_run intact ran ended
        (finish_connectAndHandshake.mpr ⟨first, second, third, greets, same⟩)
  · have bound := Session.length_le_of_run ran
    rcases @output_connectAndHandshake encode decode token stream with nothing | frame
    · rw [nothing, List.length_nil] at bound
      omega
    · rw [frame] at bound
      exact bound

/-- A connection status event of a daemon without a connection, a PKI document and
the reply to a token of a session that it resumes, as the daemon encodes them. -/
def statusEvent : List UInt8 :=
  [0xa1, 0x77, 0x63, 0x6f, 0x6e, 0x6e, 0x65, 0x63, 0x74, 0x69, 0x6f, 0x6e, 0x5f, 0x73, 0x74, 0x61,
    0x74, 0x75, 0x73, 0x5f, 0x65, 0x76, 0x65, 0x6e, 0x74, 0xa1, 0x6c, 0x69, 0x73, 0x5f, 0x63, 0x6f,
    0x6e, 0x6e, 0x65, 0x63, 0x74, 0x65, 0x64, 0xf4]

def documentEvent : List UInt8 :=
  [0xa1, 0x76, 0x6e, 0x65, 0x77, 0x5f, 0x70, 0x6b, 0x69, 0x5f, 0x64, 0x6f, 0x63, 0x75, 0x6d, 0x65,
    0x6e, 0x74, 0x5f, 0x65, 0x76, 0x65, 0x6e, 0x74, 0xa1, 0x67, 0x70, 0x61, 0x79, 0x6c, 0x6f, 0x61,
    0x64, 0x41, 0x09]

def tokenReply : List UInt8 :=
  [0xa1, 0x73, 0x73, 0x65, 0x73, 0x73, 0x69, 0x6f, 0x6e, 0x5f, 0x74, 0x6f, 0x6b, 0x65, 0x6e, 0x5f,
    0x72, 0x65, 0x70, 0x6c, 0x79, 0xa1, 0x67, 0x72, 0x65, 0x73, 0x75, 0x6d, 0x65, 0x64, 0xf5]

/-- An encoder for tokens of bytes below 24. -/
def encodeToken (request : Request) : List UInt8 :=
  [0xa1, 0x6d, 0x73, 0x65, 0x73, 0x73, 0x69, 0x6f, 0x6e, 0x5f, 0x74, 0x6f, 0x6b, 0x65, 0x6e, 0xa1,
    0x75, 0x63, 0x6c, 0x69, 0x65, 0x6e, 0x74, 0x5f, 0x69, 0x6e, 0x73, 0x74, 0x61, 0x6e, 0x63, 0x65,
    0x5f, 0x74, 0x6f, 0x6b, 0x65, 0x6e, 0x90] ++
    request.sessionToken.getD []

/-- A decoder that reads these events. -/
def decodeEvents (buf : List UInt8) : Option Response :=
  if buf = statusEvent then some ⟨some false, none, none, none⟩
  else if buf = documentEvent then some ⟨none, some [9], none, none⟩
  else if buf = tokenReply then some ⟨none, none, some true, none⟩
  else none

set_option maxRecDepth 4000 in
theorem handshake_takes_three_frames_resumed :
    exists session : Session Unit (Except HandshakeError Handshake),
      session.Returned (.ok ⟨false, [9], true⟩) ∧ session.unread = [77] ∧
      Shaken encodeToken decodeEvents (List.replicate 16 7)
        (frame statusEvent ++ (frame documentEvent ++ (frame tokenReply ++ [77]))) ()
        [.read 4, .read 40, .read 4, .read 35, .write 59, .read 2, .read 2, .read 31] session := by
  have ran : run (Session.step ())
      (Session.start (connectAndHandshake encodeToken decodeEvents (List.replicate 16 7))
        (frame statusEvent ++ (frame documentEvent ++ (frame tokenReply ++ [77]))))
      [.read 4, .read 40, .read 4, .read 35, .write 59, .read 2, .read 2, .read 31] =
        some ⟨.ok (.done (.ok ⟨false, [9], true⟩)), [77],
          be32 55 ++ encodeToken (sessionRequest (List.replicate 16 7))⟩ := by
    rfl
  refine ⟨_, ?_, ?_, handshake_takes_three_frames _ _ _ _ _ _ _ ran⟩
  · rfl
  · rfl

end Katzenpost
end QuicMix
