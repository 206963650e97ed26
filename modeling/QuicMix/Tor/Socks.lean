import QuicMix.Foundations.Script
import QuicMix.Foundations.Text
import QuicMix.Framing.StreamDatagram

namespace QuicMix
namespace Tor

open Foundations
open Text
open Framing
open Boundary

/-!
# Opening a stream through a SOCKS5 proxy

`socks5_connect` writes a greeting and a CONNECT request to the proxy and reads
the proxy's two answers by hand.  The bytes behind the second answer belong to
the peer at the far end: `tor_stream_to` gives the stream to a `StreamDatagram`,
which takes the next byte for the first byte of a frame.  The answers therefore
have to be consumed exactly, whatever type of address the proxy reports.
-/

inductive SocksError where
  | methodRejected (sel : List UInt8)
  | hostTooLong
  | connectFailed (rep : UInt8) (host : Text) (port : BitVec 16)
  | badBoundAtyp (other : UInt8)

namespace SocksError

def text : SocksError -> String
  | .methodRejected sel =>
      "socks5: no-auth method rejected (got " ++ toString (sel.map UInt8.toNat) ++ ")"
  | .hostTooLong => "socks5: host too long"
  | .connectFailed rep host port =>
      "socks5: CONNECT failed (rep=" ++ toString rep.toNat ++ ") — exit policy may block "
        ++ String.ofList host ++ ":" ++ toString port.toNat
  | .badBoundAtyp other => "socks5: bad bound ATYP " ++ toString other.toNat

end SocksError

/-- A port, most significant byte first. -/
def be16 (port : BitVec 16) : List UInt8 :=
  [UInt8.ofNat (port.toNat / 2 ^ 8), UInt8.ofNat port.toNat]

/-- Version 5, one method, no authentication. -/
def greeting : List UInt8 := [0x05, 0x01, 0x00]

/-- CONNECT with a domain address, so that the name is resolved remotely. -/
def request (host : Text) (port : BitVec 16) : List UInt8 :=
  [0x05, 0x01, 0x00, 0x03, UInt8.ofNat (encode host).length] ++ encode host ++ be16 port

/-- Skip the bound address and the bound port. -/
def skip (addrLen : Nat) : Script (Except SocksError Unit) :=
  .read (addrLen + 2) (fun _ => .done (.ok ()))

/-- The head of the reply decides how much is left to read. -/
def afterHead (host : Text) (port : BitVec 16) (head : List UInt8) :
    Script (Except SocksError Unit) :=
  if head.getD 1 0 ≠ 0x00 then .done (.error (.connectFailed (head.getD 1 0) host port))
  else if head.getD 3 0 = 0x01 then skip 4
  else if head.getD 3 0 = 0x04 then skip 16
  else if head.getD 3 0 = 0x03 then .read 1 (fun length => skip (length.getD 0 0).toNat)
  else .done (.error (.badBoundAtyp (head.getD 3 0)))

def socks5Connect (host : Text) (port : BitVec 16) : Script (Except SocksError Unit) :=
  .write greeting (.read 2 (fun sel =>
    if sel ≠ [0x05, 0x00] then .done (.error (.methodRejected sel))
    else if (encode host).length > 255 then .done (.error .hostTooLong)
    else .write (request host port) (.read 4 (afterHead host port))))

/-- `StreamDatagram::new` on what the handshake left of the stream. -/
def streamDatagram {Result : Type} (session : Session IoError Result) : Pipe :=
  { Pipe.start with wire := session.unread }

/-! ## What the proxy may answer -/

/-- A complete bound address of the given type: four bytes, sixteen bytes, or a
length with as many bytes behind it. -/
def BoundAddress (atyp : UInt8) (address : List UInt8) : Prop :=
  (atyp = 0x01 ∧ address.length = 4) ∨ (atyp = 0x04 ∧ address.length = 16) ∨
    (atyp = 0x03 ∧ exists size name, address = size :: name ∧ name.length = size.toNat)

/-- The proxy accepts the method and then the request. -/
inductive Accepts : List UInt8 -> Prop where
  | reply (version reserved : UInt8) {atyp : UInt8} {address port : List UInt8}
      (bound : BoundAddress atyp address) (two : port.length = 2) :
      Accepts ([0x05, 0x00] ++ [version, 0x00, reserved, atyp] ++ address ++ port)

/-- How a SOCKS5 proxy reads a CONNECT request with a domain address. -/
def decodeRequest : List UInt8 -> Option (List UInt8 × Nat)
  | 0x05 :: 0x01 :: 0x00 :: 0x03 :: size :: rest =>
      if rest.length = size.toNat + 2 then
        some (rest.take size.toNat, ofBe (rest.drop size.toNat))
      else none
  | _ => none

theorem ofBe_be16 (port : BitVec 16) : ofBe (be16 port) = port.toNat := by
  have bound := port.isLt
  simp only [be16, ofBe, List.foldl_cons, List.foldl_nil, UInt8.toNat_ofNat']
  omega

/-- The request names exactly the host and the port. -/
theorem decodeRequest_request {host : Text} (short : (encode host).length <= 255)
    (port : BitVec 16) :
    decodeRequest (request host port) = some (encode host, port.toNat) := by
  have size : (UInt8.ofNat (encode host).length).toNat = (encode host).length := by
    rw [UInt8.toNat_ofNat']
    omega
  have exactly : (encode host ++ be16 port).length = (encode host).length + 2 :=
    List.length_append
  rw [request, List.append_assoc]
  simp only [List.cons_append, List.nil_append, decodeRequest, size]
  rw [if_pos exactly, List.take_left, List.drop_left, ofBe_be16]

/-! ## The script on a whole stream -/

/-- Skipping succeeds on an address of the announced length with a port behind
it, and leaves what follows. -/
theorem finish_skip {addrLen : Nat} {stream rest : List UInt8} {result : Except SocksError Unit} :
    (skip addrLen).finish stream = some (result, rest) <->
      result = .ok () ∧ exists address port, address.length = addrLen ∧ port.length = 2 ∧
        stream = address ++ port ++ rest := by
  constructor
  · intro finished
    rcases Script.finish_read_eq_some finished with ⟨front, back, rfl, exactly, ended⟩
    cases ended
    refine ⟨rfl, front.take addrLen, front.drop addrLen, ?_, ?_, ?_⟩
    · exact List.length_take_of_le (by omega)
    · rw [List.length_drop]
      omega
    · rw [List.take_append_drop]
  · rintro ⟨rfl, address, port, exactly, two, rfl⟩
    have both : (address ++ port).length = addrLen + 2 := by
      rw [List.length_append, exactly, two]
    exact congrArg Prod.snd (Script.evaluate_read both _ rest)

theorem boundAddress_v4 {address : List UInt8} :
    BoundAddress 0x01 address <-> address.length = 4 := by
  simp [BoundAddress]

theorem boundAddress_v6 {address : List UInt8} :
    BoundAddress 0x04 address <-> address.length = 16 := by
  simp [BoundAddress]

theorem boundAddress_domain {address : List UInt8} :
    BoundAddress 0x03 address <->
      exists size name, address = size :: name ∧ name.length = size.toNat := by
  simp [BoundAddress]

/-- A length byte is read before the name that it announces. -/
theorem finish_domain {stream rest : List UInt8} {result : Except SocksError Unit} :
    (Script.read 1 (fun length => skip (length.getD 0 0).toNat)).finish stream =
        some (result, rest) <->
      result = .ok () ∧ exists address port, BoundAddress 0x03 address ∧ port.length = 2 ∧
        stream = address ++ port ++ rest := by
  constructor
  · intro finished
    rcases Script.finish_read_eq_some finished with ⟨front, back, rfl, one, ended⟩
    rcases List.length_eq_one_iff.mp one with ⟨size, rfl⟩
    rcases finish_skip.mp ended with ⟨succeeded, name, port, exactly, two, rfl⟩
    exact ⟨succeeded, size :: name, port, boundAddress_domain.mpr ⟨size, name, rfl, exactly⟩, two,
      rfl⟩
  · rintro ⟨succeeded, address, port, bound, two, same⟩
    rcases boundAddress_domain.mp bound with ⟨size, name, rfl, exactly⟩
    subst same
    have read := Script.evaluate_read (show [size].length = 1 from rfl)
      (fun length => skip (length.getD 0 0).toNat) (name ++ port ++ rest)
    rw [Script.finish, List.append_assoc, List.cons_append, ← List.singleton_append,
      ← List.append_assoc name, read]
    exact finish_skip.mpr ⟨succeeded, name, port, exactly, two, rfl⟩

/-- Behind the head the script wants a bound address of the announced type and
a port. -/
theorem finish_afterHead {host : Text} {port : BitVec 16} {version rep reserved atyp : UInt8}
    {stream rest : List UInt8} :
    (afterHead host port [version, rep, reserved, atyp]).finish stream = some (.ok (), rest) <->
      rep = 0x00 ∧ exists address bound, BoundAddress atyp address ∧ bound.length = 2 ∧
        stream = address ++ bound ++ rest := by
  have unfolded : afterHead host port [version, rep, reserved, atyp] =
      if rep ≠ 0x00 then Script.done (.error (.connectFailed rep host port))
      else if atyp = 0x01 then skip 4
      else if atyp = 0x04 then skip 16
      else if atyp = 0x03 then .read 1 (fun length => skip (length.getD 0 0).toNat)
      else .done (.error (.badBoundAtyp atyp)) := rfl
  rw [unfolded]
  by_cases accepted : rep = 0x00
  · rw [if_neg (not_not.mpr accepted), and_iff_right accepted]
    by_cases first : atyp = 0x01
    · subst first
      simp only [if_true, finish_skip, boundAddress_v4, true_and]
    · rw [if_neg first]
      by_cases second : atyp = 0x04
      · subst second
        simp only [if_true, finish_skip, boundAddress_v6, true_and]
      · rw [if_neg second]
        by_cases third : atyp = 0x03
        · subst third
          simp only [if_true, finish_domain, true_and]
        · rw [if_neg third]
          constructor
          · intro finished
            cases finished
          · rintro ⟨address, bound, isBound, _⟩
            rcases isBound with ⟨same, _⟩ | ⟨same, _⟩ | ⟨same, _⟩
            · exact absurd same first
            · exact absurd same second
            · exact absurd same third
  · rw [if_pos accepted]
    constructor
    · intro finished
      cases finished
    · intro holds
      exact absurd holds.1 accepted

/-- The script after the greeting was answered. -/
theorem evaluate_socks5Connect {host : Text} (short : (encode host).length <= 255)
    {port : BitVec 16} (stream : List UInt8) :
    (socks5Connect host port).evaluate ([0x05, 0x00] ++ stream) =
      (greeting ++ request host port ++ (Script.read 4 (afterHead host port)).output stream,
        (Script.read 4 (afterHead host port)).finish stream) := by
  have two : ([0x05, 0x00] : List UInt8).length = 2 := rfl
  have fits : ¬ (encode host).length > 255 := Nat.not_lt.mpr short
  rw [socks5Connect, Script.evaluate, Script.evaluate_read two, if_neg (not_not.mpr rfl),
    if_neg fits, Script.evaluate, List.append_assoc]
  rfl

/-- The script succeeds on the streams that begin with the answers of a proxy
that accepts, and leaves what follows them. -/
theorem finish_socks5Connect {host : Text} (short : (encode host).length <= 255)
    {port : BitVec 16} {stream rest : List UInt8} :
    (socks5Connect host port).finish stream = some (.ok (), rest) <->
      exists reply, Accepts reply ∧ stream = reply ++ rest := by
  constructor
  · intro finished
    rcases Script.finish_read_eq_some finished with ⟨sel, back, rfl, _, continued⟩
    by_cases selected : sel = [0x05, 0x00]
    · subst selected
      rw [Script.finish, evaluate_socks5Connect short] at finished
      rcases Script.finish_read_eq_some finished with ⟨head, behind, rfl, four, ended⟩
      rcases List.length_eq_four.mp four with ⟨version, rep, reserved, atyp, rfl⟩
      rcases finish_afterHead.mp ended with ⟨rfl, address, bound, isBound, two, rfl⟩
      refine ⟨_, .reply version reserved isBound two, ?_⟩
      simp only [List.append_assoc]
    · rw [if_pos selected] at continued
      cases continued
  · rintro ⟨reply, accepts, rfl⟩
    rcases accepts with @⟨version, reserved, atyp, address, bound, isBound, two⟩
    have four : [version, 0x00, reserved, atyp].length = 4 := rfl
    rw [Script.finish, List.append_assoc, List.append_assoc, List.append_assoc,
      evaluate_socks5Connect short, Script.finish, Script.evaluate_read four]
    exact finish_afterHead.mpr
      ⟨rfl, address, bound, isBound, two, (List.append_assoc address bound rest).symm⟩

/-- Nothing is written behind the request. -/
theorem silent_afterHead (host : Text) (port : BitVec 16) :
    (Script.read 4 (afterHead host port)).Silent := by
  intro head
  rw [afterHead]
  split
  · exact trivial
  · split
    · exact fun _ => trivial
    · split
      · exact fun _ => trivial
      · split
        · exact fun _ _ => trivial
        · exact trivial

/-- The greeting is written, and if the method is accepted the request. -/
theorem output_socks5Connect (host : Text) (port : BitVec 16) (stream : List UInt8) :
    (socks5Connect host port).output stream = greeting ∨
      (socks5Connect host port).output stream = greeting ++ request host port := by
  rw [Script.output, socks5Connect, Script.evaluate, Script.evaluate]
  split
  · split
    · exact .inl (List.append_nil greeting)
    · split
      · exact .inl (List.append_nil greeting)
      · refine .inr (congrArg (greeting ++ ·) ?_)
        rw [Script.evaluate]
        exact (congrArg (request host port ++ ·) ((silent_afterHead host port).output _)).trans
          (List.append_nil _)
  · exact .inl (List.append_nil greeting)

/-- A proxy that accepts the method is sent the greeting and the request. -/
theorem output_accepted {host : Text} (short : (encode host).length <= 255) (port : BitVec 16)
    (stream : List UInt8) :
    (socks5Connect host port).output ([0x05, 0x00] ++ stream) =
      greeting ++ request host port := by
  rw [Script.output, evaluate_socks5Connect short, (silent_afterHead host port).output,
    List.append_nil]

/-- A host that is too long is not asked for. -/
theorem output_tooLong {host : Text} (long : ¬ (encode host).length <= 255) (port : BitVec 16)
    (stream : List UInt8) : (socks5Connect host port).output stream = greeting := by
  rw [Script.output, socks5Connect, Script.evaluate, Script.evaluate]
  split
  · split
    · exact List.append_nil greeting
    · rw [if_pos (Nat.lt_of_not_le long)]
      exact List.append_nil greeting
  · exact List.append_nil greeting

theorem output_of_accepts {host : Text} (short : (encode host).length <= 255) (port : BitVec 16)
    {reply : List UInt8} (accepts : Accepts reply) (rest : List UInt8) :
    (socks5Connect host port).output (reply ++ rest) = greeting ++ request host port := by
  rcases accepts with @⟨version, reserved, atyp, address, bound, isBound, two⟩
  rw [List.append_assoc, List.append_assoc, List.append_assoc]
  exact output_accepted short port _

theorem length_output_le {host : Text} (port : BitVec 16) (stream : List UInt8) :
    ((socks5Connect host port).output stream).length <= (encode host).length + 10 := by
  have whole : (greeting ++ request host port).length = (encode host).length + 10 := by
    simp only [greeting, request, be16, List.length_append, List.length_cons, List.length_nil]
    omega
  rcases output_socks5Connect host port stream with only | both
  · rw [only]
    exact Nat.le_add_left 3 _
  · rw [both]
    exact Nat.le_of_eq whole

theorem written_socks5Connect {host : Text} {port : BitVec 16} {stream written : List UInt8}
    (wrote : exists rest, written ++ rest = (socks5Connect host port).output stream) :
    written <+: greeting ++ request host port := by
  rcases wrote with ⟨rest, same⟩
  rcases output_socks5Connect host port stream with only | both
  · exact ⟨rest ++ request host port, by rw [← List.append_assoc, same, only]⟩
  · exact ⟨rest, same.trans both⟩

/-- A stream begins with the answers of an accepting proxy in at most one way. -/
theorem Accepts.unique {first second firstRest secondRest : List UInt8}
    (isFirst : Accepts first) (isSecond : Accepts second)
    (same : first ++ firstRest = second ++ secondRest) : firstRest = secondRest := by
  -- any host serves: the script reads the same answers for each of them
  have short : (encode []).length <= 255 := Nat.zero_le 255
  have one := (@finish_socks5Connect [] short 0 _ firstRest).mpr ⟨first, isFirst, rfl⟩
  have other := (@finish_socks5Connect [] short 0 _ secondRest).mpr ⟨second, isSecond, same⟩
  have equal := Option.some.inj (one.symm.trans other)
  exact congrArg Prod.snd equal

/-! ## Sessions with a proxy -/

/-- The moves of the receiving end of a `StreamDatagram`. -/
def receives : Action -> Bool
  | .recv => true
  | .read _ => true
  | _ => false

/-- The stream that is left is given to `StreamDatagram`: whatever is received
from it, the bytes that were read and those that were not are the bytes behind
the answers of the proxy. -/
theorem consumed_streamDatagram {Result : Type} {session : Session IoError Result}
    {actions : List Action}
    (receiving : forall action, action ∈ actions -> receives action = true)
    {pipe : Pipe} (ran : run Pipe.step (streamDatagram session) actions = some pipe) :
    pipe.consumed ++ pipe.wire = session.unread := by
  refine invariant_of_schedule (fun pipe => pipe.consumed ++ pipe.wire = session.unread) ?_
    (List.nil_append session.unread) ran
  intro before action after member holds moved
  have allowed := receiving action member
  cases action with
  | recv =>
      simp only [Pipe.step] at moved
      split at moved
      · cases moved
        exact holds
      · cases moved
  | read size =>
      simp only [Pipe.step] at moved
      split at moved
      · cases moved
        have cut : before.wire.take size ++ before.wire.drop size = before.wire :=
          List.take_append_drop size before.wire
        refine Eq.trans ?_ holds
        refine Eq.trans ?_ (congrArg (before.consumed ++ ·) cut)
        exact List.append_assoc before.consumed (before.wire.take size) (before.wire.drop size)
      · cases moved
  | _ => cases allowed

/-- The handshake consumes exactly the answers of the proxy.  In every session
with a proxy, whatever it sends and however its bytes arrive: a call that
succeeded has read the answers of an accepting proxy and nothing behind them,
and has written a request for the host and the port.  On a connection that does
not break, the call ends after finitely many moves, and it succeeds exactly if
the stream begins with such answers. -/
theorem handshake_consumes_exactly (host : Text) (short : (encode host).length <= 255)
    (port : BitVec 16) (stream : List UInt8) (moves : List (Session.Move IoError))
    (session : Session IoError (Except SocksError Unit))
    (ran : run (Session.step earlyEof) (Session.start (socks5Connect host port) stream) moves =
      some session) :
    (session.Returned (.ok ()) ->
      (exists reply, Accepts reply ∧ stream = reply ++ session.unread) ∧
        (forall reply bridged, Accepts reply -> stream = reply ++ bridged ->
          forall (actions : List Action) (pipe : Pipe),
            (forall action, action ∈ actions -> receives action = true) ->
            run Pipe.step (streamDatagram session) actions = some pipe ->
            pipe.consumed ++ pipe.wire = bridged) ∧
        session.written = greeting ++ request host port) ∧
    session.written <+: greeting ++ request host port ∧
    decodeRequest (request host port) = some (encode host, port.toNat) ∧
    ((forall move, move ∈ moves -> move.sound = true) -> session.Over ->
      (session.Returned (.ok ()) <-> exists reply rest, Accepts reply ∧ stream = reply ++ rest)) ∧
    (¬ session.Over ->
      exists move next, Session.Move.sound move = true ∧ session.step earlyEof move = some next) ∧
    moves.length <= stream.length + (encode host).length + 11 := by
  have follows := Session.follows_of_run ran
  have finished := fun returned : session.Returned (.ok ()) =>
    (finish_socks5Connect short).mp (Session.finish_of_run ran returned).1
  refine ⟨?_, ?_, decodeRequest_request short port, ?_, fun going => follows.progress going, ?_⟩
  · intro returned
    refine ⟨finished returned, ?_, ?_⟩
    · intro reply bridged accepts same actions pipe receiving received
      rcases finished returned with ⟨actual, actually, begins⟩
      have left : session.unread = bridged := actually.unique accepts (begins.symm.trans same)
      rw [← left]
      exact consumed_streamDatagram receiving received
    · rcases finished returned with ⟨reply, accepts, begins⟩
      rw [(Session.finish_of_run ran returned).2, begins]
      exact output_of_accepts short port accepts session.unread
  · exact written_socks5Connect follows.written
  · intro intact ended
    constructor
    · intro returned
      rcases finished returned with ⟨reply, accepts, begins⟩
      exact ⟨reply, session.unread, accepts, begins⟩
    · rintro ⟨reply, rest, accepts, begins⟩
      exact Session.returned_of_run intact ran ended
        ((finish_socks5Connect short).mpr ⟨reply, accepts, begins⟩)
  · have bound := Session.length_le_of_run ran
    have written := @length_output_le host port stream
    omega

/-- A proxy that reports an IPv4 address, with one byte behind its answers. -/
theorem handshake_consumes_exactly_ipv4 :
    exists reply, Accepts reply ∧
      [5, 0, 5, 0, 0, 1, 10, 0, 0, 1, 4, 210, 77] = reply ++ ([77] : List UInt8) :=
  ((handshake_consumes_exactly ['a'] (by decide) 443
    [5, 0, 5, 0, 0, 1, 10, 0, 0, 1, 4, 210, 77]
    [.write 3, .read 1, .read 1, .write 8, .read 4, .read 6]
    ⟨.ok (.done (.ok ())), [77], [5, 1, 0, 5, 1, 0, 3, 1, 97, 1, 187]⟩ rfl).1 rfl).1

end Tor
end QuicMix
