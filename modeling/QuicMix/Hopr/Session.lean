import QuicMix.Boundary.Substrate
import QuicMix.Gateway.Addresses

namespace QuicMix
namespace Hopr

open Foundations
open Boundary
open Gateway

/-!
# Opening a session on a HOPR node

`HoprSubstrate::connect` asks the node for a session and then connects a local
socket to the endpoint that the node returned.  The session comes into being
with the answer of the node.  Every step behind it can fail: decoding the body,
making an address of the returned host and port, binding and connecting the
socket.  None of these failures closes the session, although there is a call for
it.

The node, the JSON library and the local sockets are given by what they answer.
-/

/-- Why no response arrived. -/
inductive RequestFailure where
  | timeout
  | connect
  | other (text : String)
  deriving DecidableEq, Repr

/-- `map_reqwest` -/
def mapReqwest : RequestFailure -> SubstrateError
  | .timeout => .timeout
  | .connect => .closed
  | .other text => .io ("hopr http: " ++ text)

def isSuccess (status : Nat) : Bool :=
  200 <= status && status < 300

def isServerError (status : Nat) : Bool :=
  500 <= status && status < 600

def statusError (status : Nat) : SubstrateError :=
  if status = 401 ∨ status = 403 then .authFailed
  else if isServerError status then .remoteRejected
  else .io ("hopr HTTP " ++ toString status)

structure CreateSessionBody where
  capabilities : List String
  destination : Text
  listenHost : Text
  forwardPath : BitVec 8
  returnPath : BitVec 8
  target : Text
  responseBuffer : String

structure SessionResp where
  protocol : Text
  ip : Text
  port : BitVec 16
  deriving DecidableEq

/-- The requests that are made of the node. -/
inductive HttpRequest where
  | create (body : CreateSessionBody)
  | delete (session : SessionResp)

structure SessionOpts where
  hops : BitVec 8
  target : Text
  listenHost : Text
  dataHost : Option Text
  httpTimeout : Duration

/-- What the node does with the create call: its answer, and whether it opened a
session. -/
structure Node where
  answer : Except RequestFailure (Nat × List UInt8)
  opened : Bool

/-- What the local sockets do. -/
structure Sockets where
  bind : Except String Unit
  connect : SocketAddr -> Except String Unit

inductive ConnectError where
  | request (error : SubstrateError)
  | status (error : SubstrateError) (detail : List UInt8)
  | malformed
  | badAddr (host : Text) (port : BitVec 16)
  | socket (text : String)

structure HoprSubstrate where
  /-- The address that the socket is connected to. -/
  peer : SocketAddr
  session : SessionResp

/-- Where the data socket is looked for. -/
def dataAddress (opts : SessionOpts) (session : SessionResp) : Text :=
  match opts.dataHost with
  | some host => host
  | none =>
      if session.ip = "0.0.0.0".toList ∨ session.ip = "::".toList then "127.0.0.1".toList
      else session.ip

def createBody (destination : Text) (opts : SessionOpts) : CreateSessionBody where
  capabilities := ["Segmentation"]
  destination := destination
  listenHost := opts.listenHost
  forwardPath := opts.hops
  returnPath := opts.hops
  target := opts.target
  responseBuffer := "4MiB"

section Connect

variable (json : List UInt8 -> Option SessionResp)

/-- The steps behind the answer of the node. -/
def establish (opts : SessionOpts) (sockets : Sockets) (session : SessionResp) :
    Except ConnectError HoprSubstrate :=
  match SocketAddr.parse
      (dataAddress opts session ++ ':' :: Nat.toDigits 10 session.port.toNat) with
  | none => .error (.badAddr (dataAddress opts session) session.port)
  | some addr =>
      match sockets.bind with
      | .error text => .error (.socket text)
      | .ok _ =>
          match sockets.connect addr with
          | .error text => .error (.socket text)
          | .ok _ => .ok ⟨addr, session⟩

/-- The result of `connect`, and the requests that it made of the node. -/
def connect (destination : Text) (opts : SessionOpts) (node : Node) (sockets : Sockets) :
    Except ConnectError HoprSubstrate × List HttpRequest :=
  (match node.answer with
    | .error failure => .error (.request (mapReqwest failure))
    | .ok (status, body) =>
        if isSuccess status then
          match json body with
          | none => .error .malformed
          | some session => establish opts sockets session
        else .error (.status (statusError status) body),
    [.create (createBody destination opts)])

end Connect

/-- The request of `close`. -/
def HoprSubstrate.close (substrate : HoprSubstrate) : HttpRequest :=
  .delete substrate.session

/-! ## All or nothing -/

/-- The socket is connected to the returned port, at the override or else at the
returned address, in place of which a wildcard gives a loopback address. -/
def Reaches (opts : SessionOpts) (session : SessionResp) (peer : SocketAddr) : Prop :=
  peer.port = session.port ∧
    exists ip, readHost (opts.dataHost.getD session.ip) = some ip ∧
      if opts.dataHost = none ∧ ip.isUnspecified = true then peer.ip.isLoopback = true
      else peer.ip = ip

def HttpRequest.closes : HttpRequest -> Bool
  | .create _ => false
  | .delete _ => true

/-- The node opened a session and was not asked to close it. -/
def LeftOpen (node : Node) (requests : List HttpRequest) : Prop :=
  node.opened = true ∧ forall request, request ∈ requests -> request.closes = false

section Property

variable (json : List UInt8 -> Option SessionResp) (destination : Text) (opts : SessionOpts)
  (node : Node) (sockets : Sockets)

/-- The call returns a substrate that reaches the session of the answer, or an
error with no session left open. -/
def AllOrNothing : Prop :=
  (forall substrate, (connect json destination opts node sockets).1 = .ok substrate ->
    (exists status body, node.answer = .ok (status, body) ∧ json body = some substrate.session) ∧
      Reaches opts substrate.session substrate.peer) ∧
  forall error, (connect json destination opts node sockets).1 = .error error ->
    ¬ LeftOpen node (connect json destination opts node sockets).2

/-- Every step succeeds, with the given session and the given address. -/
structure Established (session : SessionResp) (addr : SocketAddr) : Prop where
  answered : exists status body, node.answer = .ok (status, body) ∧ isSuccess status = true ∧
    json body = some session
  addressed : SocketAddr.parse
    (dataAddress opts session ++ ':' :: Nat.toDigits 10 session.port.toNat) = some addr
  bound : sockets.bind = .ok ()
  connected : sockets.connect addr = .ok ()

end Property

variable {json : List UInt8 -> Option SessionResp} {destination : Text} {opts : SessionOpts}
  {node : Node} {sockets : Sockets}

theorem establish_eq_ok {session : SessionResp} {substrate : HoprSubstrate} :
    establish opts sockets session = .ok substrate <->
      SocketAddr.parse (dataAddress opts session ++ ':' :: Nat.toDigits 10 session.port.toNat) =
          some substrate.peer ∧
        sockets.bind = .ok () ∧ sockets.connect substrate.peer = .ok () ∧
        session = substrate.session := by
  rw [establish]
  constructor
  · intro returned
    split at returned
    case h_1 => cases returned
    case h_2 addr parsed =>
        split at returned
        case h_1 => cases returned
        case h_2 _ bound =>
            split at returned
            case h_1 => cases returned
            case h_2 _ connected =>
                cases returned
                exact ⟨parsed, bound, connected, rfl⟩
  · rintro ⟨parsed, bound, connected, rfl⟩
    simp only [parsed, bound, connected]

/-- The call succeeds exactly if every step does. -/
theorem connect_eq_ok {substrate : HoprSubstrate} :
    (connect json destination opts node sockets).1 = .ok substrate <->
      Established json opts node sockets substrate.session substrate.peer := by
  constructor
  · intro returned
    simp only [connect] at returned
    split at returned
    case h_1 => cases returned
    case h_2 status body answer =>
        split at returned
        case isFalse => cases returned
        case isTrue success =>
            split at returned
            case h_1 => cases returned
            case h_2 session decoded =>
                rcases establish_eq_ok.mp returned with ⟨addressed, bound, connected, same⟩
                subst same
                exact ⟨⟨status, body, answer, success, decoded⟩, addressed, bound, connected⟩
  · rintro ⟨⟨status, body, answer, success, decoded⟩, addressed, bound, connected⟩
    simp only [connect, answer, success, if_true, decoded]
    exact establish_eq_ok.mpr ⟨addressed, bound, connected, rfl⟩

theorem dataAddress_override {host : Text} (override : opts.dataHost = some host)
    (session : SessionResp) : dataAddress opts session = host := by
  rw [dataAddress, override]

/-- Without an override a wildcard is replaced. -/
theorem dataAddress_returned (own : opts.dataHost = none) (session : SessionResp) :
    dataAddress opts session = "127.0.0.1".toList ∧
        (session.ip = "0.0.0.0".toList ∨ session.ip = "::".toList) ∨
      dataAddress opts session = session.ip := by
  rw [dataAddress, own]
  dsimp only
  split
  case isTrue wildcard => exact .inl ⟨rfl, wildcard⟩
  case isFalse => exact .inr rfl

theorem readHost_loopback : readHost "127.0.0.1".toList = some (.v4 127 0 0 1) := by
  decide +kernel

/-- The two texts that are replaced denote wildcards. -/
theorem readHost_wildcard {ip : Text} (wildcard : ip = "0.0.0.0".toList ∨ ip = "::".toList) :
    exists address, readHost ip = some address ∧ address.isUnspecified = true := by
  rcases wildcard with rfl | rfl
  · exact ⟨.v4 0 0 0 0, by decide +kernel, by decide⟩
  · exact ⟨.v6 0, by decide +kernel, by decide⟩

theorem not_loopback_of_unspecified {ip : IpAddr} (unspecified : ip.isUnspecified = true) :
    ip.isLoopback = false := by
  cases ip with
  | v4 first second third fourth =>
      simp only [IpAddr.isUnspecified, Bool.and_eq_true, beq_iff_eq] at unspecified
      rw [unspecified.1.1.1]
      rfl
  | v6 bits =>
      simp only [IpAddr.isUnspecified, beq_iff_eq] at unspecified
      rw [unspecified]
      rfl

/-- A session that is established is reached, unless its returned address is a
wildcard that was not replaced. -/
theorem reaches_iff {session : SessionResp} {addr : SocketAddr}
    (addressed : SocketAddr.parse
      (dataAddress opts session ++ ':' :: Nat.toDigits 10 session.port.toNat) = some addr) :
    Reaches opts session addr <-> (opts.dataHost = none -> addr.ip.isUnspecified = false) := by
  rcases parse_hostPort addressed with ⟨read, port⟩
  cases override : opts.dataHost with
  | some host =>
      rw [dataAddress_override override] at read
      refine iff_of_true ⟨port, addr.ip, ?_, ?_⟩ (fun none => nomatch none)
      · rw [override]
        exact read
      · have given : ¬ (opts.dataHost = none ∧ addr.ip.isUnspecified = true) := by
          rw [override]
          rintro ⟨absent, _⟩
          cases absent
        rw [if_neg given]
  | none =>
      rcases dataAddress_returned override session with ⟨replaced, wildcard⟩ | kept
      · rw [replaced, readHost_loopback] at read
        have loopback : addr.ip = .v4 127 0 0 1 := (Option.some.inj read).symm
        rcases readHost_wildcard wildcard with ⟨ip, denotes, unspecified⟩
        refine iff_of_true ⟨port, ip, ?_, ?_⟩ (fun _ => ?_)
        · rw [override]
          exact denotes
        · rw [if_pos ⟨override, unspecified⟩, loopback]
          rfl
        · rw [loopback]
          rfl
      · rw [kept] at read
        have denotes : readHost (opts.dataHost.getD session.ip) = some addr.ip := by
          rw [override]
          exact read
        constructor
        · rintro ⟨_, ip, same, reached⟩ _
          cases denotes.symm.trans same
          by_contra unspecified
          rw [Bool.not_eq_false] at unspecified
          rw [if_pos ⟨override, unspecified⟩, not_loopback_of_unspecified unspecified] at reached
          cases reached
        · intro specified
          refine ⟨port, addr.ip, denotes, ?_⟩
          rw [if_neg (fun both => absurd both.2 (by rw [specified rfl]; exact Bool.false_ne_true))]

/-- Opening is all or nothing exactly if the node opened no session or every
step behind its answer succeeds, and no wildcard is connected to. -/
theorem allOrNothing_iff (json : List UInt8 -> Option SessionResp) (destination : Text)
    (opts : SessionOpts) (node : Node) (sockets : Sockets) :
    AllOrNothing json destination opts node sockets <->
      (node.opened = true -> exists session addr, Established json opts node sockets session addr) ∧
      forall session addr, Established json opts node sockets session addr ->
        opts.dataHost = none -> addr.ip.isUnspecified = false := by
  constructor
  · rintro ⟨right, undone⟩
    constructor
    · intro opened
      cases returned : (connect json destination opts node sockets).1 with
      | ok substrate => exact ⟨_, _, connect_eq_ok.mp returned⟩
      | error error =>
          refine absurd ⟨opened, ?_⟩ (undone error returned)
          intro request member
          cases List.mem_singleton.mp member
          rfl
    · intro session addr established
      have reaches := right ⟨addr, session⟩ (connect_eq_ok.mpr established)
      exact (reaches_iff established.addressed).mp reaches.2
  · rintro ⟨complete, specified⟩
    constructor
    · intro substrate returned
      have established := connect_eq_ok.mp returned
      rcases established.answered with ⟨status, body, answer, _, decoded⟩
      exact ⟨⟨status, body, answer, decoded⟩,
        (reaches_iff established.addressed).mpr (specified _ _ established)⟩
    · intro error returned left
      rcases complete left.1 with ⟨session, addr, established⟩
      have succeeded := @connect_eq_ok json destination opts node sockets ⟨addr, session⟩
      rw [succeeded.mpr established] at returned
      cases returned

/-- The body of an answer with an IPv6 address. -/
def ipv6Body : List UInt8 :=
  Text.encode "\x7b\"protocol\":\"udp\",\"ip\":\"::1\",\"port\":9091\x7d".toList

def ipv6Session : SessionResp := ⟨"udp".toList, "::1".toList, 9091⟩

def ipv6Opts : SessionOpts :=
  ⟨0, "127.0.0.1:9999".toList, "[::]:0".toList, none, 30000000000⟩

theorem parse_ipv6Session :
    SocketAddr.parse
      (dataAddress ipv6Opts ipv6Session ++ ':' :: Nat.toDigits 10 ipv6Session.port.toNat) =
        none := by
  decide +kernel

/-- The returned address has no brackets, so that no socket address can be made
of it, and the session stays open. -/
theorem not_allOrNothing_ipv6 :
    ¬ AllOrNothing (fun body => if body = ipv6Body then some ipv6Session else none) [] ipv6Opts
      ⟨.ok (201, ipv6Body), true⟩ ⟨.ok (), fun _ => .ok ()⟩ := by
  rintro ⟨_, undone⟩
  refine undone (.badAddr (dataAddress ipv6Opts ipv6Session) ipv6Session.port) ?_ ⟨rfl, ?_⟩
  · have success : isSuccess 201 = true := by decide
    simp only [connect, success, if_true, establish, parse_ipv6Session]
  · intro request member
    cases List.mem_singleton.mp member
    rfl

end Hopr
end QuicMix
