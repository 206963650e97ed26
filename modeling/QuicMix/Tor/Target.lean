import QuicMix.Gateway.Addresses
import QuicMix.Tor.Socks

namespace QuicMix
namespace Tor

open Foundations
open Text
open Gateway

/-!
# The target of a sidecar

The client tells a sidecar process its gateway through the environment, in
textual form.  The sidecar takes the text apart at its last colon and asks the
proxy for a connection to what stands before it.  For an IPv4 gateway that is the
address.  An IPv6 gateway is written in brackets, and these stay with the host:
the proxy is asked for a name that is no address.
-/

inductive TorError where
  /-- No colon separates a host from a port. -/
  | expectedHostPort (text : Text)
  | badPort (text : Text)
  /-- The circuit to a target could not be opened. -/
  | circuit (target : Text) (error : SocksError)

def splitHostPort (text : Text) : Except TorError (Text × BitVec 16) :=
  match rsplitOnce ':' text with
  | none => .error (.expectedHostPort text)
  | some (host, port) =>
      match parseU16 port with
      | none => .error (.badPort text)
      | some number => .ok (host, BitVec.ofNat 16 number)

/-- The calls on the proxy's stream, and whether a `StreamDatagram` is made of
it. -/
def torStreamTo (gatewayBridge : Text) : Script (Except TorError Unit) :=
  match splitHostPort gatewayBridge with
  | .error error => .done (.error error)
  | .ok (host, port) =>
      (socks5Connect host port).map (fun result => result.mapError (.circuit gatewayBridge))

def sidecarTargetEnv : String := "QUICMIX_SIDECAR_TARGET"

/-- The environment in which `spawn_sidecar` starts the sidecar. -/
def spawnSidecar (inherited : String -> Option Text) (gateway : SocketAddr) :
    String -> Option Text :=
  fun name => if name = sidecarTargetEnv then some gateway.text else inherited name

/-- Where the sidecar looks for its target. -/
def sidecarTarget (environment : String -> Option Text) : Option Text :=
  (environment sidecarTargetEnv).orElse (fun _ => environment "QUICMIX_TOR_GATEWAY")

/-- The request that the sidecar sends to a proxy that accepts its greeting
names the address of the gateway, as a literal, and its port. -/
def NamesGateway (inherited : String -> Option Text) (gateway : SocketAddr) : Prop :=
  exists target, sidecarTarget (spawnSidecar inherited gateway) = some target ∧
    exists sent name literal,
      (forall stream, (torStreamTo target).output ([0x05, 0x00] ++ stream) = greeting ++ sent) ∧
      decodeRequest sent = some (name, gateway.port.toNat) ∧ decode name = some literal ∧
      IpAddr.parse literal = some gateway.ip

def SocketAddr.isIpv4 : SocketAddr -> Bool
  | .v4 _ _ _ _ _ => true
  | .v6 _ _ _ _ => false

theorem sidecarTarget_spawnSidecar (inherited : String -> Option Text) (gateway : SocketAddr) :
    sidecarTarget (spawnSidecar inherited gateway) = some gateway.text := by
  rw [sidecarTarget, spawnSidecar, if_pos rfl]
  rfl

/-- The text is taken apart in front of the port. -/
theorem splitHostPort_text (host : Text) (port : BitVec 16) :
    splitHostPort (host ++ ':' :: Nat.toDigits 10 port.toNat) = .ok (host, port) := by
  have absent : ':' ∉ Nat.toDigits 10 port.toNat := by
    intro member
    exact absurd (isDigitIn_toDigits member) (by decide)
  simp only [splitHostPort, rsplitOnce_append absent, parseU16_toDigits port.isLt,
    BitVec.ofNat_toNat, BitVec.setWidth_eq]

/-- The part of a socket address in front of its port. -/
def hostText : SocketAddr -> Text
  | .v4 first second third fourth _ => Ipv4Addr.text first second third fourth
  | .v6 bits _ _ scopeId =>
      if scopeId = 0 then '[' :: Ipv6Addr.text bits ++ [']']
      else '[' :: Ipv6Addr.text bits ++ '%' :: Nat.toDigits 10 scopeId.toNat ++ [']']

theorem text_eq_hostText (gateway : SocketAddr) :
    gateway.text = hostText gateway ++ ':' :: Nat.toDigits 10 gateway.port.toNat := by
  cases gateway with
  | v4 first second third fourth port => rfl
  | v6 bits port flowinfo scopeId =>
      rw [SocketAddr.text, hostText]
      split
      · simp only [List.append_assoc, List.cons_append, List.nil_append, SocketAddr.port]
      · simp only [List.append_assoc, List.cons_append, List.nil_append, SocketAddr.port]

theorem hostText_v6 (bits : BitVec 128) (port : BitVec 16) (flowinfo scopeId : BitVec 32) :
    exists rest, hostText (.v6 bits port flowinfo scopeId) = '[' :: rest := by
  rw [hostText]
  split
  · exact ⟨_, rfl⟩
  · exact ⟨_, rfl⟩

/-- The sidecar writes what a connection to the host and the port of its gateway
writes. -/
theorem output_torStreamTo (gateway : SocketAddr) (stream : List UInt8) :
    (torStreamTo gateway.text).output stream =
      (socks5Connect (hostText gateway) gateway.port).output stream := by
  rw [torStreamTo, text_eq_hostText, splitHostPort_text]
  exact congrArg Prod.fst (Script.evaluate_map _ _ stream)

/-- The request names the host and the port that the text was taken apart into. -/
theorem namesGateway_iff_parse (inherited : String -> Option Text) (gateway : SocketAddr) :
    NamesGateway inherited gateway <->
      (encode (hostText gateway)).length <= 255 ∧
        IpAddr.parse (hostText gateway) = some gateway.ip := by
  constructor
  · rintro ⟨target, set, sent, name, literal, wrote, decoded, spelled, parsed⟩
    rw [sidecarTarget_spawnSidecar] at set
    cases set
    by_cases short : (encode (hostText gateway)).length <= 255
    · have all := wrote []
      rw [output_torStreamTo, output_accepted short] at all
      have same : request (hostText gateway) gateway.port = sent := List.append_cancel_left all
      rw [← same, decodeRequest_request short] at decoded
      cases decoded
      rw [decode_encode] at spelled
      cases spelled
      exact ⟨short, parsed⟩
    · have all := wrote []
      rw [output_torStreamTo, output_tooLong short] at all
      have none : sent = [] := List.append_cancel_left (all.symm.trans (List.append_nil _).symm)
      rw [none] at decoded
      cases decoded
  · rintro ⟨short, parsed⟩
    refine ⟨gateway.text, sidecarTarget_spawnSidecar inherited gateway,
      request (hostText gateway) gateway.port, encode (hostText gateway), hostText gateway, ?_,
      decodeRequest_request short gateway.port, decode_encode _, parsed⟩
    intro stream
    rw [output_torStreamTo]
    exact output_accepted short gateway.port stream

theorem length_encode_le (text : Text) : (encode text).length <= 4 * text.length := by
  induction text with
  | nil => exact Nat.le_refl 0
  | cons char rest inductionHypothesis =>
      have one : (String.utf8EncodeChar char).length <= 4 := by
        rw [String.length_utf8EncodeChar]
        exact char.utf8Size_le_four
      change (String.utf8EncodeChar char ++ encode rest).length <= _
      rw [List.length_append, List.length_cons]
      omega

theorem length_ipv4 (first second third fourth : BitVec 8) :
    (Ipv4Addr.text first second third fourth).length <= 15 := by
  have three : forall octet : BitVec 8, (Nat.toDigits 10 octet.toNat).length <= 3 := by
    intro octet
    exact (Nat.length_toDigits_le_iff (by decide) (by decide)).mpr
      (Nat.lt_trans octet.isLt (by decide))
  have one := three first
  have two := three second
  have other := three third
  have last := three fourth
  simp only [Ipv4Addr.text, List.length_append, List.length_cons]
  omega

theorem parse_hostText_v6 (bits : BitVec 128) (port : BitVec 16) (flowinfo scopeId : BitVec 32) :
    IpAddr.parse (hostText (.v6 bits port flowinfo scopeId)) = none := by
  rcases hostText_v6 bits port flowinfo scopeId with ⟨rest, begins⟩
  rw [begins]
  exact parse_bracket rest

/-- The gateway survives its textual round trip exactly if its address is an
IPv4 address. -/
theorem namesGateway_iff (inherited : String -> Option Text) (gateway : SocketAddr) :
    NamesGateway inherited gateway <-> SocketAddr.isIpv4 gateway = true := by
  rw [namesGateway_iff_parse]
  cases gateway with
  | v4 first second third fourth port =>
      refine iff_of_true ⟨?_, parse_ipv4 first second third fourth⟩ rfl
      have bytes := length_encode_le (Ipv4Addr.text first second third fourth)
      have chars := length_ipv4 first second third fourth
      change (encode (Ipv4Addr.text first second third fourth)).length <= 255
      omega
  | v6 bits port flowinfo scopeId =>
      refine iff_of_false ?_ Bool.false_ne_true
      rintro ⟨_, parsed⟩
      rw [parse_hostText_v6] at parsed
      cases parsed

/-- The loopback address of IPv6: the proxy is asked for the name `[::1]`. -/
theorem not_namesGateway_loopback :
    (SocketAddr.v6 1 443 0 0).text = "[::1]:443".toList ∧
      decodeRequest (request "[::1]".toList 443) = some (encode "[::1]".toList, 443) ∧
      ¬ NamesGateway (fun _ => none) (.v6 1 443 0 0) := by
  refine ⟨by decide +kernel, by decide +kernel, ?_⟩
  intro names
  have parsed := ((namesGateway_iff_parse _ _).mp names).2
  rw [parse_hostText_v6] at parsed
  cases parsed

end Tor
end QuicMix
