import QuicMix.Foundations.Search
import QuicMix.Foundations.Text
import QuicMix.Gateway.Autopilot

namespace QuicMix
namespace Gateway

open Foundations

/-!
# Fetching a certificate

A gateway serves its certificate over HTTP: a head that announces the length of the
body, the certificate, and the end of the connection.  A peer reads to the end of the
connection, looks for the end of the head and takes what follows it for the
certificate.  It does not look at the announced length.  When the connection is closed
in the middle of the body, the peer is left with a part of the certificate and takes it
for the whole.
-/

/-- The end of the head. -/
def headerEnd : List UInt8 := [13, 10, 13, 10]

/-- The head that `serve_cert_http` writes. -/
def certHead (length : Nat) : List UInt8 :=
  Text.encode (("HTTP/1.0 200 OK\r\nContent-Type: application/octet-stream\r\n" ++
    "Content-Length: ").toList ++ Nat.toDigits 10 length ++
    "\r\nConnection: close\r\n\r\n".toList)

/-- All that `serve_cert_http` writes. -/
def certResponse (cert : List UInt8) : List UInt8 :=
  certHead cert.length ++ cert

/-- How reading ends. -/
inductive Ending where
  | closed
  | reset
  | elapsed
  deriving DecidableEq, Repr

/-- What becomes of a connection: it fails before there is an answer, or some number
of bytes of the answer arrive before it ends. -/
inductive Transit where
  | failed
  | answered (received : Nat) (ending : Ending)
  deriving DecidableEq, Repr

inductive FetchError where
  | io
  | elapsed
  /-- "cert response had no header terminator" -/
  | unterminated
  /-- "empty cert from {addr}" -/
  | empty (addr : SocketAddr)
  deriving DecidableEq, Repr

/-- What the peer makes of the bytes that it has read. -/
def certBody (addr : SocketAddr) (data : List UInt8) : Except FetchError (List UInt8) :=
  match position headerEnd data with
  | none => .error .unterminated
  | some sep =>
      if (data.drop (sep + 4)).isEmpty then .error (.empty addr) else .ok (data.drop (sep + 4))

def fetchCert (addr : SocketAddr) (response : List UInt8) :
    Transit -> Except FetchError (List UInt8)
  | .failed => .error .io
  | .answered received .closed => certBody addr (response.take received)
  | .answered _ .reset => .error .io
  | .answered _ .elapsed => .error .elapsed

/-- The connection is closed behind the first byte of the certificate and before the
last. -/
def Transit.cutsBody (cert : List UInt8) : Transit -> Prop
  | .answered received .closed =>
      (certHead cert.length).length < received ∧ received < (certResponse cert).length
  | _ => False

/-- The result is an error or the certificate. -/
def Undamaged (cert : List UInt8) (result : Except FetchError (List UInt8)) : Prop :=
  forall body, result = .ok body -> body = cert

theorem fetchCert_ne_nil {addr : SocketAddr} {response body : List UInt8} {transit : Transit}
    (fetched : fetchCert addr response transit = .ok body) : body ≠ [] := by
  rcases transit with _ | ⟨received, _ | _ | _⟩
  · cases fetched
  · change certBody addr (response.take received) = .ok body at fetched
    unfold certBody at fetched
    split at fetched
    · cases fetched
    · split at fetched
      · cases fetched
      · rename_i visible
        cases fetched
        exact fun empty => visible (List.isEmpty_iff.mpr empty)
  · cases fetched
  · cases fetched

/-! ## The head has one end -/

theorem clear_encode {text : Text} (absent : '\n' ∉ text) : ClearOf [13, 10] (Text.encode text) :=
  clearOf_of_not_mem (by decide) (Text.newline_not_mem_encode absent)

def certLines (length : Nat) : List Text :=
  ["HTTP/1.0 200 OK".toList, "Content-Type: application/octet-stream".toList,
    "Content-Length: ".toList ++ Nat.toDigits 10 length, "Connection: close".toList]

theorem certLines_clear (length : Nat) :
    forall line, line ∈ (certLines length).map Text.encode ->
      line ≠ [] ∧ ClearOf [13, 10] line := by
  intro line member
  simp only [certLines, List.map_cons, List.map_nil, List.mem_cons, List.not_mem_nil,
    or_false] at member
  rcases member with rfl | rfl | rfl | rfl
  · exact ⟨by decide, clear_encode (by decide)⟩
  · exact ⟨by decide, clear_encode (by decide)⟩
  · refine ⟨?_, clear_encode ?_⟩
    · rw [Text.encode_append]
      exact List.append_ne_nil_of_left_ne_nil (by decide) _
    · intro newline
      rcases List.mem_append.mp newline with early | late
      · exact absurd early (by decide)
      · exact Text.newline_not_mem_toDigits length late
  · exact ⟨by decide, clear_encode (by decide)⟩

theorem certHead_eq (length : Nat) :
    certHead length = List.intercalate [13, 10] ((certLines length).map Text.encode) ++
      headerEnd := by
  have front : Text.encode ("HTTP/1.0 200 OK\r\nContent-Type: application/octet-stream\r\n" ++
      "Content-Length: ").toList = Text.encode "HTTP/1.0 200 OK".toList ++ [13, 10] ++
        (Text.encode "Content-Type: application/octet-stream".toList ++ [13, 10] ++
          Text.encode "Content-Length: ".toList) := by decide
  have back : Text.encode "\r\nConnection: close\r\n\r\n".toList =
      [13, 10] ++ Text.encode "Connection: close".toList ++ headerEnd := by decide
  rw [certHead, Text.encode_append, Text.encode_append, front, back]
  simp only [certLines, List.map_cons, List.map_nil, List.intercalate_cons_cons,
    List.intercalate_singleton, Text.encode_append, List.append_assoc]

/-- Nothing in the head looks like its end. -/
theorem exists_certHead (length : Nat) :
    exists lines, certHead length = lines ++ headerEnd ∧ ClearOf headerEnd lines := by
  refine ⟨_, certHead_eq length, ?_⟩
  apply clearOf_intercalate (by decide) (certLines_clear length)
  exact List.cons_ne_nil _ _

theorem certBody_head {addr : SocketAddr} (length : Nat) (body : List UInt8) :
    certBody addr (certHead length ++ body) =
      if body.isEmpty then .error (.empty addr) else .ok body := by
  rcases exists_certHead length with ⟨lines, split, clear⟩
  have dropped : (lines ++ headerEnd ++ body).drop (lines.length + 4) = body := by
    have size : lines.length + 4 = (lines ++ headerEnd).length := by
      rw [List.length_append]
      rfl
    rw [size, List.drop_left]
  rw [certBody, split, position_append (by decide) clear body]
  dsimp only
  rw [dropped]

theorem certBody_short {addr : SocketAddr} {length : Nat} {data : List UInt8}
    (short : data <+: (certHead length).dropLast) :
    certBody addr data = .error .unterminated := by
  rcases exists_certHead length with ⟨lines, split, clear⟩
  rw [split] at short
  rw [certBody, position_eq_none.mpr (clear.not_infix (by decide) short)]

/-! ## What the peer is left with -/

/-- What is read of the answer before the connection is closed. -/
theorem received_cases (cert : List UInt8) (received : Nat) :
    (certResponse cert).take received <+: (certHead cert.length).dropLast ∧
        received < (certHead cert.length).length ∨
      exists body, (certResponse cert).take received = certHead cert.length ++ body ∧
        body <+: cert ∧
        min received (certResponse cert).length = (certHead cert.length).length + body.length := by
  have total : (certResponse cert).length = (certHead cert.length).length + cert.length :=
    List.length_append
  have size : ((certResponse cert).take received).length =
      min received (certResponse cert).length := List.length_take
  rcases prefix_append_cases (List.take_prefix received (certResponse cert)) with
    ⟨short, less⟩ | ⟨body, split, part⟩
  · exact .inl ⟨short, by omega⟩
  · rw [split, List.length_append] at size
    exact .inr ⟨body, split, part, size.symm⟩

/-- A certificate is fetched whole or not at all, except when the connection is closed
inside it. -/
theorem undamaged_iff {addr : SocketAddr} {cert : List UInt8} (nonempty : cert ≠ [])
    (transit : Transit) :
    Undamaged cert (fetchCert addr (certResponse cert) transit) <-> ¬ transit.cutsBody cert := by
  cases transit with
  | failed => exact iff_of_true nofun id
  | answered received ending =>
      cases ending with
      | reset => exact iff_of_true nofun id
      | elapsed => exact iff_of_true nofun id
      | closed =>
          have positive := List.length_pos_iff.mpr nonempty
          have total : (certResponse cert).length = (certHead cert.length).length + cert.length :=
            List.length_append
          rw [fetchCert, Transit.cutsBody]
          rcases received_cases cert received with ⟨short, less⟩ | ⟨body, split, part, size⟩
          · rw [certBody_short short]
            exact iff_of_true nofun (by omega)
          · rw [split, certBody_head]
            have bound := part.length_le
            cases body with
            | nil => exact iff_of_true nofun (by rw [List.length_nil] at size; omega)
            | cons first rest =>
                constructor
                · intro undamaged
                  rw [undamaged _ rfl] at size
                  omega
                · intro whole other same
                  cases same
                  apply part.eq_of_length
                  rw [List.length_cons] at bound size ⊢
                  omega

/-! ## What the directory is left with -/

def toCert (bytes : List UInt8) : Cert :=
  bytes.map UInt8.toBitVec

theorem toCert_inj {first second : List UInt8} (same : toCert first = toCert second) :
    first = second := by
  apply List.map_injective_iff.mpr _ same
  intro left right equal
  exact UInt8.toBitVec_inj.mp equal

/-- What the refresh task is given by a fetch. -/
def delivered (addr : SocketAddr) (cert : List UInt8) (transit : Transit) : Option Cert :=
  (fetchCert addr (certResponse cert) transit).toOption.map toCert

namespace Node

variable {served : SocketAddr -> List UInt8}

/-- The entries of other nodes hold the certificates that those nodes serve. -/
def Pinned (served : SocketAddr -> List UInt8) (node : Node) : Prop :=
  forall gateway, gateway ∈ node.session.directory.gateways.entries ->
    some gateway.addr ≠ node.self -> gateway.cert = toCert (served gateway.addr)

/-- A fetch ends as it does over some connection that is not closed inside the
certificate. -/
def Delivered (served : SocketAddr -> List UInt8) (node : Node) : NodeAction -> Prop
  | .fetched cert =>
      forall addr begun rest, node.refresh = .fetching addr begun rest ->
        exists transit : Transit, cert = delivered addr (served addr) transit ∧
          ¬ transit.cutsBody (served addr)
  | _ => True

theorem delivered_eq {addr : SocketAddr} {cert : List UInt8} (nonempty : cert ≠ [])
    {transit : Transit} (safe : ¬ transit.cutsBody cert) {fetched : Cert}
    (ended : some fetched = delivered addr cert transit) : fetched = toCert cert := by
  have undamaged := (@undamaged_iff addr cert nonempty transit).mpr safe
  unfold delivered at ended
  cases result : fetchCert addr (certResponse cert) transit with
  | error error =>
      rw [result] at ended
      cases ended
  | ok body =>
      rw [result] at ended
      cases ended
      rw [undamaged body result]

theorem Pinned.step (nonempty : forall addr, served addr ≠ []) {node next : Node}
    {action : NodeAction} (pinned : node.Pinned served) (safe : node.Delivered served action)
    (moved : Moved node action next) : next.Pinned served := by
  cases moved with
  | announced addr begun rest cert phase =>
      intro gateway member other
      rcases Table.mem_insert.mp member with ⟨old, _⟩ | new
      · exact pinned gateway old other
      · rcases safe addr begun rest phase with ⟨transit, ended, uncut⟩
        rw [new]
        exact delivered_eq (nonempty addr) uncut ended
  | sampled order index chosen phase drawn =>
      intro gateway member other
      exact pinned gateway (Table.mem_retain.mp member).1 other
  | listed order =>
      intro gateway member other
      exact pinned gateway (Table.mem_retain.mp member).1 other
  | _ => exact pinned

theorem pinned_launch (self : Option SocketAddr) (cert : Cert) (peers : List SocketAddr)
    (now : Instant) : (launch self cert peers now).Pinned served := by
  intro gateway member other
  cases self with
  | none => cases member
  | some addr =>
      rcases Table.mem_insert.mp member with ⟨old, _⟩ | new
      · cases old
      · rw [new] at other
        exact absurd rfl other

/-- A part of a certificate replaces what the directory holds. -/
theorem not_pinned_of_cut {node : Node} {addr : SocketAddr} {begun : Instant}
    {rest : List SocketAddr} {transit : Transit} (nonempty : served addr ≠ [])
    (phase : node.refresh = .fetching addr begun rest) (other : some addr ≠ node.self)
    (cut : transit.cutsBody (served addr)) :
    exists next, node.fetched (delivered addr (served addr) transit) = some next ∧
      ¬ next.Pinned served := by
  have damaged : ¬ Undamaged (served addr) (fetchCert addr (certResponse (served addr)) transit) :=
    fun undamaged => (undamaged_iff nonempty transit).mp undamaged cut
  cases result : fetchCert addr (certResponse (served addr)) transit with
  | error error =>
      rw [result] at damaged
      exact absurd nofun damaged
  | ok body =>
      have different : body ≠ served addr := by
        rintro rfl
        apply damaged
        intro other same
        rw [result] at same
        cases same
        rfl
      have visible : toCert body ≠ [] := fun empty =>
        fetchCert_ne_nil result (List.map_eq_nil_iff.mp empty)
      refine ⟨{ node with
        session := node.session.announce addr (toCert body)
        refresh := .visiting rest }, ?_, ?_⟩
      · rw [delivered, result, fetched, phase]
        exact if_neg visible
      · intro pinned
        have entry := pinned ⟨addr, toCert body, node.session.clock⟩
          (Table.mem_insert.mpr (.inr rfl)) other
        exact different (toCert_inj entry)

end Node

/-- Certificates.  What is fetched is an error or the certificate that is served, if and
only if the connection is not closed inside the certificate.  In every run whose fetches
end so, the directory holds certificates as they are served; and a connection that is
closed inside one damages the directory. -/
theorem fetchCert_undamaged_iff (served : SocketAddr -> List UInt8)
    (nonempty : forall addr, served addr ≠ []) :
    (forall addr transit,
      Undamaged (served addr) (fetchCert addr (certResponse (served addr)) transit) <->
        ¬ transit.cutsBody (served addr)) ∧
    (forall self cert peers now schedule node,
      run Node.step (Node.launch self cert peers now) schedule = some node ->
      Meets Node.step (Node.Delivered served) (Node.launch self cert peers now) schedule ->
      node.Pinned served) ∧
    (forall (node : Node) addr begun rest (transit : Transit),
      node.refresh = .fetching addr begun rest -> some addr ≠ node.self ->
      transit.cutsBody (served addr) ->
      exists next, node.fetched (delivered addr (served addr) transit) = some next ∧
        ¬ next.Pinned served) := by
  refine ⟨?_, ?_, ?_⟩
  · intro addr transit
    exact undamaged_iff (nonempty addr) transit
  · intro self cert peers now schedule node ran met
    refine invariant_of_meets (Node.Delivered served) (Node.Pinned served) ?_
      (Node.pinned_launch self cert peers now) met ran
    intro state action next safe pinned stepped
    exact pinned.step nonempty safe (Node.moved_of_step stepped)
  · intro node addr begun rest transit phase other cut
    exact Node.not_pinned_of_cut (nonempty addr) phase other cut

/-- A peer that serves a certificate of three bytes, and a fetch that runs to its
end. -/
def samplePeer : SocketAddr := .v4 9 9 9 9 443

def sampleSchedule : List NodeAction :=
  [.startRefresh, .visit, .fetched (some (toCert [1, 2, 3]))]

theorem fetchCert_undamaged_sample :
    fetchCert samplePeer (certResponse [1, 2, 3]) (.answered 1000 .closed) = .ok [1, 2, 3] ∧
    exists node, run Node.step (Node.launch none [] [samplePeer] 0) sampleSchedule = some node ∧
      node.Pinned (fun _ => [1, 2, 3]) := by
  have whole : ¬ (Transit.answered 1000 .closed).cutsBody [1, 2, 3] := by
    rw [Transit.cutsBody]
    decide
  have facts := fetchCert_undamaged_iff (fun _ => [1, 2, 3]) (fun _ => List.cons_ne_nil _ _)
  have fetched : fetchCert samplePeer (certResponse [1, 2, 3]) (.answered 1000 .closed) =
      .ok [1, 2, 3] := by decide +kernel
  refine ⟨fetched, _, rfl, ?_⟩
  refine facts.2.1 none [] [samplePeer] 0 sampleSchedule _ rfl ?_
  refine Meets.cons trivial rfl (Meets.cons trivial rfl (Meets.cons ?_ rfl trivial))
  intro addr begun rest phase
  cases phase
  exact ⟨.answered 1000 .closed, by rw [delivered, fetched]; rfl, whole⟩

/-- The connection is closed behind the first byte of the certificate: that byte is
taken for the certificate. -/
theorem fetchCert_first_byte :
    fetchCert samplePeer (certResponse [1, 2, 3])
        (.answered ((certHead 3).length + 1) .closed) = .ok [1] ∧
      ¬ Undamaged [1, 2, 3] (fetchCert samplePeer (certResponse [1, 2, 3])
        (.answered ((certHead 3).length + 1) .closed)) := by
  have fetched : fetchCert samplePeer (certResponse [1, 2, 3])
      (.answered ((certHead 3).length + 1) .closed) = .ok [1] := by decide +kernel
  refine ⟨fetched, ?_⟩
  intro undamaged
  cases undamaged [1] fetched

end Gateway
end QuicMix
