import QuicMix.Foundations.Text
import QuicMix.Gateway.Autopilot

namespace QuicMix
namespace Gateway

open Foundations

/-!
# Which front the QUIC client dials

The substrate is chosen in two places.  A node takes it from its environment
with `from_env` and obtains the front of each circuit from `resolve`.  The
metrics websocket takes it from the request and chooses the front by itself in
`run_measure`.

A front is modelled with its supply: who it was obtained from.  What the
outside answers (the parsing of addresses, the lines of a sidecar, the transport
of a linked substrate, the sockets) is a parameter, and the results are stated
for whatever it answers.
-/

/-! ## The environment -/

/-- An environment variable as it is read. -/
inductive EnvVar where
  | unset
  | notUnicode
  | text (value : Text)
  deriving DecidableEq, Repr

def EnvVar.value? : EnvVar -> Option Text
  | .text value => some value
  | _ => none

theorem EnvVar.value?_eq_some {var : EnvVar} {value : Text}
    (read : var.value? = some value) : var = .text value := by
  cases var with
  | text own => exact congrArg EnvVar.text (Option.some.inj read)
  | _ => cases read

/-- The variable is there. -/
def EnvVar.isSet : EnvVar -> Bool
  | .unset => false
  | _ => true

structure Env where
  substrate : EnvVar
  sidecarFront : EnvVar
  sidecarCmd : EnvVar
  deriving DecidableEq, Repr

inductive SubstrateChoice where
  | direct
  | sidecarAt (addr : SocketAddr)
  | sidecarCmd (name program : Text) (args : List Text)
  | named (name : Text)
  deriving DecidableEq, Repr

/-- The ways in which the choice of a front fails. -/
inductive FrontError where
  | sidecarFront (value : Text)
  | sidecarCmdEmpty
  | notLinked (name : Text)
  | building (name : Text)
  | binding
  | spawning (program : Text)
  | noStdout (program : Text)
  | frontAddr (rest : Text)
  | exited (program : Text)
  | unreadable (program : Text)
  | notAnnounced (program : Text)
  | unrecognisedGateway (value : Text)
  | fetchCert (gateway : SocketAddr)
  | torUnreachable
  | torCircuit
  deriving DecidableEq, Repr

def directName : Text := "direct".toList

/-- How an address is read from text, as the standard library does it. -/
structure AddrReader where
  socketAddr : Text -> Option SocketAddr
  ipAddr : Text -> Option IpAddr

/-- The name that the environment gives; an unset variable reads as empty. -/
def Env.name (env : Env) : Text :=
  env.substrate.value?.getD []

/-- The choice for a name that is not that of the direct path. -/
def SubstrateChoice.fromSidecar (reader : AddrReader) (env : Env) (name : Text) :
    Except FrontError SubstrateChoice :=
  match env.sidecarFront.value? with
  | some front =>
      match reader.socketAddr front.trim with
      | some addr => .ok (.sidecarAt addr)
      | none => .error (.sidecarFront front.trim)
  | none =>
      match env.sidecarCmd.value? with
      | some cmd =>
          match cmd.splitWhitespace with
          | program :: args => .ok (.sidecarCmd name program args)
          | [] => .error .sidecarCmdEmpty
      | none => .ok (.named name)

def SubstrateChoice.fromEnv (reader : AddrReader) (env : Env) :
    Except FrontError SubstrateChoice :=
  if env.name.trim.isEmpty || env.name.trim.eqIgnoreCase directName then .ok .direct
  else fromSidecar reader env env.name.trim

/-! ## The front of a circuit -/

/-- Who a front was obtained from. -/
inductive Supply where
  | gateway
  | sidecarAt
  | sidecarChild (program : Text)
  | linked (name : Text)
  | torStream
  deriving DecidableEq, Repr

structure Front where
  addr : SocketAddr
  supply : Supply
  deriving DecidableEq, Repr

/-- How the output of a sidecar ends before it has announced a front. -/
inductive OutputEnd where
  | exited
  | unreadable
  | timedOut
  deriving DecidableEq, Repr

/-- What spawning a sidecar leads to: its output up to its end. -/
inductive Sidecar where
  | notSpawned
  | noStdout
  | output (lines : List Text) (ending : OutputEnd)
  deriving DecidableEq, Repr

/-- What the outside answers when a front is resolved.  The builder is there
if linked substrates are; it builds a transport for a name or fails.  The local
address is that of the socket to which a transport is bridged, if it can be
bound. -/
structure Outside where
  reader : AddrReader
  sidecar : Text -> List Text -> SocketAddr -> Sidecar
  builder : Option (Text -> SocketAddr -> Bool)
  localAddr : Option SocketAddr

def frontLine : Text := "FRONT ".toList

/-- Bind a local socket and bridge a transport to it. -/
def spawnSubstrateFront (outside : Outside) (supply : Supply) : Except FrontError Front :=
  match outside.localAddr with
  | some addr => .ok ⟨addr, supply⟩
  | none => .error .binding

/-- Read the lines of a sidecar until one announces a front. -/
def readFront (reader : AddrReader) (program : Text) (ending : OutputEnd) :
    List Text -> Except FrontError SocketAddr
  | [] =>
      match ending with
      | .exited => .error (.exited program)
      | .unreadable => .error (.unreadable program)
      | .timedOut => .error (.notAnnounced program)
  | line :: rest =>
      match line.stripStart frontLine with
      | some announced =>
          match reader.socketAddr announced.trim with
          | some addr => .ok addr
          | none => .error (.frontAddr announced)
      | none => readFront reader program ending rest

def spawnSidecar (outside : Outside) (program : Text) (args : List Text)
    (gateway : SocketAddr) : Except FrontError Front :=
  match outside.sidecar program args gateway with
  | .notSpawned => .error (.spawning program)
  | .noStdout => .error (.noStdout program)
  | .output lines ending => do
      let addr <- readFront outside.reader program ending lines
      return ⟨addr, .sidecarChild program⟩

/-- The front of one circuit to the gateway. -/
def resolve (outside : Outside) (gateway : SocketAddr) :
    SubstrateChoice -> Except FrontError Front
  | .direct => .ok ⟨gateway, .gateway⟩
  | .sidecarAt addr => .ok ⟨addr, .sidecarAt⟩
  | .sidecarCmd _ program args => spawnSidecar outside program args gateway
  | .named name =>
      match outside.builder with
      | none => .error (.notLinked name)
      | some builds =>
          if builds name gateway then spawnSubstrateFront outside (.linked name)
          else .error (.building name)

/-! ## The metrics websocket -/

/-- The fields of a request that decide about the front. -/
structure MeasureRequest where
  gateway : Option Text
  substrate : Option Text
  deriving DecidableEq, Repr

/-- What the outside answers to a measurement. -/
structure MeasureOutside where
  outside : Outside
  certFetched : SocketAddr -> Bool
  torReachable : Bool
  torStream : Bool

def torName : Text := "tor".toList

/-- A gateway by demo id, by address and port, or by address. -/
def resolveGateway (reader : AddrReader) (value : Text) : Except FrontError SocketAddr :=
  let value := value.trim
  let mapped :=
    if value = "fra1".toList then "64.226.93.43:4433".toList
    else if value = "nyc3".toList then "68.183.148.148:4433".toList
    else value
  match reader.socketAddr mapped with
  | some addr => .ok addr
  | none =>
      match reader.ipAddr mapped with
      | some ip => .ok (SocketAddr.new ip 4433)
      | none => .error (.unrecognisedGateway value)

/-- The front that `run_measure` dials. -/
def measureFront (world : MeasureOutside) (gateway : SocketAddr) (substrate : Text) :
    Except FrontError Front :=
  if world.certFetched gateway then
    if substrate = torName then
      if world.torReachable then
        if world.torStream then spawnSubstrateFront world.outside .torStream
        else .error .torCircuit
      else .error .torUnreachable
    else .ok ⟨gateway, .gateway⟩
  else .error (.fetchCert gateway)

/-- The substrate of a request, as `handle` reads it. -/
def MeasureRequest.substrateName (request : MeasureRequest) : Text :=
  (request.substrate.getD directName).lower

/-- The gateway that a request names. -/
def MeasureRequest.gatewayAddr (reader : AddrReader) (request : MeasureRequest) :
    Except FrontError SocketAddr :=
  resolveGateway reader (request.gateway.getD [])

/-- The front that a request leads to. -/
def handle (world : MeasureOutside) (request : MeasureRequest) : Except FrontError Front := do
  let gateway <- request.gatewayAddr world.outside.reader
  measureFront world gateway request.substrateName

/-! ## No silent downgrade -/

/-- The name asks for a substrate other than the direct path. -/
def NonDirect (name : Text) : Prop :=
  name.trim.lower ≠ [] ∧ name.trim.lower ≠ directName

/-- The front is one that the named substrate supplies: a sidecar that was
configured or spawned for it, its own transport, or the Tor stream. -/
def SuppliedBy (name : Text) : Supply -> Prop
  | .gateway => False
  | .sidecarAt => True
  | .sidecarChild _ => True
  | .linked built => built = name.trim
  | .torStream => name.trim.lower = torName

/-- A name that asks for a substrate, from the environment or from a request,
leads to an error or to a front which that substrate supplies, at another address
than the gateway's own; and where a sidecar is configured the choice is not the
direct path. -/
structure NoSilentDowngrade (env : Env) (gateway : SocketAddr) (world : MeasureOutside)
    (request : MeasureRequest) : Prop where
  environment : forall name, env.substrate = .text name -> NonDirect name ->
    forall choice, SubstrateChoice.fromEnv world.outside.reader env = .ok choice ->
    forall front, resolve world.outside gateway choice = .ok front ->
      SuppliedBy name front.supply ∧ front.addr ≠ gateway
  request : forall name, request.substrate = some name -> NonDirect name ->
    forall front, handle world request = .ok front ->
      SuppliedBy name front.supply ∧
        request.gatewayAddr world.outside.reader ≠ .ok front.addr
  sidecar : (env.sidecarFront.isSet = true ∨ env.sidecarCmd.isSet = true) ->
    SubstrateChoice.fromEnv world.outside.reader env ≠ .ok .direct

theorem not_nonDirect_iff {name : Text} :
    ¬ NonDirect name <-> (name.trim.isEmpty || name.trim.eqIgnoreCase directName) = true := by
  have lowered : directName.lower = directName := rfl
  rw [Bool.or_eq_true, List.isEmpty_iff, Text.eqIgnoreCase_iff, lowered, NonDirect,
    Text.lower_eq_nil.ne, not_and_or, not_not, not_not]

/-- A choice that is not the direct path is a configured sidecar or carries the
name of the environment. -/
theorem fromEnv_cases {reader : AddrReader} {env : Env} {choice : SubstrateChoice}
    (other : NonDirect env.name) (chosen : SubstrateChoice.fromEnv reader env = .ok choice) :
    (exists addr, choice = .sidecarAt addr) ∨
      (exists program args, choice = .sidecarCmd env.name.trim program args) ∨
      choice = .named env.name.trim := by
  have named : ¬ (env.name.trim.isEmpty || env.name.trim.eqIgnoreCase directName) = true :=
    fun direct => not_nonDirect_iff.mpr direct other
  rw [SubstrateChoice.fromEnv, if_neg named] at chosen
  unfold SubstrateChoice.fromSidecar at chosen
  split at chosen
  · split at chosen
    · rename_i addr _
      cases chosen
      exact .inl ⟨addr, rfl⟩
    · cases chosen
  · split at chosen
    · split at chosen
      · rename_i program args _
        cases chosen
        exact .inr (.inl ⟨program, args, rfl⟩)
      · cases chosen
    · cases chosen
      exact .inr (.inr rfl)

/-- The direct path is chosen if and only if no other substrate is named. -/
theorem fromEnv_eq_direct_iff {reader : AddrReader} {env : Env} :
    SubstrateChoice.fromEnv reader env = .ok .direct <-> ¬ NonDirect env.name := by
  constructor
  · intro chosen other
    rcases fromEnv_cases other chosen with ⟨_, impossible⟩ | ⟨_, _, impossible⟩ | impossible
    · cases impossible
    · cases impossible
    · cases impossible
  · intro direct
    exact if_pos (not_nonDirect_iff.mp direct)

/-! ## The addresses of fronts -/

/-- What the environment configures for a front is not the gateway itself: neither
the address of a sidecar that is running, nor the one that a sidecar announces when
it is spawned, nor that of the socket to which a linked transport is bridged. -/
structure Apart (outside : Outside) (env : Env) (gateway : SocketAddr) : Prop where
  configured : forall front, env.sidecarFront = .text front ->
    outside.reader.socketAddr front.trim ≠ some gateway
  announced : env.sidecarFront.value? = none -> forall cmd program args lines ending,
    env.sidecarCmd = .text cmd -> cmd.splitWhitespace = program :: args ->
    outside.sidecar program args gateway = .output lines ending ->
      readFront outside.reader program ending lines ≠ .ok gateway
  bridged : env.sidecarFront.value? = none -> env.sidecarCmd.value? = none ->
    forall builds, outside.builder = some builds -> builds env.name.trim gateway = true ->
      outside.localAddr ≠ some gateway

/-- The socket to which a Tor stream is bridged is not the gateway that a request
names. -/
def TunnelApart (world : MeasureOutside) (request : MeasureRequest) : Prop :=
  world.torReachable = true -> world.torStream = true ->
    forall gateway, request.gatewayAddr world.outside.reader = .ok gateway ->
      world.outside.localAddr ≠ some gateway

theorem spawnSubstrateFront_eq_ok_iff {outside : Outside} {supply : Supply} {front : Front} :
    spawnSubstrateFront outside supply = .ok front <->
      outside.localAddr = some front.addr ∧ front.supply = supply := by
  rcases front with ⟨addr, supplied⟩
  unfold spawnSubstrateFront
  cases outside.localAddr with
  | none =>
      constructor
      · intro bound
        cases bound
      · intro bound
        cases bound.1
  | some own =>
      simp only [Except.ok.injEq, Front.mk.injEq, Option.some.injEq]
      exact and_congr_right (fun _ => eq_comm)

theorem spawnSidecar_eq_ok_iff {outside : Outside} {program : Text} {args : List Text}
    {gateway : SocketAddr} {front : Front} :
    spawnSidecar outside program args gateway = .ok front <->
      front.supply = .sidecarChild program ∧
        exists lines ending, outside.sidecar program args gateway = .output lines ending ∧
          readFront outside.reader program ending lines = .ok front.addr := by
  rcases front with ⟨addr, supplied⟩
  unfold spawnSidecar
  cases outside.sidecar program args gateway with
  | notSpawned =>
      constructor
      · intro announced
        cases announced
      · rintro ⟨_, _, _, output, _⟩
        cases output
  | noStdout =>
      constructor
      · intro announced
        cases announced
      · rintro ⟨_, _, _, output, _⟩
        cases output
  | output lines ending =>
      cases read : readFront outside.reader program ending lines with
      | error failure =>
          constructor
          · intro announced
            simp only [read] at announced
            cases announced
          · rintro ⟨_, _, _, same, found⟩
            cases same
            cases read.symm.trans found
      | ok own =>
          simp only [read]
          constructor
          · intro found
            cases found
            exact ⟨rfl, lines, ending, rfl, read⟩
          · rintro ⟨supply, _, _, same, found⟩
            cases same
            cases read.symm.trans found
            cases supply
            rfl

/-- A choice other than the direct path resolves to a front that the substrate
supplies. -/
theorem suppliedBy_of_resolve {outside : Outside} {gateway : SocketAddr} {name : Text}
    {choice : SubstrateChoice} {front : Front}
    (chosen : (exists addr, choice = .sidecarAt addr) ∨
      (exists program args, choice = .sidecarCmd name.trim program args) ∨
      choice = .named name.trim)
    (resolved : resolve outside gateway choice = .ok front) : SuppliedBy name front.supply := by
  rcases chosen with ⟨addr, rfl⟩ | ⟨program, args, rfl⟩ | rfl
  · cases resolved
    exact trivial
  · rw [(spawnSidecar_eq_ok_iff.mp resolved).1]
    exact trivial
  · simp only [resolve] at resolved
    split at resolved
    · cases resolved
    · split at resolved
      · rw [(spawnSubstrateFront_eq_ok_iff.mp resolved).2]
        rfl
      · cases resolved

/-- A front that the environment leads to is apart from the gateway exactly if what
it configures is. -/
theorem apart_iff {outside : Outside} {env : Env} {gateway : SocketAddr}
    (other : NonDirect env.name) :
    (forall choice, SubstrateChoice.fromEnv outside.reader env = .ok choice ->
      forall front, resolve outside gateway choice = .ok front -> front.addr ≠ gateway) <->
        Apart outside env gateway := by
  have chosen : SubstrateChoice.fromEnv outside.reader env =
      SubstrateChoice.fromSidecar outside.reader env env.name.trim :=
    if_neg (fun direct => not_nonDirect_iff.mpr direct other)
  rw [chosen]
  constructor
  · intro apart
    refine ⟨?_, ?_, ?_⟩
    · intro front set same
      have taken : SubstrateChoice.fromSidecar outside.reader env env.name.trim =
          .ok (.sidecarAt gateway) := by
        simp only [SubstrateChoice.fromSidecar, set, EnvVar.value?, same]
      exact apart _ taken _ rfl rfl
    · intro unset cmd program args lines ending set words output announced
      have taken : SubstrateChoice.fromSidecar outside.reader env env.name.trim =
          .ok (.sidecarCmd env.name.trim program args) := by
        have command : env.sidecarCmd.value? = some cmd := congrArg EnvVar.value? set
        simp only [SubstrateChoice.fromSidecar, unset, command, words]
      have resolved : resolve outside gateway (.sidecarCmd env.name.trim program args) =
          .ok ⟨gateway, .sidecarChild program⟩ :=
        spawnSidecar_eq_ok_iff.mpr ⟨rfl, lines, ending, output, announced⟩
      exact apart _ taken _ resolved rfl
    · intro unset none builds linked built same
      have taken : SubstrateChoice.fromSidecar outside.reader env env.name.trim =
          .ok (.named env.name.trim) := by
        simp only [SubstrateChoice.fromSidecar, unset, none]
      have resolved : resolve outside gateway (.named env.name.trim) =
          .ok ⟨gateway, .linked env.name.trim⟩ := by
        simp only [resolve, linked, built, if_true]
        exact spawnSubstrateFront_eq_ok_iff.mpr ⟨same, rfl⟩
      exact apart _ taken _ resolved rfl
  · intro apart choice taken front resolved same
    unfold SubstrateChoice.fromSidecar at taken
    cases set : env.sidecarFront.value? with
    | some text =>
        simp only [set] at taken
        cases read : outside.reader.socketAddr text.trim with
        | none =>
            simp only [read] at taken
            cases taken
        | some addr =>
            simp only [read] at taken
            cases taken
            cases resolved
            exact apart.configured text (EnvVar.value?_eq_some set)
              (read.trans (congrArg some same))
    | none =>
        simp only [set] at taken
        cases command : env.sidecarCmd.value? with
        | some cmd =>
            simp only [command] at taken
            cases words : cmd.splitWhitespace with
            | nil =>
                simp only [words] at taken
                cases taken
            | cons program args =>
                simp only [words] at taken
                cases taken
                rcases (spawnSidecar_eq_ok_iff.mp resolved).2 with ⟨lines, ending, output, read⟩
                exact apart.announced set cmd program args lines ending
                  (EnvVar.value?_eq_some command) words output
                  (read.trans (congrArg Except.ok same))
        | none =>
            simp only [command] at taken
            cases taken
            simp only [resolve] at resolved
            split at resolved
            · cases resolved
            · rename_i builds linked
              split at resolved
              · rename_i built
                have bound := (spawnSubstrateFront_eq_ok_iff.mp resolved).1
                exact apart.bridged set command builds linked built
                  (bound.trans (congrArg some same))
              · cases resolved

/-- The request reaches the point at which a front is chosen. -/
def Reaches (world : MeasureOutside) (request : MeasureRequest) : Prop :=
  exists gateway, request.gatewayAddr world.outside.reader = .ok gateway ∧
    world.certFetched gateway = true

theorem handle_eq {world : MeasureOutside} {request : MeasureRequest} {gateway : SocketAddr}
    (named : request.gatewayAddr world.outside.reader = .ok gateway) :
    handle world request = measureFront world gateway request.substrateName := by
  rw [handle, named]
  rfl

theorem exists_gateway_of_handle {world : MeasureOutside} {request : MeasureRequest}
    {front : Front} (handled : handle world request = .ok front) :
    exists gateway, request.gatewayAddr world.outside.reader = .ok gateway ∧
      measureFront world gateway request.substrateName = .ok front := by
  cases named : request.gatewayAddr world.outside.reader with
  | error failure =>
      rw [handle, named] at handled
      cases handled
  | ok gateway => exact ⟨gateway, rfl, handle_eq named ▸ handled⟩

/-- What a measurement dials: the gateway itself, unless the name is that of Tor. -/
theorem measureFront_eq_ok_iff {world : MeasureOutside} {gateway : SocketAddr} {substrate : Text}
    {front : Front} :
    measureFront world gateway substrate = .ok front <-> world.certFetched gateway = true ∧
      ((substrate = torName ∧ world.torReachable = true ∧ world.torStream = true ∧
          world.outside.localAddr = some front.addr ∧ front.supply = .torStream) ∨
        (substrate ≠ torName ∧ front = ⟨gateway, .gateway⟩)) := by
  unfold measureFront
  by_cases fetched : world.certFetched gateway = true
  · by_cases tor : substrate = torName
    · by_cases reachable : world.torReachable = true
      · by_cases stream : world.torStream = true
        · simp only [fetched, tor, reachable, stream, if_true, spawnSubstrateFront_eq_ok_iff,
            true_and, ne_eq, not_true_eq_false, false_and, or_false]
        · simp only [fetched, tor, reachable, stream, if_true, if_false, reduceCtorEq,
            false_and, and_false, ne_eq, not_true_eq_false, or_self]
      · simp only [fetched, tor, reachable, if_true, if_false, reduceCtorEq, false_and,
          and_false, ne_eq, not_true_eq_false, or_self]
    · simp only [fetched, tor, if_true, if_false, true_and, false_and, false_or, ne_eq,
        not_false_eq_true, Except.ok.injEq]
      exact eq_comm
  · simp only [fetched, if_false, reduceCtorEq, false_and]

/-- A request for a substrate is served by Tor, at an address apart from the gateway,
or it fails before a front is chosen. -/
theorem request_safe_iff {world : MeasureOutside} {request : MeasureRequest} {name : Text}
    (requested : request.substrate = some name) :
    (forall front, handle world request = .ok front -> SuppliedBy name front.supply ∧
      request.gatewayAddr world.outside.reader ≠ .ok front.addr) <->
        (name.lower = torName ∧ TunnelApart world request) ∨ ¬ Reaches world request := by
  have read : request.substrateName = name.lower := by
    rw [MeasureRequest.substrateName, requested]
    rfl
  constructor
  · intro safe
    by_cases reaches : Reaches world request
    · rcases reaches with ⟨gateway, resolved, fetched⟩
      have handled := handle_eq resolved
      rw [read] at handled
      by_cases tor : name.lower = torName
      · refine .inl ⟨tor, ?_⟩
        intro reachable stream other same bound
        cases resolved.symm.trans same
        have dialed : handle world request = .ok ⟨gateway, .torStream⟩ :=
          handled.trans (measureFront_eq_ok_iff.mpr
            ⟨fetched, .inl ⟨tor, reachable, stream, bound, rfl⟩⟩)
        exact (safe _ dialed).2 resolved
      · have dialed : handle world request = .ok ⟨gateway, .gateway⟩ :=
          handled.trans (measureFront_eq_ok_iff.mpr ⟨fetched, .inr ⟨tor, rfl⟩⟩)
        exact absurd resolved (safe _ dialed).2
    · exact .inr reaches
  · intro condition front handled
    rcases exists_gateway_of_handle handled with ⟨gateway, resolved, measured⟩
    rcases measureFront_eq_ok_iff.mp measured with ⟨fetched, dialed⟩
    rw [read] at dialed
    rcases condition with ⟨tor, apart⟩ | fails
    · rcases dialed with ⟨_, reachable, stream, bound, supply⟩ | ⟨other, _⟩
      · refine ⟨?_, ?_⟩
        · rw [supply, SuppliedBy, ← Text.trim_lower, tor]
          rfl
        · intro same
          exact apart reachable stream front.addr same bound
      · exact absurd tor other
    · exact absurd ⟨gateway, resolved, fetched⟩ fails

theorem nonDirect_of_name {env : Env} (other : NonDirect env.name) :
    env.substrate = .text env.name := by
  cases substrate : env.substrate with
  | text value => simp only [Env.name, substrate, EnvVar.value?, Option.getD_some]
  | _ =>
      exfalso
      have empty : env.name = [] := by
        simp only [Env.name, substrate, EnvVar.value?, Option.getD_none]
      rw [empty] at other
      exact other.1 rfl

/-- There is no silent downgrade, for given answers of the outside, if and only
if the environment, where it names a substrate, configures a front apart from the
gateway; the request, where it names a substrate, names Tor without white space
around it, and the tunnel is apart from the gateway, or fails before a front is
chosen; and the environment, where it configures a sidecar, names a substrate. -/
theorem no_silent_downgrade_iff (env : Env) (gateway : SocketAddr) (world : MeasureOutside)
    (request : MeasureRequest) :
    NoSilentDowngrade env gateway world request <->
      (forall name, env.substrate = .text name -> NonDirect name ->
        Apart world.outside env gateway) ∧
      (forall name, request.substrate = some name -> NonDirect name ->
        (name.lower = torName ∧ TunnelApart world request) ∨ ¬ Reaches world request) ∧
      (env.sidecarFront.isSet = true ∨ env.sidecarCmd.isSet = true ->
        exists name, env.substrate = .text name ∧ NonDirect name) := by
  have named : forall name, env.substrate = .text name -> env.name = name := by
    intro name set
    simp only [Env.name, set, EnvVar.value?, Option.getD_some]
  constructor
  · intro safe
    refine ⟨?_, ?_, ?_⟩
    · intro name set other
      have same := named name set
      subst same
      apply (apart_iff other).mp
      intro choice chosen front resolved
      exact (safe.environment env.name set other choice chosen front resolved).2
    · intro name requested other
      exact (request_safe_iff requested).mp (safe.request name requested other)
    · intro configured
      have chosen := safe.sidecar configured
      rw [Ne, fromEnv_eq_direct_iff, not_not] at chosen
      exact ⟨env.name, nonDirect_of_name chosen, chosen⟩
  · rintro ⟨apart, requests, sidecars⟩
    refine ⟨?_, ?_, ?_⟩
    · intro name set other choice chosen front resolved
      have same := named name set
      subst same
      refine ⟨suppliedBy_of_resolve (fromEnv_cases other chosen) resolved, ?_⟩
      exact (apart_iff other).mpr (apart env.name set other) choice chosen front resolved
    · intro name requested other
      exact (request_safe_iff requested).mpr (requests name requested other)
    · intro configured direct
      rcases sidecars configured with ⟨name, set, other⟩
      have same := named name set
      subst same
      exact fromEnv_eq_direct_iff.mp direct other

/-- The two addresses that occur below, as they are read. -/
def knownAddr (text : Text) : Option SocketAddr :=
  if text = "64.226.93.43:4433".toList then some Node.peerAddr
  else if text = "127.0.0.1:7000".toList then some (.v4 127 0 0 1 7000)
  else none

/-- An outside in which everything succeeds. -/
def helpful : MeasureOutside where
  outside :=
    { reader := ⟨knownAddr, fun _ => none⟩
      sidecar := fun _ _ _ => .output [] .exited
      builder := none
      localAddr := some (.v4 127 0 0 1 40000) }
  certFetched := fun _ => true
  torReachable := true
  torStream := true

/-- A request for Nym is measured over the direct path, and a node with a
configured sidecar and no name takes the direct path as well. -/
theorem request_for_nym_dials_gateway :
    ¬ NoSilentDowngrade ⟨.unset, .text "127.0.0.1:7000".toList, .unset⟩ Node.peerAddr helpful
        ⟨some "fra1".toList, some "nym".toList⟩ ∧
      NonDirect "nym".toList ∧
      handle helpful ⟨some "fra1".toList, some "nym".toList⟩ = .ok ⟨Node.peerAddr, .gateway⟩ ∧
      SubstrateChoice.fromEnv helpful.outside.reader
        ⟨.unset, .text "127.0.0.1:7000".toList, .unset⟩ = .ok .direct := by
  have other : NonDirect "nym".toList := by
    constructor <;> decide
  refine ⟨?_, other, rfl, rfl⟩
  intro safe
  exact (safe.request _ rfl other _ rfl).1

/-- A sidecar that is configured at the gateway's own address is dialed there, whatever
substrate is named. -/
theorem sidecar_at_gateway_is_dialed :
    ¬ NoSilentDowngrade ⟨.text "nym".toList, .text "64.226.93.43:4433".toList, .unset⟩
        Node.peerAddr helpful ⟨none, none⟩ := by
  intro safe
  have other : NonDirect "nym".toList := by
    constructor <;> decide
  exact (safe.environment _ rfl other (.sidecarAt Node.peerAddr) rfl _ rfl).2 rfl

end Gateway
end QuicMix
