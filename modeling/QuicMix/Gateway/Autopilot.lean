import QuicMix.Gateway.Directory

namespace QuicMix
namespace Gateway

open Foundations

/-!
# The auto-promotion node

A node discovers its egress address and promotes itself to a gateway if that
address is public.  It announces itself once, and then two tasks share its
directory.  One refreshes the directory from the bootstrap peers: it fetches
their certificates one after another, sleeps for half the time to live of an
entry, and starts again.  The other is the ingress role, which samples a gateway
and tries to connect to it until it succeeds.

Time is part of the model.  A fetch takes no longer than its two timeouts
together, and the refresh task loses no time between its own moves, so that the
clock does not advance past a move that is due.  Nothing bounds how long the
ingress role takes for anything.
-/

/-- How long a directory entry stays live without a refresh. -/
def dirTtl : Duration := 120000000000

/-- The pause between two passes over the peers. -/
def refreshPause : Duration := dirTtl / 2

def connectTimeout : Duration := 5000000000

def readTimeout : Duration := 5000000000

/-- The longest that fetching a certificate takes. -/
def fetchLimit : Duration := connectTimeout + readTimeout

/-- The pause of the ingress role before it samples again. -/
def ingressPause : Duration := 2000000000

/-- The address with a port, as `SocketAddr::new` makes it. -/
def SocketAddr.new (ip : IpAddr) (port : BitVec 16) : SocketAddr :=
  match ip with
  | .v4 first second third fourth => .v4 first second third fourth port
  | .v6 bits => .v6 bits port 0 0

/-- The address under which the node promotes itself, if it does. -/
def selfPublic (publicIp discovered : Option IpAddr) (port : BitVec 16) : Option SocketAddr :=
  ((publicIp.or discovered).map (fun ip => SocketAddr.new ip port)).filter qualifiesAsGateway

/-- Where the refresh task stands: before its first pass, with peers left in a
pass, waiting for a certificate, or asleep. -/
inductive Refresh where
  | starting
  | visiting (todo : List SocketAddr)
  | fetching (addr : SocketAddr) (started : Instant) (rest : List SocketAddr)
  | sleeping (wakeAt : Instant)
  deriving DecidableEq, Repr

inductive Ingress where
  | starting
  | sampling
  | connecting (gateway : GatewayInfo)
  | pausing (wakeAt : Instant)
  | serving (gateway : GatewayInfo)
  deriving DecidableEq, Repr

/-- A node after the promotion.  The gateways that the ingress role has
selected are recorded in order. -/
structure Node where
  self : Option SocketAddr
  peers : List SocketAddr
  session : Session
  refresh : Refresh
  ingress : Ingress
  selected : List GatewayInfo

inductive NodeAction where
  | elapse (duration : Duration)
  | startRefresh
  | visit
  | fetched (cert : Option Cert)
  | wakeRefresh
  | startIngress
  | sample (order : List GatewayInfo) (index : Nat)
  | connected (succeeds : Bool)
  | wakeIngress
  | live (order : List GatewayInfo)
  deriving DecidableEq, Repr

namespace Session

def announce (session : Session) (addr : SocketAddr) (cert : Cert) : Session where
  directory := session.directory.announce addr cert session.clock
  clock := session.clock
  announced := session.announced ++ [⟨addr, cert, session.clock⟩]

end Session

namespace Node

def clock (node : Node) : Instant :=
  node.session.clock

/-- The node at the given time, when it has made its decision about promotion
and, if it is a gateway, announced itself. -/
def launch (self : Option SocketAddr) (cert : Cert) (peers : List SocketAddr) (now : Instant) :
    Node where
  self := self
  peers := peers
  session :=
    match self with
    | none => { Session.new dirTtl with clock := now }
    | some addr => { Session.new dirTtl with clock := now }.announce addr cert
  refresh := .starting
  ingress := .starting
  selected := []

/-- The refresh task allows the clock to advance to the given time. -/
def allows (node : Node) (moment : Instant) : Bool :=
  match node.refresh with
  | .starting => true
  | .visiting _ => decide (moment <= node.clock)
  | .fetching _ started _ => decide (moment <= started + fetchLimit)
  | .sleeping wakeAt => decide (moment <= wakeAt)

/-- The refresh task turns to its next peer, or ends the pass. -/
def visit (node : Node) : Option Node :=
  match node.refresh with
  | .visiting [] => some { node with refresh := .sleeping (node.clock + refreshPause) }
  | .visiting (addr :: rest) =>
      if some addr = node.self then some { node with refresh := .visiting rest }
      else some { node with refresh := .fetching addr node.clock rest }
  | _ => none

/-- A fetch ends, with a certificate or with an error. -/
def fetched (node : Node) (cert : Option Cert) : Option Node :=
  match node.refresh with
  | .fetching addr _ rest =>
      match cert with
      | none => some { node with refresh := .visiting rest }
      | some cert =>
          if cert = [] then none
          else some { node with
            session := node.session.announce addr cert
            refresh := .visiting rest }
  | _ => none

/-- The ingress role samples a gateway and turns to it, or pauses. -/
def sample (node : Node) (order : List GatewayInfo) (index : Nat) : Option Node :=
  match node.ingress with
  | .sampling =>
      (node.session.directory.sample node.clock order index).map (fun result =>
        { node with
          session := { node.session with directory := result.2 }
          ingress :=
            match result.1 with
            | none => .pausing (node.clock + ingressPause)
            | some gateway => .connecting gateway
          selected := node.selected ++ result.1.toList })
  | _ => none

def step (node : Node) : NodeAction -> Option Node
  | .elapse duration =>
      if node.allows (node.clock + duration) then
        some { node with session := { node.session with clock := node.clock + duration } }
      else none
  | .startRefresh =>
      match node.refresh with
      | .starting => some { node with refresh := .visiting node.peers }
      | _ => none
  | .visit => node.visit
  | .fetched cert => node.fetched cert
  | .wakeRefresh =>
      match node.refresh with
      | .sleeping wakeAt =>
          if wakeAt <= node.clock then some { node with refresh := .visiting node.peers }
          else none
      | _ => none
  | .startIngress =>
      match node.ingress with
      | .starting => some { node with ingress := .sampling }
      | _ => none
  | .sample order index => node.sample order index
  | .connected succeeds =>
      match node.ingress with
      | .connecting gateway =>
          some { node with
            ingress :=
              if succeeds then .serving gateway else .pausing (node.clock + ingressPause) }
      | _ => none
  | .wakeIngress =>
      match node.ingress with
      | .pausing wakeAt =>
          if wakeAt <= node.clock then some { node with ingress := .sampling } else none
      | _ => none
  | .live order =>
      (node.session.directory.live node.clock order).map (fun result =>
        { node with session := { node.session with directory := result.2 } })

/-! ## What one move can do -/

/-- The outcomes of a move, each with the guard under which it happens.  The
moves of the ingress role between two samples change nothing but its phase. -/
inductive Moved (node : Node) : NodeAction -> Node -> Prop where
  | elapsed (duration : Duration) (allowed : node.allows (node.clock + duration) = true) :
      Moved node (.elapse duration)
        { node with session := { node.session with clock := node.clock + duration } }
  | started (phase : node.refresh = .starting) :
      Moved node .startRefresh { node with refresh := .visiting node.peers }
  | passEnded (phase : node.refresh = .visiting []) :
      Moved node .visit { node with refresh := .sleeping (node.clock + refreshPause) }
  | skipped (addr : SocketAddr) (rest : List SocketAddr)
      (phase : node.refresh = .visiting (addr :: rest)) (own : some addr = node.self) :
      Moved node .visit { node with refresh := .visiting rest }
  | fetches (addr : SocketAddr) (rest : List SocketAddr)
      (phase : node.refresh = .visiting (addr :: rest)) (other : some addr ≠ node.self) :
      Moved node .visit { node with refresh := .fetching addr node.clock rest }
  | failed (addr : SocketAddr) (begun : Instant) (rest : List SocketAddr)
      (phase : node.refresh = .fetching addr begun rest) :
      Moved node (.fetched none) { node with refresh := .visiting rest }
  | announced (addr : SocketAddr) (begun : Instant) (rest : List SocketAddr) (cert : Cert)
      (phase : node.refresh = .fetching addr begun rest) :
      Moved node (.fetched (some cert))
        { node with session := node.session.announce addr cert, refresh := .visiting rest }
  | woken (wakeAt : Instant) (phase : node.refresh = .sleeping wakeAt)
      (reached : wakeAt <= node.clock) :
      Moved node .wakeRefresh { node with refresh := .visiting node.peers }
  | ingress (action : NodeAction) (phase : Ingress)
      (silent : forall order index, action ≠ .sample order index) :
      Moved node action { node with ingress := phase }
  | sampled (order : List GatewayInfo) (index : Nat) (chosen : Option GatewayInfo)
      (phase : Ingress)
      (drawn : node.session.directory.sample node.clock order index =
        some (chosen, node.session.directory.prune node.clock)) :
      Moved node (.sample order index)
        { node with
          session := { node.session with directory := node.session.directory.prune node.clock }
          ingress := phase
          selected := node.selected ++ chosen.toList }
  | listed (order : List GatewayInfo) :
      Moved node (.live order)
        { node with
          session := { node.session with directory := node.session.directory.prune node.clock } }

/-- The list of outcomes is complete. -/
theorem moved_of_step {node next : Node} {action : NodeAction}
    (stepped : node.step action = some next) : Moved node action next := by
  cases action with
  | elapse duration =>
      simp only [step] at stepped
      split at stepped
      · rename_i allowed
        cases stepped
        exact .elapsed duration allowed
      · cases stepped
  | startRefresh =>
      simp only [step] at stepped
      split at stepped
      · rename_i phase
        cases stepped
        exact .started phase
      · cases stepped
  | visit =>
      simp only [step, visit] at stepped
      split at stepped
      · rename_i phase
        cases stepped
        exact .passEnded phase
      · rename_i addr rest phase
        split at stepped
        · rename_i own
          cases stepped
          exact .skipped addr rest phase own
        · rename_i other
          cases stepped
          exact .fetches addr rest phase other
      · cases stepped
  | fetched cert =>
      simp only [step, fetched] at stepped
      split at stepped
      · rename_i addr begun rest phase
        split at stepped
        · cases stepped
          exact .failed addr begun rest phase
        · rename_i cert
          split at stepped
          · cases stepped
          · cases stepped
            exact .announced addr begun rest cert phase
      · cases stepped
  | wakeRefresh =>
      simp only [step] at stepped
      split at stepped
      · rename_i wakeAt phase
        split at stepped
        · rename_i reached
          cases stepped
          exact .woken wakeAt phase reached
        · cases stepped
      · cases stepped
  | startIngress =>
      simp only [step] at stepped
      split at stepped
      · cases stepped
        exact .ingress .startIngress _ (fun _ _ same => nomatch same)
      · cases stepped
  | sample order index =>
      simp only [step, sample] at stepped
      split at stepped
      · rcases Option.map_eq_some_iff.mp stepped with ⟨result, drawn, same⟩
        have pruned := (GatewayDirectory.sample_eq_some.mp drawn).2.2
        rw [show result = (result.1, result.2) from rfl, pruned] at drawn
        subst same
        rw [pruned]
        exact .sampled order index result.1 _ drawn
      · cases stepped
  | connected succeeds =>
      simp only [step] at stepped
      split at stepped
      · cases stepped
        exact .ingress (.connected succeeds) _ (fun _ _ same => nomatch same)
      · cases stepped
  | wakeIngress =>
      simp only [step] at stepped
      split at stepped
      · split at stepped
        · cases stepped
          exact .ingress .wakeIngress _ (fun _ _ same => nomatch same)
        · cases stepped
      · cases stepped
  | live order =>
      simp only [step] at stepped
      rcases Option.map_eq_some_iff.mp stepped with ⟨result, answered, same⟩
      rw [(GatewayDirectory.live_eq_some.mp answered).2] at same
      subst same
      exact .listed order

/-- The address of the node and its list of peers are fixed. -/
theorem Moved.config {node next : Node} {action : NodeAction} (moved : Moved node action next) :
    next.self = node.self ∧ next.peers = node.peers := by
  cases moved <;> exact ⟨rfl, rfl⟩

/-! ## The directory of the node -/

/-- The directory agrees with the announcements, and the refresh task never
fetches from the node itself. -/
structure Sound (node : Node) : Prop where
  faithful : Session.Faithful dirTtl node.session
  other : forall addr begun rest, node.refresh = .fetching addr begun rest ->
    some addr ≠ node.self

theorem faithful_announce {session : Session} (faithful : Session.Faithful dirTtl session)
    (addr : SocketAddr) (cert : Cert) :
    Session.Faithful dirTtl (session.announce addr cert) :=
  ⟨faithful.lifetime, faithful.reflects.insert ⟨addr, cert, session.clock⟩⟩

theorem faithful_prune {session : Session} (faithful : Session.Faithful dirTtl session) :
    Session.Faithful dirTtl
      { session with directory := session.directory.prune session.clock } := by
  refine ⟨faithful.lifetime, ?_⟩
  have pruned := faithful.reflects.prune (Nat.le_refl session.clock)
  rw [← faithful.lifetime] at pruned ⊢
  exact pruned

theorem sound_launch (self : Option SocketAddr) (cert : Cert) (peers : List SocketAddr)
    (now : Instant) : Sound (launch self cert peers now) where
  faithful := by
    have fresh : Session.Faithful dirTtl { Session.new dirTtl with clock := now } :=
      ⟨rfl, reflects_empty now⟩
    cases self with
    | none => exact fresh
    | some addr => exact faithful_announce fresh addr cert
  other := by
    intro addr begun rest phase
    cases phase

theorem Sound.moved {node next : Node} {action : NodeAction} (sound : Sound node)
    (moved : Moved node action next) : Sound next := by
  rcases sound with ⟨faithful, other⟩
  cases moved with
  | elapsed duration allowed =>
      exact ⟨⟨faithful.lifetime, faithful.reflects.elapse (Nat.le_add_right _ _)⟩, other⟩
  | fetches addr rest phase apart =>
      refine ⟨faithful, ?_⟩
      intro fetched begun left same
      cases same
      exact apart
  | announced addr begun rest cert phase =>
      refine ⟨faithful_announce faithful addr cert, ?_⟩
      intro fetched begun left same
      cases same
  | ingress action phase silent => exact ⟨faithful, other⟩
  | sampled order index chosen phase drawn => exact ⟨faithful_prune faithful, other⟩
  | listed order => exact ⟨faithful_prune faithful, other⟩
  | _ =>
      refine ⟨faithful, ?_⟩
      intro fetched begun left same
      cases same

theorem sound_of_run {self : Option SocketAddr} {cert : Cert} {peers : List SocketAddr}
    {now : Instant} {schedule : List NodeAction} {node : Node}
    (ran : run Node.step (launch self cert peers now) schedule = some node) : Sound node :=
  invariant Sound (fun _ _ _ sound stepped => sound.moved (moved_of_step stepped))
    (sound_launch self cert peers now) ran

/-! ## The gateway that the ingress role selects -/

/-- The node has announced itself, once. -/
structure SelfAnnounced (addr : SocketAddr) (cert : Cert) (moment : Instant) (node : Node) :
    Prop where
  self : node.self = some addr
  once : latest GatewayInfo.addr node.session.announced addr = some ⟨addr, cert, moment⟩

theorem SelfAnnounced.moved {addr : SocketAddr} {cert : Cert} {moment : Instant}
    {node next : Node} {action : NodeAction} (known : SelfAnnounced addr cert moment node)
    (sound : Sound node) (moved : Moved node action next) :
    SelfAnnounced addr cert moment next := by
  refine ⟨moved.config.1.trans known.self, ?_⟩
  cases moved with
  | announced peer begun rest peerCert phase =>
      have other := sound.other peer begun rest phase
      rw [known.self] at other
      simp only [Session.announce, latest_append_singleton]
      rw [if_neg (fun same => other (congrArg some same))]
      exact known.once
  | _ => exact known.once

/-- What a sample of the ingress role can select is on record. -/
theorem Sound.listed_of_drawn {node : Node} (sound : Sound node) {order : List GatewayInfo}
    {index : Nat} {gateway : GatewayInfo} {pruned : GatewayDirectory}
    (drawn : node.session.directory.sample node.clock order index = some (some gateway, pruned)) :
    Listed dirTtl node.session.announced node.clock gateway := by
  rcases GatewayDirectory.sample_eq_some.mp drawn with ⟨permuted, chosen, _⟩
  rcases GatewayDirectory.choose_eq_some.mp chosen with ⟨_, nothing⟩ | ⟨found, located, same⟩
  · cases nothing
  · cases same
    exact (sound.faithful.mem_prune (Nat.le_refl _)).mp
      (permuted.mem_iff.mp (List.mem_of_getElem? located))

/-- What is on record can be selected. -/
theorem Sound.drawn_of_listed {node : Node} (sound : Sound node) {gateway : GatewayInfo}
    (listed : Listed dirTtl node.session.announced node.clock gateway) :
    exists order index pruned,
      node.session.directory.sample node.clock order index = some (some gateway, pruned) := by
  have member := (sound.faithful.mem_prune (Nat.le_refl _)).mpr listed
  rcases List.getElem?_of_mem member with ⟨index, located⟩
  refine ⟨_, index, _, GatewayDirectory.sample_eq_some.mpr ⟨List.Perm.refl _, ?_, rfl⟩⟩
  exact GatewayDirectory.choose_eq_some.mpr (.inr ⟨gateway, located, rfl⟩)

/-- The node itself is on record until its announcement expires. -/
theorem SelfAnnounced.listed_iff {addr : SocketAddr} {cert : Cert} {moment : Instant}
    {node : Node} (known : SelfAnnounced addr cert moment node) (forward : moment <= node.clock)
    {gateway : GatewayInfo} (same : gateway.addr = addr) :
    Listed dirTtl node.session.announced node.clock gateway <->
      gateway = ⟨addr, cert, moment⟩ ∧ node.clock < moment + dirTtl := by
  unfold Listed
  rw [same, known.once, Option.some.injEq]
  constructor
  · intro listed
    rcases listed with ⟨equal, young⟩
    subst equal
    exact ⟨rfl, Nat.sub_lt_iff_lt_add' forward |>.mp young⟩
  · intro young
    rcases young with ⟨equal, young⟩
    subst equal
    exact ⟨rfl, Nat.sub_lt_iff_lt_add' forward |>.mpr young⟩

theorem Moved.clock_le {node next : Node} {action : NodeAction} (moved : Moved node action next) :
    node.clock <= next.clock := by
  cases moved with
  | elapsed duration allowed => exact Nat.le_add_right _ _
  | _ => exact Nat.le_refl _

/-- Every sample is made at the given time or later. -/
def Patient (moment : Instant) (node : Node) (action : NodeAction) : Prop :=
  forall order index, action = .sample order index -> moment <= node.clock

/-- What holds of a promoted node in every run. -/
structure Promoted (addr : SocketAddr) (cert : Cert) (moment : Instant) (node : Node) : Prop where
  sound : Sound node
  known : SelfAnnounced addr cert moment node
  forward : moment <= node.clock

theorem promoted_launch (addr : SocketAddr) (cert : Cert) (peers : List SocketAddr)
    (now : Instant) : Promoted addr cert now (launch (some addr) cert peers now) where
  sound := sound_launch (some addr) cert peers now
  known := by
    refine ⟨rfl, ?_⟩
    change latest GatewayInfo.addr ([] ++ [⟨addr, cert, now⟩]) addr = _
    rw [latest_append_singleton, if_pos rfl]
  forward := Nat.le_refl _

theorem Promoted.moved {addr : SocketAddr} {cert : Cert} {moment : Instant} {node next : Node}
    {action : NodeAction} (promoted : Promoted addr cert moment node)
    (moved : Moved node action next) : Promoted addr cert moment next :=
  ⟨promoted.sound.moved moved, promoted.known.moved promoted.sound moved,
    Nat.le_trans promoted.forward moved.clock_le⟩

theorem Promoted.selected {addr : SocketAddr} {cert : Cert} {moment : Instant}
    {node next : Node} {action : NodeAction} (promoted : Promoted addr cert moment node)
    (patient : Patient (moment + dirTtl) node action)
    (before : forall gateway, gateway ∈ node.selected -> gateway.addr ≠ addr)
    (moved : Moved node action next) :
    forall gateway, gateway ∈ next.selected -> gateway.addr ≠ addr := by
  cases moved with
  | sampled order index chosen phase drawn =>
      intro gateway member
      rcases List.mem_append.mp member with old | new
      · exact before gateway old
      · intro same
        rw [Option.mem_toList] at new
        subst new
        have listed := promoted.sound.listed_of_drawn drawn
        have young := ((promoted.known.listed_iff promoted.forward same).mp listed).2
        exact Nat.not_lt.mpr (patient order index rfl) young
  | _ => exact before

/-- The ingress role of a promoted node.  In every run in which it samples the
directory no earlier than the time to live after the node announced itself, it
never selects the node's own address.  And in every state that is reached, a
sample can select that address if and only if the time to live has not passed. -/
theorem ingress_selects_peer (publicIp discovered : Option IpAddr) (port : BitVec 16)
    (cert : Cert) (peers : List SocketAddr) (now : Instant) (addr : SocketAddr)
    (promoted : selfPublic publicIp discovered port = some addr) (schedule : List NodeAction)
    (node : Node)
    (ran : run Node.step (launch (selfPublic publicIp discovered port) cert peers now) schedule =
      some node) :
    (Meets Node.step (Patient (now + dirTtl))
        (launch (selfPublic publicIp discovered port) cert peers now) schedule ->
      forall gateway, gateway ∈ node.selected -> gateway.addr ≠ addr) ∧
    (node.ingress = .sampling ->
      ((exists order index next gateway, node.step (.sample order index) = some next ∧
          next.ingress = .connecting gateway ∧ gateway.addr = addr) <->
        node.clock < now + dirTtl)) := by
  rw [promoted] at ran ⊢
  have holds : Promoted addr cert now node := invariant (Promoted addr cert now)
    (fun _ _ _ sound stepped => sound.moved (moved_of_step stepped))
    (promoted_launch addr cert peers now) ran
  constructor
  · intro patient
    have kept := invariant_of_meets (Patient (now + dirTtl))
      (fun state => Promoted addr cert now state ∧
        forall gateway, gateway ∈ state.selected -> gateway.addr ≠ addr)
      ?_ ⟨promoted_launch addr cert peers now,
        fun _ member => absurd member List.not_mem_nil⟩ patient ran
    · exact kept.2
    · intro state action next patient before stepped
      have moved := moved_of_step stepped
      exact ⟨before.1.moved moved, before.1.selected patient before.2 moved⟩
  · intro sampling
    constructor
    · intro possible
      rcases possible with ⟨order, index, next, gateway, stepped, connecting, same⟩
      simp only [step, sample, sampling] at stepped
      rcases Option.map_eq_some_iff.mp stepped with ⟨result, drawn, result'⟩
      subst result'
      rcases result with ⟨chosen, pruned⟩
      cases chosen with
      | none => cases connecting
      | some found =>
          cases connecting
          have listed := holds.sound.listed_of_drawn drawn
          exact ((holds.known.listed_iff holds.forward same).mp listed).2
    · intro young
      have listed : Listed dirTtl node.session.announced node.clock ⟨addr, cert, now⟩ :=
        (holds.known.listed_iff holds.forward rfl).mpr ⟨rfl, young⟩
      rcases holds.sound.drawn_of_listed listed with ⟨order, index, pruned, drawn⟩
      have stepped : node.step (.sample order index) = some
          { node with
            session := { node.session with directory := pruned }
            ingress := .connecting ⟨addr, cert, now⟩
            selected := node.selected ++ [⟨addr, cert, now⟩] } := by
        simp only [step, sample, sampling, drawn, Option.map_some, Option.toList_some]
      exact ⟨order, index, _, _, stepped, rfl, rfl⟩

/-- The address of a node whose egress is public, with a peer in its list. -/
def publicAddr : SocketAddr := .v4 8 8 8 8 4433

def peerAddr : SocketAddr := .v4 64 226 93 43 4433

/-- The ingress role starts when the node's own entry has expired, and finds
the peer that was fetched since. -/
theorem ingress_selects_peer_late :
    exists node, run Node.step
        (launch (selfPublic none (some (.v4 8 8 8 8)) 4433) [1] [peerAddr] 0)
        [.elapse 120000000000, .startRefresh, .visit, .fetched (some [2]), .startIngress,
          .sample [⟨peerAddr, [2], 120000000000⟩] 0] = some node ∧
      node.selected.map GatewayInfo.addr = [peerAddr] ∧
      forall gateway, gateway ∈ node.selected -> gateway.addr ≠ publicAddr := by
  refine ⟨_, rfl, rfl, (ingress_selects_peer none (some (.v4 8 8 8 8)) 4433 [1] [peerAddr] 0
    publicAddr rfl [.elapse 120000000000, .startRefresh, .visit, .fetched (some [2]),
      .startIngress, .sample [⟨peerAddr, [2], 120000000000⟩] 0] _ rfl).1 ?_⟩
  refine Meets.cons (fun _ _ same => nomatch same) rfl ?_
  refine Meets.cons (fun _ _ same => nomatch same) rfl ?_
  refine Meets.cons (fun _ _ same => nomatch same) rfl ?_
  refine Meets.cons (fun _ _ same => nomatch same) rfl ?_
  refine Meets.cons (fun _ _ same => nomatch same) rfl ?_
  exact Meets.cons (fun _ _ _ => Nat.le_refl _) rfl trivial

/-- The ingress role samples as soon as it starts, and finds only the node
itself. -/
theorem ingress_selects_itself :
    exists node, run Node.step
        (launch (selfPublic none (some (.v4 8 8 8 8)) 4433) [1] [peerAddr] 0)
        [.startRefresh, .startIngress, .sample [⟨publicAddr, [1], 0⟩] 0] = some node ∧
      selfPublic none (some (.v4 8 8 8 8)) 4433 = some publicAddr ∧
      ¬ forall gateway, gateway ∈ node.selected -> gateway.addr ≠ publicAddr :=
  ⟨_, rfl, rfl, fun other => other _ List.mem_cons_self rfl⟩

end Node

end Gateway
end QuicMix
