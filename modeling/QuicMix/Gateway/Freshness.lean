import QuicMix.Gateway.Autopilot

namespace QuicMix
namespace Gateway

open Foundations

/-!
# When a responsive gateway stays listed

A bootstrap peer that answers every fetch is announced again in every pass.
Whether its entry can expire in between depends on the list alone: in the worst
case each fetch takes as long as it may, and what lies between two visits to the
peer is the rest of the pass, the pause and the beginning of the next pass.

`wait` is that worst case.  It is an upper bound because what remains of it never
grows faster than time passes, and it is attained by a run in which every peer
takes its time.
-/

/-- The longest that the visits to the listed peers take, up to and including
the first one to the given peer. -/
def reach (self : Option SocketAddr) (addr : SocketAddr) : List SocketAddr -> Duration
  | [] => 0
  | peer :: rest =>
      if some peer = self then reach self addr rest
      else fetchLimit + if peer = addr then 0 else reach self addr rest

/-- The longest that it takes to the end of the next visit to the given peer,
when the pass has the listed peers left. -/
def wait (self : Option SocketAddr) (peers : List SocketAddr) (addr : SocketAddr)
    (todo : List SocketAddr) : Duration :=
  reach self addr todo + if addr ∈ todo then 0 else refreshPause + reach self addr peers

/-- After each visit to the peer the next one ends before the entry expires. -/
def Timely (self : Option SocketAddr) (peers : List SocketAddr) (addr : SocketAddr) : Prop :=
  forall before after, peers = before ++ addr :: after -> wait self peers addr after < dirTtl

namespace Node

/-- The peer answers: no fetch from it ends with an error. -/
def Answers (addr : SocketAddr) (node : Node) (action : NodeAction) : Prop :=
  forall begun rest, node.refresh = .fetching addr begun rest -> action ≠ .fetched none

/-- In every run in which the peer answers, once it has been announced every
listing of the directory contains it. -/
def StaysListed (start : Node) (addr : SocketAddr) : Prop :=
  forall schedule node, run Node.step start schedule = some node ->
    Meets Node.step (Answers addr) start schedule ->
    (exists gateway, gateway ∈ node.session.announced ∧ gateway.addr = addr) ->
    forall listing, node.session.directory.Possible (.live node.clock) (.listed listing) ->
      addr ∈ listing.map GatewayInfo.addr

end Node

/-! ## The worst case -/

section Wait

variable {self : Option SocketAddr} {peers : List SocketAddr} {addr : SocketAddr}

theorem reach_append_of_not_mem {first : List SocketAddr} (absent : addr ∉ first)
    (second : List SocketAddr) :
    reach self addr (first ++ second) = reach self addr first + reach self addr second := by
  induction first with
  | nil => exact (Nat.zero_add _).symm
  | cons peer rest inductionHypothesis =>
      have different : peer ≠ addr := fun same => absent (same ▸ List.mem_cons_self)
      have later := inductionHypothesis (fun member => absent (List.mem_cons_of_mem peer member))
      rw [List.cons_append, reach, reach, later]
      by_cases own : some peer = self
      · rw [if_pos own, if_pos own]
      · rw [if_neg own, if_neg own, if_neg different, if_neg different, Nat.add_assoc]

theorem reach_cons_self (other : some addr ≠ self) (rest : List SocketAddr) :
    reach self addr (addr :: rest) = fetchLimit := by
  rw [reach, if_neg other, if_pos rfl, Nat.add_zero]

theorem wait_skip (other : some addr ≠ self) {peer : SocketAddr} (own : some peer = self)
    (rest : List SocketAddr) : wait self peers addr (peer :: rest) = wait self peers addr rest := by
  have different : addr ≠ peer := fun same => other (same ▸ own)
  simp only [wait, reach, if_pos own, List.mem_cons, different, false_or]

theorem wait_fetch {peer : SocketAddr} (other : some peer ≠ self) (rest : List SocketAddr) :
    wait self peers addr (peer :: rest) =
      fetchLimit + if peer = addr then 0 else wait self peers addr rest := by
  by_cases same : peer = addr
  · subst same
    rw [wait, reach_cons_self other, if_pos List.mem_cons_self, if_pos rfl]
  · have different : addr ≠ peer := Ne.symm same
    simp only [wait, reach, if_neg other, if_neg same, List.mem_cons, different, false_or,
      Nat.add_assoc]

theorem wait_nil : wait self peers addr [] = refreshPause + reach self addr peers := by
  rw [wait, reach, if_neg List.not_mem_nil, Nat.zero_add]

theorem wait_peers (member : addr ∈ peers) :
    wait self peers addr peers = reach self addr peers := by
  rw [wait, if_pos member, Nat.add_zero]

/-- Without the peer in it, a list takes a full fetch for each of its members
but the node itself. -/
theorem reach_of_not_mem {todo : List SocketAddr} (absent : addr ∉ todo) :
    reach self addr todo =
      fetchLimit * (todo.filter (fun peer => decide (some peer ≠ self))).length := by
  induction todo with
  | nil => rfl
  | cons peer rest inductionHypothesis =>
      have different : peer ≠ addr := fun same => absent (same ▸ List.mem_cons_self)
      have later := inductionHypothesis (fun member => absent (List.mem_cons_of_mem peer member))
      by_cases own : some peer = self
      · rw [reach, if_pos own, later, List.filter_cons_of_neg (by
          simp only [own, ne_eq, not_true_eq_false, decide_false, Bool.false_eq_true,
            not_false_eq_true])]
      · have counted : (peer :: rest).filter (fun peer => decide (some peer ≠ self)) =
            peer :: rest.filter (fun peer => decide (some peer ≠ self)) :=
          List.filter_cons_of_pos (decide_eq_true own)
        rw [reach, if_neg own, if_neg different, later, counted, List.length_cons, Nat.mul_succ,
          Nat.add_comm]

/-- In a list without repetitions the peers are refreshed in time if and only
if there are fewer than six of them, the node itself not counted. -/
theorem timely_iff_of_nodup (distinct : peers.Nodup) (member : addr ∈ peers)
    (other : some addr ≠ self) :
    Timely self peers addr <->
      (peers.filter (fun peer => decide (some peer ≠ self))).length < 6 := by
  have count : forall before after, peers = before ++ addr :: after ->
      wait self peers addr after = refreshPause +
        fetchLimit * (peers.filter (fun peer => decide (some peer ≠ self))).length := by
    intro before after split
    rw [split, List.nodup_middle, List.nodup_cons, List.mem_append, not_or] at distinct
    have counted : (addr :: after).filter (fun peer => decide (some peer ≠ self)) =
        addr :: after.filter (fun peer => decide (some peer ≠ self)) :=
      List.filter_cons_of_pos (decide_eq_true other)
    rw [wait, if_neg distinct.1.2, split, reach_append_of_not_mem distinct.1.1,
      reach_cons_self other, reach_of_not_mem distinct.1.1, reach_of_not_mem distinct.1.2,
      List.filter_append, counted, List.length_append, List.length_cons, Nat.mul_add,
      Nat.mul_succ]
    unfold Duration
    omega
  have pause : refreshPause = 60000000000 := rfl
  have limit : fetchLimit = 10000000000 := rfl
  have ttl : dirTtl = 120000000000 := rfl
  constructor
  · intro timely
    rcases List.append_of_mem member with ⟨before, after, split⟩
    have bound := timely before after split
    rw [count before after split, pause, limit, ttl] at bound
    unfold Duration at bound
    omega
  · intro few before after split
    rw [count before after split, pause, limit, ttl]
    unfold Duration
    omega

end Wait

namespace Node

/-! ## The worst case is an upper bound -/

/-- The refresh task is somewhere in its list of peers, and not behind. -/
def Placed (peers : List SocketAddr) (clock : Instant) : Refresh -> Prop
  | .starting => True
  | .visiting todo => exists done, peers = done ++ todo
  | .fetching peer begun rest =>
      (exists done, peers = done ++ peer :: rest) ∧ clock <= begun + fetchLimit
  | .sleeping wakeAt => clock <= wakeAt

/-- One peer further in the list. -/
theorem Placed.next {peers : List SocketAddr} {clock : Instant} {peer : SocketAddr}
    {rest : List SocketAddr} (placed : exists done, peers = done ++ peer :: rest) :
    Placed peers clock (.visiting rest) := by
  rcases placed with ⟨done, split⟩
  refine ⟨done ++ [peer], ?_⟩
  rw [List.append_assoc]
  exact split

/-- The longest that it takes to the end of the next visit to the peer. -/
def remaining (self : Option SocketAddr) (peers : List SocketAddr) (addr : SocketAddr)
    (clock : Instant) : Refresh -> Duration
  | .starting => 0
  | .visiting todo => wait self peers addr todo
  | .fetching peer begun rest =>
      begun + fetchLimit - clock + if peer = addr then 0 else wait self peers addr rest
  | .sleeping wakeAt => wakeAt - clock + reach self addr peers

/-- Since the given time no more has passed, and no more can pass before the
next announcement of the peer, than the worst case after some visit to it. -/
def Due (addr : SocketAddr) (node : Node) (seen : Instant) : Prop :=
  exists before after, node.peers = before ++ addr :: after ∧
    node.clock + remaining node.self node.peers addr node.clock node.refresh <=
      seen + wait node.self node.peers addr after

structure OnTime (addr : SocketAddr) (node : Node) : Prop where
  member : addr ∈ node.peers
  other : some addr ≠ node.self
  placed : Placed node.peers node.clock node.refresh
  unannounced : node.refresh = .starting ->
    latest GatewayInfo.addr node.session.announced addr = none
  due : forall gateway, latest GatewayInfo.addr node.session.announced addr = some gateway ->
    node.Due addr gateway.lastSeen

/-- A move that changes neither what was announced nor the clock keeps the peer
on time if no more remains after it than before. -/
theorem OnTime.turn {addr : SocketAddr} {node : Node} (sound : OnTime addr node)
    {refresh : Refresh} (placed : Placed node.peers node.clock refresh)
    (begun : refresh ≠ .starting)
    (less : node.refresh ≠ .starting ->
      remaining node.self node.peers addr node.clock refresh <=
        remaining node.self node.peers addr node.clock node.refresh) :
    OnTime addr { node with refresh := refresh } where
  member := sound.member
  other := sound.other
  placed := placed
  unannounced := fun same => absurd same begun
  due := by
    intro gateway announced
    by_cases starting : node.refresh = .starting
    · rw [sound.unannounced starting] at announced
      cases announced
    · rcases sound.due gateway announced with ⟨before, after, split, bound⟩
      exact ⟨before, after, split, Nat.le_trans (Nat.add_le_add_left (less starting) _) bound⟩

theorem OnTime.elapse {addr : SocketAddr} {node : Node} (sound : OnTime addr node)
    {duration : Duration} (allowed : node.allows (node.clock + duration) = true) :
    OnTime addr { node with session := { node.session with clock := node.clock + duration } } := by
  have placed := sound.placed
  have due := sound.due
  refine ⟨sound.member, sound.other, ?_, sound.unannounced, ?_⟩
  · change Placed node.peers (node.clock + duration) node.refresh
    cases phase : node.refresh with
    | starting => exact trivial
    | visiting todo =>
        rw [phase] at placed
        exact placed
    | fetching peer begun rest =>
        rw [phase] at placed
        simp only [allows, phase, decide_eq_true_eq] at allowed
        exact ⟨placed.1, allowed⟩
    | sleeping wakeAt =>
        simp only [allows, phase, decide_eq_true_eq] at allowed
        exact allowed
  · intro gateway announced
    rcases due gateway announced with ⟨before, after, split, bound⟩
    refine ⟨before, after, split, ?_⟩
    change node.clock + duration +
        remaining node.self node.peers addr (node.clock + duration) node.refresh <=
      gateway.lastSeen + wait node.self node.peers addr after
    cases phase : node.refresh with
    | starting =>
        rw [sound.unannounced phase] at announced
        cases announced
    | visiting todo =>
        simp only [allows, phase, decide_eq_true_eq] at allowed
        simp only [remaining, phase] at bound ⊢
        unfold Instant Duration at *
        omega
    | fetching peer begun rest =>
        simp only [allows, phase, decide_eq_true_eq] at allowed
        simp only [remaining, phase] at bound ⊢
        unfold Instant Duration at *
        omega
    | sleeping wakeAt =>
        simp only [allows, phase, decide_eq_true_eq] at allowed
        simp only [remaining, phase] at bound ⊢
        unfold Instant Duration at *
        omega

/-- The peer itself has been fetched: the worst case begins anew. -/
theorem OnTime.announced {addr : SocketAddr} {node : Node} (sound : OnTime addr node)
    {begun : Instant} {rest : List SocketAddr}
    (phase : node.refresh = .fetching addr begun rest) (cert : Cert) :
    OnTime addr
      { node with session := node.session.announce addr cert, refresh := .visiting rest } := by
  have placed := sound.placed
  rw [phase] at placed
  rcases placed.1 with ⟨done, split⟩
  refine ⟨sound.member, sound.other, Placed.next placed.1, (fun same => nomatch same), ?_⟩
  intro gateway latest
  simp only [Session.announce, latest_append_singleton, if_true, Option.some.injEq] at latest
  subst latest
  exact ⟨done, rest, split, Nat.le_refl _⟩

/-- Another peer has been announced. -/
theorem OnTime.announcedOther {addr peer : SocketAddr} {node : Node} (sound : OnTime addr node)
    (different : peer ≠ addr) (cert : Cert) :
    OnTime addr { node with session := node.session.announce peer cert } := by
  have same : latest GatewayInfo.addr (node.session.announce peer cert).announced addr =
      latest GatewayInfo.addr node.session.announced addr := by
    simp only [Session.announce, latest_append_singleton, if_neg different]
  refine ⟨sound.member, sound.other, sound.placed, ?_, ?_⟩
  · intro starting
    exact same.trans (sound.unannounced starting)
  · intro gateway announced
    exact sound.due gateway (same.symm.trans announced)

theorem OnTime.moved {addr : SocketAddr} {node next : Node} {action : NodeAction}
    (sound : OnTime addr node) (answers : Answers addr node action)
    (moved : Moved node action next) : OnTime addr next := by
  have placed := sound.placed
  cases moved with
  | elapsed duration allowed => exact sound.elapse allowed
  | started phase =>
      refine sound.turn ⟨[], rfl⟩ (fun same => nomatch same) ?_
      intro begun
      exact absurd phase begun
  | passEnded phase =>
      refine sound.turn (Nat.le_add_right _ _) (fun same => nomatch same) ?_
      intro _
      rw [phase]
      simp only [remaining, wait_nil, Nat.add_sub_cancel_left, Nat.le_refl]
  | skipped peer rest phase own =>
      rw [phase] at placed
      refine sound.turn (Placed.next placed) (fun same => nomatch same) ?_
      intro _
      rw [phase]
      exact Nat.le_of_eq (wait_skip sound.other own rest).symm
  | fetches peer rest phase other =>
      rw [phase] at placed
      refine sound.turn ⟨placed, Nat.le_add_right _ _⟩ (fun same => nomatch same) ?_
      intro _
      rw [phase]
      simp only [remaining, wait_fetch other, Nat.add_sub_cancel_left, Nat.le_refl]
  | failed peer begun rest phase =>
      rw [phase] at placed
      have different : peer ≠ addr := by
        intro same
        subst same
        exact answers begun rest phase rfl
      refine sound.turn (Placed.next placed.1) (fun same => nomatch same) ?_
      intro _
      rw [phase]
      simp only [remaining, if_neg different]
      exact Nat.le_add_left _ _
  | announced peer begun rest cert phase =>
      by_cases same : peer = addr
      · subst same
        exact sound.announced phase cert
      · rw [phase] at placed
        have stands : Placed node.peers node.clock (.visiting rest) := Placed.next placed.1
        apply (sound.announcedOther same cert).turn stands (fun same => nomatch same)
        intro _
        change wait node.self node.peers addr rest <=
          remaining node.self node.peers addr node.clock node.refresh
        rw [phase]
        simp only [remaining, if_neg same]
        exact Nat.le_add_left _ _
  | woken wakeAt phase reached =>
      refine sound.turn ⟨[], rfl⟩ (fun same => nomatch same) ?_
      intro _
      rw [phase]
      simp only [remaining, wait_peers sound.member]
      exact Nat.le_add_left _ _
  | ingress action phase silent =>
      exact ⟨sound.member, sound.other, sound.placed, sound.unannounced, sound.due⟩
  | sampled order index chosen phase drawn =>
      exact ⟨sound.member, sound.other, sound.placed, sound.unannounced, sound.due⟩
  | listed order =>
      exact ⟨sound.member, sound.other, sound.placed, sound.unannounced, sound.due⟩

theorem onTime_launch {self : Option SocketAddr} {cert : Cert} {peers : List SocketAddr}
    {now : Instant} {addr : SocketAddr} (member : addr ∈ peers) (other : some addr ≠ self) :
    OnTime addr (launch self cert peers now) := by
  have unannounced : latest GatewayInfo.addr (launch self cert peers now).session.announced addr =
      none := by
    cases self with
    | none => rfl
    | some own =>
        change latest GatewayInfo.addr ([] ++ [⟨own, cert, now⟩]) addr = none
        rw [latest_append_singleton, if_neg (fun same => other (congrArg some same.symm))]
        rfl
  refine ⟨member, other, trivial, fun _ => unannounced, ?_⟩
  intro gateway announced
  rw [unannounced] at announced
  cases announced

/-- A listing contains the peer if its latest announcement has not expired. -/
theorem Sound.mem_listing_iff {node : Node} (sound : Sound node) {addr : SocketAddr}
    {gateway : GatewayInfo}
    (announced : latest GatewayInfo.addr node.session.announced addr = some gateway)
    {listing : List GatewayInfo}
    (possible : node.session.directory.Possible (.live node.clock) (.listed listing)) :
    addr ∈ listing.map GatewayInfo.addr <-> node.clock - gateway.lastSeen < dirTtl := by
  rcases GatewayDirectory.possible_live.mp possible with ⟨_, same, permuted⟩
  cases same
  have listed := (sound.faithful.live (Nat.le_refl _) permuted).2
  have named := key_of_latest announced
  rw [List.mem_map]
  constructor
  · intro member
    rcases member with ⟨found, member, same⟩
    have onRecord := (listed found).mp member
    rw [Listed, same, announced, Option.some.injEq] at onRecord
    rcases onRecord with ⟨equal, young⟩
    subst equal
    exact young
  · intro young
    refine ⟨gateway, (listed gateway).mpr ⟨?_, young⟩, named⟩
    rw [named]
    exact announced

theorem staysListed_of_timely {self : Option SocketAddr} {cert : Cert}
    {peers : List SocketAddr} {now : Instant} {addr : SocketAddr} (member : addr ∈ peers)
    (other : some addr ≠ self) (timely : Timely self peers addr) :
    StaysListed (launch self cert peers now) addr := by
  intro schedule node ran answers announced listing possible
  rcases announced with ⟨gateway, recorded, named⟩
  have sound := sound_of_run ran
  have config := invariant (fun node => node.self = self ∧ node.peers = peers)
    (fun _ _ _ same stepped => ⟨(moved_of_step stepped).config.1.trans same.1,
      (moved_of_step stepped).config.2.trans same.2⟩)
    ⟨rfl, rfl⟩ ran
  have onTime : OnTime addr node := invariant_of_meets (Answers addr) (OnTime addr)
    (fun _ _ _ answers sound stepped => sound.moved answers (moved_of_step stepped))
    (onTime_launch member other) answers ran
  have current : exists found,
      latest GatewayInfo.addr node.session.announced gateway.addr = some found :=
    exists_latest recorded
  rw [named] at current
  rcases current with ⟨found, current⟩
  apply (sound.mem_listing_iff current possible).mpr
  rcases onTime.due found current with ⟨before, after, split, bound⟩
  rw [config.1, config.2] at bound
  rw [config.2] at split
  have below := timely before after split
  unfold Instant Duration at *
  omega

/-! ## The worst case is attained -/

/-- Some run in which the peer answers leads from one state to another. -/
def Leads (addr : SocketAddr) (node next : Node) : Prop :=
  exists schedule, run Node.step node schedule = some next ∧
    Meets Node.step (Answers addr) node schedule

theorem Leads.refl (addr : SocketAddr) (node : Node) : Leads addr node node :=
  ⟨[], rfl, trivial⟩

theorem Leads.trans {addr : SocketAddr} {first second third : Node}
    (one : Leads addr first second) (two : Leads addr second third) : Leads addr first third := by
  rcases one with ⟨early, ranEarly, metEarly⟩
  rcases two with ⟨late, ranLate, metLate⟩
  exact ⟨early ++ late, run_append_eq_some.mpr ⟨second, ranEarly, ranLate⟩,
    metEarly.append ranEarly metLate⟩

theorem Leads.step {addr : SocketAddr} {node next : Node} (action : NodeAction)
    (stepped : node.step action = some next) (answers : Answers addr node action) :
    Leads addr node next :=
  ⟨[action], run_cons.mpr ⟨next, stepped, rfl⟩, Meets.cons answers stepped trivial⟩

/-- A move that is not the failure of a fetch. -/
theorem Leads.move {addr : SocketAddr} {node next : Node} (action : NodeAction)
    (stepped : node.step action = some next) (other : action ≠ .fetched none) :
    Leads addr node next :=
  Leads.step action stepped (fun _ _ _ => other)

/-- A fetch can take as long as it may. -/
theorem leads_fetch (addr : SocketAddr) {peer : SocketAddr} {node : Node}
    {rest : List SocketAddr} (phase : node.refresh = .visiting (peer :: rest))
    (other : some peer ≠ node.self) :
    Leads addr node
      { node with
        session := { node.session with clock := node.clock + fetchLimit }
        refresh := .fetching peer node.clock rest } := by
  have visited : node.step .visit =
      some { node with refresh := .fetching peer node.clock rest } := by
    simp only [step, visit, phase, if_neg other]
  refine (Leads.move .visit visited (by decide)).trans ?_
  refine Leads.move (.elapse fetchLimit) ?_ (by decide)
  simp only [step, allows, clock, Nat.le_refl, decide_true, if_true]

theorem leads_skip (addr : SocketAddr) {peer : SocketAddr} {node : Node}
    {rest : List SocketAddr} (phase : node.refresh = .visiting (peer :: rest))
    (own : some peer = node.self) : Leads addr node { node with refresh := .visiting rest } := by
  refine Leads.move .visit ?_ (by decide)
  simp only [step, visit, phase, if_pos own]

/-- A stretch of the pass that does not contain the peer can take as long as
it may, with nothing announced in it. -/
theorem leads_pass (addr : SocketAddr) (todo rest : List SocketAddr) (node : Node)
    (absent : addr ∉ todo) (phase : node.refresh = .visiting (todo ++ rest)) :
    exists next, Leads addr node next ∧ next.refresh = .visiting rest ∧
      next.self = node.self ∧ next.peers = node.peers ∧
      next.clock = node.clock + reach node.self addr todo ∧
      next.session.announced = node.session.announced := by
  induction todo generalizing node with
  | nil => exact ⟨node, Leads.refl addr node, phase, rfl, rfl, rfl, rfl⟩
  | cons peer others inductionHypothesis =>
      have different : peer ≠ addr := fun same => absent (same ▸ List.mem_cons_self)
      have later : addr ∉ others := fun member => absent (List.mem_cons_of_mem peer member)
      by_cases own : some peer = node.self
      · rcases inductionHypothesis { node with refresh := .visiting (others ++ rest) } later rfl
          with ⟨next, leads, stands, self, peers, time, announced⟩
        refine ⟨next, (leads_skip addr phase own).trans leads, stands, self, peers, ?_, announced⟩
        rw [reach, if_pos own]
        exact time
      · rcases inductionHypothesis
          { node with
            session := { node.session with clock := node.clock + fetchLimit }
            refresh := .visiting (others ++ rest) } later rfl
          with ⟨next, leads, stands, self, peers, time, announced⟩
        refine ⟨next, (leads_fetch addr phase own).trans
          (Leads.trans (Leads.step (.fetched none) rfl ?_) leads), stands, self, peers, ?_,
          announced⟩
        · intro begun left same
          cases same
          exact absurd rfl different
        · rw [reach, if_neg own, if_neg different, ← Nat.add_assoc]
          exact time

/-- The pass can come to any of its places. -/
theorem leads_to (addr : SocketAddr) (todo rest : List SocketAddr) (node : Node)
    (phase : node.refresh = .visiting (todo ++ rest)) :
    exists next, Leads addr node next ∧ next.refresh = .visiting rest ∧
      next.self = node.self ∧ next.peers = node.peers := by
  induction todo generalizing node with
  | nil => exact ⟨node, Leads.refl addr node, phase, rfl, rfl⟩
  | cons peer others inductionHypothesis =>
      by_cases own : some peer = node.self
      · rcases inductionHypothesis { node with refresh := .visiting (others ++ rest) } rfl
          with ⟨next, leads, stands, self, peers⟩
        exact ⟨next, (leads_skip addr phase own).trans leads, stands, self, peers⟩
      · rcases inductionHypothesis
          { node with
            session := { node.session with clock := node.clock + fetchLimit }.announce peer [0]
            refresh := .visiting (others ++ rest) } rfl
          with ⟨next, leads, stands, self, peers⟩
        exact ⟨next, (leads_fetch addr phase own).trans
          (Leads.trans (Leads.move (.fetched (some [0])) rfl (by decide)) leads), stands, self,
          peers⟩

/-- From a place in the pass before the next visit to the peer, that visit can
be made to last until the worst case. -/
theorem leads_reach (addr : SocketAddr) (todo : List SocketAddr) (node : Node)
    (phase : node.refresh = .visiting todo) (member : addr ∈ todo)
    (other : some addr ≠ node.self) :
    exists next, Leads addr node next ∧
      next.clock = node.clock + reach node.self addr todo ∧
      next.session.announced = node.session.announced := by
  rcases List.eq_append_cons_of_mem member with ⟨before, after, split, absent⟩
  rw [split] at phase
  rcases leads_pass addr before (addr :: after) node absent phase with
    ⟨middle, leads, stands, self, peers, time, announced⟩
  refine ⟨_, leads.trans (leads_fetch addr stands (self ▸ other)), ?_, announced⟩
  change middle.clock + fetchLimit = _
  rw [time, split, reach_append_of_not_mem absent, reach_cons_self other, Nat.add_assoc]

/-- The pause after a pass. -/
theorem leads_pause (addr : SocketAddr) {node : Node} (phase : node.refresh = .visiting []) :
    Leads addr node
      { node with
        session := { node.session with clock := node.clock + refreshPause }
        refresh := .visiting node.peers } := by
  have asleep : Leads addr node
      { node with refresh := .sleeping (node.clock + refreshPause) } := by
    refine Leads.move .visit ?_ (by decide)
    simp only [step, visit, phase]
  have slept : Leads addr { node with refresh := .sleeping (node.clock + refreshPause) }
      { node with
        session := { node.session with clock := node.clock + refreshPause }
        refresh := .sleeping (node.clock + refreshPause) } := by
    refine Leads.move (.elapse refreshPause) ?_ (by decide)
    simp only [step, allows, clock, Nat.le_refl, decide_true, if_true]
  refine asleep.trans (slept.trans (Leads.move .wakeRefresh ?_ (by decide)))
  simp only [step, clock, Nat.le_refl, if_true]

/-- After a visit to the peer, as much time as the worst case can pass before
it is announced again. -/
theorem leads_wait (addr : SocketAddr) (after : List SocketAddr) (node : Node)
    (phase : node.refresh = .visiting after) (member : addr ∈ node.peers)
    (other : some addr ≠ node.self) :
    exists next, Leads addr node next ∧
      next.clock = node.clock + wait node.self node.peers addr after ∧
      next.session.announced = node.session.announced := by
  by_cases again : addr ∈ after
  · rcases leads_reach addr after node phase again other with ⟨next, leads, time, announced⟩
    refine ⟨next, leads, ?_, announced⟩
    rw [wait, if_pos again, Nat.add_zero]
    exact time
  · rcases leads_pass addr after [] node again (by rw [List.append_nil]; exact phase) with
      ⟨middle, leads, stands, self, peers, time, announced⟩
    rcases leads_reach addr middle.peers
      { middle with
        session := { middle.session with clock := middle.clock + refreshPause }
        refresh := .visiting middle.peers } rfl (peers ▸ member) (self ▸ other) with
      ⟨next, arrives, timeNext, announcedNext⟩
    refine ⟨next, leads.trans ((leads_pause addr stands).trans arrives), ?_,
      announcedNext.trans announced⟩
    rw [timeNext, wait, if_neg again]
    change middle.clock + refreshPause + reach middle.self addr middle.peers = _
    rw [time, self, peers, Nat.add_assoc, Nat.add_assoc]

/-- Once announced, a peer that stays listed is younger than the time to live
in every state that some run leads to. -/
theorem StaysListed.young {self : Option SocketAddr} {cert : Cert} {peers : List SocketAddr}
    {now : Instant} {addr : SocketAddr} (stays : StaysListed (launch self cert peers now) addr)
    {node : Node} (leads : Leads addr (launch self cert peers now) node) {gateway : GatewayInfo}
    (announced : latest GatewayInfo.addr node.session.announced addr = some gateway) :
    node.clock - gateway.lastSeen < dirTtl := by
  rcases leads with ⟨schedule, ran, answers⟩
  have possible := GatewayDirectory.possible_live.mpr
    ⟨_, rfl, List.Perm.refl (node.session.directory.prune node.clock).gateways.entries⟩
  have recorded : gateway ∈ node.session.announced :=
    List.mem_reverse.mp (List.mem_of_find?_eq_some announced)
  apply ((sound_of_run ran).mem_listing_iff announced possible).mp
  exact stays schedule node ran answers ⟨gateway, recorded, key_of_latest announced⟩ _ possible

theorem other_of_staysListed {self : Option SocketAddr} {cert : Cert} {peers : List SocketAddr}
    {now : Instant} {addr : SocketAddr}
    (stays : StaysListed (launch self cert peers now) addr) : some addr ≠ self := by
  intro own
  subst own
  have aged : Leads addr (launch (some addr) cert peers now)
      { launch (some addr) cert peers now with
        session := { (launch (some addr) cert peers now).session with
          clock := now + dirTtl } } :=
    Leads.move (.elapse dirTtl) rfl (by decide)
  have young := stays.young aged (promoted_launch addr cert peers now).known.once
  change now + dirTtl - now < dirTtl at young
  rw [Nat.add_sub_cancel_left] at young
  exact Nat.lt_irrefl _ young

theorem timely_of_staysListed {self : Option SocketAddr} {cert : Cert} {peers : List SocketAddr}
    {now : Instant} {addr : SocketAddr}
    (stays : StaysListed (launch self cert peers now) addr) : Timely self peers addr := by
  intro before after split
  have other := other_of_staysListed stays
  have begun : Leads addr (launch self cert peers now)
      { launch self cert peers now with refresh := .visiting peers } :=
    Leads.move .startRefresh rfl (by decide)
  rcases leads_to addr before (addr :: after)
    { launch self cert peers now with refresh := .visiting peers }
    (congrArg Refresh.visiting split) with ⟨node, arrives, stands, sameSelf, samePeers⟩
  have fetching := leads_fetch addr stands (sameSelf ▸ other)
  have announced : Leads addr
      { node with
        session := { node.session with clock := node.clock + fetchLimit }
        refresh := .fetching addr node.clock after }
      { node with
        session := { node.session with clock := node.clock + fetchLimit }.announce addr [0]
        refresh := .visiting after } :=
    Leads.move (.fetched (some [0])) rfl (by decide)
  have member : addr ∈ peers := by
    rw [split]
    exact List.mem_append_right _ List.mem_cons_self
  rcases leads_wait addr after
    { node with
      session := { node.session with clock := node.clock + fetchLimit }.announce addr [0]
      refresh := .visiting after } rfl (samePeers ▸ member) (sameSelf ▸ other) with
    ⟨final, waits, time, same⟩
  have current : latest GatewayInfo.addr final.session.announced addr =
      some ⟨addr, [0], node.clock + fetchLimit⟩ := by
    rw [same]
    simp only [Session.announce, latest_append_singleton, if_true]
  have young := stays.young
    (begun.trans (arrives.trans (fetching.trans (announced.trans waits)))) current
  rw [time] at young
  change node.clock + fetchLimit + wait node.self node.peers addr after -
    (node.clock + fetchLimit) < dirTtl at young
  rw [Nat.add_sub_cancel_left, sameSelf, samePeers] at young
  exact young

/-- A bootstrap peer that answers every fetch stays listed in every run if and
only if it is not the node itself and the worst case between two visits to it,
which the list of peers determines, is shorter than the time to live. -/
theorem stays_listed_iff (self : Option SocketAddr) (cert : Cert) (peers : List SocketAddr)
    (now : Instant) (addr : SocketAddr) (member : addr ∈ peers) :
    StaysListed (launch self cert peers now) addr <->
      some addr ≠ self ∧ Timely self peers addr := by
  constructor
  · intro stays
    exact ⟨other_of_staysListed stays, timely_of_staysListed stays⟩
  · intro condition
    exact staysListed_of_timely member condition.1 condition.2

/-- The two default bootstrap gateways. -/
def defaultBootstrap : List SocketAddr := [.v4 64 226 93 43 4433, .v4 68 183 148 148 4433]

theorem stays_listed_iff_default :
    StaysListed (launch none [1] defaultBootstrap 0) (.v4 68 183 148 148 4433) := by
  have member : SocketAddr.v4 68 183 148 148 4433 ∈ defaultBootstrap := by decide
  refine (stays_listed_iff none [1] defaultBootstrap 0 _ member).mpr ⟨Option.some_ne_none _, ?_⟩
  exact (timely_iff_of_nodup (by decide) member (Option.some_ne_none _)).mpr (by decide)

/-- Six gateways. -/
def sixBootstrap : List SocketAddr :=
  [.v4 64 226 93 43 4433, .v4 68 183 148 148 4433, .v4 1 1 1 1 4433, .v4 2 2 2 2 4433,
    .v4 3 3 3 3 4433, .v4 4 4 4 4 4433]

/-- With six peers of which five take their time and fail, a full time to live
passes before the one that answers is announced again. -/
theorem responsive_peer_of_six_expires :
    SocketAddr.v4 64 226 93 43 4433 ∈ sixBootstrap ∧
      ¬ StaysListed (launch none [1] sixBootstrap 0) (.v4 64 226 93 43 4433) := by
  have member : SocketAddr.v4 64 226 93 43 4433 ∈ sixBootstrap := by decide
  refine ⟨member, ?_⟩
  intro stays
  have few := (timely_iff_of_nodup (by decide) member (Option.some_ne_none _)).mp
    (timely_of_staysListed stays)
  exact absurd few (by decide)

end Node

end Gateway
end QuicMix
