import QuicMix.Foundations.Expiry
import Mathlib.Data.List.Perm.Basic

namespace QuicMix
namespace Gateway

open Foundations

/-!
# The directory of live gateways

Nodes announce themselves into the directory and clients sample exits from it.
`live` removes the expired entries from the table that it reads, and `sample`
chooses among what `live` answers.  The map is iterated in an order that nobody
promises and the choice is random, so both are left to the environment: a call
is performed with a `Choice`, and a property of every choice is a property of
the code.

The comparison is with the announcements alone.  Whatever was listed and pruned
before, a call answers what the announcements made so far determine.
-/

/-! ## Addresses -/

inductive IpAddr where
  | v4 (first second third fourth : BitVec 8)
  | v6 (bits : BitVec 128)
  deriving DecidableEq, Repr

inductive SocketAddr where
  | v4 (first second third fourth : BitVec 8) (port : BitVec 16)
  | v6 (bits : BitVec 128) (port : BitVec 16) (flowinfo scopeId : BitVec 32)
  deriving DecidableEq, Repr

def SocketAddr.ip : SocketAddr -> IpAddr
  | .v4 first second third fourth _ => .v4 first second third fourth
  | .v6 bits _ _ _ => .v6 bits

namespace IpAddr

def isLoopback : IpAddr -> Bool
  | .v4 first _ _ _ => first == 127
  | .v6 bits => bits == 1

def isUnspecified : IpAddr -> Bool
  | .v4 first second third fourth => first == 0 && second == 0 && third == 0 && fourth == 0
  | .v6 bits => bits == 0

/-- The first of the eight segments of an IPv6 address. -/
def firstSegment (bits : BitVec 128) : BitVec 16 :=
  bits.extractLsb' 112 16

/-- The private and link-local ranges of IPv4, and the unique-local and
link-local ranges of IPv6. -/
def isPrivate : IpAddr -> Bool
  | .v4 first second _ _ =>
      first == 10 || (first == 172 && second &&& 0xf0 == 16) || (first == 192 && second == 168)
        || (first == 169 && second == 254)
  | .v6 bits =>
      firstSegment bits &&& 0xfe00 == 0xfc00 || firstSegment bits &&& 0xffc0 == 0xfe80

end IpAddr

/-- The address-level gate of auto-promotion. -/
def qualifiesAsGateway (addr : SocketAddr) : Bool :=
  !(addr.ip.isLoopback || addr.ip.isUnspecified || addr.ip.isPrivate)

/-! ## The directory -/

/-- A certificate in DER form. -/
abbrev Cert := List (BitVec 8)

/-- A live gateway peers can use as an exit. -/
structure GatewayInfo where
  addr : SocketAddr
  cert : Cert
  lastSeen : Instant
  deriving DecidableEq, Repr

structure GatewayDirectory where
  gateways : Table GatewayInfo.addr
  ttl : Duration

inductive Call where
  | announce (addr : SocketAddr) (cert : Cert) (now : Instant)
  | live (now : Instant)
  | sample (now : Instant)
  deriving DecidableEq, Repr

/-- The order in which the map is iterated, and the index that is drawn. -/
structure Choice where
  order : List GatewayInfo
  index : Nat
  deriving DecidableEq, Repr

inductive Answer where
  | announced
  | listed (gateways : List GatewayInfo)
  | sampled (gateway : Option GatewayInfo)
  deriving DecidableEq, Repr

/-- The clock reading that the call takes. -/
def Call.now : Call -> Instant
  | .announce _ _ now => now
  | .live now => now
  | .sample now => now

/-- What the call announces, if it announces anything. -/
def Call.announcement : Call -> Option GatewayInfo
  | .announce addr cert now => some ⟨addr, cert, now⟩
  | _ => none

namespace GatewayDirectory

def new (ttl : Duration) : GatewayDirectory where
  gateways := Table.empty
  ttl := ttl

/-- Record or refresh a gateway. -/
def announce (directory : GatewayDirectory) (addr : SocketAddr) (cert : Cert)
    (now : Instant) : GatewayDirectory :=
  { directory with gateways := directory.gateways.insert ⟨addr, cert, now⟩ }

/-- Drop the gateways that have expired. -/
def prune (directory : GatewayDirectory) (now : Instant) : GatewayDirectory :=
  { directory with
    gateways := directory.gateways.retain (fresh GatewayInfo.lastSeen directory.ttl now) }

/-- The gateways that have not expired, in the order of the map's iteration. -/
def live (directory : GatewayDirectory) (now : Instant) (order : List GatewayInfo) :
    Option (List GatewayInfo × GatewayDirectory) :=
  if order.isPerm (directory.prune now).gateways.entries then
    some (order, directory.prune now)
  else none

/-- A random element of a slice; nothing is drawn for an empty one. -/
def choose (gateways : List GatewayInfo) (index : Nat) : Option (Option GatewayInfo) :=
  match gateways with
  | [] => some none
  | _ => gateways[index]?.map some

/-- One live gateway for an exit. -/
def sample (directory : GatewayDirectory) (now : Instant) (order : List GatewayInfo)
    (index : Nat) : Option (Option GatewayInfo × GatewayDirectory) := do
  let (gateways, pruned) <- directory.live now order
  let chosen <- choose gateways index
  return (chosen, pruned)

/-- Perform a call with the environment's choice. -/
def perform (directory : GatewayDirectory) (call : Call) (choice : Choice) :
    Option (Answer × GatewayDirectory) :=
  match call with
  | .announce addr cert now => some (.announced, directory.announce addr cert now)
  | .live now =>
      (directory.live now choice.order).map (fun result => (.listed result.1, result.2))
  | .sample now =>
      (directory.sample now choice.order choice.index).map
        (fun result => (.sampled result.1, result.2))

/-- The answers that a call can get. -/
def Possible (directory : GatewayDirectory) (call : Call) (answer : Answer) : Prop :=
  exists choice next, directory.perform call choice = some (answer, next)

end GatewayDirectory

/-- The directory with the latest clock reading and the announcements made so
far.  No call reads the announcements. -/
structure Session where
  directory : GatewayDirectory
  clock : Instant
  announced : List GatewayInfo

namespace Session

def new (ttl : Duration) : Session where
  directory := GatewayDirectory.new ttl
  clock := 0
  announced := []

/-- The next call, with the environment's choice in it; its reading of the
clock is not behind the last one. -/
def step (session : Session) (action : Call × Choice) : Option Session :=
  if session.clock <= action.1.now then
    (session.directory.perform action.1 action.2).map (fun result =>
      { directory := result.2
        clock := action.1.now
        announced := session.announced ++ action.1.announcement.toList })
  else none

/-- The announcements that a sequence of calls makes, in order. -/
def announcements (calls : List (Call × Choice)) : List GatewayInfo :=
  calls.filterMap (fun action => action.1.announcement)

end Session

/-- The gateway is on record at the given time, going by the announcements
alone: it is the most recent announcement of its address, and it is less than
the time to live old. -/
def Listed (ttl : Duration) (announced : List GatewayInfo) (now : Instant)
    (gateway : GatewayInfo) : Prop :=
  latest GatewayInfo.addr announced gateway.addr = some gateway ∧
    now - gateway.lastSeen < ttl

/-! ## What a call can answer -/

namespace GatewayDirectory

theorem live_eq_some {directory : GatewayDirectory} {now : Instant} {order : List GatewayInfo}
    {result : List GatewayInfo × GatewayDirectory} :
    directory.live now order = some result <->
      order.Perm (directory.prune now).gateways.entries ∧
        result = (order, directory.prune now) := by
  unfold live
  by_cases permuted : order.isPerm (directory.prune now).gateways.entries = true
  · rw [if_pos permuted, Option.some.injEq]
    constructor
    · intro same
      exact ⟨List.isPerm_iff.mp permuted, same.symm⟩
    · intro parts
      exact parts.2.symm
  · rw [if_neg permuted]
    constructor
    · intro impossible
      cases impossible
    · intro parts
      exact absurd (List.isPerm_iff.mpr parts.1) permuted

theorem choose_eq_some {gateways : List GatewayInfo} {index : Nat}
    {chosen : Option GatewayInfo} :
    choose gateways index = some chosen <->
      (gateways = [] ∧ chosen = none) ∨
        (exists gateway, gateways[index]? = some gateway ∧ chosen = some gateway) := by
  cases gateways with
  | nil =>
      simp only [choose, Option.some.injEq, List.getElem?_nil, reduceCtorEq, false_and,
        exists_false, or_false, true_and]
      exact eq_comm
  | cons head tail =>
      simp only [choose, Option.map_eq_some_iff, reduceCtorEq, false_and, false_or]
      constructor
      · intro found
        rcases found with ⟨gateway, located, same⟩
        exact ⟨gateway, located, same.symm⟩
      · intro found
        rcases found with ⟨gateway, located, same⟩
        exact ⟨gateway, located, same.symm⟩

theorem sample_eq_some {directory : GatewayDirectory} {now : Instant}
    {order : List GatewayInfo} {index : Nat} {result : Option GatewayInfo × GatewayDirectory} :
    directory.sample now order index = some result <->
      order.Perm (directory.prune now).gateways.entries ∧
        choose order index = some result.1 ∧ result.2 = directory.prune now := by
  simp only [sample, Option.bind_eq_bind, Option.bind_eq_some_iff, live_eq_some, Prod.exists,
    Prod.mk.injEq, Option.pure_def, Option.some.injEq]
  constructor
  · intro found
    rcases found with ⟨_, _, ⟨permuted, rfl, rfl⟩, chosen, drawn, rfl⟩
    exact ⟨permuted, drawn, rfl⟩
  · intro parts
    rcases parts with ⟨permuted, drawn, pruned⟩
    exact ⟨order, _, ⟨permuted, rfl, rfl⟩, result.1, drawn, by rw [← pruned]⟩

theorem possible_live {directory : GatewayDirectory} {now : Instant} {answer : Answer} :
    directory.Possible (.live now) answer <->
      exists listing, answer = .listed listing ∧
        listing.Perm (directory.prune now).gateways.entries := by
  simp only [Possible, perform, Option.map_eq_some_iff, live_eq_some]
  constructor
  · intro possible
    rcases possible with ⟨choice, next, result, ⟨permuted, rfl⟩, same⟩
    cases same
    exact ⟨choice.order, rfl, permuted⟩
  · intro possible
    rcases possible with ⟨listing, rfl, permuted⟩
    exact ⟨⟨listing, 0⟩, _, _, ⟨permuted, rfl⟩, rfl⟩

theorem possible_sample {directory : GatewayDirectory} {now : Instant} {answer : Answer} :
    directory.Possible (.sample now) answer <->
      exists chosen, answer = .sampled chosen ∧
        (((directory.prune now).gateways.entries = [] ∧ chosen = none) ∨
          exists gateway, gateway ∈ (directory.prune now).gateways.entries ∧
            chosen = some gateway) := by
  simp only [Possible, perform, Option.map_eq_some_iff, sample_eq_some]
  constructor
  · intro possible
    rcases possible with ⟨choice, next, result, ⟨permuted, drawn, _⟩, same⟩
    cases same
    refine ⟨result.1, rfl, ?_⟩
    rcases choose_eq_some.mp drawn with ⟨empty, nothing⟩ | ⟨gateway, located, chosen⟩
    · rw [empty] at permuted
      exact .inl ⟨permuted.nil_eq.symm, nothing⟩
    · exact .inr ⟨gateway, permuted.mem_iff.mp (List.mem_of_getElem? located), chosen⟩
  · intro possible
    rcases possible with ⟨chosen, rfl, ⟨empty, rfl⟩ | ⟨gateway, member, rfl⟩⟩
    · refine ⟨⟨[], 0⟩, _, (none, _), ⟨?_, rfl, rfl⟩, rfl⟩
      rw [empty]
    · rcases List.getElem?_of_mem member with ⟨index, located⟩
      refine ⟨⟨(directory.prune now).gateways.entries, index⟩, _, (some gateway, _),
        ⟨List.Perm.refl _, ?_, rfl⟩, rfl⟩
      exact choose_eq_some.mpr (.inr ⟨gateway, located, rfl⟩)

theorem exists_possible_sample (directory : GatewayDirectory) (now : Instant) :
    exists answer, directory.Possible (.sample now) answer := by
  cases entries : (directory.prune now).gateways.entries with
  | nil => exact ⟨_, possible_sample.mpr ⟨none, rfl, .inl ⟨entries, rfl⟩⟩⟩
  | cons head tail =>
      have member : head ∈ (directory.prune now).gateways.entries := by
        rw [entries]
        exact List.mem_cons_self
      exact ⟨_, possible_sample.mpr ⟨some head, rfl, .inr ⟨head, member, rfl⟩⟩⟩

theorem possible_announce {directory : GatewayDirectory} {addr : SocketAddr} {cert : Cert}
    {now : Instant} {answer : Answer} :
    directory.Possible (.announce addr cert now) answer <-> answer = .announced := by
  constructor
  · intro possible
    rcases possible with ⟨choice, next, performed⟩
    cases performed
    rfl
  · intro same
    subst same
    exact ⟨⟨[], 0⟩, _, rfl⟩

/-- A call leaves the table as the announcement or the pruning makes it. -/
theorem perform_eq_some {directory next : GatewayDirectory} {call : Call} {choice : Choice}
    {answer : Answer} (performed : directory.perform call choice = some (answer, next)) :
    (exists addr cert now, call = .announce addr cert now ∧
      next = directory.announce addr cert now) ∨
    (call.announcement = none ∧ next = directory.prune call.now) := by
  cases call with
  | announce addr cert now =>
      cases performed
      exact .inl ⟨addr, cert, now, rfl, rfl⟩
  | live now =>
      right
      rcases Option.map_eq_some_iff.mp performed with ⟨result, listed, same⟩
      rcases live_eq_some.mp listed with ⟨_, rfl⟩
      cases same
      exact ⟨rfl, rfl⟩
  | sample now =>
      right
      rcases Option.map_eq_some_iff.mp performed with ⟨result, sampled, same⟩
      rcases sample_eq_some.mp sampled with ⟨_, _, pruned⟩
      cases same
      exact ⟨rfl, pruned⟩

end GatewayDirectory

/-! ## Every sequence of calls -/

namespace Session

/-- The table agrees with the announcements. -/
structure Faithful (ttl : Duration) (session : Session) : Prop where
  lifetime : session.directory.ttl = ttl
  reflects : Reflects GatewayInfo.lastSeen ttl session.announced session.clock
    session.directory.gateways

theorem step_eq_some {session next : Session} {action : Call × Choice}
    (stepped : session.step action = some next) :
    session.clock <= action.1.now ∧ next.clock = action.1.now ∧
      next.announced = session.announced ++ action.1.announcement.toList ∧
      exists answer, session.directory.perform action.1 action.2 =
        some (answer, next.directory) := by
  unfold step at stepped
  by_cases forward : session.clock <= action.1.now
  · rw [if_pos forward, Option.map_eq_some_iff] at stepped
    rcases stepped with ⟨result, performed, same⟩
    subst same
    exact ⟨forward, rfl, rfl, result.1, performed⟩
  · rw [if_neg forward] at stepped
    cases stepped

theorem Faithful.step {ttl : Duration} {session next : Session} {action : Call × Choice}
    (sound : Faithful ttl session) (stepped : session.step action = some next) :
    Faithful ttl next := by
  rcases step_eq_some stepped with ⟨forward, clock, announced, answer, performed⟩
  rcases GatewayDirectory.perform_eq_some performed with
    ⟨addr, cert, now, call, result⟩ | ⟨silent, result⟩
  · rw [call] at forward clock announced
    refine ⟨by rw [result]; exact sound.lifetime, ?_⟩
    rw [clock, announced, result]
    exact (sound.reflects.elapse forward).insert ⟨addr, cert, now⟩
  · refine ⟨by rw [result]; exact sound.lifetime, ?_⟩
    rw [clock, announced, silent, Option.toList_none, List.append_nil, result]
    unfold GatewayDirectory.prune
    rw [sound.lifetime]
    exact sound.reflects.prune forward

theorem faithful_of_run {ttl : Duration} {calls : List (Call × Choice)} {session : Session}
    (ran : run Session.step (Session.new ttl) calls = some session) : Faithful ttl session :=
  invariant (Faithful ttl) (fun _ _ _ sound stepped => sound.step stepped)
    ⟨rfl, reflects_empty 0⟩ ran

theorem announced_of_run {start final : Session} {calls : List (Call × Choice)}
    (ran : run Session.step start calls = some final) :
    final.announced = start.announced ++ announcements calls := by
  apply record_of_run Session.announced (fun action => action.1.announcement) _ ran
  intro session action next stepped
  exact (step_eq_some stepped).2.2.1

/-- What is left in the table after pruning is what is on record. -/
theorem Faithful.mem_prune {ttl : Duration} {session : Session} (sound : Faithful ttl session)
    {now : Instant} (forward : session.clock <= now) {gateway : GatewayInfo} :
    gateway ∈ (session.directory.prune now).gateways.entries <->
      Listed ttl session.announced now gateway := by
  unfold GatewayDirectory.prune
  rw [sound.lifetime]
  refine (sound.reflects.mem_prune forward).trans ?_
  rw [fresh, decide_eq_true_eq]
  rfl

/-- Two sessions with the same announcements keep the same gateways. -/
theorem Faithful.prune_perm {ttl : Duration} {session other : Session}
    (sound : Faithful ttl session) (soundOther : Faithful ttl other)
    (same : session.announced = other.announced) {now : Instant}
    (forward : session.clock <= now) (forwardOther : other.clock <= now) :
    (session.directory.prune now).gateways.entries.Perm
      (other.directory.prune now).gateways.entries := by
  apply (List.perm_ext_iff_of_nodup _ _).mpr
  · intro gateway
    rw [sound.mem_prune forward, soundOther.mem_prune forwardOther, same]
  · exact (session.directory.prune now).gateways.distinct.of_map
  · exact (other.directory.prune now).gateways.distinct.of_map

theorem Faithful.possible_iff {ttl : Duration} {session other : Session}
    (sound : Faithful ttl session) (soundOther : Faithful ttl other)
    (same : session.announced = other.announced) {call : Call}
    (forward : session.clock <= call.now) (forwardOther : other.clock <= call.now)
    (answer : Answer) :
    session.directory.Possible call answer <-> other.directory.Possible call answer := by
  have permuted := sound.prune_perm soundOther same forward forwardOther
  cases call with
  | announce addr cert now =>
      rw [GatewayDirectory.possible_announce, GatewayDirectory.possible_announce]
  | live now =>
      rw [GatewayDirectory.possible_live, GatewayDirectory.possible_live]
      apply exists_congr
      intro listing
      apply and_congr_right
      intro _
      exact ⟨fun order => order.trans permuted, fun order => order.trans permuted.symm⟩
  | sample now =>
      rw [GatewayDirectory.possible_sample, GatewayDirectory.possible_sample]
      have empty : (session.directory.prune now).gateways.entries = [] <->
          (other.directory.prune now).gateways.entries = [] := by
        constructor
        · intro none
          exact (none ▸ permuted).nil_eq.symm
        · intro none
          exact (none ▸ permuted).eq_nil
      have member : forall gateway,
          gateway ∈ (session.directory.prune now).gateways.entries <->
            gateway ∈ (other.directory.prune now).gateways.entries :=
        fun gateway => permuted.mem_iff
      simp only [empty, member]

/-- `live` lists what is on record, once each. -/
theorem Faithful.live {ttl : Duration} {session : Session} (sound : Faithful ttl session)
    {now : Instant} (forward : session.clock <= now) {listing : List GatewayInfo}
    (permuted : listing.Perm (session.directory.prune now).gateways.entries) :
    (listing.map GatewayInfo.addr).Nodup ∧
      forall gateway, gateway ∈ listing <-> Listed ttl session.announced now gateway := by
  constructor
  · exact (permuted.map GatewayInfo.addr).nodup_iff.mpr
      (session.directory.prune now).gateways.distinct
  · intro gateway
    rw [permuted.mem_iff, sound.mem_prune forward]

/-- `sample` draws what is on record, and nothing only if nothing is. -/
theorem Faithful.sample {ttl : Duration} {session : Session} (sound : Faithful ttl session)
    {now : Instant} (forward : session.clock <= now) {chosen : Option GatewayInfo}
    (drawn : ((session.directory.prune now).gateways.entries = [] ∧ chosen = none) ∨
      exists gateway, gateway ∈ (session.directory.prune now).gateways.entries ∧
        chosen = some gateway) :
    (chosen = none <-> forall gateway, ¬ Listed ttl session.announced now gateway) ∧
      forall gateway, chosen = some gateway -> Listed ttl session.announced now gateway := by
  rcases drawn with ⟨empty, nothing⟩ | ⟨gateway, member, something⟩
  · subst nothing
    constructor
    · constructor
      · intro _ gateway listed
        rw [← sound.mem_prune forward, empty] at listed
        exact List.not_mem_nil listed
      · intro _
        rfl
    · intro gateway impossible
      cases impossible
  · subst something
    have listed := (sound.mem_prune forward).mp member
    constructor
    · constructor
      · intro impossible
        cases impossible
      · intro absent
        exact absurd listed (absent gateway)
    · intro other same
      cases same
      exact listed

/-- The directory refines its history.  After any sequence of calls, `live`
and `sample` have an answer at every later reading of the clock, and every
answer is the one that the announcements determine: `live` lists the most recent
announcements that are less than the time to live old, once for each address,
and `sample` chooses one of them and answers nothing only if there are none.
Sequences with the same announcements leave every call with the same possible
answers, whatever else they contain, and a gateway that is not on record is not
listed later unless it is announced again. -/
theorem directory_refines_history (ttl : Duration) (calls : List (Call × Choice))
    (session : Session) (ran : run Session.step (Session.new ttl) calls = some session) :
    (forall now, session.clock <= now ->
      (exists answer, session.directory.Possible (.live now) answer) ∧
      forall answer, session.directory.Possible (.live now) answer ->
        exists listing, answer = .listed listing ∧ (listing.map GatewayInfo.addr).Nodup ∧
          forall gateway, gateway ∈ listing <-> Listed ttl (announcements calls) now gateway) ∧
    (forall now, session.clock <= now ->
      (exists answer, session.directory.Possible (.sample now) answer) ∧
      forall answer, session.directory.Possible (.sample now) answer ->
        exists chosen, answer = .sampled chosen ∧
          (chosen = none <-> forall gateway, ¬ Listed ttl (announcements calls) now gateway) ∧
          forall gateway, chosen = some gateway ->
            Listed ttl (announcements calls) now gateway) ∧
    (forall others other, run Session.step (Session.new ttl) others = some other ->
      announcements others = announcements calls ->
      forall call, session.clock <= call.now -> other.clock <= call.now ->
        forall answer, session.directory.Possible call answer <->
          other.directory.Possible call answer) ∧
    (forall addr now,
      (forall gateway, Listed ttl (announcements calls) now gateway -> gateway.addr ≠ addr) ->
      forall future later, run Session.step session future = some later ->
      (forall gateway, gateway ∈ announcements future -> gateway.addr ≠ addr) ->
      forall moment, now <= moment -> later.clock <= moment ->
      forall listing, later.directory.Possible (.live moment) (.listed listing) ->
        addr ∉ listing.map GatewayInfo.addr) := by
  have sound := faithful_of_run ran
  have recorded : session.announced = announcements calls := announced_of_run ran
  rw [← recorded]
  refine ⟨?_, ?_, ?_, ?_⟩
  · intro now forward
    refine ⟨⟨_, GatewayDirectory.possible_live.mpr ⟨_, rfl, List.Perm.refl _⟩⟩, ?_⟩
    intro answer possible
    rcases GatewayDirectory.possible_live.mp possible with ⟨listing, same, permuted⟩
    exact ⟨listing, same, sound.live forward permuted⟩
  · intro now forward
    refine ⟨session.directory.exists_possible_sample now, ?_⟩
    intro answer possible
    rcases GatewayDirectory.possible_sample.mp possible with ⟨chosen, same, drawn⟩
    exact ⟨chosen, same, sound.sample forward drawn⟩
  · intro others other ranOther same call forward forwardOther answer
    refine sound.possible_iff (faithful_of_run ranOther) ?_ forward forwardOther answer
    rw [← same]
    exact (announced_of_run ranOther).symm
  · intro addr now absent future later continued silent moment forward clock listing possible
    have soundLater := faithful_of_run (run_append_eq_some.mpr ⟨session, ran, continued⟩)
    rcases GatewayDirectory.possible_live.mp possible with ⟨_, same, permuted⟩
    cases same
    intro member
    rcases List.mem_map.mp member with ⟨gateway, found, named⟩
    rcases ((soundLater.live clock permuted).2 gateway).mp found with ⟨current, young⟩
    subst named
    rw [announced_of_run continued, latest_append_of_ne silent] at current
    exact absent gateway ⟨current, Nat.lt_of_le_of_lt (Nat.sub_le_sub_right forward _) young⟩ rfl

/-- Two gateways, one of them announced again with another certificate. -/
def renewed : List (Call × Choice) :=
  [(.announce (.v4 8 8 8 8 443) [1, 2, 3] 0, ⟨[], 0⟩),
    (.announce (.v4 1 1 1 1 443) [4, 5, 6] 0, ⟨[], 0⟩),
    (.announce (.v4 8 8 8 8 443) [7] 30, ⟨[], 0⟩)]

/-- At the time to live of the first announcements only the renewed one is
listed, with its new certificate. -/
theorem directory_refines_history_renewed :
    exists session, run Session.step (Session.new 50) renewed = some session ∧
      session.directory.Possible (.live 50) (.listed [⟨.v4 8 8 8 8 443, [7], 30⟩]) ∧
      Listed 50 (announcements renewed) 50 ⟨.v4 8 8 8 8 443, [7], 30⟩ := by
  refine ⟨_, rfl, ⟨⟨[⟨.v4 8 8 8 8 443, [7], 30⟩], 0⟩, _, rfl⟩, ?_⟩
  rcases ((directory_refines_history 50 renewed _ rfl).1 50 (by decide)).2 _
    ⟨⟨[⟨.v4 8 8 8 8 443, [7], 30⟩], 0⟩, _, rfl⟩ with ⟨listing, same, _, listed⟩
  cases same
  exact (listed _).mp List.mem_cons_self

end Session
end Gateway
end QuicMix
