import QuicMix.Boundary.Relay

namespace QuicMix
namespace Boundary

open Foundations

/-!
# Who is given the replies

What a front has seen is recorded as a log of two kinds of events: a datagram was
received from some source, and a datagram came back through the substrate.  Where
the datagrams that came back should go, and where they do go, are two readings of
the log.  They should go to the source of the first datagram that was received.
But the learned address is replaced with every datagram, so they go to the source
of the latest one.
-/

inductive FrontEvent where
  | received (source : Address)
  | returned (datagram : Datagram)
  deriving DecidableEq, Repr

def FrontEvent.source? : FrontEvent -> Option Address
  | .received source => some source
  | .returned _ => none

/-- The sources of the datagrams that were received, in order. -/
def sources (log : List FrontEvent) : List Address :=
  log.filterMap FrontEvent.source?

/-- The datagrams that are sent on when the addressee of a returning datagram is
chosen from the sources that were seen before. -/
def sentOn (choose : List Address -> Option Address) :
    List Address -> List FrontEvent -> List (Address × Datagram)
  | _, [] => []
  | seen, .received source :: rest => sentOn choose (seen ++ [source]) rest
  | seen, .returned datagram :: rest =>
      (choose seen).toList.map (fun address => (address, datagram)) ++ sentOn choose seen rest

/-- Every datagram that comes back goes to the client that opened the front, and
to nobody before there is one. -/
def toOpener (log : List FrontEvent) : List (Address × Datagram) :=
  sentOn List.head? [] log

/-- Every datagram that comes back goes to the one that was heard last. -/
def toLatest (log : List FrontEvent) : List (Address × Datagram) :=
  sentOn List.getLast? [] log

/-- Whenever a datagram comes back, the latest datagram that was received has the
same source as the first one. -/
def Undisturbed (log : List FrontEvent) : Prop :=
  forall before datagram after, log = before ++ .returned datagram :: after ->
    (sources before).getLast? = (sources before).head?

section Logs

variable (choose : List Address -> Option Address)

theorem sources_concat (log : List FrontEvent) (event : FrontEvent) :
    sources (log ++ [event]) = sources log ++ event.source?.toList := by
  rw [sources, List.filterMap_append]
  cases event <;> rfl

theorem sentOn_append (seen : List Address) (log more : List FrontEvent) :
    sentOn choose seen (log ++ more) =
      sentOn choose seen log ++ sentOn choose (seen ++ sources log) more := by
  induction log generalizing seen with
  | nil =>
      rw [sources, List.filterMap_nil, List.append_nil]
      rfl
  | cons event rest inductionHypothesis =>
      cases event with
      | received source =>
          have moved : seen ++ sources (.received source :: rest) =
              seen ++ [source] ++ sources rest := by
            rw [List.append_assoc]
            rfl
          rw [List.cons_append, sentOn, sentOn, inductionHypothesis, moved]
      | returned datagram =>
          rw [List.cons_append, sentOn, sentOn, inductionHypothesis, List.append_assoc]
          rfl

theorem sentOn_received (log : List FrontEvent) (source : Address) :
    sentOn choose [] (log ++ [.received source]) = sentOn choose [] log := by
  rw [sentOn_append]
  exact List.append_nil _

theorem sentOn_returned (log : List FrontEvent) (datagram : Datagram) :
    sentOn choose [] (log ++ [.returned datagram]) =
      sentOn choose [] log ++
        (choose (sources log)).toList.map (fun address => (address, datagram)) := by
  rw [sentOn_append, List.nil_append]
  apply congrArg
  exact List.append_nil _

end Logs

theorem sources_received (source : Address) (log : List FrontEvent) :
    sources (.received source :: log) = source :: sources log := rfl

/-- There is a latest source as soon as there is a first one. -/
theorem sentOn_returned_inj (seen : List Address) (datagram : Datagram)
    (latest opener : List (Address × Datagram)) :
    seen.getLast?.toList.map (fun address => (address, datagram)) ++ latest =
        seen.head?.toList.map (fun address => (address, datagram)) ++ opener <->
      seen.getLast? = seen.head? ∧ latest = opener := by
  cases seen with
  | nil => exact (and_iff_right rfl).symm
  | cons first rest =>
      rw [List.getLast?_cons, List.head?_cons, Option.some.injEq]
      constructor
      · intro same
        rcases List.cons.inj same with ⟨heads, tails⟩
        exact ⟨congrArg Prod.fst heads, tails⟩
      · rintro ⟨heads, rfl⟩
        rw [heads]

theorem sentOn_latest_eq (seen : List Address) (log : List FrontEvent) :
    sentOn List.getLast? seen log = sentOn List.head? seen log <->
      forall before datagram after, log = before ++ .returned datagram :: after ->
        (seen ++ sources before).getLast? = (seen ++ sources before).head? := by
  induction log generalizing seen with
  | nil =>
      refine iff_of_true rfl ?_
      intro before datagram after split
      cases before <;> cases split
  | cons event rest inductionHypothesis =>
      cases event with
      | received source =>
          refine (inductionHypothesis (seen ++ [source])).trans ?_
          constructor
          · intro settled before datagram after split
            cases before with
            | nil => cases split
            | cons first others =>
                cases split
                rw [sources_received, List.append_cons]
                exact settled others datagram after rfl
          · intro settled before datagram after split
            rw [← List.append_cons, ← sources_received]
            exact settled (.received source :: before) datagram after (by rw [split]; rfl)
      | returned datagram =>
          refine (sentOn_returned_inj seen datagram _ _).trans ?_
          rw [inductionHypothesis seen]
          constructor
          · rintro ⟨here, settled⟩ before other after split
            cases before with
            | nil => rwa [sources, List.filterMap_nil, List.append_nil]
            | cons first others =>
                cases split
                exact settled others other after rfl
          · intro settled
            refine ⟨?_, ?_⟩
            · have here := settled [] datagram rest rfl
              rwa [sources, List.filterMap_nil, List.append_nil] at here
            · intro before other after split
              exact settled (.returned datagram :: before) other after (by rw [split]; rfl)

/-- The two readings agree on a log that is not disturbed, and on no other. -/
theorem toLatest_eq_toOpener_iff (log : List FrontEvent) :
    toLatest log = toOpener log <-> Undisturbed log :=
  sentOn_latest_eq [] log

/-! ## Fronts and relays send to the latest source -/

/-- What a step does to the learned address and the replies, with the events that
it stands for. -/
inductive Forwards (peer : Option Address) (replies : List (Address × Datagram)) :
    List FrontEvent -> Option Address -> List (Address × Datagram) -> Prop where
  | silent : Forwards peer replies [] peer replies
  | learned (source : Address) : Forwards peer replies [.received source] (some source) replies
  | returned (datagram : Datagram) :
      Forwards peer replies [.returned datagram] peer
        (replies ++ peer.toList.map (fun address => (address, datagram)))

theorem Forwards.of_kept {peer next : Option Address} {replies more : List (Address × Datagram)}
    (kept : next = peer ∧ more = replies) : Forwards peer replies [] next more := by
  rcases kept with ⟨rfl, rfl⟩
  exact .silent

/-- The learned address is the latest source, and the replies went there. -/
structure Followed (peer : Option Address) (replies : List (Address × Datagram))
    (log : List FrontEvent) : Prop where
  latest : peer = (sources log).getLast?
  sent : replies = toLatest log

theorem Followed.step {peer next : Option Address} {replies more : List (Address × Datagram)}
    {log events : List FrontEvent} (followed : Followed peer replies log)
    (forwards : Forwards peer replies events next more) : Followed next more (log ++ events) := by
  cases forwards with
  | silent =>
      rw [List.append_nil]
      exact followed
  | learned source =>
      constructor
      · rw [sources_concat]
        exact List.getLast?_concat.symm
      · rw [toLatest, sentOn_received]
        exact followed.sent
  | returned datagram =>
      constructor
      · rw [sources_concat]
        exact followed.latest.trans (congrArg List.getLast? (List.append_nil _).symm)
      · rw [toLatest, sentOn_returned, ← followed.latest, followed.sent]
        rfl

/-- Whatever forwards in this way step by step has done so in every run. -/
theorem followed_of_forwards {State Action : Type} {events : State -> Action -> List FrontEvent}
    {step : State -> Action -> Option State} (peer : State -> Option Address)
    (replies : State -> List (Address × Datagram))
    (forwards : forall {state next action}, step state action = some next ->
      Forwards (peer state) (replies state) (events state action) (peer next) (replies next))
    {start : State} (unheard : peer start = none) (unsent : replies start = [])
    {schedule : List Action} {state : State} {log : List FrontEvent}
    (ran : run (logged events step) (start, []) schedule = some (state, log)) :
    Followed (peer state) (replies state) log := by
  refine invariant (fun state : State × List FrontEvent =>
    Followed (peer state.1) (replies state.1) state.2) ?_ ⟨unheard, unsent⟩ ran
  intro state action next followed stepped
  rcases logged_eq_some stepped with ⟨moved, extended⟩
  rw [extended]
  exact followed.step (forwards moved)

namespace Front

/-- The datagrams that a step receives from the socket and those that it takes back
through the substrate. -/
def events (front : Front) : FrontMove -> List FrontEvent
  | .outRecv => front.socket.head?.toList.map (fun held => .received held.1)
  | .inReply =>
      match front.inPump with
      | .replying datagram => [.returned datagram]
      | _ => []
  | _ => []

theorem within_kept {front next : Front} {move : Move} (moved : front.within move = some next) :
    next.peer = front.peer ∧ next.replies = front.replies := by
  unfold within at moved
  split at moved
  · cases moved
  · cases moved
    exact ⟨rfl, rfl⟩

theorem outSend_kept {front next : Front} {move : Move} {after : OutPump}
    (moved : front.outSend move after = some next) :
    next.peer = front.peer ∧ next.replies = front.replies := by
  unfold outSend at moved
  split at moved
  · split at moved
    · cases moved
    · cases moved
      exact ⟨rfl, rfl⟩
  · cases moved

theorem inLock_kept {front next : Front} (moved : front.inLock = some next) :
    next.peer = front.peer ∧ next.replies = front.replies := by
  unfold inLock at moved
  split at moved
  · split at moved
    · cases moved
    · cases moved
      exact ⟨rfl, rfl⟩
  · cases moved

theorem inTake_kept {front next : Front} (moved : front.inTake = some next) :
    next.peer = front.peer ∧ next.replies = front.replies := by
  unfold inTake at moved
  split at moved
  · split at moved
    · cases moved
    · split at moved
      · cases moved
        exact ⟨rfl, rfl⟩
      · cases moved
        exact ⟨rfl, rfl⟩
  · cases moved

theorem forwards_outRecv {front next : Front} (moved : front.outRecv = some next) :
    Forwards front.peer front.replies (front.events .outRecv) next.peer next.replies := by
  unfold outRecv at moved
  split at moved
  · rename_i sender datagram rest _ held
    split at moved
    · cases moved
    · cases moved
      rw [events, held]
      exact .learned sender
  · cases moved

theorem forwards_inReply {front next : Front} (moved : front.inReply = some next) :
    Forwards front.peer front.replies (front.events .inReply) next.peer next.replies := by
  unfold inReply at moved
  split at moved
  · rename_i datagram replying
    cases moved
    simp only [events, replying]
    exact .returned datagram
  · cases moved

theorem forwards_of_step {front next : Front} {move : FrontMove}
    (moved : front.step move = some next) :
    Forwards front.peer front.replies (front.events move) next.peer next.replies := by
  cases move with
  | outRecv => exact forwards_outRecv moved
  | inReply => exact forwards_inReply moved
  | elapse duration => exact Forwards.of_kept (@within_kept front next (.elapse duration) moved)
  | innerReceived datagram =>
      exact Forwards.of_kept (@within_kept front next (.innerReceived (.ok datagram)) moved)
  | innerSent result => exact Forwards.of_kept (@within_kept front next (.innerSent result) moved)
  | sendPump => exact Forwards.of_kept (@within_kept front next .sendPump moved)
  | recvPump => exact Forwards.of_kept (@within_kept front next .recvPump moved)
  | outReserve => exact Forwards.of_kept (outSend_kept moved)
  | outCommit => exact Forwards.of_kept (outSend_kept moved)
  | outHangUp => exact Forwards.of_kept (outSend_kept moved)
  | inLock => exact Forwards.of_kept (inLock_kept moved)
  | inTake => exact Forwards.of_kept (inTake_kept moved)
  | udpIn sender datagram =>
      rcases Option.ite_none_right_eq_some.mp moved with ⟨_, same⟩
      cases same
      exact .silent
  | socketError =>
      simp only [step] at moved
      split at moved
      · cases moved
        exact .silent
      · cases moved
  | dropHandle =>
      rcases Option.ite_none_right_eq_some.mp moved with ⟨_, same⟩
      cases same
      exact .silent
  | dropClient =>
      rcases Option.ite_none_right_eq_some.mp moved with ⟨_, same⟩
      cases same
      exact .silent
  | release =>
      rcases Option.ite_none_right_eq_some.mp moved with ⟨_, same⟩
      exact Forwards.of_kept (within_kept same)

/-- The front of a caller, with an empty log. -/
theorem followed_of_run {origin : Origin} {kind : SubstrateKind} {oracle : OracleParams}
    {queueDepth : Nat} {schedule : List FrontMove} {front : Front} {log : List FrontEvent}
    (ran : run (logged events step) (spawn origin kind oracle queueDepth, []) schedule =
      some (front, log)) : Followed front.peer front.replies log :=
  followed_of_forwards peer replies forwards_of_step rfl rfl ran

end Front

namespace Relay

def events (relay : Relay) : RelayMove -> List FrontEvent
  | .clientRecv => relay.up.socket.head?.toList.map (fun held => .received held.1)
  | .clientSend =>
      match relay.down.drainer with
      | .replying datagram => [.returned datagram]
      | _ => []
  | _ => []

theorem setLeg_kept (relay : Relay) (direction : Direction) (leg : Leg) :
    (relay.setLeg direction leg).clientAddr = relay.clientAddr ∧
      (relay.setLeg direction leg).replies = relay.replies := by
  cases direction <;> exact ⟨rfl, rfl⟩

theorem forwards_clientRecv {relay next : Relay} (moved : relay.clientRecv = some next) :
    Forwards relay.clientAddr relay.replies (relay.events .clientRecv) next.clientAddr
      next.replies := by
  unfold clientRecv Leg.recvFrom at moved
  split at moved
  · cases moved
  · rename_i sender up taken
    split at taken
    · rename_i other datagram rest _ held
      split at taken
      · cases taken
      · cases taken
        cases moved
        rw [events, held]
        exact .learned sender
    · cases taken

theorem forwards_clientSend {relay next : Relay} (moved : relay.clientSend = some next) :
    Forwards relay.clientAddr relay.replies (relay.events .clientSend) next.clientAddr
      next.replies := by
  unfold clientSend Leg.sendTo at moved
  split at moved
  · cases moved
  · rename_i datagram down taken
    split at taken
    · rename_i other replying
      cases taken
      cases moved
      simp only [events, replying]
      exact .returned datagram
    · cases taken

theorem forwards_of_step {relay next : Relay} {move : RelayMove}
    (moved : relay.step move = some next) :
    Forwards relay.clientAddr relay.replies (relay.events move) next.clientAddr next.replies := by
  cases move with
  | clientRecv => exact forwards_clientRecv moved
  | clientSend => exact forwards_clientSend moved
  | elapse duration =>
      simp only [step, elapse] at moved
      split at moved
      · cases moved
        exact .silent
      · cases moved
  | leg direction move =>
      rcases Option.map_eq_some_iff.mp moved with ⟨leg, _, rfl⟩
      exact Forwards.of_kept (setLeg_kept relay direction leg)
  | serverSend =>
      simp only [step, serverSend] at moved
      split at moved
      · cases moved
      · cases moved
        exact .silent
  | serverRecv =>
      simp only [step, serverRecv] at moved
      split at moved
      · cases moved
      · cases moved
        exact .silent
  | dropHandle =>
      rcases Option.ite_none_right_eq_some.mp moved with ⟨_, same⟩
      cases same
      exact .silent
  | release direction =>
      rcases Option.ite_none_right_eq_some.mp moved with ⟨_, released⟩
      rcases Option.map_eq_some_iff.mp released with ⟨leg, _, rfl⟩
      exact Forwards.of_kept (setLeg_kept relay direction leg)

theorem followed_of_run {serverAddr : Address} {upKind downKind : SubstrateKind}
    {upOracle downOracle : OracleParams} {upDepth downDepth : Nat} {schedule : List RelayMove}
    {relay : Relay} {log : List FrontEvent}
    (ran : run (logged events step)
      (startRelay serverAddr upKind downKind upOracle downOracle upDepth downDepth, []) schedule =
      some (relay, log)) : Followed relay.clientAddr relay.replies log :=
  followed_of_forwards clientAddr replies forwards_of_step rfl rfl ran

end Relay

/-- Replies.  In every state that a front or a relay reaches, its replies went to
the client that opened it, all of them and to nobody else, if and only if no stray
datagram was the latest one when a datagram came back. -/
theorem replies_toOpener_iff (log : List FrontEvent) :
    (forall origin kind oracle queueDepth schedule (front : Front),
      run (logged Front.events Front.step) (Front.spawn origin kind oracle queueDepth, [])
        schedule = some (front, log) ->
      (front.replies = toOpener log <-> Undisturbed log)) ∧
    (forall serverAddr upKind downKind upOracle downOracle upDepth downDepth schedule
      (relay : Relay),
      run (logged Relay.events Relay.step)
        (Relay.startRelay serverAddr upKind downKind upOracle downOracle upDepth downDepth, [])
        schedule = some (relay, log) ->
      (relay.replies = toOpener log <-> Undisturbed log)) := by
  constructor
  · intro origin kind oracle queueDepth schedule front ran
    rw [(Front.followed_of_run ran).sent]
    exact toLatest_eq_toOpener_iff log
  · intro serverAddr upKind downKind upOracle downOracle upDepth downDepth schedule relay ran
    rw [(Relay.followed_of_run ran).sent]
    exact toLatest_eq_toOpener_iff log

/-- One client and one datagram that comes back. -/
def answeredSchedule : List FrontMove :=
  [.udpIn 7 [1], .outRecv, .outReserve, .outCommit, .innerReceived [3], .recvPump, .recvPump,
    .inLock, .inTake, .inReply]

def answeredRelaySchedule : List RelayMove :=
  [.leg .up (.arrive 7 [1]), .clientRecv, .leg .up .reserve, .leg .up .commit,
    .leg .down (.innerReceived (.ok [3])), .leg .down .recvPump, .leg .down .recvPump,
    .leg .down .lock, .leg .down .take, .clientSend]

theorem undisturbed_answered : Undisturbed [.received 7, .returned [3]] := by
  apply (toLatest_eq_toOpener_iff _).mp
  decide

theorem replies_toOpener_answered :
    (exists front, run (logged Front.events Front.step)
        (Front.spawn .direct .datagram ⟨3, 50, 0, 20, 1200⟩ 8, []) answeredSchedule =
          some (front, [.received 7, .returned [3]]) ∧ front.replies = [(7, [3])]) ∧
    (exists relay, run (logged Relay.events Relay.step)
        (Relay.startRelay 5 .datagram .datagram ⟨3, 50, 0, 20, 1200⟩ ⟨3, 50, 0, 20, 1200⟩ 8 8, [])
        answeredRelaySchedule = some (relay, [.received 7, .returned [3]]) ∧
          relay.replies = [(7, [3])]) :=
  ⟨⟨_, rfl, ((replies_toOpener_iff _).1 .direct .datagram ⟨3, 50, 0, 20, 1200⟩ 8
      answeredSchedule _ rfl).mpr undisturbed_answered⟩,
    ⟨_, rfl, ((replies_toOpener_iff _).2 5 .datagram .datagram ⟨3, 50, 0, 20, 1200⟩
      ⟨3, 50, 0, 20, 1200⟩ 8 8 answeredRelaySchedule _ rfl).mpr undisturbed_answered⟩⟩

/-- The client at 7 is followed by a stray datagram from 9; then a datagram comes
back. -/
def strayedSchedule : List FrontMove :=
  [.udpIn 7 [1], .outRecv, .outReserve, .outCommit, .udpIn 9 [2], .outRecv, .innerReceived [3],
    .recvPump, .recvPump, .inLock, .inTake, .inReply]

def strayedRelaySchedule : List RelayMove :=
  [.leg .up (.arrive 7 [1]), .clientRecv, .leg .up .reserve, .leg .up .commit,
    .leg .up (.arrive 9 [2]), .clientRecv, .leg .down (.innerReceived (.ok [3])),
    .leg .down .recvPump, .leg .down .recvPump, .leg .down .lock, .leg .down .take, .clientSend]

/-- The stray sender is given the client's reply. -/
theorem stray_takes_replies :
    (exists front log, run (logged Front.events Front.step)
        (Front.spawn .direct .datagram ⟨3, 50, 0, 20, 1200⟩ 8, []) strayedSchedule =
          some (front, log) ∧ toOpener log = [(7, [3])] ∧ front.replies = [(9, [3])]) ∧
    (exists relay log, run (logged Relay.events Relay.step)
        (Relay.startRelay 5 .datagram .datagram ⟨3, 50, 0, 20, 1200⟩ ⟨3, 50, 0, 20, 1200⟩ 8 8, [])
        strayedRelaySchedule = some (relay, log) ∧ toOpener log = [(7, [3])] ∧
          relay.replies = [(9, [3])]) :=
  ⟨⟨_, _, rfl, rfl, rfl⟩, ⟨_, _, rfl, rfl, rfl⟩⟩

end Boundary
end QuicMix
