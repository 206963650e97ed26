import QuicMix.Foundations.Drawn
import QuicMix.Nym.Bridge
import QuicMix.Nym.Failures

namespace QuicMix
namespace Nym

open Foundations
open Boundary

/-!
# Clients, mixnet and gateway

Any number of clients reach one gateway through the mixnet.  Each of them has a
client of its own identity, so that its messages carry a tag of their own, and a
reply that is sent with the `SURB`s of a tag reaches the client with that tag.  The
mixnet delays, reorders and loses messages and replies, and may repeat them.
Anyone who knows the address of a client can send to it; such messages are given
to it like replies.

A message is under way from the start of its `send_message` on, and a reply from
the start of its `send_reply` on; a call that fails has its message lost.
-/

/-- The mixnet between the clients, by their tags, and the gateway. -/
structure MixNetwork (Tag : Type) where
  clients : Tag -> ClientBridge
  gateway : NymGateway Tag
  /-- Messages to the gateway that are under way. -/
  messages : List (Tag × Datagram)
  /-- Replies to the clients that are under way. -/
  replies : List (Tag × Datagram)
  /-- What others have sent to the clients. -/
  strays : List (Tag × Datagram)

inductive MixMove (Tag : Type) where
  | client (tag : Tag) (move : BridgeMove)
  | gateway (move : GatewayMove Tag)
  | message (index : Nat)
  | reply (index : Nat)
  | stray (tag : Tag) (datagram : Datagram)
  | lose (direction : Direction) (index : Nat)
  | again (direction : Direction) (index : Nat)

/-- The mixnet repeats a message. -/
def MixMove.repeats {Tag : Type} : MixMove Tag -> Bool
  | .again _ _ => true
  | _ => false

namespace MixNetwork

variable {Tag : Type} [DecidableEq Tag]

def start (oracles : Tag -> OracleParams) (queueDepths : Tag -> Nat) : MixNetwork Tag where
  clients := fun tag => ClientBridge.spawnClientBridge (oracles tag) (queueDepths tag)
  gateway := NymGateway.start
  messages := []
  replies := []
  strays := []

/-- A client moves, but for a message that the mixnet gives to it. -/
def clientMoves (network : MixNetwork Tag) (tag : Tag) (move : BridgeMove) :
    Option (MixNetwork Tag) :=
  match (network.clients tag).step move with
  | none => none
  | some bridge =>
      some { network with
        clients := Function.update network.clients tag bridge
        messages := network.messages ++
          ((network.clients tag).messages bridge).map (fun datagram => (tag, datagram)) }

/-- The gateway moves, but for a message that the mixnet gives to it. -/
def gatewayMoves (queueDepth : Nat) (network : MixNetwork Tag) (move : GatewayMove Tag) :
    Option (MixNetwork Tag) :=
  match network.gateway.step queueDepth move with
  | none => none
  | some gateway =>
      some { network with
        gateway := gateway
        replies := network.replies ++ gateway.shipped.drop network.gateway.shipped.length }

/-- A client's `try_recv` answers with a message. -/
def receive (clients : Tag -> ClientBridge) (tag : Tag) (datagram : Datagram) :
    Option (Tag -> ClientBridge) :=
  match (clients tag).step (.leg (.innerReceived (.ok datagram))) with
  | none => none
  | some bridge => some (Function.update clients tag bridge)

def step (queueDepth : Nat) (network : MixNetwork Tag) :
    MixMove Tag -> Option (MixNetwork Tag)
  | .client tag move =>
      match move with
      | .leg (.innerReceived (.ok _)) => none
      | move => network.clientMoves tag move
  | .gateway move =>
      if move.tagged = none ∧ network.gateway.Fresh move then
        network.gatewayMoves queueDepth move
      else none
  | .message index =>
      match network.messages[index]? with
      | none => none
      | some (tag, datagram) =>
          match network.gateway.step queueDepth (.next (some ⟨datagram, some tag⟩)) with
          | none => none
          | some gateway =>
              some { network with
                gateway := gateway
                messages := network.messages.eraseIdx index }
  | .reply index =>
      match network.replies[index]? with
      | none => none
      | some (tag, datagram) =>
          (receive network.clients tag datagram).map (fun clients =>
            { network with clients := clients, replies := network.replies.eraseIdx index })
  | .stray tag datagram =>
      (receive network.clients tag datagram).map (fun clients =>
        { network with clients := clients, strays := network.strays ++ [(tag, datagram)] })
  | .lose .up index => some { network with messages := network.messages.eraseIdx index }
  | .lose .down index => some { network with replies := network.replies.eraseIdx index }
  | .again .up index =>
      some { network with messages := network.messages ++ network.messages[index]?.toList }
  | .again .down index =>
      some { network with replies := network.replies ++ network.replies[index]?.toList }

/-! ## What is under way -/

/-- What has reached the gateway or is under way was sent by the client of its tag;
what has reached a client or is under way was shipped under its tag, or is what
others have sent. -/
structure Linked (repeats : Bool) (depth : Nat) (network : MixNetwork Tag) : Prop where
  bridged : forall tag, exists depth, (network.clients tag).Bridged depth
  attended : network.gateway.Attended depth
  upward : forall tag, Drawn repeats
    (labelled network.gateway.taken tag ++ labelled network.messages tag)
    ((network.clients tag).front.boundary.starts.map Prod.snd)
  downward : forall tag, Drawn repeats
    (oks (network.clients tag).front.boundary.yielded ++ labelled network.replies tag)
    (labelled network.gateway.shipped tag ++ labelled network.strays tag)

theorem linked_start (repeats : Bool) (queueDepth : Nat) (oracles : Tag -> OracleParams)
    (queueDepths : Tag -> Nat) : Linked repeats (max queueDepth 1) (start oracles queueDepths) where
  bridged := fun tag => ⟨_, ClientBridge.bridged_start (oracles tag) (queueDepths tag)⟩
  attended := NymGateway.attended_start _
  upward := fun _ => .of_sublist _ (List.Sublist.refl _)
  downward := fun _ => .of_sublist _ (List.Sublist.refl _)

theorem records_of_moved {queueDepth : Nat} {gateway next : NymGateway Tag}
    {move : GatewayMove Tag} (moved : NymGateway.Moved queueDepth gateway move next) :
    next.taken = gateway.taken ++ move.tagged.toList ∧
      exists later, next.shipped = gateway.shipped ++ later := by
  cases moved with
  | took tag message waits => exact ⟨rfl, [], (List.append_nil _).symm⟩
  | replied index move task after socket left located placed stepped =>
      exact ⟨(List.append_nil _).symm, _, rfl⟩
  | _ => exact ⟨(List.append_nil _).symm, [], (List.append_nil _).symm⟩

variable {repeats : Bool} {depth queueDepth : Nat} {network next : MixNetwork Tag}

/-- A client begins to send. -/
theorem Linked.clientMoves (linked : Linked repeats depth network) {tag : Tag}
    {move : BridgeMove} (silent : oks move.answer.toList = [])
    (moved : network.clientMoves tag move = some next) : Linked repeats depth next := by
  unfold MixNetwork.clientMoves at moved
  split at moved
  · cases moved
  · rename_i bridge stepped
    cases moved
    refine ⟨?_, linked.attended, ?_, ?_⟩
    · intro other
      by_cases same : other = tag
      · subst same
        rcases linked.bridged other with ⟨depth, bridged⟩
        exact ⟨depth, by simpa only [Function.update_self] using bridged.step stepped⟩
      · simpa only [Function.update_of_ne same] using linked.bridged other
    · intro other
      by_cases same : other = tag
      · subst same
        simp only [Function.update_self, labelled_append, labelled_self,
          ClientBridge.starts_of_step stepped]
        rw [← List.append_assoc]
        exact (linked.upward other).given _
      · simp only [Function.update_of_ne same, labelled_append,
          labelled_other _ (Ne.symm same), List.append_nil]
        exact linked.upward other
    · intro other
      by_cases same : other = tag
      · subst same
        simp only [Function.update_self, (ClientBridge.grown_of_step stepped).yielded, oks_append,
          silent, List.append_nil]
        exact linked.downward other
      · simp only [Function.update_of_ne same]
        exact linked.downward other

/-- The gateway ships replies. -/
theorem Linked.gatewayMoves (linked : Linked repeats (max queueDepth 1) network)
    {move : GatewayMove Tag} (untagged : move.tagged = none)
    (fresh : network.gateway.Fresh move)
    (moved : network.gatewayMoves queueDepth move = some next) :
    Linked repeats (max queueDepth 1) next := by
  unfold MixNetwork.gatewayMoves at moved
  split at moved
  · cases moved
  · rename_i gateway stepped
    cases moved
    have outcome := NymGateway.moved_of_step stepped
    rcases records_of_moved outcome with ⟨taken, later, shipped⟩
    rw [untagged, Option.toList_none, List.append_nil] at taken
    refine ⟨linked.bridged, linked.attended.moved outcome fresh, ?_, ?_⟩
    · intro tag
      simp only [taken]
      exact linked.upward tag
    · intro tag
      simp only [shipped, List.drop_left, labelled_append]
      refine ((linked.downward tag).given (labelled later tag)).congr ?_ ?_
      · rw [List.append_assoc]
      · rw [List.append_assoc, List.append_assoc]
        exact List.Perm.append_left _ List.perm_append_comm

/-- A message that was under way reaches the gateway. -/
theorem Linked.message (linked : Linked repeats (max queueDepth 1) network) {index : Nat}
    {tag : Tag} {datagram : Datagram} {gateway : NymGateway Tag}
    (located : network.messages[index]? = some (tag, datagram))
    (moved : network.gateway.step queueDepth (.next (some ⟨datagram, some tag⟩)) = some gateway) :
    Linked repeats (max queueDepth 1) { network with
      gateway := gateway
      messages := network.messages.eraseIdx index } := by
  have outcome := NymGateway.moved_of_step moved
  refine ⟨linked.bridged, linked.attended.moved outcome trivial, ?_, ?_⟩
  · intro other
    have taken : gateway.taken = network.gateway.taken ++ [(tag, datagram)] :=
      (records_of_moved outcome).1
    simp only [taken, labelled_append]
    refine (linked.upward other).congr ?_ (List.Perm.refl _)
    rw [List.append_assoc]
    apply List.Perm.append_left
    exact List.perm_append_comm.trans (labelled_eraseIdx located other)
  · intro other
    have shipped : gateway.shipped = network.gateway.shipped := by
      cases outcome with
      | took tag message waits => rfl
    simp only [shipped]
    exact linked.downward other

theorem starts_of_innerReceived {traffic next : Traffic} {result : RecvResult}
    (moved : Traffic.Moved traffic (.innerReceived result) next) :
    next.starts = traffic.starts := by
  cases moved with
  | fetched result pump => rfl

/-- A message is given to a client that was under way to it, or that others have sent. -/
theorem Linked.receive (linked : Linked repeats depth network) {tag : Tag} {datagram : Datagram}
    {replies strays : List (Tag × Datagram)} {clients : Tag -> ClientBridge}
    (given : forall other, Drawn repeats
      (oks (network.clients other).front.boundary.yielded ++ labelled [(tag, datagram)] other ++
        labelled replies other)
      (labelled network.gateway.shipped other ++ labelled strays other))
    (moved : receive network.clients tag datagram = some clients) :
    Linked repeats depth
      { network with clients := clients, replies := replies, strays := strays } := by
  unfold MixNetwork.receive at moved
  split at moved
  · cases moved
  · rename_i bridge stepped
    cases moved
    have same : bridge.front.boundary.starts.map Prod.snd =
        (network.clients tag).front.boundary.starts.map Prod.snd := by
      rcases Option.map_eq_some_iff.mp stepped with ⟨front, received, rfl⟩
      rcases (Leg.parts_of_step received).2 with ⟨inner, _⟩ | ⟨action, inner, outcome⟩
      · cases inner
      · cases inner
        rw [starts_of_innerReceived outcome]
    refine ⟨?_, linked.attended, ?_, ?_⟩
    · intro other
      by_cases here : other = tag
      · subst here
        rcases linked.bridged other with ⟨depth, bridged⟩
        exact ⟨depth, by simpa only [Function.update_self] using bridged.step stepped⟩
      · simpa only [Function.update_of_ne here] using linked.bridged other
    · intro other
      by_cases here : other = tag
      · subst here
        simpa only [Function.update_self, same] using linked.upward other
      · simpa only [Function.update_of_ne here] using linked.upward other
    · intro other
      have known := given other
      by_cases here : other = tag
      · subst here
        have single : labelled [(other, datagram)] other = [datagram] :=
          labelled_self other [datagram]
        rw [single] at known
        simp only [Function.update_self, (ClientBridge.grown_of_step stepped).yielded, oks_append]
        exact known
      · have none_ : labelled [(tag, datagram)] other = [] :=
          labelled_other [datagram] (Ne.symm here)
        rw [none_, List.append_nil] at known
        simp only [Function.update_of_ne here]
        exact known

/-- Some of what is under way is lost, or there is more of it by repetition. -/
theorem Linked.lose (linked : Linked repeats depth network)
    {messages replies : List (Tag × Datagram)}
    (upward : forall tag, Drawn repeats (labelled messages tag) (labelled network.messages tag))
    (downward : forall tag, Drawn repeats (labelled replies tag) (labelled network.replies tag)) :
    Linked repeats depth { network with messages := messages, replies := replies } where
  bridged := linked.bridged
  attended := linked.attended
  upward := fun tag => ((upward tag).behind _).trans (linked.upward tag)
  downward := fun tag => ((downward tag).behind _).trans (linked.downward tag)

theorem drawn_again (allowed : repeats = true) (record : List (Tag × Datagram)) (index : Nat)
    (tag : Tag) :
    Drawn repeats (labelled (record ++ record[index]?.toList) tag) (labelled record tag) := by
  cases located : record[index]? with
  | none =>
      rw [Option.toList_none, List.append_nil]
      exact .of_sublist repeats (List.Sublist.refl _)
  | some entry =>
      refine ⟨?_, fun once => absurd (allowed.symm.trans once) (by decide)⟩
      intro datagram member
      rw [mem_labelled] at member ⊢
      rcases List.mem_append.mp member with old | new
      · exact old
      · rw [Option.toList_some, List.mem_singleton] at new
        rw [new]
        exact List.mem_of_getElem? located

theorem drawn_lost (repeats : Bool) (record : List (Tag × Datagram)) (index : Nat) (tag : Tag) :
    Drawn repeats (labelled (record.eraseIdx index) tag) (labelled record tag) :=
  .of_sublist repeats (labelled_eraseIdx_sublist record index tag)

theorem Linked.step (linked : Linked repeats (max queueDepth 1) network) {move : MixMove Tag}
    (once : repeats = false -> move.repeats = false)
    (moved : network.step queueDepth move = some next) :
    Linked repeats (max queueDepth 1) next := by
  have same : forall record : List (Tag × Datagram), forall tag,
      Drawn repeats (labelled record tag) (labelled record tag) :=
    fun _ _ => .of_sublist repeats (List.Sublist.refl _)
  cases move with
  | client tag move =>
      simp only [MixNetwork.step] at moved
      split at moved
      · cases moved
      · rename_i own
        refine linked.clientMoves ?_ moved
        cases move with
        | leg move =>
            cases move with
            | innerReceived result =>
                cases result with
                | ok datagram => exact absurd rfl (own datagram)
                | error error => rfl
            | _ => rfl
        | _ => rfl
  | gateway move =>
      rcases Option.ite_none_right_eq_some.mp moved with ⟨⟨untagged, fresh⟩, stepped⟩
      exact linked.gatewayMoves untagged fresh stepped
  | message index =>
      simp only [MixNetwork.step] at moved
      split at moved
      · cases moved
      · rename_i tag datagram located
        split at moved
        · cases moved
        · rename_i gateway stepped
          cases moved
          exact linked.message located stepped
  | reply index =>
      simp only [MixNetwork.step] at moved
      split at moved
      · cases moved
      · rename_i tag datagram located
        rcases Option.map_eq_some_iff.mp moved with ⟨clients, received, rfl⟩
        refine linked.receive ?_ received
        intro other
        refine (linked.downward other).congr ?_ (List.Perm.refl _)
        rw [List.append_assoc]
        apply List.Perm.append_left
        exact List.perm_append_comm.trans (labelled_eraseIdx located other)
  | stray tag datagram =>
      rcases Option.map_eq_some_iff.mp moved with ⟨clients, received, rfl⟩
      refine linked.receive ?_ received
      intro other
      refine ((linked.downward other).given (labelled [(tag, datagram)] other)).congr ?_ ?_
      · rw [List.append_assoc, List.append_assoc]
        exact List.Perm.append_left _ List.perm_append_comm
      · rw [labelled_append, List.append_assoc]
  | lose direction index =>
      cases direction with
      | up =>
          cases moved
          exact linked.lose (drawn_lost repeats network.messages index) (same _)
      | down =>
          cases moved
          exact linked.lose (same _) (drawn_lost repeats network.replies index)
  | again direction index =>
      have allowed : repeats = true := by
        cases repeats with
        | true => rfl
        | false => cases once rfl
      cases direction with
      | up =>
          cases moved
          exact linked.lose (drawn_again allowed network.messages index) (same _)
      | down =>
          cases moved
          exact linked.lose (same _) (drawn_again allowed network.replies index)

/-! ## What comes through -/

/-- What the client with a tag and the server exchange.  Nothing but what arrived at
the front of the client is sent from its socket at the gateway; nothing is sent to
the client but what that socket received and what others have sent to the client. -/
structure Exchanges (repeats : Bool) (network : MixNetwork Tag) (tag : Tag) : Prop where
  forwarded : forall index, (tag, index) ∈ network.gateway.owners ->
    exists socket, network.gateway.sockets[index]? = some socket ∧
      Drawn repeats socket.sent ((network.clients tag).arrived.map Prod.snd)
  returned :
    Drawn repeats ((network.clients tag).replies.map Prod.snd) (labelled network.strays tag) ∨
    exists index socket, (tag, index) ∈ network.gateway.owners ∧
      network.gateway.sockets[index]? = some socket ∧
      Drawn repeats ((network.clients tag).replies.map Prod.snd)
        (socket.received ++ labelled network.strays tag)
  /-- Replies go to addresses from which something arrived. -/
  addressed : forall reply, reply ∈ (network.clients tag).replies ->
    reply.1 ∈ (network.clients tag).arrived.map Prod.fst

theorem Linked.exchanges (linked : Linked repeats depth network) (tag : Tag) :
    Exchanges repeats network tag := by
  rcases linked.bridged tag with ⟨clientDepth, bridged⟩
  have replied : Drawn repeats ((network.clients tag).replies.map Prod.snd)
      (labelled network.gateway.shipped tag ++ labelled network.strays tag) :=
    ((Drawn.of_sublist repeats bridged.replies_sublist).trans
      (.of_sublist repeats (List.sublist_append_left _ _))).trans (linked.downward tag)
  refine ⟨?_, ?_, bridged.addressed.replies⟩
  · intro index owner
    rcases linked.attended.sent owner with ⟨socket, located, sent⟩
    refine ⟨socket, located, ?_⟩
    have taken : Drawn repeats (labelled network.gateway.taken tag)
        ((network.clients tag).front.boundary.starts.map Prod.snd) :=
      (Drawn.of_sublist repeats (List.sublist_append_left _ _)).trans (linked.upward tag)
    exact ((Drawn.of_sublist repeats sent).trans taken).trans
      (.of_sublist repeats bridged.starts_prefix_of.sublist)
  · rcases linked.attended.shipped tag with unshipped | ⟨index, socket, owner, located, begins⟩
    · rw [unshipped, List.nil_append] at replied
      exact .inl replied
    · refine .inr ⟨index, socket, owner, located, replied.trans ?_⟩
      exact .of_sublist repeats (begins.sublist.append_right _)

/-- In every run, whatever the clients, the gateway, the server and the mixnet do and
in whatever order: no two clients share a socket of the gateway, and none has two;
and each client exchanges datagrams with the server through its own socket only.
As long as the mixnet repeats nothing, no datagram comes through more often than it
was sent. -/
theorem clients_exchange (repeats : Bool) (queueDepth : Nat) (oracles : Tag -> OracleParams)
    (queueDepths : Tag -> Nat) (schedule : List (MixMove Tag)) (network : MixNetwork Tag)
    (once : repeats = false -> forall move, move ∈ schedule -> move.repeats = false)
    (ran : run (step queueDepth) (start oracles queueDepths) schedule = some network) :
    (network.gateway.owners.map Prod.fst).Nodup ∧ (network.gateway.owners.map Prod.snd).Nodup ∧
      (network.gateway.sockets.map UdpSocket.localAddr).Nodup ∧
      forall tag, Exchanges repeats network tag := by
  have linked : Linked repeats (max queueDepth 1) network := by
    refine invariant_of_schedule (Linked repeats (max queueDepth 1)) ?_
      (linked_start repeats queueDepth oracles queueDepths) ran
    intro state move next member linked stepped
    exact linked.step (fun single => once single move member) stepped
  rcases linked.attended.distinct with ⟨tags, sockets, addresses⟩
  exact ⟨tags, sockets, addresses, linked.exchanges⟩

/-- How the front of a client takes a datagram and the pump begins to send it. -/
def outgoing (tag : Tag) (sender : Address) (datagram : Datagram) : List (MixMove Tag) :=
  [.client tag (.leg (.arrive sender datagram)), .client tag .recv, .client tag (.leg .reserve),
    .client tag (.leg .commit), .client tag (.leg .sendPump), .client tag (.leg .sendPump),
    .client tag (.leg .sendPump)]

/-- Two clients, the second of which overtakes the first; the replies cross again. -/
def crossingSchedule : List (MixMove Nat) :=
  outgoing 7 100 [1] ++ outgoing 8 200 [2] ++
    [.message 1, .gateway .lookup, .gateway (.bind (some 5001)), .gateway (.connect true),
      .gateway (.send true), .message 0, .gateway .lookup, .gateway (.bind (some 5002)),
      .gateway (.connect true), .gateway (.send true), .gateway (.udpIn 5001 [20]),
      .gateway (.udpIn 5002 [10]), .gateway (.reply 0 .recv), .gateway (.reply 0 .reserve),
      .gateway (.reply 0 .commit), .gateway (.reply 0 .sendPump), .gateway (.reply 0 .sendPump),
      .gateway (.reply 0 .sendPump), .gateway (.reply 1 .recv), .gateway (.reply 1 .reserve),
      .gateway (.reply 1 .commit), .gateway (.reply 1 .sendPump), .gateway (.reply 1 .sendPump),
      .gateway (.reply 1 .sendPump), .reply 1, .client 7 (.leg .recvPump),
      .client 7 (.leg .recvPump), .client 7 (.leg .lock), .client 7 (.leg .take),
      .client 7 .reply]

theorem clients_exchange_crossing :
    exists network : MixNetwork Nat,
      run (step 17) (start (fun _ => nymOracle) (fun _ => 17)) crossingSchedule = some network ∧
        (forall tag, Exchanges false network tag) ∧ (network.clients 7).replies = [(100, [10])] ∧
        network.replies = [(8, [20])] ∧
        network.gateway.sockets.map UdpSocket.sent = [[[2]], [[1]]] := by
  have once : forall move, move ∈ crossingSchedule -> move.repeats = false := by decide
  refine ⟨_, rfl, ?_, rfl, rfl, rfl⟩
  exact (clients_exchange false 17 (fun _ => nymOracle) (fun _ => 17) crossingSchedule _
    (fun _ => once) rfl).2.2.2

end MixNetwork
end Nym
end QuicMix
