import QuicMix.Nym.ReplyLeg
import Mathlib.Data.List.Dedup

namespace QuicMix
namespace Nym

open Foundations Boundary

/-!
# Isolation of the clients of a Nym gateway

The invariant is about the table of tags, sockets and reply tasks.  Sockets are
bound for one tag each, a reply task reads the socket of the tag under which it
ships, and what a socket has sent, together with the message in hand, is what
the mix delivered under its tag.  It has three parts, each kept by every move:
the table itself, the messages that are forwarded, and the replies that are
shipped.
-/

variable {Tag : Type}

/-! ## The outcomes of a move -/

namespace NymGateway

section Outcomes

variable [DecidableEq Tag] {queueDepth : Nat} {gateway next : NymGateway Tag}

/-- The outcomes of a move of the gateway, each with the guard under which it
happens. -/
inductive Moved (queueDepth : Nat) (gateway : NymGateway Tag) :
    GatewayMove Tag -> NymGateway Tag -> Prop where
  | ended (waits : gateway.loop = .waiting) :
      Moved queueDepth gateway (.next none) { gateway with loop := .returned }
  | ignored (message : Datagram) (waits : gateway.loop = .waiting) :
      Moved queueDepth gateway (.next (some ⟨message, none⟩)) gateway
  | took (tag : Tag) (message : Datagram) (waits : gateway.loop = .waiting) :
      Moved queueDepth gateway (.next (some ⟨message, some tag⟩))
        { gateway with
          loop := .looking tag message
          taken := gateway.taken ++ [(tag, message)] }
  | found (tag : Tag) (message : Datagram) (socket : Nat)
      (looks : gateway.loop = .looking tag message)
      (listed : (tag, socket) ∈ gateway.socks.entries) :
      Moved queueDepth gateway .lookup { gateway with loop := .sending tag socket message }
  | missed (tag : Tag) (message : Datagram) (looks : gateway.loop = .looking tag message)
      (unlisted : tag ∉ gateway.socks.entries.map Prod.fst) :
      Moved queueDepth gateway .lookup { gateway with loop := .binding tag message }
  | bound (tag : Tag) (message : Datagram) (address : Address)
      (binds : gateway.loop = .binding tag message) :
      Moved queueDepth gateway (.bind (some address))
        { gateway with
          loop := .connecting tag gateway.sockets.length message
          sockets := gateway.sockets ++ [UdpSocket.bind address] }
  | unbound (tag : Tag) (message : Datagram) (binds : gateway.loop = .binding tag message) :
      Moved queueDepth gateway (.bind none) { gateway with loop := .returned }
  | connected (tag : Tag) (socket : Nat) (message : Datagram)
      (connects : gateway.loop = .connecting tag socket message) :
      Moved queueDepth gateway (.connect true) (gateway.enroll queueDepth tag socket message)
  | unconnected (tag : Tag) (socket : Nat) (message : Datagram)
      (connects : gateway.loop = .connecting tag socket message) :
      Moved queueDepth gateway (.connect false) { gateway with loop := .returned }
  | sent (tag : Tag) (socket : Nat) (message : Datagram)
      (sends : gateway.loop = .sending tag socket message) :
      Moved queueDepth gateway (.send true)
        { gateway with
          loop := .waiting
          sockets := gateway.sockets.modify socket (UdpSocket.send message) }
  | unsent (tag : Tag) (socket : Nat) (message : Datagram)
      (sends : gateway.loop = .sending tag socket message) :
      Moved queueDepth gateway (.send false) { gateway with loop := .waiting }
  | arrived (address : Address) (datagram : Datagram) :
      Moved queueDepth gateway (.udpIn address datagram)
        { gateway with sockets := gateway.sockets.map (UdpSocket.arrive address datagram) }
  | replied (index : Nat) (move : ReplyMove) (task after : ReplyTask Tag)
      (socket left : UdpSocket) (located : gateway.replies[index]? = some task)
      (placed : gateway.sockets[task.reader]? = some socket)
      (stepped : ReplyTask.Stepped task socket move after left) :
      Moved queueDepth gateway (.reply index move)
        { gateway with
          sockets := gateway.sockets.set task.reader left
          replies := gateway.replies.set index after
          shipped := gateway.shipped ++ task.shipments after }

theorem moved_of_reply {index : Nat} {move : ReplyMove}
    (moved : gateway.reply index move = some next) :
    Moved queueDepth gateway (.reply index move) next := by
  unfold reply at moved
  cases located : gateway.replies[index]? with
  | none => simp only [located, reduceCtorEq] at moved
  | some task =>
      cases placed : gateway.sockets[task.reader]? with
      | none => simp only [located, placed, reduceCtorEq] at moved
      | some socket =>
          cases stepped : task.step socket move with
          | none => simp only [located, placed, stepped, reduceCtorEq] at moved
          | some result =>
              rcases result with ⟨after, left⟩
              simp only [located, placed, stepped, Option.some.injEq] at moved
              subst moved
              exact .replied index move task after socket left located placed
                (ReplyTask.stepped_of_step stepped)

theorem moved_of_step {move : GatewayMove Tag} (moved : gateway.step queueDepth move = some next) :
    Moved queueDepth gateway move next := by
  cases move with
  | next message =>
      cases loop : gateway.loop <;> simp only [step, loop, reduceCtorEq] at moved
      rcases message with _ | ⟨message, _ | tag⟩
      · cases moved
        exact .ended loop
      · cases moved
        exact .ignored message loop
      · cases moved
        exact .took tag message loop
  | lookup =>
      cases loop : gateway.loop <;> simp only [step, loop, reduceCtorEq] at moved
      next tag message =>
        cases found : gateway.socks.get tag with
        | none =>
            simp only [found, Option.some.injEq] at moved
            subst moved
            exact .missed tag message loop (Table.get_eq_none.mp found)
        | some entry =>
            simp only [found, Option.some.injEq] at moved
            subst moved
            rcases Table.mem_of_get found with ⟨member, rfl⟩
            exact .found entry.1 message entry.2 loop member
  | bind answer =>
      cases loop : gateway.loop <;> simp only [step, loop, reduceCtorEq] at moved
      next tag message =>
        cases answer with
        | none =>
            cases moved
            exact .unbound tag message loop
        | some address =>
            cases moved
            exact .bound tag message address loop
  | connect succeeded =>
      cases loop : gateway.loop <;> simp only [step, loop, reduceCtorEq] at moved
      next tag socket message =>
        cases succeeded with
        | false =>
            cases moved
            exact .unconnected tag socket message loop
        | true =>
            cases moved
            exact .connected tag socket message loop
  | send succeeded =>
      cases loop : gateway.loop <;> simp only [step, loop, reduceCtorEq] at moved
      next tag socket message =>
        cases succeeded with
        | false =>
            cases moved
            exact .unsent tag socket message loop
        | true =>
            cases moved
            exact .sent tag socket message loop
  | udpIn address datagram =>
      cases moved
      exact .arrived address datagram
  | reply index move => exact moved_of_reply moved

end Outcomes

/-! ## The table of tags, sockets and reply tasks -/

variable {queueDepth : Nat} {gateway next : NymGateway Tag}

/-- The local system plays along: a bound socket has an address of its own, and
binding, connecting and sending succeed. -/
def Granted (gateway : NymGateway Tag) : GatewayMove Tag -> Prop
  | .bind (some address) => address ∉ gateway.sockets.map UdpSocket.localAddr
  | .bind none => False
  | .connect succeeded => succeeded = true
  | .send succeeded => succeeded = true
  | _ => True

instance (gateway : NymGateway Tag) (move : GatewayMove Tag) : Decidable (gateway.Granted move) :=
  match move with
  | .bind (some address) =>
      inferInstanceAs (Decidable (address ∉ gateway.sockets.map UdpSocket.localAddr))
  | .bind none => .isFalse id
  | .connect succeeded => inferInstanceAs (Decidable (succeeded = true))
  | .send succeeded => inferInstanceAs (Decidable (succeeded = true))
  | .next _ => .isTrue trivial
  | .lookup => .isTrue trivial
  | .udpIn _ _ => .isTrue trivial
  | .reply _ _ => .isTrue trivial

/-- What the loop knows about the table where it stands. -/
def Placed (gateway : NymGateway Tag) : Prop :=
  match gateway.loop with
  | .binding tag _ => tag ∉ gateway.socks.entries.map Prod.fst
  | .sending tag socket _ => (tag, socket) ∈ gateway.socks.entries
  | _ => True

/-- Sockets and tags go together one to one, and each reply task ships under
the tag of the socket that it reads. -/
structure Wired (gateway : NymGateway Tag) : Prop where
  wires : gateway.socks.entries = gateway.replies.map ReplyTask.wire
  owned : gateway.owners.map Prod.snd = List.range gateway.sockets.length
  distinct : (gateway.owners.map Prod.fst).Nodup
  addresses : (gateway.sockets.map UdpSocket.localAddr).Nodup
  placed : gateway.Placed

theorem wired_start : Wired (start : NymGateway Tag) where
  wires := rfl
  owned := rfl
  distinct := List.nodup_nil
  addresses := List.nodup_nil
  placed := trivial

theorem arrive_localAddr (address : Address) (datagram : Datagram) :
    UdpSocket.localAddr ∘ UdpSocket.arrive address datagram = UdpSocket.localAddr := by
  funext socket
  simp only [Function.comp_apply, UdpSocket.arrive]
  split <;> rfl

theorem arrive_sent (address : Address) (datagram : Datagram) :
    UdpSocket.sent ∘ UdpSocket.arrive address datagram = UdpSocket.sent := by
  funext socket
  simp only [Function.comp_apply, UdpSocket.arrive]
  split <;> rfl

/-- Where the owners, the table and the tasks stay the same. -/
theorem Wired.kept (wired : gateway.Wired) (socks : next.socks = gateway.socks)
    (unlisted : next.loop.unlisted = gateway.loop.unlisted)
    (wires : next.replies.map ReplyTask.wire = gateway.replies.map ReplyTask.wire)
    (addresses : next.sockets.map UdpSocket.localAddr =
      gateway.sockets.map UdpSocket.localAddr) (placed : next.Placed) : next.Wired where
  wires := by
    rw [socks, wires]
    exact wired.wires
  owned := by
    have length := congrArg List.length addresses
    rw [List.length_map, List.length_map] at length
    rw [owners, socks, unlisted, length]
    exact wired.owned
  distinct := by
    rw [owners, socks, unlisted]
    exact wired.distinct
  addresses := by
    rw [addresses]
    exact wired.addresses
  placed := placed

theorem Wired.absent (wired : gateway.Wired) {tag : Tag} {socket : Nat}
    {message : Datagram} (connects : gateway.loop = .connecting tag socket message) :
    tag ∉ gateway.socks.entries.map Prod.fst := by
  have distinct := wired.distinct
  simp only [owners, connects, Loop.unlisted, List.map_append, List.map_cons, List.map_nil]
    at distinct
  intro listed
  exact (List.nodup_append.mp distinct).2.2 tag listed tag List.mem_cons_self rfl

theorem Wired.sockets_distinct (wired : gateway.Wired) : (gateway.owners.map Prod.snd).Nodup := by
  rw [wired.owned]
  exact List.nodup_range

/-- A socket belongs to one tag. -/
theorem Wired.owner_unique (wired : gateway.Wired) {first second : Tag} {index : Nat}
    (left : (first, index) ∈ gateway.owners) (right : (second, index) ∈ gateway.owners) :
    first = second := by
  have same := List.inj_on_of_nodup_map wired.sockets_distinct left right rfl
  exact congrArg Prod.fst same

/-- A tag has one socket. -/
theorem Wired.socket_unique (wired : gateway.Wired) {tag : Tag} {first second : Nat}
    (left : (tag, first) ∈ gateway.owners) (right : (tag, second) ∈ gateway.owners) :
    first = second := by
  have same := List.inj_on_of_nodup_map wired.distinct left right rfl
  exact congrArg Prod.snd same

theorem Wired.wired_task (wired : gateway.Wired) {task : ReplyTask Tag}
    (member : task ∈ gateway.replies) : task.wire ∈ gateway.socks.entries := by
  rw [wired.wires]
  exact List.mem_map_of_mem member

theorem Wired.tags_distinct (wired : gateway.Wired) :
    (gateway.replies.map (fun task => task.transport.tag)).Nodup := by
  have distinct := gateway.socks.distinct
  rw [wired.wires, List.map_map] at distinct
  exact distinct

theorem Wired.readers_distinct (wired : gateway.Wired) :
    (gateway.replies.map ReplyTask.reader).Nodup := by
  have distinct := wired.sockets_distinct
  rw [owners, List.map_append] at distinct
  have listed := (List.nodup_append.mp distinct).1
  rw [wired.wires, List.map_map] at listed
  exact listed

theorem owners_eq (listed : gateway.loop.unlisted = []) :
    gateway.owners = gateway.socks.entries := by
  rw [owners, listed, List.append_nil]

theorem owners_prefix_of_listed (listed : gateway.loop.unlisted = [])
    (socks : next.socks = gateway.socks) : gateway.owners <+: next.owners := by
  rw [owners_eq listed, owners, socks]
  exact List.prefix_append _ _

variable [DecidableEq Tag]

/-- A tag enters the table at the end. -/
theorem Wired.enrolled (wired : gateway.Wired) {tag : Tag} {socket : Nat} {message : Datagram}
    (connects : gateway.loop = .connecting tag socket message) :
    (gateway.socks.insert (tag, socket)).entries = gateway.socks.entries ++ [(tag, socket)] :=
  Table.insert_of_absent (wired.absent connects)

theorem Wired.enroll_owners (wired : gateway.Wired) (queueDepth : Nat) {tag : Tag} {socket : Nat}
    {message : Datagram} (connects : gateway.loop = .connecting tag socket message) :
    (gateway.enroll queueDepth tag socket message).owners = gateway.owners := by
  rw [owners, owners, enroll, wired.enrolled connects, connects]
  exact List.append_nil _

theorem Wired.step (wired : gateway.Wired) {move : GatewayMove Tag} (granted : gateway.Granted move)
    (moved : Moved queueDepth gateway move next) : next.Wired := by
  have placed := wired.placed
  unfold Placed at placed
  cases moved with
  | ended waits => exact wired.kept rfl (by rw [waits]; rfl) rfl rfl trivial
  | ignored message waits => exact wired
  | took tag message waits => exact wired.kept rfl (by rw [waits]; rfl) rfl rfl trivial
  | found tag message socket looks listed =>
      exact wired.kept rfl (by rw [looks]; rfl) rfl rfl listed
  | missed tag message looks unlisted =>
      exact wired.kept rfl (by rw [looks]; rfl) rfl rfl unlisted
  | bound tag message address binds =>
      rw [binds] at placed
      have before : gateway.owners = gateway.socks.entries := by
        rw [owners, binds]
        exact List.append_nil _
      have owned := wired.owned
      have distinct := wired.distinct
      rw [before] at owned distinct
      refine ⟨wired.wires, ?_, ?_, ?_, trivial⟩
      · change (gateway.socks.entries ++ [(tag, gateway.sockets.length)]).map Prod.snd = _
        rw [List.map_append, owned, List.length_append, List.length_singleton, List.range_succ]
        rfl
      · change ((gateway.socks.entries ++ [(tag, gateway.sockets.length)]).map Prod.fst).Nodup
        rw [List.map_append]
        exact distinct.append (List.nodup_singleton tag) (List.disjoint_singleton.mpr placed)
      · rw [List.map_append]
        exact wired.addresses.append (List.nodup_singleton _) (List.disjoint_singleton.mpr granted)
  | unbound tag message binds => cases granted
  | connected tag socket message connects =>
      have entries := wired.enrolled connects
      have same := wired.enroll_owners queueDepth connects
      refine ⟨?_, ?_, ?_, wired.addresses, ?_⟩
      · rw [enroll, entries, wired.wires, List.map_append]
        rfl
      · rw [same]
        exact wired.owned
      · rw [same]
        exact wired.distinct
      · change (tag, socket) ∈ (gateway.socks.insert (tag, socket)).entries
        rw [entries]
        exact List.mem_append_right _ List.mem_cons_self
  | unconnected tag socket message connects => cases granted
  | sent tag socket message sends =>
      refine wired.kept rfl (by rw [sends]; rfl) rfl ?_ trivial
      exact map_modify_of_eq UdpSocket.localAddr socket (fun _ => rfl)
  | unsent tag socket message sends => cases granted
  | arrived address datagram =>
      refine wired.kept rfl rfl rfl ?_ placed
      rw [List.map_map, arrive_localAddr]
  | replied index move task after socket left located reads stepped =>
      have frame := stepped.frame
      exact wired.kept rfl rfl (map_set_of_eq ReplyTask.wire located frame.1)
        (map_set_of_eq UdpSocket.localAddr reads frame.2.1) placed

/-! ## What is forwarded -/

/-- A socket has sent what arrived under its tag, except the message in hand. -/
structure Forwarding (gateway : NymGateway Tag) : Prop where
  carried : forall tag index, (tag, index) ∈ gateway.owners ->
    exists socket, gateway.sockets[index]? = some socket ∧
      labelled gateway.taken tag = socket.sent ++ labelled gateway.loop.inHand tag
  uncarried : forall tag, tag ∉ gateway.owners.map Prod.fst ->
    labelled gateway.taken tag = labelled gateway.loop.inHand tag
  claimed : forall tag, tag ∈ gateway.owners.map Prod.fst -> tag ∈ gateway.taken.map Prod.fst

theorem forwarding_start : Forwarding (start : NymGateway Tag) where
  carried := by
    intro tag index owner
    cases owner
  uncarried := by
    intro tag _
    rfl
  claimed := by
    intro tag owner
    cases owner

/-- Where the owners, the messages and what the sockets sent stay the same. -/
theorem Forwarding.kept (forwarding : gateway.Forwarding) (owners : next.owners = gateway.owners)
    (taken : next.taken = gateway.taken) (inHand : next.loop.inHand = gateway.loop.inHand)
    (sent : next.sockets.map UdpSocket.sent = gateway.sockets.map UdpSocket.sent) :
    next.Forwarding where
  carried := by
    rw [owners, taken, inHand]
    intro tag index owner
    rcases forwarding.carried tag index owner with ⟨socket, placed, carried⟩
    rcases getElem?_of_map_eq sent placed with ⟨after, moved, same⟩
    exact ⟨after, moved, same ▸ carried⟩
  uncarried := by
    rw [owners, taken, inHand]
    exact forwarding.uncarried
  claimed := by
    rw [owners, taken]
    exact forwarding.claimed

/-- Another message is taken. -/
theorem Forwarding.take (forwarding : gateway.Forwarding) (waits : gateway.loop = .waiting)
    (tag : Tag) (message : Datagram) :
    Forwarding { gateway with
      loop := .looking tag message
      taken := gateway.taken ++ [(tag, message)] } := by
  have same : gateway.owners = gateway.socks.entries ++ [] := by
    rw [owners, waits]
    rfl
  rcases forwarding with ⟨carried, uncarried, claimed⟩
  rw [waits] at carried uncarried
  rw [same] at carried uncarried claimed
  refine ⟨?_, ?_, ?_⟩
  · intro other index owner
    rcases carried other index owner with ⟨socket, located, sent⟩
    refine ⟨socket, located, ?_⟩
    rw [labelled_append, sent, Loop.inHand, Loop.inHand, List.append_assoc]
    rfl
  · intro other unowned
    rw [labelled_append, uncarried other unowned]
    rfl
  · intro other owner
    rw [List.map_append]
    exact List.mem_append_left _ (claimed other owner)

/-- A socket is bound for the tag in hand, which has none. -/
theorem Forwarding.bind (forwarding : gateway.Forwarding) (placed : gateway.Placed) {tag : Tag}
    {message : Datagram} (binds : gateway.loop = .binding tag message) (address : Address) :
    Forwarding { gateway with
      loop := .connecting tag gateway.sockets.length message
      sockets := gateway.sockets ++ [UdpSocket.bind address] } := by
  have same : gateway.owners = gateway.socks.entries := owners_eq (by rw [binds]; rfl)
  rcases forwarding with ⟨carried, uncarried, claimed⟩
  rw [Placed, binds] at placed
  rw [binds] at carried uncarried
  rw [same] at carried uncarried claimed
  have first := uncarried tag placed
  refine ⟨?_, ?_, ?_⟩
  · intro other index owner
    rcases List.mem_append.mp owner with listed | new
    · rcases carried other index listed with ⟨socket, located, sent⟩
      exact ⟨socket, getElem?_append_of_some located _, sent⟩
    · cases List.mem_singleton.mp new
      exact ⟨UdpSocket.bind address, List.getElem?_concat_length, first⟩
  · intro other unowned
    apply uncarried
    intro listed
    apply unowned
    rw [owners, List.map_append]
    exact List.mem_append_left _ listed
  · intro other owner
    rw [owners, List.map_append] at owner
    rcases List.mem_append.mp owner with listed | new
    · exact claimed other listed
    · cases List.mem_singleton.mp new
      by_contra absent
      rw [labelled_eq_nil.mpr absent] at first
      exact List.cons_ne_nil message [] ((labelled_self tag [message]).symm.trans first.symm)

/-- The message in hand is sent on the socket of its tag. -/
theorem Forwarding.send (forwarding : gateway.Forwarding) (wired : gateway.Wired) {tag : Tag}
    {index : Nat} {message : Datagram} (sends : gateway.loop = .sending tag index message) :
    Forwarding { gateway with
      loop := .waiting
      sockets := gateway.sockets.modify index (UdpSocket.send message) } := by
  have placed := wired.placed
  rw [Placed, sends] at placed
  have same : NymGateway.owners { gateway with
      loop := .waiting
      sockets := gateway.sockets.modify index (UdpSocket.send message) } = gateway.owners := by
    rw [owners, owners, sends]
    rfl
  have owner : (tag, index) ∈ gateway.owners := List.mem_append_left _ placed
  have others : forall other, tag ≠ other -> labelled gateway.loop.inHand other = [] := by
    intro other apart
    rw [sends]
    exact labelled_other [message] apart
  rcases forwarding with ⟨carried, uncarried, claimed⟩
  refine ⟨?_, ?_, ?_⟩
  · intro other position listed
    rw [same] at listed
    rcases carried other position listed with ⟨socket, located, sent⟩
    by_cases here : index = position
    · subst here
      cases wired.owner_unique owner listed
      refine ⟨socket.send message, ?_, ?_⟩
      · simp only [List.getElem?_modify, located, if_true, Option.map_eq_map, Option.map_some]
      · rw [sent, sends]
        change socket.sent ++ labelled [(tag, message)] tag = (socket.sent ++ [message]) ++ []
        rw [List.append_nil]
        exact congrArg (socket.sent ++ ·) (labelled_self tag [message])
    · have apart : tag ≠ other := by
        intro shared
        subst shared
        exact here (wired.socket_unique owner listed)
      refine ⟨socket, ?_, ?_⟩
      · simp only [List.getElem?_modify, located, here, if_false, Option.map_eq_map,
          Option.map_some]
      · rw [sent, others other apart]
        rfl
  · intro other unowned
    rw [same] at unowned
    have apart : tag ≠ other := by
      intro shared
      subst shared
      exact unowned (List.mem_map.mpr ⟨(tag, index), owner, rfl⟩)
    change labelled gateway.taken other = []
    rw [uncarried other unowned, others other apart]
  · intro other listed
    rw [same] at listed
    exact claimed other listed

theorem Forwarding.step (forwarding : gateway.Forwarding) (wired : gateway.Wired)
    {move : GatewayMove Tag} (granted : gateway.Granted move)
    (moved : Moved queueDepth gateway move next) : next.Forwarding := by
  cases moved with
  | ended waits =>
      refine forwarding.kept ?_ rfl (by rw [waits]; rfl) rfl
      rw [owners, owners, waits]
      rfl
  | ignored message waits => exact forwarding
  | took tag message waits => exact forwarding.take waits tag message
  | found tag message socket looks listed =>
      refine forwarding.kept ?_ rfl (by rw [looks]; rfl) rfl
      rw [owners, owners, looks]
      rfl
  | missed tag message looks unlisted =>
      refine forwarding.kept ?_ rfl (by rw [looks]; rfl) rfl
      rw [owners, owners, looks]
      rfl
  | bound tag message address binds => exact forwarding.bind wired.placed binds address
  | unbound tag message binds => cases granted
  | connected tag socket message connects =>
      exact forwarding.kept (wired.enroll_owners queueDepth connects) rfl
        (by rw [connects]; rfl) rfl
  | unconnected tag socket message connects => cases granted
  | sent tag socket message sends => exact forwarding.send wired sends
  | unsent tag socket message sends => cases granted
  | arrived address datagram =>
      refine forwarding.kept rfl rfl rfl ?_
      rw [List.map_map, arrive_sent]
  | replied index move task after socket left located reads stepped =>
      exact forwarding.kept rfl rfl rfl
        (map_set_of_eq UdpSocket.sent reads stepped.frame.2.2.2)

/-! ## What is shipped -/

/-- The reply tasks relay what their own sockets received, under their tags. -/
structure Replying (depth : Nat) (gateway : NymGateway Tag) : Prop where
  relayed : forall task, task ∈ gateway.replies ->
    exists socket, gateway.sockets[task.reader]? = some socket ∧ Relayed depth task socket
  unread : forall tag index, (tag, index) ∈ gateway.loop.unlisted ->
    exists socket, gateway.sockets[index]? = some socket ∧ socket.inbox = socket.received
  shipped : forall task, task ∈ gateway.replies ->
    labelled gateway.shipped task.transport.tag = task.boundary.starts.map Prod.snd
  attributed : forall tag, tag ∈ gateway.shipped.map Prod.fst ->
    tag ∈ gateway.socks.entries.map Prod.fst

theorem replying_start (depth : Nat) : Replying depth (start : NymGateway Tag) where
  relayed := by
    intro task member
    cases member
  unread := by
    intro tag index member
    cases member
  shipped := by
    intro task member
    cases member
  attributed := by
    intro tag member
    cases member

variable {depth : Nat}

/-- Where the tasks and what the sockets received stay the same. -/
theorem Replying.kept (replying : gateway.Replying depth) (replies : next.replies = gateway.replies)
    (unlisted : next.loop.unlisted = gateway.loop.unlisted ∨ next.loop.unlisted = [])
    (shipped : next.shipped = gateway.shipped) (socks : next.socks = gateway.socks)
    (read : next.sockets.map (fun socket => (socket.inbox, socket.received)) =
      gateway.sockets.map (fun socket => (socket.inbox, socket.received))) :
    next.Replying depth where
  relayed := by
    rw [replies]
    intro task member
    rcases replying.relayed task member with ⟨socket, located, relayed⟩
    rcases getElem?_of_map_eq read located with ⟨after, moved, same⟩
    rw [Prod.mk.injEq] at same
    refine ⟨after, moved, relayed.flowing, relayed.single, relayed.calling, ?_⟩
    rw [same.1, same.2]
    exact relayed.read
  unread := by
    intro tag index member
    rcases unlisted with same | none
    · rw [same] at member
      rcases replying.unread tag index member with ⟨socket, located, unread⟩
      rcases getElem?_of_map_eq read located with ⟨after, moved, same⟩
      rw [Prod.mk.injEq] at same
      exact ⟨after, moved, same.1.trans (unread.trans same.2.symm)⟩
    · rw [none] at member
      cases member
  shipped := by
    rw [replies, shipped]
    exact replying.shipped
  attributed := by
    rw [shipped, socks]
    exact replying.attributed

/-- A bound socket is unread until its reply task starts. -/
theorem Replying.bind (replying : gateway.Replying depth) {tag : Tag} {message : Datagram}
    (address : Address) :
    Replying depth { gateway with
      loop := .connecting tag gateway.sockets.length message
      sockets := gateway.sockets ++ [UdpSocket.bind address] } := by
  refine ⟨?_, ?_, replying.shipped, replying.attributed⟩
  · intro task member
    rcases replying.relayed task member with ⟨socket, located, relayed⟩
    exact ⟨socket, getElem?_append_of_some located _, relayed⟩
  · intro other index member
    cases List.mem_singleton.mp member
    exact ⟨UdpSocket.bind address, List.getElem?_concat_length, rfl⟩

/-- The reply task of a new tag starts with nothing shipped. -/
theorem Replying.enroll (replying : gateway.Replying (max queueDepth 1)) (wired : gateway.Wired)
    {tag : Tag} {index : Nat} {message : Datagram}
    (connects : gateway.loop = .connecting tag index message) :
    (gateway.enroll queueDepth tag index message).Replying (max queueDepth 1) := by
  have absent := wired.absent connects
  have fresh : (tag, index) ∈ gateway.loop.unlisted := by
    rw [connects]
    exact List.mem_cons_self
  rcases replying.unread tag index fresh with ⟨socket, located, unread⟩
  refine ⟨?_, ?_, ?_, ?_⟩
  · intro task member
    rcases List.mem_append.mp member with old | new
    · exact replying.relayed task old
    · cases List.mem_singleton.mp new
      exact ⟨socket, located, Relayed.spawn ⟨tag, nymOracle⟩ queueDepth index unread⟩
  · intro other position member
    cases member
  · intro task member
    rcases List.mem_append.mp member with old | new
    · exact replying.shipped task old
    · cases List.mem_singleton.mp new
      exact labelled_eq_nil.mpr (fun shipped => absent (replying.attributed tag shipped))
  · intro other shipped
    rw [NymGateway.enroll, wired.enrolled connects, List.map_append]
    exact List.mem_append_left _ (replying.attributed other shipped)

theorem Replying.arrive (replying : gateway.Replying depth) (address : Address)
    (datagram : Datagram) :
    Replying depth { gateway with
      sockets := gateway.sockets.map (UdpSocket.arrive address datagram) } := by
  refine ⟨?_, ?_, replying.shipped, replying.attributed⟩
  · intro task member
    rcases replying.relayed task member with ⟨socket, located, relayed⟩
    refine ⟨socket.arrive address datagram, ?_, relayed.arrive address datagram⟩
    rw [List.getElem?_map, located, Option.map_some]
  · intro tag index member
    rcases replying.unread tag index member with ⟨socket, located, unread⟩
    refine ⟨socket.arrive address datagram, ?_, ?_⟩
    · rw [List.getElem?_map, located, Option.map_some]
    · unfold UdpSocket.arrive
      split
      · exact congrArg (· ++ [datagram]) unread
      · exact unread

/-- A reply task moves: its own socket and tag are the only ones concerned. -/
theorem Replying.reply (replying : gateway.Replying depth) (wired : gateway.Wired) {index : Nat}
    {move : ReplyMove} {task after : ReplyTask Tag} {socket left : UdpSocket}
    (located : gateway.replies[index]? = some task)
    (reads : gateway.sockets[task.reader]? = some socket)
    (stepped : ReplyTask.Stepped task socket move after left) :
    Replying depth { gateway with
      sockets := gateway.sockets.set task.reader left
      replies := gateway.replies.set index after
      shipped := gateway.shipped ++ task.shipments after } := by
  have member := List.mem_of_getElem? located
  have frame := stepped.frame
  rcases stepped.starts with ⟨later, starts⟩
  have shipments : task.shipments after =
      (later.map Prod.snd).map (fun datagram => (task.transport.tag, datagram)) := by
    rw [ReplyTask.shipments, starts, List.drop_left, List.map_map]
    rfl
  have named : after.transport.tag = task.transport.tag := congrArg Prod.fst frame.1
  have reader : after.reader = task.reader := congrArg Prod.snd frame.1
  refine ⟨?_, ?_, ?_, ?_⟩
  · intro other written
    rcases mem_set_distinct located written with new | ⟨old, apart⟩
    · subst new
      rcases replying.relayed task member with ⟨_, same, relayed⟩
      rw [reads] at same
      cases same
      refine ⟨left, ?_, relayed.step stepped⟩
      rw [reader]
      exact List.getElem?_set_self (List.getElem?_eq_some_iff.mp reads).1
    · rcases replying.relayed other old with ⟨there, placed, relayed⟩
      refine ⟨there, ?_, relayed⟩
      rw [List.getElem?_set_ne (Ne.symm (apart ReplyTask.reader wired.readers_distinct))]
      exact placed
  · intro tag position unlisted
    rcases replying.unread tag position unlisted with ⟨there, placed, unread⟩
    refine ⟨there, ?_, unread⟩
    have distinct := wired.sockets_distinct
    rw [owners, List.map_append] at distinct
    have elsewhere : task.reader ≠ position := (List.nodup_append.mp distinct).2.2 _
      (List.mem_map_of_mem (wired.wired_task member)) _ (List.mem_map_of_mem unlisted)
    rw [List.getElem?_set_ne elsewhere]
    exact placed
  · intro other written
    rw [shipments, labelled_append]
    rcases mem_set_distinct located written with new | ⟨old, apart⟩
    · subst new
      rw [named, labelled_self, replying.shipped task member, starts, List.map_append]
    · have foreign := apart (fun task => task.transport.tag) wired.tags_distinct
      rw [labelled_other _ (Ne.symm foreign), List.append_nil]
      exact replying.shipped other old
  · intro tag shipped
    rw [shipments, List.map_append] at shipped
    rcases List.mem_append.mp shipped with old | new
    · exact replying.attributed tag old
    · rcases List.mem_map.mp new with ⟨entry, listed, rfl⟩
      rcases List.mem_map.mp listed with ⟨datagram, _, rfl⟩
      exact List.mem_map_of_mem (wired.wired_task member)

theorem Replying.step (replying : gateway.Replying (max queueDepth 1)) (wired : gateway.Wired)
    {move : GatewayMove Tag} (moved : Moved queueDepth gateway move next) :
    next.Replying (max queueDepth 1) := by
  cases moved with
  | bound tag message address binds => exact replying.bind address
  | connected tag socket message connects => exact replying.enroll wired connects
  | sent tag socket message sends =>
      exact replying.kept rfl (.inr rfl) rfl rfl
        (map_modify_of_eq (fun there : UdpSocket => (there.inbox, there.received)) socket
          (fun _ => rfl))
  | arrived address datagram => exact replying.arrive address datagram
  | replied index move task after socket left located reads stepped =>
      exact replying.reply wired located reads stepped
  | ignored message waits => exact replying
  | _ => exact replying.kept rfl (.inr rfl) rfl rfl rfl

/-! ## Whole runs -/

/-- The tagged messages of a schedule, in order. -/
def arrivals (schedule : List (GatewayMove Tag)) : List (Tag × Datagram) :=
  schedule.filterMap GatewayMove.tagged

theorem taken_of_run {schedule : List (GatewayMove Tag)}
    (ran : run (step queueDepth) start schedule = some gateway) :
    gateway.taken = arrivals schedule := by
  refine record_of_run NymGateway.taken GatewayMove.tagged ?_ ran
  intro state move next stepped
  cases moved_of_step stepped with
  | took tag message waits => rfl
  | _ => exact (List.append_nil _).symm

/-- Nobody loses a socket. -/
theorem Wired.owners_prefix (wired : gateway.Wired) {move : GatewayMove Tag}
    (granted : gateway.Granted move) (moved : Moved queueDepth gateway move next) :
    gateway.owners <+: next.owners := by
  cases moved with
  | ended waits => exact owners_prefix_of_listed (by rw [waits]; rfl) rfl
  | took tag message waits => exact owners_prefix_of_listed (by rw [waits]; rfl) rfl
  | found tag message socket looks listed =>
      exact owners_prefix_of_listed (by rw [looks]; rfl) rfl
  | missed tag message looks unlisted => exact owners_prefix_of_listed (by rw [looks]; rfl) rfl
  | bound tag message address binds => exact owners_prefix_of_listed (by rw [binds]; rfl) rfl
  | unbound tag message binds => cases granted
  | connected tag socket message connects =>
      have same := wired.enroll_owners queueDepth connects
      exact ⟨[], by rw [List.append_nil, same]⟩
  | unconnected tag socket message connects => cases granted
  | sent tag socket message sends => exact owners_prefix_of_listed (by rw [sends]; rfl) rfl
  | unsent tag socket message sends => cases granted
  | _ => exact List.prefix_refl _

/-- The tags that arrived are those with a socket and the one in hand. -/
theorem Forwarding.mem_taken (forwarding : gateway.Forwarding) (tag : Tag) :
    tag ∈ gateway.taken.map Prod.fst <->
      tag ∈ gateway.owners.map Prod.fst ∨ tag ∈ gateway.loop.inHand.map Prod.fst := by
  by_cases owner : tag ∈ gateway.owners.map Prod.fst
  · simp only [owner, true_or, iff_true]
    exact forwarding.claimed tag owner
  · have same := forwarding.uncarried tag owner
    simp only [owner, false_or]
    rw [← not_iff_not, ← labelled_eq_nil, ← labelled_eq_nil, same]

/-- The table, the forwarded messages and the replies are as they should be. -/
structure Sound (depth : Nat) (gateway : NymGateway Tag) : Prop where
  wired : gateway.Wired
  forwarding : gateway.Forwarding
  replying : gateway.Replying depth

theorem sound_start (depth : Nat) : Sound depth (start : NymGateway Tag) :=
  ⟨wired_start, forwarding_start, replying_start depth⟩

theorem Sound.step (sound : gateway.Sound (max queueDepth 1)) {move : GatewayMove Tag}
    (granted : gateway.Granted move) (stepped : gateway.step queueDepth move = some next) :
    next.Sound (max queueDepth 1) := by
  have moved := moved_of_step stepped
  exact ⟨sound.wired.step granted moved, sound.forwarding.step sound.wired granted moved,
    sound.replying.step sound.wired moved⟩

/-- With no message in hand there is one socket for each tag that arrived. -/
theorem Sound.length_sockets (sound : gateway.Sound depth) (idle : gateway.loop.inHand = []) :
    gateway.sockets.length = (gateway.taken.map Prod.fst).dedup.length := by
  have counted := congrArg List.length sound.wired.owned
  rw [List.length_map, List.length_range] at counted
  have permuted : (gateway.owners.map Prod.fst).Perm (gateway.taken.map Prod.fst).dedup := by
    apply (List.perm_ext_iff_of_nodup sound.wired.distinct (List.nodup_dedup _)).mpr
    intro tag
    rw [List.mem_dedup, sound.forwarding.mem_taken tag, idle, List.map_nil]
    simp only [List.not_mem_nil, or_false]
  rw [← permuted.length_eq, List.length_map, counted]

/-- What a gateway keeps apart.  A message in hand is one that the loop has taken
off the mix and not sent yet; there is at most one. -/
structure Isolated (queueDepth : Nat) (schedule : List (GatewayMove Tag))
    (gateway : NymGateway Tag) : Prop where
  /-- Every socket was bound for one tag, and no tag has two sockets. -/
  owned : gateway.owners.map Prod.snd = List.range gateway.sockets.length
  distinct : (gateway.owners.map Prod.fst).Nodup
  addresses : (gateway.sockets.map UdpSocket.localAddr).Nodup
  /-- The sockets are those of the tags that arrived. -/
  claimed : forall tag, tag ∈ (arrivals schedule).map Prod.fst <->
    tag ∈ gateway.owners.map Prod.fst ∨ tag ∈ gateway.loop.inHand.map Prod.fst
  counted : gateway.loop.inHand = [] ->
    gateway.sockets.length = ((arrivals schedule).map Prod.fst).dedup.length
  /-- A socket stays with its tag. -/
  permanent : forall before after earlier, schedule = before ++ after ->
    run (step queueDepth) start before = some earlier -> earlier.owners <+: gateway.owners
  /-- A socket has sent the messages of its tag in the order of their arrival. -/
  forwarded : forall tag index, (tag, index) ∈ gateway.owners ->
    exists socket, gateway.sockets[index]? = some socket ∧
      labelled (arrivals schedule) tag = socket.sent ++ labelled gateway.loop.inHand tag
  /-- The replies under a tag are the first datagrams that its socket received,
  each once and in order. -/
  shipped : forall tag datagram, (tag, datagram) ∈ gateway.shipped ->
    exists index socket, (tag, index) ∈ gateway.owners ∧
      gateway.sockets[index]? = some socket ∧
      labelled gateway.shipped tag <+: socket.received
  /-- Without its untagged messages the run is the same. -/
  untagged : run (step queueDepth) start (schedule.filter (fun move => !move.untagged)) =
    some gateway

theorem Sound.shipped_prefix (sound : gateway.Sound depth) {tag : Tag} {datagram : Datagram}
    (shipped : (tag, datagram) ∈ gateway.shipped) :
    exists index socket, (tag, index) ∈ gateway.owners ∧
      gateway.sockets[index]? = some socket ∧
      labelled gateway.shipped tag <+: socket.received := by
  have listed := sound.replying.attributed tag (List.mem_map.mpr ⟨_, shipped, rfl⟩)
  rw [sound.wired.wires, List.map_map] at listed
  rcases List.mem_map.mp listed with ⟨task, member, rfl⟩
  rcases sound.replying.relayed task member with ⟨socket, located, relayed⟩
  refine ⟨task.reader, socket, List.mem_append_left _ (sound.wired.wired_task member),
    located, ?_⟩
  change labelled gateway.shipped task.transport.tag <+: _
  rw [sound.replying.shipped task member]
  exact relayed.starts_prefix

/-- The owners at one point of a run are among those at a later one. -/
theorem Sound.owners_of_run {earlier : NymGateway Tag} {schedule : List (GatewayMove Tag)}
    (sound : earlier.Sound (max queueDepth 1))
    (granted : Meets (NymGateway.step queueDepth) Granted earlier schedule)
    (ran : run (NymGateway.step queueDepth) earlier schedule = some gateway) :
    earlier.owners <+: gateway.owners := by
  have kept : gateway.Sound (max queueDepth 1) ∧ earlier.owners <+: gateway.owners := by
    refine invariant_of_meets Granted (fun state =>
      state.Sound (max queueDepth 1) ∧ earlier.owners <+: state.owners) ?_
      ⟨sound, List.prefix_refl _⟩ granted ran
    intro state move next granted before stepped
    exact ⟨before.1.step granted stepped,
      before.2.trans (before.1.wired.owners_prefix granted (moved_of_step stepped))⟩
  exact kept.2

theorem sound_of_run {schedule : List (GatewayMove Tag)}
    (granted : Meets (step queueDepth) Granted start schedule)
    (ran : run (step queueDepth) start schedule = some gateway) :
    gateway.Sound (max queueDepth 1) :=
  invariant_of_meets Granted (Sound (max queueDepth 1))
    (fun _ _ _ granted sound stepped => sound.step granted stepped) (sound_start _) granted ran

/-- In every run, whatever the interleaving of the mix, the server, the loop and
the reply tasks, the clients of the gateway are kept apart. -/
theorem clients_isolated (queueDepth : Nat) (schedule : List (GatewayMove Tag))
    (gateway : NymGateway Tag)
    (granted : Meets (step queueDepth) Granted start schedule)
    (ran : run (step queueDepth) start schedule = some gateway) :
    Isolated queueDepth schedule gateway := by
  have sound := sound_of_run granted ran
  have taken := taken_of_run ran
  refine ⟨sound.wired.owned, sound.wired.distinct, sound.wired.addresses, ?_, ?_, ?_, ?_, ?_, ?_⟩
  · rw [← taken]
    exact sound.forwarding.mem_taken
  · rw [← taken]
    exact sound.length_sockets
  · intro before after earlier split ranBefore
    subst split
    rcases run_append_eq_some.mp ran with ⟨middle, ranFirst, ranRest⟩
    rw [ranBefore] at ranFirst
    cases ranFirst
    exact (sound_of_run granted.front ranBefore).owners_of_run (granted.rest ranBefore) ranRest
  · rw [← taken]
    exact sound.forwarding.carried
  · intro tag datagram shipped
    exact sound.shipped_prefix shipped
  · refine run_without GatewayMove.untagged ?_ ran
    intro state move next idle stepped
    cases moved_of_step stepped with
    | ignored message waits => rfl
    | _ => cases idle

/-- Two clients whose messages, replies and an untagged message interleave. -/
def interleavedSchedule : List (GatewayMove Nat) :=
  [.next (some ⟨[1], some 7⟩), .lookup, .bind (some 5001), .connect true, .udpIn 5001 [10],
    .send true, .reply 0 .recv, .next (some ⟨[9], none⟩), .next (some ⟨[2], some 8⟩),
    .reply 0 .reserve, .lookup, .bind (some 5002), .reply 0 .commit, .connect true,
    .udpIn 5002 [20], .udpIn 5001 [11], .send true, .reply 1 .recv, .reply 1 .reserve,
    .reply 1 .commit, .reply 1 .sendPump, .reply 1 .sendPump, .reply 1 .sendPump,
    .reply 0 .sendPump, .reply 0 .sendPump, .reply 0 .sendPump, .next (some ⟨[3], some 7⟩),
    .lookup, .send true]

theorem clients_isolated_interleaved :
    exists gateway : NymGateway Nat,
      run (step 17) start interleavedSchedule = some gateway ∧
        Isolated 17 interleavedSchedule gateway ∧
        gateway.shipped = [(8, [20]), (7, [10])] ∧
        gateway.sockets.map UdpSocket.sent = [[[1], [3]], [[2]]] := by
  refine ⟨_, rfl, clients_isolated 17 interleavedSchedule _ (by decide) rfl, rfl, rfl⟩

end NymGateway
end Nym
end QuicMix
