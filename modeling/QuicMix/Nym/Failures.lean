import QuicMix.Foundations.Related
import QuicMix.Nym.Isolation

namespace QuicMix
namespace Nym

open Foundations
open Boundary

/-!
# A gateway whose calls fail

Binding and connecting a socket may fail, and then `run` returns; the reply tasks
that it has spawned go on.  Sending may fail as well, and then the datagram is lost
and the loop goes on.  Such a gateway is compared with one whose calls succeed,
which stays where the other one returns and sends what the other one loses.  They
agree on everything but where the loop stands and what the sockets have sent.
-/

/-! ## Sockets that lose -/

/-- A socket that has sent only a part of what another one has. -/
structure UdpSocket.Loses (socket ideal : UdpSocket) : Prop where
  localAddr : socket.localAddr = ideal.localAddr
  inbox : socket.inbox = ideal.inbox
  received : socket.received = ideal.received
  sent : socket.sent.Sublist ideal.sent

namespace UdpSocket.Loses

variable {socket ideal : UdpSocket}

theorem refl (socket : UdpSocket) : socket.Loses socket :=
  ⟨rfl, rfl, rfl, List.Sublist.refl _⟩

theorem arrive (loses : socket.Loses ideal) (address : Address) (datagram : Datagram) :
    (socket.arrive address datagram).Loses (ideal.arrive address datagram) := by
  unfold UdpSocket.arrive
  rw [loses.localAddr]
  split
  · refine ⟨rfl, ?_, ?_, loses.sent⟩
    · exact congrArg (· ++ [datagram]) loses.inbox
    · exact congrArg (· ++ [datagram]) loses.received
  · exact loses

theorem send (loses : socket.Loses ideal) (datagram : Datagram) :
    (socket.send datagram).Loses (ideal.send datagram) :=
  { loses with sent := loses.sent.append_right [datagram] }

theorem unsent (loses : socket.Loses ideal) (datagram : Datagram) :
    socket.Loses (ideal.send datagram) :=
  { loses with sent := loses.sent.trans (List.sublist_append_left _ _) }

end UdpSocket.Loses

variable {Tag : Type}

/-- A reply task does not see what its socket has sent. -/
theorem ReplyTask.Stepped.loses {task after : ReplyTask Tag} {socket left ideal : UdpSocket}
    {move : ReplyMove} (stepped : Stepped task socket move after left)
    (loses : socket.Loses ideal) :
    exists other, Stepped task ideal move after other ∧ left.Loses other := by
  cases stepped with
  | read datagram rest boundary pump inbox moved =>
      exact ⟨_, .read datagram rest boundary pump (loses.inbox.symm.trans inbox) moved,
        { loses with inbox := rfl }⟩
  | broken pump => exact ⟨_, .broken pump, loses⟩
  | reserved boundary pump moved => exact ⟨_, .reserved boundary pump moved, loses⟩
  | committed boundary pump moved => exact ⟨_, .committed boundary pump moved, loses⟩
  | hungUp boundary pump moved => exact ⟨_, .hungUp boundary pump moved, loses⟩
  | released boundary pump moved => exact ⟨_, .released boundary pump moved, loses⟩
  | elapsed duration boundary moved => exact ⟨_, .elapsed duration boundary moved, loses⟩
  | pumped boundary moved => exact ⟨_, .pumped boundary moved, loses⟩
  | answered result boundary moved => exact ⟨_, .answered result boundary moved, loses⟩

/-! ## The gateway beside one that does not fail -/

namespace NymGateway

variable [DecidableEq Tag] {queueDepth depth : Nat} {gateway next : NymGateway Tag}

theorem Sound.moved (sound : gateway.Sound (max queueDepth 1)) {move : GatewayMove Tag}
    (moved : Moved queueDepth gateway move next) (granted : gateway.Granted move) :
    next.Sound (max queueDepth 1) :=
  ⟨sound.wired.step granted moved, sound.forwarding.step sound.wired granted moved,
    sound.replying.step sound.wired moved⟩

/-- The gateway is where a gateway with the same past is whose calls succeeded, but
for messages that its sockets have lost, and unless it has returned. -/
structure Beside (depth : Nat) (ideal : NymGateway Tag) (sockets : List UdpSocket)
    (gateway : NymGateway Tag) : Prop where
  sound : ideal.Sound depth
  loses : List.Forall₂ UdpSocket.Loses sockets ideal.sockets
  same : gateway = { ideal with sockets := sockets } ∨
    gateway = { ideal with sockets := sockets, loop := .returned }

/-- There is such a gateway. -/
def Attended (depth : Nat) (gateway : NymGateway Tag) : Prop :=
  exists ideal sockets, Beside depth ideal sockets gateway

theorem attended_start (depth : Nat) : Attended depth (start : NymGateway Tag) :=
  ⟨start, [], sound_start depth, .nil, .inl rfl⟩

/-- The operating system gives a socket no address that is in use. -/
def Fresh (gateway : NymGateway Tag) : GatewayMove Tag -> Prop
  | .bind (some address) => address ∉ gateway.sockets.map UdpSocket.localAddr
  | _ => True

instance (gateway : NymGateway Tag) (move : GatewayMove Tag) : Decidable (gateway.Fresh move) :=
  match move with
  | .bind (some address) =>
      inferInstanceAs (Decidable (address ∉ gateway.sockets.map UdpSocket.localAddr))
  | .bind none => .isTrue trivial
  | .next _ => .isTrue trivial
  | .lookup => .isTrue trivial
  | .connect _ => .isTrue trivial
  | .send _ => .isTrue trivial
  | .udpIn _ _ => .isTrue trivial
  | .reply _ _ => .isTrue trivial

theorem localAddr_of_loses {sockets ideal : List UdpSocket}
    (loses : List.Forall₂ UdpSocket.Loses sockets ideal) :
    sockets.map UdpSocket.localAddr = ideal.map UdpSocket.localAddr := by
  induction loses with
  | nil => rfl
  | cons pair _ inductionHypothesis =>
      rw [List.map_cons, List.map_cons, pair.localAddr, inductionHypothesis]

/-- A move of a gateway whose loop runs. -/
theorem Beside.running {ideal : NymGateway Tag} {sockets : List UdpSocket}
    {move : GatewayMove Tag} (sound : ideal.Sound (max queueDepth 1))
    (loses : List.Forall₂ UdpSocket.Loses sockets ideal.sockets)
    (fresh : { ideal with sockets := sockets }.Fresh move)
    (moved : Moved queueDepth { ideal with sockets := sockets } move next) :
    Attended (max queueDepth 1) next := by
  cases moved with
  | ended waits => exact ⟨ideal, sockets, sound, loses, .inr rfl⟩
  | ignored message waits => exact ⟨ideal, sockets, sound, loses, .inl rfl⟩
  | took tag message waits =>
      exact ⟨_, sockets, sound.moved (.took tag message waits) trivial, loses, .inl rfl⟩
  | found tag message socket looks listed =>
      exact ⟨_, sockets, sound.moved (.found tag message socket looks listed) trivial, loses,
        .inl rfl⟩
  | missed tag message looks unlisted =>
      exact ⟨_, sockets, sound.moved (.missed tag message looks unlisted) trivial, loses, .inl rfl⟩
  | bound tag message address binds =>
      have free : ideal.Granted (.bind (some address)) := by
        change address ∉ ideal.sockets.map UdpSocket.localAddr
        rw [← localAddr_of_loses loses]
        exact fresh
      refine ⟨_, sockets ++ [UdpSocket.bind address],
        sound.moved (.bound tag message address binds) free, ?_, .inl ?_⟩
      · exact List.rel_append loses (.cons (.refl _) .nil)
      · rw [← loses.length_eq]
  | unbound tag message binds => exact ⟨ideal, sockets, sound, loses, .inr rfl⟩
  | connected tag socket message connects =>
      exact ⟨_, sockets, sound.moved (.connected tag socket message connects) rfl, loses, .inl rfl⟩
  | unconnected tag socket message connects => exact ⟨ideal, sockets, sound, loses, .inr rfl⟩
  | sent tag socket message sends =>
      refine ⟨_, _, sound.moved (.sent tag socket message sends) rfl, ?_, .inl rfl⟩
      exact forall₂_modify loses socket (fun _ _ pair => pair.send message)
  | unsent tag socket message sends =>
      refine ⟨_, sockets, sound.moved (.sent tag socket message sends) rfl, ?_, .inl rfl⟩
      have kept : List.Forall₂ UdpSocket.Loses (sockets.modify socket id)
          (ideal.sockets.modify socket (UdpSocket.send message)) :=
        forall₂_modify loses socket (fun _ _ pair => pair.unsent message)
      rwa [List.modify_id] at kept
  | arrived address datagram =>
      refine ⟨_, _, sound.moved (.arrived address datagram) trivial, ?_, .inl rfl⟩
      exact List.rel_map (fun _ _ pair => pair.arrive address datagram) loses
  | replied index move task after socket left located placed stepped =>
      rcases forall₂_getElem? loses placed with ⟨other, known, pair⟩
      rcases stepped.loses pair with ⟨rest, follows, kept⟩
      refine ⟨_, _,
        sound.moved (.replied index move task after other rest located known follows) trivial, ?_,
        .inl rfl⟩
      exact forall₂_set loses task.reader kept

/-- A move of a gateway that has returned. -/
theorem Beside.returned {ideal : NymGateway Tag} {sockets : List UdpSocket}
    {move : GatewayMove Tag} (sound : ideal.Sound (max queueDepth 1))
    (loses : List.Forall₂ UdpSocket.Loses sockets ideal.sockets)
    (moved : Moved queueDepth { ideal with sockets := sockets, loop := .returned } move next) :
    Attended (max queueDepth 1) next := by
  cases moved with
  | ended waits => cases waits
  | ignored message waits => cases waits
  | took tag message waits => cases waits
  | found tag message socket looks listed => cases looks
  | missed tag message looks unlisted => cases looks
  | bound tag message address binds => cases binds
  | unbound tag message binds => cases binds
  | connected tag socket message connects => cases connects
  | unconnected tag socket message connects => cases connects
  | sent tag socket message sends => cases sends
  | unsent tag socket message sends => cases sends
  | arrived address datagram =>
      refine ⟨_, _, sound.moved (.arrived address datagram) trivial, ?_, .inr rfl⟩
      exact List.rel_map (fun _ _ pair => pair.arrive address datagram) loses
  | replied index move task after socket left located placed stepped =>
      rcases forall₂_getElem? loses placed with ⟨other, known, pair⟩
      rcases stepped.loses pair with ⟨rest, follows, kept⟩
      refine ⟨_, _,
        sound.moved (.replied index move task after other rest located known follows) trivial, ?_,
        .inr rfl⟩
      exact forall₂_set loses task.reader kept

theorem Attended.moved (attended : Attended (max queueDepth 1) gateway) {move : GatewayMove Tag}
    (moved : Moved queueDepth gateway move next) (fresh : gateway.Fresh move) :
    Attended (max queueDepth 1) next := by
  rcases attended with ⟨ideal, sockets, sound, loses, rfl | rfl⟩
  · exact Beside.running sound loses fresh moved
  · exact Beside.returned sound loses moved

/-! ## What such a gateway keeps apart -/

/-- The owners of a gateway are owners beside it too. -/
theorem Beside.owners {ideal : NymGateway Tag} {sockets : List UdpSocket}
    (beside : Beside depth ideal sockets gateway) : gateway.owners.Sublist ideal.owners := by
  rcases beside.same with same | same
  · rw [same]
    exact List.Sublist.refl _
  · rw [same]
    change (ideal.socks.entries ++ []).Sublist (ideal.socks.entries ++ ideal.loop.unlisted)
    exact (List.nil_sublist _).append_left _

/-- A socket has sent a part of what arrived under the tag that it was bound for. -/
theorem Attended.sent (attended : Attended depth gateway) {tag : Tag} {index : Nat}
    (owner : (tag, index) ∈ gateway.owners) :
    exists socket, gateway.sockets[index]? = some socket ∧
      socket.sent.Sublist (labelled gateway.taken tag) := by
  rcases attended with ⟨ideal, sockets, beside⟩
  rcases beside.sound.forwarding.carried tag index (beside.owners.subset owner) with
    ⟨other, located, carried⟩
  have flipped : List.Forall₂ (fun ideal socket => UdpSocket.Loses socket ideal) ideal.sockets
      sockets := List.Forall₂.flip beside.loses
  rcases forall₂_getElem? flipped located with ⟨socket, known, pair⟩
  have agree : gateway.sockets = sockets ∧ gateway.taken = ideal.taken := by
    rcases beside.same with same | same <;> rw [same] <;> exact ⟨rfl, rfl⟩
  refine ⟨socket, ?_, ?_⟩
  · rw [agree.1]
    exact known
  · rw [agree.2, carried]
    exact pair.sent.trans (List.sublist_append_left _ _)

/-- No two tags share a socket, and no tag has two. -/
theorem Attended.distinct (attended : Attended depth gateway) :
    (gateway.owners.map Prod.fst).Nodup ∧ (gateway.owners.map Prod.snd).Nodup ∧
      (gateway.sockets.map UdpSocket.localAddr).Nodup := by
  rcases attended with ⟨ideal, sockets, beside⟩
  refine ⟨?_, ?_, ?_⟩
  · exact (beside.owners.map Prod.fst).nodup beside.sound.wired.distinct
  · exact (beside.owners.map Prod.snd).nodup beside.sound.wired.sockets_distinct
  · have same : gateway.sockets = sockets := by
      rcases beside.same with same | same <;> rw [same]
    rw [same, localAddr_of_loses beside.loses]
    exact beside.sound.wired.addresses

/-- The replies under a tag begin what its socket received. -/
theorem Attended.shipped (attended : Attended depth gateway) (tag : Tag) :
    labelled gateway.shipped tag = [] ∨
      exists index socket, (tag, index) ∈ gateway.owners ∧
        gateway.sockets[index]? = some socket ∧
        labelled gateway.shipped tag <+: socket.received := by
  rcases attended with ⟨ideal, sockets, beside⟩
  have agree : gateway.sockets = sockets ∧ gateway.shipped = ideal.shipped ∧
      gateway.socks = ideal.socks := by
    rcases beside.same with same | same <;> rw [same] <;> exact ⟨rfl, rfl, rfl⟩
  rw [agree.1, agree.2.1]
  by_cases listed : tag ∈ ideal.shipped.map Prod.fst
  · rcases List.mem_map.mp listed with ⟨⟨other, datagram⟩, member, rfl⟩
    rcases beside.sound.shipped_prefix member with ⟨index, socket, owner, located, begins⟩
    rcases List.mem_map.mp (beside.sound.replying.attributed _ listed) with
      ⟨⟨_, registered⟩, entry, rfl⟩
    have unique : registered = index :=
      beside.sound.wired.socket_unique (List.mem_append_left _ entry) owner
    have flipped : List.Forall₂ (fun ideal socket => UdpSocket.Loses socket ideal) ideal.sockets
        sockets := List.Forall₂.flip beside.loses
    rcases forall₂_getElem? flipped located with ⟨actual, known, pair⟩
    refine .inr ⟨index, actual, ?_, known, ?_⟩
    · rw [← unique]
      apply List.mem_append_left
      rw [agree.2.2]
      exact entry
    · rw [pair.received]
      exact begins
  · exact .inl (labelled_eq_nil.mpr listed)

end NymGateway
end Nym
end QuicMix
