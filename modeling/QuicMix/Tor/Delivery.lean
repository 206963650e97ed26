import QuicMix.Tor.Directions

namespace QuicMix
namespace Tor

open Foundations
open Boundary
open Framing

/-!
# What comes through a tunnel

In every run the gateway is sent a beginning of what arrived at the front, and the
front's socket is handed a beginning of what the gateway sent back; the client is
sent that, less what the socket refused.  No reply is lost for want of an address:
the gateway speaks only when it was spoken to, and by then the front has heard of
the client.
-/

namespace Tunnel

structure Sound (depth : Nat) (tunnel : Tunnel) : Prop where
  passing : Passing depth (tunnel.arrived.map Prod.snd) (tunnel.handed.map Prod.snd) tunnel.front
  replied : tunnel.replies.Sublist tunnel.handed
  upward : Upward (tunnel.front.boundary.starts.map Prod.snd) tunnel.up tunnel.toUdp
    tunnel.injected
  downward : Downward tunnel.front.boundary.yielded tunnel.front.boundary.substrate.recvPump
    tunnel.down tunnel.udp tunnel.answered
  running : tunnel.bridged = true -> tunnel.toUdp ≠ .stopped
  solicited : tunnel.injected = [] -> tunnel.answered = []
  heard : tunnel.peer = none ->
    tunnel.front.boundary.accepted = [] ∧ tunnel.front.boundary.waiting = []
  fits : Within maxPayload (tunnel.arrived.map Prod.snd)
  addressed : Addressed tunnel.peer tunnel.front.socket tunnel.handed tunnel.arrived

variable {depth : Nat} {tunnel next : Tunnel}

theorem sound_start (oracle : OracleParams) (queueDepth : Nat) :
    Sound (max queueDepth 1) (start oracle queueDepth) where
  passing := Passing.start .stream oracle queueDepth
  replied := List.Sublist.refl _
  upward := by
    refine ⟨⟨nofun, fun _ => rfl, nofun⟩, trivial, rfl, rfl, nofun, ?_, nofun⟩
    intro _
    exact ⟨Nat.zero_lt_succ _, rfl⟩
  downward := by
    refine ⟨⟨⟨nofun, fun _ => rfl, nofun⟩, .reading [] nofun rfl rfl, trivial, trivial⟩, rfl, rfl,
      nofun, ⟨[], rfl⟩, [], rfl, rfl, fun contrary => absurd rfl contrary⟩
  running := fun _ => BridgePhase.noConfusion
  solicited := fun _ => rfl
  heard := fun _ => ⟨rfl, rfl⟩
  fits := nofun
  addressed := ⟨nofun, nofun, nofun⟩

/-- The client was heard of before anything was passed on. -/
theorem Sound.known (sound : Sound depth tunnel)
    (passed : oks tunnel.front.boundary.yielded ≠ []) :
    exists address, tunnel.peer = some address := by
  cases known : tunnel.peer with
  | some address => exact ⟨address, rfl⟩
  | none =>
      have order := sound.passing.flowing.order
      rw [(sound.heard known).1, List.map_nil] at order
      have started : tunnel.front.boundary.starts.map Prod.snd = [] :=
        (List.append_eq_nil_iff.mp (List.append_eq_nil_iff.mp order.symm).1).1
      have begins := sound.upward.begins
      rw [started] at begins
      have downward := sound.downward
      rw [sound.solicited (List.prefix_nil.mp begins)] at downward
      exact absurd downward.silent passed

theorem Sound.arrive (sound : Sound depth tunnel) {sender : Address} {datagram : Datagram}
    (fits : datagram.length <= maxPayload) :
    Sound depth { tunnel with
      front := { tunnel.front with socket := tunnel.front.socket ++ [(sender, datagram)] }
      arrived := tunnel.arrived ++ [(sender, datagram)] } := by
  refine { sound with
    passing := ?_
    fits := ?_
    addressed := sound.addressed.arrive (sender, datagram) }
  · rw [List.map_append]
    exact sound.passing.arrive sender datagram
  · rw [List.map_append]
    exact sound.fits.concat fits

/-- The boundary moves without the send pump and without an answer. -/
theorem Sound.fronted (sound : Sound depth tunnel) {front : Leg}
    (passing : Passing depth (tunnel.arrived.map Prod.snd) (tunnel.handed.map Prod.snd) front)
    (socket : front.socket = tunnel.front.socket)
    (starts : front.boundary.starts = tunnel.front.boundary.starts)
    (yielded : front.boundary.yielded = tunnel.front.boundary.yielded)
    (failed : failing tunnel.front.boundary.substrate.recvPump = true ->
      failing front.boundary.substrate.recvPump = true)
    (heard : tunnel.peer = none ->
      front.boundary.accepted = [] ∧ front.boundary.waiting = []) :
    Sound depth { tunnel with front := front } := by
  refine { sound with
    passing := passing
    upward := ?_
    downward := ?_
    heard := heard
    addressed := ⟨?_, sound.addressed.peer, sound.addressed.replies⟩ }
  · change Upward (front.boundary.starts.map Prod.snd) _ _ _
    rw [starts]
    exact sound.upward
  · change Downward front.boundary.yielded front.boundary.substrate.recvPump _ _ _
    rw [yielded]
    exact sound.downward.pumped failed
  · change forall entry, entry ∈ front.socket -> _
    rw [socket]
    exact sound.addressed.socket

theorem Sound.front (sound : Sound depth tunnel) {move : LegMove} (own : ofFront move = true)
    {front : Leg} (moved : tunnel.front.step move = some front) :
    Sound depth { tunnel with front := front } := by
  have passing := sound.passing.step moved
  have quiet : move.arrival = none := by
    cases move with
    | arrive sender datagram => cases own
    | _ => rfl
  rw [quiet, Option.toList_none, List.append_nil] at passing
  rcases boundary_of_front own moved with ⟨socket, same | ⟨action, outcome, task⟩⟩
  · apply sound.fronted passing socket
    · rw [same]
    · rw [same]
    · rw [same]
      exact id
    · rw [same]
      exact sound.heard
  · rcases tasks_apart task with ⟨apart, silent⟩
    exact sound.fronted passing socket (sendPump_kept outcome apart).1
      (answers_kept outcome silent).1 (answers_kept outcome silent).2
      (fun unknown => unheard_kept outcome task (sound.heard unknown))

theorem Sound.elapse (sound : Sound depth tunnel) {duration : Duration} {front : Leg}
    (moved : tunnel.front.within (.elapse duration) = some front) :
    Sound depth { tunnel with front := front } := by
  have passing := sound.passing.within rfl Move.noConfusion moved
  rcases Leg.within_eq_some moved with ⟨socket, outcome⟩
  rcases outcome.background rfl with ⟨accepted, waiting, _⟩
  apply sound.fronted passing socket (sendPump_kept outcome rfl).1 (answers_kept outcome rfl).1
    (answers_kept outcome rfl).2
  rw [accepted, waiting]
  exact sound.heard

theorem Sound.frontRecv (sound : Sound depth tunnel) (moved : tunnel.frontRecv = some next) :
    Sound depth next := by
  unfold Tunnel.frontRecv at moved
  split at moved
  · cases moved
  · rename_i sender front taken
    cases moved
    have passing := sound.passing.recvFrom taken
    rcases Leg.recvFrom_eq_some taken with ⟨datagram, held, outcome⟩
    have addressed := sound.addressed
    rw [held] at addressed
    refine { sound with
      passing := passing
      upward := ?_
      downward := ?_
      heard := nofun
      addressed := addressed.recvFrom }
    · change Upward (front.boundary.starts.map Prod.snd) _ _ _
      rw [(sendPump_kept outcome rfl).1]
      exact sound.upward
    · change Downward front.boundary.yielded front.boundary.substrate.recvPump _ _ _
      rw [(answers_kept outcome rfl).1]
      exact sound.downward.pumped (answers_kept outcome rfl).2

/-- A datagram comes back only after the client was heard of, so it is handed to the
socket. -/
theorem Sound.frontReply (sound : Sound depth tunnel) {accepted : Bool}
    (moved : tunnel.frontReply accepted = some next) : Sound depth next := by
  unfold Tunnel.frontReply at moved
  split at moved
  · cases moved
  · rename_i datagram front taken
    cases moved
    have passing := sound.passing.sendTo taken
    have boundary := (Leg.sendTo_eq_some taken).symm
    have passed : oks tunnel.front.boundary.yielded ≠ [] := by
      rcases passing.passage.relayed with ⟨behind, answers, _⟩
      rw [← boundary.1, answers]
      simp only [List.append_assoc, List.singleton_append, ne_eq, List.append_eq_nil_iff,
        reduceCtorEq, and_false, not_false_eq_true]
    rcases sound.known passed with ⟨address, known⟩
    refine { sound with
      passing := ?_
      replied := sound.replied.append ?_
      upward := ?_
      downward := ?_
      heard := ?_
      addressed := ?_ }
    · simpa only [known, Option.toList_some, List.map_cons, List.map_nil, List.map_append]
        using passing
    · cases accepted with
      | true => exact List.Sublist.refl _
      | false => exact List.nil_sublist _
    · change Upward (front.boundary.starts.map Prod.snd) _ _ _
      rw [boundary.1]
      exact sound.upward
    · change Downward front.boundary.yielded front.boundary.substrate.recvPump _ _ _
      rw [boundary.1]
      exact sound.downward
    · change tunnel.peer = none -> front.boundary.accepted = [] ∧ front.boundary.waiting = []
      rw [boundary.1]
      exact sound.heard
    · have addressed := sound.addressed.sendTo datagram
      rw [← boundary.2] at addressed
      exact addressed

/-- The datagram in the hand of the send pump is one that arrived. -/
theorem Sound.small (sound : Sound depth tunnel) {datagram : Datagram}
    (pump : tunnel.front.boundary.substrate.sendPump = .gauged datagram) :
    datagram.length <= maxDatagram := by
  have placed := sound.passing.passage.placed
  rw [pump] at placed
  have fits := sound.fits datagram (by
    rw [placed]
    simp only [SendPump.hand, List.append_assoc, List.mem_append, List.mem_singleton, true_or,
      or_true])
  exact Nat.le_trans fits (by decide)

theorem Sound.sendPump (sound : Sound depth tunnel) (moved : tunnel.sendPump = some next) :
    Sound depth next := by
  unfold Tunnel.sendPump at moved
  split at moved
  · cases moved
  · rename_i front stepped
    have passing := sound.passing.within rfl Move.noConfusion stepped
    rcases Leg.within_eq_some stepped with ⟨socket, outcome⟩
    rcases outcome.background rfl with ⟨accepted, waiting, _⟩
    have heard : tunnel.peer = none ->
        front.boundary.accepted = [] ∧ front.boundary.waiting = [] := by
      rw [accepted, waiting]
      exact sound.heard
    have answers := answers_kept outcome rfl
    rcases starts_of_sendPump outcome with ⟨datagram, pump, starts⟩ | ⟨other, starts⟩
    · simp only [pump] at moved
      split at moved
      · cases moved
      · rename_i up begun
        cases moved
        refine { sound with
          passing := passing
          upward := ?_
          downward := ?_
          heard := heard
          addressed := ⟨socket ▸ sound.addressed.socket, sound.addressed.peer,
            sound.addressed.replies⟩ }
        · change Upward (front.boundary.starts.map Prod.snd) up _ _
          rw [starts]
          exact sound.upward.begin (sound.small pump) begun
        · change Downward front.boundary.yielded front.boundary.substrate.recvPump _ _ _
          rw [answers.1]
          exact sound.downward.pumped answers.2
    · have kept := sound.fronted passing socket starts answers.1 answers.2 heard
      split at moved
      · rename_i datagram pump
        exact absurd pump (other datagram)
      · cases moved
        exact kept

/-- `try_send` returns: the writer is done and the send pump is told. -/
theorem Sound.sent (sound : Sound depth tunnel) {action : Action} {result : SendResult}
    (writes : action = .flush ∨ exists error, action = .failWrite error)
    (moved : tunnel.sent action result = some next) : Sound depth next := by
  unfold Tunnel.sent at moved
  split at moved
  · rename_i up front written stepped
    cases moved
    have passing := sound.passing.within rfl Move.noConfusion stepped
    rcases Leg.within_eq_some stepped with ⟨socket, outcome⟩
    rcases outcome.background rfl with ⟨accepted, waiting, _⟩
    have answers := answers_kept outcome rfl
    have starts := starts_of_innerSent outcome
    have kept := sound.fronted passing socket starts answers.1 answers.2 (by
      rw [accepted, waiting]
      exact sound.heard)
    refine { kept with upward := kept.upward.moved (Pipe.moved_of_step written) ?_ }
    rcases writes with flush | fails
    · exact .inr (.inl flush)
    · exact .inr (.inr (.inl fails))
  · cases moved

/-- The writer goes on, or the stream closes. -/
theorem Sound.written (sound : Sound depth tunnel) {action : Action} {up : Pipe}
    (writes : (exists size, action = .write size) ∨ exists arriving, action = .close arriving)
    (moved : tunnel.up.step action = some up) : Sound depth { tunnel with up := up } := by
  refine { sound with upward := sound.upward.moved (Pipe.moved_of_step moved) ?_ }
  rcases writes with write | close
  · exact .inl write
  · exact .inr (.inr (.inr close))

theorem Sound.clientRecv (sound : Sound depth tunnel) (moved : tunnel.clientRecv = some next) :
    Sound depth next := by
  unfold Tunnel.clientRecv at moved
  split at moved
  · rename_i down _ entered
    cases moved
    exact { sound with
      downward := sound.downward.moved (Pipe.moved_of_step entered)
        (.inr (.inr (.inr (.inr rfl)))) }
  · cases moved

/-- The receive pump is given an answer of the transport. -/
theorem Sound.fetched (sound : Sound depth tunnel) {result : RecvResult} {front : Leg}
    {down : Pipe} (moved : tunnel.front.within (.innerReceived result) = some front)
    (downward : Downward (tunnel.front.boundary.yielded ++ [result]) (.holding result) down
      tunnel.udp tunnel.answered) : Sound depth { tunnel with front := front, down := down } := by
  have passing := sound.passing.within rfl Move.noConfusion moved
  rcases Leg.within_eq_some moved with ⟨socket, outcome⟩
  rcases outcome.background rfl with ⟨accepted, waiting, _⟩
  have kept := sendPump_kept outcome rfl
  refine { sound with
    passing := passing
    upward := ?_
    downward := ?_
    heard := ?_
    addressed := ⟨socket ▸ sound.addressed.socket, sound.addressed.peer,
      sound.addressed.replies⟩ }
  · change Upward (front.boundary.starts.map Prod.snd) _ _ _
    rw [kept.1]
    exact sound.upward
  · change Downward front.boundary.yielded front.boundary.substrate.recvPump _ _ _
    rcases held_of_innerReceived outcome with ⟨yielded, pump⟩
    rw [yielded, pump]
    exact downward
  · change tunnel.peer = none -> front.boundary.accepted = [] ∧ front.boundary.waiting = []
    rw [accepted, waiting]
    exact sound.heard

theorem Sound.clientRead (sound : Sound depth tunnel) {size : Nat}
    (moved : tunnel.clientRead size = some next) : Sound depth next := by
  unfold Tunnel.clientRead at moved
  split at moved
  · rename_i down polling read
    have downward := sound.downward.read polling (Pipe.moved_of_step read)
    split at moved
    · rename_i unfinished
      cases moved
      rw [unfinished, Option.toList_none, List.append_nil, Downward.afterRead,
        ← polling] at downward
      exact { sound with downward := downward }
    · rename_i result finished
      split at moved
      · cases moved
      · rename_i front stepped
        cases moved
        rw [finished] at downward
        exact sound.fetched stepped downward
  · cases moved

theorem Sound.clientReadFails (sound : Sound depth tunnel) {error : IoError}
    (moved : tunnel.clientReadFails error = some next) : Sound depth next := by
  unfold Tunnel.clientReadFails at moved
  split at moved
  · split at moved
    · cases moved
    · rename_i front stepped
      cases moved
      exact sound.fetched stepped (sound.downward.failed (mapIo error))
  · cases moved

theorem Sound.bridgeRead (sound : Sound depth tunnel) {size : Nat}
    (moved : tunnel.bridgeRead size = some next) : Sound depth next := by
  unfold Tunnel.bridgeRead at moved
  split at moved
  · rename_i guard
    rcases guard with ⟨bridged, some, available, wanted⟩
    have upward := sound.upward.read (sound.running bridged) some available wanted
    split at moved
    · rename_i stopped
      cases moved
      rw [stopped] at upward
      exact { sound with upward := upward, running := nofun }
    · rename_i live
      cases moved
      exact { sound with upward := upward, running := fun _ => live }
  · cases moved

theorem Sound.bridgeSend (sound : Sound depth tunnel) {accepted : Bool}
    (moved : tunnel.bridgeSend accepted = some next) : Sound depth next := by
  unfold Tunnel.bridgeSend at moved
  split at moved
  · rename_i buffer bridged sending
    split at moved
    · cases moved
      have upward := sound.upward
      rw [sending] at upward
      refine { sound with
        upward := upward.send
        running := fun _ => BridgePhase.noConfusion
        solicited := ?_ }
      intro empty
      cases List.append_eq_nil_iff.mp empty with
      | intro _ contrary => cases contrary
    · cases moved
      exact { sound with running := nofun }
  · cases moved

theorem Sound.bridgeRecv (sound : Sound depth tunnel) (moved : tunnel.bridgeRecv = some next) :
    Sound depth next := by
  unfold Tunnel.bridgeRecv at moved
  split at moved
  · rename_i datagram rest bridged free held
    split at moved
    · cases moved
    · rename_i down begun
      cases moved
      have downward := sound.downward
      rw [held] at downward
      exact { sound with downward := downward.begin begun }
  · cases moved

theorem Sound.bridgeWrite (sound : Sound depth tunnel) {action : Action}
    (writes : (exists size, action = .write size) ∨ action = .flush ∨
      exists error, action = .failWrite error)
    (moved : tunnel.bridgeWrite action = some next) : Sound depth next := by
  unfold Tunnel.bridgeWrite at moved
  split at moved
  · rename_i down bridged written
    cases moved
    refine { sound with downward := sound.downward.moved (Pipe.moved_of_step written) ?_ }
    rcases writes with write | flush | fails
    · exact .inl write
    · exact .inr (.inl flush)
    · exact .inr (.inr (.inl fails))
  · cases moved

theorem Sound.unbridged (sound : Sound depth tunnel) :
    Sound depth { tunnel with bridged := false } :=
  { sound with running := nofun }

theorem Sound.step (sound : Sound depth tunnel) {move : TunnelMove}
    (moved : tunnel.step move = some next) : Sound depth next := by
  cases move with
  | elapse duration =>
      simp only [Tunnel.step, Option.map_eq_some_iff] at moved
      rcases moved with ⟨front, stepped, rfl⟩
      exact sound.elapse stepped
  | arrive sender datagram =>
      rcases Option.ite_none_right_eq_some.mp moved with ⟨fits, same⟩
      cases same
      exact sound.arrive fits
  | front move =>
      rcases Option.ite_none_right_eq_some.mp moved with ⟨own, mapped⟩
      rcases Option.map_eq_some_iff.mp mapped with ⟨front, stepped, rfl⟩
      exact sound.front own stepped
  | frontRecv => exact sound.frontRecv moved
  | frontReply => exact sound.frontReply moved
  | frontReplyFails => exact sound.frontReply moved
  | sendPump => exact sound.sendPump moved
  | clientWrite size =>
      rcases Option.map_eq_some_iff.mp moved with ⟨up, stepped, rfl⟩
      exact sound.written (.inl ⟨size, rfl⟩) stepped
  | clientFlush => exact sound.sent (.inl rfl) moved
  | clientWriteFails error => exact sound.sent (.inr ⟨error, rfl⟩) moved
  | clientRecv => exact sound.clientRecv moved
  | clientRead size => exact sound.clientRead moved
  | clientReadFails error => exact sound.clientReadFails moved
  | closeUp arriving =>
      rcases Option.map_eq_some_iff.mp moved with ⟨up, stepped, rfl⟩
      exact sound.written (.inr ⟨arriving, rfl⟩) stepped
  | closeDown arriving =>
      rcases Option.map_eq_some_iff.mp moved with ⟨down, stepped, rfl⟩
      exact { sound with
        downward := sound.downward.moved (Pipe.moved_of_step stepped)
          (.inr (.inr (.inr (.inl ⟨arriving, rfl⟩)))) }
  | bridgeRead size => exact sound.bridgeRead moved
  | bridgeReadFails =>
      rcases Option.ite_none_right_eq_some.mp moved with ⟨_, same⟩
      cases same
      exact sound.unbridged
  | bridgeSend accepted => exact sound.bridgeSend moved
  | gatewaySend datagram =>
      rcases Option.ite_none_right_eq_some.mp moved with ⟨⟨spoken, fits⟩, same⟩
      cases same
      exact { sound with
        downward := sound.downward.answer fits
        solicited := fun silent => absurd silent spoken }
  | bridgeRecv => exact sound.bridgeRecv moved
  | bridgeRecvFails =>
      rcases Option.ite_none_right_eq_some.mp moved with ⟨_, same⟩
      cases same
      exact sound.unbridged
  | bridgeWrite size => exact sound.bridgeWrite (.inl ⟨size, rfl⟩) moved
  | bridgeFlush => exact sound.bridgeWrite (.inr (.inl rfl)) moved
  | bridgeWriteFails error =>
      rcases Option.map_eq_some_iff.mp moved with ⟨later, stepped, rfl⟩
      exact (sound.bridgeWrite (.inr (.inr ⟨error, rfl⟩)) stepped).unbridged

theorem sound_of_run {oracle : OracleParams} {queueDepth : Nat} {schedule : List TunnelMove}
    (ran : run Tunnel.step (start oracle queueDepth) schedule = some tunnel) :
    Sound (max queueDepth 1) tunnel :=
  invariant (Sound (max queueDepth 1)) (fun _ _ _ sound stepped => sound.step stepped)
    (sound_start oracle queueDepth) ran

/-- In every run of a tunnel.  The gateway is sent a beginning of what arrived at
the front, and the front's socket is handed a beginning of what the gateway sent
back, whatever reads and writes the stream asks for and wherever it closes; the
client is sent what the socket was handed, in order, less what it refused.
Replies are addressed to senders from which something arrived; everything that
was passed to the stream is counted; and the bridge ends on a length only if an
empty datagram arrived. -/
theorem tunnel_in_order (oracle : OracleParams) (queueDepth : Nat) (schedule : List TunnelMove)
    (tunnel : Tunnel)
    (ran : run Tunnel.step (start oracle queueDepth) schedule = some tunnel) :
    tunnel.injected <+: tunnel.arrived.map Prod.snd ∧
    tunnel.handed.map Prod.snd <+: tunnel.answered ∧
    tunnel.replies.Sublist tunnel.handed ∧
    (tunnel.replies.map Prod.snd).Sublist tunnel.answered ∧
    (forall reply, reply ∈ tunnel.handed -> reply.1 ∈ tunnel.arrived.map Prod.fst) ∧
    Passage (max queueDepth 1) (tunnel.arrived.map Prod.snd) (tunnel.handed.map Prod.snd)
      tunnel.front ∧
    (tunnel.toUdp = .stopped -> [] ∈ tunnel.arrived.map Prod.snd) := by
  have sound := sound_of_run ran
  have passage := sound.passing.passage
  have started : tunnel.front.boundary.starts.map Prod.snd <+: tunnel.arrived.map Prod.snd := by
    rw [passage.placed, List.append_assoc, List.append_assoc, List.append_assoc]
    exact List.prefix_append _ _
  have returned : tunnel.handed.map Prod.snd <+: tunnel.answered := by
    rcases passage.relayed with ⟨behind, answers, _⟩
    have relayed : tunnel.handed.map Prod.snd <+: oks tunnel.front.boundary.yielded := by
      rw [answers]
      exact List.prefix_append _ _
    exact relayed.trans sound.downward.begins
  refine ⟨sound.upward.begins.trans started, returned, sound.replied,
    (sound.replied.map Prod.snd).trans returned.sublist, sound.addressed.replies, passage, ?_⟩
  · intro stopped
    have empty := (sound.upward.ended stopped).2
    rw [sound.upward.begun] at empty
    exact started.subset empty

def torOracle : OracleParams := ⟨3, 100000000, 0, 0, 1200⟩

/-- A datagram of the client at 7 goes through in pieces, the gateway answers twice,
the socket of the front refuses the first answer, and the stream closes behind the
second. -/
def answeredSchedule : List TunnelMove :=
  [.arrive 7 [1, 2], .frontRecv, .front .reserve, .front .commit, .sendPump, .sendPump, .sendPump,
    .clientWrite 3, .bridgeRead 2, .clientWrite 1, .bridgeRead 2, .clientWrite 2, .clientFlush,
    .bridgeRead 1, .bridgeRead 1, .bridgeSend true, .gatewaySend [9], .gatewaySend [8, 8],
    .bridgeRecv, .bridgeWrite 4, .bridgeWrite 1, .bridgeFlush, .clientRecv, .clientRead 4,
    .clientRead 1, .front .recvPump, .front .recvPump, .front .lock, .front .take,
    .frontReplyFails, .bridgeRecv, .bridgeWrite 4, .bridgeWrite 2, .clientRecv, .clientRead 4,
    .closeDown 2, .clientRead 2, .front .recvPump, .front .recvPump, .front .lock, .front .take,
    .frontReply, .clientRecv, .clientReadFails earlyEof]

theorem tunnel_in_order_answered :
    exists tunnel, run Tunnel.step (start torOracle 16) answeredSchedule = some tunnel ∧
      tunnel.injected = [[1, 2]] ∧ tunnel.replies = [(7, [8, 8])] ∧
      tunnel.handed.map Prod.snd <+: [[9], [8, 8]] :=
  ⟨_, rfl, rfl, rfl, (tunnel_in_order torOracle 16 answeredSchedule _ rfl).2.1⟩

end Tunnel
end Tor
end QuicMix
