import QuicMix.Tor.Tunnel

namespace QuicMix
namespace Tor

open Foundations
open Boundary
open Framing

/-!
# The two directions of a tunnel

Each direction is described by itself, with what it shares with the boundary as
parameters: the datagrams that the send pump has passed on in the one, and the
answers that the receive pump was given in the other.  In both, the datagrams that
come out at the end begin those that went in.
-/

/-! ## The boundary's part -/

/-- The move is one of the send pump. -/
def ofSendPump : Move -> Bool
  | .sendPump => true
  | .innerSent _ => true
  | _ => false

/-- The move brings an answer of the transport. -/
def brings : Move -> Bool
  | .innerReceived _ => true
  | _ => false

/-- The receive pump has an error in hand, or has ended. -/
def failing : RecvPump -> Bool
  | .holding (.error _) => true
  | .permitted (.error _) => true
  | .exited => true
  | _ => false

theorem sendPump_kept {traffic next : Traffic} {action : Move}
    (moved : Traffic.Moved traffic action next) (other : ofSendPump action = false) :
    next.starts = traffic.starts ∧ next.substrate.sendPump = traffic.substrate.sendPump := by
  cases moved with
  | took enqueued datagram channel pump taken => cases other
  | sendExited pump ended => cases other
  | gauged enqueued datagram pump => cases other
  | offered datagram pump => cases other
  | answered datagram result pump => cases other
  | counted result pump => cases other
  | paced pump => cases other
  | woken wakeAt pump reached => cases other
  | fetched result pump =>
      cases result with
      | ok datagram => exact ⟨rfl, rfl⟩
      | error error => exact ⟨rfl, rfl⟩
  | _ => exact ⟨rfl, rfl⟩

theorem answers_kept {traffic next : Traffic} {action : Move}
    (moved : Traffic.Moved traffic action next) (other : brings action = false) :
    next.yielded = traffic.yielded ∧
      (failing traffic.substrate.recvPump = true -> failing next.substrate.recvPump = true) := by
  cases moved with
  | fetched result pump => cases other
  | recvUnread item pump gone => exact ⟨rfl, fun _ => rfl⟩
  | recvReserved item channel pump reserved =>
      refine ⟨rfl, ?_⟩
      rw [pump]
      cases item with
      | ok datagram => exact fun contrary => contrary
      | error error => exact fun _ => rfl
  | recvQueued datagram channel pump committed =>
      refine ⟨rfl, ?_⟩
      rw [pump]
      intro contrary
      cases contrary
  | recvFailed error channel pump committed => exact ⟨rfl, fun _ => rfl⟩
  | counted result pump =>
      cases result with
      | ok _ => exact ⟨rfl, fun same => same⟩
      | error error => exact ⟨rfl, fun same => same⟩
  | _ => exact ⟨rfl, fun same => same⟩

/-- A move of the send pump passes on the datagram in its hand, or none. -/
theorem starts_of_sendPump {traffic next : Traffic}
    (moved : Traffic.Moved traffic .sendPump next) :
    (exists datagram, traffic.substrate.sendPump = .gauged datagram ∧
      next.starts.map Prod.snd = traffic.starts.map Prod.snd ++ [datagram]) ∨
    (forall datagram, traffic.substrate.sendPump ≠ .gauged datagram) ∧
      next.starts = traffic.starts := by
  cases moved with
  | offered datagram pump => exact .inl ⟨datagram, pump, List.map_append⟩
  | took enqueued datagram channel pump taken =>
      exact .inr ⟨fun _ same => (by cases pump.symm.trans same), rfl⟩
  | sendExited pump ended => exact .inr ⟨fun _ same => (by cases pump.symm.trans same), rfl⟩
  | gauged enqueued datagram pump => exact .inr ⟨fun _ same => (by cases pump.symm.trans same), rfl⟩
  | counted result pump => exact .inr ⟨fun _ same => (by cases pump.symm.trans same), rfl⟩
  | paced pump => exact .inr ⟨fun _ same => (by cases pump.symm.trans same), rfl⟩
  | woken wakeAt pump reached => exact .inr ⟨fun _ same => (by cases pump.symm.trans same), rfl⟩

theorem starts_of_innerSent {traffic next : Traffic} {result : SendResult}
    (moved : Traffic.Moved traffic (.innerSent result) next) :
    next.starts = traffic.starts := by
  cases moved with
  | answered datagram result pump => rfl

theorem held_of_innerReceived {traffic next : Traffic} {result : RecvResult}
    (moved : Traffic.Moved traffic (.innerReceived result) next) :
    next.yielded = traffic.yielded ++ [result] ∧
      next.substrate.recvPump = .holding result := by
  cases moved with
  | fetched result pump =>
      cases result with
      | ok datagram => exact ⟨rfl, rfl⟩
      | error error => exact ⟨rfl, rfl⟩

/-- The move is one of the receive pump, of the call under way or of the receiver. -/
def ofTasks : Move -> Bool
  | .recvPump => true
  | .reserve _ => true
  | .commit _ => true
  | .hangUp _ => true
  | .lockRecv => true
  | .takeRecv => true
  | _ => false

theorem tasks_apart {action : Move} (task : ofTasks action = true) :
    ofSendPump action = false ∧ brings action = false := by
  cases action with
  | recvPump => exact ⟨rfl, rfl⟩
  | reserve index => exact ⟨rfl, rfl⟩
  | commit index => exact ⟨rfl, rfl⟩
  | hangUp index => exact ⟨rfl, rfl⟩
  | lockRecv => exact ⟨rfl, rfl⟩
  | takeRecv => exact ⟨rfl, rfl⟩
  | _ => cases task

/-- Without a call there is nothing to accept. -/
theorem unheard_kept {traffic next : Traffic} {action : Move}
    (moved : Traffic.Moved traffic action next) (task : ofTasks action = true)
    (unheard : traffic.accepted = [] ∧ traffic.waiting = []) :
    next.accepted = [] ∧ next.waiting = [] := by
  cases moved with
  | reserved index call channel located reserved => exact unheard
  | committed index call channel located committed =>
      rw [unheard.2] at located
      cases located
  | hungUp index call located gone =>
      rw [unheard.2] at located
      cases located
  | recvUnread item pump gone => exact unheard
  | recvReserved item channel pump reserved => exact unheard
  | recvQueued datagram channel pump committed => exact unheard
  | recvFailed error channel pump committed => exact unheard
  | locked held free => exact unheard
  | delivered id item channel holder taken => exact unheard
  | deliveredClosed id holder ended => exact unheard
  | _ => cases task

/-- What a move of the front asks of its boundary. -/
theorem boundary_of_front {leg next : Leg} {move : LegMove} (own : ofFront move = true)
    (moved : leg.step move = some next) :
    next.socket = leg.socket ∧ (next.boundary = leg.boundary ∨
      exists action, Traffic.Moved leg.boundary action next.boundary ∧ ofTasks action = true) := by
  have front : move.incoming = none ∧
      forall action, move.inner = some action -> ofTasks action = true := by
    cases move <;> cases own <;> refine ⟨rfl, ?_⟩ <;> intro action inner <;> cases inner <;> rfl
  rcases Leg.parts_of_step moved with ⟨socket, parts⟩
  rw [front.1, Option.toList_none, List.append_nil] at socket
  rcases parts with ⟨_, same⟩ | ⟨action, inner, outcome⟩
  · exact ⟨socket, .inl same⟩
  · exact ⟨socket, .inr ⟨action, outcome, front.2 action inner⟩⟩

/-! ## From the client to the gateway -/

/-- A pipe with a single writer: it begins where the lock is free. -/
theorem beginFrame_eq_some {pipe next : Pipe} {datagram : Datagram} (alone : pipe.waiting = [])
    (begun : beginFrame pipe datagram = some next) :
    pipe.writer = .free ∧
      next = { pipe with waiting := [datagram] : Pipe }.lock 0 datagram := by
  have called : pipe.step (.call datagram) = some { pipe with waiting := [datagram] } := by
    rw [Pipe.step, alone, List.nil_append]
  rw [beginFrame, called] at begun
  cases Pipe.moved_of_step begun with
  | locked _ other free located =>
      cases located
      exact ⟨free, rfl⟩

theorem beginFrame_ordered {pipe : Pipe} (ordered : Pipe.Ordered pipe) (alone : pipe.waiting = [])
    (free : pipe.writer = .free) {datagram : Datagram} (fits : datagram.length <= maxDatagram) :
    Pipe.Ordered ({ pipe with waiting := [datagram] : Pipe }.lock 0 datagram) := by
  have called := ordered.call fits
  rw [alone, List.nil_append] at called
  exact called.lock free rfl

/-- The bytes of one direction: the datagrams that were begun are those that the
send pump passed on, and what the bridge has read are the frames of the injected
ones and what it has gathered since.  The bridge ends on a length only at an empty
datagram. -/
structure Upward (starts : List Datagram) (up : Pipe) (phase : BridgePhase)
    (injected : List Datagram) : Prop where
  ordered : Pipe.Ordered up
  busy : up.writer.Busy
  alone : up.waiting = []
  begun : up.order = starts
  within : Within maxDatagram injected
  gathered : phase ≠ .stopped ->
    phase.Proper ∧ up.consumed = frames injected ++ phase.held
  ended : phase = .stopped ->
    (exists tail, up.consumed = frames injected ++ tail) ∧ [] ∈ up.order

namespace Upward

variable {starts injected : List Datagram} {up next : Pipe} {phase : BridgePhase}

/-- The injected datagrams begin the ones that were passed on. -/
theorem begins (upward : Upward starts up phase injected) : injected <+: starts := by
  have consumed : exists tail, up.consumed = frames injected ++ tail := by
    by_cases stopped : phase = .stopped
    · exact (upward.ended stopped).1
    · exact ⟨_, (upward.gathered stopped).2⟩
  rcases consumed with ⟨tail, consumed⟩
  have split : up.consumed ++ up.wire = frames injected ++ tail ++ up.wire := by rw [consumed]
  rcases upward.ordered.decompose upward.within split with ⟨more, order, _⟩
  rw [← upward.begun, order]
  exact List.prefix_append _ _

theorem begin (upward : Upward starts up phase injected) {datagram : Datagram}
    (fits : datagram.length <= maxDatagram) (begun : beginFrame up datagram = some next) :
    Upward (starts ++ [datagram]) next phase injected := by
  rcases beginFrame_eq_some upward.alone begun with ⟨free, rfl⟩
  refine ⟨beginFrame_ordered upward.ordered upward.alone free fits, List.cons_ne_nil _ _, rfl, ?_,
    upward.within, upward.gathered, ?_⟩
  · rw [← upward.begun]
    rfl
  · intro stopped
    rcases upward.ended stopped with ⟨consumed, member⟩
    exact ⟨consumed, List.mem_append_left _ member⟩

/-- The writer goes on, or the stream closes. -/
theorem moved (upward : Upward starts up phase injected) {action : Action}
    (moved : Pipe.Moved up action next)
    (writes : (exists size, action = .write size) ∨ action = .flush ∨
      (exists error, action = .failWrite error) ∨ exists arriving, action = .close arriving) :
    Upward starts next phase injected := by
  have ordered : Pipe.Ordered next := by
    apply upward.ordered.moved ?_ moved
    intro datagram same
    rcases writes with ⟨_, rfl⟩ | rfl | ⟨_, rfl⟩ | ⟨_, rfl⟩ <;> cases same
  have busy := moved.busy upward.busy
  cases moved with
  | written size bytes after live wrote =>
      exact ⟨ordered, busy, upward.alone, upward.begun, upward.within, upward.gathered,
        upward.ended⟩
  | flushed flushing =>
      exact ⟨ordered, busy, upward.alone, upward.begun, upward.within, upward.gathered,
        upward.ended⟩
  | failed error closed =>
      exact ⟨ordered, busy, upward.alone, upward.begun, upward.within, upward.gathered,
        upward.ended⟩
  | closed arriving live =>
      exact ⟨ordered, busy, upward.alone, upward.begun, upward.within, upward.gathered,
        upward.ended⟩
  | _ => rcases writes with ⟨_, same⟩ | same | ⟨_, same⟩ | ⟨_, same⟩ <;> cases same

/-- The pipe after the bridge has read. -/
def after (up : Pipe) (size : Nat) : Pipe :=
  { up with wire := up.wire.drop size, consumed := up.consumed ++ up.wire.take size }

theorem after_ordered (ordered : Pipe.Ordered up) (size : Nat) : Pipe.Ordered (after up size) := by
  have whole : (up.consumed ++ up.wire.take size) ++ up.wire.drop size =
      up.consumed ++ up.wire := by
    rw [List.append_assoc, List.take_append_drop]
  refine ⟨ordered.fits, ?_, ?_⟩
  · intro live
    exact (congrArg (· ++ up.writer.left) whole).trans (ordered.open_ live)
  · intro closed
    exact whole ▸ ordered.cut closed

/-- An absurd length is that of an empty datagram. -/
theorem empty_of_absurd (ordered : Pipe.Ordered up) {datagrams : List Datagram}
    {tail rest : List UInt8} (within : Within maxDatagram datagrams)
    (consumed : up.consumed ++ up.wire = frames datagrams ++ tail ++ rest)
    (four : tail.length = 4) (absurdLength : ofBe tail = 0 ∨ maxDatagram < ofBe tail) :
    [] ∈ up.order := by
  rcases ordered.decompose within consumed with ⟨more, order, later, following⟩
  cases more with
  | nil =>
      have empty := congrArg List.length following
      rw [List.length_append, four, frames_nil, List.length_nil] at empty
      omega
  | cons datagram more =>
      have member : datagram ∈ up.order := by
        rw [order]
        exact List.mem_append_right _ List.mem_cons_self
      have fits := ordered.orderFits datagram member
      rw [frames_cons] at following
      rw [(List.append_inj following four).1,
        ofBe_be32 (Nat.lt_of_le_of_lt fits maxDatagram_small)] at absurdLength
      rcases absurdLength with zero | large
      · rw [← List.length_eq_zero_iff.mp zero]
        exact member
      · exact absurd large (Nat.not_lt.mpr fits)

theorem read (upward : Upward starts up phase injected) (running : phase ≠ .stopped) {size : Nat}
    (some : 0 < size) (available : size <= up.wire.length) (wanted : size <= phase.wanted) :
    Upward starts (after up size) (phase.read (up.wire.take size)) injected := by
  have taken : (up.wire.take size).length = size := by
    rw [List.length_take]
    omega
  rcases upward.gathered running with ⟨proper, consumed⟩
  have grown : (after up size).consumed =
      frames injected ++ (phase.held ++ up.wire.take size) := by
    rw [after, consumed, List.append_assoc]
  have ordered := after_ordered upward.ordered size
  rcases proper.read (taken.symm ▸ some) (Nat.le_trans (Nat.le_of_eq taken) wanted) with
    ⟨still, live, held⟩ | ⟨stopped, four, absurdLength⟩
  · refine ⟨ordered, upward.busy, upward.alone, upward.begun, upward.within, ?_,
      fun contrary => absurd contrary live⟩
    intro _
    exact ⟨still, by rw [grown, held]⟩
  · refine ⟨ordered, upward.busy, upward.alone, upward.begun, upward.within,
      fun contrary => absurd stopped contrary, ?_⟩
    intro _
    refine ⟨⟨_, grown⟩, ?_⟩
    have split : (after up size).consumed ++ (after up size).wire =
        frames injected ++ (phase.held ++ up.wire.take size) ++ (after up size).wire := by
      rw [grown]
    exact empty_of_absurd ordered upward.within split four absurdLength

theorem send {buffer : Datagram} (upward : Upward starts up (.sending buffer) injected) :
    Upward starts up (.header []) (injected ++ [buffer]) := by
  rcases upward.gathered BridgePhase.noConfusion with ⟨proper, consumed⟩
  refine { upward with within := ?_, gathered := ?_, ended := nofun }
  · exact upward.within.concat proper.1
  · intro _
    refine ⟨Nat.zero_lt_succ _, ?_⟩
    rw [consumed, frames_concat]
    simp only [BridgePhase.held, List.append_assoc, List.append_nil]

end Upward

/-! ## From the gateway to the client -/

/-- What `try_recv` returns on its own account is malformed. -/
theorem read_error {reader : Reader} {chunk : List UInt8} {error : SubstrateError}
    (failed : (reader.read chunk).2 = some (.error error)) : error = .malformed := by
  cases reader with
  | idle => cases failed
  | header got =>
      simp only [Reader.read] at failed
      split at failed
      · unfold Reader.ofHeader at failed
        split at failed
        · cases failed
          rfl
        · split at failed <;> cases failed
      · cases failed
  | payload size got =>
      simp only [Reader.read] at failed
      split at failed <;> cases failed

/-- The bytes of the other direction: the gateway's datagrams were begun or wait in
the socket of the bridge, and the answers that the receive pump was given are what
`try_recv` returned, until a read failed. -/
structure Downward (yielded : List RecvResult) (pump : RecvPump) (down : Pipe)
    (udp answered : List Datagram) : Prop where
  sound : Pipe.Sound down
  alone : down.waiting = []
  taken : answered = down.order ++ udp
  fits : Within maxPayload answered
  returned : exists datagrams : List Datagram, down.results = datagrams.map .ok
  yielding : exists failures, yielded = down.results ++ failures ∧ oks failures = [] ∧
    (failures ≠ [] -> failing pump = true)

namespace Downward

variable {yielded : List RecvResult} {pump : RecvPump} {down next : Pipe}
  {udp answered : List Datagram}

/-- The datagrams that the receive pump was given begin those of the gateway. -/
theorem begins (downward : Downward yielded pump down udp answered) :
    oks yielded <+: answered := by
  rcases downward.returned with ⟨datagrams, results⟩
  rcases downward.yielding with ⟨failures, same, none, _⟩
  rcases downward.sound.results with ⟨returned, closings, spelled, order, _⟩
  have closed : oks (List.replicate closings (.error .closed)) = [] := by
    apply List.filterMap_eq_nil_iff.mpr
    intro result member
    rw [List.eq_of_mem_replicate member]
    rfl
  have equal : datagrams = returned := by
    have both := congrArg oks (results.symm.trans spelled)
    rwa [oks_map_ok, oks_append, oks_map_ok, closed, List.append_nil] at both
  rw [same, oks_append, none, List.append_nil, results, oks_map_ok, downward.taken, equal]
  exact order.trans (List.prefix_append _ _)

/-- Nothing comes back before the gateway has sent something. -/
theorem silent (downward : Downward yielded pump down udp []) : oks yielded = [] :=
  List.prefix_nil.mp downward.begins

/-- The pump moves without an answer. -/
theorem pumped (downward : Downward yielded pump down udp answered) {later : RecvPump}
    (kept : failing pump = true -> failing later = true) :
    Downward yielded later down udp answered := by
  rcases downward.yielding with ⟨failures, same, none, failed⟩
  exact { downward with
    yielding := ⟨failures, same, none, fun some => kept (failed some)⟩ }

/-- A read fails. -/
theorem failed (downward : Downward yielded pump down udp answered) (error : SubstrateError) :
    Downward (yielded ++ [.error error]) (.holding (.error error)) down udp answered := by
  rcases downward.yielding with ⟨failures, same, none, _⟩
  refine { downward with yielding := ⟨failures ++ [.error error], ?_, ?_, fun _ => rfl⟩ }
  · rw [same, List.append_assoc]
  · rw [oks_append, none]
    rfl

theorem begin {datagram : Datagram} {rest : List Datagram}
    (downward : Downward yielded pump down (datagram :: rest) answered)
    (begun : beginFrame down datagram = some next) : Downward yielded pump next rest answered := by
  rcases beginFrame_eq_some downward.alone begun with ⟨free, rfl⟩
  have small : datagram.length <= maxDatagram := by
    have fits := downward.fits datagram (by
      rw [downward.taken]
      exact List.mem_append_right _ List.mem_cons_self)
    exact Nat.le_trans fits (by decide)
  have called := downward.sound.moved (fun other same => by
    cases same
    exact small) (.called datagram)
  rw [downward.alone, List.nil_append] at called
  have locked := called.moved (fun _ same => by cases same) (.locked 0 datagram free rfl)
  refine ⟨locked, rfl, ?_, downward.fits, downward.returned, downward.yielding⟩
  rw [downward.taken]
  simp only [Pipe.lock, List.append_assoc, List.singleton_append]

/-- The writer goes on, the stream closes or the reader enters `try_recv`. -/
theorem moved (downward : Downward yielded pump down udp answered) {action : Action}
    (moved : Pipe.Moved down action next)
    (quiet : (exists size, action = .write size) ∨ action = .flush ∨
      (exists error, action = .failWrite error) ∨ (exists arriving, action = .close arriving) ∨
      action = .recv) : Downward yielded pump next udp answered := by
  have sound : Pipe.Sound next := by
    apply downward.sound.moved ?_ moved
    intro datagram same
    rcases quiet with ⟨_, rfl⟩ | rfl | ⟨_, rfl⟩ | ⟨_, rfl⟩ | rfl <;> cases same
  rcases downward with ⟨_, alone, taken, fits, returned, yielding⟩
  cases moved with
  | written size bytes after live wrote => exact ⟨sound, alone, taken, fits, returned, yielding⟩
  | flushed flushing => exact ⟨sound, alone, taken, fits, returned, yielding⟩
  | failed error closed => exact ⟨sound, alone, taken, fits, returned, yielding⟩
  | closed arriving live => exact ⟨sound, alone, taken, fits, returned, yielding⟩
  | entered idle => exact ⟨sound, alone, taken, fits, returned, yielding⟩
  | _ => rcases quiet with ⟨_, same⟩ | same | ⟨_, same⟩ | ⟨_, same⟩ | same <;> cases same

/-- What a read returns, if it returns, is the next datagram. -/
theorem result (downward : Downward yielded pump down udp answered) {size : Nat}
    (moved : Pipe.Moved down (.read size) next) {result : RecvResult}
    (completed : (down.reader.read (down.wire.take size)).2 = some result) :
    exists datagram, result = .ok datagram := by
  cases result with
  | ok datagram => exact ⟨datagram, rfl⟩
  | error error =>
      have sound := downward.sound.moved (fun _ same => by cases same) moved
      rcases downward.returned with ⟨datagrams, results⟩
      cases moved with
      | received _ some available wanted =>
          have last : .error error ∈ (down.read size).results := by
            rw [Pipe.read]
            simp only [completed, Option.toList_some]
            exact List.mem_append_right _ List.mem_cons_self
          rcases sound.results with ⟨returned, closings, spelled, _⟩
          rw [spelled] at last
          rcases List.mem_append.mp last with fine | closed
          · rcases List.mem_map.mp fine with ⟨_, _, same⟩
            cases same
          · cases List.eq_of_mem_replicate closed
            cases read_error completed

/-- Where the receive pump stands after a read. -/
def afterRead : Option RecvResult -> RecvPump
  | none => .polling
  | some result => .holding result

theorem read (downward : Downward yielded pump down udp answered) (polling : pump = .polling)
    {size : Nat} (moved : Pipe.Moved down (.read size) next) :
    Downward (yielded ++ (down.reader.read (down.wire.take size)).2.toList)
      (afterRead (down.reader.read (down.wire.take size)).2) next udp answered := by
  have sound := downward.sound.moved (fun _ same => by cases same) moved
  rcases downward.returned with ⟨datagrams, results⟩
  rcases downward.yielding with ⟨failures, same, none, failed⟩
  have unfailed : failures = [] := by
    by_contra some
    have failing := failed some
    rw [polling] at failing
    cases failing
  rw [unfailed, List.append_nil] at same
  have completed := @downward.result _ _ _ _ _ _ size moved
  cases moved with
  | received _ some available wanted =>
      have grown : (down.read size).results =
          down.results ++ (down.reader.read (down.wire.take size)).2.toList := rfl
      refine ⟨sound, downward.alone, downward.taken, downward.fits, ?_, [], ?_, rfl,
        fun contrary => absurd rfl contrary⟩
      · rw [grown, results]
        cases answer : (down.reader.read (down.wire.take size)).2 with
        | none => exact ⟨datagrams, List.append_nil _⟩
        | some result =>
            rcases completed answer with ⟨datagram, rfl⟩
            refine ⟨datagrams ++ [datagram], ?_⟩
            rw [List.map_append]
            rfl
      · rw [grown, same, List.append_nil]

theorem answer (downward : Downward yielded pump down udp answered) {datagram : Datagram}
    (fits : datagram.length <= maxPayload) :
    Downward yielded pump down (udp ++ [datagram]) (answered ++ [datagram]) := by
  refine { downward with taken := ?_, fits := downward.fits.concat fits }
  rw [downward.taken, List.append_assoc]

end Downward

end Tor
end QuicMix
