import QuicMix.Foundations.Lists
import QuicMix.Katzenpost.Requests
import Mathlib.Data.List.InsertIdx
import Mathlib.Data.List.Perm.Basic

namespace QuicMix
namespace Katzenpost

open Foundations

/-!
# What the daemons are sent

On every connection the requests whose calls returned without an error follow one
another as whole frames, in the order in which the calls obtained the lock, and
behind them there is at most the beginning of one more.  The first of them is the
session token.  No two requests of a process share a token, on whichever connections
they were sent.
-/

/-! ## One connection -/

namespace Connection

variable {encode : Request -> List UInt8} {process : Process} {connection next : Connection}

/-- What the holder of the lock has left completes the part that is written.  A
socket that is gone lets nobody go on, except to return. -/
def Holding (encode : Request -> List UInt8) (closed : Bool) (rest : List Entry)
    (part : List UInt8) : Option (Entry × List UInt8) -> Prop
  | none => closed = false -> rest = [] ∧ part = []
  | some (entry, left) => closed = false ∨ left = [] ->
      rest = [entry] ∧ part ++ left = frameOf encode entry.2

/-- The frames of the calls that returned, and a part of the next one. -/
def Framed (encode : Request -> List UInt8) (connection : Connection) : Prop :=
  exists (rest : List Entry) (part : List UInt8), connection.order = connection.sent ++ rest ∧
    connection.written = frames (connection.sent.map (fun entry => encode entry.2)) ++ part ∧
    (part = [] ∨ exists entry more, rest = entry :: more ∧ part <+: frameOf encode entry.2) ∧
    Holding encode connection.closed rest part connection.writer

theorem frameOf_ne_nil (request : Request) : frameOf encode request ≠ [] :=
  List.cons_ne_nil _ _

theorem Framed.moved (framed : Framed encode connection)
    (moved : Moved encode process connection next) : Framed encode next := by
  rcases framed with ⟨rest, part, ordered, written, begun, holding⟩
  cases moved with
  | established service fresh greeted => exact ⟨rest, part, ordered, written, begun, holding⟩
  | locked position call purpose chunks free waits drawn complete =>
      rw [free] at holding
      refine ⟨rest ++ [(call, purpose.request (tokenBytes chunks))], part, ?_, written, ?_, ?_⟩
      · rw [ordered, List.append_assoc]
      · rcases begun with nothing | ⟨entry, more, rfl, begins⟩
        · exact .inl nothing
        · exact .inr ⟨entry, more ++ [_], rfl, begins⟩
      · rintro (open_ | empty)
        · rcases holding open_ with ⟨rfl, rfl⟩
          exact ⟨rfl, rfl⟩
        · exact absurd empty (frameOf_ne_nil _)
  | wrote count entry left writer open_ positive fits =>
      rw [writer] at holding
      rcases holding (.inl open_) with ⟨rfl, whole⟩
      refine ⟨[entry], part ++ left.take count, ordered, ?_, ?_, ?_⟩
      · rw [← List.append_assoc, ← written]
      · refine .inr ⟨entry, [], rfl, left.drop count, ?_⟩
        rw [List.append_assoc, List.take_append_drop, whole]
      · intro _
        refine ⟨rfl, ?_⟩
        rw [List.append_assoc, List.take_append_drop, whole]
  | flushed entry writer =>
      rw [writer] at holding
      rcases holding (.inr rfl) with ⟨rfl, whole⟩
      rw [List.append_nil] at whole
      refine ⟨[], [], ?_, ?_, .inl rfl, fun _ => ⟨rfl, rfl⟩⟩
      · rw [List.append_nil]
        exact ordered
      · rw [List.append_nil, List.map_append, frames_append, written, whole]
        exact congrArg (_ ++ ·) (List.append_nil _).symm
  | failed entry left writer =>
      exact ⟨rest, part, ordered, written, begun, fun open_ => by cases open_⟩
  | closed =>
      refine ⟨rest, part, ordered, written, begun, ?_⟩
      change Holding encode true rest part connection.writer
      cases writer : connection.writer with
      | none => exact fun open_ => by cases open_
      | some held =>
          rw [writer] at holding
          rintro (open_ | empty)
          · cases open_
          · exact holding (.inr empty)

/-- The session token comes first, and everything else is a message. -/
inductive Opened (connection : Connection) : Prop where
  | dialed (call : Nat) (service : connection.service = none)
      (waiting : connection.waiting = [(call, .session)]) (order : connection.order = [])
  | greeted (first : Entry) (rest : List Entry) (order : connection.order = first :: rest)
      (session : first.2.sessionToken.isSome = true)
      (messages : forall entry, entry ∈ rest -> entry.2.sessionToken = none)
      (waiting : forall entry, entry ∈ connection.waiting -> entry.2 ≠ .session)

theorem Opened.of_eq (opened : Opened connection)
    (service : next.service = connection.service ∨ connection.order ≠ [])
    (waiting : next.waiting = connection.waiting) (order : next.order = connection.order) :
    Opened next := by
  cases opened with
  | dialed call fresh waits empty =>
      rcases service with same | ordered
      · exact .dialed call (same.trans fresh) (waiting.trans waits) (order.trans empty)
      · exact absurd empty ordered
  | greeted first rest ordered session messages waits =>
      exact .greeted first rest (order.trans ordered) session messages (waiting ▸ waits)

theorem request_message {purpose : Purpose} (token : List UInt8) (message : purpose ≠ .session) :
    (purpose.request token).sessionToken = none := by
  cases purpose with
  | session => exact absurd rfl message
  | message service datagram => rfl

theorem Opened.moved (opened : Opened connection) (framed : Framed encode connection)
    (moved : Moved encode process connection next) : Opened next := by
  cases moved with
  | established service fresh greeted =>
      refine opened.of_eq (.inr ?_) rfl rfl
      rcases framed with ⟨rest, _, ordered, _⟩
      intro empty
      rw [ordered] at empty
      exact greeted (List.append_eq_nil_iff.mp empty).1
  | locked position call purpose chunks free waits drawn complete =>
      cases opened with
      | dialed first fresh waiting empty =>
          rw [waiting] at waits
          cases position with
          | zero =>
              cases waits
              refine .greeted _ [] (congrArg (· ++ [_]) empty) rfl (List.forall_mem_nil _) ?_
              change forall entry, entry ∈ connection.waiting.eraseIdx 0 -> _
              rw [waiting]
              exact List.forall_mem_nil _
          | succ position => cases waits
      | greeted first rest ordered session messages waiting =>
          have message := waiting _ (List.mem_of_getElem? waits)
          refine .greeted first (rest ++ [_]) (congrArg (· ++ [_]) ordered) session ?_ ?_
          · intro entry member
            rcases List.mem_append.mp member with old | new
            · exact messages entry old
            · cases List.mem_singleton.mp new
              exact request_message _ message
          · intro entry member
            exact waiting entry (List.mem_of_mem_eraseIdx member)
  | wrote count entry left writer open_ positive fits => exact opened.of_eq (.inl rfl) rfl rfl
  | flushed entry writer => exact opened.of_eq (.inl rfl) rfl rfl
  | failed entry left writer => exact opened.of_eq (.inl rfl) rfl rfl
  | closed => exact opened.of_eq (.inl rfl) rfl rfl

end Connection

/-! ## All connections of a process -/

namespace Client

variable {encode : Request -> List UInt8} {client next : Client} {move : RequestMove}

/-- The request is the one that the call was made for, with the token that it drew. -/
def Drawn (client : Client) (index : Nat) (entry : Entry) : Prop :=
  exists (purpose : Purpose) (chunks : List Chunk),
    client.callers[entry.1]? = some (index, purpose) ∧
    client.process.calls[entry.1]? = some chunks ∧ chunks.length = tokenChunks ∧
    entry.2 = purpose.request (tokenBytes chunks)

/-- The calls of a connection are its own, and each of them has one place on it. -/
structure Owned (client : Client) (index : Nat) (connection : Connection) : Prop where
  drawn : forall entry, entry ∈ connection.order -> client.Drawn index entry
  waits : forall entry, entry ∈ connection.waiting ->
    client.callers[entry.1]? = some (index, entry.2)
  nodup : (connection.order.map Prod.fst ++ connection.waiting.map Prod.fst).Nodup

/-- Calls keep their connection, and tokens that are drawn stay. -/
structure Grows (client next : Client) : Prop where
  callers : forall (call : Nat) (caller : Nat × Purpose), client.callers[call]? = some caller ->
    next.callers[call]? = some caller
  tokens : forall (call : Nat) (chunks : List Chunk), client.process.calls[call]? = some chunks ->
    chunks.length = tokenChunks -> next.process.calls[call]? = some chunks

theorem Owned.grows {index : Nat} {connection : Connection} (owned : Owned client index connection)
    (grows : Grows client next) : Owned next index connection where
  drawn := by
    intro entry member
    rcases owned.drawn entry member with ⟨purpose, chunks, caller, made, complete, same⟩
    exact ⟨purpose, chunks, grows.callers _ _ caller, grows.tokens _ _ made complete, complete,
      same⟩
  waits := fun entry member => grows.callers _ _ (owned.waits entry member)
  nodup := owned.nodup

theorem Owned.of_eq {index : Nat} {connection later : Connection}
    (owned : Owned client index connection) (order : later.order = connection.order)
    (waiting : later.waiting = connection.waiting) : Owned client index later := by
  refine ⟨?_, ?_, ?_⟩
  · rw [order]
    exact owned.drawn
  · rw [waiting]
    exact owned.waits
  · rw [order, waiting]
    exact owned.nodup

/-- A call that obtains the lock changes its place. -/
theorem perm_lock {order waiting : List Nat} {position call : Nat}
    (waits : waiting[position]? = some call) :
    (order ++ [call] ++ waiting.eraseIdx position).Perm (order ++ waiting) := by
  rcases List.getElem?_eq_some_iff.mp waits with ⟨bound, rfl⟩
  rw [List.append_assoc]
  exact (List.getElem_cons_eraseIdx_perm bound).append_left order

theorem Owned.moved {index : Nat} {connection later : Connection}
    (owned : Owned client index connection)
    (moved : Connection.Moved encode client.process connection later) :
    Owned client index later := by
  cases moved with
  | locked position call purpose chunks free waits drawn complete =>
      have placed : (connection.waiting.map Prod.fst)[position]? = some call := by
        rw [List.getElem?_map, waits]
        rfl
      have perm := @perm_lock (connection.order.map Prod.fst) _ _ _ placed
      have same :
          (connection.order ++ [(call, purpose.request (tokenBytes chunks))]).map Prod.fst ++
            (connection.waiting.eraseIdx position).map Prod.fst =
          connection.order.map Prod.fst ++ [call] ++
            (connection.waiting.map Prod.fst).eraseIdx position := by
        rw [List.map_append, List.eraseIdx_map]
        rfl
      refine ⟨?_, ?_, ?_⟩
      · intro entry member
        rcases List.mem_append.mp member with old | new
        · exact owned.drawn entry old
        · cases List.mem_singleton.mp new
          exact ⟨purpose, chunks, owned.waits _ (List.mem_of_getElem? waits), drawn, complete,
            rfl⟩
      · intro entry member
        exact owned.waits entry (List.mem_of_mem_eraseIdx member)
      · change (List.map Prod.fst (connection.order ++ _) ++ _).Nodup
        rw [same]
        exact perm.nodup_iff.mpr owned.nodup
  | _ => exact owned.of_eq rfl rfl

/-- What holds of a connection of a client. -/
structure Kept (encode : Request -> List UInt8) (client : Client) (index : Nat)
    (connection : Connection) : Prop where
  framed : connection.Framed encode
  opened : connection.Opened
  owned : Owned client index connection

structure Sound (encode : Request -> List UInt8) (client : Client) : Prop where
  positioned : client.process.Positioned
  counted : client.callers.length = client.process.calls.length
  kept : forall (index : Nat) (connection : Connection),
    client.connections[index]? = some connection -> Kept encode client index connection

theorem Kept.grows {index : Nat} {connection : Connection}
    (kept : Kept encode client index connection) (grows : Grows client next) :
    Kept encode next index connection :=
  ⟨kept.framed, kept.opened, kept.owned.grows grows⟩

theorem grows_call (client : Client) (index : Nat) (purpose : Purpose)
    (connections : List Connection) :
    Grows client (client.call index purpose connections) where
  callers := fun _ _ located => getElem?_append_of_some located _
  tokens := fun _ _ located _ => getElem?_append_of_some located _

/-- Drawing does not change a token that is complete. -/
theorem grows_fetch {made : Nat} {process : Process}
    (stepped : client.process.step (.fetch made) = some process) :
    Grows client { client with process := process } where
  callers := fun _ _ located => located
  tokens := by
    intro call chunks located complete
    rcases Process.step_cases stepped with ⟨drew, _⟩ | ⟨made, part, _, there, room, rfl⟩
    · cases drew
    · change (client.process.calls.set made _)[call]? = _
      rw [List.getElem?_set_ne, located]
      intro same
      rw [same, located] at there
      cases there
      exact absurd complete (Nat.ne_of_lt room)

theorem sound_start : Sound encode start where
  positioned := Process.positioned_start
  counted := rfl
  kept := by
    intro index connection located
    cases located

/-- A new connection has its session token to send. -/
theorem Sound.connect (sound : Sound encode client) :
    Sound encode (client.call client.connections.length .session
      (client.connections ++ [Connection.dialed client.process.calls.length])) where
  positioned := sound.positioned.call
  counted := by
    change (client.callers ++ [_]).length = (client.process.calls ++ [_]).length
    rw [List.length_append, List.length_append, sound.counted]
    rfl
  kept := by
    refine forall_getElem?_concat ?_ ?_
    · intro index connection located
      exact (sound.kept index connection located).grows (grows_call client _ _ _)
    · refine ⟨⟨[], [], rfl, rfl, .inl rfl, fun _ => ⟨rfl, rfl⟩⟩, .dialed _ rfl rfl rfl,
        List.forall_mem_nil _, ?_, List.nodup_singleton _⟩
      intro entry member
      rw [List.mem_singleton.mp member, ← sound.counted]
      exact List.getElem?_concat_length

/-- A call is known by a number that no earlier one has. -/
theorem Owned.fresh {index : Nat} {connection : Connection}
    (owned : Owned client index connection)
    (counted : client.callers.length = client.process.calls.length) :
    client.process.calls.length ∉
      connection.order.map Prod.fst ++ connection.waiting.map Prod.fst := by
  intro member
  have located : exists caller, client.callers[client.process.calls.length]? = some caller := by
    rcases List.mem_append.mp member with ordered | waiting
    · rcases List.mem_map.mp ordered with ⟨entry, listed, same⟩
      rcases owned.drawn entry listed with ⟨purpose, _, caller, _⟩
      exact ⟨_, same ▸ caller⟩
    · rcases List.mem_map.mp waiting with ⟨entry, listed, same⟩
      exact ⟨_, same ▸ owned.waits entry listed⟩
  rcases located with ⟨caller, located⟩
  have bound := (List.getElem?_eq_some_iff.mp located).1
  exact Nat.lt_irrefl _ (counted ▸ bound)

theorem Sound.trySend (sound : Sound encode client) {index : Nat} {connection : Connection}
    {service : Service (List UInt8)} (located : client.connections[index]? = some connection)
    (established : connection.service = some service) (datagram : List UInt8) :
    Sound encode (client.call index (.message service datagram) (client.connections.set index
      { connection with
        waiting := connection.waiting ++
          [(client.process.calls.length, .message service datagram)] })) where
  positioned := sound.positioned.call
  counted := by
    change (client.callers ++ [_]).length = (client.process.calls ++ [_]).length
    rw [List.length_append, List.length_append, sound.counted]
    rfl
  kept := by
    have kept := sound.kept index connection located
    refine forall_getElem?_set ?_ ⟨kept.framed, ?_, ?_, ?_, ?_⟩
    · intro other found listed
      exact (sound.kept other found listed).grows (grows_call client _ _ _)
    · cases kept.opened with
      | dialed call fresh waiting empty => cases established.symm.trans fresh
      | greeted first rest ordered session messages waiting =>
          refine .greeted first rest ordered session messages ?_
          intro entry member
          rcases List.mem_append.mp member with old | new
          · exact waiting entry old
          · cases List.mem_singleton.mp new
            exact Purpose.noConfusion
    · exact (kept.owned.grows (grows_call client index _ _)).drawn
    · intro entry member
      rcases List.mem_append.mp member with old | new
      · exact (kept.owned.grows (grows_call client index _ _)).waits entry old
      · rw [List.mem_singleton.mp new, ← sound.counted]
        exact List.getElem?_concat_length
    · change (_ ++ (connection.waiting ++ _).map Prod.fst).Nodup
      rw [List.map_append, ← List.append_assoc]
      refine List.nodup_append.mpr ⟨kept.owned.nodup, List.nodup_singleton _, ?_⟩
      intro call old other new same
      rw [same, List.mem_singleton.mp new] at old
      exact kept.owned.fresh sound.counted old

theorem Sound.step (sound : Sound encode client) (moved : Moved encode client move next) :
    Sound encode next := by
  cases moved with
  | connected => exact sound.connect
  | called index datagram connection service located established =>
      exact sound.trySend located established datagram
  | fetched made process stepped =>
      refine ⟨sound.positioned.step stepped, ?_, ?_⟩
      · have lengths := (Process.fetched_step stepped).2
        exact sound.counted.trans lengths.symm
      · intro index connection located
        exact (sound.kept index connection located).grows (grows_fetch stepped)
  | moved _ index connection later quiet located moved =>
      refine ⟨sound.positioned, sound.counted, ?_⟩
      have kept := sound.kept index connection located
      refine forall_getElem?_set ?_ ?_
      · intro other found listed
        have old := sound.kept other found listed
        exact ⟨old.framed, old.opened, old.owned.drawn, old.owned.waits, old.owned.nodup⟩
      · have owned := kept.owned.moved moved
        exact ⟨kept.framed.moved moved, kept.opened.moved kept.framed moved, owned.drawn,
          owned.waits, owned.nodup⟩

theorem sound_of_run {schedule : List RequestMove}
    (ran : run (step encode) start schedule = some client) : Sound encode client :=
  invariant (Sound encode) (fun _ _ _ sound stepped => sound.step (moved_of_step stepped))
    sound_start ran

theorem length_calls_moved (moved : Moved encode client move next) :
    next.process.calls.length = client.process.calls.length + if move.draws then 1 else 0 := by
  cases moved with
  | connected => exact List.length_append
  | called index datagram connection service located established => exact List.length_append
  | fetched made process stepped => exact (Process.fetched_step stepped).2
  | moved _ index connection later quiet located moved =>
      rw [quiet]
      rfl

/-- As many tokens are drawn as there are calls that draw one. -/
theorem length_calls_of_run {schedule : List RequestMove}
    (ran : run (step encode) start schedule = some client) :
    client.process.calls.length = schedule.countP RequestMove.draws := by
  have counted := counter_of_run (fun _ => True) (fun client => client.process.calls.length)
    RequestMove.draws (fun _ _ _ _ _ => trivial)
    (fun _ _ _ _ stepped => length_calls_moved (moved_of_step stepped)) trivial ran
  exact counted.trans (Nat.zero_add _)

/-! ## Tokens -/

theorem token_request (token : List UInt8) (purpose : Purpose) :
    (purpose.request token).token = some token := by
  cases purpose with
  | session => rfl
  | message service datagram => rfl

theorem flatten_of_tokenBytes {first second : List Chunk}
    (same : tokenBytes first = tokenBytes second) : first.flatten = second.flatten := by
  refine List.map_injective_iff.mpr ?_ same
  intro left right equal
  exact UInt8.ofBitVec.inj equal

/-- A token belongs to one call. -/
theorem call_unique {process : Process} (positioned : process.Positioned)
    (few : process.calls.length < 2 ^ 63) {first second : Nat} {chunks : List Chunk}
    (located : process.calls[first]? = some chunks)
    (locatedSecond : process.calls[second]? = some chunks) (nonempty : chunks ≠ []) :
    first = second := by
  have apart := List.pairwise_iff_getElem.mp
    (List.nodup_flatten.mp (Process.nodup_halves positioned few)).2
  rcases List.exists_mem_of_ne_nil chunks nonempty with ⟨chunk, member⟩
  rcases List.getElem?_eq_some_iff.mp located with ⟨bound, here⟩
  rcases List.getElem?_eq_some_iff.mp locatedSecond with ⟨boundSecond, there⟩
  rcases Nat.lt_trichotomy first second with before | same | behind
  · have disjoint := apart first second bound boundSecond before
    rw [here, there] at disjoint
    exact absurd member (disjoint member)
  · exact same
  · have disjoint := apart second first boundSecond bound behind
    rw [here, there] at disjoint
    exact absurd member (disjoint member)

theorem Sound.entry_unique (sound : Sound encode client)
    (few : client.process.calls.length < 2 ^ 63) {index other : Nat} {entry another : Entry}
    (drawn : client.Drawn index entry) (drawnOther : client.Drawn other another)
    (same : entry.2.token = another.2.token) : index = other ∧ entry = another := by
  rcases drawn with ⟨purpose, chunks, caller, made, complete, request⟩
  rcases drawnOther with ⟨purposeOther, chunksOther, callerOther, madeOther, completeOther,
    requestOther⟩
  rw [request, requestOther, token_request, token_request] at same
  have equal : chunks = chunksOther :=
    sound.positioned.chunks_of_token sound.positioned (List.mem_of_getElem? made)
      (List.mem_of_getElem? madeOther) (complete.trans completeOther.symm)
      (flatten_of_tokenBytes (Option.some.inj same))
  subst equal
  have nonempty : chunks ≠ [] := by
    rintro rfl
    cases complete
  have call := call_unique sound.positioned few made madeOther nonempty
  rw [call, callerOther] at caller
  cases caller
  exact ⟨rfl, Prod.ext call (request.trans requestOther.symm)⟩

/-! ## Whole runs -/

/-- What a daemon is sent on a connection. -/
structure Sends (encode : Request -> List UInt8) (connection : Connection) : Prop where
  ordered : connection.sent <+: connection.order
  once : (connection.order.map Prod.fst).Nodup
  /-- Whole frames of the calls that returned, and the beginning of the next one. -/
  written : exists part,
    connection.written = frames (connection.sent.map (fun entry => encode entry.2)) ++ part ∧
    (part = [] ∨ exists entry, connection.order[connection.sent.length]? = some entry ∧
      part <+: frameOf encode entry.2)
  /-- However the daemon takes frames from the stream, these are the first. -/
  read : forall (limit : Nat) (payloads : List (List UInt8)) (tail : List UInt8),
    limit < 2 ^ 32 -> (forall entry, entry ∈ connection.sent -> (encode entry.2).length <= limit) ->
    Within limit payloads -> Stuck limit tail -> connection.written = frames payloads ++ tail ->
    connection.sent.map (fun entry => encode entry.2) <+: payloads
  first : forall entry, connection.order.head? = some entry ->
    entry.2.sessionToken.isSome = true
  others : forall entry, entry ∈ connection.order.tail -> entry.2.sessionToken = none

theorem Kept.sends {index : Nat} {connection : Connection}
    (kept : Kept encode client index connection) : Sends encode connection := by
  rcases kept.framed with ⟨rest, part, ordered, written, begun, _⟩
  refine ⟨⟨rest, ordered.symm⟩, (List.nodup_append.mp kept.owned.nodup).1,
    ⟨part, written, ?_⟩, ?_, ?_, ?_⟩
  · rcases begun with nothing | ⟨entry, more, rfl, begins⟩
    · exact .inl nothing
    · refine .inr ⟨entry, ?_, begins⟩
      rw [ordered, List.getElem?_append_right (Nat.le_refl _), Nat.sub_self]
      rfl
  · intro limit payloads tail small fits within stuck same
    have fitting : Within limit (connection.sent.map (fun entry => encode entry.2)) := by
      intro payload member
      rcases List.mem_map.mp member with ⟨entry, listed, rfl⟩
      exact fits entry listed
    rcases prefix_of_stuck small within fitting stuck (same.symm.trans written) with
      ⟨more, split, _⟩
    exact ⟨more, split.symm⟩
  · intro entry head
    cases kept.opened with
    | dialed call fresh waiting empty =>
        rw [empty] at head
        cases head
    | greeted first others order session messages waiting =>
        rw [order] at head
        cases head
        exact session
  · intro entry member
    cases kept.opened with
    | dialed call fresh waiting empty =>
        rw [empty] at member
        exact absurd member List.not_mem_nil
    | greeted first others order session messages waiting =>
        rw [order] at member
        exact messages entry member

/-- What the daemons are sent by a process. -/
structure Requested (encode : Request -> List UInt8) (client : Client) : Prop where
  sends : forall (index : Nat) (connection : Connection),
    client.connections[index]? = some connection -> Sends encode connection
  /-- Every request is what its call was made for, on the connection of the call. -/
  attributed : forall (index : Nat) (connection : Connection),
    client.connections[index]? = some connection ->
    forall entry, entry ∈ connection.order -> client.Drawn index entry
  /-- No two requests have the same token. -/
  distinct : forall (index other : Nat) (connection another : Connection),
    client.connections[index]? = some connection -> client.connections[other]? = some another ->
    forall entry request, entry ∈ connection.order -> request ∈ another.order ->
    entry.2.token = request.2.token -> index = other ∧ entry = request

/-- However the calls of a process interleave, on however many connections, and
whatever breaks off, every daemon is sent whole requests in the order of the lock,
the session token first, and no token twice. -/
theorem requests_whole (encode : Request -> List UInt8) (schedule : List RequestMove)
    (client : Client) (few : schedule.countP RequestMove.draws < 2 ^ 63)
    (ran : run (step encode) start schedule = some client) : Requested encode client := by
  have sound := sound_of_run ran
  rw [← length_calls_of_run ran] at few
  refine ⟨?_, ?_, ?_⟩
  · intro index connection located
    exact (sound.kept index connection located).sends
  · intro index connection located
    exact (sound.kept index connection located).owned.drawn
  · intro index other connection another located locatedOther entry request member memberOther
    exact sound.entry_unique few ((sound.kept index connection located).owned.drawn entry member)
      ((sound.kept other another locatedOther).owned.drawn request memberOther)

def echoService : Service (List UInt8) where
  destinationIdHash := List.replicate 32 5
  recipientQueueId := [43, 101, 99, 104, 111]

/-- Two connections, and on the first of them two messages of which the later one
obtains the lock first; the other one breaks off. -/
def requestSchedule : List RequestMove :=
  [.connect, .fetch 0, .connect, .fetch 1, .fetch 1, .fetch 0, .lock 1 0, .lock 0 0, .write 0 50,
    .write 1 3, .write 0 24, .flush 0, .establish 0 echoService, .trySend 0 [97], .trySend 0 [98],
    .fetch 3, .fetch 2, .fetch 3, .lock 0 1, .write 0 100, .fetch 2, .write 1 71, .write 0 56,
    .flush 1, .flush 0, .lock 0 0, .write 0 9, .close 0, .writeFails 0]

/-- Who returned, who had the lock, and how much was written. -/
def summary (client : Client) : List (List Nat × List Nat × Nat) :=
  client.connections.map (fun connection => (connection.sent.map Prod.fst,
    connection.order.map Prod.fst, connection.written.length))

theorem requests_whole_interleaved :
    exists client : Client,
      run (step Request.cbor) start requestSchedule = some client ∧
      Requested Request.cbor client ∧
      client.summary = [([0, 3], [0, 3, 2], 239), ([1], [1], 74)] := by
  have seen : (run (step Request.cbor) start requestSchedule).map summary =
      some [([0, 3], [0, 3, 2], 239), ([1], [1], 74)] := by
    decide +kernel
  rcases Option.map_eq_some_iff.mp seen with ⟨client, ran, seen⟩
  exact ⟨client, ran, requests_whole Request.cbor requestSchedule client (by decide) ran, seen⟩

end Client
end Katzenpost
end QuicMix
