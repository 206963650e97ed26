import QuicMix.Rotation.Sessions

namespace QuicMix
namespace Rotation

open Foundations
open Boundary

/-!
# A session survives its circuits

What the server notes under a session are the source addresses of the circuits that
carried it: one for each stream that it has read, in the order of each circuit's
streams, and under the session that the client meant, since a stream that breaks
off inside the id is not noted at all.  A call that returns without an error was
noted, unless its message was too long for the server.
-/

/-! ## One stream -/

namespace SessionStream

structure Sound (stream : SessionStream) : Prop where
  running : stream.phase = .writing -> stream.finished = false
  whole : stream.phase = .awaiting ∨ stream.phase = .returned true ->
    stream.finished = true ∧ stream.written = stream.buf.length

variable {stream next : SessionStream}

/-- The id that is read is the one that was written. -/
theorem sid_eq_some {session : SessionId} (read : stream.sid = some session) :
    session = stream.session := by
  unfold sid at read
  split at read
  · rename_i long
    cases read
    have written : 8 <= stream.written := by
      rw [data, List.length_take] at long
      exact Nat.le_trans long (Nat.min_le_left _ _)
    apply SessionId.ext
    change stream.data.take 8 = stream.session.bytes
    rw [data, List.take_take, Nat.min_eq_left written, buf]
    exact List.take_left' stream.session.length_eq
  · cases read

theorem length_buf (stream : SessionStream) : stream.buf.length = 8 + stream.msg.length := by
  rw [buf, List.length_append, stream.session.length_eq]

theorem length_data (stream : SessionStream) :
    stream.data.length = min stream.written (8 + stream.msg.length) := by
  rw [data, List.length_take, length_buf]

/-- The call goes on: it keeps what it has to send, and its stream grows until it
has ended. -/
structure Goes (stream next : SessionStream) : Prop where
  session : next.session = stream.session
  msg : next.msg = stream.msg
  grows : stream.written <= next.written
  ended : stream.finished = true -> next.finished = true ∧ next.written = stream.written

theorem Goes.refl (stream : SessionStream) : Goes stream stream :=
  ⟨rfl, rfl, Nat.le_refl _, fun ended => ⟨ended, rfl⟩⟩

theorem Goes.length_data_le (goes : Goes stream next) :
    stream.data.length <= next.data.length := by
  have grows := goes.grows
  rw [length_data, length_data, goes.msg]
  omega

theorem Goes.length_data_eq (goes : Goes stream next) (ended : stream.finished = true) :
    next.data.length = stream.data.length := by
  rw [length_data, length_data, goes.msg, (goes.ended ended).2]

theorem sound_openBi (session : SessionId) (msg : List UInt8) : (openBi session msg).Sound where
  running := fun _ => rfl
  whole := by
    intro phase
    rcases phase with phase | phase <;> cases phase

theorem Sound.write (sound : stream.Sound) {count : Nat} (moved : stream.write count = some next) :
    next.Sound ∧ stream.Goes next ∧ next.phase ≠ .returned true := by
  rcases Option.ite_none_right_eq_some.mp moved with ⟨⟨writing, fits⟩, same⟩
  cases same
  have unfinished := sound.running writing
  refine ⟨⟨sound.running, ?_⟩, ⟨rfl, rfl, Nat.le_add_right _ _, ?_⟩, ?_⟩
  · intro phase
    rcases phase with phase | phase <;> cases writing.symm.trans phase
  · intro ended
    cases unfinished.symm.trans ended
  · intro returned
    cases writing.symm.trans returned

theorem Sound.finish (moved : stream.finish = some next) :
    next.Sound ∧ stream.Goes next ∧ next.phase ≠ .returned true := by
  rcases Option.ite_none_right_eq_some.mp moved with ⟨⟨_, whole⟩, same⟩
  cases same
  exact ⟨⟨SendPhase.noConfusion, fun _ => ⟨rfl, whole⟩⟩,
    ⟨rfl, rfl, Nat.le_refl _, fun _ => ⟨rfl, rfl⟩⟩, SendPhase.noConfusion⟩

theorem Sound.abandon (moved : stream.abandon = some next) :
    next.Sound ∧ stream.Goes next ∧ next.phase ≠ .returned true := by
  unfold SessionStream.abandon at moved
  split at moved
  · cases moved
  · cases moved
    refine ⟨⟨SendPhase.noConfusion, ?_⟩, ⟨rfl, rfl, Nat.le_refl _, fun _ => ⟨rfl, rfl⟩⟩, ?_⟩
    · intro phase
      rcases phase with phase | phase <;> cases phase
    · intro returned
      cases returned

theorem Sound.readAck (sound : stream.Sound) {acked : Bool}
    (moved : stream.readAck acked = some next) :
    next.Sound ∧ stream.Goes next ∧ acked = true := by
  rcases Option.ite_none_right_eq_some.mp moved with ⟨⟨awaiting, ended⟩, same⟩
  cases same
  have whole := sound.whole (.inl awaiting)
  exact ⟨⟨SendPhase.noConfusion, fun _ => whole⟩,
    ⟨rfl, rfl, Nat.le_refl _, fun finished => ⟨finished, rfl⟩⟩, ended⟩

end SessionStream

/-! ## One circuit -/

namespace Circuit

/-- The server has read the stream to its end and has noted its session. -/
def Dealt (notes : List Note) (streams : List SessionStream) (index : Nat) : Prop :=
  exists stream, streams[index]? = some stream ∧ stream.finished = true ∧
    (8 <= stream.data.length -> exists note, note ∈ notes ∧ note.stream = index)

/-- What was noted of the streams of a circuit. -/
structure Noted (notes : List Note) (circuit : Circuit) : Prop where
  sound : forall (index : Nat) (stream : SessionStream),
    circuit.streams[index]? = some stream -> stream.Sound
  dealt : forall index, index < circuit.served ∨
    index = circuit.served ∧ circuit.server = .answering -> Dealt notes circuit.streams index
  refused : circuit.server = .refused -> exists stream,
    circuit.streams[circuit.served]? = some stream ∧ readLimit < stream.data.length
  ordered : (notes.map Note.stream).Pairwise (· < ·)
  bounded : forall note, note ∈ notes -> note.stream < circuit.served ∨
    note.stream = circuit.served ∧ (circuit.server = .answering ∨ circuit.server = .closed)
  attributed : forall note, note ∈ notes -> note.source = circuit.source ∧
    exists stream, circuit.streams[note.stream]? = some stream ∧ note.session = stream.session
  completed : forall (index : Nat) (stream : SessionStream),
    circuit.streams[index]? = some stream ->
    stream.phase = .returned true -> circuit.acked index = true

variable {notes : List Note} {circuit next : Circuit}

theorem noted_connectFresh (source : Address) : Noted [] (connectFresh source) where
  sound := nofun
  dealt := by
    intro index early
    rcases early with early | ⟨_, early⟩
    · exact absurd early (Nat.not_lt_zero _)
    · cases early
  refused := nofun
  ordered := .nil
  bounded := nofun
  attributed := nofun
  completed := nofun

/-- The streams go on, each by itself. -/
theorem Noted.goes (noted : Noted notes circuit) {streams : List SessionStream}
    (goes : forall (index : Nat) (stream : SessionStream), circuit.streams[index]? = some stream ->
      exists later, streams[index]? = some later ∧ stream.Goes later)
    (sound : forall (index : Nat) (later : SessionStream), streams[index]? = some later ->
      later.Sound)
    (completed : forall (index : Nat) (later : SessionStream), streams[index]? = some later ->
      later.phase = .returned true -> circuit.acked index = true) :
    Noted notes { circuit with streams := streams } := by
  refine ⟨sound, ?_, ?_, noted.ordered, noted.bounded, ?_, completed⟩
  · intro index early
    rcases noted.dealt index early with ⟨stream, located, finished, known⟩
    rcases goes index stream located with ⟨later, found, going⟩
    refine ⟨later, found, (going.ended finished).1, ?_⟩
    rw [going.length_data_eq finished]
    exact known
  · intro refused
    rcases noted.refused refused with ⟨stream, located, long⟩
    rcases goes _ stream located with ⟨later, found, going⟩
    exact ⟨later, found, Nat.lt_of_lt_of_le long going.length_data_le⟩
  · intro note member
    rcases noted.attributed note member with ⟨source, stream, located, session⟩
    rcases goes _ stream located with ⟨later, found, going⟩
    exact ⟨source, later, found, session.trans going.session.symm⟩

theorem Noted.openBi (noted : Noted notes circuit) (session : SessionId) (msg : List UInt8) :
    Noted notes { circuit with
      streams := circuit.streams ++ [SessionStream.openBi session msg] } := by
  have cases_ : forall (index : Nat) (later : SessionStream),
      (circuit.streams ++ [SessionStream.openBi session msg])[index]? = some later ->
      circuit.streams[index]? = some later ∨ later = SessionStream.openBi session msg := by
    intro index later located
    rw [List.getElem?_append] at located
    split at located
    · exact .inl located
    · exact .inr (List.mem_singleton.mp (List.mem_of_getElem? located))
  refine noted.goes ?_ ?_ ?_
  · intro index stream located
    exact ⟨stream, getElem?_append_of_some located _, .refl stream⟩
  · intro index later located
    rcases cases_ index later located with old | new
    · exact noted.sound index later old
    · rw [new]
      exact SessionStream.sound_openBi session msg
  · intro index later located returned
    rcases cases_ index later located with old | new
    · exact noted.completed index later old returned
    · rw [new] at returned
      cases returned

/-- A call goes on with its stream. -/
theorem Noted.call (noted : Noted notes circuit) {index : Nat}
    {change : SessionStream -> Option SessionStream}
    (keeps : forall stream later : SessionStream, stream.Sound -> change stream = some later ->
      later.Sound ∧ stream.Goes later ∧
        (later.phase = .returned true -> circuit.acked index = true))
    (moved : circuit.call index change = some next) : Noted notes next := by
  unfold Circuit.call at moved
  split at moved
  · cases moved
  · rename_i stream located
    rcases Option.map_eq_some_iff.mp moved with ⟨changed, went, rfl⟩
    rcases keeps stream changed (noted.sound index stream located) went with
      ⟨sound, going, returned⟩
    have bound : index < circuit.streams.length := (List.getElem?_eq_some_iff.mp located).1
    have here : (circuit.streams.set index changed)[index]? = some changed :=
      List.getElem?_set_self bound
    have apart : forall other, index ≠ other ->
        (circuit.streams.set index changed)[other]? = circuit.streams[other]? :=
      fun other different => List.getElem?_set_ne different
    refine noted.goes ?_ ?_ ?_
    · intro other old found
      by_cases same : index = other
      · subst same
        rw [located] at found
        cases found
        exact ⟨changed, here, going⟩
      · exact ⟨old, (apart other same).trans found, .refl old⟩
    · intro other later found
      by_cases same : index = other
      · subst same
        rw [here] at found
        cases found
        exact sound
      · rw [apart other same] at found
        exact noted.sound other later found
    · intro other later found done
      by_cases same : index = other
      · subst same
        rw [here] at found
        cases found
        exact returned done
      · rw [apart other same] at found
        exact noted.completed other later found done

theorem acked_eq_true {index : Nat} : circuit.acked index = true <->
    index < circuit.served ∨ index = circuit.served ∧ circuit.server = .refused :=
  decide_eq_true_iff

/-- As long as the server has not answered the current stream, its notes are of earlier
ones. -/
theorem Noted.earlier (noted : Noted notes circuit)
    (unread : circuit.server = .accepting ∨ circuit.server = .reading) {note : Note}
    (member : note ∈ notes) : note.stream < circuit.served := by
  rcases noted.bounded note member with early | ⟨_, answering | closed⟩
  · exact early
  · rcases unread with unread | unread <;> cases unread.symm.trans answering
  · rcases unread with unread | unread <;> cases unread.symm.trans closed

/-- The calls that have returned had their answer already. -/
theorem Noted.returned (noted : Noted notes circuit) (unrefused : circuit.server ≠ .refused)
    {index : Nat} {stream : SessionStream} (located : circuit.streams[index]? = some stream)
    (returned : stream.phase = .returned true) : index < circuit.served := by
  rcases acked_eq_true.mp (noted.completed index stream located returned) with early | ⟨_, refused⟩
  · exact early
  · exact absurd refused unrefused

/-- The server stands elsewhere, with the current stream unread or given up. -/
theorem Noted.stands (noted : Noted notes circuit) (unrefused : circuit.server ≠ .refused)
    {server : ServerPhase} (unanswered : server ≠ .answering)
    (refused : server = .refused -> exists stream,
      circuit.streams[circuit.served]? = some stream ∧ readLimit < stream.data.length)
    (bounded : forall note, note ∈ notes -> note.stream < circuit.served ∨
      note.stream = circuit.served ∧ server = .closed) :
    Noted notes { circuit with server := server } := by
  refine ⟨noted.sound, ?_, refused, noted.ordered, ?_, noted.attributed, ?_⟩
  · intro index early
    rcases early with early | ⟨_, answering⟩
    · exact noted.dealt index (.inl early)
    · exact absurd answering unanswered
  · intro note member
    rcases bounded note member with early | ⟨here, closed⟩
    · exact .inl early
    · exact .inr ⟨here, .inr closed⟩
  · intro index stream located returned
    exact acked_eq_true.mpr (.inl (noted.returned unrefused located returned))

theorem Noted.read (noted : Noted notes circuit) {note : Option Note}
    (moved : circuit.read = some (next, note)) : Noted (notes ++ note.toList) next := by
  unfold Circuit.read at moved
  split at moved
  · rename_i stream reading located
    rcases Option.ite_none_right_eq_some.mp moved with ⟨⟨finished, _⟩, same⟩
    cases same
    have unrefused : circuit.server ≠ .refused := by
      rw [reading]
      exact ServerPhase.noConfusion
    have fresh : forall new, new ∈
        (stream.sid.map (fun session => Note.mk circuit.served session circuit.source)).toList ->
        new.stream = circuit.served ∧ new.source = circuit.source ∧
          new.session = stream.session := by
      intro new member
      rcases Option.map_eq_some_iff.mp (Option.mem_toList.mp member) with ⟨session, read, rfl⟩
      exact ⟨rfl, rfl, SessionStream.sid_eq_some read⟩
    refine ⟨noted.sound, ?_, ServerPhase.noConfusion, ?_, ?_, ?_, ?_⟩
    · intro index early
      rcases early with early | ⟨rfl, _⟩
      · rcases noted.dealt index (.inl early) with ⟨other, found, ended, known⟩
        refine ⟨other, found, ended, ?_⟩
        intro long
        rcases known long with ⟨old, member, here⟩
        exact ⟨old, List.mem_append_left _ member, here⟩
      · refine ⟨stream, located, finished, ?_⟩
        intro long
        have read : stream.sid = some ⟨stream.data.take 8, by
            rw [List.length_take, Nat.min_eq_left long]⟩ := dif_pos long
        rw [read]
        exact ⟨⟨circuit.served, _, circuit.source⟩,
          List.mem_append_right _ List.mem_cons_self, rfl⟩
    · rw [List.map_append]
      refine List.pairwise_append.mpr ⟨noted.ordered, ?_, ?_⟩
      · cases stream.sid with
        | none => exact .nil
        | some session => exact List.pairwise_singleton _ _
      · intro first earlier second later
        rcases List.mem_map.mp earlier with ⟨old, member, rfl⟩
        rcases List.mem_map.mp later with ⟨new, listed, rfl⟩
        rw [(fresh new listed).1]
        exact noted.earlier (.inr reading) member
    · intro entry member
      rcases List.mem_append.mp member with old | new
      · exact .inl (noted.earlier (.inr reading) old)
      · exact .inr ⟨(fresh entry new).1, .inl rfl⟩
    · intro entry member
      rcases List.mem_append.mp member with old | new
      · exact noted.attributed entry old
      · rcases fresh entry new with ⟨here, source, session⟩
        exact ⟨source, stream, here ▸ located, session⟩
    · intro index other found returned
      exact acked_eq_true.mpr (.inl (noted.returned unrefused found returned))
  · cases moved

theorem Noted.refuse (noted : Noted notes circuit) (moved : circuit.refuse = some next) :
    Noted notes next := by
  unfold Circuit.refuse at moved
  split at moved
  · rename_i stream reading located
    rcases Option.ite_none_right_eq_some.mp moved with ⟨long, same⟩
    cases same
    refine noted.stands ?_ ServerPhase.noConfusion (fun _ => ⟨stream, located, long⟩) ?_
    · rw [reading]
      exact ServerPhase.noConfusion
    · intro note member
      exact .inl (noted.earlier (.inr reading) member)
  · cases moved

theorem Noted.answer (noted : Noted notes circuit) (answering : circuit.server = .answering) :
    Noted notes { circuit with served := circuit.served + 1, server := .accepting } := by
  refine ⟨noted.sound, ?_, ServerPhase.noConfusion, noted.ordered, ?_, noted.attributed, ?_⟩
  · intro index early
    rcases early with early | ⟨_, accepting⟩
    · rcases Nat.lt_succ_iff_lt_or_eq.mp early with before | here
      · exact noted.dealt index (.inl before)
      · exact noted.dealt index (.inr ⟨here, answering⟩)
    · cases accepting
  · intro note member
    rcases noted.bounded note member with early | ⟨here, _⟩
    · exact .inl (Nat.lt_succ_of_lt early)
    · exact .inl (Nat.lt_succ_of_le (Nat.le_of_eq here))
  · intro index stream located returned
    have unrefused : circuit.server ≠ .refused := by
      rw [answering]
      exact ServerPhase.noConfusion
    exact acked_eq_true.mpr (.inl (Nat.lt_succ_of_lt (noted.returned unrefused located returned)))

theorem Noted.step (noted : Noted notes circuit) {move : CircuitMove} {note : Option Note}
    (moved : circuit.step move = some (next, note)) : Noted (notes ++ note.toList) next := by
  have quiet : forall {result : Option Circuit}, result.map (·, none) = some (next, note) ->
      (forall later, result = some later -> Noted notes later) ->
      Noted (notes ++ note.toList) next := by
    intro result mapped keeps
    rcases Option.map_eq_some_iff.mp mapped with ⟨later, found, same⟩
    cases same
    rw [Option.toList_none, List.append_nil]
    exact keeps _ found
  cases move with
  | openBi session msg =>
      cases moved
      rw [Option.toList_none, List.append_nil]
      exact noted.openBi session msg
  | write index count =>
      refine quiet moved (fun later went => noted.call ?_ went)
      intro stream changed sound wrote
      rcases sound.write wrote with ⟨kept, going, unreturned⟩
      exact ⟨kept, going, fun returned => absurd returned unreturned⟩
  | finish index =>
      refine quiet moved (fun later went => noted.call ?_ went)
      intro stream changed sound finished
      rcases SessionStream.Sound.finish finished with ⟨kept, going, unreturned⟩
      exact ⟨kept, going, fun returned => absurd returned unreturned⟩
  | abandon index =>
      refine quiet moved (fun later went => noted.call ?_ went)
      intro stream changed sound abandoned
      rcases SessionStream.Sound.abandon abandoned with ⟨kept, going, unreturned⟩
      exact ⟨kept, going, fun returned => absurd returned unreturned⟩
  | readAck index =>
      refine quiet moved (fun later went => noted.call ?_ went)
      intro stream changed sound read
      rcases sound.readAck read with ⟨kept, going, acked⟩
      exact ⟨kept, going, fun _ => acked⟩
  | accept =>
      rcases Option.ite_none_right_eq_some.mp moved with ⟨⟨accepting, _⟩, same⟩
      cases same
      rw [Option.toList_none, List.append_nil]
      refine noted.stands ?_ ServerPhase.noConfusion ServerPhase.noConfusion ?_
      · rw [accepting]
        exact ServerPhase.noConfusion
      · intro entry member
        exact .inl (noted.earlier (.inl accepting) member)
  | read => exact noted.read moved
  | refuse => exact quiet moved (fun later refused => noted.refuse refused)
  | answer =>
      rcases Option.ite_none_right_eq_some.mp moved with ⟨answering, same⟩
      cases same
      rw [Option.toList_none, List.append_nil]
      exact noted.answer answering
  | close =>
      rcases Option.ite_none_left_eq_some.mp moved with ⟨unrefused, same⟩
      cases same
      rw [Option.toList_none, List.append_nil]
      refine noted.stands unrefused ServerPhase.noConfusion ServerPhase.noConfusion ?_
      intro entry member
      rcases noted.bounded entry member with early | ⟨here, _⟩
      · exact .inl early
      · exact .inr ⟨here, rfl⟩

end Circuit

/-! ## All circuits -/

namespace Rotating

/-- What the table of the server says of the circuits. -/
structure Recorded (rotating : Rotating) : Prop where
  noted : forall (index : Nat) (circuit : Circuit), rotating.circuits[index]? = some circuit ->
    circuit.Noted (labelled rotating.log index)
  known : forall entry, entry ∈ rotating.log -> entry.1 < rotating.circuits.length
  sessions : forall session, rotating.sessions session =
    (rotating.log.filter (fun entry => entry.2.session = session)).map (fun entry => entry.2.source)

variable {rotating next : Rotating}

theorem recorded_start : Recorded start where
  noted := nofun
  known := nofun
  sessions := fun _ => rfl

theorem Recorded.connect (recorded : Recorded rotating) (source : Address) :
    Recorded { rotating with
      circuits := rotating.circuits ++ [Circuit.connectFresh source] } := by
  refine ⟨?_, ?_, recorded.sessions⟩
  · intro index circuit located
    rw [List.getElem?_append] at located
    split at located
    · exact recorded.noted index circuit located
    · rename_i beyond
      rw [List.mem_singleton.mp (List.mem_of_getElem? located)]
      have silent : labelled rotating.log index = [] := by
        apply labelled_eq_nil.mpr
        intro member
        rcases List.mem_map.mp member with ⟨entry, listed, rfl⟩
        exact beyond (recorded.known entry listed)
      change Circuit.Noted (labelled rotating.log index) _
      rw [silent]
      exact Circuit.noted_connectFresh source
  · intro entry member
    rw [List.length_append]
    exact Nat.lt_of_lt_of_le (recorded.known entry member) (Nat.le_add_right _ _)

/-- The records after a circuit has made a move. -/
theorem Recorded.circuit (recorded : Recorded rotating) {index : Nat} {circuit later : Circuit}
    {note : Option Note} (located : rotating.circuits[index]? = some circuit)
    (noted : later.Noted (labelled rotating.log index ++ note.toList)) :
    Recorded ({ rotating with circuits := rotating.circuits.set index later }.note index note) := by
  have bound : index < rotating.circuits.length := (List.getElem?_eq_some_iff.mp located).1
  cases note with
  | none =>
      rw [Option.toList_none, List.append_nil] at noted
      refine ⟨?_, ?_, recorded.sessions⟩
      · intro other found listed
        change (rotating.circuits.set index later)[other]? = some found at listed
        by_cases same : index = other
        · subst same
          rw [List.getElem?_set_self bound] at listed
          cases listed
          exact noted
        · rw [List.getElem?_set_ne same] at listed
          exact recorded.noted other found listed
      · intro entry member
        change entry.1 < (rotating.circuits.set index later).length
        rw [List.length_set]
        exact recorded.known entry member
  | some note =>
      refine ⟨?_, ?_, ?_⟩
      · intro other found listed
        change (rotating.circuits.set index later)[other]? = some found at listed
        change found.Noted (labelled (rotating.log ++ [(index, note)]) other)
        rw [labelled_append]
        by_cases same : index = other
        · subst same
          rw [List.getElem?_set_self bound] at listed
          cases listed
          rw [show labelled [(index, note)] index = [note] from labelled_self index [note]]
          exact noted
        · rw [List.getElem?_set_ne same] at listed
          rw [show labelled [(index, note)] other = [] from labelled_other [note] same,
            List.append_nil]
          exact recorded.noted other found listed
      · intro entry member
        change entry.1 < (rotating.circuits.set index later).length
        rw [List.length_set]
        rcases List.mem_append.mp member with old | new
        · exact recorded.known entry old
        · rw [List.mem_singleton.mp new]
          exact bound
      · intro session
        change Function.update rotating.sessions note.session
          (rotating.sessions note.session ++ [note.source]) session = _
        change _ = ((rotating.log ++ [(index, note)]).filter _).map _
        rw [List.filter_append, List.map_append]
        by_cases same : session = note.session
        · subst same
          rw [Function.update_self, recorded.sessions]
          simp only [decide_true, List.filter_cons_of_pos, List.filter_nil, List.map_cons,
            List.map_nil]
        · rw [Function.update_of_ne same, recorded.sessions]
          simp only [Ne.symm same, decide_false, Bool.false_eq_true, not_false_eq_true,
            List.filter_cons_of_neg, List.filter_nil, List.map_nil, List.append_nil]

theorem Recorded.step (recorded : Recorded rotating) {move : RotationMove}
    (moved : rotating.step move = some next) : Recorded next := by
  cases move with
  | connect source =>
      cases moved
      exact recorded.connect source
  | circuit index move =>
      simp only [Rotating.step] at moved
      split at moved
      · cases moved
      · rename_i circuit located
        split at moved
        · cases moved
        · rename_i later note stepped
          cases moved
          exact recorded.circuit located ((recorded.noted index circuit located).step stepped)

/-- What a server that serves disposable circuits knows of the sessions. -/
structure Continuous (rotating : Rotating) : Prop where
  /-- A session has the sources of the circuits that carried it, as they were noted. -/
  sessions : forall session, rotating.sessions session =
    (rotating.log.filter (fun entry => entry.2.session = session)).map (fun entry => entry.2.source)
  /-- What was noted is the session of a call on that circuit. -/
  attributed : forall index note, (index, note) ∈ rotating.log ->
    exists circuit stream, rotating.circuits[index]? = some circuit ∧
      circuit.streams[note.stream]? = some stream ∧ note.session = stream.session ∧
      note.source = circuit.source
  /-- The calls of a circuit are noted at most once and in their order. -/
  ordered : forall index, ((labelled rotating.log index).map Note.stream).Pairwise (· < ·)
  /-- A call that has returned without an error was noted. -/
  acknowledged : forall (index : Nat) (circuit : Circuit) (call : Nat) (stream : SessionStream),
    rotating.circuits[index]? = some circuit -> circuit.streams[call]? = some stream ->
    stream.phase = .returned true -> 8 + stream.msg.length <= readLimit ->
    exists note, (index, note) ∈ rotating.log ∧ note.stream = call ∧
      note.session = stream.session ∧ note.source = circuit.source

/-- In every run of any number of calls over any number of circuits, whatever breaks
off, a session is noted under its own id, with the circuits that carried it. -/
theorem sessions_continuous (schedule : List RotationMove) (rotating : Rotating)
    (ran : run Rotating.step start schedule = some rotating) : Continuous rotating := by
  have recorded : Recorded rotating :=
    invariant Recorded (fun _ _ _ recorded stepped => recorded.step stepped) recorded_start ran
  refine ⟨recorded.sessions, ?_, ?_, ?_⟩
  · intro index note member
    have located := List.getElem?_eq_getElem (recorded.known _ member)
    have noted := recorded.noted index _ located
    rcases noted.attributed note (mem_labelled.mpr member) with ⟨source, stream, found, session⟩
    exact ⟨_, stream, located, found, session, source⟩
  · intro index
    cases located : rotating.circuits[index]? with
    | some circuit => exact (recorded.noted index circuit located).ordered
    | none =>
        have silent : labelled rotating.log index = [] := by
          apply labelled_eq_nil.mpr
          intro member
          rcases List.mem_map.mp member with ⟨entry, listed, rfl⟩
          exact absurd (recorded.known entry listed)
            (Nat.not_lt_of_le (List.getElem?_eq_none_iff.mp located))
        rw [silent]
        exact .nil
  · intro index circuit call stream located found returned short
    have noted := recorded.noted index circuit located
    have whole := (noted.sound call stream found).whole (.inr returned)
    have length : stream.data.length = 8 + stream.msg.length := by
      rw [stream.length_data, whole.2, stream.length_buf, Nat.min_self]
    rcases Circuit.acked_eq_true.mp (noted.completed call stream found returned) with
      early | ⟨here, refused⟩
    · rcases noted.dealt call (.inl early) with ⟨other, same, _, known⟩
      rw [found] at same
      cases same
      rcases known (by omega) with ⟨note, member, position⟩
      rcases noted.attributed note member with ⟨source, other, listed, session⟩
      rw [position, found] at listed
      cases listed
      exact ⟨note, mem_labelled.mp member, position, session, source⟩
    · rcases noted.refused refused with ⟨other, same, long⟩
      rw [← here, found] at same
      cases same
      omega

def sampleSession : SessionId := ⟨[1, 2, 3, 4, 5, 6, 7, 8], rfl⟩

/-- A session that moves to a second circuit while its first call is not answered
yet; a third call breaks off inside the id. -/
def rotationSchedule : List RotationMove :=
  [.connect 4001, .circuit 0 (.openBi sampleSession [97]), .circuit 0 (.write 0 5), .connect 4002,
    .circuit 0 (.write 0 4), .circuit 1 (.openBi sampleSession [98]), .circuit 0 .accept,
    .circuit 0 (.finish 0), .circuit 1 (.write 0 9), .circuit 0 .read, .circuit 1 (.finish 0),
    .circuit 1 .accept, .circuit 1 .read, .circuit 1 .answer, .circuit 1 (.openBi sampleSession []),
    .circuit 1 (.write 1 7), .circuit 0 .answer, .circuit 1 (.abandon 1), .circuit 1 (.readAck 0),
    .circuit 0 (.readAck 0), .circuit 1 .accept, .circuit 1 .read, .circuit 1 .answer]

theorem sessions_continuous_rotated :
    exists rotating : Rotating, run Rotating.step start rotationSchedule = some rotating ∧
      Continuous rotating ∧ rotating.sessions sampleSession = [4001, 4002] := by
  refine ⟨_, rfl, sessions_continuous rotationSchedule _ rfl, by decide⟩

end Rotating
end Rotation
end QuicMix
