import QuicMix.Foundations.Lists
import QuicMix.Foundations.Schedule
import QuicMix.Framing.StreamDatagram

namespace QuicMix
namespace Framing

open Foundations
open Boundary

/-!
# The round trip through a byte stream

The bytes that were read, those on the way and those that the holder of the lock
has left spell the frames of the datagrams in lock order.  The bytes that were
read are also the frames of the datagrams that were returned, followed by what
the call under way has gathered, which is never a whole frame.  Since frames are
decomposed in one way only, the returned datagrams begin the lock order.

While the stream is open, a move of either end uses up a bounded stock of moves,
and the two are stuck only when all has been delivered.
-/

theorem maxDatagram_small : maxDatagram < 2 ^ 32 := by decide

namespace Reader

/-- The bytes that the call under way has gathered. -/
def held : Reader -> List UInt8
  | .idle => []
  | .header got => got
  | .payload size got => be32 size ++ got

/-- The read under way is not complete, and a payload is within the bound. -/
def Proper : Reader -> Prop
  | .idle => True
  | .header got => got.length < 4
  | .payload size got => size <= maxDatagram ∧ got.length < size

theorem Proper.stuck {reader : Reader} (proper : reader.Proper) :
    Stuck maxDatagram reader.held := by
  cases reader with
  | idle => exact .inl (Nat.zero_lt_succ _)
  | header got => exact .inl proper
  | payload size got =>
      have small := maxDatagram_small
      have header : (be32 size ++ got).take 4 = be32 size := List.take_left' rfl
      refine .inr (.inr ?_)
      rw [held, header, ofBe_be32 (Nat.lt_of_le_of_lt proper.1 small), List.length_append,
        length_be32]
      exact Nat.add_lt_add_left proper.2 4

/-- What one read does: it gathers the bytes, completes a frame, or completes a
length that is too large. -/
inductive ReadOutcome (reader : Reader) (chunk : List UInt8) : Reader × Option RecvResult -> Prop
  | gathered (after : Reader) (proper : after.Proper) (held : after.held = reader.held ++ chunk) :
      ReadOutcome reader chunk (after, none)
  | completed (datagram : Datagram) (fits : datagram.length <= maxDatagram)
      (frame : reader.held ++ chunk = be32 datagram.length ++ datagram) :
      ReadOutcome reader chunk (.idle, some (.ok datagram))
  | malformed (four : (reader.held ++ chunk).length = 4)
      (large : maxDatagram < ofBe (reader.held ++ chunk)) :
      ReadOutcome reader chunk (.idle, some (.error .malformed))

theorem Proper.ofHeader {got chunk : List UInt8} (four : (got ++ chunk).length = 4) :
    ReadOutcome (.header got) chunk (ofHeader (got ++ chunk)) := by
  unfold Reader.ofHeader
  by_cases large : ofBe (got ++ chunk) > maxDatagram
  · rw [if_pos large]
    exact .malformed four large
  · rw [if_neg large]
    by_cases empty : ofBe (got ++ chunk) = 0
    · rw [if_pos empty]
      refine .completed [] (Nat.zero_le _) ?_
      have same := be32_ofBe four
      rw [empty] at same
      rw [List.append_nil]
      exact same.symm
    · rw [if_neg empty]
      refine .gathered _ ⟨Nat.le_of_not_lt large, Nat.pos_of_ne_zero empty⟩ ?_
      exact (List.append_nil _).trans (be32_ofBe four)

theorem Proper.read {reader : Reader} (proper : reader.Proper) {chunk : List UInt8}
    (some : 0 < chunk.length) (fits : chunk.length <= reader.wanted) :
    ReadOutcome reader chunk (reader.read chunk) := by
  cases reader with
  | idle => exact absurd (Nat.lt_of_lt_of_le some fits) (Nat.lt_irrefl 0)
  | header got =>
      have short : got.length < 4 := proper
      have room : chunk.length <= 4 - got.length := fits
      simp only [Reader.read]
      split
      · rename_i four
        exact Proper.ofHeader four
      · rename_i less
        refine .gathered _ ?_ rfl
        rw [List.length_append] at less
        change (got ++ chunk).length < 4
        rw [List.length_append]
        omega
  | payload size got =>
      have short : got.length < size := proper.2
      have room : chunk.length <= size - got.length := fits
      simp only [Reader.read]
      split
      · rename_i full
        refine .completed (got ++ chunk) (Nat.le_trans (Nat.le_of_eq full) proper.1) ?_
        rw [full, held, List.append_assoc]
      · rename_i less
        refine .gathered _ ⟨proper.1, ?_⟩ (List.append_assoc _ _ _).symm
        rw [List.length_append] at less ⊢
        omega

/-- One while no call of `try_recv` is under way. -/
def unentered : Reader -> Nat
  | .idle => 1
  | _ => 0

theorem unentered_le (reader : Reader) : reader.unentered <= 1 := by
  cases reader <;> simp only [unentered, Nat.le_refl, Nat.zero_le]

end Reader

namespace Writer

/-- The bytes that the holder of the lock has left to write. -/
def left : Writer -> List UInt8
  | .header left datagram => left ++ datagram
  | .payload left => left
  | _ => []

theorem left_afterHeader (datagram : Datagram) : (afterHeader datagram).left = datagram := by
  cases datagram <;> rfl

theorem write_left {writer after : Writer} {size : Nat} {bytes : List UInt8}
    (written : writer.write size = some (bytes, after)) : bytes ++ after.left = writer.left := by
  cases writer with
  | free => cases written
  | flushing => cases written
  | header left datagram =>
      have whole := List.take_append_drop size left
      simp only [write, Option.ite_none_right_eq_some] at written
      rcases written with ⟨_, written⟩
      split at written
      · rename_i done
        cases written
        rw [done, List.append_nil] at whole
        rw [left_afterHeader, whole]
        rfl
      · rename_i byte rest more
        cases written
        rw [more] at whole
        simp only [Writer.left]
        rw [← List.append_assoc, whole]
  | payload left =>
      have whole := List.take_append_drop size left
      simp only [write, Option.ite_none_right_eq_some] at written
      rcases written with ⟨_, written⟩
      split at written
      · rename_i done
        cases written
        rw [done] at whole
        exact whole
      · rename_i byte rest more
        cases written
        rw [more] at whole
        exact whole

/-- The write under way is not complete. -/
def Busy : Writer -> Prop
  | .header left _ => left ≠ []
  | .payload left => left ≠ []
  | _ => True

theorem Busy.afterHeader (datagram : Datagram) : (afterHeader datagram).Busy := by
  cases datagram with
  | nil => trivial
  | cons byte rest => exact List.cons_ne_nil byte rest

/-- One while the lock is held. -/
def turn : Writer -> Nat
  | .free => 0
  | _ => 1

theorem turn_afterHeader (datagram : Datagram) : (afterHeader datagram).turn = 1 := by
  cases datagram <;> rfl

theorem length_take_pos {left : List UInt8} {size : Nat} (some : 0 < size)
    (room : size <= left.length) : 0 < (left.take size).length := by
  rw [List.length_take]
  omega

/-- What one write does: it takes some bytes and keeps the lock. -/
theorem write_effect {writer after : Writer} {size : Nat} {bytes : List UInt8}
    (written : writer.write size = some (bytes, after)) :
    after.Busy ∧ 0 < bytes.length ∧ writer.turn = 1 ∧ after.turn = 1 := by
  cases writer with
  | free => cases written
  | flushing => cases written
  | header left datagram =>
      simp only [write, Option.ite_none_right_eq_some] at written
      rcases written with ⟨⟨some, room⟩, written⟩
      have taken := length_take_pos some room
      split at written
      · cases written
        exact ⟨Busy.afterHeader datagram, taken, rfl, turn_afterHeader datagram⟩
      · cases written
        exact ⟨List.cons_ne_nil _ _, taken, rfl, rfl⟩
  | payload left =>
      simp only [write, Option.ite_none_right_eq_some] at written
      rcases written with ⟨⟨some, room⟩, written⟩
      have taken := length_take_pos some room
      split at written
      · cases written
        exact ⟨trivial, taken, rfl, rfl⟩
      · cases written
        exact ⟨List.cons_ne_nil _ _, taken, rfl, rfl⟩

/-- A holder of the lock that has not finished can write. -/
theorem Busy.write {writer : Writer} (busy : writer.Busy) (held : writer ≠ .free)
    (unfinished : writer ≠ .flushing) : exists result, writer.write 1 = some result := by
  cases writer with
  | free => exact absurd rfl held
  | flushing => exact absurd rfl unfinished
  | header left datagram =>
      have room : 1 <= left.length := List.length_pos_of_ne_nil busy
      simp only [Writer.write, Nat.zero_lt_one, room, and_self, if_true]
      cases left.drop 1 <;> exact ⟨_, rfl⟩
  | payload left =>
      have room : 1 <= left.length := List.length_pos_of_ne_nil busy
      simp only [Writer.write, Nat.zero_lt_one, room, and_self, if_true]
      cases left.drop 1 <;> exact ⟨_, rfl⟩

end Writer

namespace Action

/-- The datagram with which the action calls `try_send`. -/
def called : Action -> Option Datagram
  | .call datagram => some datagram
  | _ => none

/-- The action moves what has been called, without a new call and without the
end of the stream. -/
def transfers : Action -> Bool
  | .lock _ => true
  | .write _ => true
  | .flush => true
  | .recv => true
  | .read _ => true
  | _ => false

end Action

namespace Pipe

/-! ## The outcomes of a move -/

/-- The outcomes of a move, each with the guard under which it happens. -/
inductive Moved (pipe : Pipe) : Action -> Pipe -> Prop where
  | called (datagram : Datagram) :
      Moved pipe (.call datagram) { pipe with waiting := pipe.waiting ++ [datagram] }
  | locked (index : Nat) (datagram : Datagram) (free : pipe.writer = .free)
      (located : pipe.waiting[index]? = some datagram) :
      Moved pipe (.lock index) (pipe.lock index datagram)
  | written (size : Nat) (bytes : List UInt8) (after : Writer) (live : pipe.closed = false)
      (wrote : pipe.writer.write size = some (bytes, after)) :
      Moved pipe (.write size) { pipe with wire := pipe.wire ++ bytes, writer := after }
  | flushed (flushing : pipe.writer = .flushing) :
      Moved pipe .flush { pipe with writer := .free, sent := pipe.sent ++ [.ok ()] }
  | failed (error : IoError) (closed : pipe.closed = true) :
      Moved pipe (.failWrite error)
        { pipe with writer := .free, sent := pipe.sent ++ [.error (mapIo error)] }
  | closed (arriving : Nat) (live : pipe.closed = false) :
      Moved pipe (.close arriving)
        { pipe with closed := true, wire := pipe.wire.take arriving }
  | entered (idle : pipe.reader = .idle) :
      Moved pipe .recv { pipe with reader := .header [] }
  | received (size : Nat) (some : 0 < size) (available : size <= pipe.wire.length)
      (wanted : size <= pipe.reader.wanted) : Moved pipe (.read size) (pipe.read size)
  | ended (closed : pipe.closed = true) (drained : pipe.wire = []) :
      Moved pipe .eof
        { pipe with
          reader := .idle
          results := pipe.results ++ [.error (mapIo earlyEof)] }

/-- The list of outcomes is complete. -/
theorem moved_of_step {pipe next : Pipe} {action : Action} (moved : pipe.step action = some next) :
    Moved pipe action next := by
  cases action with
  | call datagram =>
      cases moved
      exact .called datagram
  | lock index =>
      simp only [Pipe.step] at moved
      split at moved
      · rename_i datagram free located
        cases moved
        exact .locked index datagram free located
      · cases moved
  | write size =>
      simp only [Pipe.step] at moved
      split at moved
      · cases moved
      · rename_i live
        split at moved
        · cases moved
        · rename_i bytes after wrote
          cases moved
          exact .written size bytes after (Bool.eq_false_iff.mpr live) wrote
  | flush =>
      simp only [Pipe.step] at moved
      split at moved
      · rename_i flushing
        cases moved
        exact .flushed flushing
      · cases moved
  | failWrite error =>
      simp only [Pipe.step, Option.ite_none_right_eq_some, Option.some.injEq] at moved
      rcases moved with ⟨⟨closed, _⟩, moved⟩
      subst moved
      exact .failed error closed
  | close arriving =>
      cases live : pipe.closed with
      | true => simp only [Pipe.step, live, if_true, reduceCtorEq] at moved
      | false =>
          simp only [Pipe.step, live, Bool.false_eq_true, if_false, Option.some.injEq] at moved
          subst moved
          exact .closed arriving live
  | recv =>
      simp only [Pipe.step] at moved
      split at moved
      · rename_i idle
        cases moved
        exact .entered idle
      · cases moved
  | read size =>
      simp only [Pipe.step, Option.ite_none_right_eq_some, Option.some.injEq] at moved
      rcases moved with ⟨⟨some, available, wanted⟩, moved⟩
      subst moved
      exact .received size some available wanted
  | eof =>
      simp only [Pipe.step, Option.ite_none_right_eq_some, Option.some.injEq] at moved
      rcases moved with ⟨⟨closed, drained, _⟩, moved⟩
      subst moved
      exact .ended closed drained

/-! ## The bytes and the lock order -/

/-- What has been read, is on the way and is left to be written. -/
structure Ordered (pipe : Pipe) : Prop where
  fits : Within maxDatagram (pipe.waiting ++ pipe.order)
  open_ : pipe.closed = false ->
    pipe.consumed ++ pipe.wire ++ pipe.writer.left = frames pipe.order
  cut : pipe.closed = true -> pipe.consumed ++ pipe.wire <+: frames pipe.order

/-- What the reader has made of the bytes that it read. -/
inductive Returned (pipe : Pipe) : Prop where
  | reading (datagrams : List Datagram) (within : Within maxDatagram datagrams)
      (results : pipe.results = datagrams.map .ok)
      (consumed : pipe.consumed = frames datagrams ++ pipe.reader.held)
  | ended (datagrams : List Datagram) (closings : Nat) (tail : List UInt8)
      (within : Within maxDatagram datagrams)
      (results : pipe.results =
        datagrams.map .ok ++ List.replicate (closings + 1) (.error .closed))
      (consumed : pipe.consumed = frames datagrams ++ tail) (stuck : Stuck maxDatagram tail)
      (closed : pipe.closed = true) (drained : pipe.wire = [])

structure Sound (pipe : Pipe) : Prop where
  ordered : Ordered pipe
  returned : Returned pipe
  proper : pipe.reader.Proper
  busy : pipe.writer.Busy

/-- The bytes that were read begin the frames in lock order. -/
theorem Ordered.consumed {pipe : Pipe} (ordered : Ordered pipe) :
    pipe.consumed ++ pipe.wire <+: frames pipe.order := by
  cases closed : pipe.closed with
  | true => exact ordered.cut closed
  | false => exact ⟨_, ordered.open_ closed⟩

theorem Ordered.orderFits {pipe : Pipe} (ordered : Ordered pipe) :
    Within maxDatagram pipe.order :=
  fun datagram member => ordered.fits datagram (List.mem_append_right _ member)

/-- A beginning of the bytes that were read, taken apart into whole frames and a
rest: the frames begin the lock order, and the rest begins the frames that
follow. -/
theorem Ordered.decompose {pipe : Pipe} (ordered : Ordered pipe) {datagrams : List Datagram}
    {tail rest : List UInt8} (within : Within maxDatagram datagrams)
    (consumed : pipe.consumed ++ pipe.wire = frames datagrams ++ tail ++ rest) :
    exists more, pipe.order = datagrams ++ more ∧ tail <+: frames more := by
  rcases ordered.consumed with ⟨later, whole⟩
  rw [consumed, List.append_assoc, List.append_assoc] at whole
  have stuck : Stuck maxDatagram [] := .inl (Nat.zero_lt_succ _)
  rcases prefix_of_stuck maxDatagram_small ordered.orderFits within stuck
    ((List.append_nil _).trans whole.symm) with ⟨more, order, following⟩
  rw [List.append_nil] at following
  exact ⟨more, order, _, following⟩

theorem Ordered.call {pipe : Pipe} (ordered : Ordered pipe) {datagram : Datagram}
    (fits : datagram.length <= maxDatagram) :
    Ordered { pipe with waiting := pipe.waiting ++ [datagram] } := by
  refine ⟨?_, ordered.open_, ordered.cut⟩
  intro other member
  rcases List.mem_append.mp member with waits | locked
  · rcases List.mem_append.mp waits with old | new
    · exact ordered.fits other (List.mem_append_left _ old)
    · rw [List.mem_singleton.mp new]
      exact fits
  · exact ordered.fits other (List.mem_append_right _ locked)

/-- The frame that the new holder of the lock has to write is the next one. -/
theorem Ordered.lock {pipe : Pipe} (ordered : Ordered pipe) {index : Nat} {datagram : Datagram}
    (free : pipe.writer = .free) (located : pipe.waiting[index]? = some datagram) :
    Ordered (pipe.lock index datagram) := by
  refine ⟨?_, ?_, ?_⟩
  · intro other listed
    rcases List.mem_append.mp listed with waits | locked
    · exact ordered.fits other (List.mem_append_left _ (List.mem_of_mem_eraseIdx waits))
    · rcases List.mem_append.mp locked with old | new
      · exact ordered.fits other (List.mem_append_right _ old)
      · rw [List.mem_singleton.mp new]
        exact ordered.fits datagram (List.mem_append_left _ (List.mem_of_getElem? located))
  · intro live
    have whole := ordered.open_ live
    simp only [free, Writer.left, List.append_nil] at whole
    change pipe.consumed ++ pipe.wire ++ (be32 datagram.length ++ datagram) = _
    rw [whole, Pipe.lock, frames_concat, List.append_assoc]
  · intro closed
    apply (ordered.cut closed).trans
    rw [Pipe.lock, frames_append]
    exact List.prefix_append _ _

theorem Ordered.moved {pipe next : Pipe} {action : Action} (ordered : Ordered pipe)
    (fits : forall datagram, action = .call datagram -> datagram.length <= maxDatagram)
    (moved : Moved pipe action next) : Ordered next := by
  cases moved with
  | called datagram => exact ordered.call (fits datagram rfl)
  | locked index datagram free located => exact ordered.lock free located
  | written size bytes after live wrote =>
      refine ⟨ordered.fits, ?_, ?_⟩
      · intro _
        rw [← ordered.open_ live, ← Writer.write_left wrote]
        simp only [List.append_assoc]
      · intro closed
        cases live.symm.trans closed
  | flushed flushing =>
      refine ⟨ordered.fits, ?_, ordered.cut⟩
      intro live
      have whole := ordered.open_ live
      rw [flushing] at whole
      exact whole
  | failed error closed =>
      refine ⟨ordered.fits, ?_, ordered.cut⟩
      intro live
      cases closed.symm.trans live
  | closed arriving live =>
      refine ⟨ordered.fits, ?_, ?_⟩
      · intro contrary
        cases contrary
      · intro _
        refine List.IsPrefix.trans ?_ ordered.consumed
        exact (List.prefix_append_right_inj _).mpr (List.take_prefix _ _)
  | entered idle => exact ⟨ordered.fits, ordered.open_, ordered.cut⟩
  | received size some available wanted =>
      have whole : (pipe.consumed ++ pipe.wire.take size) ++ pipe.wire.drop size =
          pipe.consumed ++ pipe.wire := by
        rw [List.append_assoc, List.take_append_drop]
      refine ⟨ordered.fits, ?_, ?_⟩
      · intro live
        exact (congrArg (· ++ pipe.writer.left) whole).trans (ordered.open_ live)
      · intro closed
        exact whole ▸ ordered.cut closed
  | ended closed drained => exact ⟨ordered.fits, ordered.open_, ordered.cut⟩

/-- A length that arrives is that of the next datagram in lock order. -/
theorem Ordered.not_malformed {pipe : Pipe} (ordered : Ordered pipe) {datagrams : List Datagram}
    {tail rest : List UInt8} (within : Within maxDatagram datagrams)
    (consumed : pipe.consumed ++ pipe.wire = frames datagrams ++ tail ++ rest)
    (four : tail.length = 4) : ofBe tail <= maxDatagram := by
  rcases ordered.decompose within consumed with ⟨more, order, later, following⟩
  cases more with
  | nil =>
      have empty := congrArg List.length following
      rw [List.length_append, four, frames_nil, List.length_nil] at empty
      omega
  | cons datagram more =>
      rw [frames_cons] at following
      have fits : datagram.length <= maxDatagram := by
        apply ordered.orderFits datagram
        rw [order]
        exact List.mem_append_right _ List.mem_cons_self
      rw [(List.append_inj following four).1,
        ofBe_be32 (Nat.lt_of_le_of_lt fits maxDatagram_small)]
      exact fits

theorem Returned.congr {pipe next : Pipe} (returned : Returned pipe)
    (results : next.results = pipe.results) (consumed : next.consumed = pipe.consumed)
    (held : next.reader.held = pipe.reader.held)
    (closed : pipe.closed = true -> next.closed = true ∧ next.wire = pipe.wire) :
    Returned next := by
  cases returned with
  | reading datagrams within results' consumed' =>
      exact .reading datagrams within (results.trans results')
        (by rw [consumed, consumed', held])
  | ended datagrams closings tail within results' consumed' stuck closed' drained =>
      rcases closed closed' with ⟨still, wire⟩
      exact .ended datagrams closings tail within (results.trans results')
        (consumed.trans consumed') stuck still (wire.trans drained)

/-- A read completes the next datagram, or none. -/
theorem Sound.read {pipe : Pipe} (sound : Sound pipe) {size : Nat} (some : 0 < size)
    (available : size <= pipe.wire.length) (wanted : size <= pipe.reader.wanted) :
    Returned (pipe.read size) ∧ (pipe.read size).reader.Proper := by
  have taken : (pipe.wire.take size).length = size := by
    rw [List.length_take]
    omega
  have outcome := sound.proper.read (taken.symm ▸ some) (Nat.le_trans (Nat.le_of_eq taken) wanted)
  cases sound.returned with
  | ended datagrams closings tail within results consumed stuck closed drained =>
      rw [drained, List.length_nil] at available
      omega
  | reading datagrams within results consumed =>
      have gathered : pipe.consumed ++ pipe.wire.take size =
          frames datagrams ++ (pipe.reader.held ++ pipe.wire.take size) := by
        rw [consumed, List.append_assoc]
      unfold Pipe.read
      generalize pipe.reader.read (pipe.wire.take size) = answer at outcome
      cases outcome with
      | gathered after proper held =>
          refine ⟨.reading datagrams within ?_ ?_, proper⟩
          · exact (List.append_nil _).trans results
          · change pipe.consumed ++ pipe.wire.take size = _
            rw [gathered, held]
      | completed datagram fits frame =>
          refine ⟨.reading (datagrams ++ [datagram]) (within.concat fits) ?_ ?_, trivial⟩
          · change pipe.results ++ [.ok datagram] = _
            rw [results, List.map_append]
            rfl
          · change pipe.consumed ++ pipe.wire.take size = _
            rw [gathered, frame, frames_concat]
            simp only [Reader.held, List.append_nil, List.append_assoc]
      | malformed four large =>
          have whole : pipe.consumed ++ pipe.wire =
              frames datagrams ++ (pipe.reader.held ++ pipe.wire.take size) ++
                pipe.wire.drop size := by
            rw [← gathered, List.append_assoc, List.take_append_drop]
          exact absurd (sound.ordered.not_malformed within whole four) (Nat.not_le.mpr large)

theorem Sound.eof {pipe : Pipe} (sound : Sound pipe) (closed : pipe.closed = true)
    (drained : pipe.wire = []) :
    Returned { pipe with
      reader := .idle
      results := pipe.results ++ [.error (mapIo earlyEof)] } := by
  cases sound.returned with
  | reading datagrams within results consumed =>
      refine .ended datagrams 0 pipe.reader.held within ?_ consumed sound.proper.stuck closed
        drained
      rw [results]
      rfl
  | ended datagrams closings tail within results consumed stuck closed drained =>
      refine .ended datagrams (closings + 1) tail within ?_ consumed stuck closed drained
      change pipe.results ++ [.error .closed] = _
      rw [results, List.append_assoc, ← List.replicate_succ']

theorem Moved.busy {pipe next : Pipe} {action : Action} (moved : Moved pipe action next)
    (busy : pipe.writer.Busy) : next.writer.Busy := by
  cases moved with
  | locked index datagram free located => exact List.cons_ne_nil _ _
  | written size bytes after live wrote => exact (Writer.write_effect wrote).1
  | flushed flushing => trivial
  | failed error closed => trivial
  | _ => exact busy

theorem Sound.moved {pipe next : Pipe} {action : Action} (sound : Sound pipe)
    (fits : forall datagram, action = .call datagram -> datagram.length <= maxDatagram)
    (moved : Moved pipe action next) : Sound next := by
  have ordered := sound.ordered.moved fits moved
  have busy := moved.busy sound.busy
  have kept := sound.returned
  cases moved with
  | written size bytes after live wrote =>
      refine ⟨ordered, kept.congr rfl rfl rfl ?_, sound.proper, busy⟩
      intro closed
      cases live.symm.trans closed
  | closed arriving live =>
      refine ⟨ordered, kept.congr rfl rfl rfl ?_, sound.proper, busy⟩
      intro closed
      cases live.symm.trans closed
  | entered idle =>
      refine ⟨ordered, kept.congr rfl rfl ?_ (fun closed => ⟨closed, rfl⟩), ?_, busy⟩
      · rw [idle]
        rfl
      · exact Nat.zero_lt_succ _
  | received size some available wanted =>
      rcases sound.read some available wanted with ⟨returned, proper⟩
      exact ⟨ordered, returned, proper, busy⟩
  | ended closed drained => exact ⟨ordered, sound.eof closed drained, trivial, busy⟩
  | _ =>
      exact ⟨ordered, kept.congr rfl rfl rfl (fun closed => ⟨closed, rfl⟩), sound.proper, busy⟩

theorem sound_of_run {schedule : List Action} {pipe : Pipe}
    (fits : forall datagram, .call datagram ∈ schedule -> datagram.length <= maxDatagram)
    (ran : run Pipe.step start schedule = some pipe) : Sound pipe := by
  refine invariant_of_schedule Sound ?_ ?_ ran
  · intro state action next member sound stepped
    refine sound.moved ?_ (moved_of_step stepped)
    intro datagram same
    exact fits datagram (same ▸ member)
  · refine ⟨⟨?_, fun _ => rfl, ?_⟩, .reading [] ?_ rfl rfl, trivial, trivial⟩
    · intro datagram member
      cases member
    · intro closed
      cases closed
    · intro datagram member
      cases member

/-- Every datagram of which all bytes were read has been returned. -/
theorem complete {datagrams : List Datagram} {tail : List UInt8} {pipe : Pipe}
    (ordered : Ordered pipe) (within : Within maxDatagram datagrams)
    (consumed : pipe.consumed = frames datagrams ++ tail) (stuck : Stuck maxDatagram tail)
    {count : Nat} (arrived : frames (pipe.order.take count) <+: pipe.consumed) :
    pipe.order.take count <+: datagrams := by
  rcases arrived with ⟨rest, arrived⟩
  rw [consumed] at arrived
  have taken : Within maxDatagram (pipe.order.take count) :=
    fun datagram member => ordered.orderFits datagram (List.mem_of_mem_take member)
  rcases prefix_of_stuck maxDatagram_small within taken stuck arrived.symm with ⟨more, split, _⟩
  exact ⟨more, split.symm⟩

/-- The results are those of datagrams that begin the lock order, and then
closed for ever. -/
theorem Sound.results {pipe : Pipe} (sound : Sound pipe) :
    exists returned closings,
      pipe.results = returned.map .ok ++ List.replicate closings (.error .closed) ∧
      returned <+: pipe.order ∧
      (closings ≠ 0 -> pipe.closed = true ∧ pipe.wire = []) ∧
      (forall count, frames (pipe.order.take count) <+: pipe.consumed ->
        pipe.order.take count <+: returned) := by
  cases sound.returned with
  | reading datagrams within results consumed =>
      have split : pipe.consumed ++ pipe.wire =
          frames datagrams ++ pipe.reader.held ++ pipe.wire := by rw [consumed]
      rcases sound.ordered.decompose within split with ⟨more, order, _⟩
      refine ⟨datagrams, 0, ?_, ⟨more, order.symm⟩, fun contrary => absurd rfl contrary, ?_⟩
      · rw [results, List.replicate_zero, List.append_nil]
      · intro count arrived
        exact complete sound.ordered within consumed sound.proper.stuck arrived
  | ended datagrams closings tail within results consumed stuck closed drained =>
      have split : pipe.consumed ++ pipe.wire = frames datagrams ++ tail ++ pipe.wire := by
        rw [consumed]
      rcases sound.ordered.decompose within split with ⟨more, order, _⟩
      refine ⟨datagrams, closings + 1, results, ⟨more, order.symm⟩,
        fun _ => ⟨closed, drained⟩, ?_⟩
      intro count arrived
      exact complete sound.ordered within consumed stuck arrived

/-- While the stream is open and nothing is on the way, all of the lock order
has been returned. -/
theorem Sound.delivered {pipe : Pipe} (sound : Sound pipe) (live : pipe.closed = false)
    (free : pipe.writer = .free) (drained : pipe.wire = []) :
    pipe.results = pipe.order.map .ok := by
  have whole := sound.ordered.open_ live
  simp only [free, drained, Writer.left, List.append_nil] at whole
  rcases sound.results with ⟨returned, closings, results, ordered, closed, all⟩
  have arrived : frames (pipe.order.take pipe.order.length) <+: pipe.consumed := by
    refine ⟨[], ?_⟩
    rw [List.append_nil, List.take_length, whole]
  have begun := all pipe.order.length arrived
  rw [List.take_length] at begun
  have none : closings = 0 := by
    by_contra some
    cases live.symm.trans (closed some).1
  rw [results, none, List.replicate_zero, List.append_nil,
    begun.eq_of_length_le ordered.length_le]

/-! ## Every call is served -/

/-- The calls that were made are those that wait and those that obtained the
lock. -/
theorem Moved.calls {pipe next : Pipe} {action : Action} (moved : Moved pipe action next)
    (datagram : Datagram) :
    (next.waiting ++ next.order).count datagram =
      (pipe.waiting ++ pipe.order).count datagram +
        if action.called == some datagram then 1 else 0 := by
  cases moved with
  | called other =>
      simp only [List.count_append, List.count_singleton, Action.called]
      by_cases same : other = datagram
      · simp only [same, beq_self_eq_true, if_true]
        omega
      · simp only [beq_iff_eq, Option.some.injEq, same, if_false]
        omega
  | locked index other free located =>
      rcases split_at located with ⟨before, after, split, _, erased⟩
      simp only [Pipe.lock, erased]
      rw [split]
      simp only [List.count_append, List.count_cons, List.count_nil]
      change _ = _ + 0
      omega
  | _ => rfl

theorem calls_of_run {schedule : List Action} {pipe : Pipe}
    (ran : run Pipe.step start schedule = some pipe) :
    (pipe.waiting ++ pipe.order).Perm (schedule.filterMap Action.called) := by
  apply List.perm_iff_count.mpr
  intro datagram
  have counted := counter_of_run (fun _ => True)
    (fun state : Pipe => (state.waiting ++ state.order).count datagram)
    (fun action => action.called == some datagram) (fun _ _ _ _ _ => trivial)
    (fun _ _ _ _ stepped => (moved_of_step stepped).calls datagram) trivial ran
  rw [List.count_filterMap]
  exact counted.trans (Nat.zero_add _)

/-- How many moves of the two ends are left at most.  A byte that is not written
counts for three moves and one on the way for two; a sender counts for obtaining
the lock and for giving it back, besides the four bytes of its length; and a
receiver counts for entering `try_recv`. -/
def pending (pipe : Pipe) : Nat :=
  3 * pipe.waiting.flatten.length + 14 * pipe.waiting.length +
    3 * pipe.writer.left.length + pipe.writer.turn + 2 * pipe.wire.length +
      pipe.reader.unentered

theorem Moved.pending_lt {pipe next : Pipe} {action : Action} (moved : Moved pipe action next)
    (transfers : action.transfers = true) : next.pending < pipe.pending := by
  cases moved with
  | locked index datagram free located =>
      rcases split_at located with ⟨before, after, split, _, erased⟩
      simp only [pending, Pipe.lock, erased, free]
      rw [split]
      simp only [List.flatten_append, List.flatten_cons, List.length_append, List.length_cons,
        Writer.left, Writer.turn, length_be32, List.length_nil]
      omega
  | written size bytes after live wrote =>
      rcases Writer.write_effect wrote with ⟨_, some, before, still⟩
      have moved := congrArg List.length (Writer.write_left wrote)
      rw [List.length_append] at moved
      simp only [pending, List.length_append, before, still]
      omega
  | flushed flushing =>
      simp only [pending, flushing, Writer.left, Writer.turn]
      omega
  | entered idle =>
      simp only [pending, idle, Reader.unentered]
      omega
  | received size some available wanted =>
      have one := Reader.unentered_le (pipe.read size).reader
      have less : (pipe.read size).wire.length = pipe.wire.length - size := List.length_drop
      have before : pipe.pending = 3 * pipe.waiting.flatten.length + 14 * pipe.waiting.length +
          3 * pipe.writer.left.length + pipe.writer.turn + 2 * pipe.wire.length +
            pipe.reader.unentered := rfl
      have after : (pipe.read size).pending = 3 * pipe.waiting.flatten.length +
          14 * pipe.waiting.length + 3 * pipe.writer.left.length + pipe.writer.turn +
            2 * (pipe.read size).wire.length + (pipe.read size).reader.unentered := rfl
      omega
  | _ => cases transfers

/-- While bytes are on the way, the receiving end can move. -/
theorem receive_progress {pipe : Pipe} (proper : pipe.reader.Proper) (bytes : pipe.wire ≠ []) :
    exists action next, (action = .recv ∨ action = .read 1) ∧ pipe.step action = some next := by
  have available : 1 <= pipe.wire.length := List.length_pos_of_ne_nil bytes
  cases reader : pipe.reader with
  | idle =>
      refine ⟨.recv, { pipe with reader := .header [] }, .inl rfl, ?_⟩
      simp only [Pipe.step, reader]
  | header got =>
      rw [reader] at proper
      have wanted : 1 <= pipe.reader.wanted := by
        rw [reader]
        exact Nat.sub_pos_of_lt proper
      exact ⟨.read 1, _, .inr rfl, if_pos ⟨Nat.zero_lt_one, available, wanted⟩⟩
  | payload size got =>
      rw [reader] at proper
      have wanted : 1 <= pipe.reader.wanted := by
        rw [reader]
        exact Nat.sub_pos_of_lt proper.2
      exact ⟨.read 1, _, .inr rfl, if_pos ⟨Nat.zero_lt_one, available, wanted⟩⟩

/-- While a sender waits or has not finished, or bytes are on the way, one of
the two ends can move. -/
theorem Sound.progress {pipe : Pipe} (sound : Sound pipe) (live : pipe.closed = false)
    (unfinished : ¬ (pipe.waiting = [] ∧ pipe.writer = .free ∧ pipe.wire = [])) :
    exists action next, action.transfers = true ∧ pipe.step action = some next := by
  by_cases bytes : pipe.wire = []
  · by_cases free : pipe.writer = .free
    · cases waits : pipe.waiting with
      | nil => exact absurd ⟨waits, free, bytes⟩ unfinished
      | cons datagram rest =>
          refine ⟨.lock 0, pipe.lock 0 datagram, rfl, ?_⟩
          simp only [Pipe.step, free, waits, List.getElem?_cons_zero]
    · by_cases flushing : pipe.writer = .flushing
      · refine ⟨.flush, { pipe with writer := .free, sent := pipe.sent ++ [.ok ()] }, rfl, ?_⟩
        simp only [Pipe.step, flushing]
      · rcases sound.busy.write free flushing with ⟨⟨bytes, after⟩, wrote⟩
        refine ⟨.write 1, { pipe with wire := pipe.wire ++ bytes, writer := after }, rfl, ?_⟩
        simp only [Pipe.step, live, Bool.false_eq_true, if_false, wrote]
  · rcases receive_progress sound.proper bytes with ⟨action, next, receives, stepped⟩
    refine ⟨action, next, ?_, stepped⟩
    rcases receives with same | same <;> rw [same] <;> rfl

theorem Moved.closed_eq {pipe next : Pipe} {action : Action} (moved : Moved pipe action next)
    (transfers : action.transfers = true) : next.closed = pipe.closed := by
  cases moved with
  | called datagram => cases transfers
  | closed arriving live => cases transfers
  | _ => rfl

/-- What two ends promise that have run by the schedule. -/
structure RoundTrip (schedule : List Action) (pipe : Pipe) : Prop where
  /-- The results begin the lock order.  Then come closed ones for ever, only
  after the stream has closed and its bytes have been read.  A datagram of which
  all bytes have been read is among the results. -/
  results : exists returned closings,
    pipe.results = returned.map .ok ++ List.replicate closings (.error .closed) ∧
    returned <+: pipe.order ∧
    (closings ≠ 0 -> pipe.closed = true ∧ pipe.wire = []) ∧
    (forall count, frames (pipe.order.take count) <+: pipe.consumed ->
      pipe.order.take count <+: returned)
  /-- The lock order consists of the calls that were made, less those that
  wait. -/
  calls : (pipe.waiting ++ pipe.order).Perm (schedule.filterMap Action.called)
  delivered : pipe.closed = false -> pipe.writer = .free -> pipe.wire = [] ->
    pipe.results = pipe.order.map .ok
  /-- While the stream stays open, every run of the two ends is finite and can
  go on until all calls are served and all datagrams returned. -/
  served : pipe.closed = false -> forall future later,
    (forall action, action ∈ future -> action.transfers = true) ->
    run Pipe.step pipe future = some later ->
    future.length <= pipe.pending ∧
      (later.waiting = [] ∧ later.results = later.order.map .ok ∨
        exists action next, action.transfers = true ∧ later.step action = some next)
  /-- A call under way goes on as long as there are bytes. -/
  reads : 0 < pipe.reader.wanted -> pipe.wire ≠ [] ->
    exists next, pipe.step (.read 1) = some next
  /-- It returns closed at the end of the stream, wherever that is. -/
  ends : 0 < pipe.reader.wanted -> pipe.closed = true -> pipe.wire = [] ->
    exists next, pipe.step .eof = some next ∧
      next.results = pipe.results ++ [.error .closed]

theorem served_of_run {schedule future : List Action} {pipe later : Pipe}
    (fits : forall datagram, .call datagram ∈ schedule -> datagram.length <= maxDatagram)
    (ran : run Pipe.step start schedule = some pipe) (live : pipe.closed = false)
    (transfers : forall action, action ∈ future -> action.transfers = true)
    (continued : run Pipe.step pipe future = some later) :
    future.length <= pipe.pending ∧
      (later.waiting = [] ∧ later.results = later.order.map .ok ∨
        exists action next, action.transfers = true ∧ later.step action = some next) := by
  have bound := length_of_run pending (fun _ action _ member stepped =>
    (moved_of_step stepped).pending_lt (transfers action member)) continued
  refine ⟨Nat.le_trans (Nat.le_add_right _ _) bound, ?_⟩
  have sound : Sound later := by
    refine sound_of_run ?_ (run_append_eq_some.mpr ⟨pipe, ran, continued⟩)
    intro datagram member
    rcases List.mem_append.mp member with early | late
    · exact fits datagram early
    · cases transfers _ late
  have open_ : later.closed = false := by
    refine invariant_of_schedule (fun state => state.closed = false) ?_ live continued
    intro state action next member closed stepped
    exact ((moved_of_step stepped).closed_eq (transfers action member)).trans closed
  by_cases finished : later.waiting = [] ∧ later.writer = .free ∧ later.wire = []
  · exact .inl ⟨finished.1, sound.delivered open_ finished.2.1 finished.2.2⟩
  · exact .inr (sound.progress open_ finished)

/-- The round trip: for all callers, all ways of splitting the stream into
writes and reads, and every point at which it closes. -/
theorem round_trip (schedule : List Action) (pipe : Pipe)
    (fits : forall datagram, .call datagram ∈ schedule -> datagram.length <= 2 ^ 20)
    (ran : run Pipe.step start schedule = some pipe) : RoundTrip schedule pipe := by
  have sound := sound_of_run fits ran
  refine ⟨sound.results, calls_of_run ran, sound.delivered, ?_, ?_, ?_⟩
  · intro live future later transfers continued
    exact served_of_run fits ran live transfers continued
  · intro wanted bytes
    have available : 1 <= pipe.wire.length := List.length_pos_of_ne_nil bytes
    exact ⟨_, if_pos ⟨Nat.zero_lt_one, available, wanted⟩⟩
  · intro wanted closed drained
    exact ⟨_, if_pos ⟨closed, drained, wanted⟩, rfl⟩

/-- Two senders, of which the second obtains the lock first, and an empty
datagram; the stream closes in the middle of the second frame. -/
def truncatedSchedule : List Action :=
  [.call [7, 8], .call [], .lock 1, .write 3, .write 1, .flush, .lock 0, .recv, .read 4,
    .write 4, .write 1, .close 5, .recv, .read 1, .read 3, .read 1, .eof, .recv, .eof]

theorem round_trip_truncated :
    exists pipe, run Pipe.step start truncatedSchedule = some pipe ∧
      pipe.order = [[], [7, 8]] ∧ pipe.results = [.ok [], .error .closed, .error .closed] ∧
      (exists returned closings,
        pipe.results = returned.map .ok ++ List.replicate closings (.error .closed) ∧
        returned <+: pipe.order) := by
  have contract := round_trip truncatedSchedule _ (by
    intro datagram member
    simp only [truncatedSchedule, List.mem_cons, reduceCtorEq, Action.call.injEq,
      List.not_mem_nil, or_false] at member
    rcases member with same | same <;> subst same <;> decide) rfl
  rcases contract.results with ⟨returned, closings, results, ordered, _⟩
  exact ⟨_, rfl, rfl, rfl, returned, closings, results, ordered⟩

end Pipe

end Framing
end QuicMix
