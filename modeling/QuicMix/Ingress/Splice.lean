import QuicMix.Ingress.Connect

namespace QuicMix
namespace Ingress
namespace Connect

open Foundations
open Gateway

/-!
# The way to the target through a CONNECT tunnel

What the client writes reaches the target in order.  The gateway of a tunnel is one
that reads a whole stream: everything that the ingress has written so far, and the
moves that the gateway has made, are a run of the gateway by itself, because a
gateway that waits for more does the same when there is more.  What is known of
such runs then holds of the tunnel.
-/

/-- Where the bytes of the client are while the loop to the stream runs. -/
def Sending (connect : Connect) (carried : List UInt8) : Copy -> Prop
  | .running held => carried ++ held ++ connect.pending = connect.sent ∧
      connect.stream.clientFinishes = false
  | .draining held => carried ++ held = connect.sent ∧ connect.clientEnded = true ∧
      connect.stream.clientFinishes = false
  | .stopped => False
  | .closed => carried = connect.sent ∧ connect.clientEnded = true ∧
      connect.stream.clientFinishes = true

/-- What the ingress has written to the stream. -/
def Upward (authority : Text) (connect : Connect) (written : List UInt8) : Prop :=
  match connect.phase with
  | .opening => written = [] ∧ connect.stream.clientFinishes = false ∧
      connect.pending = connect.sent
  | .naming left => left ≠ [] ∧ written ++ left = header authority ∧
      connect.stream.clientFinishes = false ∧ connect.pending = connect.sent
  | .splicing up _ => exists carried, written = header authority ++ carried ∧
      connect.Sending carried up
  | .returned succeeded =>
      (written <+: header authority ∧ connect.stream.clientFinishes = false ∧
        succeeded = false) ∨
      exists carried, written = header authority ++ carried ∧ carried <+: connect.sent ∧
        (succeeded = true -> carried = connect.sent ∧ connect.clientEnded = true ∧
          connect.stream.clientFinishes = true)

/-- The moves of the gateway so far are a run by itself on what was written. -/
def Linked (authority : Text) (past : List ConnectMove) (connect : Connect) : Prop :=
  exists written, connect.Upward authority written ∧
    run GatewayStream.step (GatewayStream.start written connect.stream.clientFinishes)
      (past.filterMap ConnectMove.gateway?) = some connect.stream

theorem header_ne_nil (authority : Text) : header authority ≠ [] := by
  rw [header, GatewayStream.encode_newline]
  exact List.append_ne_nil_of_right_ne_nil _ nofun

section Upward

variable {authority : Text} {connect next : Connect} {written : List UInt8}

theorem Sending.begins {carried : List UInt8} {up : Copy} (sending : connect.Sending carried up) :
    carried <+: connect.sent := by
  cases up with
  | running held => exact ⟨held ++ connect.pending, (List.append_assoc _ _ _).symm.trans sending.1⟩
  | draining held => exact ⟨held, sending.1⟩
  | stopped => exact sending.elim
  | closed => exact sending.1 ▸ List.prefix_refl _

/-- What the ingress has written is a part of the line, or the line and a
beginning of what the client has written. -/
theorem Upward.shape (upward : connect.Upward authority written) :
    (written <+: header authority ∧ connect.stream.clientFinishes = false) ∨
      exists carried, written = header authority ++ carried ∧ carried <+: connect.sent := by
  unfold Upward at upward
  split at upward
  · exact .inl ⟨upward.1 ▸ List.nil_prefix, upward.2.1⟩
  · rename_i left phase
    exact .inl ⟨⟨left, upward.2.1⟩, upward.2.2.1⟩
  · rename_i up down phase
    rcases upward with ⟨carried, same, sending⟩
    exact .inr ⟨carried, same, sending.begins⟩
  · rcases upward with ⟨part, finishes, _⟩ | ⟨carried, same, begins, _⟩
    · exact .inl ⟨part, finishes⟩
    · exact .inr ⟨carried, same, begins⟩

theorem Upward.client (upward : connect.Upward authority written) (chunk : List UInt8)
    (unended : connect.clientEnded = false) :
    { connect with
      sent := connect.sent ++ chunk
      pending := connect.pending ++ chunk }.Upward authority written := by
  unfold Upward at upward ⊢
  dsimp only
  split at upward
  case h_1 phase => exact ⟨upward.1, upward.2.1, by rw [upward.2.2]⟩
  case h_2 left phase => exact ⟨upward.1, upward.2.1, upward.2.2.1, by rw [upward.2.2.2]⟩
  case h_3 up down phase =>
      rcases upward with ⟨carried, same, sending⟩
      refine ⟨carried, same, ?_⟩
      cases up with
      | running held => exact ⟨by rw [← sending.1, ← List.append_assoc], sending.2⟩
      | draining held => cases unended.symm.trans sending.2.1
      | stopped => exact sending
      | closed => cases unended.symm.trans sending.2.1
  case h_4 succeeded phase =>
      rcases upward with part | ⟨carried, same, begins, whole⟩
      · exact .inl part
      · refine .inr ⟨carried, same, begins.trans (List.prefix_append _ _), ?_⟩
        intro succeeds
        cases unended.symm.trans (whole succeeds).2.1

theorem Upward.clientEnd (upward : connect.Upward authority written) :
    { connect with clientEnded := true }.Upward authority written := by
  unfold Upward at upward ⊢
  dsimp only
  split at upward
  case h_1 phase => exact upward
  case h_2 left phase => exact upward
  case h_3 up down phase =>
      rcases upward with ⟨carried, same, sending⟩
      refine ⟨carried, same, ?_⟩
      cases up with
      | running held => exact sending
      | draining held => exact ⟨sending.1, rfl, sending.2.2⟩
      | stopped => exact sending
      | closed => exact ⟨sending.1, rfl, sending.2.2⟩
  case h_4 succeeded phase =>
      rcases upward with part | ⟨carried, same, begins, whole⟩
      · exact .inl part
      · refine .inr ⟨carried, same, begins, ?_⟩
        intro succeeds
        exact ⟨(whole succeeds).1, rfl, (whole succeeds).2.2⟩

/-- One write takes the front of what is held. -/
theorem write_eq_some {copy after : Copy} {chunk : List UInt8} {count : Nat}
    (wrote : copy.write count = some (chunk, after)) :
    chunk ≠ [] ∧ exists held rest, held = chunk ++ rest ∧
      (copy = .running held ∧ after = .running rest ∨
        copy = .draining held ∧ after = .draining rest) := by
  have filled {held : List UInt8} (guard : 0 < count ∧ count <= held.length) :
      held.take count ≠ [] := by
    apply List.ne_nil_of_length_pos
    rw [List.length_take]
    exact Nat.lt_min.mpr ⟨guard.1, Nat.lt_of_lt_of_le guard.1 guard.2⟩
  cases copy with
  | running held =>
      simp only [Copy.write, Option.ite_none_right_eq_some, Option.some.injEq] at wrote
      rcases wrote with ⟨guard, same⟩
      cases same
      exact ⟨filled guard, held, held.drop count, (List.take_append_drop count held).symm,
        .inl ⟨rfl, rfl⟩⟩
  | draining held =>
      simp only [Copy.write, Option.ite_none_right_eq_some, Option.some.injEq] at wrote
      rcases wrote with ⟨guard, same⟩
      cases same
      exact ⟨filled guard, held, held.drop count, (List.take_append_drop count held).symm,
        .inr ⟨rfl, rfl⟩⟩
  | _ => cases wrote

/-- What the ingress has written after a move, with the stream it wrote to. -/
theorem Upward.moved {move : ConnectMove} (upward : connect.Upward authority written)
    (moved : Moved authority connect move next) :
    (next.Upward authority written ∧ move.gateway? = none ∧ next.stream = connect.stream) ∨
    (exists more finishes, next.Upward authority (written ++ more) ∧ move.gateway? = none ∧
      next.stream = extend more finishes connect.stream ∧
      (connect.stream.clientFinishes = true -> more = [] ∧ finishes = true)) ∨
    (next.Upward authority written ∧ exists step, move.gateway? = some step ∧
      connect.stream.step step = some next.stream) := by
  cases moved with
  | clientWrote chunk unended => exact .inl ⟨upward.client chunk unended, rfl, rfl⟩
  | clientEnded => exact .inl ⟨upward.clientEnd, rfl, rfl⟩
  | targetWrote chunk unended => exact .inl ⟨upward, rfl, rfl⟩
  | targetEnded => exact .inl ⟨upward, rfl, rfl⟩
  | opened phase =>
      rw [Upward, phase] at upward
      refine .inl ⟨?_, rfl, rfl⟩
      exact ⟨header_ne_nil authority, by rw [upward.1, List.nil_append], upward.2⟩
  | refused phase =>
      rw [Upward, phase] at upward
      refine .inl ⟨.inl ?_, rfl, rfl⟩
      exact ⟨upward.1 ▸ List.nil_prefix, upward.2.1, rfl⟩
  | named count left phase positive bound =>
      rw [Upward, phase] at upward
      rcases upward with ⟨filled, whole, finishes, unread⟩
      have split := List.take_append_drop count left
      refine .inr (.inl ⟨left.take count, connect.stream.clientFinishes, ?_, rfl, rfl, ?_⟩)
      · cases more : left.drop count with
        | nil =>
            rw [more, List.append_nil] at split
            refine ⟨[], by rw [split, whole, List.append_nil], ?_, finishes⟩
            exact unread
        | cons head tail =>
            rw [more] at split
            exact ⟨nofun, by rw [List.append_assoc, split, whole], finishes, unread⟩
      · intro ended
        cases finishes.symm.trans ended
  | nameFailed left phase =>
      rw [Upward, phase] at upward
      refine .inl ⟨.inl ?_, rfl, rfl⟩
      exact ⟨⟨left, upward.2.1⟩, upward.2.2.1, rfl⟩
  | clientRead count held down phase positive bound =>
      rw [Upward, phase] at upward
      rcases upward with ⟨carried, same, whole, finishes⟩
      refine .inl ⟨⟨carried, same, ?_, finishes⟩, rfl, rfl⟩
      rw [← List.append_assoc, List.append_assoc, List.take_append_drop]
      exact whole
  | clientAtEnd held down phase ended empty =>
      rw [Upward, phase] at upward
      rcases upward with ⟨carried, same, whole, finishes⟩
      rw [empty, List.append_nil] at whole
      exact .inl ⟨⟨carried, same, whole, ended, finishes⟩, rfl, rfl⟩
  | streamWritten count up after down chunk phase wrote =>
      rw [Upward, phase] at upward
      rcases upward with ⟨carried, same, sending⟩
      rcases write_eq_some wrote with ⟨_, held, rest, rfl, ⟨rfl, rfl⟩ | ⟨rfl, rfl⟩⟩
      · rcases sending with ⟨whole, finishes⟩
        refine .inr (.inl ⟨chunk, connect.stream.clientFinishes, ?_, rfl, rfl, ?_⟩)
        · refine ⟨carried ++ chunk, by rw [same, List.append_assoc], ?_, finishes⟩
          rw [← whole]
          simp only [List.append_assoc]
        · intro ended
          cases finishes.symm.trans ended
      · rcases sending with ⟨whole, clientEnds, finishes⟩
        refine .inr (.inl ⟨chunk, connect.stream.clientFinishes, ?_, rfl, rfl, ?_⟩)
        · refine ⟨carried ++ chunk, by rw [same, List.append_assoc], ?_, clientEnds, finishes⟩
          rw [← whole]
          simp only [List.append_assoc]
        · intro ended
          cases finishes.symm.trans ended
  | streamFinished up down phase through =>
      rw [Upward, phase] at upward
      rcases upward with ⟨carried, same, sending⟩
      rcases through with rfl | rfl
      · rcases sending with ⟨whole, clientEnds, _⟩
        rw [List.append_nil] at whole
        refine .inr (.inl ⟨[], true, ?_, rfl, rfl, fun _ => ⟨rfl, rfl⟩⟩)
        exact ⟨carried, by rw [List.append_nil, same], whole, clientEnds, rfl⟩
      · exact sending.elim
  | streamRead count up held phase positive bound =>
      rw [Upward, phase] at upward
      exact .inl ⟨upward, rfl, rfl⟩
  | streamAtEnd up held phase ended empty =>
      rw [Upward, phase] at upward
      exact .inl ⟨upward, rfl, rfl⟩
  | clientWritten count up down after chunk phase wrote =>
      rw [Upward, phase] at upward
      exact .inl ⟨upward, rfl, rfl⟩
  | clientShut up down phase through =>
      rw [Upward, phase] at upward
      exact .inl ⟨upward, rfl, rfl⟩
  | failed up down phase =>
      rw [Upward, phase] at upward
      rcases upward with ⟨carried, same, sending⟩
      refine .inr (.inl ⟨[], true, .inr ?_, rfl, rfl, fun _ => ⟨rfl, rfl⟩⟩)
      exact ⟨carried, by rw [List.append_nil, same], sending.begins, nofun⟩
  | streamFailed up down phase =>
      rw [Upward, phase] at upward
      rcases upward with ⟨carried, same, sending⟩
      exact .inl ⟨.inr ⟨carried, same, sending.begins, nofun⟩, rfl, rfl⟩
  | returned phase =>
      rw [Upward, phase] at upward
      rcases upward with ⟨carried, same, whole, clientEnds, finishes⟩
      exact .inl ⟨.inr ⟨carried, same, whole ▸ List.prefix_refl _,
        fun _ => ⟨whole, clientEnds, finishes⟩⟩, rfl, rfl⟩
  | gateway move stream stepped reads =>
      refine .inr (.inr ⟨?_, move, rfl, stepped⟩)
      have kept : stream.clientFinishes = connect.stream.clientFinishes :=
        (@step_extend _ _ _ [] connect.stream.clientFinishes (fun ended => ⟨rfl, ended⟩) stepped).2
      unfold Upward Sending at upward ⊢
      dsimp only
      rw [kept]
      exact upward

theorem Linked.step {past : List ConnectMove} {move : ConnectMove}
    (linked : Linked authority past connect) (moved : Moved authority connect move next) :
    Linked authority (past ++ [move]) next := by
  rcases linked with ⟨written, upward, ran⟩
  rw [Linked, List.filterMap_append]
  rcases upward.moved moved with
    ⟨kept, none, same⟩ | ⟨more, finishes, kept, none, same, extends_⟩ | ⟨kept, step, found, stepped⟩
  · refine ⟨written, kept, ?_⟩
    rw [List.filterMap_cons_none none, List.filterMap_nil, List.append_nil, same]
    exact ran
  · refine ⟨written ++ more, kept, ?_⟩
    rw [List.filterMap_cons_none none, List.filterMap_nil, List.append_nil, same]
    exact run_extend extends_ ran
  · refine ⟨written, kept, ?_⟩
    have finishes : next.stream.clientFinishes = connect.stream.clientFinishes :=
      (@step_extend _ _ _ [] connect.stream.clientFinishes (fun ended => ⟨rfl, ended⟩) stepped).2
    rw [List.filterMap_cons_some found, List.filterMap_nil, finishes]
    exact run_append_eq_some.mpr ⟨connect.stream, ran, run_cons.mpr ⟨next.stream, stepped, rfl⟩⟩

/-- The authority of a request: it is not empty and has no white space in it. -/
structure Authority (authority : Text) : Prop where
  nonempty : authority ≠ []
  visible : forall char, char ∈ authority -> Text.isWhitespace char = false

theorem Authority.trimmed (valid : Authority authority) : Text.Trimmed authority where
  nonempty := valid.nonempty
  head := fun char first => valid.visible char (List.mem_of_mem_head? first)
  last := fun char final => valid.visible char (List.mem_of_mem_getLast? final)

theorem Authority.single (valid : Authority authority) : '\n' ∉ authority :=
  fun member => absurd (valid.visible '\n' member) (by decide)

theorem Authority.ordinary (valid : Authority authority) : ¬ measurePrefix <+: authority := by
  intro begins
  have blank : ' ' ∈ authority := begins.subset (by decide)
  exact absurd (valid.visible ' ' blank) (by decide)

theorem header_append (authority : Text) (carried : List UInt8) :
    header authority ++ carried = clientStream authority carried :=
  rfl

/-- With what is still to come of the line, the gateway carries the authority and
a beginning of what the client has written. -/
theorem Linked.carrying {past : List ConnectMove} (valid : Authority authority)
    (linked : Linked authority past connect) {intact : Bool}
    (sound : intact = true -> forall move, move ∈ past.filterMap ConnectMove.gateway? ->
      move.fails = false) :
    exists rest finishes payload, payload <+: connect.sent ∧
      (extend rest finishes connect.stream).Carrying authority payload intact := by
  rcases linked with ⟨written, upward, ran⟩
  rcases upward.shape with ⟨⟨rest, whole⟩, waits⟩ | ⟨carried, rfl, begins⟩
  · refine ⟨rest, false, [], List.nil_prefix, ?_⟩
    have longer := @run_extend written rest _ false (fun ended => by cases waits.symm.trans ended)
      _ _ ran
    rw [whole, ← List.append_nil (header authority), header_append] at longer
    exact GatewayStream.carrying_of_run valid.trimmed valid.single valid.ordinary sound longer
  · refine ⟨[], connect.stream.clientFinishes, carried, begins, ?_⟩
    have same := @run_extend _ [] _ connect.stream.clientFinishes (fun ended => ⟨rfl, ended⟩)
      _ _ ran
    rw [List.append_nil, header_append] at same
    exact GatewayStream.carrying_of_run valid.trimmed valid.single valid.ordinary sound same

/-- Whatever fails, nothing but the authority is dialed, and the target has a
beginning of what the client has written. -/
theorem Linked.within {past : List ConnectMove} (valid : Authority authority)
    (linked : Linked authority past connect) :
    connect.stream.dialed <+: [authority] ∧ connect.stream.toTarget <+: connect.sent := by
  rcases @Linked.carrying _ _ _ valid linked false nofun with
    ⟨rest, finishes, payload, begins, carrying⟩
  exact ⟨carrying.within.1, carrying.within.2.trans begins⟩

/-- The gateway does not take the line for a probe. -/
theorem Linked.not_measuring {past : List ConnectMove} (valid : Authority authority)
    (linked : Linked authority past connect) (left : Nat) :
    connect.stream.phase ≠ .measuring left := by
  intro phase
  rcases @Linked.carrying _ _ _ valid linked false nofun with ⟨rest, finishes, payload, _, carrying⟩
  have same : (extend rest finishes connect.stream).phase = .measuring left := phase
  rw [GatewayStream.Carrying, same] at carrying
  exact carrying

/-- A gateway that returns without a failure has dialed. -/
theorem Linked.dialed_of_returned {past : List ConnectMove} (valid : Authority authority)
    (linked : Linked authority past connect)
    (sound : forall move, move ∈ past.filterMap ConnectMove.gateway? -> move.fails = false)
    {succeeded : Bool} (phase : connect.stream.phase = .returned succeeded) :
    connect.stream.dialed = [authority] := by
  rcases @Linked.carrying _ _ _ valid linked true (fun _ => sound) with
    ⟨rest, finishes, payload, _, carrying⟩
  have same : (extend rest finishes connect.stream).phase = .returned succeeded := phase
  rw [GatewayStream.Carrying, same] at carrying
  exact (carrying.2.2 rfl).2.1

end Upward

end Connect
end Ingress
end QuicMix
