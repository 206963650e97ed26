import QuicMix.Foundations.Lists
import QuicMix.Oracle.Transport
import Mathlib.Data.List.Perm.Basic
import Mathlib.Data.List.Perm.Subperm
import Mathlib.Tactic.FieldSimp
import Mathlib.Tactic.Linarith
import Mathlib.Tactic.Positivity
import Mathlib.Tactic.Ring

namespace QuicMix
namespace Multipath

open Foundations
open Boundary
open Oracle

/-!
# The emulated mixnet

A datagram that is sent goes through two stages.  The first draws whether it is
dropped and how long it is delayed, and gives it to a task of its own that sleeps
for that time.  The second stage passes on what comes out of the delays; when the
path has a slot interval, it holds a bounded queue of which every tick of a timer
releases the head, and drops what finds the queue full.

A step of the machine is what a task does between two points where it waits.
Delays end in any order, and ticks come at any time.  The samples of the random
generator are part of the action that uses them.  The logarithm is a parameter,
and the delay is computed from it in double precision, as in the code.

A delay that no `Duration` can hold makes the first stage panic.  The timer of the
second stage panics when the moment of its next tick cannot be represented; when
that is so, from the tick that was due, the clock and the interval, is a parameter
as well.
-/

universe u

/-- The state of a stage's task. -/
inductive Stage where
  | running
  | ended
  | panicked
  deriving DecidableEq, Repr

structure EmulatedMixnet (Datagram : Type u) where
  /-- The handle exists, and with it the first sender and the last receiver. -/
  held : Bool
  inbox : List Datagram
  drawing : Stage
  /-- The tasks that sleep, each with its delay. -/
  delayed : List (Duration × Datagram)
  ready : List Datagram
  /-- The second stage has seen the end of `ready`. -/
  closed : Bool
  queue : List Datagram
  pacing : Stage
  out : List Datagram
  /-- Records, which the code does not have. -/
  sent : List Datagram
  dropped : List Datagram
  tailDropped : List Datagram
  entered : List Datagram
  released : List Datagram
  delivered : List Datagram
  /-- What went down with a task or was sent to one that is gone. -/
  lost : List Datagram

namespace EmulatedMixnet

inductive Action (Datagram : Type u) where
  | send (datagram : Datagram)
  | dropHandle
  | draw (sample : Rat) (uniforms : List Rat)
  | endDrawing
  | expire (index : Nat)
  | accept
  | close
  | tick (due now : Instant)
  | recv
  | recvNone

variable {Datagram : Type u}

def start : EmulatedMixnet Datagram where
  held := true
  inbox := []
  drawing := .running
  delayed := []
  ready := []
  closed := false
  queue := []
  pacing := .running
  out := []
  sent := []
  dropped := []
  tailDropped := []
  entered := []
  released := []
  delivered := []
  lost := []

/-- A sample of `gen::<f64>()`. -/
def Sample (value : Rat) : Prop :=
  0 <= value ∧ value < 1

instance (value : Rat) : Decidable (Sample value) :=
  inferInstanceAs (Decidable (_ ∧ _))

/-- The least sample that a delay is drawn from. -/
def leastSample : Rat :=
  toDouble (1 / 1000000000000)

/-- The exponential delay of one hop, in seconds. -/
def hopSecs (ln : Rat -> Rat) (params : OracleParams) (uniform : Rat) : Rat :=
  toDouble (-asSecs params.meanHopDelay * ln (max uniform leastSample))

/-- A sum of exponential delays, in seconds. -/
def delaySecs (ln : Rat -> Rat) (params : OracleParams) (uniforms : List Rat) : Rat :=
  sumDouble (uniforms.map (hopSecs ln params))

/-- Into the last channel, which is gone with the handle. -/
def release (mixnet : EmulatedMixnet Datagram) (datagram : Datagram) : EmulatedMixnet Datagram :=
  { mixnet with
    out := if mixnet.held then mixnet.out ++ [datagram] else mixnet.out
    released := mixnet.released ++ [datagram] }

/-- `ready.recv()` returns `None`: nothing is left and no sender is. -/
def AtEnd (mixnet : EmulatedMixnet Datagram) : Prop :=
  mixnet.ready = [] ∧ mixnet.drawing ≠ .running ∧ mixnet.delayed = []

instance (mixnet : EmulatedMixnet Datagram) : Decidable (AtEnd mixnet) :=
  inferInstanceAs (Decidable (_ ∧ _ ∧ _))

def step (ln : Rat -> Rat) (overflows : Instant -> Instant -> Duration -> Bool)
    (params : OracleParams) (maxQueue : Nat) (mixnet : EmulatedMixnet Datagram) :
    Action Datagram -> Option (EmulatedMixnet Datagram)
  | .send datagram =>
      if mixnet.held then
        if mixnet.drawing = .running then some { mixnet with
          inbox := mixnet.inbox ++ [datagram], sent := mixnet.sent ++ [datagram] }
        else some { mixnet with
          sent := mixnet.sent ++ [datagram], lost := mixnet.lost ++ [datagram] }
      else none
  | .dropHandle =>
      if mixnet.held then some { mixnet with held := false, out := [] } else none
  | .draw sample uniforms =>
      match mixnet.drawing, mixnet.inbox with
      | .running, datagram :: rest =>
          if Sample sample ∧ uniforms.length = params.hops ∧
              forall uniform, uniform ∈ uniforms -> Sample uniform then
            match fromSecs (delaySecs ln params uniforms) with
            | none => some { mixnet with
                inbox := [], drawing := .panicked, lost := mixnet.lost ++ datagram :: rest }
            | some delay =>
                if sample < params.dropProb then some { mixnet with
                  inbox := rest, dropped := mixnet.dropped ++ [datagram] }
                else some { mixnet with
                  inbox := rest, delayed := mixnet.delayed ++ [(delay, datagram)] }
          else none
      | _, _ => none
  | .endDrawing =>
      if mixnet.drawing = .running ∧ mixnet.held = false ∧ mixnet.inbox = [] then
        some { mixnet with drawing := .ended }
      else none
  | .expire index =>
      match mixnet.delayed[index]? with
      | none => none
      | some (_, datagram) =>
          if mixnet.pacing = .running then some { mixnet with
            delayed := mixnet.delayed.eraseIdx index, ready := mixnet.ready ++ [datagram] }
          else some { mixnet with
            delayed := mixnet.delayed.eraseIdx index, lost := mixnet.lost ++ [datagram] }
  | .accept =>
      if mixnet.pacing ≠ .running ∨ mixnet.closed then none
      else
        match mixnet.ready with
        | [] => none
        | datagram :: rest =>
            if params.slotInterval = 0 then some { mixnet.release datagram with ready := rest }
            else if mixnet.queue.length < maxQueue then some { mixnet with
              ready := rest
              queue := mixnet.queue ++ [datagram]
              entered := mixnet.entered ++ [datagram] }
            else some { mixnet with
              ready := rest, tailDropped := mixnet.tailDropped ++ [datagram] }
  | .close =>
      if mixnet.pacing ≠ .running ∨ mixnet.closed then none
      else if mixnet.AtEnd then
        if params.slotInterval = 0 then some { mixnet with pacing := .ended }
        else some { mixnet with closed := true }
      else none
  | .tick due now =>
      if mixnet.pacing ≠ .running ∨ params.slotInterval = 0 then none
      else if overflows due now params.slotInterval then
        -- The queue goes with the task, and so does what waits in its channel.
        some { mixnet with
          ready := [], queue := [], pacing := .panicked
          lost := mixnet.lost ++ (mixnet.ready ++ mixnet.queue) }
      else
        match mixnet.queue with
        | datagram :: rest => some { mixnet.release datagram with queue := rest }
        | [] => if mixnet.closed then some { mixnet with pacing := .ended } else some mixnet
  | .recv =>
      match mixnet.held, mixnet.out with
      | true, datagram :: rest => some { mixnet with
          out := rest, delivered := mixnet.delivered ++ [datagram] }
      | _, _ => none
  | .recvNone =>
      if mixnet.held ∧ mixnet.out = [] ∧ mixnet.pacing ≠ .running then some mixnet else none

/-! ## What a step does -/

/-- Everything that a step can do to the state. -/
inductive Moved (ln : Rat -> Rat) (overflows : Instant -> Instant -> Duration -> Bool)
    (params : OracleParams) (maxQueue : Nat) (mixnet : EmulatedMixnet Datagram) :
    Action Datagram -> EmulatedMixnet Datagram -> Prop where
  | send {datagram : Datagram} (running : mixnet.drawing = .running) :
      Moved ln overflows params maxQueue mixnet (.send datagram) { mixnet with
        inbox := mixnet.inbox ++ [datagram], sent := mixnet.sent ++ [datagram] }
  | sendLost {datagram : Datagram} (held : mixnet.held = true)
      (gone : mixnet.drawing ≠ .running) :
      Moved ln overflows params maxQueue mixnet (.send datagram) { mixnet with
        sent := mixnet.sent ++ [datagram], lost := mixnet.lost ++ [datagram] }
  | dropHandle :
      Moved ln overflows params maxQueue mixnet .dropHandle { mixnet with held := false, out := [] }
  | panic {sample : Rat} {uniforms : List Rat} {datagram : Datagram} {rest : List Datagram}
      (running : mixnet.drawing = .running) (front : mixnet.inbox = datagram :: rest)
      (count : uniforms.length = params.hops)
      (samples : forall uniform, uniform ∈ uniforms -> Sample uniform)
      (unfit : fromSecs (delaySecs ln params uniforms) = none) :
      Moved ln overflows params maxQueue mixnet (.draw sample uniforms) { mixnet with
        inbox := [], drawing := .panicked, lost := mixnet.lost ++ datagram :: rest }
  | drop {sample : Rat} {uniforms : List Rat} {datagram : Datagram} {rest : List Datagram}
      {delay : Duration} (front : mixnet.inbox = datagram :: rest)
      (fits : fromSecs (delaySecs ln params uniforms) = some delay) (nonneg : 0 <= sample)
      (unlucky : sample < params.dropProb) :
      Moved ln overflows params maxQueue mixnet (.draw sample uniforms) { mixnet with
        inbox := rest, dropped := mixnet.dropped ++ [datagram] }
  | delay {sample : Rat} {uniforms : List Rat} {datagram : Datagram} {rest : List Datagram}
      {delay : Duration} (running : mixnet.drawing = .running)
      (front : mixnet.inbox = datagram :: rest)
      (fits : fromSecs (delaySecs ln params uniforms) = some delay) :
      Moved ln overflows params maxQueue mixnet (.draw sample uniforms) { mixnet with
        inbox := rest, delayed := mixnet.delayed ++ [(delay, datagram)] }
  | endDrawing (running : mixnet.drawing = .running) (gone : mixnet.held = false)
      (empty : mixnet.inbox = []) :
      Moved ln overflows params maxQueue mixnet .endDrawing { mixnet with drawing := .ended }
  | expireLost {index : Nat} {delay : Duration} {datagram : Datagram}
      (asleep : mixnet.delayed[index]? = some (delay, datagram))
      (halted : mixnet.pacing ≠ .running) :
      Moved ln overflows params maxQueue mixnet (.expire index) { mixnet with
        delayed := mixnet.delayed.eraseIdx index, lost := mixnet.lost ++ [datagram] }
  | expire {index : Nat} {delay : Duration} {datagram : Datagram}
      (asleep : mixnet.delayed[index]? = some (delay, datagram))
      (going : mixnet.pacing = .running) :
      Moved ln overflows params maxQueue mixnet (.expire index) { mixnet with
        delayed := mixnet.delayed.eraseIdx index, ready := mixnet.ready ++ [datagram] }
  | pass {datagram : Datagram} {rest : List Datagram} (front : mixnet.ready = datagram :: rest)
      (uncapped : params.slotInterval = 0) :
      Moved ln overflows params maxQueue mixnet .accept
        { mixnet.release datagram with ready := rest }
  | enqueue {datagram : Datagram} {rest : List Datagram} (front : mixnet.ready = datagram :: rest)
      (paced : params.slotInterval ≠ 0) (room : mixnet.queue.length < maxQueue) :
      Moved ln overflows params maxQueue mixnet .accept { mixnet with
        ready := rest
        queue := mixnet.queue ++ [datagram]
        entered := mixnet.entered ++ [datagram] }
  | tailDrop {datagram : Datagram} {rest : List Datagram} (front : mixnet.ready = datagram :: rest)
      (paced : params.slotInterval ≠ 0) (full : maxQueue <= mixnet.queue.length) :
      Moved ln overflows params maxQueue mixnet .accept { mixnet with
        ready := rest, tailDropped := mixnet.tailDropped ++ [datagram] }
  | returned (atEnd : mixnet.AtEnd) (uncapped : params.slotInterval = 0) :
      Moved ln overflows params maxQueue mixnet .close { mixnet with pacing := .ended }
  | close (atEnd : mixnet.AtEnd) (paced : params.slotInterval ≠ 0) :
      Moved ln overflows params maxQueue mixnet .close { mixnet with closed := true }
  | burst {due now : Instant} (overflow : overflows due now params.slotInterval = true) :
      Moved ln overflows params maxQueue mixnet (.tick due now) { mixnet with
        ready := [], queue := [], pacing := .panicked
        lost := mixnet.lost ++ (mixnet.ready ++ mixnet.queue) }
  | tick {due now : Instant} {datagram : Datagram} {rest : List Datagram}
      (calm : overflows due now params.slotInterval = false)
      (front : mixnet.queue = datagram :: rest) (paced : params.slotInterval ≠ 0) :
      Moved ln overflows params maxQueue mixnet (.tick due now)
        { mixnet.release datagram with queue := rest }
  | broke {due now : Instant} (calm : overflows due now params.slotInterval = false)
      (closed : mixnet.closed = true) (paced : params.slotInterval ≠ 0) :
      Moved ln overflows params maxQueue mixnet (.tick due now)
        { mixnet with pacing := .ended }
  | emptyTick {due now : Instant} (calm : overflows due now params.slotInterval = false) :
      Moved ln overflows params maxQueue mixnet (.tick due now) mixnet
  | recvNone : Moved ln overflows params maxQueue mixnet .recvNone mixnet
  | recv {datagram : Datagram} {rest : List Datagram} (held : mixnet.held = true)
      (front : mixnet.out = datagram :: rest) :
      Moved ln overflows params maxQueue mixnet .recv { mixnet with
        out := rest, delivered := mixnet.delivered ++ [datagram] }

variable {ln : Rat -> Rat} {overflows : Instant -> Instant -> Duration -> Bool}
variable {params : OracleParams} {maxQueue : Nat}
variable {mixnet next : EmulatedMixnet Datagram} {action : Action Datagram}

theorem moved_of_step (moved : step ln overflows params maxQueue mixnet action = some next) :
    Moved ln overflows params maxQueue mixnet action next := by
  cases action with
  | send datagram =>
      simp only [step] at moved
      split at moved
      case isTrue held =>
          split at moved
          case isTrue running =>
              cases moved
              exact .send running
          case isFalse gone =>
              cases moved
              exact .sendLost held gone
      case isFalse => cases moved
  | dropHandle =>
      simp only [step] at moved
      split at moved
      case isTrue =>
          cases moved
          exact .dropHandle
      case isFalse => cases moved
  | draw sample uniforms =>
      simp only [step] at moved
      split at moved
      case h_1 datagram rest running front =>
          split at moved
          case isTrue samples =>
              split at moved
              case h_1 unfit =>
                  cases moved
                  exact .panic running front samples.2.1 samples.2.2 unfit
              case h_2 delay fits =>
                  split at moved
                  case isTrue unlucky =>
                      cases moved
                      exact .drop front fits samples.1.1 unlucky
                  case isFalse =>
                      cases moved
                      exact .delay running front fits
          case isFalse => cases moved
      case h_2 => cases moved
  | endDrawing =>
      simp only [step] at moved
      split at moved
      case isTrue ready =>
          cases moved
          exact .endDrawing ready.1 ready.2.1 ready.2.2
      case isFalse => cases moved
  | expire index =>
      simp only [step] at moved
      split at moved
      case h_1 => cases moved
      case h_2 delay datagram asleep =>
          split at moved
          case isTrue going =>
              cases moved
              exact .expire asleep going
          case isFalse halted =>
              cases moved
              exact .expireLost asleep halted
  | accept =>
      simp only [step] at moved
      split at moved
      case isTrue => cases moved
      case isFalse =>
          split at moved
          case h_1 => cases moved
          case h_2 datagram rest front =>
              split at moved
              case isTrue uncapped =>
                  cases moved
                  exact .pass front uncapped
              case isFalse paced =>
                  split at moved
                  case isTrue room =>
                      cases moved
                      exact .enqueue front paced room
                  case isFalse full =>
                      cases moved
                      exact .tailDrop front paced (Nat.le_of_not_lt full)
  | close =>
      simp only [step] at moved
      split at moved
      case isTrue => cases moved
      case isFalse =>
          split at moved
          case isTrue atEnd =>
              split at moved
              case isTrue uncapped =>
                  cases moved
                  exact .returned atEnd uncapped
              case isFalse paced =>
                  cases moved
                  exact .close atEnd paced
          case isFalse => cases moved
  | tick due now =>
      simp only [step] at moved
      split at moved
      case isTrue => cases moved
      case isFalse going =>
          have paced : params.slotInterval ≠ 0 := fun uncapped => going (.inr uncapped)
          split at moved
          case isTrue overflow =>
              cases moved
              exact .burst overflow
          case isFalse fine =>
              have calm := Bool.eq_false_of_not_eq_true fine
              split at moved
              case h_1 datagram rest front =>
                  cases moved
                  exact .tick calm front paced
              case h_2 =>
                  split at moved
                  case isTrue closed =>
                      cases moved
                      exact .broke calm closed paced
                  case isFalse =>
                      cases moved
                      exact .emptyTick calm
  | recv =>
      simp only [step] at moved
      split at moved
      case h_1 datagram rest held front =>
          cases moved
          exact .recv held front
      case h_2 => cases moved
  | recvNone =>
      simp only [step] at moved
      split at moved
      case isTrue =>
          cases moved
          exact .recvNone
      case isFalse => cases moved

/-! ## Where the datagrams are -/

/-- Delayed or in one of the two inner channels. -/
def transit (mixnet : EmulatedMixnet Datagram) : List Datagram :=
  mixnet.inbox ++ mixnet.delayed.map Prod.snd ++ mixnet.ready

/-- What the emulator says becomes of a datagram. -/
def whereabouts (mixnet : EmulatedMixnet Datagram) : List Datagram :=
  mixnet.dropped ++ mixnet.tailDropped ++ mixnet.transit ++ mixnet.queue ++ mixnet.released

/-- Every datagram that was sent is in one place. -/
def Accounted (mixnet : EmulatedMixnet Datagram) : Prop :=
  mixnet.sent.Perm (mixnet.whereabouts ++ mixnet.lost)

theorem accounted_iff [DecidableEq Datagram] (mixnet : EmulatedMixnet Datagram) :
    Accounted mixnet <-> forall datagram, mixnet.sent.count datagram =
      mixnet.dropped.count datagram + mixnet.tailDropped.count datagram +
        (mixnet.inbox.count datagram + (mixnet.delayed.map Prod.snd).count datagram +
          mixnet.ready.count datagram) + mixnet.queue.count datagram +
        mixnet.released.count datagram + mixnet.lost.count datagram := by
  rw [Accounted, List.perm_iff_count]
  simp only [whereabouts, transit, List.count_append]

theorem accounted_start : Accounted (start : EmulatedMixnet Datagram) :=
  List.Perm.refl []

/-- Ending a delay takes one datagram out of the delays. -/
theorem count_expire [DecidableEq Datagram] {delayed : List (Duration × Datagram)} {index : Nat}
    {delay : Duration} {datagram : Datagram} (asleep : delayed[index]? = some (delay, datagram))
    (other : Datagram) :
    (delayed.map Prod.snd).count other =
      ((delayed.eraseIdx index).map Prod.snd).count other + [datagram].count other := by
  rcases split_at asleep with ⟨before, after, split, _, erased⟩
  rw [erased, split]
  simp only [List.map_append, List.map_cons, List.count_append, List.count_cons, List.count_nil]
  omega

theorem Moved.accounted (moved : Moved ln overflows params maxQueue mixnet action next)
    (accounted : Accounted mixnet) : Accounted next := by
  classical
  rw [accounted_iff] at accounted ⊢
  intro other
  have before := accounted other
  cases moved with
  | send running =>
      simp only [List.count_append]
      omega
  | sendLost held gone =>
      simp only [List.count_append]
      omega
  | dropHandle => exact before
  | panic running front count samples unfit =>
      rw [front] at before
      simp only [List.count_append, List.count_nil]
      omega
  | drop front fits nonneg unlucky =>
      rw [front] at before
      simp only [List.count_append, List.count_cons, List.count_nil] at before ⊢
      omega
  | delay running front fits =>
      rw [front] at before
      simp only [List.map_append, List.map_cons, List.map_nil, List.count_append, List.count_cons,
        List.count_nil] at before ⊢
      omega
  | endDrawing running gone empty => exact before
  | expireLost asleep halted =>
      have woken := count_expire asleep other
      simp only [List.count_append]
      omega
  | expire asleep going =>
      have woken := count_expire asleep other
      simp only [List.count_append]
      omega
  | pass front uncapped =>
      rw [front] at before
      simp only [release, List.count_append, List.count_cons, List.count_nil] at before ⊢
      omega
  | enqueue front paced room =>
      rw [front] at before
      simp only [List.count_append, List.count_cons, List.count_nil] at before ⊢
      omega
  | tailDrop front paced full =>
      rw [front] at before
      simp only [List.count_append, List.count_cons, List.count_nil] at before ⊢
      omega
  | returned atEnd uncapped => exact before
  | close atEnd paced => exact before
  | burst overflow =>
      simp only [List.count_append, List.count_nil]
      omega
  | tick calm front paced =>
      rw [front] at before
      simp only [release, List.count_append, List.count_cons, List.count_nil] at before ⊢
      omega
  | broke calm closed paced => exact before
  | emptyTick calm => exact before
  | recvNone => exact before
  | recv held front => exact before

/-! ## Panics -/

/-- The stages end in order, and what a stage that panicked held is lost. -/
structure Intact (mixnet : EmulatedMixnet Datagram) : Prop where
  atEnd : mixnet.closed = true ∨ mixnet.pacing = .ended -> mixnet.AtEnd
  ended : mixnet.drawing = .ended -> mixnet.held = false
  panicked : mixnet.drawing = .panicked -> mixnet.lost ≠ []

theorem intact_start : Intact (start : EmulatedMixnet Datagram) where
  atEnd := fun either => either.elim nofun nofun
  ended := nofun
  panicked := nofun

/-- The second stage goes on while the first does. -/
theorem Intact.going_of_running (intact : Intact mixnet) (running : mixnet.drawing = .running) :
    ¬ (mixnet.closed = true ∨ mixnet.pacing = .ended) :=
  fun either => (intact.atEnd either).2.1 running

theorem Intact.going_of_asleep (intact : Intact mixnet) {index : Nat}
    {task : Duration × Datagram} (asleep : mixnet.delayed[index]? = some task) :
    ¬ (mixnet.closed = true ∨ mixnet.pacing = .ended) := by
  intro either
  rw [(intact.atEnd either).2.2] at asleep
  exact absurd asleep nofun

theorem Intact.going_of_ready (intact : Intact mixnet) {datagram : Datagram}
    {rest : List Datagram} (front : mixnet.ready = datagram :: rest) :
    ¬ (mixnet.closed = true ∨ mixnet.pacing = .ended) := by
  intro either
  exact absurd ((intact.atEnd either).1.symm.trans front) nofun

/-- Who sends to a first stage that is gone sends to one that panicked. -/
theorem Intact.panicked_of_gone (intact : Intact mixnet) (held : mixnet.held = true)
    (gone : mixnet.drawing ≠ .running) : mixnet.drawing = .panicked := by
  cases stage : mixnet.drawing with
  | running => exact absurd stage gone
  | ended => exact absurd held (by rw [intact.ended stage]; exact Bool.false_ne_true)
  | panicked => rfl

/-- A delay ends into a second stage that goes on or panicked. -/
theorem Intact.panicked_of_asleep (intact : Intact mixnet) {index : Nat}
    {task : Duration × Datagram} (asleep : mixnet.delayed[index]? = some task)
    (halted : mixnet.pacing ≠ .running) : mixnet.pacing = .panicked := by
  cases stage : mixnet.pacing with
  | running => exact absurd stage halted
  | ended => exact absurd (.inr stage) (intact.going_of_asleep asleep)
  | panicked => rfl

theorem ne_nil_of_lost {before after : List Datagram} (some : before ≠ []) :
    before ++ after ≠ [] :=
  fun none => some (List.append_eq_nil_iff.mp none).1

theorem Moved.intact (moved : Moved ln overflows params maxQueue mixnet action next)
    (intact : Intact mixnet) : Intact next := by
  cases moved with
  | send running =>
      exact { intact with atEnd := fun either => absurd either (intact.going_of_running running) }
  | sendLost held gone =>
      exact { intact with panicked := fun down => ne_nil_of_lost (intact.panicked down) }
  | dropHandle => exact { intact with ended := fun _ => rfl }
  | panic running front count samples unfit =>
      refine ⟨fun either => absurd either (intact.going_of_running running), nofun, ?_⟩
      intro _ empty
      exact absurd (List.append_eq_nil_iff.mp empty).2 (List.cons_ne_nil _ _)
  | drop front fits nonneg unlucky => exact { intact with }
  | delay running front fits =>
      exact { intact with atEnd := fun either => absurd either (intact.going_of_running running) }
  | endDrawing running gone empty =>
      exact ⟨fun either => absurd either (intact.going_of_running running), fun _ => gone, nofun⟩
  | expireLost asleep halted =>
      exact ⟨fun either => absurd either (intact.going_of_asleep asleep), intact.ended,
        fun down => ne_nil_of_lost (intact.panicked down)⟩
  | expire asleep going =>
      exact { intact with atEnd := fun either => absurd either (intact.going_of_asleep asleep) }
  | pass front uncapped =>
      exact { intact with atEnd := fun either => absurd either (intact.going_of_ready front) }
  | enqueue front paced room =>
      exact { intact with atEnd := fun either => absurd either (intact.going_of_ready front) }
  | tailDrop front paced full =>
      exact { intact with atEnd := fun either => absurd either (intact.going_of_ready front) }
  | returned atEnd uncapped => exact { intact with atEnd := fun _ => atEnd }
  | close atEnd paced => exact { intact with atEnd := fun _ => atEnd }
  | burst overflow =>
      refine ⟨?_, intact.ended, fun down => ne_nil_of_lost (intact.panicked down)⟩
      rintro (closed | ended)
      · exact ⟨rfl, (intact.atEnd (.inl closed)).2⟩
      · exact Stage.noConfusion ended
  | tick calm front paced => exact { intact with }
  | broke calm closed paced => exact { intact with atEnd := fun _ => intact.atEnd (.inl closed) }
  | emptyTick calm => exact intact
  | recvNone => exact intact
  | recv held front => exact { intact with }

/-- The delay that the samples make is one that a `Duration` can hold. -/
def Fits (ln : Rat -> Rat) (params : OracleParams) (uniforms : List Rat) : Prop :=
  0 <= delaySecs ln params uniforms ∧
    roundEven (delaySecs ln params uniforms * giga) < durationLimit

theorem fits_iff (uniforms : List Rat) :
    Fits ln params uniforms <-> fromSecs (delaySecs ln params uniforms) ≠ none := by
  rw [Ne, fromSecs_eq_none_iff, not_not]
  exact Iff.rfl

/-- An action takes no datagram down with a task: a delay fits that is drawn, a
timer that overflows has nothing behind it, and no delay ends after it did. -/
def Keeps (ln : Rat -> Rat) (overflows : Instant -> Instant -> Duration -> Bool)
    (params : OracleParams) (mixnet : EmulatedMixnet Datagram) : Action Datagram -> Prop
  | .draw _ uniforms => Fits ln params uniforms
  | .tick due now =>
      overflows due now params.slotInterval = true -> mixnet.ready = [] ∧ mixnet.queue = []
  | .expire _ => mixnet.pacing ≠ .panicked
  | _ => True

/-- Nothing is lost as long as every action keeps what it finds. -/
theorem Moved.lost_iff (moved : Moved ln overflows params maxQueue mixnet action next)
    (intact : Intact mixnet) :
    next.lost = [] <-> mixnet.lost = [] ∧ Keeps ln overflows params mixnet action := by
  cases moved with
  | sendLost held gone =>
      have already := intact.panicked (intact.panicked_of_gone held gone)
      exact ⟨fun empty => absurd (List.append_eq_nil_iff.mp empty).1 already,
        fun both => absurd both.1 already⟩
  | panic running front count samples unfit =>
      refine ⟨fun empty => absurd (List.append_eq_nil_iff.mp empty).2 (List.cons_ne_nil _ _), ?_⟩
      rintro ⟨_, fits⟩
      exact absurd unfit ((fits_iff _).mp fits)
  | drop front fits nonneg unlucky =>
      exact (and_iff_left ((fits_iff _).mpr (fits ▸ Option.some_ne_none _))).symm
  | delay running front fits =>
      exact (and_iff_left ((fits_iff _).mpr (fits ▸ Option.some_ne_none _))).symm
  | expireLost asleep halted =>
      refine ⟨fun empty => absurd (List.append_eq_nil_iff.mp empty).2 (List.cons_ne_nil _ _), ?_⟩
      rintro ⟨_, up⟩
      exact absurd (intact.panicked_of_asleep asleep halted) up
  | expire asleep going =>
      exact (and_iff_left (fun down => Stage.noConfusion (going.symm.trans down))).symm
  | burst overflow =>
      rw [List.append_eq_nil_iff, List.append_eq_nil_iff]
      exact and_congr_right (fun _ => ⟨fun both _ => both, fun kept => kept overflow⟩)
  | tick calm front paced =>
      exact (and_iff_left (fun late => absurd (calm.symm.trans late) Bool.false_ne_true)).symm
  | broke calm closed paced =>
      exact (and_iff_left (fun late => absurd (calm.symm.trans late) Bool.false_ne_true)).symm
  | emptyTick calm =>
      exact (and_iff_left (fun late => absurd (calm.symm.trans late) Bool.false_ne_true)).symm
  | _ => exact (and_iff_left trivial).symm

/-! ## The queue -/

/-- What holds whether or not a stage panicked. -/
structure Orderly (params : OracleParams) (maxQueue : Nat) (mixnet : EmulatedMixnet Datagram) :
    Prop where
  bounded : mixnet.queue.length <= maxQueue
  order : params.slotInterval ≠ 0 -> mixnet.lost = [] ->
    mixnet.entered = mixnet.released ++ mixnet.queue
  passed : mixnet.held = true -> mixnet.delivered ++ mixnet.out = mixnet.released
  delivered : mixnet.delivered.IsPrefix mixnet.released
  spared : params.dropProb <= 0 -> mixnet.dropped = []
  overfull : mixnet.tailDropped ≠ [] -> maxQueue < mixnet.sent.length

theorem orderly_start : Orderly params maxQueue (start : EmulatedMixnet Datagram) where
  bounded := Nat.zero_le _
  order := fun _ _ => rfl
  passed := fun _ => rfl
  delivered := ⟨[], rfl⟩
  spared := fun _ => rfl
  overfull := fun some => absurd rfl some

theorem Orderly.release_passed (orderly : Orderly params maxQueue mixnet) (datagram : Datagram)
    (held : mixnet.held = true) :
    mixnet.delivered ++ (if mixnet.held then mixnet.out ++ [datagram] else mixnet.out) =
      mixnet.released ++ [datagram] := by
  rw [if_pos held, ← orderly.passed held, List.append_assoc]

theorem Orderly.release_delivered (orderly : Orderly params maxQueue mixnet)
    (datagram : Datagram) : mixnet.delivered.IsPrefix (mixnet.released ++ [datagram]) :=
  orderly.delivered.trans (List.prefix_append _ _)

/-- The queue and what waits for it were sent. -/
theorem Accounted.length_le (accounted : Accounted mixnet) :
    mixnet.ready.length + mixnet.queue.length <= mixnet.sent.length := by
  rw [accounted.length_eq]
  simp only [whereabouts, transit, List.length_append]
  omega

theorem Orderly.overfull_send (orderly : Orderly params maxQueue mixnet) (datagram : Datagram)
    (some : mixnet.tailDropped ≠ []) : maxQueue < (mixnet.sent ++ [datagram]).length := by
  have more := orderly.overfull some
  rw [List.length_append]
  omega

theorem nil_of_append {before after : List Datagram} (empty : before ++ after = []) :
    before = [] :=
  (List.append_eq_nil_iff.mp empty).1

theorem Moved.orderly (moved : Moved ln overflows params maxQueue mixnet action next)
    (accounted : Accounted mixnet) (orderly : Orderly params maxQueue mixnet) :
    Orderly params maxQueue next := by
  cases moved with
  | send running =>
      exact { orderly with overfull := orderly.overfull_send _ }
  | sendLost held gone =>
      exact { orderly with
        order := fun paced empty => orderly.order paced (nil_of_append empty)
        overfull := orderly.overfull_send _ }
  | dropHandle =>
      exact { orderly with passed := nofun }
  | panic running front count samples unfit =>
      exact { orderly with order := fun paced empty => orderly.order paced (nil_of_append empty) }
  | drop front fits nonneg unlucky =>
      refine { orderly with spared := ?_ }
      intro never
      exact absurd (lt_of_le_of_lt nonneg (lt_of_lt_of_le unlucky never)) (lt_irrefl 0)
  | delay running front fits => exact { orderly with }
  | endDrawing running gone empty => exact { orderly with }
  | expireLost asleep halted =>
      exact { orderly with order := fun paced empty => orderly.order paced (nil_of_append empty) }
  | expire asleep going => exact { orderly with }
  | pass front uncapped =>
      exact { orderly with
        order := fun paced => absurd uncapped paced
        passed := orderly.release_passed _
        delivered := orderly.release_delivered _ }
  | enqueue front paced room =>
      refine { orderly with bounded := ?_, order := ?_ }
      · rw [List.length_append]
        exact room
      · intro _ empty
        dsimp only
        rw [orderly.order paced empty, List.append_assoc]
  | tailDrop front paced full =>
      refine { orderly with overfull := ?_ }
      intro _
      have some := accounted.length_le
      rw [front, List.length_cons] at some
      dsimp only
      omega
  | returned atEnd uncapped => exact { orderly with }
  | close atEnd paced => exact { orderly with }
  | burst overflow =>
      refine { orderly with bounded := Nat.zero_le _, order := ?_ }
      intro paced empty
      rcases List.append_eq_nil_iff.mp empty with ⟨before, held⟩
      have queue := (List.append_eq_nil_iff.mp held).2
      rw [← queue]
      exact orderly.order paced before
  | tick calm front paced =>
      have bounded := orderly.bounded
      rw [front, List.length_cons] at bounded
      refine { orderly with
        bounded := Nat.le_of_succ_le bounded
        order := ?_
        passed := orderly.release_passed _
        delivered := orderly.release_delivered _ }
      intro _ empty
      dsimp only [release]
      rw [orderly.order paced empty, front, List.append_assoc, List.singleton_append]
  | broke calm closed paced => exact { orderly with }
  | emptyTick calm => exact orderly
  | recvNone => exact orderly
  | recv held front =>
      have passed := orderly.passed held
      rw [front] at passed
      refine { orderly with passed := ?_, delivered := ?_ }
      · intro _
        rw [← passed, List.append_assoc, List.singleton_append]
      · rw [← passed]
        exact ⟨_, by rw [List.append_assoc, List.singleton_append]⟩

def Action.isTick : Action Datagram -> Bool
  | .tick _ _ => true
  | _ => false

/-- On a paced path a tick releases one datagram at most, and nothing else does. -/
theorem Moved.released (moved : Moved ln overflows params maxQueue mixnet action next)
    (paced : params.slotInterval ≠ 0) :
    exists more, next.released = mixnet.released ++ more ∧
      more.length <= if action.isTick then 1 else 0 := by
  cases moved with
  | pass front uncapped => exact absurd uncapped paced
  | tick calm front paced => exact ⟨_, rfl, Nat.le_refl 1⟩
  | _ => exact ⟨[], (List.append_nil _).symm, Nat.zero_le _⟩

/-- A datagram is dropped at the tail only when the queue is full. -/
theorem Moved.tailDropped (moved : Moved ln overflows params maxQueue mixnet action next)
    (orderly : Orderly params maxQueue mixnet) :
    next.tailDropped = mixnet.tailDropped ∨
      params.slotInterval ≠ 0 ∧ mixnet.queue.length = maxQueue := by
  cases moved with
  | tailDrop front paced full => exact .inr ⟨paced, Nat.le_antisymm orderly.bounded full⟩
  | _ => exact .inl rfl

/-! ## Whole runs -/

/-- What should hold of every state. -/
structure Conserved (params : OracleParams) (maxQueue : Nat)
    (mixnet : EmulatedMixnet Datagram) : Prop where
  /-- Nothing is invented or duplicated. -/
  delivered : mixnet.delivered.Subperm mixnet.sent
  bounded : params.slotInterval ≠ 0 -> mixnet.queue.length <= maxQueue
  order : params.slotInterval ≠ 0 -> mixnet.entered = mixnet.released ++ mixnet.queue
  account : mixnet.sent.Perm mixnet.whereabouts
  spared : params.dropProb <= 0 -> mixnet.dropped = []
  /-- Without a random drop and with room for everything nothing is lost. -/
  lossless : mixnet.dropped = [] -> mixnet.sent.length <= maxQueue ->
    mixnet.sent.Perm (mixnet.transit ++ mixnet.queue ++ mixnet.released)

/-- What should hold of a run. -/
structure Conserving (ln : Rat -> Rat) (overflows : Instant -> Instant -> Duration -> Bool)
    (params : OracleParams) (maxQueue : Nat) (schedule : List (Action Datagram)) : Prop where
  states : forall mixnet, Visits (step ln overflows params maxQueue) start schedule mixnet ->
    Conserved params maxQueue mixnet
  /-- There is no more than one release for each tick. -/
  ticks : params.slotInterval ≠ 0 -> forall before during after earlier later,
    schedule = before ++ (during ++ after) ->
    run (step ln overflows params maxQueue) start before = some earlier ->
    run (step ln overflows params maxQueue) earlier during = some later ->
      exists more, later.released = earlier.released ++ more ∧
        more.length <= during.countP Action.isTick
  tail : forall before action after mixnet next, schedule = before ++ action :: after ->
    run (step ln overflows params maxQueue) start before = some mixnet ->
    step ln overflows params maxQueue mixnet action = some next ->
      next.tailDropped = mixnet.tailDropped ∨
        params.slotInterval ≠ 0 ∧ mixnet.queue.length = maxQueue

variable {schedule : List (Action Datagram)}

/-- The three invariants together. -/
structure Sound (params : OracleParams) (maxQueue : Nat) (mixnet : EmulatedMixnet Datagram) :
    Prop where
  accounted : Accounted mixnet
  intact : Intact mixnet
  orderly : Orderly params maxQueue mixnet

theorem Moved.sound (moved : Moved ln overflows params maxQueue mixnet action next)
    (sound : Sound params maxQueue mixnet) : Sound params maxQueue next :=
  ⟨moved.accounted sound.accounted, moved.intact sound.intact,
    moved.orderly sound.accounted sound.orderly⟩

theorem sound_of_run (ran : run (step ln overflows params maxQueue) start schedule = some mixnet) :
    Sound params maxQueue mixnet :=
  invariant (Sound params maxQueue)
    (fun _ _ _ sound stepped => (moved_of_step stepped).sound sound)
    ⟨accounted_start, intact_start, orderly_start⟩ ran

/-- Nothing is lost in a run exactly if every action keeps what it finds. -/
theorem lost_of_run (ran : run (step ln overflows params maxQueue) start schedule = some mixnet) :
    mixnet.lost = [] <->
      Meets (step ln overflows params maxQueue) (Keeps ln overflows params) start schedule := by
  have rule := iff_meets_of_run (Keeps ln overflows params)
    (Sound params maxQueue) (fun state : EmulatedMixnet Datagram => state.lost = [])
    (fun state action next sound stepped => (moved_of_step stepped).sound sound)
    (fun state action next sound stepped => (moved_of_step stepped).lost_iff sound.intact)
    ⟨accounted_start, intact_start, orderly_start⟩ ran
  rw [rule]
  exact and_iff_right rfl

theorem delivered_subperm (sound : Sound params maxQueue mixnet) :
    mixnet.delivered.Subperm mixnet.sent := by
  have released : mixnet.released.Subperm (mixnet.whereabouts ++ mixnet.lost) := by
    rw [whereabouts, List.append_assoc]
    exact ((List.sublist_append_left _ _).trans (List.sublist_append_right _ _)).subperm
  exact (sound.orderly.delivered.sublist.subperm.trans released).trans
    sound.accounted.symm.subperm

/-- As long as nothing is lost, the emulator conserves datagrams. -/
theorem conserved_of_sound (sound : Sound params maxQueue mixnet) (kept : mixnet.lost = []) :
    Conserved params maxQueue mixnet := by
  have account : mixnet.sent.Perm mixnet.whereabouts := by
    have all := sound.accounted
    rw [Accounted, kept, List.append_nil] at all
    exact all
  refine ⟨delivered_subperm sound, fun _ => sound.orderly.bounded,
    fun paced => sound.orderly.order paced kept, account, sound.orderly.spared, ?_⟩
  intro spared room
  have none : mixnet.tailDropped = [] := by
    by_contra some
    exact absurd (sound.orderly.overfull some) (Nat.not_lt.mpr room)
  rw [whereabouts, spared, none] at account
  exact account

/-- What goes down with a task is in no place. -/
theorem kept_of_conserved (sound : Sound params maxQueue mixnet)
    (conserved : Conserved params maxQueue mixnet) : mixnet.lost = [] := by
  have same := sound.accounted.length_eq.symm.trans conserved.account.length_eq
  rw [List.length_append] at same
  exact List.length_eq_zero_iff.mp (by omega)

theorem conserving_of_keeps
    (keeps : Meets (step ln overflows params maxQueue) (Keeps ln overflows params) start schedule) :
    Conserving ln overflows params maxQueue schedule := by
  refine ⟨?_, ?_, ?_⟩
  · rintro state ⟨before, after, split, ranBefore⟩
    rw [split] at keeps
    exact conserved_of_sound (sound_of_run ranBefore) ((lost_of_run ranBefore).mpr keeps.front)
  · intro paced before during after earlier later _ _ ranDuring
    exact growth_of_run released Action.isTick
      (fun _ _ _ stepped => (moved_of_step stepped).released paced) ranDuring
  · intro before action after state next _ ranBefore stepped
    exact (moved_of_step stepped).tailDropped (sound_of_run ranBefore).orderly

/-- A run of the emulator conserves datagrams exactly when every delay that is
drawn in it fits, no tick overflows the timer with datagrams behind it, and no
delay ends after a tick that overflowed. -/
theorem conserving_iff_keeps (ln : Rat -> Rat) (overflows : Instant -> Instant -> Duration -> Bool)
    (params : OracleParams) (maxQueue : Nat) (schedule : List (Action Datagram))
    (final : EmulatedMixnet Datagram)
    (ran : run (step ln overflows params maxQueue) start schedule = some final) :
    Conserving ln overflows params maxQueue schedule <->
      Meets (step ln overflows params maxQueue) (Keeps ln overflows params) start schedule := by
  refine ⟨?_, conserving_of_keeps⟩
  intro conserving
  have conserved := conserving.states final ⟨schedule, [], (List.append_nil _).symm, ran⟩
  exact (lost_of_run ran).mp (kept_of_conserved (sound_of_run ran) conserved)

/-- `Instant` holds this many nanoseconds, and a timer that is five milliseconds
late adds its interval to the tick that was due. -/
def lateOverflow (due now : Instant) (interval : Duration) : Bool :=
  decide (due + 5000000 < now ∧ 2 ^ 63 * 1000000000 <= due + interval)

/-- The logarithm of a quarter, to the precision of the code. -/
def quarterLn (_ : Rat) : Rat :=
  -(13862943611198906 / 10000000000000000)

/-- One hop with the given mean delay, and one cell in ten milliseconds. -/
def oneHop (meanHopDelay : Duration) : OracleParams :=
  ⟨1, meanHopDelay, 0, 10000000, 1200⟩

/-- A datagram goes all the way. -/
def oneWay : List (Action Nat) :=
  [.send 7, .draw (1 / 2) [1 / 4], .expire 0, .accept, .tick 20000000 20000000, .recv]

theorem conserving_iff_keeps_oneWay :
    exists final,
      run (step quarterLn lateOverflow (oneHop 5000000) 1) start oneWay = some final ∧
      (Conserving quarterLn lateOverflow (oneHop 5000000) 1 oneWay <->
        Meets (step quarterLn lateOverflow (oneHop 5000000) 1)
          (Keeps quarterLn lateOverflow (oneHop 5000000)) start oneWay) := by
  have runs : (run (step quarterLn lateOverflow (oneHop 5000000) 1) start oneWay).isSome =
      true := by
    decide +kernel
  rcases Option.isSome_iff_exists.mp runs with ⟨final, ran⟩
  exact ⟨final, ran, conserving_iff_keeps _ _ _ _ _ final ran⟩

/-- The longest `Duration` as the mean delay of a hop: the first stage panics,
and the datagram is gone. -/
theorem not_conserving_longest :
    ¬ Conserving quarterLn lateOverflow (oneHop (durationLimit - 1)) 1
      [.send 7, .draw (1 / 2) [1 / 4]] := by
  intro conserving
  have panics : (run (step quarterLn lateOverflow (oneHop (durationLimit - 1)) 1) start
      [.send 7, .draw (1 / 2) [1 / 4]]).map (fun mixnet => (mixnet.sent, mixnet.whereabouts)) =
        some ([7], []) := by
    decide +kernel
  rcases Option.map_eq_some_iff.mp panics with ⟨final, ran, same⟩
  have account := (conserving.states final ⟨_, [], (List.append_nil _).symm, ran⟩).account
  rcases Prod.mk.inj same with ⟨sent, whereabouts⟩
  rw [sent, whereabouts] at account
  exact absurd account.length_eq (by decide)

/-- One mean delay of nearly `2 ^ 64` seconds is rounded up to them. -/
example : ¬ Fits (fun _ => -1) (oneHop (durationLimit - 1)) [1 / 4] := by
  intro fits
  exact absurd fits.2 (by decide +kernel)

/-! ## Delays that always fit -/

/-- What the delays need of the logarithm between the least sample and one. -/
def Logarithm (ln : Rat -> Rat) : Prop :=
  forall value, leastSample <= value -> value < 1 -> -28 <= ln value ∧ ln value <= 0

theorem leastSample_lt : leastSample < 1 := by
  decide +kernel

theorem asSecs_bounds {duration : Duration} (short : duration < 2 ^ 26 * giga) :
    0 <= asSecs duration ∧ asSecs duration <= (2 : Rat) ^ (26 : Int) := by
  have whole : duration / giga + 1 <= 2 ^ 26 := Nat.div_lt_of_lt_mul (by rwa [Nat.mul_comm])
  have seconds : toDouble (duration / giga : Nat) = (duration / giga : Nat) :=
    toDouble_natCast (Nat.le_trans (Nat.le_of_succ_le whole) (by decide))
  have part : (0 : Rat) <= (duration % giga : Nat) / giga := by positivity
  have proper : ((duration % giga : Nat) : Rat) / giga <= (1 : Nat) * (2 : Rat) ^ (0 : Int) := by
    rw [Nat.cast_one, one_mul, zpow_zero, div_le_one giga_pos, Nat.cast_le]
    exact Nat.le_of_lt (Nat.mod_lt _ (by decide))
  have rounded := toDouble_le part (by decide) (by decide) proper
  have nonneg : 0 <= ((duration / giga : Nat) : Rat) + toDouble ((duration % giga : Nat) / giga) :=
    add_nonneg (Nat.cast_nonneg _) (toDouble_nonneg part)
  have bounded : ((duration / giga : Nat) : Rat) + toDouble ((duration % giga : Nat) / giga) <=
      (1 : Nat) * (2 : Rat) ^ (26 : Int) := by
    have cast : ((duration / giga + 1 : Nat) : Rat) <= (2 : Rat) ^ (26 : Int) := by
      exact_mod_cast whole
    rw [Nat.cast_one, one_mul, zpow_zero] at rounded
    rw [Nat.cast_succ] at cast
    rw [Nat.cast_one, one_mul]
    linarith
  rw [asSecs, seconds]
  refine ⟨toDouble_nonneg nonneg, le_trans (toDouble_le nonneg (by decide) (by decide) bounded) ?_⟩
  rw [Nat.cast_one, one_mul]

/-- The delay of a hop is less than `2 ^ 31` seconds. -/
theorem hopSecs_bounds (logarithm : Logarithm ln)
    (modest : params.meanHopDelay < 2 ^ 26 * giga) {uniform : Rat} (sample : Sample uniform) :
    0 <= hopSecs ln params uniform ∧ hopSecs ln params uniform <= (2 : Rat) ^ (31 : Int) := by
  rcases logarithm _ (le_max_right uniform leastSample) (max_lt sample.2 leastSample_lt) with
    ⟨low, high⟩
  rcases asSecs_bounds modest with ⟨nonneg, bounded⟩
  have positive : 0 <= -asSecs params.meanHopDelay * ln (max uniform leastSample) := by
    rw [neg_mul_comm]
    exact mul_nonneg nonneg (neg_nonneg.mpr high)
  have below : -asSecs params.meanHopDelay * ln (max uniform leastSample) <=
      (1 : Nat) * (2 : Rat) ^ (31 : Int) := by
    calc -asSecs params.meanHopDelay * ln (max uniform leastSample)
        = asSecs params.meanHopDelay * -ln (max uniform leastSample) := neg_mul_comm _ _
      _ <= (2 : Rat) ^ (26 : Int) * 28 :=
          mul_le_mul bounded (by linarith) (neg_nonneg.mpr high) (by positivity)
      _ <= (1 : Nat) * (2 : Rat) ^ (31 : Int) := by norm_num
  refine ⟨toDouble_nonneg positive, ?_⟩
  have rounded := toDouble_le positive (by decide) (by decide) below
  rwa [Nat.cast_one, one_mul] at rounded

theorem fits_of_modest (logarithm : Logarithm ln) (hops : params.hops < 2 ^ 32)
    (modest : params.meanHopDelay < 2 ^ 26 * giga) {uniforms : List Rat}
    (count : uniforms.length = params.hops)
    (samples : forall uniform, uniform ∈ uniforms -> Sample uniform) :
    Fits ln params uniforms := by
  have length : (uniforms.map (hopSecs ln params)).length < 2 ^ 32 := by
    rw [List.length_map, count]
    exact hops
  have bounds : forall value, value ∈ uniforms.map (hopSecs ln params) ->
      0 <= value ∧ value <= (2 : Rat) ^ (31 : Int) := by
    intro value member
    rcases List.mem_map.mp member with ⟨uniform, drawn, rfl⟩
    exact hopSecs_bounds logarithm modest (samples uniform drawn)
  rcases sumDouble_le (by decide) bounds (by omega) with ⟨low, high⟩
  have total : delaySecs ln params uniforms * giga <= (2 ^ 63 * giga : Nat) := by
    have most : ((uniforms.map (hopSecs ln params)).length : Rat) <= (2 : Rat) ^ (32 : Int) := by
      exact_mod_cast Nat.le_of_lt length
    have secs : delaySecs ln params uniforms <= (2 ^ 63 : Nat) := by
      calc delaySecs ln params uniforms
          <= (2 : Rat) ^ (32 : Int) * (2 : Rat) ^ (31 : Int) :=
            le_trans high (mul_le_mul_of_nonneg_right most (by positivity))
        _ = (2 ^ 63 : Nat) := by norm_num
    rw [Nat.cast_mul]
    exact mul_le_mul_of_nonneg_right secs (le_of_lt giga_pos)
  refine ⟨low, Nat.lt_of_le_of_lt (roundEven_le ?_ total) (by decide)⟩
  exact mul_nonneg low (le_of_lt giga_pos)

/-- When a mean delay is shorter than `2 ^ 26` seconds, and the timer does not
overflow, every run conserves datagrams. -/
theorem conserving_of_modest (logarithm : Logarithm ln) (hops : params.hops < 2 ^ 32)
    (modest : params.meanHopDelay < 2 ^ 26 * giga)
    (calm : forall due now, overflows due now params.slotInterval = false)
    (ran : run (step ln overflows params maxQueue) start schedule = some mixnet) :
    Conserving ln overflows params maxQueue schedule := by
  have all : mixnet.lost = [] ∧ mixnet.pacing ≠ .panicked ∧ Intact mixnet := by
    refine invariant (fun state : EmulatedMixnet Datagram =>
      state.lost = [] ∧ state.pacing ≠ .panicked ∧ Intact state) ?_
      ⟨rfl, Stage.noConfusion, intact_start⟩ ran
    rintro state action next ⟨kept, up, intact⟩ stepped
    have moved := moved_of_step stepped
    have keeps : Keeps ln overflows params state action := by
      cases moved with
      | panic _ _ count samples _ => exact fits_of_modest logarithm hops modest count samples
      | drop _ fits _ _ => exact (fits_iff _).mpr (fits ▸ Option.some_ne_none _)
      | delay _ _ fits => exact (fits_iff _).mpr (fits ▸ Option.some_ne_none _)
      | expireLost _ _ => exact up
      | expire _ _ => exact up
      | burst overflow => exact absurd (calm _ _) (by rw [overflow]; exact Bool.noConfusion)
      | tick quiet _ _ => exact fun late => absurd (quiet.symm.trans late) Bool.false_ne_true
      | broke quiet _ _ => exact fun late => absurd (quiet.symm.trans late) Bool.false_ne_true
      | emptyTick quiet => exact fun late => absurd (quiet.symm.trans late) Bool.false_ne_true
      | _ => exact trivial
    refine ⟨(moved.lost_iff intact).mpr ⟨kept, keeps⟩, ?_, moved.intact intact⟩
    cases moved with
    | burst overflow => exact absurd (calm _ _) (by rw [overflow]; exact Bool.noConfusion)
    | returned _ _ => exact Stage.noConfusion
    | broke _ _ _ => exact Stage.noConfusion
    | _ => exact up
  exact conserving_of_keeps ((lost_of_run ran).mp all.1)

end EmulatedMixnet
end Multipath
end QuicMix
