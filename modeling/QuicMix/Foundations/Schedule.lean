import Mathlib.Data.List.Basic

namespace QuicMix
namespace Foundations

universe u v w x

/-!
# Schedules of a partial step function

A concurrent system is presented here by one partial function.  An action
names who moves next together with every choice the environment makes in that
move; the function answers `none` when the action is not enabled.  A schedule
is then a list of actions, so quantifying over schedules quantifies over every
interleaving and every environment at once, and a particular run can be
evaluated.

The rules below are the only inductions over schedules.  A development proves
what one step does and obtains from them what a whole run does.
-/

/-- Readings of a monotonic clock, in nanoseconds. -/
abbrev Instant := Nat

abbrev Duration := Nat

variable {State : Type u} {Action : Type v}

/-- Perform the actions in order; the schedule is refused as soon as one of
its actions is not enabled. -/
def run (step : State -> Action -> Option State) : State -> List Action -> Option State
  | state, [] => some state
  | state, action :: rest =>
      match step state action with
      | none => none
      | some next => run step next rest

/-- The state is one of those that the schedule passes through, its start and
its end included. -/
def Visits (step : State -> Action -> Option State) (start : State) (schedule : List Action)
    (state : State) : Prop :=
  exists before after, schedule = before ++ after ∧ run step start before = some state

variable {step : State -> Action -> Option State}

theorem run_cons {state final : State} {action : Action} {rest : List Action} :
    run step state (action :: rest) = some final <->
      exists next, step state action = some next ∧ run step next rest = some final := by
  cases moved : step state action with
  | none => simp only [run, moved, reduceCtorEq, false_and, exists_false]
  | some next => simp only [run, moved, Option.some.injEq, exists_eq_left']

theorem run_append (start : State) (first second : List Action) :
    run step start (first ++ second) =
      (run step start first).bind (fun middle => run step middle second) := by
  induction first generalizing start with
  | nil => rfl
  | cons action rest inductionHypothesis =>
      cases moved : step start action with
      | none => simp only [List.cons_append, run, moved, Option.bind_none]
      | some next =>
          simp only [List.cons_append, run, moved]
          exact inductionHypothesis next

/-- A run over a composed schedule passes through a state between the parts. -/
theorem run_append_eq_some {start final : State} {first second : List Action} :
    run step start (first ++ second) = some final <->
      exists middle, run step start first = some middle ∧ run step middle second = some final := by
  rw [run_append]
  exact Option.bind_eq_some_iff

/-- The rule for a property of states.  Only actions of the given schedule
have to preserve it, so that a restriction on the schedule can be used. -/
theorem invariant_of_schedule (property : State -> Prop) {schedule : List Action}
    (preserved : forall state action next, action ∈ schedule -> property state ->
      step state action = some next -> property next)
    {start final : State} (initially : property start)
    (ran : run step start schedule = some final) : property final := by
  induction schedule generalizing start with
  | nil =>
      cases ran
      exact initially
  | cons action rest inductionHypothesis =>
      rcases run_cons.mp ran with ⟨next, moved, ranRest⟩
      have kept := preserved start action next List.mem_cons_self initially moved
      exact inductionHypothesis (fun state later after member holds =>
        preserved state later after (List.mem_cons_of_mem action member) holds) kept ranRest

/-- The rule for a property of states that every step preserves. -/
theorem invariant (property : State -> Prop)
    (preserved : forall state action next, property state ->
      step state action = some next -> property next)
    {start final : State} {schedule : List Action} (initially : property start)
    (ran : run step start schedule = some final) : property final :=
  invariant_of_schedule property
    (fun state action next _ => preserved state action next) initially ran

/-- The rule for a property that also speaks of the actions taken so far. -/
theorem invariant_of_history (property : List Action -> State -> Prop)
    (preserved : forall past state action next, property past state ->
      step state action = some next -> property (past ++ [action]) next)
    {start final : State} {past schedule : List Action} (initially : property past start)
    (ran : run step start schedule = some final) : property (past ++ schedule) final := by
  induction schedule generalizing start past with
  | nil =>
      cases ran
      rw [List.append_nil]
      exact initially
  | cons action rest inductionHypothesis =>
      rcases run_cons.mp ran with ⟨next, moved, ranRest⟩
      have kept := preserved past start action next initially moved
      have later := inductionHypothesis kept ranRest
      rwa [List.append_assoc, List.singleton_append] at later

/-- The rule for a change of states that the steps carry along: a run is also one
from the changed start to the changed end. -/
theorem run_changed (change : State -> State) (property : State -> Prop)
    (carried : forall state action next, property state -> step state action = some next ->
      step (change state) action = some (change next) ∧ property next)
    {start final : State} {schedule : List Action} (initially : property start)
    (ran : run step start schedule = some final) :
    run step (change start) schedule = some (change final) := by
  induction schedule generalizing start with
  | nil =>
      cases ran
      rfl
  | cons action rest inductionHypothesis =>
      rcases run_cons.mp ran with ⟨next, moved, ranRest⟩
      rcases carried start action next initially moved with ⟨changed, kept⟩
      exact run_cons.mpr ⟨change next, changed, inductionHypothesis kept ranRest⟩

/-- The rule for a system inside another one: what it does by itself the whole can
do with the rest unchanged. -/
theorem run_inside {Whole : Type w} {Deed : Type x} {act : Whole -> Deed -> Option Whole}
    (place : State -> Whole) (deed : Action -> Deed)
    (carried : forall state action next, step state action = some next ->
      act (place state) (deed action) = some (place next))
    {start final : State} {schedule : List Action}
    (ran : run step start schedule = some final) :
    run act (place start) (schedule.map deed) = some (place final) := by
  induction schedule generalizing start with
  | nil =>
      cases ran
      rfl
  | cons action rest inductionHypothesis =>
      rcases run_cons.mp ran with ⟨next, moved, ranRest⟩
      exact run_cons.mpr ⟨place next, carried start action next moved,
        inductionHypothesis ranRest⟩

/-- Every step that the schedule takes meets a condition on the state before it
and the action. -/
def Meets (step : State -> Action -> Option State) (condition : State -> Action -> Prop) :
    State -> List Action -> Prop
  | _, [] => True
  | state, action :: rest =>
      condition state action ∧
        forall next, step state action = some next -> Meets step condition next rest

theorem Meets.cons {condition : State -> Action -> Prop} {state next : State} {action : Action}
    {rest : List Action} (met : condition state action) (moved : step state action = some next)
    (metRest : Meets step condition next rest) : Meets step condition state (action :: rest) := by
  refine ⟨met, ?_⟩
  intro other same
  rw [moved] at same
  cases same
  exact metRest

/-- A condition is met by a composed schedule if it is met by the parts. -/
theorem Meets.append {condition : State -> Action -> Prop} {start middle : State}
    {first second : List Action} (met : Meets step condition start first)
    (ran : run step start first = some middle) (metSecond : Meets step condition middle second) :
    Meets step condition start (first ++ second) := by
  induction first generalizing start with
  | nil =>
      cases ran
      exact metSecond
  | cons action rest inductionHypothesis =>
      rcases run_cons.mp ran with ⟨next, moved, ranRest⟩
      exact Meets.cons met.1 moved (inductionHypothesis (met.2 next moved) ranRest)

theorem Meets.front {condition : State -> Action -> Prop} {start : State}
    {first second : List Action} (met : Meets step condition start (first ++ second)) :
    Meets step condition start first := by
  induction first generalizing start with
  | nil => exact trivial
  | cons action rest inductionHypothesis =>
      exact ⟨met.1, fun next moved => inductionHypothesis (met.2 next moved)⟩

/-- What is left of a schedule meets the condition from where it is taken up. -/
theorem Meets.rest {condition : State -> Action -> Prop} {start middle : State}
    {first second : List Action} (met : Meets step condition start (first ++ second))
    (ran : run step start first = some middle) : Meets step condition middle second := by
  induction first generalizing start with
  | nil =>
      cases ran
      exact met
  | cons action rest inductionHypothesis =>
      rcases run_cons.mp ran with ⟨next, moved, ranRest⟩
      exact inductionHypothesis (met.2 next moved) ranRest

instance decidableMeets {condition : State -> Action -> Prop}
    [forall state action, Decidable (condition state action)] :
    (start : State) -> (schedule : List Action) -> Decidable (Meets step condition start schedule)
  | _, [] => .isTrue trivial
  | start, action :: rest =>
      if met : condition start action then
        match moved : step start action with
        | none => .isTrue ⟨met, fun _ same => absurd (moved.symm.trans same) nofun⟩
        | some next =>
            match decidableMeets next rest with
            | .isTrue metRest => .isTrue (Meets.cons met moved metRest)
            | .isFalse unmet => .isFalse (fun all => unmet (all.2 next moved))
      else .isFalse (fun all => met all.1)

/-- A condition on the actions alone is met from every start. -/
theorem Meets.of_actions {condition : State -> Action -> Prop} {schedule : List Action}
    (holds : forall action, action ∈ schedule -> forall state, condition state action)
    (start : State) : Meets step condition start schedule := by
  induction schedule generalizing start with
  | nil => exact trivial
  | cons action rest inductionHypothesis =>
      refine ⟨holds action List.mem_cons_self start, ?_⟩
      intro next _
      exact inductionHypothesis (fun other member =>
        holds other (List.mem_cons_of_mem action member)) next

/-- The rule for a property that is preserved by the steps that meet a
condition. -/
theorem invariant_of_meets (condition : State -> Action -> Prop) (property : State -> Prop)
    (preserved : forall state action next, condition state action -> property state ->
      step state action = some next -> property next)
    {start final : State} {schedule : List Action} (initially : property start)
    (met : Meets step condition start schedule)
    (ran : run step start schedule = some final) : property final := by
  induction schedule generalizing start with
  | nil =>
      cases ran
      exact initially
  | cons action rest inductionHypothesis =>
      rcases run_cons.mp ran with ⟨next, moved, ranRest⟩
      have kept := preserved start action next met.1 initially moved
      exact inductionHypothesis kept (met.2 next moved) ranRest

/-- The rule for a property that a step loses exactly if it does not meet a
condition. -/
theorem iff_meets_of_run (condition : State -> Action -> Prop) (sound property : State -> Prop)
    (kept : forall state action next, sound state -> step state action = some next -> sound next)
    (stepped : forall state action next, sound state -> step state action = some next ->
      (property next <-> property state ∧ condition state action))
    {start final : State} {schedule : List Action} (initially : sound start)
    (ran : run step start schedule = some final) :
    property final <-> property start ∧ Meets step condition start schedule := by
  induction schedule generalizing start with
  | nil =>
      cases ran
      exact ⟨fun holds => ⟨holds, trivial⟩, fun both => both.1⟩
  | cons action rest inductionHypothesis =>
      rcases run_cons.mp ran with ⟨next, moved, ranRest⟩
      have later := inductionHypothesis (kept start action next initially moved) ranRest
      rw [later, stepped start action next initially moved]
      constructor
      · rintro ⟨⟨holds, met⟩, metRest⟩
        exact ⟨holds, Meets.cons met moved metRest⟩
      · rintro ⟨holds, met⟩
        exact ⟨⟨holds, met.1⟩, met.2 next moved⟩

/-- The rule for a property that speaks of how many actions of a given kind were
taken. -/
theorem counted_invariant_of_meets (condition : State -> Action -> Prop) (counts : Action -> Bool)
    (property : Nat -> State -> Prop)
    (preserved : forall count state action next, condition state action ->
      property count state -> step state action = some next ->
      property (count + if counts action then 1 else 0) next)
    {start final : State} {schedule : List Action} {count : Nat} (initially : property count start)
    (met : Meets step condition start schedule)
    (ran : run step start schedule = some final) :
    property (count + schedule.countP counts) final := by
  induction schedule generalizing start count with
  | nil =>
      cases ran
      exact initially
  | cons action rest inductionHypothesis =>
      rcases run_cons.mp ran with ⟨next, moved, ranRest⟩
      have kept := preserved count start action next met.1 initially moved
      have total := inductionHypothesis kept (met.2 next moved) ranRest
      rw [List.countP_cons, Nat.add_comm (rest.countP counts), ← Nat.add_assoc]
      exact total

/-- The rule for a counter: if it moves by one with the actions of a given
kind and not otherwise, it counts the actions of that kind in the schedule.  An
invariant may be used at each step. -/
theorem counter_of_run (property : State -> Prop) (counter : State -> Nat)
    (counts : Action -> Bool)
    (preserved : forall state action next, property state ->
      step state action = some next -> property next)
    (stepped : forall state action next, property state -> step state action = some next ->
      counter next = counter state + if counts action then 1 else 0)
    {start final : State} {schedule : List Action} (initially : property start)
    (ran : run step start schedule = some final) :
    counter final = counter start + schedule.countP counts := by
  induction schedule generalizing start with
  | nil =>
      cases ran
      rfl
  | cons action rest inductionHypothesis =>
      rcases run_cons.mp ran with ⟨next, moved, ranRest⟩
      have kept := preserved start action next initially moved
      rw [inductionHypothesis kept ranRest, stepped start action next initially moved,
        List.countP_cons]
      omega

/-- The rule for a record: if every action appends what it emits, the record
holds what the schedule emits, in order. -/
theorem record_of_run {Entry : Type w} (record : State -> List Entry)
    (emits : Action -> Option Entry)
    (stepped : forall state action next, step state action = some next ->
      record next = record state ++ (emits action).toList)
    {start final : State} {schedule : List Action}
    (ran : run step start schedule = some final) :
    record final = record start ++ schedule.filterMap emits := by
  induction schedule generalizing start with
  | nil =>
      cases ran
      exact (List.append_nil _).symm
  | cons action rest inductionHypothesis =>
      rcases run_cons.mp ran with ⟨next, moved, ranRest⟩
      rw [inductionHypothesis ranRest, stepped start action next moved, List.append_assoc]
      cases emitted : emits action with
      | none => rw [List.filterMap_cons_none emitted, Option.toList_none, List.nil_append]
      | some entry =>
          rw [List.filterMap_cons_some emitted, Option.toList_some, List.singleton_append]

/-- The rule for a record to which actions of one kind append at most one entry
and the others none. -/
theorem growth_of_run {Entry : Type w} (record : State -> List Entry) (allows : Action -> Bool)
    (stepped : forall state action next, step state action = some next ->
      exists more, record next = record state ++ more ∧
        more.length <= if allows action then 1 else 0)
    {start final : State} {schedule : List Action}
    (ran : run step start schedule = some final) :
    exists more, record final = record start ++ more ∧ more.length <= schedule.countP allows := by
  induction schedule generalizing start with
  | nil =>
      cases ran
      exact ⟨[], (List.append_nil _).symm, Nat.le_refl 0⟩
  | cons action rest inductionHypothesis =>
      rcases run_cons.mp ran with ⟨next, moved, ranRest⟩
      rcases stepped start action next moved with ⟨first, grown, few⟩
      rcases inductionHypothesis ranRest with ⟨second, later, bound⟩
      refine ⟨first ++ second, ?_, ?_⟩
      · rw [later, grown, List.append_assoc]
      · rw [List.length_append, List.countP_cons]
        omega

/-- The steps with a record beside the state, to which every step adds what it
emits.  The record is not read. -/
def logged {Entry : Type w} (emits : State -> Action -> List Entry)
    (step : State -> Action -> Option State) (state : State × List Entry) (action : Action) :
    Option (State × List Entry) :=
  (step state.1 action).map (fun next => (next, state.2 ++ emits state.1 action))

theorem logged_eq_some {Entry : Type w} {emits : State -> Action -> List Entry}
    {state next : State × List Entry} {action : Action}
    (moved : logged emits step state action = some next) :
    step state.1 action = some next.1 ∧ next.2 = state.2 ++ emits state.1 action := by
  rcases Option.map_eq_some_iff.mp moved with ⟨after, stepped, rfl⟩
  exact ⟨stepped, rfl⟩

/-- What is recorded of the actions alone is the record of the schedule. -/
theorem run_logged_actions {Entry : Type w} (emits : Action -> List Entry)
    {start final : State} {schedule : List Action}
    (ran : run step start schedule = some final) (log : List Entry) :
    run (logged (fun _ => emits) step) (start, log) schedule =
      some (final, log ++ schedule.flatMap emits) := by
  induction schedule generalizing start log with
  | nil =>
      cases ran
      rw [List.flatMap_nil, List.append_nil]
      rfl
  | cons action rest inductionHypothesis =>
      rcases run_cons.mp ran with ⟨next, moved, ranRest⟩
      refine run_cons.mpr ⟨(next, log ++ emits action), ?_, ?_⟩
      · exact Option.map_eq_some_iff.mpr ⟨next, moved, rfl⟩
      · rw [List.flatMap_cons, ← List.append_assoc]
        exact inductionHypothesis ranRest _

/-- The rule for actions of which there are finitely many: if they lower a
measure that no action raises, the measure bounds their number. -/
theorem count_of_run (measure : State -> Nat) (counts : Action -> Bool) {schedule : List Action}
    (lowered : forall state action next, action ∈ schedule ->
      step state action = some next ->
      measure next + (if counts action then 1 else 0) <= measure state)
    {start final : State} (ran : run step start schedule = some final) :
    schedule.countP counts + measure final <= measure start := by
  induction schedule generalizing start with
  | nil =>
      cases ran
      exact Nat.le_of_eq (Nat.zero_add _)
  | cons action rest inductionHypothesis =>
      rcases run_cons.mp ran with ⟨next, moved, ranRest⟩
      have less := lowered start action next List.mem_cons_self moved
      have bound := inductionHypothesis (fun state later after member =>
        lowered state later after (List.mem_cons_of_mem action member)) ranRest
      rw [List.countP_cons]
      omega

/-- The rule for termination: if every action of the schedule lowers a measure,
the schedule is no longer than the measure allows. -/
theorem length_of_run (measure : State -> Nat) {schedule : List Action}
    (lowered : forall state action next, action ∈ schedule ->
      step state action = some next -> measure next < measure state)
    {start final : State} (ran : run step start schedule = some final) :
    schedule.length + measure final <= measure start := by
  have bound := count_of_run measure (fun _ => true)
    (fun state action next member moved => lowered state action next member moved) ran
  rw [List.countP_true] at bound
  exact bound

/-- The rule for actions without effect: they can be left out of a run. -/
theorem run_without (idle : Action -> Bool)
    (unchanged : forall state action next, idle action = true ->
      step state action = some next -> next = state)
    {start final : State} {schedule : List Action}
    (ran : run step start schedule = some final) :
    run step start (schedule.filter (fun action => !idle action)) = some final := by
  induction schedule generalizing start with
  | nil => exact ran
  | cons action rest inductionHypothesis =>
      rcases run_cons.mp ran with ⟨next, moved, ranRest⟩
      cases skipped : idle action with
      | true =>
          have same := unchanged start action next skipped moved
          subst same
          rw [List.filter_cons_of_neg (by rw [skipped]; exact Bool.false_ne_true)]
          exact inductionHypothesis ranRest
      | false =>
          rw [List.filter_cons_of_pos (by rw [skipped]; rfl)]
          exact run_cons.mpr ⟨next, moved, inductionHypothesis ranRest⟩

/-- A visited state is the end of a run over the beginning of the schedule. -/
theorem Visits.of_invariant (property : State -> Prop) {start state : State}
    {schedule : List Action} (visited : Visits step start schedule state)
    (preserved : forall state action next, action ∈ schedule -> property state ->
      step state action = some next -> property next)
    (initially : property start) : property state := by
  rcases visited with ⟨before, after, split, ran⟩
  subst schedule
  exact invariant_of_schedule property (fun state action next member =>
    preserved state action next (List.mem_append_left after member)) initially ran

end Foundations
end QuicMix
