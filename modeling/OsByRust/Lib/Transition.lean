import Mathlib.Logic.Relation

/-!
# Transition systems

A system is a type of states, a predicate for its initial states and a labelled step
relation. The reachable states are those reached from an initial state by finitely many
steps; an invariant is proved once for the initial states and once for a single step, and
`Reachable.invariant` carries it along every run.

For a system whose step is a partial function, `run` replays a finite list of labels, and
`reachable_of_run` turns a replayed trace into a reachable state. Concrete traces of this
kind are how a property is refuted: the trace is evaluated, and its last state breaks it.
-/

namespace Transition

universe u v

variable {State : Type u} {Label : Type v}

/-- The states reached from an `initial` state by finitely many `step`s. -/
inductive Reachable (initial : State → Prop) (step : State → Label → State → Prop) :
    State → Prop where
  | init {state : State} : initial state → Reachable initial step state
  | step {state next : State} {label : Label} :
      Reachable initial step state → step state label next → Reachable initial step next

/-- An invariant that holds initially and is kept by every step holds in every reachable
state. -/
theorem Reachable.invariant {initial : State → Prop} {step : State → Label → State → Prop}
    {Invariant : State → Prop}
    (holdsInitially : ∀ state, initial state → Invariant state)
    (preserved : ∀ state label next, Invariant state → step state label next → Invariant next)
    {state : State} (reachable : Reachable initial step state) : Invariant state := by
  induction reachable with
  | init start => exact holdsInitially _ start
  | step _ taken ih => exact preserved _ _ _ ih taken

theorem Reachable.tail {initial : State → Prop} {step : State → Label → State → Prop}
    {state next : State} {label : Label} (reachable : Reachable initial step state)
    (taken : step state label next) : Reachable initial step next :=
  Reachable.step reachable taken

/-- Replays `labels` in order through a partial step function; `none` once a step fails. -/
def run (step : State → Label → Option State) : State → List Label → Option State
  | state, [] => some state
  | state, label :: rest => (step state label).bind fun next => run step next rest

@[simp]
theorem run_nil (step : State → Label → Option State) (state : State) :
    run step state [] = some state := rfl

theorem run_cons (step : State → Label → Option State) (state : State) (label : Label)
    (rest : List Label) :
    run step state (label :: rest) = (step state label).bind fun next => run step next rest :=
  rfl

/-- A trace replayed by a step function that implements the step relation ends in a
reachable state. -/
theorem reachable_of_run {initial : State → Prop} {step : State → Label → State → Prop}
    {stepFn : State → Label → Option State}
    (implements : ∀ state label next, stepFn state label = some next → step state label next)
    {start final : State} {labels : List Label} (reachable : Reachable initial step start)
    (replayed : run stepFn start labels = some final) : Reachable initial step final := by
  induction labels generalizing start with
  | nil =>
      simp only [run_nil, Option.some.injEq] at replayed
      exact replayed ▸ reachable
  | cons label rest ih =>
      rw [run_cons] at replayed
      cases taken : stepFn start label with
      | none => simp [taken] at replayed
      | some next =>
          rw [taken, Option.bind_some] at replayed
          exact ih (reachable.tail (implements _ _ _ taken)) replayed

/-- A fallible step function that succeeds on every state `embed` gives and there does what a
total step function does, does so along every list of inputs. -/
theorem foldlM_eq_ok_of_step {ε : Type u} {Impl Spec Item : Type v}
    {implStep : Impl → Item → Except ε Impl} {specStep : Spec → Item → Spec} {embed : Spec → Impl}
    (step : ∀ spec item, implStep (embed spec) item = .ok (embed (specStep spec item)))
    (items : List Item) (spec : Spec) :
    items.foldlM implStep (embed spec) = .ok (embed (items.foldl specStep spec)) := by
  induction items generalizing spec with
  | nil => rfl
  | cons item rest ih =>
      rw [List.foldlM_cons, step, List.foldl_cons]
      exact ih (specStep spec item)

end Transition
