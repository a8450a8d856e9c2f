import OsByRust.Task.Executor
import OsByRust.Lib.Transition

/-!
# Runs of the executor

The executor runs on the main context. Between `try_spawn` calls it runs
`run_ready_tasks`, whose loop pops an id, polls the task stored under it and, when the poll
returns `Ready`, removes the task and its waker. While a task is being polled its future may
wake any waker it holds, its own or one it was handed, any number of times; an interrupt
handler or the timer may wake a waker it holds between any two steps. A woken waker may
belong to a task that has since finished: a `Waker` is a reference-counted handle that
outlives the executor's cache entry.

`ExecutorSystem` is the executor with the `DROPPED_WAKE_COUNT` static, the task whose poll
is in progress, and the wakers handed out so far, which are the ones anything can wake.
Each event is one step; `perform` gives the state after it, `none` when the event cannot
happen there.
-/

namespace OsByRust

namespace Executor

/-- Every cached waker belongs to a stored task and carries that task's id and priority. -/
def WakersConsistent (executor : Executor) : Prop :=
  ∀ taskId waker, executor.wakerCache taskId = some waker →
    ∃ task, executor.tasks taskId = some task ∧ waker = ⟨taskId, task.priority⟩

theorem wakersConsistent_new : new.WakersConsistent := by
  intro taskId waker cached
  simp at cached

theorem WakersConsistent.of_maps {executor other : Executor}
    (consistent : executor.WakersConsistent) (sameTasks : other.tasks = executor.tasks)
    (sameCache : other.wakerCache = executor.wakerCache) : other.WakersConsistent := by
  intro taskId waker cached
  rw [sameCache] at cached
  rw [sameTasks]
  exact consistent taskId waker cached

theorem WakersConsistent.pushTaskId {executor pushed : Executor} {priority : TaskPriority}
    {taskId : TaskId} (consistent : executor.WakersConsistent)
    (returned : executor.pushTaskId priority taskId = some pushed) : pushed.WakersConsistent :=
  have same := pushTaskId_eq_some returned
  consistent.of_maps same.1 same.2.1

/-- A task spawned under an id no task has leaves every cached waker consistent: there is
no waker cached under that id. -/
theorem WakersConsistent.trySpawn {executor : Executor} {task : Task}
    (consistent : executor.WakersConsistent) (fresh : executor.tasks task.id = none) :
    (executor.trySpawn task).1.WakersConsistent := by
  have noWaker : executor.wakerCache task.id = none := by
    cases cached : executor.wakerCache task.id with
    | none => rfl
    | some waker =>
        rcases consistent task.id waker cached with ⟨stored, storedAt, -⟩
        rw [fresh] at storedAt
        cases storedAt
  have stored : { executor with
      tasks := Function.update executor.tasks task.id (some task) }.WakersConsistent := by
    intro taskId waker cached
    dsimp only at cached ⊢
    have differs : taskId ≠ task.id := by
      rintro rfl
      rw [noWaker] at cached
      cases cached
    rw [Function.update_of_ne differs]
    exact consistent taskId waker cached
  rcases trySpawn_cases executor task with
    ⟨duplicate, -⟩ | ⟨-, pushed, returned, spawned⟩ | ⟨-, -, spawned⟩
  · rw [fresh] at duplicate
    cases duplicate
  · rw [spawned]
    exact stored.pushTaskId returned
  · rw [spawned]
    exact consistent

/-- The loop head caches, at most, the waker of the task it is about to poll, made with
that task's priority. -/
theorem WakersConsistent.loopHead {executor : Executor} (consistent : executor.WakersConsistent) :
    executor.loopHead.2.WakersConsistent := by
  have popped : executor.popNextTaskId.2.WakersConsistent :=
    consistent.of_maps (popNextTaskId_tasks executor) (popNextTaskId_wakerCache executor)
  rcases loopHead_cases executor with
    ⟨-, headed⟩ | ⟨taskId, -, -, headed⟩ | ⟨taskId, task, waker, -, -, -, headed⟩ |
      ⟨taskId, task, -, stored, -, headed⟩
  · rw [headed]
    exact popped
  · rw [headed]
    exact popped
  · rw [headed]
    exact popped
  · rw [headed]
    intro other waker cached
    by_cases same : other = taskId
    · subst same
      simp only [Function.update_self, Option.some.injEq] at cached
      rw [popNextTaskId_tasks]
      exact ⟨task, stored, cached.symm⟩
    · simp only [Function.update_of_ne same] at cached
      rw [← popNextTaskId_wakerCache] at cached
      exact popped other waker cached

theorem WakersConsistent.pollReturned {executor : Executor} {taskId : TaskId} {outcome : Poll}
    (consistent : executor.WakersConsistent) :
    (executor.pollReturned taskId outcome).WakersConsistent := by
  cases outcome with
  | pending => exact consistent
  | ready =>
      intro other waker cached
      by_cases same : other = taskId
      · subst same
        simp [Executor.pollReturned] at cached
      · simp only [Executor.pollReturned, Function.update_of_ne same] at cached ⊢
        exact consistent other waker cached

end Executor

theorem TaskWaker.wakersConsistent_wakeTask {executor : Executor} (waker : TaskWaker)
    (droppedWakeCount : UInt64) (consistent : executor.WakersConsistent) :
    (waker.wakeTask executor droppedWakeCount).1.WakersConsistent := by
  rcases waker.wakeTask_cases executor droppedWakeCount with
    ⟨pushed, returned, woken⟩ | ⟨-, woken⟩
  · rw [woken]
    exact consistent.pushTaskId returned
  · rw [woken]
    exact consistent

/-- The executor, the `DROPPED_WAKE_COUNT` static, the id of the task being polled by
`run_ready_tasks`, and every waker made so far. -/
structure ExecutorSystem where
  executor : Executor
  droppedWakeCount : UInt64
  polling : Option TaskId
  issued : List TaskWaker

/-- The steps of the executor and of whoever wakes its wakers. -/
inductive ExecutorEvent where
  /-- `try_spawn(task)` on the main context, outside `run_ready_tasks`' polls. -/
  | trySpawn (task : Task)
  /-- The head of one turn of the loop of `run_ready_tasks`. -/
  | loopHead
  /-- `wake` or `wake_by_ref` on a waker, by the polled future or an interrupt handler. -/
  | wake (waker : TaskWaker)
  /-- The poll in progress returns. -/
  | pollReturned (outcome : Poll)
  deriving DecidableEq, Repr

namespace ExecutorSystem

open Transition

/-- The state after one event. -/
def perform (system : ExecutorSystem) : ExecutorEvent → Option ExecutorSystem
  | .trySpawn task =>
      match system.polling with
      | none => some { system with executor := (system.executor.trySpawn task).1 }
      | some _ => none
  | .loopHead =>
      match system.polling with
      | some _ => none
      | none =>
          match system.executor.loopHead with
          | (.polling task waker, next) =>
              some { system with
                executor := next, polling := some task.id, issued := waker :: system.issued }
          | (_, next) => some { system with executor := next }
  | .wake waker =>
      if waker ∈ system.issued then
        match waker.wakeTask system.executor system.droppedWakeCount with
        | (next, dropped) => some { system with executor := next, droppedWakeCount := dropped }
      else none
  | .pollReturned outcome =>
      match system.polling with
      | some taskId =>
          some { system with
            executor := system.executor.pollReturned taskId outcome, polling := none }
      | none => none

/-- One step. -/
def Step (system : ExecutorSystem) (event : ExecutorEvent) (next : ExecutorSystem) : Prop :=
  system.perform event = some next

/-- A new executor, with no poll in progress and no waker made yet; `DROPPED_WAKE_COUNT`
may hold whatever earlier executors left in it. -/
def Initial (system : ExecutorSystem) : Prop :=
  system.executor = Executor.new ∧ system.polling = none ∧ system.issued = []

theorem step_trySpawn {system next : ExecutorSystem} {task : Task}
    (step : Step system (.trySpawn task) next) :
    system.polling = none ∧ next = { system with executor := (system.executor.trySpawn task).1 } := by
  simp only [Step, perform] at step
  split at step
  · rename_i idle
    exact ⟨idle, (Option.some.inj step).symm⟩
  · cases step

theorem step_loopHead {system next : ExecutorSystem} (step : Step system .loopHead next) :
    system.polling = none ∧ next.executor = system.executor.loopHead.2 ∧
      next.droppedWakeCount = system.droppedWakeCount ∧
      ((∃ task waker, system.executor.loopHead.1 = .polling task waker ∧
          next.polling = some task.id ∧ next.issued = waker :: system.issued) ∨
        (next.polling = none ∧ next.issued = system.issued)) := by
  simp only [Step, perform] at step
  split at step
  · cases step
  · rename_i idle
    split at step
    · rename_i task waker after headed
      cases step
      exact ⟨idle, by rw [headed], rfl, Or.inl ⟨task, waker, by rw [headed], rfl, rfl⟩⟩
    · rename_i head after notPolling headed
      cases step
      exact ⟨idle, by rw [headed], rfl, Or.inr ⟨idle, rfl⟩⟩

theorem step_wake {system next : ExecutorSystem} {waker : TaskWaker}
    (step : Step system (.wake waker) next) :
    waker ∈ system.issued ∧ next.polling = system.polling ∧ next.issued = system.issued ∧
      (next.executor, next.droppedWakeCount) =
        waker.wakeTask system.executor system.droppedWakeCount := by
  simp only [Step, perform] at step
  split at step
  · rename_i held
    cases woken : waker.wakeTask system.executor system.droppedWakeCount with
    | mk after dropped =>
        rw [woken] at step
        cases step
        exact ⟨held, rfl, rfl, rfl⟩
  · cases step

theorem step_pollReturned {system next : ExecutorSystem} {outcome : Poll}
    (step : Step system (.pollReturned outcome) next) :
    ∃ taskId, system.polling = some taskId ∧
      next = { system with
        executor := system.executor.pollReturned taskId outcome, polling := none } := by
  simp only [Step, perform] at step
  split at step
  · rename_i taskId polled
    exact ⟨taskId, polled, (Option.some.inj step).symm⟩
  · cases step

/-- A step whose `try_spawn`, if it is one, is given a task under an id no stored task
has. -/
def FreshStep (system : ExecutorSystem) (event : ExecutorEvent) (next : ExecutorSystem) :
    Prop :=
  Step system event next ∧ ∀ task, event = .trySpawn task → system.executor.tasks task.id = none

theorem wakersConsistent_step {system next : ExecutorSystem} {event : ExecutorEvent}
    (consistent : system.executor.WakersConsistent) (step : FreshStep system event next) :
    next.executor.WakersConsistent := by
  rcases step with ⟨step, fresh⟩
  cases event with
  | trySpawn task =>
      rw [(step_trySpawn step).2]
      exact consistent.trySpawn (fresh task rfl)
  | loopHead =>
      rw [(step_loopHead step).2.1]
      exact consistent.loopHead
  | wake waker =>
      have woken := congrArg Prod.fst (step_wake step).2.2.2
      dsimp only at woken
      rw [woken]
      exact waker.wakersConsistent_wakeTask _ consistent
  | pollReturned outcome =>
      rcases step_pollReturned step with ⟨taskId, -, rfl⟩
      exact consistent.pollReturned

/-- Along every run in which no task is spawned under the id of a stored task, as with the
ids `TaskId::new` draws, every cached waker belongs to a stored task and carries its id and
priority. -/
theorem executor_wakers_consistent {system : ExecutorSystem}
    (reachable : Reachable Initial FreshStep system) : system.executor.WakersConsistent := by
  apply reachable.invariant
  · rintro start ⟨isNew, -, -⟩
    rw [isNew]
    exact Executor.wakersConsistent_new
  · intro state event next consistent step
    exact wakersConsistent_step consistent step

/-- A normal task spawned and polled, then a high-priority task under a new id: the waker
cached for the first carries its id and priority. -/
theorem executor_wakers_consistent_after_poll :
    ∃ system, Reachable Initial FreshStep system ∧
      system.executor.wakerCache ⟨0⟩ = some ⟨⟨0⟩, .normal⟩ ∧
      ∃ task, system.executor.tasks ⟨0⟩ = some task ∧
        (⟨⟨0⟩, .normal⟩ : TaskWaker) = ⟨⟨0⟩, task.priority⟩ := by
  have initial : Initial ⟨Executor.new, 0, none, []⟩ := ⟨rfl, rfl, rfl⟩
  have reachable := ((((Reachable.init initial).tail
    (show FreshStep _ (.trySpawn ⟨⟨0⟩, .normal⟩) _ from ⟨rfl, by rintro task ⟨⟩; rfl⟩)).tail
    (show FreshStep _ .loopHead _ from ⟨rfl, by rintro task ⟨⟩⟩)).tail
    (show FreshStep _ (.pollReturned .pending) _ from ⟨rfl, by rintro task ⟨⟩⟩)).tail
    (show FreshStep _ (.trySpawn ⟨⟨1⟩, .high⟩) _ from ⟨rfl, by rintro task ⟨⟩; rfl⟩)
  obtain ⟨system, reachable, cached⟩ : ∃ system, Reachable Initial FreshStep system ∧
      system.executor.wakerCache ⟨0⟩ = some ⟨⟨0⟩, .normal⟩ :=
    ⟨_, reachable, by decide⟩
  exact ⟨system, reachable, cached, executor_wakers_consistent reachable _ _ cached⟩

/-- `try_spawn` inserts before it checks for a duplicate: spawning a high-priority task
under the id of a normal task that has been polled returns `Err(DuplicateTaskId)`, yet
stores the new task next to the waker cached for the old one, which queues that id as
normal. -/
theorem executor_duplicate_spawn_stale_waker :
    ¬ ∀ system : ExecutorSystem, Reachable Initial Step system →
      system.executor.WakersConsistent := by
  intro consistent
  have initial : Initial ⟨Executor.new, 0, none, []⟩ := ⟨rfl, rfl, rfl⟩
  have replayed : (run perform ⟨Executor.new, 0, none, []⟩
      [.trySpawn ⟨⟨0⟩, .normal⟩, .loopHead, .pollReturned .pending,
        .trySpawn ⟨⟨0⟩, .high⟩]).map
        (fun system => (system.executor.tasks ⟨0⟩, system.executor.wakerCache ⟨0⟩)) =
      some (some ⟨⟨0⟩, .high⟩, some ⟨⟨0⟩, .normal⟩) := by
    decide
  obtain ⟨system, final, projected⟩ := Option.map_eq_some_iff.mp replayed
  have reachable := reachable_of_run (fun _ _ _ performed => performed)
    (Reachable.init initial) final
  simp only [Prod.mk.injEq] at projected
  obtain ⟨stored, cached⟩ := projected
  obtain ⟨task, storedAt, sameWaker⟩ := consistent system reachable ⟨0⟩ _ cached
  rw [stored, Option.some.injEq] at storedAt
  subst storedAt
  simp at sameWaker

/-- A task can be woken while its queue is full of other entries: here a task polled
`Pending`, then another task waking itself a hundred times in one poll. The wake of the
first task is dropped although its id is in no queue. -/
theorem executor_wake_dropped_unqueued :
    ¬ ∀ system : ExecutorSystem, Reachable Initial Step system →
      ∀ waker ∈ system.issued, ∀ task, system.executor.tasks waker.taskId = some task →
        waker.taskId ∈ ((waker.wakeTask system.executor system.droppedWakeCount).1.queueOf
          task.priority).items := by
  intro requeued
  have initial : Initial ⟨Executor.new, 0, none, []⟩ := ⟨rfl, rfl, rfl⟩
  have replayed : (run perform ⟨Executor.new, 0, none, []⟩
      ([.trySpawn ⟨⟨0⟩, .normal⟩, .trySpawn ⟨⟨1⟩, .normal⟩, .loopHead, .pollReturned .pending,
        .loopHead] ++ List.replicate 100 (.wake ⟨⟨1⟩, .normal⟩))).map
        (fun system => (decide (⟨⟨0⟩, .normal⟩ ∈ system.issued), system.executor.tasks ⟨0⟩,
          decide (⟨0⟩ ∈ ((TaskWaker.wakeTask ⟨⟨0⟩, .normal⟩ system.executor
            system.droppedWakeCount).1.queueOf .normal).items))) =
      some (true, some ⟨⟨0⟩, .normal⟩, false) := by
    decide
  obtain ⟨system, final, projected⟩ := Option.map_eq_some_iff.mp replayed
  have reachable := reachable_of_run (fun _ _ _ performed => performed)
    (Reachable.init initial) final
  simp only [Prod.mk.injEq, decide_eq_true_eq, decide_eq_false_iff_not] at projected
  obtain ⟨held, stored, dropped⟩ := projected
  exact dropped (requeued system reachable _ held _ stored)

end ExecutorSystem

end OsByRust
