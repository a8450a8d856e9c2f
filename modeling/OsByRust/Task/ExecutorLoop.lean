import OsByRust.Task.ExecutorRuns

/-!
# The loop of `Executor::run`

`run` repeats three calls. `run_ready_tasks` polls until `pop_next_task_id` finds both
queues empty; `update_stats_snapshot` only stores statistics; `sleep_if_idle` disables
interrupts, looks at the two queues, and then either enables interrupts again or, when both
are empty, runs `enable_and_hlt`. That is `sti; hlt`, and `sti` holds back interrupts until
the instruction after it has begun, so no interrupt comes between the two. An interrupt while
the CPU is halted runs its handler, `hlt` returns, and the loop goes round again.

Interrupt handlers wake wakers: the timer's `tick` those of due sleepers, the keyboard
handler `KEYBOARD_WAKER`. A wake pushes a task id onto a queue. Were an interrupt to come
between the look at the queues and `hlt`, the CPU would halt with a task ready and its wake
would wait for the next interrupt. `RunSystem` is the executor's system
(`OsByRust.ExecutorSystem`) with the point the main context has reached in this loop and
the interrupt flag. While the flag is set an interrupt may come at any step and wake any
waker made so far.

The flag is what `run` does to it, on top of `init`, which enables interrupts before
`kernel_main` starts the executor. A task that disables interrupts while it is polled only
removes interleavings, so every run of the kernel's loop is a run of `RunSystem`.
-/

namespace OsByRust

/-- Where the main context is in the loop of `Executor::run`. -/
inductive RunPoint where
  /-- In `run_ready_tasks`: at the head of its loop, or polling a task. -/
  | readyTasks
  /-- `run_ready_tasks` has returned; `update_stats_snapshot` and `interrupts::disable()`
  come next. -/
  | returned
  /-- `sleep_if_idle` has disabled interrupts and is about to look at the queues. -/
  | disabled
  /-- Both queues were empty: `enable_and_hlt` comes next. -/
  | idleChecked
  /-- A queue held an id: `interrupts::enable()` comes next. -/
  | busyChecked
  /-- In `hlt`, after `enable_and_hlt`. -/
  | halted
  deriving DecidableEq, Repr

/-- The points between `interrupts::disable()` and the instruction that enables them again. -/
def RunPoint.masked : RunPoint → Bool
  | .disabled | .idleChecked | .busyChecked => true
  | .readyTasks | .returned | .halted => false

/-- The points from the look at the queues that found both empty to the end of `hlt`. -/
def RunPoint.idle : RunPoint → Bool
  | .idleChecked | .halted => true
  | .readyTasks | .returned | .disabled | .busyChecked => false

/-- The executor's system, where the main context is in `run`'s loop, and the interrupt
flag. -/
structure RunSystem where
  system : ExecutorSystem
  point : RunPoint
  interruptsEnabled : Bool

/-- The steps of `run`'s loop, and the interrupts that may come between them. -/
inductive RunEvent where
  /-- The head of one turn of `run_ready_tasks`' loop. -/
  | loopHead
  /-- The task being polled wakes a waker. -/
  | pollWake (waker : TaskWaker)
  /-- The poll in progress returns. -/
  | pollReturned (outcome : Poll)
  /-- `update_stats_snapshot()`, then `interrupts::disable()`. -/
  | disable
  /-- `sleep_if_idle` looks at the two queues. -/
  | check
  /-- `enable_and_hlt()`. -/
  | halt
  /-- `interrupts::enable()`. -/
  | enable
  /-- An interrupt whose handler wakes these wakers, one after another. -/
  | interrupt (wakers : List TaskWaker)

namespace ExecutorSystem

/-- The wakes of an interrupt handler, one after another. -/
def wakeAll (system : ExecutorSystem) : List TaskWaker → Option ExecutorSystem
  | [] => some system
  | waker :: rest => (system.perform (.wake waker)).bind fun woken => woken.wakeAll rest

/-- Wakes leave the poll in progress as it was. -/
theorem wakeAll_polling {system next : ExecutorSystem} {wakers : List TaskWaker}
    (woken : system.wakeAll wakers = some next) : next.polling = system.polling := by
  induction wakers generalizing system with
  | nil =>
      simp only [wakeAll, Option.some.injEq] at woken
      rw [woken]
  | cons waker rest ih =>
      simp only [wakeAll] at woken
      cases first : system.perform (.wake waker) with
      | none =>
          rw [first] at woken
          cases woken
      | some middle =>
          rw [first, Option.bind_some] at woken
          rw [ih woken, (step_wake first).2.1]

end ExecutorSystem

namespace RunSystem

open Transition

/-- The state after one event, `none` when the event cannot happen there. An interrupt ends
`hlt`, and the loop goes back to `run_ready_tasks`. -/
def perform (run : RunSystem) : RunEvent → Option RunSystem
  | .loopHead =>
      if run.point = .readyTasks then
        (run.system.perform .loopHead).map fun system =>
          { run with
            system := system
            point :=
              if run.system.executor.loopHead.1 = .finished then .returned else .readyTasks }
      else none
  | .pollWake waker =>
      if run.point = .readyTasks ∧ run.system.polling.isSome then
        (run.system.perform (.wake waker)).map fun system => { run with system := system }
      else none
  | .pollReturned outcome =>
      if run.point = .readyTasks then
        (run.system.perform (.pollReturned outcome)).map fun system =>
          { run with system := system }
      else none
  | .disable =>
      if run.point = .returned then
        some { run with point := .disabled, interruptsEnabled := false }
      else none
  | .check =>
      if run.point = .disabled then
        if run.system.executor.highPriorityTaskQueue.len = 0 ∧
            run.system.executor.normalPriorityTaskQueue.len = 0 then
          some { run with point := .idleChecked }
        else some { run with point := .busyChecked }
      else none
  | .halt =>
      if run.point = .idleChecked then
        some { run with point := .halted, interruptsEnabled := true }
      else none
  | .enable =>
      if run.point = .busyChecked then
        some { run with point := .readyTasks, interruptsEnabled := true }
      else none
  | .interrupt wakers =>
      if run.interruptsEnabled then
        (run.system.wakeAll wakers).map fun system =>
          { run with
            system := system
            point := if run.point = .halted then .readyTasks else run.point }
      else none

/-- One step. -/
def Step (run : RunSystem) (event : RunEvent) (next : RunSystem) : Prop :=
  run.perform event = some next

/-- `run` is called from `kernel_main` after `init` has enabled interrupts, with whatever
tasks were spawned before and no poll in progress. -/
def Initial (run : RunSystem) : Prop :=
  run.system.polling = none ∧ run.point = .readyTasks ∧ run.interruptsEnabled = true

/-- What every reachable state satisfies. -/
structure Idle (run : RunSystem) : Prop where
  /-- Interrupts are off exactly inside `sleep_if_idle`, from `disable` to the instruction
  that enables them again. -/
  masked : run.interruptsEnabled = !run.point.masked
  /-- No poll is in progress outside `run_ready_tasks`. -/
  not_polling : run.point ≠ .readyTasks → run.system.polling = none
  /-- From the look at the empty queues to the end of `hlt`, both queues stay empty. -/
  empty : run.point.idle = true →
    run.system.executor.highPriorityTaskQueue.items = [] ∧
      run.system.executor.normalPriorityTaskQueue.items = []

/-! ### What each event does -/

variable {run next : RunSystem}

theorem step_loopHead (step : Step run .loopHead next) :
    run.point = .readyTasks ∧ next.interruptsEnabled = run.interruptsEnabled ∧
      (next.point = .readyTasks ∨ next.point = .returned) ∧
      (next.point = .returned → next.system.polling = none) := by
  simp only [Step, perform] at step
  split at step
  · rename_i atHead
    obtain ⟨system, headed, rfl⟩ := Option.map_eq_some_iff.mp step
    refine ⟨atHead, rfl, ?_, ?_⟩
    · dsimp only
      split
      · exact Or.inr rfl
      · exact Or.inl rfl
    · dsimp only
      intro finished
      split at finished
      · rename_i done
        rcases ExecutorSystem.step_loopHead headed with ⟨-, -, -, ⟨task, waker, polled, -⟩ |
          ⟨idle, -⟩⟩
        · rw [polled] at done
          cases done
        · exact idle
      · cases finished
  · cases step

theorem step_pollWake {waker : TaskWaker} (step : Step run (.pollWake waker) next) :
    run.point = .readyTasks ∧ next.point = run.point ∧
      next.interruptsEnabled = run.interruptsEnabled := by
  simp only [Step, perform] at step
  split at step
  · rename_i polling
    obtain ⟨system, -, rfl⟩ := Option.map_eq_some_iff.mp step
    exact ⟨polling.1, rfl, rfl⟩
  · cases step

theorem step_pollReturned {outcome : Poll} (step : Step run (.pollReturned outcome) next) :
    run.point = .readyTasks ∧ next.point = run.point ∧
      next.interruptsEnabled = run.interruptsEnabled := by
  simp only [Step, perform] at step
  split at step
  · rename_i atHead
    obtain ⟨system, -, rfl⟩ := Option.map_eq_some_iff.mp step
    exact ⟨atHead, rfl, rfl⟩
  · cases step

theorem step_disable (step : Step run .disable next) :
    run.point = .returned ∧ next = { run with point := .disabled, interruptsEnabled := false } := by
  simp only [Step, perform] at step
  split at step
  · rename_i wasReturned
    exact ⟨wasReturned, (Option.some.inj step).symm⟩
  · cases step

/-- The look at the queues: to `enable_and_hlt` exactly when both are empty. -/
theorem step_check (step : Step run .check next) :
    run.point = .disabled ∧
      ((run.system.executor.highPriorityTaskQueue.items = [] ∧
          run.system.executor.normalPriorityTaskQueue.items = [] ∧
          next = { run with point := .idleChecked }) ∨
        next = { run with point := .busyChecked }) := by
  simp only [Step, perform] at step
  split at step
  · rename_i wasDisabled
    refine ⟨wasDisabled, ?_⟩
    split at step
    · rename_i bothEmpty
      simp only [BoundedQueue.len_eq, List.length_eq_zero_iff] at bothEmpty
      exact Or.inl ⟨bothEmpty.1, bothEmpty.2, (Option.some.inj step).symm⟩
    · exact Or.inr (Option.some.inj step).symm
  · cases step

theorem step_halt (step : Step run .halt next) :
    run.point = .idleChecked ∧ next = { run with point := .halted, interruptsEnabled := true } := by
  simp only [Step, perform] at step
  split at step
  · rename_i checked
    exact ⟨checked, (Option.some.inj step).symm⟩
  · cases step

theorem step_enable (step : Step run .enable next) :
    run.point = .busyChecked ∧
      next = { run with point := .readyTasks, interruptsEnabled := true } := by
  simp only [Step, perform] at step
  split at step
  · rename_i checked
    exact ⟨checked, (Option.some.inj step).symm⟩
  · cases step

/-- An interrupt comes only while the flag is set; it leaves the flag and the poll in
progress as they were, and ends a halt. -/
theorem step_interrupt {wakers : List TaskWaker} (step : Step run (.interrupt wakers) next) :
    run.interruptsEnabled = true ∧ next.interruptsEnabled = true ∧
      next.system.polling = run.system.polling ∧
      next.point = if run.point = .halted then .readyTasks else run.point := by
  simp only [Step, perform] at step
  split at step
  · rename_i enabled
    obtain ⟨system, woken, rfl⟩ := Option.map_eq_some_iff.mp step
    exact ⟨enabled, enabled, ExecutorSystem.wakeAll_polling woken, rfl⟩
  · cases step

/-! ### The invariant -/

/-- The last field of `Idle` says nothing at the other points. -/
theorem empty_of_not_idle (notIdle : run.point.idle = false) : run.point.idle = true →
    run.system.executor.highPriorityTaskQueue.items = [] ∧
      run.system.executor.normalPriorityTaskQueue.items = [] :=
  fun isIdle => absurd (notIdle.symm.trans isIdle) Bool.false_ne_true

/-- In `run_ready_tasks` with interrupts enabled, the invariant holds whatever the queues
hold. -/
theorem idle_of_readyTasks (atHead : run.point = .readyTasks)
    (enabled : run.interruptsEnabled = true) : run.Idle :=
  ⟨by rw [enabled, atHead]; rfl, fun away => absurd atHead away,
    empty_of_not_idle (by rw [atHead]; rfl)⟩

/-- Interrupts are enabled in `run_ready_tasks`. -/
theorem Idle.enabled_of_readyTasks (idle : run.Idle) (atHead : run.point = .readyTasks) :
    run.interruptsEnabled = true := by
  rw [idle.masked, atHead]
  rfl

theorem idle_initial (initial : Initial run) : run.Idle := by
  rcases initial with ⟨-, atHead, enabled⟩
  exact idle_of_readyTasks atHead enabled

theorem idle_step {event : RunEvent} (idle : run.Idle) (step : Step run event next) :
    next.Idle := by
  cases event with
  | loopHead =>
      obtain ⟨atHead, sameFlag, still | done, finished⟩ := step_loopHead step
      · exact idle_of_readyTasks still (sameFlag.trans (idle.enabled_of_readyTasks atHead))
      · exact ⟨by rw [sameFlag, idle.masked, done, atHead]; rfl, fun _ => finished done,
          empty_of_not_idle (by rw [done]; rfl)⟩
  | pollWake waker =>
      obtain ⟨atHead, samePoint, sameFlag⟩ := step_pollWake step
      exact idle_of_readyTasks (samePoint.trans atHead)
        (sameFlag.trans (idle.enabled_of_readyTasks atHead))
  | pollReturned outcome =>
      obtain ⟨atHead, samePoint, sameFlag⟩ := step_pollReturned step
      exact idle_of_readyTasks (samePoint.trans atHead)
        (sameFlag.trans (idle.enabled_of_readyTasks atHead))
  | disable =>
      obtain ⟨wasReturned, rfl⟩ := step_disable step
      exact ⟨rfl, fun _ => idle.not_polling (by rw [wasReturned]; exact nofun),
        empty_of_not_idle rfl⟩
  | check =>
      obtain ⟨wasDisabled, ⟨emptyHigh, emptyNormal, rfl⟩ | rfl⟩ := step_check step
      · exact ⟨by rw [idle.masked, wasDisabled]; rfl,
          fun _ => idle.not_polling (by rw [wasDisabled]; exact nofun),
          fun _ => ⟨emptyHigh, emptyNormal⟩⟩
      · exact ⟨by rw [idle.masked, wasDisabled]; rfl,
          fun _ => idle.not_polling (by rw [wasDisabled]; exact nofun), empty_of_not_idle rfl⟩
  | halt =>
      obtain ⟨checked, rfl⟩ := step_halt step
      exact ⟨rfl, fun _ => idle.not_polling (by rw [checked]; exact nofun),
        fun _ => idle.empty (by rw [checked]; rfl)⟩
  | enable =>
      obtain ⟨-, rfl⟩ := step_enable step
      exact idle_of_readyTasks rfl rfl
  | interrupt wakers =>
      obtain ⟨enabled, stillEnabled, samePolling, movedPoint⟩ := step_interrupt step
      have unmasked : run.point.masked = false := by
        have flag := idle.masked
        rw [enabled] at flag
        cases masked : run.point.masked
        · rfl
        · rw [masked] at flag
          cases flag
      by_cases wasHalted : run.point = .halted
      · rw [if_pos wasHalted] at movedPoint
        exact idle_of_readyTasks movedPoint stillEnabled
      · rw [if_neg wasHalted] at movedPoint
        refine ⟨by rw [stillEnabled, movedPoint, unmasked]; rfl, ?_, ?_⟩
        · intro away
          rw [samePolling]
          exact idle.not_polling (movedPoint ▸ away)
        · -- of the idle points only `halted` is unmasked, and the interrupt ends it
          apply empty_of_not_idle
          rw [movedPoint]
          revert unmasked wasHalted
          cases run.point <;> simp [RunPoint.masked, RunPoint.idle]

theorem idle_of_reachable (reachable : Reachable Initial Step run) : run.Idle :=
  reachable.invariant (fun _ initial => idle_initial initial)
    (fun _ _ _ idle step => idle_step idle step)

/-- The CPU never halts with a task ready. In every state of `run`'s loop, reached by any
interleaving of polls, wakes and interrupts, while the CPU is halted in `sleep_if_idle` both
queues are empty, no poll is in progress and interrupts are enabled, and every interrupt,
whatever it wakes, ends the halt and sends the loop back to `run_ready_tasks`. -/
theorem executor_never_halts_with_queued_task (reachable : Reachable Initial Step run)
    (halted : run.point = .halted) :
    run.system.executor.highPriorityTaskQueue.items = [] ∧
      run.system.executor.normalPriorityTaskQueue.items = [] ∧
      run.system.polling = none ∧ run.interruptsEnabled = true ∧
      ∀ wakers next, Step run (.interrupt wakers) next → next.point = .readyTasks := by
  have idle := idle_of_reachable reachable
  obtain ⟨emptyHigh, emptyNormal⟩ := idle.empty (by rw [halted]; rfl)
  refine ⟨emptyHigh, emptyNormal, idle.not_polling (by rw [halted]; exact nofun), ?_, ?_⟩
  · rw [idle.masked, halted]
    rfl
  · intro wakers next step
    rw [(step_interrupt step).2.2.2, if_pos halted]

/-- A task spawned before `run`: it is polled and returns `Ready`, the next turn finds both
queues empty, `run_ready_tasks` returns and the CPU halts with the task gone; an interrupt
then sends the loop back to `run_ready_tasks`. -/
theorem executor_never_halts_with_queued_task_after_ready :
    ∃ halted, Reachable Initial Step halted ∧ halted.point = .halted ∧
      halted.system.executor.tasks ⟨0⟩ = none ∧
      halted.system.executor.highPriorityTaskQueue.items = [] ∧
      halted.system.executor.normalPriorityTaskQueue.items = [] ∧
      ∀ wakers next, Step halted (.interrupt wakers) next → next.point = .readyTasks := by
  have initial : Initial ⟨⟨(Executor.new.trySpawn ⟨⟨0⟩, .normal⟩).1, 0, none, []⟩, .readyTasks,
      true⟩ := ⟨rfl, rfl, rfl⟩
  have replayed : (run perform ⟨⟨(Executor.new.trySpawn ⟨⟨0⟩, .normal⟩).1, 0, none, []⟩,
      .readyTasks, true⟩ [.loopHead, .pollReturned .ready, .loopHead, .disable, .check, .halt]).map
        (fun halted => (halted.point, halted.system.executor.tasks ⟨0⟩)) =
      some (.halted, none) := by
    decide
  obtain ⟨halted, final, projected⟩ := Option.map_eq_some_iff.mp replayed
  simp only [Prod.mk.injEq] at projected
  have reachable := reachable_of_run (fun _ _ _ performed => performed) (Reachable.init initial)
    final
  obtain ⟨emptyHigh, emptyNormal, -, -, resumes⟩ :=
    executor_never_halts_with_queued_task reachable projected.1
  exact ⟨halted, reachable, projected.1, projected.2, emptyHigh, emptyNormal, resumes⟩

end RunSystem

end OsByRust
