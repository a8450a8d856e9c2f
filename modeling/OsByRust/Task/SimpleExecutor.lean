import OsByRust.Task.Executor

/-!
# The simple executor

`src/task/simple_executor.rs`. `SimpleExecutor` keeps its tasks in a `VecDeque`, and `run`
polls them in turn. It pops the task at the front and polls it with a waker that does
nothing. If the poll returned `Pending`, the task goes back at the end of the queue. The loop
ends when the queue is empty, that is, when every task has returned `Ready`. `kernel_main`
runs `Executor`; the line that made a `SimpleExecutor` there is commented out.

The queue is a list, front first. The future of a task is opaque, as in the executor's runs,
so what each poll returns is an input of the run: `runTurns` takes the outcomes of successive
polls.

`simpleExecutor_round_robin` states the order of service. In the turns of one round, as many
as there are tasks queued, `run` polls each queued task once, in queue order. Afterwards the
queue holds the tasks that returned `Pending`, in the same order. No task is polled twice
before every other task has been polled once.
-/

namespace OsByRust

/-- `SimpleExecutor`: the tasks of `task_queue`, front first. -/
structure SimpleExecutor where
  taskQueue : List Task
  deriving DecidableEq, Repr

namespace SimpleExecutor

/-- `SimpleExecutor::new`. -/
def new : SimpleExecutor := ⟨[]⟩

/-- `SimpleExecutor::spawn`: `push_back`. -/
def spawn (executor : SimpleExecutor) (task : Task) : SimpleExecutor :=
  ⟨executor.taskQueue ++ [task]⟩

/-- One turn of the `while let` loop of `run`, whose poll returns `outcome`: the task polled
and the executor afterwards. `none` when the queue is empty and the loop ends. -/
def runTurn (executor : SimpleExecutor) (outcome : Poll) : Option (Task × SimpleExecutor) :=
  match executor.taskQueue with
  | [] => none
  | task :: rest =>
      match outcome with
      | .ready => some (task, ⟨rest⟩)
      | .pending => some (task, ⟨rest ++ [task]⟩)

/-- Successive turns of `run`, whose polls return `outcomes` in order: the tasks polled and
the executor afterwards. `none` if the loop ends first. -/
def runTurns (executor : SimpleExecutor) : List Poll → Option (List Task × SimpleExecutor)
  | [] => some ([], executor)
  | outcome :: rest =>
      (executor.runTurn outcome).bind fun (task, next) =>
        (next.runTurns rest).map fun (polled, final) => (task :: polled, final)

/-- The tasks of `tasks` whose poll in `outcomes` returned `Pending`, in order. -/
def pendingOf (tasks : List Task) (outcomes : List Poll) : List Task :=
  ((tasks.zip outcomes).filter fun (_, outcome) => outcome = .pending).map Prod.fst

@[simp]
theorem pendingOf_nil (outcomes : List Poll) : pendingOf [] outcomes = [] := rfl

theorem pendingOf_cons_ready (task : Task) (tasks : List Task) (outcomes : List Poll) :
    pendingOf (task :: tasks) (.ready :: outcomes) = pendingOf tasks outcomes := by
  simp [pendingOf]

theorem pendingOf_cons_pending (task : Task) (tasks : List Task) (outcomes : List Poll) :
    pendingOf (task :: tasks) (.pending :: outcomes) = task :: pendingOf tasks outcomes := by
  simp [pendingOf]

/-- The round of the tasks in `front`, with `back` queued behind them: each of `front` is
polled once, in order, and the pending ones join the queue behind `back`. -/
theorem runTurns_round (front : List Task) :
    ∀ (back : List Task) (outcomes : List Poll), outcomes.length = front.length →
      runTurns ⟨front ++ back⟩ outcomes = some (front, ⟨back ++ pendingOf front outcomes⟩) := by
  induction front with
  | nil =>
      intro back outcomes oneRound
      rw [List.length_nil, List.length_eq_zero_iff] at oneRound
      subst oneRound
      simp [runTurns]
  | cons task front ih =>
      intro back outcomes oneRound
      cases outcomes with
      | nil => cases oneRound
      | cons outcome outcomes =>
          have rest : outcomes.length = front.length := by simpa using oneRound
          cases outcome with
          | ready =>
              simp [runTurns, runTurn, ih back outcomes rest, pendingOf_cons_ready]
          | pending =>
              simp [runTurns, runTurn, ih (back ++ [task]) outcomes rest, pendingOf_cons_pending]

/-- One round of `run`: whatever its polls return, the turns as many as there are tasks queued
poll each queued task exactly once, in queue order. Afterwards the queue holds exactly the
tasks that returned `Pending`, in the same order. -/
theorem simpleExecutor_round_robin (executor : SimpleExecutor) (outcomes : List Poll)
    (oneRound : outcomes.length = executor.taskQueue.length) :
    executor.runTurns outcomes =
      some (executor.taskQueue, ⟨pendingOf executor.taskQueue outcomes⟩) := by
  have round := runTurns_round executor.taskQueue [] outcomes oneRound
  rw [List.append_nil, List.nil_append] at round
  exact round

theorem simpleExecutor_round_robin_two :
    ([.pending, .ready] : List Poll).length =
        (SimpleExecutor.new.spawn ⟨⟨0⟩, .normal⟩ |>.spawn ⟨⟨1⟩, .high⟩).taskQueue.length ∧
      (SimpleExecutor.new.spawn ⟨⟨0⟩, .normal⟩ |>.spawn ⟨⟨1⟩, .high⟩).runTurns
          [.pending, .ready] =
        some ((SimpleExecutor.new.spawn ⟨⟨0⟩, .normal⟩ |>.spawn ⟨⟨1⟩, .high⟩).taskQueue,
          ⟨pendingOf (SimpleExecutor.new.spawn ⟨⟨0⟩, .normal⟩ |>.spawn ⟨⟨1⟩, .high⟩).taskQueue
            [.pending, .ready]⟩) :=
  ⟨rfl, simpleExecutor_round_robin _ _ rfl⟩

end SimpleExecutor

end OsByRust
