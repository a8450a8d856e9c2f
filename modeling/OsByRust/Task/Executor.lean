import OsByRust.Lib.BoundedQueue
import Mathlib

/-!
# The executor

`src/task/mod.rs` and `src/task/executor.rs`. The executor keeps its tasks in a map from
task id to task, two queues of task ids waiting to be polled, one per priority, and a cache
of the waker it has made for each task. `run_ready_tasks` pops the next id, high priority
first; when a task is stored under it, the task is polled with its cached waker (made on
first use) and removed with its waker when the poll returns `Ready`. A waker, when woken,
pushes its task id onto the queue of the priority it was made with; a push onto a full
queue is only counted in `DROPPED_WAKE_COUNT`.

The maps are functions from task ids, the queues `BoundedQueue`s of capacity
`TASK_QUEUE_CAPACITY`. Every `TaskWaker` holds clones of the executor's two queue `Arc`s, so
a waker is modelled by the id and priority it carries and acts on the executor's queues.
The future inside a task is opaque to the executor, which only reads what its poll returns
and which wakers it wakes; the model of a task keeps its id and priority, and the poll's
outcome and wakes are events of the run (see `OsByRust.Task.ExecutorRuns`).
-/

namespace OsByRust

/-- `TaskPriority`. -/
inductive TaskPriority where
  | high
  | normal
  deriving DecidableEq, Repr

/-- `TaskId(u64)`. -/
structure TaskId where
  val : UInt64
  deriving DecidableEq, Repr

/-- `TaskId::new`: the id taken from the counter `NEXT_ID`, with the counter afterwards
(`fetch_add(1)`, which wraps). -/
def TaskId.new (nextId : UInt64) : TaskId × UInt64 := (⟨nextId⟩, nextId + 1)

/-- `Task`: its id and priority; the pinned future is the opaque part. -/
structure Task where
  id : TaskId
  priority : TaskPriority
  deriving DecidableEq, Repr

/-- `Task::new_with_priority`, drawing its id from `NEXT_ID`. -/
def Task.newWithPriority (nextId : UInt64) (priority : TaskPriority) : Task × UInt64 :=
  (⟨(TaskId.new nextId).1, priority⟩, (TaskId.new nextId).2)

/-- The ids of `count` successive `TaskId::new` calls, the first with `NEXT_ID` at `nextId`. -/
def TaskId.draws (nextId : UInt64) : Nat → List TaskId
  | 0 => []
  | count + 1 => (TaskId.new nextId).1 :: TaskId.draws (TaskId.new nextId).2 count

/-- Call `k` returns the counter's start plus `k`, wrapping at `2 ^ 64`. -/
theorem TaskId.draws_eq (nextId : UInt64) (count : Nat) :
    TaskId.draws nextId count = (List.range count).map fun k => ⟨nextId + UInt64.ofNat k⟩ := by
  induction count generalizing nextId with
  | zero => rfl
  | succ count ih =>
      rw [TaskId.draws, ih, List.range_succ_eq_map, List.map_cons, List.map_map]
      simp only [TaskId.new, Function.comp_def]
      congr 1
      · simp
      · apply List.map_congr_left
        intro k _
        congr 1
        rw [Nat.succ_eq_add_one, UInt64.ofNat_add, UInt64.ofNat_one, UInt64.add_assoc,
          UInt64.add_comm 1]

/-- `TaskId::new` promises a unique id. The ids of successive calls are pairwise distinct
exactly as long as there are at most `2 ^ 64` of them: `fetch_add` wraps, and call
`2 ^ 64` returns the id of the first call again, wherever the counter started. -/
theorem taskId_draws_distinct (nextId : UInt64) (count : Nat) :
    (TaskId.draws nextId count).Nodup ↔ count ≤ 2 ^ 64 := by
  rw [TaskId.draws_eq, List.nodup_map_iff_inj_on List.nodup_range]
  constructor
  · intro injective
    by_contra beyond
    have same := injective 0 (List.mem_range.mpr (by omega)) (2 ^ 64)
      (List.mem_range.mpr (by omega))
    simp at same
  · intro within x xMem y yMem same
    rw [List.mem_range] at xMem yMem
    rw [TaskId.mk.injEq] at same
    have residues : (nextId.toNat + x) % 2 ^ 64 = (nextId.toNat + y) % 2 ^ 64 := by
      simpa using congrArg UInt64.toNat same
    omega

/-- `Poll<()>`, what polling a task returns. -/
inductive Poll where
  | ready
  | pending
  deriving DecidableEq, Repr

/-- `TASK_QUEUE_CAPACITY`. -/
def taskQueueCapacity : Nat := 100

/-- `SpawnError`. -/
inductive SpawnError where
  | duplicateTaskId
  | queueFull
  deriving DecidableEq, Repr

/-- `TaskWaker`: the task id and priority it was made with. -/
structure TaskWaker where
  taskId : TaskId
  taskPriority : TaskPriority
  deriving DecidableEq, Repr

/-- `Executor`. -/
structure Executor where
  tasks : TaskId → Option Task
  highPriorityTaskQueue : BoundedQueue TaskId taskQueueCapacity
  normalPriorityTaskQueue : BoundedQueue TaskId taskQueueCapacity
  wakerCache : TaskId → Option TaskWaker

namespace Executor

/-- `Executor::new`. -/
def new : Executor := ⟨fun _ => none, .empty, .empty, fun _ => none⟩

/-- The queue of a priority. -/
def queueOf (executor : Executor) : TaskPriority → BoundedQueue TaskId taskQueueCapacity
  | .high => executor.highPriorityTaskQueue
  | .normal => executor.normalPriorityTaskQueue

/-- `match priority { High => high_queue.push(id), Normal => normal_queue.push(id) }`, as
`try_spawn` and `wake_task` both write it: `none` when that queue is full. -/
def pushTaskId (executor : Executor) (priority : TaskPriority) (taskId : TaskId) :
    Option Executor :=
  match priority with
  | .high => (executor.highPriorityTaskQueue.push taskId).map fun queue =>
      { executor with highPriorityTaskQueue := queue }
  | .normal => (executor.normalPriorityTaskQueue.push taskId).map fun queue =>
      { executor with normalPriorityTaskQueue := queue }

/-- `Executor::try_spawn`. `BTreeMap::insert` stores the task before the duplicate check
looks at the entry it replaced. -/
def trySpawn (executor : Executor) (task : Task) : Executor × Except SpawnError Unit :=
  let tasks := Function.update executor.tasks task.id (some task)
  if (executor.tasks task.id).isSome then
    ({ executor with tasks := tasks }, .error .duplicateTaskId)
  else
    match pushTaskId { executor with tasks := tasks } task.priority task.id with
    | some pushed => (pushed, .ok ())
    | none => ({ executor with tasks := Function.update tasks task.id none }, .error .queueFull)

/-- `pop_next_task_id`: the high-priority queue first. -/
def popNextTaskId (executor : Executor) : Option TaskId × Executor :=
  match executor.highPriorityTaskQueue.pop with
  | (some taskId, queue) => (some taskId, { executor with highPriorityTaskQueue := queue })
  | (none, queue) =>
      match executor.normalPriorityTaskQueue.pop with
      | (taskId, normalQueue) =>
          (taskId, { executor with
            highPriorityTaskQueue := queue, normalPriorityTaskQueue := normalQueue })

/-- Where one turn of the `while let` loop of `run_ready_tasks` goes after its head. -/
inductive LoopHead where
  /-- Both queues were empty: `run_ready_tasks` returns. -/
  | finished
  /-- No task is stored under the id: `continue`. -/
  | skipped (taskId : TaskId)
  /-- The task is polled with this waker. -/
  | polling (task : Task) (waker : TaskWaker)
  deriving DecidableEq, Repr

/-- The head of the loop of `run_ready_tasks`: pop the next id, look its task up, and take
its waker from `waker_cache`, inserting a new `TaskWaker` on first use
(`entry(task_id).or_insert_with`). -/
def loopHead (executor : Executor) : LoopHead × Executor :=
  match executor.popNextTaskId with
  | (none, popped) => (.finished, popped)
  | (some taskId, popped) =>
      match popped.tasks taskId with
      | none => (.skipped taskId, popped)
      | some task =>
          match popped.wakerCache taskId with
          | some waker => (.polling task waker, popped)
          | none =>
              (.polling task ⟨taskId, task.priority⟩,
                { popped with
                  wakerCache := Function.update popped.wakerCache taskId
                    (some ⟨taskId, task.priority⟩) })

/-- The end of the loop body: a task whose poll returned `Ready` is removed, with its
waker. -/
def pollReturned (executor : Executor) (taskId : TaskId) : Poll → Executor
  | .ready =>
      { executor with
        tasks := Function.update executor.tasks taskId none
        wakerCache := Function.update executor.wakerCache taskId none }
  | .pending => executor

end Executor

/-- `TaskWaker::wake_task` (which `wake` and `wake_by_ref` call), with
`DROPPED_WAKE_COUNT`: a push onto a full queue is dropped and counted. -/
def TaskWaker.wakeTask (waker : TaskWaker) (executor : Executor) (droppedWakeCount : UInt64) :
    Executor × UInt64 :=
  match executor.pushTaskId waker.taskPriority waker.taskId with
  | some pushed => (pushed, droppedWakeCount)
  | none => (executor, droppedWakeCount + 1)

namespace Executor

@[simp]
theorem new_tasks (taskId : TaskId) : new.tasks taskId = none := rfl

@[simp]
theorem new_wakerCache (taskId : TaskId) : new.wakerCache taskId = none := rfl

@[simp]
theorem new_queueOf (priority : TaskPriority) : (new.queueOf priority).items = [] := by
  cases priority <;> rfl

theorem pushTaskId_eq_none_iff {executor : Executor} {priority : TaskPriority}
    {taskId : TaskId} :
    executor.pushTaskId priority taskId = none ↔
      (executor.queueOf priority).items.length = taskQueueCapacity := by
  cases priority <;>
    simp only [pushTaskId, queueOf, Option.map_eq_none_iff, BoundedQueue.push_eq_none_iff]

/-- A successful push appends the id to the queue of its priority and changes nothing
else. -/
theorem pushTaskId_eq_some {executor pushed : Executor} {priority : TaskPriority}
    {taskId : TaskId} (returned : executor.pushTaskId priority taskId = some pushed) :
    pushed.tasks = executor.tasks ∧ pushed.wakerCache = executor.wakerCache ∧
      (pushed.queueOf priority).items = (executor.queueOf priority).items ++ [taskId] ∧
      ∀ other, other ≠ priority → pushed.queueOf other = executor.queueOf other := by
  cases priority with
  | high =>
      simp only [pushTaskId, Option.map_eq_some_iff] at returned
      rcases returned with ⟨queue, pushedQueue, rfl⟩
      refine ⟨rfl, rfl, (BoundedQueue.push_eq_some_iff.mp pushedQueue).2, ?_⟩
      intro other differs
      cases other
      · exact absurd rfl differs
      · rfl
  | normal =>
      simp only [pushTaskId, Option.map_eq_some_iff] at returned
      rcases returned with ⟨queue, pushedQueue, rfl⟩
      refine ⟨rfl, rfl, (BoundedQueue.push_eq_some_iff.mp pushedQueue).2, ?_⟩
      intro other differs
      cases other
      · rfl
      · exact absurd rfl differs

theorem pushTaskId_cases (executor : Executor) (priority : TaskPriority) (taskId : TaskId) :
    (∃ pushed, executor.pushTaskId priority taskId = some pushed) ∨
      (executor.pushTaskId priority taskId = none ∧
        (executor.queueOf priority).items.length = taskQueueCapacity) := by
  cases pushed : executor.pushTaskId priority taskId with
  | none => exact Or.inr ⟨rfl, pushTaskId_eq_none_iff.mp pushed⟩
  | some next => exact Or.inl ⟨next, rfl⟩

theorem trySpawn_cases (executor : Executor) (task : Task) :
    ((executor.tasks task.id).isSome ∧
      executor.trySpawn task =
        ({ executor with tasks := Function.update executor.tasks task.id (some task) },
          .error .duplicateTaskId)) ∨
    (executor.tasks task.id = none ∧ ∃ pushed,
      { executor with tasks := Function.update executor.tasks task.id (some task) }.pushTaskId
        task.priority task.id = some pushed ∧ executor.trySpawn task = (pushed, .ok ())) ∨
    (executor.tasks task.id = none ∧
      (executor.queueOf task.priority).items.length = taskQueueCapacity ∧
      executor.trySpawn task = (executor, .error .queueFull)) := by
  cases stored : executor.tasks task.id with
  | some old =>
      exact Or.inl ⟨rfl, by simp [trySpawn, stored]⟩
  | none =>
      rcases pushTaskId_cases
          { executor with tasks := Function.update executor.tasks task.id (some task) }
          task.priority task.id with ⟨pushed, returned⟩ | ⟨returned, full⟩
      · exact Or.inr (Or.inl ⟨rfl, pushed, returned, by simp [trySpawn, stored, returned]⟩)
      · refine Or.inr (Or.inr ⟨rfl, ?_, ?_⟩)
        · cases priority : task.priority <;> simpa [queueOf, priority] using full
        · have restored : Function.update (Function.update executor.tasks task.id (some task))
              task.id none = executor.tasks := by
            rw [Function.update_idem, ← stored, Function.update_eq_self]
          simp [trySpawn, stored, returned, restored]

/-- On a duplicate id `try_spawn` reports `DuplicateTaskId` but leaves `task` in the map in
place of the task stored there: `BTreeMap::insert` has already replaced it, and only the
`QueueFull` path takes the entry out again. -/
theorem executor_duplicate_spawn_replaces_task {executor : Executor} {task old : Task}
    (stored : executor.tasks task.id = some old) (differs : old ≠ task) :
    (executor.trySpawn task).2 = .error .duplicateTaskId ∧
      (executor.trySpawn task).1.tasks task.id = some task ∧
      (executor.trySpawn task).1.tasks task.id ≠ executor.tasks task.id := by
  rcases trySpawn_cases executor task with ⟨-, returned⟩ | ⟨absent, -⟩ | ⟨absent, -⟩
  · rw [returned, stored]
    refine ⟨rfl, Function.update_self .., ?_⟩
    dsimp only
    rw [Function.update_self]
    intro same
    exact differs (Option.some.inj same).symm
  · rw [stored] at absent
    cases absent
  · rw [stored] at absent
    cases absent

theorem executor_duplicate_spawn_replaces_task_after_spawn :
    (Executor.new.trySpawn ⟨⟨0⟩, .normal⟩).1.tasks ⟨0⟩ = some ⟨⟨0⟩, .normal⟩ ∧
      (⟨⟨0⟩, .normal⟩ : Task) ≠ ⟨⟨0⟩, .high⟩ ∧
      ((Executor.new.trySpawn ⟨⟨0⟩, .normal⟩).1.trySpawn ⟨⟨0⟩, .high⟩).2 =
        .error .duplicateTaskId ∧
      ((Executor.new.trySpawn ⟨⟨0⟩, .normal⟩).1.trySpawn ⟨⟨0⟩, .high⟩).1.tasks ⟨0⟩ =
        some ⟨⟨0⟩, .high⟩ := by
  have stored : (Executor.new.trySpawn ⟨⟨0⟩, .normal⟩).1.tasks ⟨0⟩ = some ⟨⟨0⟩, .normal⟩ := by
    decide
  have differs : (⟨⟨0⟩, .normal⟩ : Task) ≠ ⟨⟨0⟩, .high⟩ := by decide
  have replaced := @executor_duplicate_spawn_replaces_task _ ⟨⟨0⟩, .high⟩ _ stored differs
  exact ⟨stored, differs, replaced.1, replaced.2.1⟩

/-- `pop_next_task_id` takes the front of the high-priority queue when there is one, and
the front of the normal queue otherwise. -/
theorem popNextTaskId_eq (executor : Executor) :
    executor.popNextTaskId =
      match executor.highPriorityTaskQueue.items with
      | taskId :: _ => (some taskId, { executor with
          highPriorityTaskQueue := executor.highPriorityTaskQueue.pop.2 })
      | [] => (executor.normalPriorityTaskQueue.items.head?, { executor with
          normalPriorityTaskQueue := executor.normalPriorityTaskQueue.pop.2 }) := by
  rcases executor with ⟨tasks, ⟨_ | ⟨front, rest⟩, bound⟩, normal, wakerCache⟩
  · rcases normal with ⟨_ | ⟨front, rest⟩, normalBound⟩ <;> rfl
  · rfl

@[simp]
theorem popNextTaskId_tasks (executor : Executor) :
    executor.popNextTaskId.2.tasks = executor.tasks := by
  rw [popNextTaskId_eq]
  split <;> rfl

@[simp]
theorem popNextTaskId_wakerCache (executor : Executor) :
    executor.popNextTaskId.2.wakerCache = executor.wakerCache := by
  rw [popNextTaskId_eq]
  split <;> rfl

end Executor

namespace Executor

theorem loopHead_cases (executor : Executor) :
    (executor.popNextTaskId.1 = none ∧
      executor.loopHead = (.finished, executor.popNextTaskId.2)) ∨
    (∃ taskId, executor.popNextTaskId.1 = some taskId ∧ executor.tasks taskId = none ∧
      executor.loopHead = (.skipped taskId, executor.popNextTaskId.2)) ∨
    (∃ taskId task waker, executor.popNextTaskId.1 = some taskId ∧
      executor.tasks taskId = some task ∧ executor.wakerCache taskId = some waker ∧
      executor.loopHead = (.polling task waker, executor.popNextTaskId.2)) ∨
    (∃ taskId task, executor.popNextTaskId.1 = some taskId ∧
      executor.tasks taskId = some task ∧ executor.wakerCache taskId = none ∧
      executor.loopHead = (.polling task ⟨taskId, task.priority⟩,
        { executor.popNextTaskId.2 with
          wakerCache := Function.update executor.wakerCache taskId
            (some ⟨taskId, task.priority⟩) })) := by
  rcases popped : executor.popNextTaskId with ⟨_ | taskId, next⟩
  · exact Or.inl ⟨rfl, by simp [loopHead, popped]⟩
  · have sameTasks := popNextTaskId_tasks executor
    have sameCache := popNextTaskId_wakerCache executor
    rw [popped] at sameTasks sameCache
    dsimp only at sameTasks sameCache
    cases stored : executor.tasks taskId with
    | none =>
        refine Or.inr (Or.inl ⟨taskId, rfl, stored, ?_⟩)
        simp [loopHead, popped, sameTasks, stored]
    | some task =>
        cases cached : executor.wakerCache taskId with
        | some waker =>
            refine Or.inr (Or.inr (Or.inl ⟨taskId, task, waker, rfl, stored, cached, ?_⟩))
            simp [loopHead, popped, sameTasks, sameCache, stored, cached]
        | none =>
            refine Or.inr (Or.inr (Or.inr ⟨taskId, task, rfl, stored, cached, ?_⟩))
            simp [loopHead, popped, sameTasks, sameCache, stored, cached]

end Executor

/-- The two outcomes of `wake_task`: the id is queued behind the others of its priority,
or the queue is full and the wake only counted. -/
theorem TaskWaker.wakeTask_cases (waker : TaskWaker) (executor : Executor)
    (droppedWakeCount : UInt64) :
    (∃ pushed, executor.pushTaskId waker.taskPriority waker.taskId = some pushed ∧
      waker.wakeTask executor droppedWakeCount = (pushed, droppedWakeCount)) ∨
    ((executor.queueOf waker.taskPriority).items.length = taskQueueCapacity ∧
      waker.wakeTask executor droppedWakeCount = (executor, droppedWakeCount + 1)) := by
  rcases Executor.pushTaskId_cases executor waker.taskPriority waker.taskId with
    ⟨pushed, returned⟩ | ⟨returned, full⟩
  · exact Or.inl ⟨pushed, returned, by simp [wakeTask, returned]⟩
  · exact Or.inr ⟨full, by simp [wakeTask, returned]⟩

end OsByRust
