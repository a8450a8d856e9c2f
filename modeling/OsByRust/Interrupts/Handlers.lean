import OsByRust.Lib.SpinLock
import OsByRust.Lib.Vec
import OsByRust.Task.Timer

/-!
# The spin locks of the kernel

`src/interrupts.rs` installs two handlers for the interrupt controllers. The timer's calls
`task::timer::tick`; the keyboard's reads the scancode and calls
`input::push_keyboard_scancode`. Each then sends the end of interrupt under the `PICS` mutex.
This module writes the code of the handlers, and of the routines of the main context, as the
spin locks they take:

* `SLEEPERS` (`task/timer.rs`), taken by `tick` and by `Sleep::poll`;
* the `Locked` mutex of the global allocator (`allocator.rs`), taken by every allocation and
  free: among them the pushes of `tick` onto `wakers_to_wake` and of `Sleep::poll` onto
  `SLEEPERS` when the `Vec` is full, and the free of the buffer of `wakers_to_wake`;
* `WRITER` and `SERIAL1`, taken by `vga_buffer::_print` and `serial::_print` under
  `without_interrupts`;
* `PICS`, taken by `init` before it enables interrupts, and by both handlers.

The scancode queue of the keyboard path is a lock-free `ArrayQueue` behind a `OnceCell`, and
`AtomicWaker::wake` wakes a `TaskWaker`, whose wake is a push onto another `ArrayQueue`.
`Waker::wake` consumes the waker, though. When the `Arc<TaskWaker>` it drops is the last
one, as after the task that registered it has finished, the drop frees the `TaskWaker`
through the allocator. Whether it is the last depends on reference counts the model does not
follow, so the keyboard handler takes it as a choice, `freesWaker`. The wakes of `tick` drop
their wakers the same way. Those frees are left out: they come after the first push onto
`wakers_to_wake`, which has already taken the allocator's mutex, so they add no way to spin.
-/

namespace OsByRust

/-- The kernel's spin mutexes. -/
inductive KernelLock where
  | sleepers
  | allocator
  | writer
  | serial
  | pics
  deriving DecidableEq, Repr

namespace KernelLock

/-- The locks the kernel takes only with interrupts disabled: under `without_interrupts`, in
an interrupt handler, or before `init` enables interrupts. -/
def InterruptSafe (lock : KernelLock) : Prop := lock = .writer ∨ lock = .serial ∨ lock = .pics

instance : DecidablePred InterruptSafe := fun lock =>
  inferInstanceAs (Decidable (lock = .writer ∨ lock = .serial ∨ lock = .pics))

@[simp]
theorem not_interruptSafe_sleepers : ¬ InterruptSafe .sleepers := by
  simp [InterruptSafe]

@[simp]
theorem not_interruptSafe_allocator : ¬ InterruptSafe .allocator := by
  simp [InterruptSafe]

end KernelLock

open LockStep

/-- `GlobalAlloc::alloc` and `dealloc` of `Locked<FixedSizeBlockAllocator>`, `count` times:
each takes the allocator's mutex for its work. -/
def heapCallLocks (count : Nat) : List (LockStep KernelLock) :=
  criticals (List.replicate count .allocator)

/-- `os_by_rust::init`: `PICS.lock().initialize()`, then `interrupts::enable()`. -/
def initLocks : List (LockStep KernelLock) := critical .pics ++ [.enableInterrupts]

/-- `vga_buffer::_print`, begun with the interrupt flag `enabled`. -/
def printLocks (enabled : Bool) : List (LockStep KernelLock) :=
  withoutInterrupts enabled (critical .writer)

/-- `serial::_print`, begun with the interrupt flag `enabled`. -/
def serialPrintLocks (enabled : Bool) : List (LockStep KernelLock) :=
  withoutInterrupts enabled (critical .serial)

/-- `Executor::sleep_if_idle`: interrupts are disabled while the queues are checked, then
enabled again by `enable_and_hlt` or `interrupts::enable`. -/
def sleepIfIdleLocks : List (LockStep KernelLock) := [.disableInterrupts, .enableInterrupts]

/-- The rest of `Sleep::poll` once it holds `SLEEPERS`: the `heapCalls` of its push, then the
drop of the guard. -/
def sleepPollLockedLocks (heapCalls : Nat) : List (LockStep KernelLock) :=
  heapCallLocks heapCalls ++ [.release .sleepers]

/-- `tick` when it wakes `woken` wakers. `SLEEPERS` is held over the loop, whose pushes onto
the new `wakers_to_wake` call the allocator when that `Vec` is full. The drop of
`wakers_to_wake` after the wakes frees its buffer, which it has once a waker was pushed. -/
def tickLocks (woken : Nat) : List (LockStep KernelLock) :=
  .acquire .sleepers :: (heapCallLocks (Vec.pushesHeapCalls woken 0 0) ++
    .release .sleepers :: heapCallLocks (if woken = 0 then 0 else 1))

/-- `timer_interrupt_handler`: `tick()`, the `.` printed with feature `debug-timer-ticks`
(its `without_interrupts` finds interrupts disabled), and the end of interrupt under `PICS`. -/
def timerInterruptHandlerLocks (debugTimerTicks : Bool) (woken : Nat) :
    List (LockStep KernelLock) :=
  tickLocks woken ++ (if debugTimerTicks then printLocks false else []) ++ critical .pics

/-- `keyboard_interrupt_handler`: the push of the scancode takes no lock, and the wake of its
waker takes the allocator's mutex only to free a `TaskWaker` whose last reference it drops
(`freesWaker`); the end of interrupt is sent under `PICS`. -/
def keyboardInterruptHandlerLocks (freesWaker : Bool) : List (LockStep KernelLock) :=
  heapCallLocks (if freesWaker then 1 else 0) ++ critical .pics

variable {W : Type} [DecidableEq W]

/-- `Sleep::poll` under the `SLEEPERS` lock, on the `Vec`'s entries and capacity: it
overwrites the entry whose waker `will_wake` the given one, or pushes a new entry. It returns
the entries and the capacity after, and the calls the push makes to the allocator. -/
def Sleep.register (sleep : Sleep) (waker : W) (sleepers : List (SleeperEntry W))
    (capacity : Nat) : List (SleeperEntry W) × Nat × Nat :=
  match sleepers.findIdx? (fun entry => decide (entry.waker = waker)) with
  | some index => (sleepers.set index ⟨sleep.wakeTick, waker⟩, capacity, 0)
  | none =>
      (sleepers ++ [⟨sleep.wakeTick, waker⟩], Vec.capacityAfterPush sleepers.length capacity,
        Vec.pushHeapCalls sleepers.length capacity)

/-- Past its tick check, `Sleep::poll` is the registration made under the lock. -/
theorem Sleep.poll_of_lt {sleep : Sleep} {timer : Timer W} (early : timer.currentTick < sleep.wakeTick)
    (waker : W) (capacity : Nat) :
    sleep.poll waker timer =
      (.pending, { timer with sleepers := (sleep.register waker timer.sleepers capacity).1 }) := by
  rw [Sleep.poll, if_neg (Nat.not_le.mpr early), Sleep.register]
  cases timer.sleepers.findIdx? (fun entry => decide (entry.waker = waker)) <;> rfl

section Runs

open Cpu

variable {cpu : Cpu KernelLock}

theorem runCode_heapCallLocks_of_not_mem (free : .allocator ∉ cpu.held) (count : Nat)
    (rest : List (LockStep KernelLock)) :
    cpu.runCode (heapCallLocks count ++ rest) = cpu.runCode rest := by
  apply runCode_criticals_of_not_mem
  intro lock lockMem
  rw [List.eq_of_mem_replicate lockMem]
  exact free

/-- What `tick` does to a CPU: it spins on `SLEEPERS` when that is held, on the allocator
when that is held and a waker is woken, and otherwise gives the CPU back as it found it. -/
theorem runCode_tickLocks (cpu : Cpu KernelLock) (woken : Nat) :
    cpu.runCode (tickLocks woken) =
      if .sleepers ∈ cpu.held then .error .sleepers
      else if .allocator ∈ cpu.held ∧ woken ≠ 0 then .error .allocator
      else .ok cpu := by
  by_cases sleepersHeld : .sleepers ∈ cpu.held
  · rw [if_pos sleepersHeld, tickLocks, runCode_acquire_of_mem sleepersHeld]
  rw [if_neg sleepersHeld, tickLocks, runCode_acquire_of_not_mem sleepersHeld]
  by_cases allocatorHeld : .allocator ∈ cpu.held
  · cases woken with
    | zero => simp [heapCallLocks, Vec.pushesHeapCalls, runCode_release_hold]
    | succ woken =>
        have calls : Vec.pushesHeapCalls (woken + 1) 0 0 ≠ 0 := by
          rw [Ne, Vec.pushesHeapCalls_new_eq_zero_iff]
          omega
        obtain ⟨more, split⟩ := Nat.exists_eq_succ_of_ne_zero calls
        have due : .allocator ∈ cpu.held ∧ woken + 1 ≠ 0 := ⟨allocatorHeld, by omega⟩
        have takenInside : .allocator ∈ (cpu.hold .sleepers).held :=
          List.mem_cons_of_mem _ allocatorHeld
        rw [if_pos due, heapCallLocks, split, List.replicate_succ]
        exact runCode_criticals_of_mem takenInside _ _
  · have notDue : ¬ (.allocator ∈ cpu.held ∧ woken ≠ 0) := fun due => allocatorHeld due.1
    have freeInside : .allocator ∉ (cpu.hold .sleepers).held := by simp [allocatorHeld]
    rw [if_neg notDue, runCode_heapCallLocks_of_not_mem freeInside, runCode_release_hold,
      ← List.append_nil (heapCallLocks _), runCode_heapCallLocks_of_not_mem allocatorHeld]
    rfl

/-- On a CPU where interrupts are enabled and the locks taken only with interrupts disabled
are free, the timer handler is `tick`: the `.` and the end of interrupt never spin. -/
theorem runCode_timerInterruptHandlerLocks (guarded : Guarded KernelLock.InterruptSafe cpu)
    (enabled : cpu.interruptsEnabled = true) (debugTimerTicks : Bool) (woken : Nat) :
    cpu.interrupted.runCode (timerInterruptHandlerLocks debugTimerTicks woken) =
      cpu.interrupted.runCode (tickLocks woken) := by
  have trailer : cpu.interrupted.runCode
      ((if debugTimerTicks then printLocks false else []) ++ critical .pics) = .ok cpu.interrupted := by
    have asCriticals : (if debugTimerTicks then printLocks false else []) ++ critical .pics =
        criticals ((if debugTimerTicks then [.writer] else []) ++ [.pics]) := by
      cases debugTimerTicks <;> rfl
    rw [asCriticals]
    apply guarded.runCode_criticals enabled
    intro lock lockMem
    rcases List.mem_append.mp lockMem with inPrint | atPics
    · split at inPrint
      · rw [List.mem_singleton.mp inPrint]
        simp [KernelLock.InterruptSafe]
      · cases inPrint
    · rw [List.mem_singleton.mp atPics]
      simp [KernelLock.InterruptSafe]
  rw [timerInterruptHandlerLocks, List.append_assoc, runCode_append, runCode_tickLocks]
  split
  · rfl
  · split
    · rfl
    · exact trailer

/-- The keyboard handler spins only when it frees a waker while the interrupted context holds
the allocator. -/
theorem runCode_keyboardInterruptHandlerLocks (guarded : Guarded KernelLock.InterruptSafe cpu)
    (enabled : cpu.interruptsEnabled = true) (freesWaker : Bool) :
    cpu.interrupted.runCode (keyboardInterruptHandlerLocks freesWaker) =
      if freesWaker ∧ .allocator ∈ cpu.held then .error .allocator else .ok cpu.interrupted := by
  have endOfInterrupt : cpu.interrupted.runCode (critical .pics) = .ok cpu.interrupted := by
    have asCriticals : critical KernelLock.pics = criticals [.pics] := rfl
    rw [asCriticals]
    apply guarded.runCode_criticals enabled
    intro lock lockMem
    rw [List.mem_singleton.mp lockMem]
    simp [KernelLock.InterruptSafe]
  cases freesWaker
  case false =>
    rw [keyboardInterruptHandlerLocks, if_neg Bool.false_ne_true,
      if_neg fun due => Bool.false_ne_true due.1]
    exact endOfInterrupt
  case true =>
    rw [keyboardInterruptHandlerLocks, if_pos rfl]
    by_cases allocatorHeld : .allocator ∈ cpu.held
    · rw [if_pos ⟨rfl, allocatorHeld⟩]
      apply runCode_criticals_of_mem
      rw [interrupted_held]
      exact allocatorHeld
    · have free : .allocator ∉ cpu.interrupted.held := by
        rw [interrupted_held]
        exact allocatorHeld
      rw [if_neg fun due => allocatorHeld due.2, runCode_heapCallLocks_of_not_mem free]
      exact endOfInterrupt

end Runs

section Routines

/-! Each routine of the main context, begun between routines, keeps the locks taken with
interrupts disabled free whenever interrupts are enabled, and ends between routines again. -/

open Cpu

/-- The main context between routines, once `init` has run. -/
def mainIdle : Cpu KernelLock := ⟨[], true⟩

/-- The main context at boot. -/
def mainBoot : Cpu KernelLock := ⟨[], false⟩

/-- The condition every step of the main context keeps. -/
abbrev MainGuarded : Cpu KernelLock → Prop := Guarded KernelLock.InterruptSafe

theorem mainGuarded_idle : MainGuarded mainIdle := guarded_of_held_nil rfl

theorem keeps_initLocks : Keeps MainGuarded mainBoot initLocks mainIdle := by
  have picsSection : Keeps MainGuarded mainBoot (critical .pics) mainBoot :=
    keeps_critical List.not_mem_nil (guarded_of_disabled rfl) (guarded_of_disabled rfl)
  apply Keeps.append picsSection
  exact ⟨guarded_of_disabled rfl, mainIdle, rfl, rfl⟩

theorem keeps_heapCallLocks {cpu : Cpu KernelLock} (guarded : MainGuarded cpu)
    (free : .allocator ∉ cpu.held) (count : Nat) : Keeps MainGuarded cpu (heapCallLocks count) cpu := by
  apply keeps_criticals
  · intro lock lockMem
    rw [List.eq_of_mem_replicate lockMem]
    exact free
  · exact guarded
  · intro lock lockMem
    rw [List.eq_of_mem_replicate lockMem]
    exact guarded.hold KernelLock.not_interruptSafe_allocator

/-- A print under `without_interrupts` takes its lock only with interrupts disabled. -/
theorem keeps_withoutInterrupts_critical {lock : KernelLock} :
    Keeps MainGuarded mainIdle (withoutInterrupts mainIdle.interruptsEnabled (critical lock))
      mainIdle := by
  apply keeps_withoutInterrupts mainGuarded_idle (guarded_of_disabled rfl)
  exact keeps_critical List.not_mem_nil (guarded_of_disabled rfl) (guarded_of_disabled rfl)

theorem keeps_printLocks : Keeps MainGuarded mainIdle (printLocks mainIdle.interruptsEnabled) mainIdle :=
  keeps_withoutInterrupts_critical

theorem keeps_serialPrintLocks :
    Keeps MainGuarded mainIdle (serialPrintLocks mainIdle.interruptsEnabled) mainIdle :=
  keeps_withoutInterrupts_critical

theorem keeps_sleepIfIdleLocks : Keeps MainGuarded mainIdle sleepIfIdleLocks mainIdle :=
  ⟨mainGuarded_idle, mainIdle.interrupted, rfl, guarded_of_disabled rfl, mainIdle, rfl, rfl⟩

/-- `Sleep::poll` holds `SLEEPERS` with interrupts enabled, around the calls of its push. -/
theorem keeps_sleepPollLockedLocks (heapCalls : Nat) :
    Keeps MainGuarded (mainIdle.hold .sleepers) (sleepPollLockedLocks heapCalls) mainIdle := by
  have holding : MainGuarded (mainIdle.hold .sleepers) :=
    mainGuarded_idle.hold KernelLock.not_interruptSafe_sleepers
  apply Keeps.append (keeps_heapCallLocks holding (by simp [mainIdle]) heapCalls)
  exact ⟨holding, mainIdle, step_release_hold mainIdle .sleepers, rfl⟩

end Routines

end OsByRust
