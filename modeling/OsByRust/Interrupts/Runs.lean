import OsByRust.Interrupts.Handlers
import OsByRust.Lib.Transition

/-!
# Interrupts between the steps of the main context

The main context runs the executor and its tasks. Between the routines that take spin locks
it may begin one: a call of the global allocator, a print to the screen or to the serial
port, `Executor::sleep_if_idle`, or a `Sleep::poll`, whose tick check comes before its
`SLEEPERS.lock()`. It then runs the routine one lock step at a time. While interrupts are
enabled the timer or the keyboard interrupt may come between any two of these steps; its
handler runs to its end, or spins for ever on a lock that the main context holds.

`Disciplined` holds in every reachable state: what is left of the main context's routine
never spins and keeps `WRITER`, `SERIAL1` and `PICS` free whenever interrupts are enabled.
So the keyboard handler always runs to its end, and the timer handler spins exactly when the
main context holds `SLEEPERS`, or holds the allocator while a sleeper is due. Both happen.
-/

namespace OsByRust

open Transition Cpu

/-- The kernel as its spin locks see it. -/
structure KernelSystem (W : Type) where
  cpu : Cpu KernelLock
  /-- What is left of the main context's routine. -/
  code : List (LockStep KernelLock)
  /-- A `Sleep::poll` past its tick check that has not taken `SLEEPERS` yet. -/
  polling : Option (Sleep × W)
  timer : Timer W
  sleepersCapacity : Nat
  /-- The sleeps made by `sleep_ticks`. -/
  created : List Sleep
  /-- The lock on which the CPU spins for ever. -/
  spinning : Option KernelLock
  deriving DecidableEq, Repr

inductive KernelEvent (W : Type) where
  | step
  | allocate
  | print
  | serialPrint
  | sleepIfIdle
  | sleepTicks (ticks : Nat)
  | sleepPoll (sleep : Sleep) (waker : W)
  | sleepersLock
  | timerInterrupt
  | keyboardInterrupt (freesWaker : Bool)

namespace KernelSystem

variable {W : Type}

/-- The main context is between routines. -/
def between (system : KernelSystem W) : Bool := system.code.isEmpty && system.polling.isNone

/-- The main context begins a routine. -/
def begin (system : KernelSystem W) (code : List (LockStep KernelLock)) :
    Option (KernelSystem W) :=
  if system.between then some { system with code := code } else none

/-- The main context's next step. -/
def stepMain (system : KernelSystem W) : Option (KernelSystem W) :=
  match system.code with
  | [] => none
  | first :: rest =>
      match system.cpu.step first with
      | .ok cpu => some { system with cpu := cpu, code := rest }
      | .error lock => some { system with spinning := some lock }

/-- An interrupt whose handler is `handler`: with interrupts enabled it runs to its end on the
interrupted CPU and leaves `after`, or it spins. -/
def interrupt (system : KernelSystem W) (handler : List (LockStep KernelLock))
    (after : KernelSystem W) : Option (KernelSystem W) :=
  if system.cpu.interruptsEnabled then
    match system.cpu.interrupted.runCode handler with
    | .ok _ => some after
    | .error lock => some { system with spinning := some lock }
  else none

/-- Boot: `init` is about to run with interrupts disabled; no sleeper, no sleep. -/
def Initial (system : KernelSystem W) : Prop :=
  system = ⟨mainBoot, initLocks, none, ⟨0, []⟩, 0, [], none⟩

/-- What every reachable state satisfies. -/
structure Disciplined (system : KernelSystem W) : Prop where
  keeps : Keeps MainGuarded system.cpu system.code mainIdle
  polling_between : system.polling.isSome → system.code = []
  spinning_held : ∀ lock, system.spinning = some lock →
    lock ∈ system.cpu.held ∧ (lock = .sleepers ∨ lock = .allocator)

variable {system next : KernelSystem W}

theorem disciplined_initial (initial : Initial system) : system.Disciplined := by
  subst initial
  refine ⟨keeps_initLocks, ?_, ?_⟩
  · intro polling
    cases polling
  · intro lock spins
    cases spins

theorem Disciplined.guarded (disciplined : system.Disciplined) : MainGuarded system.cpu :=
  disciplined.keeps.good_start mainGuarded_idle

theorem Disciplined.cpu_of_between (disciplined : system.Disciplined)
    (between : system.between = true) : system.cpu = mainIdle := by
  simp only [KernelSystem.between, Bool.and_eq_true, List.isEmpty_iff] at between
  have keeps := disciplined.keeps
  rw [between.1] at keeps
  exact keeps.eq_of_nil

theorem Disciplined.cpu_of_polling {sleep : Sleep} {waker : W} (disciplined : system.Disciplined)
    (polling : system.polling = some (sleep, waker)) : system.cpu = mainIdle := by
  have keeps := disciplined.keeps
  rw [disciplined.polling_between (by rw [polling]; rfl)] at keeps
  exact keeps.eq_of_nil

/-- While the CPU does not spin, the discipline is that of the main context's routine. -/
theorem disciplined_of_live (keeps : Keeps MainGuarded system.cpu system.code mainIdle)
    (pollingBetween : system.polling.isSome → system.code = [])
    (live : system.spinning = none) : system.Disciplined := by
  refine ⟨keeps, pollingBetween, ?_⟩
  intro lock spins
  rw [live] at spins
  cases spins

/-- A state that differs only in the timer or the sleeps keeps the discipline. -/
theorem Disciplined.of_main {other : KernelSystem W} (disciplined : system.Disciplined)
    (sameCpu : other.cpu = system.cpu) (sameCode : other.code = system.code)
    (samePolling : other.polling = system.polling) (live : other.spinning = none) :
    other.Disciplined := by
  apply disciplined_of_live _ _ live
  · rw [sameCpu, sameCode]
    exact disciplined.keeps
  · rw [samePolling, sameCode]
    exact disciplined.polling_between

/-- A handler that spins on a lock the main context holds leaves the main context as it
was. -/
theorem Disciplined.spin {lock : KernelLock} (disciplined : system.Disciplined)
    (taken : lock ∈ system.cpu.held) (named : lock = .sleepers ∨ lock = .allocator) :
    ({ system with spinning := some lock } : KernelSystem W).Disciplined := by
  refine ⟨disciplined.keeps, disciplined.polling_between, ?_⟩
  intro other spins
  cases spins
  exact ⟨taken, named⟩

/-! ## One step -/

section Steps

variable (live : system.spinning = none)

include live in
theorem disciplined_stepMain (disciplined : system.Disciplined)
    (stepped : system.stepMain = some next) : next.Disciplined := by
  rw [stepMain] at stepped
  split at stepped
  · cases stepped
  · rename_i first rest running
    have keeps := disciplined.keeps
    rw [running] at keeps
    obtain ⟨cpu, cpuStepped, keepsRest⟩ := keeps.next
    rw [cpuStepped] at stepped
    cases stepped
    refine disciplined_of_live keepsRest ?_ live
    intro polling
    have := disciplined.polling_between polling
    rw [running] at this
    cases this

include live in
theorem disciplined_begin {code : List (LockStep KernelLock)} (disciplined : system.Disciplined)
    (routine : system.cpu = mainIdle → Keeps MainGuarded mainIdle code mainIdle)
    (begun : system.begin code = some next) : next.Disciplined := by
  rw [begin] at begun
  split at begun
  · rename_i between
    cases begun
    have polling : system.polling = none := by
      simp only [KernelSystem.between, Bool.and_eq_true, Option.isNone_iff_eq_none] at between
      exact between.2
    have idle := disciplined.cpu_of_between between
    refine disciplined_of_live ?_ ?_ live
    · rw [idle]
      exact routine idle
    · intro isPolling
      rw [polling] at isPolling
      cases isPolling
  · cases begun

/-- The timer handler spins exactly when the main context holds `SLEEPERS`, or holds the
allocator while `tick` has a waker to wake. -/
theorem interrupt_timer (disciplined : system.Disciplined)
    (enabled : system.cpu.interruptsEnabled = true) (debugTimerTicks : Bool) :
    system.interrupt (timerInterruptHandlerLocks debugTimerTicks system.timer.tick.2.length)
        { system with timer := system.timer.tick.1 } =
      if .sleepers ∈ system.cpu.held then some { system with spinning := some .sleepers }
      else if .allocator ∈ system.cpu.held ∧ system.timer.tick.2 ≠ [] then
        some { system with spinning := some .allocator }
      else some { system with timer := system.timer.tick.1 } := by
  have woken : system.timer.tick.2.length ≠ 0 ↔ system.timer.tick.2 ≠ [] := by
    rw [Ne, Ne, List.length_eq_zero_iff]
  rw [interrupt, if_pos enabled,
    runCode_timerInterruptHandlerLocks disciplined.guarded enabled, runCode_tickLocks,
    interrupted_held]
  by_cases sleepersHeld : .sleepers ∈ system.cpu.held
  · rw [if_pos sleepersHeld, if_pos sleepersHeld]
  rw [if_neg sleepersHeld, if_neg sleepersHeld]
  by_cases due : .allocator ∈ system.cpu.held ∧ system.timer.tick.2 ≠ []
  · rw [if_pos due, if_pos ⟨due.1, woken.mpr due.2⟩]
  · rw [if_neg due, if_neg fun lengthDue => due ⟨lengthDue.1, woken.mp lengthDue.2⟩]

/-- The keyboard handler runs to its end, unless it frees a waker while the main context
holds the allocator. -/
theorem interrupt_keyboard (disciplined : system.Disciplined)
    (enabled : system.cpu.interruptsEnabled = true) (freesWaker : Bool) :
    system.interrupt (keyboardInterruptHandlerLocks freesWaker) system =
      if freesWaker ∧ .allocator ∈ system.cpu.held then
        some { system with spinning := some .allocator }
      else some system := by
  rw [interrupt, if_pos enabled,
    runCode_keyboardInterruptHandlerLocks disciplined.guarded enabled]
  by_cases due : freesWaker = true ∧ .allocator ∈ system.cpu.held
  · rw [if_pos due, if_pos due]
  · rw [if_neg due, if_neg due]

include live in
theorem disciplined_timerInterrupt (disciplined : system.Disciplined) (debugTimerTicks : Bool)
    (interrupted : system.interrupt
      (timerInterruptHandlerLocks debugTimerTicks system.timer.tick.2.length)
      { system with timer := system.timer.tick.1 } = some next) :
    next.Disciplined := by
  by_cases enabled : system.cpu.interruptsEnabled = true
  · rw [interrupt_timer disciplined enabled] at interrupted
    split at interrupted
    · rename_i sleepersHeld
      cases interrupted
      exact disciplined.spin sleepersHeld (Or.inl rfl)
    · split at interrupted
      · rename_i due
        cases interrupted
        exact disciplined.spin due.1 (Or.inr rfl)
      · cases interrupted
        exact disciplined.of_main rfl rfl rfl live
  · rw [interrupt, if_neg enabled] at interrupted
    cases interrupted

theorem disciplined_keyboardInterrupt (disciplined : system.Disciplined) {freesWaker : Bool}
    (interrupted : system.interrupt (keyboardInterruptHandlerLocks freesWaker) system =
      some next) :
    next.Disciplined := by
  by_cases enabled : system.cpu.interruptsEnabled = true
  · rw [interrupt_keyboard disciplined enabled] at interrupted
    split at interrupted
    · rename_i due
      cases interrupted
      exact disciplined.spin due.2 (Or.inr rfl)
    · cases interrupted
      exact disciplined
  · rw [interrupt, if_neg enabled] at interrupted
    cases interrupted

end Steps

variable [DecidableEq W]

/-- `Sleep::poll` past its tick check takes `SLEEPERS` and registers its waker. -/
def lockSleepers (system : KernelSystem W) : Option (KernelSystem W) :=
  match system.polling with
  | none => none
  | some (sleep, waker) =>
      match system.cpu.step (.acquire .sleepers) with
      | .ok cpu =>
          match sleep.register waker system.timer.sleepers system.sleepersCapacity with
          | (sleepers, capacity, heapCalls) =>
              some { system with
                cpu := cpu, code := sleepPollLockedLocks heapCalls, polling := none,
                timer := { system.timer with sleepers := sleepers }, sleepersCapacity := capacity }
      | .error lock => some { system with spinning := some lock }

/-- What one event does while the CPU does not spin. -/
def react (debugTimerTicks : Bool) (system : KernelSystem W) :
    KernelEvent W → Option (KernelSystem W)
  | .step => system.stepMain
  | .allocate => system.begin (heapCallLocks 1)
  | .print => system.begin (printLocks system.cpu.interruptsEnabled)
  | .serialPrint => system.begin (serialPrintLocks system.cpu.interruptsEnabled)
  | .sleepIfIdle => system.begin sleepIfIdleLocks
  | .sleepTicks ticks =>
      if system.between then
        some { system with created := system.timer.sleepTicks ticks :: system.created }
      else none
  | .sleepPoll sleep waker =>
      if system.between = true ∧ sleep ∈ system.created then
        if sleep.wakeTick ≤ system.timer.currentTick then some system
        else some { system with polling := some (sleep, waker) }
      else none
  | .sleepersLock => system.lockSleepers
  | .timerInterrupt =>
      system.interrupt (timerInterruptHandlerLocks debugTimerTicks system.timer.tick.2.length)
        { system with timer := system.timer.tick.1 }
  | .keyboardInterrupt freesWaker =>
      system.interrupt (keyboardInterruptHandlerLocks freesWaker) system

/-- The state after one event; nothing happens any more once the CPU spins. -/
def perform (debugTimerTicks : Bool) (system : KernelSystem W) (event : KernelEvent W) :
    Option (KernelSystem W) :=
  if system.spinning.isSome then none else system.react debugTimerTicks event

def Step (debugTimerTicks : Bool) (system : KernelSystem W) (event : KernelEvent W)
    (next : KernelSystem W) : Prop :=
  system.perform debugTimerTicks event = some next

theorem perform_of_live {debugTimerTicks : Bool} (live : system.spinning = none)
    (event : KernelEvent W) :
    system.perform debugTimerTicks event = system.react debugTimerTicks event := by
  simp [perform, live]

section Steps

variable (live : system.spinning = none)
include live

theorem disciplined_lockSleepers (disciplined : system.Disciplined)
    (locked : system.lockSleepers = some next) : next.Disciplined := by
  rw [lockSleepers] at locked
  split at locked
  · cases locked
  · rename_i sleep waker polling
    rw [disciplined.cpu_of_polling polling, step_acquire_of_not_mem List.not_mem_nil] at locked
    cases locked
    refine disciplined_of_live (keeps_sleepPollLockedLocks _) ?_ live
    intro isPolling
    cases isPolling

theorem disciplined_step {debugTimerTicks : Bool} {event : KernelEvent W}
    (disciplined : system.Disciplined)
    (stepped : system.perform debugTimerTicks event = some next) : next.Disciplined := by
  rw [perform_of_live live] at stepped
  cases event with
  | step => exact disciplined_stepMain live disciplined stepped
  | allocate =>
      apply disciplined_begin live disciplined _ stepped
      intro _
      exact keeps_heapCallLocks mainGuarded_idle List.not_mem_nil 1
  | print =>
      apply disciplined_begin live disciplined _ stepped
      intro idle
      rw [idle]
      exact keeps_printLocks
  | serialPrint =>
      apply disciplined_begin live disciplined _ stepped
      intro idle
      rw [idle]
      exact keeps_serialPrintLocks
  | sleepIfIdle =>
      apply disciplined_begin live disciplined _ stepped
      intro _
      exact keeps_sleepIfIdleLocks
  | sleepTicks ticks =>
      rw [react] at stepped
      split at stepped
      · cases stepped
        exact disciplined.of_main rfl rfl rfl live
      · cases stepped
  | sleepPoll sleep waker =>
      rw [react] at stepped
      split at stepped
      · rename_i polled
        split at stepped
        · cases stepped
          exact disciplined
        · -- A poll too early for its tick goes on to take `SLEEPERS`.
          cases stepped
          refine ⟨disciplined.keeps, ?_, disciplined.spinning_held⟩
          intro _
          simp only [KernelSystem.between, Bool.and_eq_true, List.isEmpty_iff] at polled
          exact polled.1.1
      · cases stepped
  | sleepersLock => exact disciplined_lockSleepers live disciplined stepped
  | timerInterrupt => exact disciplined_timerInterrupt live disciplined debugTimerTicks stepped
  | keyboardInterrupt freesWaker => exact disciplined_keyboardInterrupt disciplined stepped

end Steps

/-! ## Every run -/

variable {debugTimerTicks : Bool}

theorem disciplined_of_reachable (reachable : Reachable Initial (Step debugTimerTicks) system) :
    system.Disciplined := by
  apply Reachable.invariant _ _ reachable
  · intro state initial
    exact disciplined_initial initial
  · intro state event next disciplined stepped
    have live : state.spinning = none := by
      cases spinning : state.spinning with
      | none => rfl
      | some lock =>
          rw [Step, perform, spinning] at stepped
          cases stepped
    exact disciplined_step live disciplined stepped

/-- The timer interrupt spins on `SLEEPERS` when the main context holds it, on the allocator
when the main context holds that and a sleeper is due, and otherwise runs `tick` to its
end. -/
theorem perform_timerInterrupt_of_reachable
    (reachable : Reachable Initial (Step debugTimerTicks) system)
    (live : system.spinning = none) (enabled : system.cpu.interruptsEnabled = true) :
    system.perform debugTimerTicks .timerInterrupt =
      if .sleepers ∈ system.cpu.held then some { system with spinning := some .sleepers }
      else if .allocator ∈ system.cpu.held ∧ system.timer.tick.2 ≠ [] then
        some { system with spinning := some .allocator }
      else some { system with timer := system.timer.tick.1 } := by
  rw [perform_of_live live]
  exact interrupt_timer (disciplined_of_reachable reachable) enabled debugTimerTicks

theorem timer_interrupt_spins_on_main_lock (debugTimerTicks : Bool) :
    (∃ system : KernelSystem Nat, Reachable Initial (Step debugTimerTicks) system ∧
      system.cpu = ⟨[.sleepers], true⟩ ∧ system.spinning = none ∧
      system.perform debugTimerTicks .timerInterrupt =
        some { system with spinning := some .sleepers }) ∧
    (∃ system : KernelSystem Nat, Reachable Initial (Step debugTimerTicks) system ∧
      system.cpu = ⟨[.allocator], true⟩ ∧ system.spinning = none ∧
      system.perform debugTimerTicks .timerInterrupt =
        some { system with spinning := some .allocator }) := by
  have insidePoll : (run (perform debugTimerTicks) ⟨mainBoot, initLocks, none, ⟨0, []⟩, 0, [], none⟩
      [.step, .step, .step, .sleepTicks 1, .sleepPoll ⟨1⟩ 0, .sleepersLock]).map
        (fun system => (system.cpu, system.spinning)) = some (⟨[.sleepers], true⟩, none) := by
    cases debugTimerTicks <;> decide
  have insideAlloc : (run (perform debugTimerTicks) ⟨mainBoot, initLocks, none, ⟨0, []⟩, 0, [], none⟩
      [.step, .step, .step, .sleepTicks 1, .sleepPoll ⟨1⟩ 0, .sleepersLock, .step, .step, .step,
        .allocate, .step]).map
        (fun system => (system.cpu, system.spinning, system.timer)) =
      some (⟨[.allocator], true⟩, none, ⟨0, [⟨1, 0⟩]⟩) := by
    cases debugTimerTicks <;> decide
  constructor
  · obtain ⟨system, final, projected⟩ := Option.map_eq_some_iff.mp insidePoll
    simp only [Prod.mk.injEq] at projected
    obtain ⟨cpu, live⟩ := projected
    have reachable : Reachable Initial (Step debugTimerTicks) system :=
      reachable_of_run (fun _ _ _ performed => performed) (Reachable.init rfl) final
    have enabled : system.cpu.interruptsEnabled = true := by rw [cpu]
    have sleepersHeld : .sleepers ∈ system.cpu.held := by
      rw [cpu]
      exact List.mem_singleton_self _
    refine ⟨system, reachable, cpu, live, ?_⟩
    rw [perform_timerInterrupt_of_reachable reachable live enabled, if_pos sleepersHeld]
  · obtain ⟨system, final, projected⟩ := Option.map_eq_some_iff.mp insideAlloc
    simp only [Prod.mk.injEq] at projected
    obtain ⟨cpu, live, timer⟩ := projected
    have reachable : Reachable Initial (Step debugTimerTicks) system :=
      reachable_of_run (fun _ _ _ performed => performed) (Reachable.init rfl) final
    have enabled : system.cpu.interruptsEnabled = true := by rw [cpu]
    have sleepersFree : .sleepers ∉ system.cpu.held := by
      rw [cpu]
      decide
    have registered : (⟨1, 0⟩ : SleeperEntry Nat) ∈ system.timer.sleepers := by
      rw [timer]
      exact List.mem_singleton_self _
    have reached : (⟨1, 0⟩ : SleeperEntry Nat).wakeTick ≤ system.timer.currentTick + 1 := by
      simp [timer]
    have due : .allocator ∈ system.cpu.held ∧ system.timer.tick.2 ≠ [] := by
      refine ⟨?_, List.ne_nil_of_mem (Timer.waker_mem_tick registered reached)⟩
      rw [cpu]
      exact List.mem_singleton_self _
    refine ⟨system, reachable, cpu, live, ?_⟩
    rw [perform_timerInterrupt_of_reachable reachable live enabled, if_neg sleepersFree,
      if_pos due]

end KernelSystem

end OsByRust
