import Mathlib.Data.List.Basic

/-!
# Spin locks on one CPU

Code on one CPU, seen through the spin locks it takes and the interrupt flag it sets. A
piece of code is a list of `LockStep`s; a `Cpu` records the locks held by the code that runs
and whether interrupts are enabled. A spin lock is not reentrant: an `acquire` of a lock that
is held spins for ever, since on one CPU nothing runs that could release it.

An interrupt handler runs to its end between two steps of the code it interrupts, with
interrupts disabled, on top of the locks that code holds: it spins exactly when it acquires
one of them. The rule that rules this out is the one `without_interrupts` serves: a lock that
a handler takes is held by the interrupted code only while interrupts are disabled
(`Guarded`). `Keeps` states that running a piece of code keeps such a condition at every
point where an interrupt can come; `Keeps.append`, `keeps_critical`, `keeps_criticals` and
`keeps_withoutInterrupts` build it for a piece of code from the facts for its parts, and
`Guarded.runCode_criticals` is what it buys: a handler that takes only guarded locks runs to
its end.
-/

universe u

/-- What a step of code does to the spin locks and to the interrupt flag. -/
inductive LockStep (L : Type u) where
  | acquire (lock : L)
  | release (lock : L)
  | disableInterrupts
  | enableInterrupts
  deriving DecidableEq, Repr

namespace LockStep

variable {L : Type u}

/-- A critical section under `lock`. -/
def critical (lock : L) : List (LockStep L) := [.acquire lock, .release lock]

/-- Critical sections under each of `locks` in turn. -/
def criticals (locks : List L) : List (LockStep L) := locks.flatMap critical

/-- `without_interrupts(body)` begun with the interrupt flag `enabled`: interrupts are
disabled for `body` and enabled after it again if they were enabled before. -/
def withoutInterrupts (enabled : Bool) (body : List (LockStep L)) : List (LockStep L) :=
  if enabled then .disableInterrupts :: (body ++ [.enableInterrupts]) else body

@[simp]
theorem criticals_nil : criticals ([] : List L) = [] := rfl

@[simp]
theorem criticals_cons (lock : L) (locks : List L) :
    criticals (lock :: locks) = critical lock ++ criticals locks := rfl

end LockStep

/-- One CPU as its spin locks see it. -/
structure Cpu (L : Type u) where
  held : List L
  interruptsEnabled : Bool
  deriving DecidableEq, Repr

namespace Cpu

variable {L : Type u}

/-- The CPU after taking `lock`. -/
def hold (cpu : Cpu L) (lock : L) : Cpu L := { cpu with held := lock :: cpu.held }

/-- The CPU as an interrupt handler finds it: the interrupted code's locks, with interrupts
disabled. -/
def interrupted (cpu : Cpu L) : Cpu L := { cpu with interruptsEnabled := false }

@[simp]
theorem hold_held (cpu : Cpu L) (lock : L) : (cpu.hold lock).held = lock :: cpu.held := rfl

@[simp]
theorem hold_interruptsEnabled (cpu : Cpu L) (lock : L) :
    (cpu.hold lock).interruptsEnabled = cpu.interruptsEnabled := rfl

@[simp]
theorem interrupted_held (cpu : Cpu L) : cpu.interrupted.held = cpu.held := rfl

@[simp]
theorem interrupted_interruptsEnabled (cpu : Cpu L) : cpu.interrupted.interruptsEnabled = false :=
  rfl

theorem interrupted_of_disabled {cpu : Cpu L} (disabled : cpu.interruptsEnabled = false) :
    cpu.interrupted = cpu := by
  cases cpu
  simp only [interrupted] at disabled ⊢
  rw [disabled]

section Guarded

variable (shared : L → Prop)

/-- Interrupts are disabled whenever a lock that `shared` names is held. -/
def Guarded (cpu : Cpu L) : Prop :=
  cpu.interruptsEnabled = true → ∀ lock ∈ cpu.held, ¬ shared lock

variable {shared}

theorem guarded_of_disabled {cpu : Cpu L} (disabled : cpu.interruptsEnabled = false) :
    Guarded shared cpu := by
  intro enabled
  rw [disabled] at enabled
  cases enabled

theorem guarded_of_held_nil {cpu : Cpu L} (free : cpu.held = []) : Guarded shared cpu := by
  intro _ lock lockMem
  rw [free] at lockMem
  cases lockMem

theorem Guarded.hold {cpu : Cpu L} {lock : L} (guarded : Guarded shared cpu)
    (notShared : ¬ shared lock) : Guarded shared (cpu.hold lock) := by
  intro enabled other otherMem
  rcases List.mem_cons.mp otherMem with rfl | before
  · exact notShared
  · exact guarded enabled other before

end Guarded

variable [DecidableEq L]

/-- One step of code, or the lock on which the CPU spins for ever. -/
def step (cpu : Cpu L) : LockStep L → Except L (Cpu L)
  | .acquire lock => if lock ∈ cpu.held then .error lock else .ok (cpu.hold lock)
  | .release lock => .ok { cpu with held := cpu.held.erase lock }
  | .disableInterrupts => .ok cpu.interrupted
  | .enableInterrupts => .ok { cpu with interruptsEnabled := true }

/-- Runs a piece of code to its end, or to the lock it spins on. -/
def runCode (cpu : Cpu L) (code : List (LockStep L)) : Except L (Cpu L) :=
  code.foldlM step cpu

theorem step_acquire_of_not_mem {cpu : Cpu L} {lock : L} (free : lock ∉ cpu.held) :
    cpu.step (.acquire lock) = .ok (cpu.hold lock) := by
  simp [step, free]

@[simp]
theorem step_release_hold (cpu : Cpu L) (lock : L) :
    (cpu.hold lock).step (.release lock) = .ok cpu := by
  simp [step, hold]

@[simp]
theorem runCode_nil (cpu : Cpu L) : cpu.runCode [] = .ok cpu := rfl

theorem runCode_cons (cpu : Cpu L) (first : LockStep L) (rest : List (LockStep L)) :
    cpu.runCode (first :: rest) = cpu.step first >>= fun next => next.runCode rest := rfl

theorem runCode_append (cpu : Cpu L) (first second : List (LockStep L)) :
    cpu.runCode (first ++ second) = cpu.runCode first >>= fun mid => mid.runCode second :=
  List.foldlM_append

theorem runCode_acquire_of_mem {cpu : Cpu L} {lock : L} (taken : lock ∈ cpu.held)
    (rest : List (LockStep L)) : cpu.runCode (.acquire lock :: rest) = .error lock := by
  simp [runCode_cons, step, taken]
  rfl

theorem runCode_acquire_of_not_mem {cpu : Cpu L} {lock : L} (free : lock ∉ cpu.held)
    (rest : List (LockStep L)) :
    cpu.runCode (.acquire lock :: rest) = (cpu.hold lock).runCode rest := by
  rw [runCode_cons, step_acquire_of_not_mem free]
  rfl

theorem runCode_release_hold (cpu : Cpu L) (lock : L) (rest : List (LockStep L)) :
    (cpu.hold lock).runCode (.release lock :: rest) = cpu.runCode rest := by
  rw [runCode_cons, step_release_hold]
  rfl

theorem runCode_criticals_of_not_mem {cpu : Cpu L} {locks : List L}
    (free : ∀ lock ∈ locks, lock ∉ cpu.held) (rest : List (LockStep L)) :
    cpu.runCode (LockStep.criticals locks ++ rest) = cpu.runCode rest := by
  induction locks with
  | nil => rfl
  | cons lock locks ih =>
      have freeHead : lock ∉ cpu.held := free lock (List.mem_cons_self ..)
      rw [LockStep.criticals_cons, List.append_assoc, LockStep.critical, List.cons_append,
        runCode_acquire_of_not_mem freeHead, List.singleton_append, runCode_release_hold]
      exact ih fun other otherMem => free other (List.mem_cons_of_mem _ otherMem)

theorem runCode_criticals_of_mem {cpu : Cpu L} {lock : L} (taken : lock ∈ cpu.held)
    (locks : List L) (rest : List (LockStep L)) :
    cpu.runCode (LockStep.criticals (lock :: locks) ++ rest) = .error lock := by
  rw [LockStep.criticals_cons, List.append_assoc, LockStep.critical, List.cons_append]
  exact runCode_acquire_of_mem taken _

section Keeps

variable (good : Cpu L → Prop)

/-- Running `code` from `cpu` never spins, meets `good` before every step, where an interrupt
can come, and ends in `final`. -/
def Keeps : Cpu L → List (LockStep L) → Cpu L → Prop
  | cpu, [], final => cpu = final
  | cpu, first :: rest, final => good cpu ∧ ∃ next, cpu.step first = .ok next ∧ Keeps next rest final

variable {good}

theorem keeps_nil (cpu : Cpu L) : Keeps good cpu [] cpu := rfl

theorem Keeps.eq_of_nil {cpu final : Cpu L} (keeps : Keeps good cpu [] final) : cpu = final :=
  keeps

theorem Keeps.next {cpu final : Cpu L} {first : LockStep L} {rest : List (LockStep L)}
    (keeps : Keeps good cpu (first :: rest) final) :
    ∃ next, cpu.step first = .ok next ∧ Keeps good next rest final :=
  keeps.2

/-- `good` holds where the code begins, if it holds where the code ends. -/
theorem Keeps.good_start {cpu final : Cpu L} {code : List (LockStep L)}
    (keeps : Keeps good cpu code final) (goodFinal : good final) : good cpu := by
  cases code with
  | nil =>
      rw [keeps.eq_of_nil]
      exact goodFinal
  | cons first rest => exact keeps.1

/-- The rule for sequencing. -/
theorem Keeps.append {cpu mid final : Cpu L} {first second : List (LockStep L)}
    (keepsFirst : Keeps good cpu first mid) (keepsSecond : Keeps good mid second final) :
    Keeps good cpu (first ++ second) final := by
  induction first generalizing cpu with
  | nil =>
      rw [keepsFirst.eq_of_nil]
      exact keepsSecond
  | cons step rest ih =>
      obtain ⟨goodHere, next, stepped, keepsRest⟩ := keepsFirst
      exact ⟨goodHere, next, stepped, ih keepsRest⟩

/-- The rule for a critical section under a free lock. -/
theorem keeps_critical {cpu : Cpu L} {lock : L} (free : lock ∉ cpu.held) (goodBefore : good cpu)
    (goodInside : good (cpu.hold lock)) : Keeps good cpu (LockStep.critical lock) cpu := by
  refine ⟨goodBefore, cpu.hold lock, step_acquire_of_not_mem free, goodInside, cpu, ?_, rfl⟩
  exact step_release_hold cpu lock

theorem keeps_criticals {cpu : Cpu L} {locks : List L} (free : ∀ lock ∈ locks, lock ∉ cpu.held)
    (goodBefore : good cpu) (goodInside : ∀ lock ∈ locks, good (cpu.hold lock)) :
    Keeps good cpu (LockStep.criticals locks) cpu := by
  induction locks with
  | nil => exact keeps_nil cpu
  | cons lock locks ih =>
      rw [LockStep.criticals_cons]
      apply Keeps.append (keeps_critical (free lock (List.mem_cons_self ..)) goodBefore
        (goodInside lock (List.mem_cons_self ..)))
      apply ih
      · intro other otherMem
        exact free other (List.mem_cons_of_mem _ otherMem)
      · intro other otherMem
        exact goodInside other (List.mem_cons_of_mem _ otherMem)

/-- The rule for `without_interrupts`: its body runs with interrupts disabled, and the flag is
restored after it. -/
theorem keeps_withoutInterrupts {cpu : Cpu L} {body : List (LockStep L)} (goodBefore : good cpu)
    (goodDisabled : good cpu.interrupted)
    (keepsBody : Keeps good cpu.interrupted body cpu.interrupted) :
    Keeps good cpu (LockStep.withoutInterrupts cpu.interruptsEnabled body) cpu := by
  cases enabled : cpu.interruptsEnabled with
  | false =>
      rw [interrupted_of_disabled enabled] at keepsBody
      exact keepsBody
  | true =>
      have restored : { cpu.interrupted with interruptsEnabled := true } = cpu := by
        cases cpu
        simp only [interrupted] at enabled ⊢
        rw [enabled]
      refine ⟨goodBefore, cpu.interrupted, rfl, ?_⟩
      apply Keeps.append keepsBody
      exact ⟨goodDisabled, cpu, by rw [step, restored], rfl⟩

end Keeps

section Guarded

variable {shared : L → Prop}

/-- What the discipline buys: a handler that takes only shared locks, each for a critical
section, runs to its end on a guarded CPU with interrupts enabled and leaves it as it was. -/
theorem Guarded.runCode_criticals {cpu : Cpu L} {locks : List L} (guarded : Guarded shared cpu)
    (enabled : cpu.interruptsEnabled = true) (allShared : ∀ lock ∈ locks, shared lock) :
    cpu.interrupted.runCode (LockStep.criticals locks) = .ok cpu.interrupted := by
  have free : ∀ lock ∈ locks, lock ∉ cpu.interrupted.held := by
    intro lock lockMem taken
    exact guarded enabled lock taken (allShared lock lockMem)
  rw [← List.append_nil (LockStep.criticals locks), runCode_criticals_of_not_mem free]
  rfl

end Guarded

end Cpu
