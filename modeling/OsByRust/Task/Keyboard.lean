import OsByRust.Input.Keyboard
import OsByRust.Lib.Transition

/-!
# The scancode stream

`src/task/keyboard.rs`. The keyboard task reads scancodes through `ScancodeStream`, whose
`poll_next` pops the queue; when it is empty it registers the task's waker in
`KEYBOARD_WAKER` and pops again, so that a scancode pushed between the two pops is not
missed; if the second pop finds one it clears the waker again.

The keyboard interrupt runs `push_keyboard_scancode` to completion between any two steps of
`poll_next`. `KeyboardSystem` is the input statics, the position of the consumer inside
`poll_next`, and whether the consumer is parked: its last `poll_next` returned `Pending`
and its waker has not been woken since. The consumer's waker is fixed: the waker of the task
that owns the stream, of which there is one, since a second `ScancodeStream::new` panics in
`init_keyboard_input`.
-/

namespace OsByRust

/-- The position of the consumer in `ScancodeStream::poll_next`. -/
inductive PollNextPosition where
  /-- Outside `poll_next`. -/
  | idle
  /-- The first pop found nothing; `register_keyboard_waker` is next. -/
  | registering
  /-- The waker is registered; the second pop is next. -/
  | rechecking
  /-- The second pop found a scancode; `clear_keyboard_waker` is next. -/
  | clearing
  deriving DecidableEq, Repr

/-- The steps of `poll_next` and of the keyboard interrupt. -/
inductive KeyboardEvent where
  | firstPop
  | register
  | secondPop
  | clear
  | interrupt (scancode : UInt8)
  deriving DecidableEq, Repr

/-- The input statics, the consumer's position and whether it is parked. -/
structure KeyboardSystem (W : Type) where
  input : Input W
  position : PollNextPosition
  parked : Bool

namespace KeyboardSystem

open Transition Input

variable {W : Type}

/-- The consumer outside `poll_next`, not parked, over any input statics. -/
def Initial (system : KeyboardSystem W) : Prop :=
  system.position = .idle ∧ system.parked = false

/-- A parked consumer waits outside `poll_next` on an empty queue with its waker
registered; between its registration and its second pop, the waker is still registered or
the queue has a scancode. -/
structure Watched (waker : W) (system : KeyboardSystem W) : Prop where
  parked_idle : system.parked = true → system.position = .idle
  parked_empty : system.parked = true → system.input.queued = []
  parked_registered : system.parked = true → system.input.keyboardWaker = some waker
  rechecking : system.position = .rechecking →
    system.input.keyboardWaker = some waker ∨ system.input.queued ≠ []

/-- A consumer that is not parked is watched as soon as its recheck is. -/
theorem watched_of_not_parked {waker : W} {system : KeyboardSystem W}
    (notParked : system.parked = false)
    (rechecking : system.position = .rechecking →
      system.input.keyboardWaker = some waker ∨ system.input.queued ≠ []) :
    system.Watched waker := by
  have never : system.parked = true → False := by
    intro parked
    rw [notParked] at parked
    cases parked
  refine ⟨?_, ?_, ?_, rechecking⟩
  · intro parked
    exact (never parked).elim
  · intro parked
    exact (never parked).elim
  · intro parked
    exact (never parked).elim

/-- Only a consumer outside `poll_next` is parked. -/
theorem Watched.not_parked {waker : W} {system : KeyboardSystem W}
    (watched : system.Watched waker) (busy : system.position ≠ .idle) :
    system.parked = false := by
  cases parked : system.parked
  · rfl
  · exact absurd (watched.parked_idle parked) busy

theorem watched_initial {waker : W} {system : KeyboardSystem W} (initial : Initial system) :
    system.Watched waker := by
  rcases initial with ⟨idle, notParked⟩
  apply watched_of_not_parked notParked
  intro rechecking
  rw [idle] at rechecking
  cases rechecking

variable [DecidableEq W]

/-- The state after one step, for a consumer whose task has `waker`. -/
def perform (policy : InputPolicy) (waker : W) (system : KeyboardSystem W) :
    KeyboardEvent → Option (KeyboardSystem W)
  | .firstPop =>
      match system.position with
      | .idle =>
          match popKeyboardScancode system.input with
          | (some _, input) => some ⟨input, .idle, false⟩
          | (none, input) => some ⟨input, .registering, false⟩
      | _ => none
  | .register =>
      match system.position with
      | .registering => some { system with
          input := registerKeyboardWaker waker system.input, position := .rechecking }
      | _ => none
  | .secondPop =>
      match system.position with
      | .rechecking =>
          match popKeyboardScancode system.input with
          | (some _, input) => some { system with input := input, position := .clearing }
          | (none, input) => some ⟨input, .idle, true⟩
      | _ => none
  | .clear =>
      match system.position with
      | .clearing => some { system with
          input := clearKeyboardWaker system.input, position := .idle }
      | _ => none
  | .interrupt scancode =>
      match pushKeyboardScancode policy scancode system.input with
      | (input, woken) => some { system with
          input := input, parked := system.parked && woken != some waker }

def Step (policy : InputPolicy) (waker : W) (system : KeyboardSystem W) (event : KeyboardEvent)
    (next : KeyboardSystem W) : Prop :=
  system.perform policy waker event = some next

variable {policy : InputPolicy} {waker : W}

/-- The first pop leaves the consumer unparked and short of its second pop: nothing is left
to watch. -/
theorem watched_firstPop {system next : KeyboardSystem W}
    (step : Step policy waker system .firstPop next) : next.Watched waker := by
  simp only [Step, perform] at step
  split at step
  · -- Whatever the pop finds, the consumer is not parked and not rechecking afterwards.
    split at step
    · cases step
      apply watched_of_not_parked rfl
      intro rechecking
      cases rechecking
    · cases step
      apply watched_of_not_parked rfl
      intro rechecking
      cases rechecking
  · cases step

theorem watched_register {system next : KeyboardSystem W} (watched : system.Watched waker)
    (step : Step policy waker system .register next) : next.Watched waker := by
  simp only [Step, perform] at step
  split at step
  · rename_i registering
    cases step
    have notParked := watched.not_parked (by rw [registering]; intro same; cases same)
    refine watched_of_not_parked notParked ?_
    intro _
    exact Or.inl rfl
  · cases step

theorem watched_secondPop {system next : KeyboardSystem W} (watched : system.Watched waker)
    (step : Step policy waker system .secondPop next) : next.Watched waker := by
  simp only [Step, perform] at step
  split at step
  · rename_i rechecking
    obtain ⟨front, rest, -, sameWaker, -⟩ := popKeyboardScancode_refines system.input
    have notParked := watched.not_parked (by rw [rechecking]; intro same; cases same)
    split at step
    · -- A scancode was there: `clear_keyboard_waker` comes next, nothing is parked.
      cases step
      refine watched_of_not_parked notParked ?_
      intro clearing
      cases clearing
    · -- The queue is empty after the registration: the waker is still in the slot.
      rename_i nothing input popped
      cases step
      have emptyQueue : system.input.queued = [] := by
        rw [popped] at front
        exact List.head?_eq_none_iff.mp front.symm
      have registered : system.input.keyboardWaker = some waker := by
        rcases watched.rechecking rechecking with registered | nonempty
        · exact registered
        · exact absurd emptyQueue nonempty
      rw [popped] at rest sameWaker
      refine ⟨fun _ => rfl, ?_, ?_, ?_⟩
      · intro _
        rw [rest, emptyQueue]
        rfl
      · intro _
        rw [sameWaker, registered]
      · intro position
        cases position
  · cases step

theorem watched_clear {system next : KeyboardSystem W} (watched : system.Watched waker)
    (step : Step policy waker system .clear next) : next.Watched waker := by
  simp only [Step, perform] at step
  split at step
  · rename_i clearing
    cases step
    have notParked := watched.not_parked (by rw [clearing]; intro same; cases same)
    refine watched_of_not_parked notParked ?_
    intro idle
    cases idle
  · cases step

/-- The keyboard interrupt either changes nothing the consumer watches, or queues a
scancode and wakes the registered waker, which unparks a parked consumer. -/
theorem watched_interrupt {system next : KeyboardSystem W} {scancode : UInt8}
    (watched : system.Watched waker) (step : Step policy waker system (.interrupt scancode) next) :
    next.Watched waker := by
  simp only [Step, perform, Option.some.injEq] at step
  subst step
  rcases pushKeyboardScancode_effect policy scancode system.input with
    ⟨sameQueued, sameWaker, nothingWoken⟩ | ⟨nonempty, emptied, woken⟩
  · rw [nothingWoken]
    refine ⟨?_, ?_, ?_, ?_⟩
    · intro parked
      simp only [Bool.and_eq_true] at parked
      exact watched.parked_idle parked.1
    · intro parked
      simp only [Bool.and_eq_true] at parked
      rw [sameQueued]
      exact watched.parked_empty parked.1
    · intro parked
      simp only [Bool.and_eq_true] at parked
      rw [sameWaker]
      exact watched.parked_registered parked.1
    · intro rechecking
      rw [sameQueued, sameWaker]
      exact watched.rechecking rechecking
  · -- A queued scancode wakes the registered waker: if it is the consumer's, the consumer is
    have unparked : (system.parked && (pushKeyboardScancode policy scancode system.input).2 !=
        some waker) = false := by
      cases parked : system.parked
      · rfl
      · rw [woken, watched.parked_registered parked]
        simp
    refine ⟨?_, ?_, ?_, ?_⟩
    · intro parked
      rw [unparked] at parked
      cases parked
    · intro parked
      rw [unparked] at parked
      cases parked
    · intro parked
      rw [unparked] at parked
      cases parked
    · intro _
      exact Or.inr nonempty

theorem watched_step {system next : KeyboardSystem W} {event : KeyboardEvent}
    (watched : system.Watched waker) (step : Step policy waker system event next) :
    next.Watched waker := by
  cases event with
  | firstPop => exact watched_firstPop step
  | register => exact watched_register watched step
  | secondPop => exact watched_secondPop watched step
  | clear => exact watched_clear watched step
  | interrupt scancode => exact watched_interrupt watched step

theorem watched_of_reachable {system : KeyboardSystem W}
    (reachable : Reachable Initial (Step policy waker) system) : system.Watched waker := by
  apply reachable.invariant
  · intro start initial
    exact watched_initial initial
  · intro state event next watched step
    exact watched_step watched step

/-- Whenever the consumer is parked, the queue is empty and `KEYBOARD_WAKER` holds its
waker; so a push that leaves a scancode in the queue wakes it, and no accepted scancode waits
in the queue while the consumer is parked with no wake pending. -/
theorem keyboard_parked_consumer_registered (policy : InputPolicy) (waker : W)
    {system : KeyboardSystem W} (reachable : Reachable Initial (Step policy waker) system)
    (parked : system.parked = true) :
    system.input.queued = [] ∧ system.input.keyboardWaker = some waker ∧
      ∀ scancode, (pushKeyboardScancode policy scancode system.input).1.queued ≠ [] →
        (pushKeyboardScancode policy scancode system.input).2 = some waker := by
  have watched : system.Watched waker := watched_of_reachable reachable
  have emptyQueue := watched.parked_empty parked
  have registered := watched.parked_registered parked
  refine ⟨emptyQueue, registered, ?_⟩
  intro scancode queuedNow
  rcases pushKeyboardScancode_effect policy scancode system.input with
    ⟨sameQueued, -, -⟩ | ⟨-, -, woken⟩
  · rw [sameQueued] at queuedNow
    exact absurd emptyQueue queuedNow
  · rw [woken, registered]

/-- A consumer whose two pops find an empty queue parks with its waker registered. -/
theorem keyboard_parked_consumer_registered_after_poll :
    ∃ system : KeyboardSystem Nat, Reachable Initial (Step .dropNew 0) system ∧
      system.parked = true ∧ system.input.queued = [] ∧ system.input.keyboardWaker = some 0 := by
  have initial : Initial (⟨⟨some .empty, none, 0, 0⟩, .idle, false⟩ : KeyboardSystem Nat) :=
    ⟨rfl, rfl⟩
  have replayed : (run (perform .dropNew 0) ⟨⟨some .empty, none, 0, 0⟩, .idle, false⟩
      [.firstPop, .register, .secondPop]).map KeyboardSystem.parked = some true := by
    decide
  obtain ⟨system, final, parked⟩ := Option.map_eq_some_iff.mp replayed
  have reachable := reachable_of_run (fun _ _ _ performed => performed)
    (Reachable.init initial) final
  obtain ⟨emptyQueue, registered, -⟩ :=
    keyboard_parked_consumer_registered .dropNew 0 reachable parked
  exact ⟨system, reachable, parked, emptyQueue, registered⟩

end KeyboardSystem

end OsByRust
