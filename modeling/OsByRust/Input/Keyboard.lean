import OsByRust.Lib.BoundedQueue

/-!
# The keyboard input queue

`src/input.rs`. The keyboard interrupt hands each scancode to `push_keyboard_scancode`,
which queues it in `KEYBOARD_SCANCODE_QUEUE` once `init_keyboard_input` has created the
queue, and counts it in `UNINITIALIZED_SCANCODE_COUNT` before. A push onto a full queue
follows the policy chosen by the cargo features: `input-drop-new` (the default, and the
behaviour when neither feature is on) discards the new scancode and counts it in
`DROPPED_SCANCODE_COUNT`; `input-drop-old` pops the oldest entry and pushes again. An
accepted scancode wakes the waker registered in `KEYBOARD_WAKER`.

The queue is `OnceCell<ArrayQueue<u8>>`: `none` until initialised. `KEYBOARD_WAKER` is an
`AtomicWaker`, a single slot: `register` stores a waker in place of any earlier one, `take`
empties the slot, and `wake` takes the waker out and wakes it. Wakers come from a type
`W`. The counters are `AtomicU64`s, whose `fetch_add` wraps.
-/

namespace OsByRust

/-- `KEYBOARD_SCANCODE_QUEUE_CAPACITY`. -/
def keyboardScancodeQueueCapacity : Nat := 100

/-- What a push onto a full queue does, as chosen by the features `input-drop-new` and
`input-drop-old` (which may not be enabled together). -/
inductive InputPolicy where
  | dropNew
  | dropOld
  deriving DecidableEq, Repr

/-- The statics of `src/input.rs`. -/
structure Input (W : Type) where
  keyboardScancodeQueue : Option (BoundedQueue UInt8 keyboardScancodeQueueCapacity)
  keyboardWaker : Option W
  droppedScancodeCount : UInt64
  uninitializedScancodeCount : UInt64

namespace Input

variable {W : Type}

/-- The statics at boot. -/
def boot : Input W := ⟨none, none, 0, 0⟩

/-- `init_keyboard_input`: `none` when the queue already exists, where `expect` panics. -/
def initKeyboardInput (input : Input W) : Option (Input W) :=
  match input.keyboardScancodeQueue with
  | none => some { input with keyboardScancodeQueue := some .empty }
  | some _ => none

/-- `KEYBOARD_WAKER.wake()`: the slot is emptied and its waker, if any, is woken. -/
def wakeKeyboardWaker (input : Input W) : Input W × Option W :=
  ({ input with keyboardWaker := none }, input.keyboardWaker)

/-- `handle_scancode_with_drop_new`: the input afterwards and the waker it wakes. -/
def handleScancodeWithDropNew (queue : BoundedQueue UInt8 keyboardScancodeQueueCapacity)
    (scancode : UInt8) (input : Input W) : Input W × Option W :=
  match queue.push scancode with
  | some pushed => wakeKeyboardWaker { input with keyboardScancodeQueue := some pushed }
  | none => ({ input with droppedScancodeCount := input.droppedScancodeCount + 1 }, none)

/-- `handle_scancode_with_drop_old`: on a full queue, pop the oldest entry and push again. -/
def handleScancodeWithDropOld (queue : BoundedQueue UInt8 keyboardScancodeQueueCapacity)
    (scancode : UInt8) (input : Input W) : Input W × Option W :=
  match queue.push scancode with
  | some pushed => wakeKeyboardWaker { input with keyboardScancodeQueue := some pushed }
  | none =>
      match queue.pop.2.push scancode with
      | some pushed => wakeKeyboardWaker { input with keyboardScancodeQueue := some pushed }
      | none =>
          ({ input with
              keyboardScancodeQueue := some queue.pop.2
              droppedScancodeCount := input.droppedScancodeCount + 1 }, none)

/-- `push_keyboard_scancode` under a policy: the input afterwards and the waker it wakes. -/
def pushKeyboardScancode (policy : InputPolicy) (scancode : UInt8) (input : Input W) :
    Input W × Option W :=
  match input.keyboardScancodeQueue with
  | some queue =>
      match policy with
      | .dropOld => handleScancodeWithDropOld queue scancode input
      | .dropNew => handleScancodeWithDropNew queue scancode input
  | none =>
      ({ input with uninitializedScancodeCount := input.uninitializedScancodeCount + 1 }, none)

/-- `pop_keyboard_scancode`. -/
def popKeyboardScancode (input : Input W) : Option UInt8 × Input W :=
  match input.keyboardScancodeQueue with
  | some queue => (queue.pop.1, { input with keyboardScancodeQueue := some queue.pop.2 })
  | none => (none, input)

/-- `register_keyboard_waker`. -/
def registerKeyboardWaker (waker : W) (input : Input W) : Input W :=
  { input with keyboardWaker := some waker }

/-- `clear_keyboard_waker`. -/
def clearKeyboardWaker (input : Input W) : Input W := { input with keyboardWaker := none }

/-- `reset_counters_for_test`. -/
def resetCountersForTest (input : Input W) : Input W :=
  { input with droppedScancodeCount := 0, uninitializedScancodeCount := 0 }

/-- The scancodes in the queue, none before it exists. -/
def queued (input : Input W) : List UInt8 :=
  match input.keyboardScancodeQueue with
  | some queue => queue.items
  | none => []

@[simp]
theorem queued_of_some {input : Input W}
    {queue : BoundedQueue UInt8 keyboardScancodeQueueCapacity} (initialised : input.keyboardScancodeQueue = some queue) : input.queued = queue.items := by
  simp [queued, initialised]

/-- The queue never holds more than its capacity. -/
theorem queued_length_le (input : Input W) :
    input.queued.length ≤ keyboardScancodeQueueCapacity := by
  cases initialised : input.keyboardScancodeQueue with
  | none => simp [queued, initialised]
  | some queue =>
      rw [queued_of_some initialised]
      exact queue.length_le

/-- Before `init_keyboard_input` a push is only counted. -/
theorem pushKeyboardScancode_of_none {input : Input W}
    (uninitialised : input.keyboardScancodeQueue = none) (policy : InputPolicy) (scancode : UInt8) :
    pushKeyboardScancode policy scancode input =
      ({ input with uninitializedScancodeCount := input.uninitializedScancodeCount + 1 }, none) := by
  simp [pushKeyboardScancode, uninitialised]

/-- Into a queue with room, both policies queue the scancode and wake the registered
waker. -/
theorem pushKeyboardScancode_of_room {input : Input W}
    {queue : BoundedQueue UInt8 keyboardScancodeQueueCapacity}
    (initialised : input.keyboardScancodeQueue = some queue)
    (room : queue.items.length < keyboardScancodeQueueCapacity) (policy : InputPolicy)
    (scancode : UInt8) :
    ∃ pushed : BoundedQueue UInt8 keyboardScancodeQueueCapacity,
      pushed.items = queue.items ++ [scancode] ∧
      pushKeyboardScancode policy scancode input =
        ({ input with keyboardScancodeQueue := some pushed, keyboardWaker := none },
          input.keyboardWaker) := by
  rcases queue.push_cases scancode with ⟨pushed, accepted, items⟩ | ⟨-, full⟩
  · refine ⟨pushed, items, ?_⟩
    cases policy <;>
      simp [pushKeyboardScancode, initialised, handleScancodeWithDropNew,
        handleScancodeWithDropOld, accepted, wakeKeyboardWaker]
  · omega

/-- Under `input-drop-new` a push onto a full queue is discarded and counted. -/
theorem pushKeyboardScancode_dropNew_of_full {input : Input W}
    {queue : BoundedQueue UInt8 keyboardScancodeQueueCapacity}
    (initialised : input.keyboardScancodeQueue = some queue)
    (full : queue.items.length = keyboardScancodeQueueCapacity) (scancode : UInt8) :
    pushKeyboardScancode .dropNew scancode input =
      ({ input with droppedScancodeCount := input.droppedScancodeCount + 1 }, none) := by
  have rejected : queue.push scancode = none := BoundedQueue.push_eq_none_iff.mpr full
  simp [pushKeyboardScancode, initialised, handleScancodeWithDropNew, rejected]

/-- Under `input-drop-old` a push onto a full queue evicts the oldest entry and is queued:
after the pop the queue has room, so the branch that counts a drop is never taken. -/
theorem pushKeyboardScancode_dropOld_of_full {input : Input W}
    {queue : BoundedQueue UInt8 keyboardScancodeQueueCapacity}
    (initialised : input.keyboardScancodeQueue = some queue)
    (full : queue.items.length = keyboardScancodeQueueCapacity) (scancode : UInt8) :
    ∃ pushed : BoundedQueue UInt8 keyboardScancodeQueueCapacity,
      pushed.items = queue.items.tail ++ [scancode] ∧
      pushKeyboardScancode .dropOld scancode input =
        ({ input with keyboardScancodeQueue := some pushed, keyboardWaker := none },
          input.keyboardWaker) := by
  have rejected : queue.push scancode = none := BoundedQueue.push_eq_none_iff.mpr full
  have room : queue.pop.2.items.length < keyboardScancodeQueueCapacity := by
    rw [BoundedQueue.pop_snd_items, List.length_tail, full]
    decide
  rcases queue.pop.2.push_cases scancode with ⟨pushed, accepted, items⟩ | ⟨-, stillFull⟩
  · refine ⟨pushed, by rw [items, BoundedQueue.pop_snd_items], ?_⟩
    simp [pushKeyboardScancode, initialised, handleScancodeWithDropOld, rejected, accepted,
      wakeKeyboardWaker]
  · omega

theorem popKeyboardScancode_of_some {input : Input W}
    {queue : BoundedQueue UInt8 keyboardScancodeQueueCapacity}
    (initialised : input.keyboardScancodeQueue = some queue) :
    popKeyboardScancode input =
      (queue.items.head?, { input with keyboardScancodeQueue := some queue.pop.2 }) := by
  simp [popKeyboardScancode, initialised]

theorem popKeyboardScancode_of_none {input : Input W}
    (uninitialised : input.keyboardScancodeQueue = none) :
    popKeyboardScancode input = (none, input) := by
  simp [popKeyboardScancode, uninitialised]

end Input

/-- The overflow policy of the bounded FIFO each feature selects. -/
def InputPolicy.overflow : InputPolicy → Overflow
  | .dropNew => .rejectNew
  | .dropOld => .evictOldest

namespace Input

variable {W : Type}

/-- Once the queue exists, a push is an `offer` to a bounded FIFO of
`KEYBOARD_SCANCODE_QUEUE_CAPACITY` entries under the policy's overflow: a rejected scancode
is counted in `DROPPED_SCANCODE_COUNT`, an accepted one wakes the registered waker. -/
theorem pushKeyboardScancode_refines {input : Input W}
    {queue : BoundedQueue UInt8 keyboardScancodeQueueCapacity}
    (initialised : input.keyboardScancodeQueue = some queue) (policy : InputPolicy)
    (scancode : UInt8) :
    (pushKeyboardScancode policy scancode input).1.queued =
        (offer policy.overflow keyboardScancodeQueueCapacity input.queued scancode).1 ∧
      (pushKeyboardScancode policy scancode input).1.keyboardScancodeQueue.isSome ∧
      (pushKeyboardScancode policy scancode input).1.droppedScancodeCount =
        (if (offer policy.overflow keyboardScancodeQueueCapacity input.queued scancode).2
          then input.droppedScancodeCount else input.droppedScancodeCount + 1) ∧
      (pushKeyboardScancode policy scancode input).1.uninitializedScancodeCount =
        input.uninitializedScancodeCount := by
  rw [queued_of_some initialised]
  by_cases room : queue.items.length < keyboardScancodeQueueCapacity
  · obtain ⟨pushed, items, pushedOk⟩ := pushKeyboardScancode_of_room initialised room policy scancode
    rw [pushedOk, offer_of_lt room]
    simp [queued, items]
  · have full : queue.items.length = keyboardScancodeQueueCapacity := by
      have := queue.length_le
      omega
    cases policy with
    | dropNew =>
        rw [pushKeyboardScancode_dropNew_of_full initialised full,
          InputPolicy.overflow, offer_rejectNew_of_le (Nat.le_of_eq full.symm)]
        simp [queued, initialised]
    | dropOld =>
        obtain ⟨pushed, items, pushedOk⟩ := pushKeyboardScancode_dropOld_of_full initialised full scancode
        rw [pushedOk, InputPolicy.overflow, offer_evictOldest_of_le (Nat.le_of_eq full.symm)]
        simp [queued, items]

/-- A push either leaves the queue and the waker slot as they were and wakes nothing, or
queues the scancode and wakes the registered waker. -/
theorem pushKeyboardScancode_effect (policy : InputPolicy) (scancode : UInt8) (input : Input W) :
    ((pushKeyboardScancode policy scancode input).1.queued = input.queued ∧
      (pushKeyboardScancode policy scancode input).1.keyboardWaker = input.keyboardWaker ∧
      (pushKeyboardScancode policy scancode input).2 = none) ∨
    ((pushKeyboardScancode policy scancode input).1.queued ≠ [] ∧
      (pushKeyboardScancode policy scancode input).1.keyboardWaker = none ∧
      (pushKeyboardScancode policy scancode input).2 = input.keyboardWaker) := by
  cases initialised : input.keyboardScancodeQueue with
  | none =>
      left
      rw [pushKeyboardScancode_of_none initialised]
      simp [queued, initialised]
  | some queue =>
      by_cases room : queue.items.length < keyboardScancodeQueueCapacity
      · right
        obtain ⟨pushed, items, pushedOk⟩ :=
          pushKeyboardScancode_of_room initialised room policy scancode
        rw [pushedOk]
        simp [queued, items]
      · have full : queue.items.length = keyboardScancodeQueueCapacity := by
          have := queue.length_le
          omega
        cases policy with
        | dropNew =>
            left
            rw [pushKeyboardScancode_dropNew_of_full initialised full]
            simp [queued, initialised]
        | dropOld =>
            right
            obtain ⟨pushed, items, pushedOk⟩ :=
              pushKeyboardScancode_dropOld_of_full initialised full scancode
            rw [pushedOk]
            simp [queued, items]

/-- A pop takes the front of the queue, and finds nothing before the queue exists. -/
theorem popKeyboardScancode_refines (input : Input W) :
    (popKeyboardScancode input).1 = input.queued.head? ∧
      (popKeyboardScancode input).2.queued = input.queued.tail ∧
      (popKeyboardScancode input).2.keyboardScancodeQueue.isSome =
        input.keyboardScancodeQueue.isSome ∧
      (popKeyboardScancode input).2.keyboardWaker = input.keyboardWaker ∧
      (popKeyboardScancode input).2.droppedScancodeCount = input.droppedScancodeCount := by
  cases initialised : input.keyboardScancodeQueue with
  | none => simp [popKeyboardScancode, queued, initialised]
  | some queue => simp [popKeyboardScancode, queued, initialised]

end Input

end OsByRust
