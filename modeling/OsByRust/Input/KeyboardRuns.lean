import OsByRust.Input.Keyboard
import OsByRust.Lib.Transition

/-!
# Runs of the keyboard input queue

Any sequence of `push_keyboard_scancode`, `pop_keyboard_scancode`,
`reset_counters_for_test` and `init_keyboard_input` calls, under one policy. Besides the
statics, `InputSystem` records what the run has done since the queue was initialised: the
scancodes pushed, those the queue accepted, and those pops returned, oldest first; and,
since initialisation or the last reset, how many scancodes were pushed, popped and dropped,
and how many were queued when the count began.
-/

namespace OsByRust

/-- The statics with the history of the run since `init_keyboard_input`. -/
structure InputSystem (W : Type) where
  input : Input W
  pushed : List UInt8
  accepted : List UInt8
  popped : List UInt8
  pushesSinceReset : Nat
  poppedSinceReset : Nat
  droppedSinceReset : Nat
  queuedAtReset : Nat

/-- The calls a run is made of. -/
inductive InputEvent where
  | init
  | push (scancode : UInt8)
  | pop
  | reset
  deriving DecidableEq, Repr

/-- The scancode a call pushes. -/
def InputEvent.scancode? : InputEvent → Option UInt8
  | .push scancode => some scancode
  | _ => none

/-- The scancodes a sequence of calls pushes, in order. -/
def pushesOf (events : List InputEvent) : List UInt8 := events.filterMap InputEvent.scancode?

@[simp]
theorem pushesOf_nil : pushesOf [] = [] := rfl

theorem pushesOf_cons (event : InputEvent) (events : List InputEvent) :
    pushesOf (event :: events) = event.scancode?.toList ++ pushesOf events := by
  cases event <;> rfl

namespace InputSystem

open Transition Input

variable {W : Type}

/-- The state after one call under `policy`; `none` for a second `init_keyboard_input`,
which panics. A push the queue had room for, or any push under eviction, is accepted. -/
def perform (policy : InputPolicy) (system : InputSystem W) : InputEvent → Option (InputSystem W)
  | .init =>
      (system.input.initKeyboardInput).map fun input =>
        { system with
          input := input, pushesSinceReset := 0, poppedSinceReset := 0, droppedSinceReset := 0,
          queuedAtReset := 0 }
  | .push scancode =>
      match system.input.keyboardScancodeQueue with
      | none => some { system with input := (pushKeyboardScancode policy scancode system.input).1 }
      | some _ =>
          let accepted :=
            (offer policy.overflow keyboardScancodeQueueCapacity system.input.queued scancode).2
          some { system with
            input := (pushKeyboardScancode policy scancode system.input).1
            pushed := system.pushed ++ [scancode]
            accepted := if accepted then system.accepted ++ [scancode] else system.accepted
            pushesSinceReset := system.pushesSinceReset + 1
            droppedSinceReset :=
              if accepted then system.droppedSinceReset else system.droppedSinceReset + 1 }
  | .pop =>
      match popKeyboardScancode system.input with
      | (scancode, input) =>
          some { system with
            input := input, popped := system.popped ++ scancode.toList
            poppedSinceReset := system.poppedSinceReset + scancode.toList.length }
  | .reset =>
      some { system with
        input := resetCountersForTest system.input, pushesSinceReset := 0, poppedSinceReset := 0,
        droppedSinceReset := 0, queuedAtReset := system.input.queued.length }

def Step (policy : InputPolicy) (system : InputSystem W) (event : InputEvent)
    (next : InputSystem W) : Prop :=
  system.perform policy event = some next

/-- Boot: the statics' initial values and an empty history. -/
def Initial (system : InputSystem W) : Prop :=
  system = ⟨Input.boot, [], [], [], 0, 0, 0, 0⟩

/-- The front of a list, as a list, followed by its tail is the list. -/
private theorem head?_toList_append_tail (entries : List UInt8) :
    entries.head?.toList ++ entries.tail = entries := by
  cases entries <;> rfl

/-- What a run of the input module has done, seen as a bounded FIFO. Before the queue
exists nothing is recorded. Every accepted scancode was pushed, in order; the drop counter
counts the rejected ones since the last reset. Under `input-drop-new` the scancodes accepted
are those popped followed by those queued, and the pushes since the last reset are the
pops, the growth of the queue and the drops. Under `input-drop-old` every push is accepted,
and the queue holds the newest scancodes pushed. -/
structure BehavesAsFifo (policy : InputPolicy) (system : InputSystem W) : Prop where
  uninitialised : system.input.keyboardScancodeQueue = none →
    system.pushed = [] ∧ system.accepted = [] ∧ system.popped = [] ∧
      system.pushesSinceReset = 0 ∧ system.poppedSinceReset = 0 ∧
      system.droppedSinceReset = 0 ∧ system.queuedAtReset = 0
  accepted_sublist : system.accepted.Sublist system.pushed
  dropped_counted : system.input.droppedScancodeCount = UInt64.ofNat system.droppedSinceReset
  rejectNew_fifo : policy.overflow = .rejectNew →
    system.accepted = system.popped ++ system.input.queued
  rejectNew_accounted : policy.overflow = .rejectNew →
    system.pushesSinceReset + system.queuedAtReset =
      system.poppedSinceReset + system.input.queued.length + system.droppedSinceReset
  evictOldest_newest : policy.overflow = .evictOldest →
    system.accepted = system.pushed ∧ system.input.queued <:+ system.pushed ∧
      (system.popped ++ system.input.queued).Sublist system.pushed

variable {policy : InputPolicy}

theorem behavesAsFifo_initial {system : InputSystem W} (initial : Initial system) :
    system.BehavesAsFifo policy := by
  subst initial
  refine ⟨?_, List.Sublist.refl _, rfl, ?_, ?_, ?_⟩
  · intro _
    simp
  · intro _
    simp [Input.boot, queued]
  · intro _
    simp [Input.boot, queued]
  · intro _
    simp [Input.boot, queued]

theorem behavesAsFifo_init {system next : InputSystem W}
    (behaves : system.BehavesAsFifo policy) (step : Step policy system .init next) :
    next.BehavesAsFifo policy := by
  simp only [Step, perform, Option.map_eq_some_iff] at step
  obtain ⟨input, initialised, rfl⟩ := step
  cases wasNone : system.input.keyboardScancodeQueue with
  | some queue =>
      simp [initKeyboardInput, wasNone] at initialised
  | none =>
      simp only [initKeyboardInput, wasNone, Option.some.injEq] at initialised
      subst initialised
      obtain ⟨noPushes, noAccepted, noPops, -, -, noDrops, -⟩ := behaves.uninitialised wasNone
      have emptied : ({ system.input with keyboardScancodeQueue := some .empty } : Input W).queued =
          [] := rfl
      refine ⟨?_, ?_, ?_, ?_, ?_, ?_⟩
      · intro isNone
        cases isNone
      · exact behaves.accepted_sublist
      · rw [← noDrops]
        exact behaves.dropped_counted
      · intro _
        rw [emptied, noAccepted, noPops]
        rfl
      · intro _
        rw [emptied]
        rfl
      · intro _
        rw [emptied, noAccepted, noPushes, noPops]
        exact ⟨rfl, List.suffix_refl _, List.Sublist.refl _⟩

theorem behavesAsFifo_push {system next : InputSystem W} {scancode : UInt8}
    (behaves : system.BehavesAsFifo policy) (step : Step policy system (.push scancode) next) :
    next.BehavesAsFifo policy := by
  simp only [Step, perform] at step
  split at step
  · -- Before the queue exists the push is only counted.
    rename_i uninitialised
    cases step
    rw [pushKeyboardScancode_of_none uninitialised]
    have counted := behaves.uninitialised uninitialised
    refine ⟨fun _ => counted, behaves.accepted_sublist, behaves.dropped_counted, ?_, ?_, ?_⟩
    · intro rejecting
      simpa [queued, uninitialised] using behaves.rejectNew_fifo rejecting
    · intro rejecting
      simpa [queued, uninitialised] using behaves.rejectNew_accounted rejecting
    · intro evicting
      simpa [queued, uninitialised] using behaves.evictOldest_newest evicting
  · rename_i queue initialised
    cases step
    obtain ⟨offered, stillSome, dropped, -⟩ :=
      pushKeyboardScancode_refines initialised policy scancode
    refine ⟨?_, ?_, ?_, ?_, ?_, ?_⟩
    · intro isNone
      rw [isNone] at stillSome
      cases stillSome
    · split
      · exact behaves.accepted_sublist.append (List.Sublist.refl _)
      · exact behaves.accepted_sublist.trans (List.sublist_append_left _ _)
    · rw [dropped, behaves.dropped_counted]
      split
      · rfl
      · rw [UInt64.ofNat_add]
        rfl
    · intro rejecting
      have fifo := behaves.rejectNew_fifo rejecting
      rw [offered, rejecting]
      by_cases room : system.input.queued.length < keyboardScancodeQueueCapacity
      · simp [offer_of_lt room, fifo]
      · simp [offer_rejectNew_of_le (Nat.le_of_not_lt room), fifo]
    · intro rejecting
      have accounted := behaves.rejectNew_accounted rejecting
      rw [offered, rejecting]
      by_cases room : system.input.queued.length < keyboardScancodeQueueCapacity
      · simp only [offer_of_lt room, if_true, List.length_append, List.length_singleton]
        omega
      · simp only [offer_rejectNew_of_le (Nat.le_of_not_lt room), Bool.false_eq_true, if_false]
        omega
    · intro evicting
      obtain ⟨allAccepted, newest, ordered⟩ := behaves.evictOldest_newest evicting
      have history : (offer .evictOldest keyboardScancodeQueueCapacity system.input.queued
            scancode).1 <:+ system.pushed ++ [scancode] ∧
          (system.popped ++ (offer .evictOldest keyboardScancodeQueueCapacity system.input.queued
            scancode).1).Sublist (system.pushed ++ [scancode]) :=
        offer_evictOldest_history newest ordered
      have alwaysAccepted :
          (offer .evictOldest keyboardScancodeQueueCapacity system.input.queued scancode).2 =
            true := by
        by_cases room : system.input.queued.length < keyboardScancodeQueueCapacity
        · rw [offer_of_lt room]
        · rw [offer_evictOldest_of_le (Nat.le_of_not_lt room)]
      rw [offered, evicting, alwaysAccepted, if_pos rfl, allAccepted]
      exact ⟨rfl, history.1, history.2⟩

theorem behavesAsFifo_pop {system next : InputSystem W} (behaves : system.BehavesAsFifo policy)
    (step : Step policy system .pop next) : next.BehavesAsFifo policy := by
  simp only [Step, perform, Option.some.injEq] at step
  subst step
  obtain ⟨front, rest, sameQueue, -, sameDropped⟩ := popKeyboardScancode_refines system.input
  have split : system.popped ++ (popKeyboardScancode system.input).1.toList ++
      (popKeyboardScancode system.input).2.queued = system.popped ++ system.input.queued := by
    rw [front, rest, List.append_assoc, head?_toList_append_tail]
  have splitLength : (popKeyboardScancode system.input).1.toList.length +
      (popKeyboardScancode system.input).2.queued.length = system.input.queued.length := by
    rw [← List.length_append, front, rest, head?_toList_append_tail]
  refine ⟨?_, behaves.accepted_sublist, ?_, ?_, ?_, ?_⟩
  · intro isNone
    have wasNone : system.input.keyboardScancodeQueue = none := by
      cases initialised : system.input.keyboardScancodeQueue with
      | none => rfl
      | some queue => simp [popKeyboardScancode, initialised] at isNone
    obtain ⟨noPushes, noAccepted, noPops, noPushCount, noPopCount, noDrops, noMark⟩ :=
      behaves.uninitialised wasNone
    have nothingPopped : (popKeyboardScancode system.input).1 = none := by
      simp [popKeyboardScancode, wasNone]
    simp [noPushes, noAccepted, noPops, noPushCount, noPopCount, noDrops, noMark, nothingPopped]
  · rw [sameDropped]
    exact behaves.dropped_counted
  · intro rejecting
    rw [split]
    exact behaves.rejectNew_fifo rejecting
  · intro rejecting
    have accounted := behaves.rejectNew_accounted rejecting
    dsimp only
    omega
  · intro evicting
    obtain ⟨allAccepted, newest, ordered⟩ := behaves.evictOldest_newest evicting
    refine ⟨allAccepted, ?_, ?_⟩
    · rw [rest]
      exact (List.tail_suffix _).trans newest
    · rw [split]
      exact ordered

theorem behavesAsFifo_reset {system next : InputSystem W} (behaves : system.BehavesAsFifo policy)
    (step : Step policy system .reset next) : next.BehavesAsFifo policy := by
  simp only [Step, perform, Option.some.injEq] at step
  subst step
  have sameQueued : (resetCountersForTest system.input).queued = system.input.queued := rfl
  refine ⟨?_, behaves.accepted_sublist, rfl, ?_, ?_, ?_⟩
  · intro isNone
    dsimp only [resetCountersForTest] at isNone
    obtain ⟨noPushes, noAccepted, noPops, -, -, -, -⟩ := behaves.uninitialised isNone
    simp [noPushes, noAccepted, noPops, queued, isNone]
  · intro rejecting
    rw [sameQueued]
    exact behaves.rejectNew_fifo rejecting
  · intro _
    dsimp only
    rw [sameQueued]
    omega
  · intro evicting
    rw [sameQueued]
    exact behaves.evictOldest_newest evicting

theorem behavesAsFifo_step {system next : InputSystem W} {event : InputEvent}
    (behaves : system.BehavesAsFifo policy) (step : Step policy system event next) :
    next.BehavesAsFifo policy := by
  cases event with
  | init => exact behavesAsFifo_init behaves step
  | push scancode => exact behavesAsFifo_push behaves step
  | pop => exact behavesAsFifo_pop behaves step
  | reset => exact behavesAsFifo_reset behaves step

theorem behavesAsFifo_of_reachable {system : InputSystem W}
    (reachable : Reachable Initial (Step policy) system) : system.BehavesAsFifo policy := by
  apply reachable.invariant
  · intro start initial
    exact behavesAsFifo_initial initial
  · intro state event next behaves step
    exact behavesAsFifo_step behaves step

/-- `init_keyboard_input` on a module without a queue creates an empty one. -/
theorem perform_init_of_none {system : InputSystem W}
    (uninitialised : system.input.keyboardScancodeQueue = none) :
    system.perform policy .init =
      some { system with
        input := { system.input with keyboardScancodeQueue := some .empty },
        pushesSinceReset := 0, poppedSinceReset := 0, droppedSinceReset := 0,
        queuedAtReset := 0 } := by
  simp [perform, initKeyboardInput, uninitialised]

/-- Once the queue exists it stays, a second `init_keyboard_input` panics, and a push is
recorded in the history. -/
theorem step_of_created {system next : InputSystem W} {event : InputEvent}
    (created : system.input.keyboardScancodeQueue.isSome) (step : Step policy system event next) :
    next.input.keyboardScancodeQueue.isSome ∧
      next.pushed = system.pushed ++ event.scancode?.toList := by
  obtain ⟨queue, isQueue⟩ := Option.isSome_iff_exists.mp created
  cases event with
  | init => simp [Step, perform, initKeyboardInput, isQueue] at step
  | push scancode =>
      simp only [Step, perform, isQueue, Option.some.injEq] at step
      subst step
      exact ⟨(pushKeyboardScancode_refines isQueue policy scancode).2.1, rfl⟩
  | pop =>
      simp only [Step, perform, Option.some.injEq] at step
      subst step
      refine ⟨?_, by simp [InputEvent.scancode?]⟩
      rw [(popKeyboardScancode_refines system.input).2.2.1]
      exact created
  | reset =>
      simp only [Step, perform, Option.some.injEq] at step
      subst step
      exact ⟨created, by simp [InputEvent.scancode?]⟩

/-- Every run from a state with a queue keeps it and records each push it makes. -/
theorem run_of_created {system final : InputSystem W} {events : List InputEvent}
    (created : system.input.keyboardScancodeQueue.isSome)
    (replayed : run (perform policy) system events = some final) :
    final.input.keyboardScancodeQueue.isSome ∧ final.pushed = system.pushed ++ pushesOf events := by
  induction events generalizing system with
  | nil =>
      simp only [run_nil, Option.some.injEq] at replayed
      subst replayed
      simp [created]
  | cons event rest ih =>
      rw [run_cons] at replayed
      cases stepped : system.perform policy event with
      | none => simp [stepped] at replayed
      | some next =>
          rw [stepped, Option.bind_some] at replayed
          obtain ⟨stillCreated, pushedNext⟩ := step_of_created created stepped
          obtain ⟨finalCreated, pushedFinal⟩ := ih stillCreated replayed
          refine ⟨finalCreated, ?_⟩
          rw [pushedFinal, pushedNext, pushesOf_cons, List.append_assoc]

/-- The input module refines a bounded FIFO of `KEYBOARD_SCANCODE_QUEUE_CAPACITY` entries:
before `init_keyboard_input` pushes are only counted and pops find nothing; the call creates
the queue, and every run that begins with it keeps the queue and records exactly the pushes
made after it; from then on a push is an `offer` under the policy's overflow, counted when
rejected, and a pop takes the front; and along every run the history is that of a FIFO
(`BehavesAsFifo`). -/
theorem input_refines_bounded_fifo (policy : InputPolicy) {system : InputSystem W}
    (reachable : Reachable Initial (Step policy) system) :
    system.BehavesAsFifo policy ∧
      system.input.queued.length ≤ keyboardScancodeQueueCapacity ∧
      (system.input.keyboardScancodeQueue = none → ∀ scancode,
        pushKeyboardScancode policy scancode system.input =
          ({ system.input with
              uninitializedScancodeCount := system.input.uninitializedScancodeCount + 1 },
            none) ∧
        popKeyboardScancode system.input = (none, system.input)) ∧
      (system.input.keyboardScancodeQueue = none →
        (∃ next, Step policy system .init next ∧ next.input.keyboardScancodeQueue.isSome ∧
          next.input.queued = []) ∧
        ∀ events final, run (perform policy) system (.init :: events) = some final →
          final.input.keyboardScancodeQueue.isSome ∧ final.pushed = pushesOf events) ∧
      (system.input.keyboardScancodeQueue.isSome → ∀ events final,
        run (perform policy) system events = some final →
          final.input.keyboardScancodeQueue.isSome ∧
            final.pushed = system.pushed ++ pushesOf events) ∧
      (system.input.keyboardScancodeQueue.isSome → ∀ scancode,
        (pushKeyboardScancode policy scancode system.input).1.queued =
            (offer policy.overflow keyboardScancodeQueueCapacity system.input.queued scancode).1 ∧
          (pushKeyboardScancode policy scancode system.input).1.droppedScancodeCount =
            (if (offer policy.overflow keyboardScancodeQueueCapacity system.input.queued
                scancode).2
              then system.input.droppedScancodeCount
              else system.input.droppedScancodeCount + 1)) ∧
      (popKeyboardScancode system.input).1 = system.input.queued.head? := by
  have behaves := behavesAsFifo_of_reachable reachable
  refine ⟨behaves, system.input.queued_length_le, ?_, ?_, ?_, ?_,
    (popKeyboardScancode_refines system.input).1⟩
  · intro uninitialised scancode
    exact ⟨pushKeyboardScancode_of_none uninitialised policy scancode,
      popKeyboardScancode_of_none uninitialised⟩
  · intro uninitialised
    have initialised : system.perform policy .init = some _ := perform_init_of_none uninitialised
    refine ⟨⟨_, initialised, rfl, rfl⟩, ?_⟩
    intro events final replayed
    rw [run_cons, initialised, Option.bind_some] at replayed
    obtain ⟨created, pushedFinal⟩ := run_of_created rfl replayed
    refine ⟨created, ?_⟩
    rw [pushedFinal, (behaves.uninitialised uninitialised).1, List.nil_append]
  · intro created events final replayed
    exact run_of_created created replayed
  · intro initialised scancode
    obtain ⟨queue, isQueue⟩ := Option.isSome_iff_exists.mp initialised
    obtain ⟨offered, -, dropped, -⟩ := pushKeyboardScancode_refines isQueue policy scancode
    exact ⟨offered, dropped⟩

/-- A push before `init_keyboard_input` is only counted; the run that follows, an init, two
pushes and a pop, records the two pushes and pops the first. -/
theorem input_refines_bounded_fifo_after_init :
    ∃ system : InputSystem Unit, Reachable Initial (Step .dropNew) system ∧
      system.input.keyboardScancodeQueue = none ∧ system.input.uninitializedScancodeCount = 1 ∧
      ∃ final, run (perform .dropNew) system [.init, .push 7, .push 9, .pop] = some final ∧
        final.input.keyboardScancodeQueue.isSome ∧ final.pushed = [7, 9] ∧
        final.popped = [7] ∧ final.input.queued = [9] := by
  have boot : Reachable Initial (Step .dropNew)
      (⟨Input.boot, [], [], [], 0, 0, 0, 0⟩ : InputSystem Unit) :=
    Reachable.init rfl
  have pushedEarly : Step .dropNew ⟨Input.boot, [], [], [], 0, 0, 0, 0⟩ (.push 1)
      (⟨{ Input.boot with uninitializedScancodeCount := 1 }, [], [], [], 0, 0, 0, 0⟩ :
        InputSystem Unit) :=
    rfl
  have reachable := boot.tail pushedEarly
  have replayed : (run (perform .dropNew)
      (⟨{ Input.boot with uninitializedScancodeCount := 1 }, [], [], [], 0, 0, 0, 0⟩ :
        InputSystem Unit) [.init, .push 7, .push 9, .pop]).map
        (fun final => (final.popped, final.input.queued)) = some ([7], [9]) := by
    decide
  obtain ⟨final, ran, projected⟩ := Option.map_eq_some_iff.mp replayed
  simp only [Prod.mk.injEq] at projected
  obtain ⟨created, pushedFinal⟩ :=
    (input_refines_bounded_fifo .dropNew reachable).2.2.2.1 rfl |>.2 _ final ran
  exact ⟨_, reachable, rfl, rfl, final, ran, created, pushedFinal, projected.1, projected.2⟩

end InputSystem

end OsByRust
