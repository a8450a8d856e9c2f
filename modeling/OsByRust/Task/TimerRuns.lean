import OsByRust.Task.Timer

/-!
# Runs of the timer

The timer interrupt calls `tick` between any two steps of the tasks, and a task may create
any number of `Sleep` futures with `sleep_ticks` and poll them, several with the same waker
(two sleeps joined or selected in one task are polled with the task's waker).

`TimerSystem` adds to the timer's statics the sleeps created so far and, newest first, the
sleeps polled `Pending` whose waker `tick` has not woken since. The newest of them for a
waker is the one its `SLEEPERS` entry was last written for.
-/

namespace OsByRust

/-- The timer with the sleeps made so far and the pending registrations, newest first. -/
structure TimerSystem (W : Type) where
  timer : Timer W
  created : List Sleep
  pending : List (Sleep × W)

/-- The steps of the tasks and of the timer interrupt. -/
inductive TimerEvent (W : Type) where
  | sleepTicks (ticks : Nat)
  | poll (sleep : Sleep) (waker : W)
  | tick

namespace TimerSystem

open Transition

variable {W : Type} [DecidableEq W]

/-- The state after one event; a poll is of a sleep made by `sleep_ticks`. -/
def perform (system : TimerSystem W) : TimerEvent W → Option (TimerSystem W)
  | .sleepTicks ticks =>
      some { system with created := system.timer.sleepTicks ticks :: system.created }
  | .poll sleep waker =>
      if sleep ∈ system.created then
        match sleep.poll waker system.timer with
        | (.ready, timer) => some { system with timer := timer }
        | (.pending, timer) =>
            some { system with timer := timer, pending := (sleep, waker) :: system.pending }
      else none
  | .tick =>
      match system.timer.tick with
      | (timer, woken) =>
          some { system with
            timer := timer, pending := system.pending.filter fun pair => decide (pair.2 ∉ woken) }

def Step (system : TimerSystem W) (event : TimerEvent W) (next : TimerSystem W) : Prop :=
  system.perform event = some next

/-- Boot: tick zero, no sleeper, no sleep. -/
def Initial (system : TimerSystem W) : Prop :=
  system.timer = ⟨0, []⟩ ∧ system.created = [] ∧ system.pending = []

/-- The newest sleep polled `Pending` with `waker` and not woken since. -/
def latestSleep (pending : List (Sleep × W)) (waker : W) : Option Sleep :=
  (pending.find? fun pair => decide (pair.2 = waker)).map Prod.fst

@[simp]
theorem latestSleep_nil (waker : W) : latestSleep [] waker = none := rfl

theorem latestSleep_cons_self (sleep : Sleep) (waker : W) (pending : List (Sleep × W)) :
    latestSleep ((sleep, waker) :: pending) waker = some sleep := by
  simp [latestSleep]

theorem latestSleep_cons_ne {sleep : Sleep} {waker other : W} (pending : List (Sleep × W))
    (differs : other ≠ waker) :
    latestSleep ((sleep, waker) :: pending) other = latestSleep pending other := by
  simp [latestSleep, Ne.symm differs]

/-- Dropping the pairs of the woken wakers leaves the newest sleep of every other waker. -/
theorem latestSleep_filter (pending : List (Sleep × W)) (woken : List W) (waker : W) :
    latestSleep (pending.filter fun pair => decide (pair.2 ∉ woken)) waker =
      if waker ∈ woken then none else latestSleep pending waker := by
  induction pending with
  | nil => simp
  | cons pair rest ih =>
      rcases pair with ⟨sleep, owner⟩
      by_cases ownerWoken : owner ∈ woken
      · -- The pair is dropped; if `waker` is not woken it is not the pair's waker either.
        rw [List.filter_cons_of_neg (by simpa using ownerWoken), ih]
        split
        · rfl
        · rename_i notWoken
          have differs : waker ≠ owner := by
            rintro rfl
            exact notWoken ownerWoken
          rw [latestSleep_cons_ne rest differs]
      · rw [List.filter_cons_of_pos (by simpa using ownerWoken)]
        by_cases same : waker = owner
        · subst same
          rw [latestSleep_cons_self, if_neg ownerWoken, latestSleep_cons_self]
        · rw [latestSleep_cons_ne _ same, latestSleep_cons_ne _ same, ih]

/-- What `SLEEPERS` records: one entry per waker, each for a tick still to come, and for
every waker with a pending sleep an entry for the newest of them. -/
structure Registered (system : TimerSystem W) : Prop where
  wakers_nodup : (system.timer.sleepers.map SleeperEntry.waker).Nodup
  future : ∀ entry ∈ system.timer.sleepers, system.timer.currentTick < entry.wakeTick
  latest : ∀ waker sleep, latestSleep system.pending waker = some sleep →
    (⟨sleep.wakeTick, waker⟩ : SleeperEntry W) ∈ system.timer.sleepers

theorem registered_initial {system : TimerSystem W} (initial : Initial system) :
    system.Registered := by
  rcases initial with ⟨isBoot, -, noPending⟩
  refine ⟨?_, ?_, ?_⟩
  · simp [isBoot]
  · simp [isBoot]
  · intro waker sleep latest
    simp [noPending] at latest

theorem registered_sleepTicks {system next : TimerSystem W} {ticks : Nat}
    (registered : system.Registered) (step : Step system (.sleepTicks ticks) next) :
    next.Registered := by
  simp only [Step, perform, Option.some.injEq] at step
  subst step
  exact ⟨registered.wakers_nodup, registered.future, registered.latest⟩

/-- A registration for the newest sleep of `waker`, over a timer that keeps the entries of
the other wakers, keeps `Registered`. -/
theorem registered_register {system : TimerSystem W} {sleep : Sleep} {waker : W}
    {sleepers : List (SleeperEntry W)} (registered : system.Registered)
    (early : system.timer.currentTick < sleep.wakeTick)
    (sameWakers : (sleepers.map SleeperEntry.waker).Nodup)
    (placed : ∀ entry ∈ sleepers, entry ∈ system.timer.sleepers ∨ entry = ⟨sleep.wakeTick, waker⟩)
    (added : (⟨sleep.wakeTick, waker⟩ : SleeperEntry W) ∈ sleepers)
    (kept : ∀ entry ∈ system.timer.sleepers, entry.waker ≠ waker → entry ∈ sleepers) :
    (⟨{ system.timer with sleepers := sleepers }, system.created,
      (sleep, waker) :: system.pending⟩ : TimerSystem W).Registered := by
  refine ⟨sameWakers, ?_, ?_⟩
  · intro entry entryMem
    rcases placed entry entryMem with old | rfl
    · exact registered.future entry old
    · exact early
  · intro other newest latest
    by_cases same : other = waker
    · subst same
      rw [latestSleep_cons_self, Option.some.injEq] at latest
      subst latest
      exact added
    · rw [latestSleep_cons_ne _ same] at latest
      exact kept _ (registered.latest other newest latest) same

theorem registered_poll {system next : TimerSystem W} {sleep : Sleep} {waker : W}
    (registered : system.Registered) (step : Step system (.poll sleep waker) next) :
    next.Registered := by
  simp only [Step, perform] at step
  split at step
  · rcases Sleep.poll_cases sleep waker system.timer with
      ⟨-, polled⟩ | ⟨early, index, inBounds, sameWaker, polled⟩ | ⟨early, absent, polled⟩
    · -- `Ready`: nothing is registered.
      rw [polled] at step
      cases step
      exact ⟨registered.wakers_nodup, registered.future, registered.latest⟩
    · -- `Pending`, overwriting the entry of the same waker.
      rw [polled] at step
      cases step
      apply registered_register registered early
      · have unchanged : (system.timer.sleepers.set index ⟨sleep.wakeTick, waker⟩).map
            SleeperEntry.waker = system.timer.sleepers.map SleeperEntry.waker := by
          apply List.ext_getElem (by simp)
          intro position _ _
          by_cases atIndex : index = position
          · subst atIndex
            simp [sameWaker]
          · simp [List.getElem_set_ne atIndex]
        rw [unchanged]
        exact registered.wakers_nodup
      · intro entry entryMem
        exact List.mem_or_eq_of_mem_set entryMem
      · exact List.mem_set (by simpa using inBounds) _
      · intro entry entryMem differs
        obtain ⟨position, inside, atPosition⟩ := List.mem_iff_getElem.mp entryMem
        have elsewhere : index ≠ position := by
          rintro rfl
          exact differs (atPosition ▸ sameWaker)
        rw [List.mem_iff_getElem]
        refine ⟨position, by simpa using inside, ?_⟩
        rw [List.getElem_set_ne elsewhere, atPosition]
    · -- `Pending`, pushing a new entry.
      rw [polled] at step
      cases step
      apply registered_register registered early
      · rw [List.map_append, List.nodup_append]
        refine ⟨registered.wakers_nodup, by simp, ?_⟩
        intro other otherMem pushed pushedMem same
        simp only [List.map_cons, List.map_nil, List.mem_singleton] at pushedMem
        obtain ⟨entry, entryMem, rfl⟩ := List.mem_map.mp otherMem
        exact absent entry entryMem (same.trans pushedMem)
      · intro entry entryMem
        rcases List.mem_append.mp entryMem with old | pushed
        · exact Or.inl old
        · exact Or.inr (List.mem_singleton.mp pushed)
      · exact List.mem_append_right _ (List.mem_singleton_self _)
      · intro entry entryMem _
        exact List.mem_append_left _ entryMem
  · cases step

theorem registered_tick {system next : TimerSystem W} (registered : system.Registered)
    (step : Step system .tick next) : next.Registered := by
  simp only [Step, perform, Option.some.injEq] at step
  subst step
  obtain ⟨advanced, due, split, -, notDue, woken⟩ := Timer.tick_spec system.timer
  have together := (split.map SleeperEntry.waker).nodup_iff.mp registered.wakers_nodup
  rw [List.map_append] at together
  refine ⟨List.Nodup.sublist (List.sublist_append_left _ _) together, ?_, ?_⟩
  · rw [advanced]
    exact notDue
  · intro waker sleep latest
    rw [latestSleep_filter] at latest
    split at latest
    · cases latest
    · rename_i notWoken
      have entryMem := split.subset (registered.latest waker sleep latest)
      rcases List.mem_append.mp entryMem with kept | wasDue
      · exact kept
      · exact absurd (woken ▸ List.mem_map_of_mem (f := SleeperEntry.waker) wasDue) notWoken

theorem registered_step {system next : TimerSystem W} {event : TimerEvent W}
    (registered : system.Registered) (step : Step system event next) : next.Registered := by
  cases event with
  | sleepTicks ticks => exact registered_sleepTicks registered step
  | poll sleep waker => exact registered_poll registered step
  | tick => exact registered_tick registered step

theorem registered_of_reachable {system : TimerSystem W}
    (reachable : Reachable Initial Step system) : system.Registered := by
  apply reachable.invariant
  · intro start initial
    exact registered_initial initial
  · intro state event next registered step
    exact registered_step registered step

/-- Along every run, the newest sleep polled `Pending` with a waker and not woken since is
registered in `SLEEPERS` for its own tick, so the `tick` that reaches that tick wakes the
waker. -/
theorem timer_latest_sleep_woken {system : TimerSystem W}
    (reachable : Reachable Initial Step system) {waker : W} {sleep : Sleep}
    (latest : latestSleep system.pending waker = some sleep) :
    (⟨sleep.wakeTick, waker⟩ : SleeperEntry W) ∈ system.timer.sleepers ∧
      (sleep.wakeTick ≤ system.timer.currentTick + 1 → waker ∈ system.timer.tick.2) := by
  have registeredEntry := (registered_of_reachable reachable).latest waker sleep latest
  refine ⟨registeredEntry, ?_⟩
  intro reached
  exact Timer.waker_mem_tick registeredEntry reached

/-- `sleep_ticks(5)` and `sleep_ticks(10)` polled with one waker: the newest, the second, is
registered for tick 10. -/
theorem timer_latest_sleep_woken_shared :
    ∃ system : TimerSystem Nat, Reachable Initial Step system ∧
      latestSleep system.pending 0 = some ⟨10⟩ ∧
      (⟨10, 0⟩ : SleeperEntry Nat) ∈ system.timer.sleepers := by
  have initial : Initial (⟨⟨0, []⟩, [], []⟩ : TimerSystem Nat) := ⟨rfl, rfl, rfl⟩
  have replayed : (run perform (⟨⟨0, []⟩, [], []⟩ : TimerSystem Nat)
      [.sleepTicks 5, .sleepTicks 10, .poll ⟨5⟩ 0, .poll ⟨10⟩ 0]).map
        (fun system => latestSleep system.pending 0) = some (some ⟨10⟩) := by
    decide
  obtain ⟨system, final, latest⟩ := Option.map_eq_some_iff.mp replayed
  have reachable := reachable_of_run (fun _ _ _ performed => performed) (Reachable.init initial)
    final
  exact ⟨system, reachable, latest, (timer_latest_sleep_woken reachable latest).1⟩

/-- Two sleeps polled with one waker: `sleep_ticks(5)` then `sleep_ticks(10)`, both made at
tick zero. The second poll overwrites the entry of the first, so `SLEEPERS` holds only the
later tick while the first sleep still waits. -/
theorem timer_shared_waker_deadline_lost :
    ¬ ∀ system : TimerSystem Nat, Reachable Initial Step system →
      ∀ pair ∈ system.pending, ∃ entry ∈ system.timer.sleepers,
        entry.waker = pair.2 ∧ entry.wakeTick ≤ pair.1.wakeTick := by
  intro registeredEarly
  have initial : Initial (⟨⟨0, []⟩, [], []⟩ : TimerSystem Nat) := ⟨rfl, rfl, rfl⟩
  have replayed : (run perform (⟨⟨0, []⟩, [], []⟩ : TimerSystem Nat)
      [.sleepTicks 5, .sleepTicks 10, .poll ⟨5⟩ 0, .poll ⟨10⟩ 0]).map
        (fun system => (system.timer.sleepers, system.pending)) =
      some ([⟨10, 0⟩], [(⟨10⟩, 0), (⟨5⟩, 0)]) := by
    decide
  obtain ⟨system, final, projected⟩ := Option.map_eq_some_iff.mp replayed
  have reachable := reachable_of_run (fun _ _ _ performed => performed)
    (Reachable.init initial) final
  simp only [Prod.mk.injEq] at projected
  obtain ⟨sleepers, pending⟩ := projected
  have firstSleep : ((⟨5⟩ : Sleep), 0) ∈ system.pending := by
    rw [pending]
    simp
  obtain ⟨entry, entryMem, -, early⟩ := registeredEarly system reachable _ firstSleep
  rw [sleepers, List.mem_singleton] at entryMem
  subst entryMem
  simp at early

end TimerSystem

end OsByRust
