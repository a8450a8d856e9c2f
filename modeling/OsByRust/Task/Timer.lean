import OsByRust.Task.Executor
import OsByRust.Lib.Vec
import OsByRust.Lib.Transition
import OsByRust.Allocator.Basic

/-!
# The tick timer

`src/task/timer.rs`. The timer interrupt calls `tick`, which advances `CURRENT_TICK` and
wakes every waker registered in `SLEEPERS` for a tick that has come. A `Sleep` future made
by `sleep_ticks(n)` at tick `c` completes once the tick reaches
`c.saturating_add(max(n, 1))`; while it is early, its poll registers the waker it is given,
keeping one entry per waker: if an entry with a waker that `will_wake` the given one is
already there, its wake tick is overwritten.

Wakers are compared by `Waker::will_wake`, which holds between clones of one waker; the
model takes wakers from a type `W` with decidable equality and `will_wake` as equality.
`CURRENT_TICK` is a `Nat`: its wrap after `2 ^ 64` ticks is left out of `tick` and of the
runs, and kept in `tickU64`, where the tick before the call is any `u64` value.
-/

namespace OsByRust

/-- `u64::MAX`. -/
def u64Max : Nat := 2 ^ 64 - 1

/-- `u64::saturating_add`. -/
def saturatingAdd (a b : Nat) : Nat := min (a + b) u64Max

/-- `Sleep`: the tick at which it completes. -/
structure Sleep where
  wakeTick : Nat
  deriving DecidableEq, Repr

/-- `SleeperEntry`. -/
structure SleeperEntry (W : Type) where
  wakeTick : Nat
  waker : W
  deriving DecidableEq, Repr

/-- The statics `CURRENT_TICK` and `SLEEPERS`. -/
structure Timer (W : Type) where
  currentTick : Nat
  sleepers : List (SleeperEntry W)
  deriving DecidableEq, Repr

namespace Timer

variable {W : Type}

/-- `sleep_ticks(ticks)` at the current tick. -/
def sleepTicks (timer : Timer W) (ticks : Nat) : Sleep :=
  ⟨saturatingAdd timer.currentTick (if ticks = 0 then 1 else ticks)⟩

/-- The `while` loop of `tick`: an entry due at `tickValue` is taken out with
`swap_remove(index)`, which moves the last entry to `index` to be looked at next; an entry
not yet due is stepped over. -/
def tickLoop (tickValue : Nat) (sleepers : List (SleeperEntry W)) (index : Nat)
    (wakersToWake : List W) : List (SleeperEntry W) × List W :=
  if inBounds : index < sleepers.length then
    if sleepers[index].wakeTick ≤ tickValue then
      tickLoop tickValue (sleepers.swapRemove index) index
        (wakersToWake ++ [sleepers[index].waker])
    else tickLoop tickValue sleepers (index + 1) wakersToWake
  else (sleepers, wakersToWake)
termination_by sleepers.length - index
decreasing_by
  · rw [List.length_swapRemove inBounds]
    omega
  · omega

/-- `tick`: the timer afterwards and `wakers_to_wake`, which it then wakes in order. -/
def tick (timer : Timer W) : Timer W × List W :=
  match tickLoop (timer.currentTick + 1) timer.sleepers 0 [] with
  | (sleepers, wakersToWake) => (⟨timer.currentTick + 1, sleepers⟩, wakersToWake)

/-- `tick` with `CURRENT_TICK` a `u64`: `fetch_add(1)` returns the tick before the call, and
the `+ 1` on it is a `u64` addition (the range of `usize` on x86_64), which panics at
`u64::MAX` in the `dev` profile. -/
def tickU64 (timer : Timer W) : Except Panic (Timer W × List W) := do
  let tickValue ← usizeAdd timer.currentTick 1
  match tickLoop tickValue timer.sleepers 0 [] with
  | (sleepers, wakersToWake) => return (⟨tickValue, sleepers⟩, wakersToWake)

end Timer

/-- `Sleep::poll` with the waker of its context. -/
def Sleep.poll {W : Type} [DecidableEq W] (sleep : Sleep) (waker : W) (timer : Timer W) :
    Poll × Timer W :=
  if sleep.wakeTick ≤ timer.currentTick then (.ready, timer)
  else
    match timer.sleepers.findIdx? (fun entry => decide (entry.waker = waker)) with
    | some index =>
        (.pending, { timer with sleepers := timer.sleepers.set index ⟨sleep.wakeTick, waker⟩ })
    | none => (.pending, { timer with sleepers := timer.sleepers ++ [⟨sleep.wakeTick, waker⟩] })

namespace Timer

variable {W : Type}

/-- The loop of `tick` takes out exactly the entries due at `tickValue`, keeps the others,
and collects the wakers of the entries it takes out behind `wakersToWake`. Its invariant:
every entry before `index` is not due. -/
theorem tickLoop_spec (tickValue : Nat) (sleepers : List (SleeperEntry W)) (index : Nat)
    (wakersToWake : List W)
    (stepped : ∀ entry ∈ sleepers.take index, tickValue < entry.wakeTick) :
    ∃ due, sleepers.Perm ((tickLoop tickValue sleepers index wakersToWake).1 ++ due) ∧
      (∀ entry ∈ due, entry.wakeTick ≤ tickValue) ∧
      (∀ entry ∈ (tickLoop tickValue sleepers index wakersToWake).1,
        tickValue < entry.wakeTick) ∧
      (tickLoop tickValue sleepers index wakersToWake).2 =
        wakersToWake ++ due.map SleeperEntry.waker := by
  fun_induction tickLoop tickValue sleepers index wakersToWake with
  | case1 sleepers index wakersToWake inBounds isDue ih =>
      have kept := List.take_swapRemove inBounds
      obtain ⟨due, split, dueBefore, notDue, woken⟩ := ih (by rw [kept]; exact stepped)
      refine ⟨sleepers[index] :: due, ?_, ?_, notDue, ?_⟩
      · apply (List.perm_swapRemove inBounds).trans
        exact (split.cons _).trans List.perm_middle.symm
      · intro entry entryMem
        rcases List.mem_cons.mp entryMem with rfl | later
        · exact isDue
        · exact dueBefore entry later
      · rw [woken]
        simp
  | case2 sleepers index wakersToWake inBounds notDue ih =>
      apply ih
      intro entry entryMem
      rw [← List.take_concat_get inBounds, List.concat_eq_append] at entryMem
      rcases List.mem_append.mp entryMem with before | atIndex
      · exact stepped entry before
      · rw [List.mem_singleton] at atIndex
        subst atIndex
        omega
  | case3 sleepers index wakersToWake outOfBounds =>
      refine ⟨[], by simp, by simp, ?_, by simp⟩
      intro entry entryMem
      apply stepped entry
      rw [List.take_of_length_le (by omega)]
      exact entryMem

/-- `tick` advances the tick by one, keeps the entries that are not due at the new tick
and wakes the wakers of the others. -/
theorem tick_spec (timer : Timer W) :
    timer.tick.1.currentTick = timer.currentTick + 1 ∧
      ∃ due, timer.sleepers.Perm (timer.tick.1.sleepers ++ due) ∧
        (∀ entry ∈ due, entry.wakeTick ≤ timer.currentTick + 1) ∧
        (∀ entry ∈ timer.tick.1.sleepers, timer.currentTick + 1 < entry.wakeTick) ∧
        timer.tick.2 = due.map SleeperEntry.waker := by
  have loop := tickLoop_spec (timer.currentTick + 1) timer.sleepers 0 [] (by simp)
  simp only [List.nil_append] at loop
  refine ⟨rfl, ?_⟩
  simpa [tick] using loop

theorem tickU64_of_lt {timer : Timer W} (belowMax : timer.currentTick < u64Max) :
    timer.tickU64 = .ok timer.tick := by
  have added : usizeAdd timer.currentTick 1 = .ok (timer.currentTick + 1) :=
    usizeAdd_eq_ok.mpr ⟨belowMax, rfl⟩
  simp only [tickU64, added, bind, Except.bind, tick]
  rfl

theorem timer_tick_wakes_due (timer : Timer W) (belowMax : timer.currentTick < u64Max) :
    ∃ next woken, timer.tickU64 = .ok (next, woken) ∧
      next.currentTick = timer.currentTick + 1 ∧
      woken.Perm ((timer.sleepers.filter fun entry =>
        entry.wakeTick ≤ timer.currentTick + 1).map SleeperEntry.waker) ∧
      next.sleepers.Perm (timer.sleepers.filter fun entry =>
        timer.currentTick + 1 < entry.wakeTick) := by
  obtain ⟨advanced, due, split, dueBefore, notDue, woken⟩ := tick_spec timer
  refine ⟨timer.tick.1, timer.tick.2, tickU64_of_lt belowMax, advanced, ?_, ?_⟩
  · rw [woken]
    apply List.Perm.map
    apply List.Perm.symm
    apply List.filter_perm_of_perm_append (split.trans List.perm_append_comm)
    · simpa using dueBefore
    · intro entry kept
      simpa using notDue entry kept
  · apply List.Perm.symm
    apply List.filter_perm_of_perm_append split
    · simpa using notDue
    · intro entry isDue
      simpa using dueBefore entry isDue

/-- At tick 4 with entries due at 5 and 3 among two that are not: both are woken, and the
`swap_remove` of the first entry moves the last one to the front, so the entries left are
those not due in another order. -/
theorem timer_tick_wakes_due_mixed :
    (⟨4, [⟨5, 0⟩, ⟨9, 1⟩, ⟨3, 2⟩, ⟨7, 3⟩]⟩ : Timer Nat).currentTick < u64Max ∧
      (⟨4, [⟨5, 0⟩, ⟨9, 1⟩, ⟨3, 2⟩, ⟨7, 3⟩]⟩ : Timer Nat).tickU64 =
        .ok (⟨5, [⟨7, 3⟩, ⟨9, 1⟩]⟩, [0, 2]) ∧
      [0, 2].Perm ((([⟨5, 0⟩, ⟨9, 1⟩, ⟨3, 2⟩, ⟨7, 3⟩] : List (SleeperEntry Nat)).filter
        fun entry => entry.wakeTick ≤ 5).map SleeperEntry.waker) ∧
      ([⟨7, 3⟩, ⟨9, 1⟩] : List (SleeperEntry Nat)).Perm
        (([⟨5, 0⟩, ⟨9, 1⟩, ⟨3, 2⟩, ⟨7, 3⟩] : List (SleeperEntry Nat)).filter
          fun entry => 5 < entry.wakeTick) := by
  have belowMax : (⟨4, [⟨5, 0⟩, ⟨9, 1⟩, ⟨3, 2⟩, ⟨7, 3⟩]⟩ : Timer Nat).currentTick < u64Max := by
    decide
  have ticked : (⟨4, [⟨5, 0⟩, ⟨9, 1⟩, ⟨3, 2⟩, ⟨7, 3⟩]⟩ : Timer Nat).tickU64 =
      .ok (⟨5, [⟨7, 3⟩, ⟨9, 1⟩]⟩, [0, 2]) := by
    decide +kernel
  obtain ⟨next, woken, returned, -, wokenDue, keptNotDue⟩ := timer_tick_wakes_due _ belowMax
  rw [ticked, Except.ok.injEq, Prod.mk.injEq] at returned
  obtain ⟨rfl, rfl⟩ := returned
  exact ⟨belowMax, ticked, wokenDue, keptNotDue⟩

/-- At `CURRENT_TICK = u64::MAX` the tick does not advance to a new value: the addition on
the value `fetch_add` returns overflows, and `tick` panics before it looks at `SLEEPERS`. -/
theorem timer_tick_overflows_at_max :
    (⟨u64Max, [⟨0, ()⟩]⟩ : Timer Unit).tickU64 = .error .addWithOverflow := by
  rfl

/-- A waker registered for a tick is woken by the `tick` that reaches it. -/
theorem waker_mem_tick {timer : Timer W} {entry : SleeperEntry W}
    (registered : entry ∈ timer.sleepers) (reached : entry.wakeTick ≤ timer.currentTick + 1) :
    entry.waker ∈ timer.tick.2 := by
  obtain ⟨-, due, split, -, notDue, woken⟩ := tick_spec timer
  rw [woken]
  rcases List.mem_append.mp (split.subset registered) with kept | isDue
  · have := notDue entry kept
    omega
  · exact List.mem_map_of_mem isDue

end Timer

variable {W : Type} [DecidableEq W]

/-- The three outcomes of `Sleep::poll`: `Ready` once the tick has come; otherwise `Pending`
after overwriting the first entry whose waker `will_wake` the given one, or after pushing a
new entry. -/
theorem Sleep.poll_cases (sleep : Sleep) (waker : W) (timer : Timer W) :
    (sleep.wakeTick ≤ timer.currentTick ∧ sleep.poll waker timer = (.ready, timer)) ∨
    (timer.currentTick < sleep.wakeTick ∧ ∃ index, ∃ inBounds : index < timer.sleepers.length,
      timer.sleepers[index].waker = waker ∧
      sleep.poll waker timer =
        (.pending, { timer with sleepers := timer.sleepers.set index ⟨sleep.wakeTick, waker⟩ })) ∨
    (timer.currentTick < sleep.wakeTick ∧ (∀ entry ∈ timer.sleepers, entry.waker ≠ waker) ∧
      sleep.poll waker timer =
        (.pending, { timer with sleepers := timer.sleepers ++ [⟨sleep.wakeTick, waker⟩] })) := by
  by_cases due : sleep.wakeTick ≤ timer.currentTick
  · exact Or.inl ⟨due, by simp [poll, due]⟩
  · have early : timer.currentTick < sleep.wakeTick := by omega
    cases found : timer.sleepers.findIdx? (fun entry => decide (entry.waker = waker)) with
    | some index =>
        obtain ⟨inBounds, sameWaker, -⟩ := List.findIdx?_eq_some_iff_getElem.mp found
        refine Or.inr (Or.inl ⟨early, index, inBounds, of_decide_eq_true sameWaker, ?_⟩)
        simp [poll, due, found]
    | none =>
        have absent := List.findIdx?_eq_none_iff.mp found
        refine Or.inr (Or.inr ⟨early, ?_, by simp [poll, due, found]⟩)
        intro entry entryMem
        simpa using absent entry entryMem

end OsByRust
