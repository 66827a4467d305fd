import TaskEngine.Proofs.Leads
import TaskEngine.Proofs.Periodic.Running

/-! A stop that is called from outside waits for the loop whose place it takes, and for no
other. A loop that had been told to end already may tick on: the stop that told it may still
be waiting, or was called by one of its own ticks and does not wait. -/

namespace TaskEngine
namespace Course

open Actuator

variable {s s' t u : Course} {d : Deed}

/-- A stop that is called from outside in the one state returns in the other: at once where no
loop holds the place, or else once it has seen the loop end whose place it took. -/
inductive StopReturns (s : Course) : Course → Prop
  | atOnce (st : Step s (.stop none) s) (ha : s.actuator.active = none) : StopReturns s s
  | joined {id s' t u before after} (st : Step s (.stop none) s')
      (hs : s'.stops = s.stops ++ [⟨none, id⟩]) (hl : Leads Step s' t)
      (hc : t.stops = before ++ ⟨none, id⟩ :: after)
      (hr : Step t (.confirm before.length) u) : StopReturns s u

/-- No loop that is older than `n` ticks, now or ever. -/
def NoTickBefore (t : Course) (n : Nat) : Prop :=
  ∀ {u}, Leads Step t u → ∀ l ∈ u.actuator.loops, l.phase = .ticking → n ≤ l.id

theorem Reachable.leads (h : Reachable s) (hl : Leads Step s t) : Reachable t :=
  hl.preserve .next h

theorem Step.nextLoop_le (st : Step s d s') : s.actuator.nextLoop ≤ s'.actuator.nextLoop := by
  cases st with
  | start _ hs =>
    obtain ⟨_, _, _, hn, _⟩ := eq_of_start hs
    simp [hn]
  | stopOwn _ hs | stop _ _ hs =>
    obtain ⟨_, _, _, hn, _⟩ := eq_of_requestStop hs
    exact Nat.le_of_eq hn.symm
  | _ => exact Nat.le_refl _

theorem Step.mem_roll_old (st : Step s d s') {i : Nat} {told : Bool}
    (hi : (i, told) ∈ s'.actuator.roll) (hold : i < s.actuator.nextLoop) :
    ∃ before, (i, before) ∈ s.actuator.roll ∧ (before = true → told = true) := by
  cases st with
  | refuse | stopNothing | failStart | confirm => exact ⟨told, hi, id⟩
  | start _ hs =>
    obtain ⟨_, _, _, _, ⟨hr, _⟩ | ⟨hr, _⟩⟩ := eq_of_start hs
    · rw [hr] at hi
      rcases List.mem_append.mp hi with hi | hnew
      · exact ⟨told, hi, id⟩
      · have hi : i = s.actuator.nextLoop := congrArg Prod.fst (List.mem_singleton.mp hnew)
        omega
    · exact ⟨told, hr ▸ hi, id⟩
  | stopOwn _ hs | stop _ _ hs =>
    rcases (mem_roll_of_requestStop hs _).mp hi with ⟨hi, _⟩ | ⟨heq, before, hbefore⟩
    · exact ⟨told, hi, id⟩
    · obtain ⟨rfl, rfl⟩ := Prod.mk.inj heq
      exact ⟨before, hbefore, fun _ => rfl⟩
  | beginTick => exact ⟨told, roll_beginTick ▸ hi, id⟩
  | endTick => exact ⟨told, roll_endTick ▸ hi, id⟩
  | leave | die => exact ⟨told, (mem_roll_dropLoop.mp hi).1, id⟩

theorem nextLoop_le (hl : Leads Step s t) : s.actuator.nextLoop ≤ t.actuator.nextLoop := by
  induction hl with
  | refl => exact Nat.le_refl _
  | tail _ hnext ih =>
    obtain ⟨_, st⟩ := hnext
    exact Nat.le_trans ih st.nextLoop_le

theorem mem_roll_old (hl : Leads Step s t) {i : Nat} {told : Bool}
    (hi : (i, told) ∈ t.actuator.roll) (hold : i < s.actuator.nextLoop) :
    ∃ before, (i, before) ∈ s.actuator.roll ∧ (before = true → told = true) := by
  induction hl generalizing told with
  | refl => exact ⟨told, hi, id⟩
  | tail hl hnext ih =>
    obtain ⟨_, st⟩ := hnext
    obtain ⟨later, hlater, htold⟩ := st.mem_roll_old hi (Nat.lt_of_lt_of_le hold (nextLoop_le hl))
    obtain ⟨before, hbefore, hkeep⟩ := ih hlater
    exact ⟨before, hbefore, fun h => htold (hkeep h)⟩

theorem eq_of_replaced {calls before after before' after' : List StopCall} {call call' : StopCall}
    (hc : calls = before ++ call :: after) (hc' : calls = before' ++ call' :: after')
    (hn : before.length = before'.length) : call = call' :=
  (List.cons.inj (List.append_inj_right (hc.symm.trans hc') hn)).1

theorem Step.confirm_cases {n : Nat} (st : Step s (.confirm n) s') :
    ∃ before call after, s.stops = before ++ call :: after ∧ before.length = n ∧
      s.actuator.isLive call.loop = false ∧ s'.actuator.loops = s.actuator.loops := by
  cases st with
  | confirm hc hgone => exact ⟨_, _, _, hc, rfl, hgone, rfl⟩

theorem mem_roll_of_isLive {i : Nat} (h : s.actuator.isLive i = false) (told : Bool) :
    (i, told) ∉ s.actuator.roll := by
  intro hi
  obtain ⟨l, hl, hid, _⟩ := mem_roll.mp hi
  simp only [isLive, List.any_eq_false] at h
  exact h l hl (by simp [hid])

theorem Step.active_of_stop {origin : Option Nat} {call : StopCall}
    (st : Step s (.stop origin) s') (hs : s'.stops = s.stops ++ [call]) :
    s.actuator.active = some call.loop := by
  cases st with
  | stopNothing | stopOwn => simp at hs
  | stop _ _ hstop =>
    have hcall := List.append_cancel_left hs
    simp only [List.cons.injEq, and_true] at hcall
    rw [(eq_of_requestStop hstop).1, ← hcall]

theorem StopReturns.leads (hr : StopReturns s t) : Leads Step s t := by
  cases hr with
  | atOnce => exact .refl s
  | joined st _ hl _ hr => exact (hl.next hr).first st

/-- A loop from before that is still there had been told to end by somebody else. -/
theorem StopReturns.told (h : Reachable s) (hr : StopReturns s t) {i : Nat} {told : Bool}
    (hi : (i, told) ∈ t.actuator.roll) (hold : i < s.actuator.nextLoop) :
    (i, true) ∈ s.actuator.roll ∧ told = true := by
  obtain ⟨before, hbefore, hkeep⟩ := mem_roll_old hr.leads hi hold
  cases before with
  | true => exact ⟨hbefore, hkeep rfl⟩
  | false =>
    -- otherwise it held the place, and the stop has waited for it
    exfalso
    have hactive := h.sound.untold hbefore
    cases hr with
    | atOnce _ ha => simp [ha] at hactive
    | joined st hs hl hc hr =>
      obtain ⟨_, _, _, hc', hn, hgone, hloops⟩ := hr.confirm_cases
      rw [eq_of_replaced hc' hc hn, ← Option.some.inj (hactive.symm.trans (st.active_of_stop hs))]
        at hgone
      refine mem_roll_of_isLive hgone told ?_
      rwa [roll, hloops] at hi

theorem exists_tick {l : TickLoop} (hl : l ∈ s.actuator.loops) :
    ∃ t, Leads Step s t ∧ ∃ l' ∈ t.actuator.loops, l'.id = l.id ∧ l'.phase = .ticking := by
  cases hp : l.phase with
  | ticking => exact ⟨s, .refl s, l, hl, rfl, hp⟩
  | sleeping =>
    refine ⟨_, (Leads.refl s).next (.beginTick hl hp (Nat.le_refl _)), _,
      List.mem_map_of_mem hl, ?_⟩
    simp

theorem noTickBefore_iff {n : Nat} (hn : n ≤ t.actuator.nextLoop) :
    t.NoTickBefore n ↔ ∀ l ∈ t.actuator.loops, n ≤ l.id := by
  constructor
  · intro hnone l hl
    obtain ⟨u, hu, l', hl', hid, hticks⟩ := exists_tick hl
    exact hid ▸ hnone hu l' hl' hticks
  · intro hall u hu l hl _
    by_contra hold
    obtain ⟨_, hbefore, _⟩ := mem_roll_old hu (mem_roll.mpr ⟨l, hl, rfl, rfl⟩) (by omega)
    obtain ⟨l', hl', hid, _⟩ := mem_roll.mp hbefore
    have := hall l' hl'
    omega

def inTick (told : Bool) (stops : List StopCall) : Course :=
  { actuator :=
      { interval := .ofMillis 10, running := true, active := if told then none else some 0,
        nextLoop := 1,
        loops := [{ id := 0, due := 20_000_000, phase := .ticking, stopRequested := told }] }
    stops }

theorem inTick_reachable : Reachable (inTick false []) := by
  have h₀ : Reachable (Course.idle (.ofMillis 10)) := .idle (by decide)
  have h₁ := h₀.next (d := .start none 0) (.start trivial rfl)
  have h₂ := h₁.next (.beginTick (List.Mem.head _) rfl (Nat.le_refl _))
  exact h₂

theorem inTick_stop : Step (inTick false []) (.stop none) (inTick true [⟨none, 0⟩]) :=
  .stop trivial nofun rfl

theorem inTick_stopOwn : Step (inTick false []) (.stop (some 0)) (inTick true []) :=
  .stopOwn ⟨⟨_, List.Mem.head _, rfl, rfl⟩, nofun⟩ rfl

theorem inTick_stopReturns : ∃ t, StopReturns (inTick false []) t := by
  have h₀ : Leads Step (inTick true [⟨none, 0⟩]) _ := .refl _
  have h₁ := h₀.next (.endTick (List.Mem.head _) rfl (by simp [IsFree, inTick]))
  have h₂ := h₁.next (.leave (List.Mem.head _) rfl rfl)
  exact ⟨_, .joined inTick_stop rfl h₂ (show _ = [] ++ _ :: [] from rfl)
    (@Step.confirm _ [] _ _ rfl rfl)⟩

/-- When a stop that was called from outside has returned, no loop from before it ticks any
more, exactly if every loop that had been told to end before the call has ended by then. All
loops from before that can still tick are of this kind; where there were none, the stop is a
barrier. -/
theorem stop_barrier_iff (h : Reachable s) (hr : StopReturns s t) :
    (t.NoTickBefore s.actuator.nextLoop ↔
        ∀ l ∈ s.actuator.loops, l.stopRequested = true → t.actuator.isLive l.id = false) ∧
      (∀ {u}, Leads Step t u → ∀ l ∈ u.actuator.loops, l.id < s.actuator.nextLoop →
        l.stopRequested = true ∧ ∃ l' ∈ s.actuator.loops, l'.id = l.id ∧ l'.stopRequested = true) ∧
      ((∀ l ∈ s.actuator.loops, l.stopRequested = false) →
        t.NoTickBefore s.actuator.nextLoop) := by
  have hle := nextLoop_le hr.leads
  have hleft {u : Course} (hu : Leads Step t u) (l : TickLoop) (hl : l ∈ u.actuator.loops)
      (hold : l.id < s.actuator.nextLoop) :
      l.stopRequested = true ∧ ∃ l' ∈ s.actuator.loops, l'.id = l.id ∧ l'.stopRequested = true := by
    obtain ⟨told, hmem, hkeep⟩ :=
      mem_roll_old hu (mem_roll.mpr ⟨l, hl, rfl, rfl⟩) (Nat.lt_of_lt_of_le hold hle)
    obtain ⟨hbefore, htold⟩ := hr.told h hmem hold
    exact ⟨hkeep htold, mem_roll.mp hbefore⟩
  have hiff : t.NoTickBefore s.actuator.nextLoop ↔
      ∀ l ∈ s.actuator.loops, l.stopRequested = true → t.actuator.isLive l.id = false := by
    rw [noTickBefore_iff hle]
    constructor
    · intro hall l hl _
      have hlt := h.sound.lt (mem_roll.mpr ⟨l, hl, rfl, rfl⟩)
      simp only [isLive, List.any_eq_false, beq_iff_eq]
      intro l' hl' hid
      have := hall l' hl'
      omega
    · intro hgone l hl
      by_contra hold
      obtain ⟨_, l', hl', hid, htold⟩ := hleft (.refl t) l hl (by omega)
      exact mem_roll_of_isLive (hid ▸ hgone l' hl' htold) _ (mem_roll.mpr ⟨l, hl, rfl, rfl⟩)
  exact ⟨hiff, hleft, fun hnone => hiff.mpr fun l hl htold => by simp [hnone l hl] at htold⟩

theorem stop_barrier_in_tick : ∃ t, Reachable (inTick false []) ∧
    StopReturns (inTick false []) t ∧ t.NoTickBefore 1 := by
  obtain ⟨t, hr⟩ := inTick_stopReturns
  obtain ⟨_, _, hbarrier⟩ := stop_barrier_iff inTick_reachable hr
  exact ⟨t, inTick_reachable, hr, hbarrier (by decide)⟩

/-- A stop from outside returns in the middle of the tick that has stopped its own actuator, and
in the middle of a tick whose end another stop is waiting for. -/
theorem stop_returns_in_tick :
    (Reachable (inTick true []) ∧ StopReturns (inTick true []) (inTick true []) ∧
      ¬(inTick true []).NoTickBefore (inTick true []).actuator.nextLoop) ∧
    Reachable (inTick true [⟨none, 0⟩]) ∧
      StopReturns (inTick true [⟨none, 0⟩]) (inTick true [⟨none, 0⟩]) ∧
      ¬(inTick true [⟨none, 0⟩]).NoTickBefore (inTick true [⟨none, 0⟩]).actuator.nextLoop := by
  have hticks (stops : List StopCall) : ¬(inTick true stops).NoTickBefore 1 := fun hnone =>
    absurd (hnone (.refl _) _ (List.Mem.head _) rfl) (Nat.not_succ_le_zero 0)
  exact ⟨⟨inTick_reachable.next inTick_stopOwn, .atOnce (.stopNothing trivial rfl) rfl, hticks _⟩,
    inTick_reachable.next inTick_stop, .atOnce (.stopNothing trivial rfl) rfl, hticks _⟩

end Course
end TaskEngine
