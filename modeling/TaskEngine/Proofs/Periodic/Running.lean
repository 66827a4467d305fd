import Mathlib.Logic.Function.Basic
import TaskEngine.Proofs.Periodic.Course

/-! The running flag is set as long as nothing has cleared it since the newest loop was
started. It misleads only where an earlier loop, or the stop of one, has cleared it in
between, or a panic has killed the newest loop and nobody has cleared it. -/

namespace TaskEngine

namespace Actuator

variable {a b : Actuator} {id now : Nat}

def roll (a : Actuator) : List (Nat × Bool) := a.loops.map fun l => (l.id, l.stopRequested)

theorem mem_roll {told : Bool} :
    (id, told) ∈ a.roll ↔ ∃ l ∈ a.loops, l.id = id ∧ l.stopRequested = told := by
  simp [roll]

theorem eq_of_start (h : a.start now = .ok b) : a.active = none ∧ b.running = true ∧
    b.active = some a.nextLoop ∧ b.nextLoop = a.nextLoop + 1 ∧
    (b.roll = a.roll ++ [(a.nextLoop, false)] ∧ b.dead = a.dead ∨
      b.roll = a.roll ∧ b.dead = a.dead ++ [a.nextLoop]) := by
  unfold start at h
  split at h
  · exact nomatch h
  · next ha =>
    refine ⟨by simpa using ha, ?_⟩
    simp only at h
    split at h
    · obtain rfl := Except.ok.inj h
      exact ⟨rfl, rfl, rfl, .inl ⟨by simp [roll], rfl⟩⟩
    · obtain rfl := Except.ok.inj h
      exact ⟨rfl, rfl, rfl, .inr ⟨rfl, rfl⟩⟩

theorem eq_of_requestStop (h : a.requestStop = some (id, b)) : a.active = some id ∧
    b.active = none ∧ b.running = a.running ∧ b.nextLoop = a.nextLoop ∧ b.dead = a.dead ∧
    b.roll = a.roll.map fun e => if e.1 = id then (id, true) else e := by
  obtain ⟨i, hi, heq⟩ := Option.map_eq_some_iff.mp h
  obtain ⟨rfl, rfl⟩ := Prod.mk.inj heq
  refine ⟨hi, rfl, rfl, rfl, rfl, ?_⟩
  simp only [updateLoop, roll, List.map_map]
  refine List.map_congr_left fun l _ => ?_
  by_cases hl : l.id = i <;> simp [hl]

theorem mem_roll_of_requestStop (h : a.requestStop = some (id, b)) (e : Nat × Bool) : e ∈ b.roll ↔
    e ∈ a.roll ∧ e.1 ≠ id ∨ e = (id, true) ∧ ∃ told, (id, told) ∈ a.roll := by
  obtain ⟨_, _, _, _, _, hr⟩ := eq_of_requestStop h
  rw [hr, List.mem_map]
  constructor
  · rintro ⟨⟨i, told⟩, hmem, rfl⟩
    by_cases hi : i = id
    · subst hi
      exact .inr ⟨if_pos rfl, told, hmem⟩
    · exact .inl (by simpa [hi] using hmem)
  · rintro (⟨hmem, hne⟩ | ⟨rfl, told, hmem⟩)
    · exact ⟨e, hmem, if_neg hne⟩
    · exact ⟨_, hmem, if_pos rfl⟩

@[simp] theorem roll_beginTick : (a.beginTick id now).roll = a.roll := by
  simp only [beginTick, updateLoop, roll, List.map_map]
  refine List.map_congr_left fun l _ => ?_
  by_cases hl : l.id = id <;> simp [hl]

@[simp] theorem roll_endTick : (a.endTick id).roll = a.roll := by
  simp only [endTick, updateLoop, roll, List.map_map]
  refine List.map_congr_left fun l _ => ?_
  by_cases hl : l.id = id <;> simp [hl]

@[simp] theorem mem_roll_dropLoop {e : Nat × Bool} :
    e ∈ (a.dropLoop id).roll ↔ e ∈ a.roll ∧ e.1 ≠ id := by
  simp only [dropLoop, roll, List.mem_map, List.mem_filter, bne_iff_ne]
  constructor
  · rintro ⟨l, ⟨hl, hne⟩, rfl⟩
    exact ⟨⟨l, hl, rfl⟩, hne⟩
  · rintro ⟨⟨l, hl, rfl⟩, hne⟩
    exact ⟨l, ⟨hl, hne⟩, rfl⟩

/-- The place of the active loop is held by the newest loop, as long as it has not been told
to end, also when a panic has killed it. -/
structure Sound (a : Actuator) : Prop where
  active : ∀ {id}, a.active = some id →
    id + 1 = a.nextLoop ∧ ((id, false) ∈ a.roll ∨ id ∈ a.dead)
  untold : ∀ {id}, (id, false) ∈ a.roll → a.active = some id
  told : ∀ {id}, (id, true) ∈ a.roll → id < a.nextLoop ∧ a.active ≠ some id
  dead : ∀ {id}, id ∈ a.dead → id < a.nextLoop ∧ ∀ told, (id, told) ∉ a.roll

theorem Sound.lt (h : a.Sound) {told : Bool} (hid : (id, told) ∈ a.roll) : id < a.nextLoop := by
  cases told with
  | false =>
    have := (h.active (h.untold hid)).1
    omega
  | true => exact (h.told hid).1

theorem Sound.of_eq (h : a.Sound) (ha : b.active = a.active) (hn : b.nextLoop = a.nextLoop)
    (hr : b.roll = a.roll) (hd : b.dead = a.dead) : b.Sound := by
  obtain ⟨hactive, huntold, htold, hdead⟩ := h
  constructor <;> grind

theorem Sound.create {interval : Duration} (h : Actuator.create interval = .ok a) : a.Sound := by
  unfold Actuator.create at h
  split at h
  · exact nomatch h
  · obtain rfl := Except.ok.inj h
    exact ⟨nofun, nofun, nofun, nofun⟩

theorem Sound.start (h : a.Sound) (hs : a.start now = .ok b) : b.Sound := by
  obtain ⟨hfree, _, ha, hn, hborn⟩ := eq_of_start hs
  have hlt := @h.lt
  obtain ⟨_, huntold, htold, hdead⟩ := h
  -- the new loop is newer than all others; it lives, or is dead already
  rcases hborn with ⟨hr, hd⟩ | ⟨hr, hd⟩
  · constructor <;> grind
  · constructor <;> grind

theorem Sound.requestStop (h : a.Sound) (hs : a.requestStop = some (id, b)) : b.Sound := by
  obtain ⟨ha, hb, _, hn, hd, hr⟩ := eq_of_requestStop hs
  have hmem := mem_roll_of_requestStop hs
  have hlt := @h.lt
  obtain ⟨hactive, huntold, htold, hdead⟩ := h
  constructor <;> grind

theorem Sound.leave (h : a.Sound) (hid : (id, true) ∈ a.roll) : (a.leave id).Sound := by
  have hmem (e : Nat × Bool) : e ∈ (a.leave id).roll ↔ e ∈ a.roll ∧ e.1 ≠ id := mem_roll_dropLoop
  obtain ⟨hactive, huntold, htold, hdead⟩ := h
  have hnot := (htold hid).2
  constructor <;> grind [Actuator.leave, Actuator.dropLoop]

theorem Sound.die {told : Bool} (h : a.Sound) (hid : (id, told) ∈ a.roll) : (a.die id).Sound := by
  have hmem (e : Nat × Bool) : e ∈ (a.die id).roll ↔ e ∈ a.roll ∧ e.1 ≠ id := mem_roll_dropLoop
  have hlt := h.lt hid
  obtain ⟨hactive, huntold, htold, hdead⟩ := h
  constructor <;> grind [Actuator.die, Actuator.dropLoop]

end Actuator

namespace Course

open Actuator

variable {s s' : Course} {d : Deed} {id : Nat}

theorem Reachable.running_iff (h : Reachable s) :
    s.actuator.running = true ↔ 0 < s.actuator.nextLoop ∧ s.cleared = [] := by
  induction h with
  | create h =>
    unfold Actuator.create at h
    split at h
    · exact nomatch h
    · obtain rfl := Except.ok.inj h
      simp
  | next _ st ih =>
    cases st with
    | start _ hs =>
      obtain ⟨_, hset, _, hn, _⟩ := eq_of_start hs
      simp [hset, hn]
    | failStart | confirm | leave => simp [confirmStopped, Actuator.leave]
    | stopOwn _ hs | stop _ _ hs =>
      obtain ⟨_, _, hsame, hn, _⟩ := eq_of_requestStop hs
      simpa only [hsame, hn] using ih
    | _ => exact ih

theorem Step.sound (h : s.actuator.Sound) (st : Step s d s') : s'.actuator.Sound := by
  cases st with
  | refuse | stopNothing => exact h
  | start _ hs => exact h.start hs
  | failStart | confirm => exact h.of_eq rfl rfl rfl rfl
  | stopOwn _ hs | stop _ _ hs => exact h.requestStop hs
  | beginTick => exact h.of_eq rfl rfl roll_beginTick rfl
  | endTick => exact h.of_eq rfl rfl roll_endTick rfl
  | leave hl _ ht => exact h.leave (mem_roll.mpr ⟨_, hl, rfl, ht⟩)
  | die hl => exact h.die (mem_roll.mpr ⟨_, hl, rfl, rfl⟩)

theorem Reachable.sound (h : Reachable s) : s.actuator.Sound := by
  induction h with
  | create h => exact .create h
  | next _ st ih => exact st.sound ih

/-- Only loops that do not hold the place any more clear the flag, and the stops of such loops. -/
structure Recorded (s : Course) : Prop where
  stops : ∀ {call}, call ∈ s.stops →
    call.loop < s.actuator.nextLoop ∧ s.actuator.active ≠ some call.loop
  cleared : ∀ {c}, c ∈ s.cleared → ∀ {id}, c.loop? = some id →
    id < s.actuator.nextLoop ∧ s.actuator.active ≠ some id
  failed : .failed ∈ s.cleared → s.actuator.active = none
  newest : ∀ {id}, id + 1 = s.actuator.nextLoop →
    (∃ told, (id, told) ∈ s.actuator.roll) ∨ id ∈ s.actuator.dead ∨ .left id ∈ s.cleared

theorem Recorded.step (h : s.Recorded) (ha : s.actuator.Sound) (st : Step s d s') :
    s'.Recorded := by
  obtain ⟨hstops, hcleared, hfailed, hnewest⟩ := h
  cases st with
  | refuse | stopNothing => exact ⟨hstops, hcleared, hfailed, hnewest⟩
  | start _ hs =>
    obtain ⟨_, hset, hactive, hn, hborn⟩ := eq_of_start hs
    constructor <;> grind
  | failStart _ hfree =>
    have hroll : Actuator.roll { s.actuator with running := false } = s.actuator.roll := rfl
    constructor <;> grind [Clearing.loop?]
  | stopOwn _ hs | stop _ _ hs =>
    obtain ⟨hactive, hnone, hsame, hn, hdead, _⟩ := eq_of_requestStop hs
    have hlt := (ha.active hactive).1
    have hmem := mem_roll_of_requestStop hs
    constructor <;> grind
  | @confirm before call after hc hgone =>
    have hroll : s.actuator.confirmStopped.roll = s.actuator.roll := rfl
    have hrest {k : StopCall} (hk : k ∈ before ++ after) : k ∈ s.stops := by grind
    have hcall := @hstops call (by simp [hc])
    constructor <;> grind [confirmStopped, Clearing.loop?]
  | beginTick =>
    refine ⟨hstops, hcleared, hfailed, fun hid => ?_⟩
    rw [roll_beginTick]
    exact hnewest hid
  | endTick =>
    refine ⟨hstops, hcleared, hfailed, fun hid => ?_⟩
    rw [roll_endTick]
    exact hnewest hid
  | @leave l hl _ ht =>
    have htold : (l.id, true) ∈ s.actuator.roll := mem_roll.mpr ⟨l, hl, rfl, ht⟩
    have hmem (e : Nat × Bool) :
        e ∈ (s.actuator.leave l.id).roll ↔ e ∈ s.actuator.roll ∧ e.1 ≠ l.id := mem_roll_dropLoop
    have hold := ha.told htold
    constructor <;> grind [Actuator.leave, Actuator.dropLoop, Clearing.loop?]
  | @die l hl =>
    have hmem (e : Nat × Bool) :
        e ∈ (s.actuator.die l.id).roll ↔ e ∈ s.actuator.roll ∧ e.1 ≠ l.id := mem_roll_dropLoop
    constructor <;> grind [Actuator.die, Actuator.dropLoop]

theorem Reachable.recorded (h : Reachable s) : s.Recorded := by
  induction h with
  | create h =>
    unfold Actuator.create at h
    split at h
    · exact nomatch h
    · obtain rfl := Except.ok.inj h
      exact ⟨nofun, nofun, nofun, nofun⟩
  | next h st ih => exact ih.step h.sound st

/-- All that is still there, or has come in between, is about the newest loop. -/
structure Apart (s : Course) : Prop where
  loops : ∀ {id told}, (id, told) ∈ s.actuator.roll → id + 1 = s.actuator.nextLoop
  stops : ∀ {call}, call ∈ s.stops → call.loop + 1 = s.actuator.nextLoop
  cleared : ∀ {c}, c ∈ s.cleared → ∀ {id}, c.loop? = some id → id + 1 = s.actuator.nextLoop

theorem Apart.step (h : s.overlapped = false → s.Apart) (ha : s.actuator.Sound)
    (st : Step s d s') (hs : s'.overlapped = false) : s'.Apart := by
  cases st with
  | start _ hstart =>
    -- nothing was left of the earlier loops
    obtain ⟨hloops, hstops⟩ : s.actuator.loops = [] ∧ s.stops = [] := by simpa using hs
    have hroll : s.actuator.roll = [] := by simp [Actuator.roll, hloops]
    obtain ⟨_, _, _, hn, hborn⟩ := eq_of_start hstart
    constructor <;> grind
  | refuse | stopNothing => exact h hs
  | failStart =>
    obtain ⟨hloops, hstops, hcleared⟩ := h hs
    exact ⟨hloops, hstops, by grind [Clearing.loop?]⟩
  | stopOwn _ hstop | stop _ _ hstop =>
    obtain ⟨hloops, hstops, hcleared⟩ := h hs
    obtain ⟨hactive, _, _, hn, _⟩ := eq_of_requestStop hstop
    have hnewest := (ha.active hactive).1
    have hmem := mem_roll_of_requestStop hstop
    constructor <;> grind
  | @confirm before call after hc =>
    obtain ⟨hloops, hstops, hcleared⟩ := h hs
    have hrest {k : StopCall} (hk : k ∈ before ++ after) : k ∈ s.stops := by grind
    have hcall := @hstops call (by simp [hc])
    exact ⟨hloops, fun hk => hstops (hrest hk), by grind [Clearing.loop?, confirmStopped]⟩
  | beginTick =>
    obtain ⟨hloops, hstops, hcleared⟩ := h hs
    exact ⟨fun hid => hloops (roll_beginTick ▸ hid), hstops, hcleared⟩
  | endTick =>
    obtain ⟨hloops, hstops, hcleared⟩ := h hs
    exact ⟨fun hid => hloops (roll_endTick ▸ hid), hstops, hcleared⟩
  | @leave l hl =>
    obtain ⟨hloops, hstops, hcleared⟩ := h hs
    have hnewest := hloops (mem_roll.mpr ⟨l, hl, rfl, rfl⟩)
    exact ⟨fun hid => hloops (mem_roll_dropLoop.mp hid).1, hstops,
      by grind [Clearing.loop?, Actuator.leave, Actuator.dropLoop]⟩
  | die =>
    obtain ⟨hloops, hstops, hcleared⟩ := h hs
    exact ⟨fun hid => hloops (mem_roll_dropLoop.mp hid).1, hstops, hcleared⟩

theorem Reachable.apart (h : Reachable s) (hs : s.overlapped = false) : s.Apart := by
  induction h with
  | create h =>
    unfold Actuator.create at h
    split at h
    · exact nomatch h
    · obtain rfl := Except.ok.inj h
      exact ⟨nofun, nofun, nofun⟩
  | next h st ih => exact Apart.step ih h.sound st hs

theorem ticks_iff : s.Ticks ↔ ∃ id, (id, false) ∈ s.actuator.roll := by
  simp only [Ticks, mem_roll]
  exact ⟨fun ⟨l, hl, ht⟩ => ⟨l.id, l, hl, rfl, ht⟩, fun ⟨_, l, hl, _, ht⟩ => ⟨l, hl, ht⟩⟩

theorem overtaken_iff : s.Overtaken ↔ ∃ id, (id, false) ∈ s.actuator.roll ∧
    ∃ earlier < id, .left earlier ∈ s.cleared ∨ .joined earlier ∈ s.cleared := by
  simp only [Overtaken, mem_roll]
  exact ⟨fun ⟨l, hl, ht, hc⟩ => ⟨l.id, ⟨l, hl, rfl, ht⟩, hc⟩,
    fun ⟨_, ⟨l, hl, hid, ht⟩, hc⟩ => ⟨l, hl, ht, hid ▸ hc⟩⟩

/-- While a loop ticks, what has cleared its flag was about an earlier one. -/
theorem Reachable.overtaken_of_cleared (h : Reachable s) (ht : s.Ticks) (hc : s.cleared ≠ []) :
    s.Overtaken := by
  have hr := h.recorded
  obtain ⟨id, hid⟩ := ticks_iff.mp ht
  have hactive := h.sound.untold hid
  have hnewest := (h.sound.active hactive).1
  obtain ⟨c, hmem⟩ := List.exists_mem_of_ne_nil _ hc
  rw [overtaken_iff]
  refine ⟨id, hid, ?_⟩
  have hearlier {loop : Nat} (hl : c.loop? = some loop) : loop < id := by
    obtain ⟨hlt, hne⟩ := hr.cleared hmem hl
    have : loop ≠ id := fun heq => hne (heq ▸ hactive)
    omega
  cases c with
  | left loop => exact ⟨loop, hearlier rfl, .inl hmem⟩
  | joined loop => exact ⟨loop, hearlier rfl, .inr hmem⟩
  | failed => exact nomatch (hr.failed hmem).symm.trans hactive

/-- Where no loop ticks, and all that were told to end have ended, the newest has cleared the
flag or has been killed. -/
theorem Reachable.forsaken_of_not_ticks (h : Reachable s) (hq : s.Quiet) (ht : ¬s.Ticks)
    (hn : 0 < s.actuator.nextLoop) (hc : s.cleared = []) : s.Forsaken := by
  have hnewest : s.actuator.nextLoop - 1 + 1 = s.actuator.nextLoop := by omega
  rcases h.recorded.newest hnewest with ⟨told, hmem⟩ | hdead | hleft
  · obtain ⟨l, hl, _, rfl⟩ := mem_roll.mp hmem
    exact absurd ⟨l, hl, hq.told l hl⟩ ht
  · exact ⟨_, hdead, hnewest, hc⟩
  · simp [hc] at hleft

theorem Forsaken.not_ticks (ha : s.actuator.Sound) (hf : s.Forsaken) : ¬s.Ticks := by
  obtain ⟨id, hdead, hnewest, _⟩ := hf
  intro ht
  obtain ⟨i, hi⟩ := ticks_iff.mp ht
  have := (ha.active (ha.untold hi)).1
  obtain rfl : i = id := by omega
  exact (ha.dead hdead).2 _ hi

theorem Apart.not_overtaken (h : s.Apart) : ¬s.Overtaken := by
  rw [overtaken_iff]
  rintro ⟨id, hid, earlier, hlt, hc⟩
  have hnewest := h.loops hid
  have hearlier : earlier + 1 = s.actuator.nextLoop := by
    rcases hc with hc | hc
    · exact h.cleared hc rfl
    · exact h.cleared hc rfl
  omega

/-- In a quiet state the flag tells whether a loop ticks, unless the loop that ticks has been
overtaken or the newest loop is forsaken; and then it tells the opposite. Neither happens
where the newest loop was started after all that belonged to the earlier ones had gone, and
was not killed. -/
theorem running_iff_ticks (h : Reachable s) (hq : s.Quiet) :
    ((s.actuator.running = true ↔ s.Ticks) ↔ ¬s.Overtaken ∧ ¬s.Forsaken) ∧
      (s.Overtaken → s.actuator.running = false ∧ s.Ticks) ∧
      (s.Forsaken → s.actuator.running = true ∧ ¬s.Ticks) ∧
      (s.overlapped = false → (∀ id ∈ s.actuator.dead, id + 1 ≠ s.actuator.nextLoop) →
        (s.actuator.running = true ↔ s.Ticks)) := by
  have hovertaken (ho : s.Overtaken) : s.actuator.running = false ∧ s.Ticks := by
    obtain ⟨l, hl, ht, earlier, _, hc⟩ := ho
    have hne : s.cleared ≠ [] := by
      rcases hc with hc | hc <;> exact List.ne_nil_of_mem hc
    exact ⟨by simpa [hne] using h.running_iff, l, hl, ht⟩
  have hforsaken (hf : s.Forsaken) : s.actuator.running = true ∧ ¬s.Ticks := by
    refine ⟨?_, hf.not_ticks h.sound⟩
    obtain ⟨id, _, hnewest, hc⟩ := hf
    exact h.running_iff.mpr ⟨by omega, hc⟩
  have hiff (ho : ¬s.Overtaken) (hf : ¬s.Forsaken) : s.actuator.running = true ↔ s.Ticks := by
    constructor
    · intro hrunning
      obtain ⟨hn, hc⟩ := h.running_iff.mp hrunning
      by_contra ht
      exact hf (h.forsaken_of_not_ticks hq ht hn hc)
    · intro ht
      obtain ⟨id, hid⟩ := ticks_iff.mp ht
      have hlt := h.sound.lt hid
      refine h.running_iff.mpr ⟨by omega, ?_⟩
      by_contra hc
      exact ho (h.overtaken_of_cleared ht hc)
  refine ⟨⟨fun heq => ⟨fun ho => ?_, fun hf => ?_⟩, fun ⟨ho, hf⟩ => hiff ho hf⟩, hovertaken,
    hforsaken, fun hs hdead => ?_⟩
  · obtain ⟨hclear, ht⟩ := hovertaken ho
    exact nomatch hclear.symm.trans (heq.mpr ht)
  · obtain ⟨hset, ht⟩ := hforsaken hf
    exact ht (heq.mp hset)
  · exact hiff (h.apart hs).not_overtaken fun ⟨id, hmem, hnewest, _⟩ => hdead id hmem hnewest

/-- An actuator that has just been started. -/
theorem running_iff_ticks_started :
    ∃ s, Reachable s ∧ s.Quiet ∧ s.Ticks ∧ s.actuator.running = true := by
  have h₀ : Reachable (Course.idle (.ofMillis 10)) := .idle (by decide)
  have h₁ := h₀.next (d := .start none 0) (.start trivial rfl)
  obtain ⟨_, _, _, hiff⟩ := running_iff_ticks h₁ ⟨rfl, by decide⟩
  exact ⟨_, h₁, ⟨rfl, by decide⟩, ⟨_, List.Mem.head _, rfl⟩,
    (hiff rfl (by decide)).mpr ⟨_, List.Mem.head _, rfl⟩⟩

/-- The flag misleads when a tick stops its own actuator and starts it again, and when the
clock ends before the first tick. -/
theorem running_misleads :
    (∃ s, Reachable s ∧ s.Quiet ∧ s.Ticks ∧ s.actuator.running = false) ∧
      ∃ s, Reachable s ∧ s.Quiet ∧ ¬s.Ticks ∧ s.actuator.running = true := by
  constructor
  · have h₀ : Reachable (Course.idle (.ofMillis 10)) := .idle (by decide)
    have h₁ := h₀.next (d := .start none 0) (.start trivial rfl)
    have h₂ := h₁.next (.beginTick (List.Mem.head _) rfl (Nat.le_refl _))
    have h₃ := h₂.next (d := .stop (some 0))
      (.stopOwn ⟨⟨_, List.Mem.head _, rfl, rfl⟩, nofun⟩ rfl)
    have h₄ := h₃.next (d := .start (some 0) 10000000)
      (.start ⟨⟨_, List.Mem.head _, rfl, rfl⟩, nofun⟩ rfl)
    have h₅ := h₄.next (.endTick (List.Mem.head _) rfl nofun)
    have h₆ := h₅.next (.leave (List.Mem.head _) rfl rfl)
    exact ⟨_, h₆, ⟨rfl, by decide⟩, ⟨_, List.Mem.head _, rfl⟩, rfl⟩
  · have h₀ : Reachable (Course.idle (.ofSecs 18446744073709551615)) := .idle (by decide)
    have h₁ := h₀.next (d := .start none 0) (.start trivial rfl)
    exact ⟨_, h₁, ⟨rfl, by decide⟩, nofun, rfl⟩

end Course
end TaskEngine
