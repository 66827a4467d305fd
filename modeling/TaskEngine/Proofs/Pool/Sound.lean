import TaskEngine.Proofs.Pool.Session

/-! In every session the pool keeps its sizes, its counters agree with its crew, and once a
call has begun to shut it down it stays stopping. -/

namespace TaskEngine
namespace Session

open Pool

variable {c : PoolConfig} {s s' : Session} {d : Deed}

structure Sound (c : PoolConfig) (s : Session) : Prop where
  later : (Pool.start c).Later s.pool
  consistent : s.pool.Consistent
  stopping_iff : s.pool.stopping = true ↔ s.calls ≠ []

theorem Step.later (st : Step s d s') : s.pool.Later s'.pool := by
  cases st with
  | refuse h =>
    obtain rfl := eq_of_submitWith_error h
    exact ⟨rfl, rfl, rfl, fun h => h⟩
  | accept h => exact later_submitWith_ok h
  | notify | notifyNobody | stir | timeOut => exact ⟨rfl, rfl, rfl, fun h => h⟩
  | turn hw h => exact (later_roused _ _).trans (turn_held h).later
  | endTask => exact .refl _
  | finish => exact later_finish _ _ _
  | shutdownStopped => exact .refl _
  | shutdown ho h => exact later_beginDrain h
  | shutdownNow => exact later_takeQueued _
  | dropTask | countDropped | alert | skip | join => exact ⟨rfl, rfl, rfl, fun h => h⟩
  | confirm => exact later_confirmStopped _
  | read | dropHandle => exact .refl _

theorem Sound.step_consistent (h : s.Sound c) (st : Step s d s') : s'.pool.Consistent := by
  have hp := h.consistent
  cases st with
  | refuse hs =>
    obtain rfl := eq_of_submitWith_error hs
    exact { hp with }
  | accept hs => exact hp.submitWith_ok hs
  | notify hn hw => exact hp.wake hw
  | notifyNobody => exact hp
  | stir hw => exact hp.wake hw
  | timeOut hw => exact hp.wake hw
  | turn hw ht => exact (hp.atLock_turn hw ht).held_consistent (turn_held ht)
  | endTask => exact hp
  | finish hw he => exact (hp.atLock_executing hw).finish_consistent _
  | shutdownStopped => exact hp
  | shutdown ho hb => exact hp.beginDrain hb
  | shutdownNow => exact hp.takeQueued
  | dropTask => exact hp
  | countDropped => exact { hp with }
  | alert => exact hp.notifyAll
  | skip | join => exact hp
  | confirm hc hs ha => exact hp.confirmStopped (h.stopping_iff.mpr (by simp [hc])) ha
  | read | dropHandle => exact hp

theorem Sound.step_stopping (h : s.Sound c) (st : Step s d s') :
    s'.pool.stopping = true ↔ s'.calls ≠ [] := by
  have hcalls := h.stopping_iff
  cases st with
  | refuse hs =>
    obtain rfl := eq_of_submitWith_error hs
    exact hcalls
  | accept hs =>
    simp only [submitWith_stopping hs]
    exact hcalls
  | turn hw ht =>
    simp only [(turn_held ht).stopping, roused_stopping]
    exact hcalls
  | finish hw he =>
    simp only [finish_stopping]
    exact hcalls
  | shutdownStopped ho hb =>
    have hst := beginDrain_eq_none_iff.mp hb
    have hr := h.consistent.running_iff
    simpa [hst] using hr
  | shutdown ho hb =>
    rw [eq_of_beginDrain hb]
    simp
  | shutdownNow => simp [takeQueued]
  | dropTask hc | countDropped hc | alert hc | skip hc | join hc =>
    show s.pool.stopping = true ↔ _
    simpa [hc] using hcalls
  | confirm hc =>
    rw [confirmStopped_fst]
    simpa [hc] using hcalls
  | notify | notifyNobody | stir | timeOut | endTask | read | dropHandle => exact hcalls

theorem Sound.step (h : s.Sound c) (st : Step s d s') : s'.Sound c :=
  ⟨h.later.trans st.later, h.step_consistent st, h.step_stopping st⟩

theorem sound_start (hc : c.validate = .ok ()) : (start c).Sound c := by
  obtain ⟨_, hle, _⟩ := (PoolConfig.validate_eq_ok_iff c).mp hc
  exact ⟨.refl _, consistent_start (UInt64.le_iff_toNat_le.mp hle), by simp [start]⟩

theorem Reachable.sound (hc : c.validate = .ok ()) (h : Reachable c s) : s.Sound c := by
  induction h with
  | start => exact sound_start hc
  | next _ st ih => exact ih.step st

section Sizes

variable (hc : c.validate = .ok ())
include hc

theorem core_pos : 0 < c.coreThreads.toNat := by
  obtain ⟨hne, _⟩ := (PoolConfig.validate_eq_ok_iff c).mp hc
  exact Nat.pos_of_ne_zero fun hz => hne (UInt64.toNat_inj.mp hz)

theorem max_pos : 0 < c.maxThreads.toNat := by
  obtain ⟨_, hle, _⟩ := (PoolConfig.validate_eq_ok_iff c).mp hc
  exact Nat.lt_of_lt_of_le (core_pos hc) (UInt64.le_iff_toNat_le.mp hle)

theorem capacity_pos : 0 < c.queueCapacity.toNat := by
  obtain ⟨_, _, hne⟩ := (PoolConfig.validate_eq_ok_iff c).mp hc
  exact Nat.pos_of_ne_zero fun hz => hne (UInt64.toNat_inj.mp hz)

end Sizes

theorem Sound.max_eq (h : s.Sound c) : s.pool.max = c.maxThreads.toNat := by
  rw [h.later.max_eq, start_max]

theorem Sound.capacity_eq (h : s.Sound c) : s.pool.queue.capacity = c.queueCapacity.toNat := by
  rw [h.later.capacity_eq, start_queue, BoundedQueue.capacity_empty]

theorem Sound.core_eq (h : s.Sound c) : s.pool.core = c.coreThreads.toNat := by
  rw [h.later.core_eq, start_core]

theorem Sound.notifyOne {n : Nat} (h : s.Sound c) (hn : s.notices = n + 1) :
    ∃ worker, Step s (.notify worker) { s with pool := s.pool.notifyOne, notices := n } := by
  rcases wakeFirst_cases s.pool.crew h.consistent.ids_nodup with ⟨he, hz⟩ | ⟨id, timed, hw, he⟩
  · refine ⟨none, ?_⟩
    rw [Pool.notifyOne, he]
    exact .notifyNobody hn hz
  · refine ⟨some id, ?_⟩
    rw [Pool.notifyOne, he]
    exact .notify hn hw

end Session
end TaskEngine
