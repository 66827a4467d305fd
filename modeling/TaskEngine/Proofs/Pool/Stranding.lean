import TaskEngine.Proofs.Pool.Delivery
import TaskEngine.Proofs.Pool.Staffing

/-! A queued task has a worker as long as fewer workers have been lost than the pool may
have. With that many lost it need not have one, and the pool goes on without workers,
running or stopped. -/

namespace TaskEngine
namespace Session

open Pool

variable {c : PoolConfig} {s s' : Session} {d : Deed} {k m n : Nat}

/-- A running pool in which `k` workers execute tasks, `n` were lost and `m` tasks are queued, and
all other workers are new. -/
structure Busy (c : PoolConfig) (k n m : Nat) (s : Session) : Prop where
  reachable : Reachable c s
  calls : s.calls = []
  spawned : s.failedSpawns = 0
  idle : s.pool.idle = 0
  executing : s.pool.executing.length = k
  lost : s.lost.length = n
  queued : s.pool.queue.size = m
  running : ∀ task ∈ s.pool.executing, ∀ e ∈ s.executions, e.task.channel ≠ task.channel

theorem busy_start (c : PoolConfig) : Busy c 0 0 0 (start c) where
  reachable := .start
  calls := rfl
  spawned := rfl
  idle := by simp
  executing := by simp
  lost := rfl
  queued := by simp [BoundedQueue.size]
  running := by simp

section Deeds

variable (hc : c.validate = .ok ())
include hc

theorem Busy.stopping (h : Busy c k n m s) : s.pool.stopping = false := by
  have := (h.reachable.sound hc).stopping_iff
  simpa [h.calls] using this

theorem Busy.accepts (h : Busy c k n m s) (hm : m < c.queueCapacity.toNat) :
    ∃ q, s.pool.submitWith true ⟨[], s.submits⟩ = (q, .ok ()) := by
  refine submitWith_of_lt (h.stopping hc) ?_ true _
  rw [h.queued, (h.reachable.sound hc).capacity_eq]
  exact hm

theorem Busy.employ (h : Busy c k n 0 s) (hk : k < c.maxThreads.toNat) :
    ∃ s', Busy c (k + 1) n 0 s' := by
  obtain ⟨q, hq⟩ := h.accepts hc (capacity_pos hc)
  have hnext := h.reachable.next (d := .submit [] true) (.accept hq)
  have hp := (hnext.sound hc).consistent
  obtain ⟨_, hidle, _⟩ := submit_counts hq
  obtain ⟨hitems, hexecuting, _⟩ := submit_ledger hq
  obtain ⟨id, hw⟩ : ∃ id, ⟨id, .starting⟩ ∈ q.crew := by
    have hsupply := submit_supply hq (n := 0) (.inr (by simp [h.queued]))
    have hlength := q.crew_length
    have hactive := hp.active_eq
    have hidle' := hp.idle_eq
    have hmax := (hnext.sound hc).max_eq
    have hidle₀ := h.idle
    have hk' := h.executing
    have hsize : q.queue.size = 1 := by simp [submit_counts hq, h.queued]
    simp only at hactive hidle' hmax
    refine exists_starting ?_
    rw [hexecuting] at hlength
    omega
  have hnone : s.pool.queue.items = [] := List.length_eq_zero_iff.mp h.queued
  rw [hnone, List.nil_append] at hitems
  obtain ⟨queue, hpop, hqueue⟩ := BoundedQueue.pop_of_items hitems
  have ht : q.turn ⟨id, .starting⟩ = some
      ({ q with queue }.setPhase id (.executing ⟨[], s.submits⟩), .run ⟨[], s.submits⟩) := by
    simp [turn, dispatch, hpop]
  have hbefore := turn_executing hp hw ht
  have hafter := (hp.atLock_turn hw ht).held_executing (turn_held ht)
  rw [roused_others] at hafter
  have hperm := hafter.trans (hbefore.symm.append_left _)
  simp only [hexecuting] at hperm
  refine ⟨_, hnext.next (.turn hw ht), h.calls, h.spawned, hidle.trans h.idle, ?_, h.lost, ?_, ?_⟩
  · rw [hperm.length_eq, List.length_append, h.executing]
    simp [Turn.begun, Nat.add_comm]
  · simp [setPhase, BoundedQueue.size, hqueue]
  · intro task htask e he
    rcases List.mem_append.mp (hperm.mem_iff.mp htask) with hnew | hold
    · rw [List.mem_singleton.mp hnew]
      exact Nat.ne_of_lt (h.reachable.executed_lt hc he)
    · exact h.running task hold e he

theorem Busy.kill (h : Busy c (k + 1) n m s) :
    ∃ s', Busy c k (n + 1) m s' ∧ s'.pool.active + 1 = s.pool.active := by
  have hp := (h.reachable.sound hc).consistent
  obtain ⟨task, htask⟩ := List.exists_mem_of_length_pos (by rw [h.executing]; exact Nat.succ_pos k)
  obtain ⟨⟨id, _⟩, hw, rfl⟩ := mem_tasksOf.mp htask
  have hend := h.reachable.next (d := .endTask id (.panicked (.fragile "")))
    (@Step.endTask s id task _ true _ _ ⟨hw, h.running task htask⟩ (by simp [h.calls]) rfl)
  have hnext := hend.next (d := .finish id) (.finish hw (List.mem_append_right _ (.head _)))
  have hperm := executing_perm hp hw
  have hlive := List.length_pos_of_mem hw
  have hactive := hp.active_eq
  refine ⟨_, ⟨hnext, h.calls, h.spawned, h.idle, ?_, ?_, h.queued, ?_⟩, ?_⟩
  · have := hperm.length_eq
    rw [h.executing] at this
    exact (Nat.succ.inj this).symm
  · simp [Execution.lost, h.lost]
  · intro t ht e he
    have hmem : t ∈ s.pool.executing := hperm.mem_iff.mpr (List.mem_cons_of_mem _ ht)
    rcases List.mem_append.mp he with hold | hnew
    · exact h.running t hmem e hold
    · rw [List.mem_singleton.mp hnew]
      have hnodup := h.reachable.executing_nodup hc
      rw [(hperm.map _).nodup_iff, List.map_cons, List.nodup_cons] at hnodup
      exact fun heq => hnodup.1 (heq ▸ List.mem_map_of_mem ht)
  · show s.pool.active - 1 + 1 = s.pool.active
    omega

theorem Busy.enqueue (h : Busy c c.maxThreads.toNat n m s) (hm : m < c.queueCapacity.toNat) :
    ∃ s', Busy c c.maxThreads.toNat n (m + 1) s' := by
  obtain ⟨q, hq⟩ := h.accepts hc hm
  have hnext := h.reachable.next (d := .submit [] true) (.accept hq)
  obtain ⟨hsize, hidle, _⟩ := submit_counts hq
  obtain ⟨_, hexecuting, _⟩ := submit_ledger hq
  refine ⟨_, hnext, h.calls, h.spawned, hidle.trans h.idle, ?_, h.lost, ?_, ?_⟩
  · rw [hexecuting, h.executing]
  · rw [hsize, h.queued]
  · rw [hexecuting]
    exact h.running

theorem Busy.employAll (h : Busy c 0 n 0 s) (hk : k ≤ c.maxThreads.toNat) :
    ∃ s', Busy c k n 0 s' := by
  induction k with
  | zero => exact ⟨s, h⟩
  | succ k ih =>
    obtain ⟨s₁, h₁⟩ := ih (Nat.le_of_succ_le hk)
    exact h₁.employ hc hk

theorem exists_busy (n : Nat) : ∃ s, Busy c 0 n 0 s := by
  induction n with
  | zero => exact ⟨_, busy_start c⟩
  | succ n ih =>
    obtain ⟨s₁, h₁⟩ := ih
    obtain ⟨s₂, h₂⟩ := h₁.employ hc (max_pos hc)
    obtain ⟨s₃, h₃, _⟩ := h₂.kill hc
    exact ⟨s₃, h₃⟩

theorem Busy.fill (h : Busy c c.maxThreads.toNat n 0 s) (hm : m ≤ c.queueCapacity.toNat) :
    ∃ s', Busy c c.maxThreads.toNat n m s' := by
  induction m with
  | zero => exact ⟨s, h⟩
  | succ m ih =>
    obtain ⟨s₁, h₁⟩ := ih (Nat.le_of_succ_le hm)
    exact h₁.enqueue hc hm

theorem Busy.killAll (h : Busy c k n m s) (ha : s.pool.active = k) :
    ∃ s', Busy c 0 (n + k) m s' ∧ s'.pool.active = 0 := by
  induction k generalizing n s with
  | zero => exact ⟨s, h, ha⟩
  | succ k ih =>
    obtain ⟨s₁, h₁, hactive⟩ := h.kill hc
    obtain ⟨s₂, h₂, hnone⟩ := ih h₁ (by omega)
    refine ⟨s₂, ?_, hnone⟩
    rwa [Nat.add_right_comm, Nat.add_assoc] at h₂

theorem exists_abandoned (hn : c.maxThreads.toNat ≤ n) :
    ∃ s, Busy c 0 n c.queueCapacity.toNat s ∧ s.pool.active = 0 := by
  obtain ⟨s₀, h₀⟩ := exists_busy hc (n - c.maxThreads.toNat)
  obtain ⟨s₁, h₁⟩ := h₀.employAll hc (Nat.le_refl _)
  obtain ⟨s₂, h₂⟩ := h₁.fill hc (Nat.le_refl _)
  have hp := (h₂.reachable.sound hc).consistent
  have hactive : s₂.pool.active = c.maxThreads.toNat := by
    have hle := hp.active_le
    have hlength := s₂.pool.crew_length
    rw [(h₂.reachable.sound hc).max_eq] at hle
    rw [← hp.active_eq, h₂.executing] at hlength
    omega
  obtain ⟨s₃, h₃, hnone⟩ := h₂.killAll hc hactive
  rw [Nat.sub_add_cancel hn] at h₃
  exact ⟨s₃, h₃, hnone⟩

theorem Busy.stop (h : Busy c 0 n m s) (ha : s.pool.active = 0) :
    ∃ s', Reachable c s' ∧ s'.failedSpawns = 0 ∧ s'.lost.length = n ∧
      s'.pool.stage = .stopped ∧ s'.pool.queue.size = m := by
  have hp := (h.reachable.sound hc).consistent
  have hcrew : s.pool.crew = [] := List.length_eq_zero_iff.mp (hp.active_eq ▸ ha)
  have hrunning := hp.running_iff.mpr (h.stopping hc)
  have hbegin : s.pool.beginDrain =
      some ({ s.pool with stopping := true, stage := .draining }, some s.pool.queue.size) := by
    simp [beginDrain, hrunning, h.stopping hc]
  have h₁ := h.reachable.next (d := .shutdown none) (.shutdown trivial hbegin)
  rw [h.calls] at h₁
  have h₂ := h₁.next (@Step.alert _ [] _ [] rfl rfl)
  have h₃ := h₂.next (@Step.join _ [] _ [] rfl rfl rfl)
  have h₄ := h₃.next (@Step.confirm _ [] _ [] _ rfl rfl ha fun t _ => by
    simp [phase?, Pool.notifyAll, hcrew])
  exact ⟨_, h₄, h.spawned, h.lost, rfl, h.queued⟩

end Deeds

/-- Of the runs with `n` lost workers, all leave every queued task a worker exactly if `n` is less
than the most workers that the pool may have. The same goes for a pool that has stopped, which
then has nothing queued, and for a running pool whose queue is full. Should threads fail to be
created, it takes at least the core. -/
theorem queued_has_worker_iff (hc : c.validate = .ok ()) (n : Nat) :
    ((∀ s, Reachable c s → s.failedSpawns = 0 → s.lost.length = n →
        s.pool.queue.items ≠ [] → 1 ≤ s.pool.active) ↔ n < c.maxThreads.toNat) ∧
      ((∀ s, Reachable c s → s.failedSpawns = 0 → s.lost.length = n →
        s.pool.stage = .stopped → s.pool.queue.items = []) ↔ n < c.maxThreads.toNat) ∧
      ((∀ s, Reachable c s → s.failedSpawns = 0 → s.lost.length = n →
        s.pool.stage = .running → s.pool.queue.isFull = true → 1 ≤ s.pool.active) ↔
          n < c.maxThreads.toNat) ∧
      ∀ s, Reachable c s → s.lost.length < c.coreThreads.toNat →
        s.pool.queue.items ≠ [] → 1 ≤ s.pool.active := by
  have hcapacity := capacity_pos hc
  have hholds : n < c.maxThreads.toNat → ∀ s, Reachable c s → s.failedSpawns = 0 →
      s.lost.length = n → s.pool.queue.items ≠ [] → 1 ≤ s.pool.active :=
    fun hn s h hf hl hq => h.active_pos hc hf (hl ▸ hn) hq
  have hnonempty : ∀ {s : Session}, s.pool.queue.size = c.queueCapacity.toNat →
      s.pool.queue.items ≠ [] := by
    intro s hs hq
    simp only [BoundedQueue.size, hq, List.length_nil] at hs
    omega
  refine ⟨⟨fun hall => ?_, hholds⟩, ⟨fun hall => ?_, fun hn s h hf hl hs => ?_⟩,
    ⟨fun hall => ?_, fun hn s h hf hl _ hfull => ?_⟩, fun s h hl hq => ?_⟩
  · by_contra hn
    obtain ⟨s, h, hnone⟩ := exists_abandoned hc (Nat.le_of_not_lt hn)
    have := hall s h.reachable h.spawned h.lost (hnonempty h.queued)
    omega
  · by_contra hn
    obtain ⟨s₀, h₀, hnone⟩ := exists_abandoned hc (Nat.le_of_not_lt hn)
    obtain ⟨s, h, hf, hl, hs, hq⟩ := h₀.stop hc hnone
    exact hnonempty hq (hall s h hf hl hs)
  · by_contra hq
    have hpos := hholds hn s h hf hl hq
    have hp := (h.sound hc).consistent
    rw [hp.active_eq, hp.empty_of_stopped hs] at hpos
    exact absurd hpos (by simp)
  · by_contra hn
    obtain ⟨s, h, hnone⟩ := exists_abandoned hc (Nat.le_of_not_lt hn)
    have hrunning := (h.reachable.sound hc).consistent.running_iff.mpr (h.stopping hc)
    have hfull : s.pool.queue.isFull = true := by
      rw [BoundedQueue.isFull_iff, h.queued, (h.reachable.sound hc).capacity_eq]
    have := hall s h.reachable h.spawned h.lost hrunning hfull
    omega
  · refine hholds hn s h hf hl (hnonempty ?_)
    rw [(BoundedQueue.isFull_iff _).mp hfull, (h.sound hc).capacity_eq]
  · exact h.active_pos_of_core hc hl hq

theorem queued_has_worker_solo : solo.validate = .ok () ∧ ∀ s, Reachable solo s →
    s.failedSpawns = 0 → s.lost.length = 0 → s.pool.queue.items ≠ [] → 1 ≤ s.pool.active :=
  ⟨rfl, (queued_has_worker_iff rfl 0).1.mpr (by decide)⟩

/-- Its only worker is killed by the first task while the second one is queued; the handle of
the second task then stays unanswered, also when the pool has stopped. -/
theorem stranded_solo : ∃ s s', Reachable solo s ∧ s.pool.stage = .running ∧
    s.pool.queue.items = [⟨[], 1⟩] ∧ s.pool.queue.isFull = true ∧ s.pool.active = 0 ∧
    Reachable solo s' ∧ s'.pool.stage = .stopped ∧ s'.pool.queue.items = [⟨[], 1⟩] ∧
    s'.pool.active = 0 ∧ s'.channels 1 = .empty := by
  have h₁ := Reachable.start.next (c := solo) (d := .submit [] true) (.accept rfl)
  have h₂ := h₁.next (.turn (List.Mem.head _) rfl)
  have h₃ := h₂.next (d := .submit [] true) (.accept rfl)
  have h₄ := h₃.next (d := .endTask 0 (.panicked (.fragile "")))
    (@Step.endTask _ _ ⟨[], 0⟩ _ true _ _ ⟨List.Mem.head _, nofun⟩ nofun rfl)
  have h₅ := h₄.next (d := .finish 0) (.finish (List.Mem.head _) (List.Mem.head _))
  have h₆ := h₅.next (d := .shutdown none) (.shutdown trivial rfl)
  have h₇ := h₆.next (@Step.alert _ [] _ [] rfl rfl)
  have h₈ := h₇.next (@Step.join _ [] _ [] rfl rfl rfl)
  have h₉ := h₈.next (@Step.confirm _ [] _ [] _ rfl rfl rfl fun _ _ => rfl)
  exact ⟨_, _, h₅, rfl, rfl, rfl, rfl, h₉, rfl, rfl, rfl, rfl⟩

end Session
end TaskEngine
