import TaskEngine.Proofs.Pool.Calls

/-! Tasks are begun, and drained, in the order in which they were submitted. A pool of one
worker at a time runs their bodies one after the other in this order, whoever the worker is.
-/

namespace TaskEngine

namespace Pool

variable {τ : Type} {p q : Pool τ} {id : Nat} {turn : Turn τ}

theorem executing_length_le (p : Pool τ) : p.executing.length ≤ p.crew.length :=
  List.length_filterMap_le _ _

theorem Consistent.others_eq_nil {w : Worker τ} (h : p.Consistent) (hw : w ∈ p.crew)
    (hone : p.crew.length ≤ 1) : p.others w.id = [] := by
  have hlength := (crew_perm h.ids_nodup hw).length_eq
  rw [List.length_cons] at hlength
  exact List.length_eq_zero_iff.mp (by omega)

theorem eq_begun_of_perm (hperm : q.executing.Perm (turn.begun ++ tasksOf (p.others id)))
    (ho : p.others id = []) : q.executing = turn.begun := by
  rw [ho, tasksOf_nil, List.append_nil] at hperm
  cases turn with
  | run task => exact List.perm_singleton.mp hperm
  | wait | leave | die => exact hperm.eq_nil

end Pool

namespace Session

open Pool

variable {c : PoolConfig} {s s' : Session} {d : Deed}

def isUnended (s : Session) (task : PoolTask) : Bool :=
  s.executions.all fun e => e.task.channel != task.channel

/-- The tasks whose bodies run: they are executed, and not yet at their end. -/
def running (s : Session) : List PoolTask := s.pool.executing.filter s.isUnended

theorem isUnended_iff {task : PoolTask} :
    s.isUnended task = true ↔ ∀ e ∈ s.executions, e.task.channel ≠ task.channel := by
  simp [isUnended]

theorem mem_running {task : PoolTask} : task ∈ s.running ↔ ∃ id, s.IsRunning id task := by
  have hexecuting : task ∈ s.pool.executing ↔ ∃ id, ⟨id, .executing task⟩ ∈ s.pool.crew :=
    mem_tasksOf.trans ⟨fun ⟨⟨id, _⟩, hw, hp⟩ => ⟨id, hp ▸ hw⟩, fun ⟨_, hw⟩ => ⟨_, hw, rfl⟩⟩
  simp [running, hexecuting, IsRunning, isUnended_iff]

theorem running_eq_self (h : ∀ task ∈ s.pool.executing, ∀ e ∈ s.executions,
    e.task.channel ≠ task.channel) : s.running = s.pool.executing :=
  List.filter_eq_self.mpr fun task ht => isUnended_iff.mpr (h task ht)

theorem running_eq_nil (h : ∀ task ∈ s.pool.executing, ∃ e ∈ s.executions, e.task = task) :
    s.running = [] := by
  refine List.eq_nil_iff_forall_not_mem.mpr fun task ht => ?_
  obtain ⟨id, hw, hnone⟩ := mem_running.mp ht
  obtain ⟨e, he, rfl⟩ := h task (mem_tasksOf.mpr ⟨_, hw, rfl⟩)
  exact hnone e he rfl

theorem isUnended_congr (hx : s'.executions = s.executions) : s'.isUnended = s.isUnended := by
  funext task
  rw [isUnended, isUnended, hx]

theorem Sound.running_length_le (h : s.Sound c) :
    s.running.length ≤ c.maxThreads.toNat := by
  have hcrew := h.consistent.active_eq
  have hmax := h.consistent.active_le
  rw [h.max_eq] at hmax
  have hle := executing_length_le s.pool
  have hrunning : s.running.length ≤ s.pool.executing.length := List.length_filter_le _ _
  omega

theorem Reachable.ascending (h : Reachable c s) :
    (s.accepted.map PoolTask.channel).Pairwise (· < ·) := by
  induction h with
  | start => exact List.Pairwise.nil
  | next h st ih =>
    cases st with
    | accept =>
      rw [List.map_append, List.pairwise_append]
      refine ⟨ih, List.pairwise_singleton _ _, ?_⟩
      simpa using h.numbered.lt
    | _ => exact ih

/-- What has been begun has ended, in the same order, but for what runs. -/
def OneByOne (s : Session) : Prop :=
  s.dispatched = s.executions.map Execution.task ++ s.running

theorem OneByOne.of_eq (h : s.OneByOne) (hp : s'.pool.executing.Perm s.pool.executing)
    (hlength : s.pool.executing.length ≤ 1) (hb : s'.dispatched = s.dispatched)
    (hx : s'.executions = s.executions) : s'.OneByOne := by
  have he : s'.pool.executing = s.pool.executing := by
    rcases hl : s.pool.executing with _ | ⟨task, rest⟩
    · exact (hl ▸ hp).eq_nil
    · obtain rfl : rest = [] := by simpa [hl] using hlength
      exact List.perm_singleton.mp (hl ▸ hp)
  unfold OneByOne at h ⊢
  rw [hb, hx, running, he, isUnended_congr hx]
  exact h

theorem OneByOne.begin {begun : List PoolTask} (h : s.OneByOne) (hc : c.validate = .ok ())
    (hr : Reachable c s') (hnone : s.running = []) (he : s'.pool.executing = begun)
    (hb : s'.dispatched = s.dispatched ++ begun) (hx : s'.executions = s.executions) :
    s'.OneByOne := by
  have hall : s.dispatched = s.executions.map Execution.task := by
    rw [h, hnone, List.append_nil]
  have hnodup := hr.dispatched_nodup hc
  rw [hb, hall, List.map_append] at hnodup
  have hrunning : s'.running = s'.pool.executing := by
    refine running_eq_self fun task ht e hmem heq => ?_
    rw [he] at ht
    rw [hx] at hmem
    exact List.disjoint_of_nodup_append hnodup
      (List.mem_map_of_mem (List.mem_map_of_mem hmem)) (heq ▸ List.mem_map_of_mem ht)
  rw [OneByOne, hb, hall, hx, hrunning, he]

theorem OneByOne.step (h : s.OneByOne) (hc : c.validate = .ok ()) (hr : Reachable c s)
    (hmax : c.maxThreads = 1) (st : Step s d s') : s'.OneByOne := by
  have hs := hr.sound hc
  have hp := hs.consistent
  -- a replacement is hired only when the worker before it has been counted out
  have hone : s.pool.crew.length ≤ 1 := by
    have hle := hp.active_le
    rw [hs.max_eq, hmax, hp.active_eq] at hle
    exact hle
  have hkeep (he : s'.pool.executing.Perm s.pool.executing) (hb : s'.dispatched = s.dispatched)
      (hx : s'.executions = s.executions) : s'.OneByOne :=
    h.of_eq he ((executing_length_le _).trans hone) hb hx
  have hreach := hr.next st
  cases st with
  | refuse hs' =>
    obtain rfl := eq_of_submitWith_error hs'
    exact hkeep (.refl _) rfl rfl
  | accept hs' => exact hkeep (.of_eq (submit_ledger hs').2.1) rfl rfl
  | notify hn hw => exact hkeep (wake_executing hp hw) rfl rfl
  | stir hw => exact hkeep (wake_executing hp hw) rfl rfl
  | timeOut hw => exact hkeep (wake_executing hp hw) rfl rfl
  | turn hw ht =>
    have hothers := hp.others_eq_nil hw hone
    have hidle : s.pool.executing = [] := by
      have hperm := turn_executing hp hw ht
      rw [hothers] at hperm
      exact hperm.eq_nil
    refine h.begin hc hreach (by simp [running, hidle]) ?_ rfl rfl
    exact eq_begun_of_perm ((hp.atLock_turn hw ht).held_executing (turn_held ht))
      (by rw [roused_others, hothers])
  | @endTask id task ending armed conclusion channel hrun =>
    have hothers := hp.others_eq_nil hrun.1 hone
    have hbusy : s.pool.executing = [task] := by
      have hperm := executing_perm hp hrun.1
      rw [hothers] at hperm
      exact List.perm_singleton.mp hperm
    have hbefore : s.running = [task] := by
      rw [running_eq_self (by simpa [hbusy] using hrun.2), hbusy]
    unfold OneByOne at h ⊢
    rw [running_eq_nil (by simp [hbusy]), h, hbefore]
    simp
  | @finish id e hw he =>
    have hothers := hp.others_eq_nil hw hone
    have hbusy : s.pool.executing = [e.task] := by
      have hperm := executing_perm hp hw
      rw [hothers] at hperm
      exact List.perm_singleton.mp hperm
    refine h.begin hc hreach (running_eq_nil (by simpa [hbusy] using ⟨e, he, rfl⟩)) ?_ rfl rfl
    exact eq_begun_of_perm ((hp.atLock_executing hw).finish_executing _) hothers
  | shutdown ho hb =>
    rw [eq_of_beginDrain hb]
    exact h
  | alert => exact hkeep (.of_eq (tasksOf_notified _)) rfl rfl
  | confirm =>
    rw [confirmStopped_fst]
    exact h
  | _ => exact h

theorem Reachable.oneByOne (hc : c.validate = .ok ()) (h : Reachable c s)
    (hmax : c.maxThreads = 1) : s.OneByOne := by
  induction h with
  | start => simp [OneByOne, running, Session.start]
  | next h st ih => exact ih.step hc h hmax st

/-- The accepted tasks in the order of their submissions are those that were begun, then those
that were drained, then those in the queue, and what has been begun, drained or ended stays so
in its place. No more bodies run than there may be workers; where this is one, a body begins
when all that were begun before it have ended. -/
theorem first_in_first_dispatched (hc : c.validate = .ok ()) (h : Reachable c s) :
    s.accepted = s.dispatched ++ s.drained ++ s.pool.queue.items ∧
      (s.accepted.map PoolTask.channel).Pairwise (· < ·) ∧
      (∀ t, Leads Step s t → t.Extends s) ∧
      s.running.length ≤ c.maxThreads.toNat ∧
      (c.maxThreads = 1 → s.dispatched = s.executions.map Execution.task ++ s.running) :=
  ⟨(h.ordered hc).order, h.ascending, fun _ hl => extends_of_leads hl,
    (h.sound hc).running_length_le, fun hmax => h.oneByOne hc hmax⟩

/-- The first worker is lost with its task, and the next one, which was hired with the second
submission, begins with the second. -/
theorem first_in_first_dispatched_replaced : ∃ s, Reachable solo s ∧ s.lost.length = 1 ∧
    s.dispatched = s.executions.map Execution.task ++ s.running ∧
    s.dispatched.map PoolTask.channel = [0, 1] ∧ s.running.map PoolTask.channel = [1] := by
  have h₁ := Reachable.start.next (c := solo) (d := .submit [] true) (.accept rfl)
  have h₂ := h₁.next (.turn (List.Mem.head _) rfl)
  have h₃ := h₂.next (d := .endTask 0 (.panicked (.fragile "")))
    (@Step.endTask _ _ ⟨[], 0⟩ _ true _ _ ⟨List.Mem.head _, nofun⟩ nofun rfl)
  have h₄ := h₃.next (d := .finish 0) (.finish (List.Mem.head _) (List.Mem.head _))
  have h₅ := h₄.next (d := .submit [] true) (.accept rfl)
  have h₆ := h₅.next (.turn (List.Mem.head _) rfl)
  obtain ⟨_, _, _, _, hone⟩ := first_in_first_dispatched rfl h₆
  exact ⟨_, h₆, rfl, hone rfl, rfl, rfl⟩

end Session
end TaskEngine
