import Mathlib.Algebra.BigOperators.Group.List.Basic
import TaskEngine.Proofs.Pool.Dispatch
import TaskEngine.Proofs.Pool.Shutdown

/-! A call to shut down at once takes out what is queued at that moment and answers how much
that was. A task that is being executed goes on as if there were no call, and no task is
taken twice, so that in the end the answers of all calls add up. -/

namespace TaskEngine

def ShutdownCall.answer? (call : ShutdownCall) : Option Nat :=
  if call.graceful = false ∧ call.stage = .returned then some call.drained.length else none

theorem ShutdownCall.answers_sum {calls : List ShutdownCall}
    (hg : ∀ call ∈ calls, call.graceful = true → call.drained = [])
    (hr : ∀ call ∈ calls, call.graceful = false → call.stage = .returned) :
    (calls.filterMap ShutdownCall.answer?).sum = (calls.flatMap ShutdownCall.discarded).length := by
  induction calls with
  | nil => rfl
  | cons call calls ih =>
    have ih := ih (fun x hx => hg x (List.mem_cons_of_mem _ hx))
      fun x hx => hr x (List.mem_cons_of_mem _ hx)
    cases hgraceful : call.graceful with
    | true =>
      have hnil := hg call List.mem_cons_self hgraceful
      simp [ShutdownCall.answer?, hgraceful, ShutdownCall.discarded, hnil, ih]
    | false =>
      have hreturned := hr call List.mem_cons_self hgraceful
      simp [ShutdownCall.answer?, hgraceful, ShutdownCall.discarded, hreturned, ih]

namespace Session

open Pool

variable {c : PoolConfig} {s s' t : Session} {id number : Nat} {task : PoolTask}
  {origin : Option Nat}

/-- What has become of the tasks that the call of this number found in the queue. -/
structure Discards (s : Session) (number : Nat) (queued : List PoolTask) (call : ShutdownCall) :
    Prop where
  found : s.calls[number]? = some call
  graceful : call.graceful = false
  drained : call.drained = queued
  goes_on : call.stage = .dropping → ∃ d t, d.actor? = some (.call number) ∧ Step s d t
  unstarted : ∀ task ∈ queued, ∀ u ∈ s.dispatched, u.channel ≠ task.channel
  resolved : call.stage ≠ .dropping →
    ∀ task ∈ queued, s.Answers task.channel (some (.error .discarded))
  answer : call.stage = .returned → call.answer? = some queued.length

structure Undisturbed (s : Session) (worker : Nat) (task : PoolTask) : Prop where
  undrained : ∀ u ∈ s.drained, task.channel ≠ u.channel
  goes_on : ⟨worker, .executing task⟩ ∈ s.pool.crew ∨ ∃ e ∈ s.executions, e.task = task
  pending : (∀ e ∈ s.executions, e.task.channel ≠ task.channel) → s.Answers task.channel none
  resolved : ∀ e ∈ s.executions, e.task = task → s.Answers task.channel (some e.outcome)

theorem Step.call_of_shutdownNow (st : Step s (.shutdownNow origin) s') :
    s'.calls[s.calls.length]? =
      some { origin, graceful := false, stage := .dropping, undropped := s.pool.queue.items } := by
  cases st with
  | shutdownNow => simp [takeQueued]

theorem Reachable.discards (hc : c.validate = .ok ()) (h : Reachable c s) {call : ShutdownCall}
    (hi : s.calls[number]? = some call) (hg : call.graceful = false) :
    s.Discards number call.drained call := by
  have hcall := List.mem_of_getElem? hi
  refine ⟨hi, hg, rfl, fun hs => ?_, fun task ht u hu => ?_, fun hs task ht => ?_, fun hs => ?_⟩
  · exact exists_errand hi (by simp [hs]) (by simp [hs])
  · exact h.dispatched_ne hc hu (List.mem_flatMap.mpr ⟨call, hcall, ht⟩)
  · have hdropped : task ∈ call.dropped := by
      simpa [ShutdownCall.drained, (h.attended hc call hcall).undropped hs] using ht
    exact (h.delivered hc).dropped task (List.mem_flatMap.mpr ⟨call, hcall, hdropped⟩)
  · exact if_pos ⟨hg, hs⟩

theorem Reachable.taken_nodup (hc : c.validate = .ok ()) (h : Reachable c s) :
    ((s.dispatched ++ s.drained).map PoolTask.channel).Nodup := by
  have hnodup := h.numbered.nodup
  rw [(h.ordered hc).order, List.map_append] at hnodup
  exact hnodup.of_append_left

theorem Sound.step_goes_on (h : s.Sound c) {d : Deed} (st : Step s d s')
    (hw : ⟨id, .executing task⟩ ∈ s.pool.crew ∨ ∃ e ∈ s.executions, e.task = task) :
    ⟨id, .executing task⟩ ∈ s'.pool.crew ∨ ∃ e ∈ s'.executions, e.task = task := by
  have hended : (∃ e ∈ s.executions, e.task = task) → ∃ e ∈ s'.executions, e.task = task :=
    fun ⟨e, he, het⟩ => ⟨e, st.extends.executions.subset he, het⟩
  rcases hw with hw | hw
  · exact (h.step_executing st hw).imp_right hended
  · exact .inr (hended hw)

theorem Reachable.undisturbed (hc : c.validate = .ok ()) (h : Reachable c s)
    (hw : ⟨id, .executing task⟩ ∈ s.pool.crew) (hl : Leads Step s t) : t.Undisturbed id task := by
  have ⟨hr, hgoes⟩ := hl.keep .next (fun hr st => (hr.sound hc).step_goes_on st) h (.inl hw)
  have hbegun : task ∈ t.dispatched :=
    (extends_of_leads hl).dispatched.subset
      ((h.settled hc).mem_dispatched (mem_tasksOf.mpr ⟨_, hw, rfl⟩))
  refine ⟨fun u hu => hr.dispatched_ne hc hbegun hu, hgoes, fun hnone => ?_, ?_⟩
  · refine (hr.delivered hc).pending task (hr.mem_accepted hc (.inl hbegun)) hnone fun u hu => ?_
    exact (hr.dispatched_ne hc hbegun
      (t.drained_perm.mem_iff.mpr (List.mem_append_left _ hu))).symm
  · rintro e he rfl
    exact (hr.delivered hc).executed e he

/-- A task may end as it might have done without the call, unless it makes the call itself. -/
theorem Step.endTask_after {ending : Ending Product} {u : Session}
    (st : Step s (.shutdownNow origin) s') (ho : origin ≠ some id)
    (se : Step s (.endTask id ending) u) :
    ∃ u', Step s' (.endTask id ending) u' ∧ u'.channels = u.channels ∧
      u'.executions = u.executions ∧ u'.pool.crew = u.pool.crew := by
  cases st
  cases se with
  | endTask hr hcalls hconclude =>
    refine ⟨_, .endTask hr (fun call hcall hown => ?_) hconclude, rfl, rfl, rfl⟩
    rcases List.mem_append.mp hcall with hcall | hcall
    · exact hcalls call hcall hown
    · rw [List.mem_singleton.mp hcall] at hown
      exact absurd hown ho

theorem Reachable.answers_eq (hc : c.validate = .ok ()) (h : Reachable c s)
    (hr : ∀ call ∈ s.calls, call.graceful = false → call.stage = .returned) :
    (s.calls.filterMap ShutdownCall.answer?).sum = s.pool.tally.discarded :=
  (ShutdownCall.answers_sum (fun call hcall => (h.attended hc call hcall).graceful) hr).trans
    h.counted.discarded.symm

/-- A call to shut down at once drains exactly the queue, disturbs no task that is executed, and
answers for what it has drained; and nothing that happens later changes that. -/
theorem discards_queue (hc : c.validate = .ok ()) (h : Reachable c s)
    (st : Step s (.shutdownNow origin) s') (hl : Leads Step s' t) :
    s'.pool.queue.items = [] ∧
      (∃ call, t.Discards s.calls.length s.pool.queue.items call) ∧
      (∀ u, Leads Step s u → ∀ id task, ⟨id, .executing task⟩ ∈ s.pool.crew →
        u.Undisturbed id task) ∧
      (∀ id ending u, origin ≠ some id → Step s (.endTask id ending) u →
        ∃ u', Step s' (.endTask id ending) u' ∧ u'.channels = u.channels ∧
          u'.executions = u.executions ∧ u'.pool.crew = u.pool.crew) ∧
      ((t.dispatched ++ t.drained).map PoolTask.channel).Nodup ∧
      ((∀ call ∈ t.calls, call.graceful = false → call.stage = .returned) →
        (t.calls.filterMap ShutdownCall.answer?).sum = t.pool.tally.discarded) := by
  have hr : Reachable c t := (h.next st).leads hl
  obtain ⟨call, hi, _, hgraceful, hdrained⟩ := call_leads hl st.call_of_shutdownNow
  refine ⟨?_, ⟨call, ?_⟩, fun u hu id task hw => h.undisturbed hc hw hu,
    fun id ending u ho se => st.endTask_after ho se, hr.taken_nodup hc, hr.answers_eq hc⟩
  · cases st
    rfl
  · have hdiscards := hr.discards hc hi hgraceful
    rwa [hdrained] at hdiscards

/-- A call drains what a graceful call has left in the queue, while a task is executed. -/
theorem discards_queue_draining : ∃ s s' t, Reachable solo s ∧ s.pool.stage = .draining ∧
    Step s (.shutdownNow none) s' ∧ Leads Step s' t ∧ s.pool.queue.size = 1 ∧
    (∃ call, t.Discards 1 s.pool.queue.items call) ∧
    (t.calls.filterMap ShutdownCall.answer?).sum = t.pool.tally.discarded ∧
    t.pool.tally.discarded = 1 ∧ t.pool.tally.completed = 1 := by
  have h₁ := Reachable.start.next (c := solo) (d := .submit [] true) (.accept rfl)
  have h₂ := h₁.next (.turn (List.Mem.head _) rfl)
  have h₃ := h₂.next (d := .submit [] true) (.accept rfl)
  have h₄ := h₃.next (d := .shutdown none) (.shutdown trivial rfl)
  have call {s : Session} (_ : Reachable solo s) := @Step.shutdownNow s none trivial
  have after {s s' : Session} {d : Deed} (_ : Step s d s') : Leads Step s' s' := .refl _
  have st := call h₄
  have l₁ := (after st).next (@Step.dropTask _ [_] _ [] _ [] rfl rfl rfl)
  have l₂ := l₁.next (@Step.countDropped _ [_] _ [] rfl rfl rfl)
  have l₃ := l₂.next (@Step.endTask _ 0 ⟨[], 0⟩ (.returned (.plain .null)) true _ _
    ⟨List.Mem.head _, nofun⟩ (by simp) rfl)
  have l₄ := l₃.next (.finish (List.Mem.head _) (List.Mem.head _))
  have l₅ := l₄.next (@Step.alert _ [_] _ [] rfl rfl)
  have l₆ := l₅.next (@Step.join _ [_] _ [] rfl rfl rfl)
  have l₇ := l₆.next (@Step.confirm _ [_] _ [] _ rfl rfl rfl (fun _ _ => rfl))
  obtain ⟨_, hdiscards, _, _, _, hsum⟩ := discards_queue rfl h₄ st l₇
  refine ⟨_, _, _, h₄, rfl, st, l₇, rfl, hdiscards, hsum ?_, rfl, rfl⟩
  simp [Session.start]

end Session
end TaskEngine
