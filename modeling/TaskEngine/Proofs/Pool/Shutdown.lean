import TaskEngine.Proofs.Pool.Delivery
import TaskEngine.Proofs.Pool.Staffing

/-! A call that waits for the workers returns when the pool has stopped. Unless a panic has
killed a worker, every accepted task has then been executed to its end or drained. -/

namespace TaskEngine

structure ShutdownCall.Fair (call : ShutdownCall) (stage : PoolStage) : Prop where
  graceful : call.graceful = true → call.drained = []
  undropped : call.stage ≠ .dropping → call.undropped = []
  stopped : call.origin = none → call.stage = .returned → stage = .stopped

theorem ShutdownCall.Fair.mono {call : ShutdownCall} {stage stage' : PoolStage}
    (h : call.Fair stage) (hs : stage = .stopped → stage' = .stopped) : call.Fair stage' :=
  { h with stopped := fun ho hr => hs (h.stopped ho hr) }

namespace Session

open Pool

variable {c : PoolConfig} {s s' : Session} {d : Deed}

theorem Sound.step_stopped (h : s.Sound c) (st : Step s d s') (hs : s.pool.stage = .stopped) :
    s'.pool.stage = .stopped := by
  have hcrew := h.consistent.empty_of_stopped hs
  have hstopping : s.pool.stopping = true := by
    have := h.consistent.running_iff
    simpa [hs] using this
  cases st with
  | refuse hs' =>
    obtain rfl := eq_of_submitWith_error hs'
    exact hs
  | accept hs' => simp [(eq_of_submitWith_ok hs').1] at hstopping
  | turn hw => simp [hcrew] at hw
  | finish hw => simp [hcrew] at hw
  | shutdown ho hb => simp [beginDrain_eq_none_iff.mpr hs] at hb
  | shutdownNow => simp [takeQueued, hs]
  | confirm => rw [confirmStopped_fst]
  | _ => exact hs

def Attended (s : Session) : Prop := ∀ call ∈ s.calls, call.Fair s.pool.stage

theorem forall_of_replace {P : ShutdownCall → Prop} {calls before after : List ShutdownCall}
    {call call' : ShutdownCall} (hc : calls = before ++ call :: after) (h : ∀ x ∈ calls, P x)
    (hp : P call → P call') : ∀ x ∈ before ++ call' :: after, P x := by
  subst hc
  intro x hx
  rcases List.mem_append.mp hx with hx | hx
  · exact h x (List.mem_append_left _ hx)
  · rcases List.mem_cons.mp hx with rfl | hx
    · exact hp (h call (List.mem_append_right _ List.mem_cons_self))
    · exact h x (List.mem_append_right _ (List.mem_cons_of_mem _ hx))

theorem Attended.step (h : s.Attended) (hs : s.Sound c) (st : Step s d s') : s'.Attended := by
  have hstage := hs.step_stopped st
  have hkeep : ∀ call ∈ s.calls, call.Fair s'.pool.stage := fun call hcall =>
    (h call hcall).mono hstage
  have hadd {call : ShutdownCall} (hcall : call.Fair s'.pool.stage) :
      ∀ x ∈ s.calls ++ [call], x.Fair s'.pool.stage := by
    intro x hx
    rcases List.mem_append.mp hx with hx | hx
    · exact hkeep x hx
    · rwa [List.mem_singleton.mp hx]
  cases st with
  | shutdownStopped ho hb =>
    refine hadd ⟨fun _ => rfl, fun _ => rfl, fun _ _ => ?_⟩
    exact beginDrain_eq_none_iff.mp hb
  | shutdown => exact hadd ⟨fun _ => rfl, fun _ => rfl, nofun⟩
  | shutdownNow => exact hadd ⟨nofun, fun hne => absurd rfl hne, nofun⟩
  | dropTask hcall hdropping hu =>
    refine forall_of_replace hcall hkeep fun hfair => ⟨fun hg => ?_, fun hne => ?_, fun _ hr => ?_⟩
    · have hnil := (List.append_eq_nil_iff.mp (hfair.graceful hg)).2
      exact absurd (hu.symm.trans hnil) (List.cons_ne_nil _ _)
    · exact absurd hdropping hne
    · simp [hdropping] at hr
  | countDropped hcall hdropping hu =>
    exact forall_of_replace hcall hkeep fun hfair => ⟨hfair.graceful, fun _ => hu, nofun⟩
  | alert hcall halerting =>
    exact forall_of_replace hcall hkeep fun hfair =>
      ⟨hfair.graceful, fun _ => hfair.undropped (by simp [halerting]), nofun⟩
  | skip hcall hdeciding ho =>
    refine forall_of_replace hcall hkeep fun hfair =>
      ⟨hfair.graceful, fun _ => hfair.undropped (by simp [hdeciding]), fun hnone => ?_⟩
    simp [ho] at hnone
  | join hcall hdeciding =>
    exact forall_of_replace hcall hkeep fun hfair =>
      ⟨hfair.graceful, fun _ => hfair.undropped (by simp [hdeciding]), nofun⟩
  | confirm hcall hwaiting =>
    refine forall_of_replace hcall hkeep fun hfair =>
      ⟨hfair.graceful, fun _ => hfair.undropped (by simp [hwaiting]), fun _ _ => ?_⟩
    rw [confirmStopped_fst]
  | _ => exact hkeep

theorem Reachable.attended (hc : c.validate = .ok ()) (h : Reachable c s) : s.Attended := by
  induction h with
  | start => exact nofun
  | next h st ih => exact ih.step (h.sound hc) st

/-- The task was executed once, to its end, and its handle answers with its value, or says how
it panicked. -/
def Completed (s : Session) (task : PoolTask) : Prop :=
  ∃ e ∈ s.executions, e.task = task ∧
    (s.executions.map fun e => e.task.channel).count task.channel = 1 ∧
    s.Answers task.channel (some e.outcome) ∧
    ((∃ value, e.ending = .returned value ∧ e.outcome = .ok value) ∨
      ∃ payload message, e.ending = .panicked payload ∧ e.outcome = .error (.panicked message))

/-- A call has drained the task, and its handle says so once the call has dropped all it
drained. -/
def Discarded (s : Session) (task : PoolTask) : Prop :=
  ∃ call ∈ s.calls, call.graceful = false ∧ task ∈ call.drained ∧
    (call.stage ≠ .dropping → s.Answers task.channel (some (.error .discarded)))

theorem outcome_of_captured {e : Execution} (h : e.ending.capture ≠ none) :
    (∃ value, e.ending = .returned value ∧ e.outcome = .ok value) ∨
      ∃ payload message, e.ending = .panicked payload ∧
        e.outcome = .error (.panicked message) := by
  obtain ⟨task, ending, conclusion⟩ := e
  cases ending with
  | returned value => exact .inl ⟨value, rfl, rfl⟩
  | panicked payload =>
    cases payload with
    | text message => exact .inr ⟨_, message, rfl, rfl⟩
    | other => exact .inr ⟨_, _, rfl, rfl⟩
    | fragile message => exact absurd rfl h

section Returned

variable (hc : c.validate = .ok ()) (h : Reachable c s)
include hc h

theorem Reachable.completed {e : Execution} (he : e ∈ s.executions)
    (hu : e.conclusion ≠ .unwound) : s.Completed e.task := by
  have hexecuted := h.executed hc
  have hcaptured := fun hn => hu ((hexecuted.unwound_iff e he).mpr hn)
  refine ⟨e, he, rfl, ?_, (h.delivered hc).executed e he, outcome_of_captured hcaptured⟩
  exact List.count_eq_one_of_mem hexecuted.nodup (List.mem_map_of_mem he)

theorem Reachable.discarded {task : PoolTask} (ht : task ∈ s.drained) : s.Discarded task := by
  obtain ⟨call, hcall, htask⟩ := List.mem_flatMap.mp ht
  have hfair := h.attended hc call hcall
  refine ⟨call, hcall, ?_, htask, fun hstage => ?_⟩
  · by_contra hg
    simp [hfair.graceful (by simpa using hg)] at htask
  · have hdropped : task ∈ call.dropped := by
      simpa [ShutdownCall.drained, hfair.undropped hstage] using htask
    exact (h.delivered hc).dropped task (List.mem_flatMap.mpr ⟨call, hcall, hdropped⟩)

end Returned

/-- After a call that waits for the workers has returned, the pool has stopped, nobody works,
nothing is queued, and every accepted task is completed or discarded; completed, if all calls
are graceful. -/
theorem completed_of_returned (hc : c.validate = .ok ()) (h : Reachable c s)
    (hu : ∀ e ∈ s.executions, e.conclusion ≠ .unwound) {call : ShutdownCall}
    (hcall : call ∈ s.calls) (ho : call.origin = none) (hr : call.stage = .returned) :
    s.pool.stage = .stopped ∧ s.pool.active = 0 ∧ s.pool.queue.items = [] ∧
      (∀ task ∈ s.accepted, s.Completed task ∨ s.Discarded task) ∧
      ((∀ call ∈ s.calls, call.graceful = true) → ∀ task ∈ s.accepted, s.Completed task) := by
  have hp := (h.sound hc).consistent
  have hstopped := (h.attended hc call hcall).stopped ho hr
  have hcrew := hp.empty_of_stopped hstopped
  have hactive : s.pool.active = 0 := by rw [hp.active_eq, hcrew, List.length_nil]
  have hlost : s.lost = [] := by
    refine List.eq_nil_iff_forall_not_mem.mpr fun task ht => ?_
    obtain ⟨e, he, hunwound⟩ := (h.executed hc).lost task ht
    exact hu e he hunwound
  have hqueue : s.pool.queue.items = [] := by
    by_contra hq
    have := h.active_pos_of_core hc (by rw [hlost]; exact core_pos hc) hq
    omega
  have hnobody : s.pool.executing = [] := by simp [executing, hcrew]
  have hfate : ∀ task ∈ s.accepted, s.Completed task ∨ task ∈ s.drained := by
    intro task ht
    have hplace := (h.accepted_perm hc).mem_iff.mp ht
    simp only [hqueue, hnobody, hlost, List.nil_append, List.append_nil, List.mem_append]
      at hplace
    rcases hplace with hended | hdrained
    · obtain ⟨e, he, rfl⟩ := (h.executed hc).ended task (by simp [or_assoc.symm, hended])
      exact .inl (h.completed hc he (hu e he))
    · exact .inr hdrained
  refine ⟨hstopped, hactive, hqueue, fun task ht => ?_, fun hg task ht => ?_⟩
  · exact (hfate task ht).imp_right (h.discarded hc)
  · rcases hfate task ht with hdone | hdrained
    · exact hdone
    · obtain ⟨call', hcall', hungraceful, _⟩ := h.discarded hc hdrained
      simp [hg call' hcall'] at hungraceful

theorem completed_of_returned_solo : ∃ s, Reachable solo s ∧ s.accepted.length = 1 ∧
    s.pool.stage = .stopped ∧ ∀ task ∈ s.accepted, s.Completed task := by
  have h₁ := Reachable.start.next (c := solo) (d := .submit [] true) (.accept rfl)
  have h₂ := h₁.next (.turn (List.Mem.head _) rfl)
  have h₃ := h₂.next (d := .shutdown none) (.shutdown trivial rfl)
  have h₄ := h₃.next (d := .endTask 0 (.panicked .other))
    (@Step.endTask _ _ ⟨[], 0⟩ _ true _ _ ⟨List.Mem.head _, nofun⟩ (by simp [Session.start]) rfl)
  have h₅ := h₄.next (d := .finish 0) (.finish (List.Mem.head _) (List.Mem.head _))
  have h₆ := h₅.next (@Step.alert _ [] _ [] rfl rfl)
  have h₇ := h₆.next (@Step.join _ [] _ [] rfl rfl rfl)
  have h₈ := h₇.next (@Step.confirm _ [] _ [] _ rfl rfl rfl (fun _ _ => rfl))
  obtain ⟨hstopped, _, _, _, hall⟩ :=
    completed_of_returned rfl h₈ (by simp [Session.start]) (List.Mem.head _) rfl rfl
  exact ⟨_, h₈, rfl, hstopped, hall (by simp)⟩

end Session
end TaskEngine
