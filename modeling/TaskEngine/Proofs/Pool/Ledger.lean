import Mathlib.Algebra.Order.Group.Multiset
import Mathlib.Tactic.Abel
import TaskEngine.Proofs.Pool.Sound

/-! Where the accepted tasks are. What has been begun is executing, or counted, or lost with
its worker. The counters say how many tasks there are of each kind, but for drained tasks
not counted yet. -/

namespace TaskEngine

def Tally.ofTasks (t : Tally) : Tally := { t with spawnedWorkers := 0, retiredWorkers := 0 }

namespace Pool

variable {τ : Type} {p q : Pool τ} {id : Nat} {turn : Turn τ}

theorem wake_executing {timed timedOut : Bool} (h : p.Consistent)
    (hw : ⟨id, .waiting timed⟩ ∈ p.crew) :
    (p.setPhase id (.woken timedOut)).executing.Perm p.executing := by
  have hp := tasksOf_perm (Pool.crew_perm h.ids_nodup hw)
  have hc := tasksOf_perm (Pool.setPhase_perm h.ids_nodup hw (.woken timedOut))
  simp only [tasksOf_cons, WorkerPhase.task?, Option.toList_none, List.nil_append] at hp hc
  exact hc.trans hp.symm

theorem turn_executing {w : Worker τ} {r : Pool τ × Turn τ} (h : p.Consistent) (hw : w ∈ p.crew)
    (ht : p.turn w = some r) : p.executing.Perm (tasksOf (p.others w.id)) := by
  have hp := tasksOf_perm (Pool.crew_perm h.ids_nodup hw)
  show (tasksOf p.crew).Perm _
  rcases phase_of_turn ht with hs | ⟨timedOut, hs⟩
  · simpa [hs, WorkerPhase.task?] using hp
  · simpa [hs, WorkerPhase.task?] using hp

theorem executing_perm {task : τ} (h : p.Consistent) (hw : ⟨id, .executing task⟩ ∈ p.crew) :
    p.executing.Perm (task :: tasksOf (p.others id)) := by
  show (tasksOf p.crew).Perm _
  simpa [WorkerPhase.task?] using tasksOf_perm (Pool.crew_perm h.ids_nodup hw)

theorem Held.items (hd : Held p id q turn) : p.queue.items = turn.begun ++ q.queue.items := by
  cases hd with
  | run hq => exact (BoundedQueue.items_of_pop hq).1
  | wait | exit | retire => rfl

theorem AtLock.held_executing (h : p.AtLock id) (hd : Held p id q turn) :
    q.executing.Perm (turn.begun ++ tasksOf (p.others id)) := by
  cases hd with
  | @run task queue hq => exact tasksOf_perm (h.setPhase_perm (.executing task))
  | wait =>
    show (tasksOf (p.beginWait id).crew).Perm _
    simpa [WorkerPhase.task?, Turn.begun] using tasksOf_perm (beginWait_perm p id)
  | exit | retire => exact .refl _

theorem AtLock.finish_executing (h : p.AtLock id) (conclusion : Conclusion) :
    (p.finish id conclusion).1.executing.Perm
      ((p.finish id conclusion).2.begun ++ tasksOf (p.others id)) := by
  by_cases hu : conclusion = .unwound
  · rw [hu, finish_unwound]
    exact .refl _
  · have hheld := (h.record conclusion).held_executing (finish_held p id hu)
    rwa [record_others] at hheld

theorem Held.tally (hd : Held p id q turn) : q.tally.ofTasks = p.tally.ofTasks := by
  cases hd <;> rfl

theorem submit_ledger {spawns : Bool} {task : τ} (h : p.submitWith spawns task = (q, .ok ())) :
    q.queue.items = p.queue.items ++ [task] ∧ q.executing = p.executing ∧
      q.tally.ofTasks = { p.tally.ofTasks with submitted := p.tally.submitted + 1 } := by
  obtain ⟨_, queue, hi, _, rfl⟩ := eq_of_submitWith_ok h
  cases spawns with
  | false => exact ⟨hi, rfl, rfl⟩
  | true =>
    simp only [if_true, grow]
    split
    · exact ⟨hi, by simp [hire, countSubmitted, executing, WorkerPhase.task?], rfl⟩
    · exact ⟨hi, rfl, rfl⟩

theorem finish_tally (p : Pool τ) (id : Nat) (e : Execution) :
    (p.finish id e.conclusion).1.tally.ofTasks =
      { p.tally.ofTasks with
        completed := p.tally.completed + e.completed.length
        panicked := p.tally.panicked + e.panicked.length } := by
  obtain ⟨task, ending, conclusion⟩ := e
  by_cases hu : conclusion = .unwound
  · subst hu
    rfl
  · rw [(finish_held p id hu).tally]
    cases conclusion <;> rfl

end Pool

theorem Execution.fates (e : Execution) : e.completed ++ e.panicked ++ e.lost = [e.task] := by
  obtain ⟨task, ending, conclusion⟩ := e
  cases conclusion <;> rfl

def ShutdownCall.uncounted (call : ShutdownCall) : List PoolTask :=
  if call.stage = .dropping then call.drained else []

def ShutdownCall.discarded (call : ShutdownCall) : List PoolTask :=
  if call.stage = .dropping then [] else call.drained

namespace Session

open Pool

variable {c : PoolConfig} {s s' : Session} {d : Deed}

def uncounted (s : Session) : List PoolTask := s.calls.flatMap ShutdownCall.uncounted

def discarded (s : Session) : List PoolTask := s.calls.flatMap ShutdownCall.discarded

theorem drained_length (s : Session) :
    s.drained.length = s.discarded.length + s.uncounted.length := by
  unfold drained discarded uncounted
  induction s.calls with
  | nil => rfl
  | cons call calls ih =>
    have hcall : call.drained.length = call.discarded.length + call.uncounted.length := by
      unfold ShutdownCall.discarded ShutdownCall.uncounted
      split <;> simp
    simp only [List.flatMap_cons, List.length_append, hcall, ih]
    omega

/-- Only a call that takes tasks out of the queue drains any, and what a call does with its
tasks leaves them drained. -/
theorem Step.drained_eq (st : Step s d s') (hd : ∀ origin, d ≠ .shutdownNow origin) :
    s'.drained = s.drained := by
  cases st with
  | shutdownNow => exact absurd rfl (hd _)
  | shutdownStopped | shutdown => simp [drained, ShutdownCall.drained]
  | dropTask hc hs hu => simp [drained, ShutdownCall.drained, hc, hu]
  | countDropped hc | alert hc | skip hc | join hc | confirm hc =>
    simp [drained, ShutdownCall.drained, hc]
  | _ => rfl

/-- Tasks are begun, or drained, in the order in which they were accepted. -/
structure Ordered (s : Session) : Prop where
  order : s.accepted = s.dispatched ++ s.drained ++ s.pool.queue.items
  drained_nil : s.pool.queue.items ≠ [] → s.drained = []

theorem ordered_start (c : PoolConfig) : (start c).Ordered :=
  ⟨by simp [start, drained], fun _ => rfl⟩

theorem Ordered.of_eq (h : s.Ordered) (hi : s'.pool.queue.items = s.pool.queue.items)
    (ha : s'.accepted = s.accepted) (hb : s'.dispatched = s.dispatched)
    (hr : s'.drained = s.drained) : s'.Ordered := by
  refine ⟨?_, ?_⟩
  · rw [ha, hb, hr, hi]
    exact h.order
  · rw [hi, hr]
    exact h.drained_nil

theorem Ordered.held {p : Pool PoolTask} {id : Nat} {turn : Turn PoolTask} (h : s.Ordered)
    (hd : Held p id s'.pool turn) (hq : p.queue.items = s.pool.queue.items)
    (ha : s'.accepted = s.accepted) (hb : s'.dispatched = s.dispatched ++ turn.begun)
    (hr : s'.drained = s.drained) : s'.Ordered := by
  have hitems := hd.items
  rw [hq] at hitems
  constructor
  · rw [ha, hb, hr, h.order, hitems]
    cases hturn : turn.begun with
    | nil => simp
    | cons task rest => simp [h.drained_nil (by simp [hitems, hturn])]
  · intro hne
    rw [hr]
    exact h.drained_nil (by simp [hitems, hne])

theorem Sound.drained_nil (h : s.Sound c) (hs : s.pool.stopping = false) : s.drained = [] := by
  have hcalls : s.calls = [] := by
    by_contra hne
    simp [h.stopping_iff.mpr hne] at hs
  simp [drained, hcalls]

theorem Ordered.step (h : s.Ordered) (hs : s.Sound c) (st : Step s d s') : s'.Ordered := by
  have hdrained := st.drained_eq
  cases st with
  | refuse hs' =>
    obtain rfl := eq_of_submitWith_error hs'
    exact h.of_eq rfl rfl rfl rfl
  | accept hs' =>
    have hitems := (submit_ledger hs').1
    have hnil := hs.drained_nil (eq_of_submitWith_ok hs').1
    refine ⟨?_, fun _ => hnil⟩
    show s.accepted ++ _ = s.dispatched ++ s.drained ++ _
    rw [h.order, hitems, List.append_assoc _ s.pool.queue.items]
  | turn hw ht => exact h.held (turn_held ht) (by simp) rfl rfl rfl
  | @finish id e hw he =>
    by_cases hu : e.conclusion = .unwound
    · refine h.of_eq ?_ rfl ?_ rfl
      · simp only [hu, finish_unwound]
        rfl
      · simp [hu, finish_unwound, Turn.begun]
    · exact h.held (finish_held _ _ hu) (by simp) rfl rfl rfl
  | shutdown ho hb =>
    refine h.of_eq ?_ rfl rfl (hdrained nofun)
    rw [eq_of_beginDrain hb]
  | shutdownNow =>
    refine ⟨?_, fun hne => absurd rfl hne⟩
    have hd : s.pool.takeQueued.2 = s.pool.queue.items := rfl
    have hq : s.pool.takeQueued.1.queue.items = [] := rfl
    simp [drained, ShutdownCall.drained, hd, hq, h.order]
  | confirm =>
    refine h.of_eq ?_ rfl rfl (hdrained nofun)
    rw [confirmStopped_fst]
  | _ => exact h.of_eq rfl rfl rfl (hdrained nofun)

theorem Reachable.ordered (hc : c.validate = .ok ()) (h : Reachable c s) : s.Ordered := by
  induction h with
  | start => exact ordered_start c
  | next h st ih => exact ih.step (h.sound hc) st

/-- What has been begun is executing, counted or lost. -/
def Settled (s : Session) : Prop :=
  s.dispatched.Perm (s.pool.executing ++ s.completed ++ s.panicked ++ s.lost)

theorem Settled.of_perm (h : s.Settled) (he : s'.pool.executing.Perm s.pool.executing)
    (hb : s'.dispatched = s.dispatched) (hk : s'.completed = s.completed)
    (hp : s'.panicked = s.panicked) (hl : s'.lost = s.lost) : s'.Settled := by
  unfold Settled at h ⊢
  rw [hb, hk, hp, hl]
  refine h.trans ?_
  exact ((he.symm.append_right _).append_right _).append_right _

theorem Settled.pass (h : s.Settled) {ended begun others done failed gone : List PoolTask}
    (hbefore : s.pool.executing.Perm (ended ++ others))
    (hafter : s'.pool.executing.Perm (begun ++ others))
    (hb : s'.dispatched = s.dispatched ++ begun) (hk : s'.completed = s.completed ++ done)
    (hp : s'.panicked = s.panicked ++ failed) (hl : s'.lost = s.lost ++ gone)
    (he : done ++ failed ++ gone = ended) : s'.Settled := by
  unfold Settled at h ⊢
  rw [hb, hk, hp, hl, ← Multiset.coe_eq_coe]
  simp only [← Multiset.coe_eq_coe, ← he, ← Multiset.coe_add] at h hbefore hafter ⊢
  rw [h, hbefore, hafter]
  abel

theorem Settled.step (h : s.Settled) (hs : s.Sound c) (st : Step s d s') : s'.Settled := by
  have hp := hs.consistent
  cases st with
  | refuse hs' =>
    obtain rfl := eq_of_submitWith_error hs'
    exact h
  | accept hs' => exact h.of_perm (.of_eq (submit_ledger hs').2.1) rfl rfl rfl rfl
  | notify hn hw => exact h.of_perm (wake_executing hp hw) rfl rfl rfl rfl
  | stir hw => exact h.of_perm (wake_executing hp hw) rfl rfl rfl rfl
  | timeOut hw => exact h.of_perm (wake_executing hp hw) rfl rfl rfl rfl
  | turn hw ht =>
    have hbefore : s.pool.executing.Perm ([] ++ _) := turn_executing hp hw ht
    have hafter := (hp.atLock_turn hw ht).held_executing (turn_held ht)
    rw [roused_others] at hafter
    have hnone {tasks : List PoolTask} : tasks = tasks ++ [] := (List.append_nil _).symm
    exact h.pass hbefore hafter rfl hnone hnone hnone rfl
  | @finish id e hw he =>
    have hbefore : s.pool.executing.Perm ([e.task] ++ _) := executing_perm hp hw
    exact h.pass hbefore ((hp.atLock_executing hw).finish_executing _) rfl rfl rfl rfl e.fates
  | shutdown ho hb =>
    rw [eq_of_beginDrain hb]
    exact h
  | alert => exact h.of_perm (.of_eq (tasksOf_notified _)) rfl rfl rfl rfl
  | confirm =>
    rw [confirmStopped_fst]
    exact h
  | _ => exact h

theorem Reachable.settled (hc : c.validate = .ok ()) (h : Reachable c s) : s.Settled := by
  induction h with
  | start => exact .of_eq (by simp [Session.start])
  | next h st ih => exact ih.step (h.sound hc) st

theorem Settled.mem_dispatched {task : PoolTask} (h : s.Settled) (ht : task ∈ s.pool.executing) :
    task ∈ s.dispatched := by
  rw [h.mem_iff]
  simp [ht]

/-- Every submission has its own channel. -/
structure Numbered (s : Session) : Prop where
  nodup : (s.accepted.map PoolTask.channel).Nodup
  lt : ∀ task ∈ s.accepted, task.channel < s.submits

theorem Numbered.step (h : s.Numbered) (st : Step s d s') : s'.Numbered := by
  cases st with
  | refuse => exact ⟨h.nodup, fun task ht => Nat.lt_succ_of_lt (h.lt task ht)⟩
  | accept =>
    constructor
    · have hfresh : s.submits ∉ s.accepted.map PoolTask.channel := by
        intro hm
        obtain ⟨task, ht, he⟩ := List.mem_map.mp hm
        exact absurd he (Nat.ne_of_lt (h.lt task ht))
      rw [List.map_append]
      exact List.nodup_append.mpr ⟨h.nodup, List.nodup_singleton _, by simpa using hfresh⟩
    · intro task ht
      rcases List.mem_append.mp ht with ht | ht
      · exact Nat.lt_succ_of_lt (h.lt task ht)
      · rw [List.mem_singleton.mp ht]
        exact Nat.lt_succ_self _
  | _ => exact { h with }

theorem Reachable.numbered (h : Reachable c s) : s.Numbered := by
  induction h with
  | start => exact ⟨List.nodup_nil, nofun⟩
  | next _ st ih => exact ih.step st

theorem Reachable.dispatched_nodup (hc : c.validate = .ok ()) (h : Reachable c s) :
    (s.dispatched.map PoolTask.channel).Nodup := by
  have hnodup := h.numbered.nodup
  rw [(h.ordered hc).order, List.append_assoc, List.map_append] at hnodup
  exact hnodup.of_append_left

theorem Reachable.executing_nodup (hc : c.validate = .ok ()) (h : Reachable c s) :
    (s.pool.executing.map PoolTask.channel).Nodup := by
  have hnodup := h.dispatched_nodup hc
  rw [((h.settled hc).map _).nodup_iff] at hnodup
  simp only [List.append_assoc, List.map_append] at hnodup
  exact hnodup.of_append_left

/-- The counters say how many tasks there are of each kind. -/
structure Counted (s : Session) : Prop where
  submitted : s.pool.tally.submitted = s.accepted.length
  rejected : s.pool.tally.rejected + s.accepted.length = s.submits
  completed : s.pool.tally.completed = s.completed.length
  panicked : s.pool.tally.panicked = s.panicked.length
  discarded : s.pool.tally.discarded = s.discarded.length

theorem Counted.of_eq (h : s.Counted) (ht : s'.pool.tally.ofTasks = s.pool.tally.ofTasks)
    (ha : s'.accepted = s.accepted) (hs : s'.submits = s.submits)
    (hk : s'.completed = s.completed) (hp : s'.panicked = s.panicked)
    (hd : s'.discarded = s.discarded) : s'.Counted := by
  obtain ⟨h₁, h₂, h₃, h₄, h₅, _⟩ := Tally.mk.injEq .. ▸ ht
  refine ⟨?_, ?_, ?_, ?_, ?_⟩
  · rw [h₁, ha, h.submitted]
  · rw [h₂, ha, hs, h.rejected]
  · rw [h₃, hk, h.completed]
  · rw [h₄, hp, h.panicked]
  · rw [h₅, hd, h.discarded]

theorem Counted.step (h : s.Counted) (st : Step s d s') : s'.Counted := by
  cases st with
  | refuse hs' =>
    obtain rfl := eq_of_submitWith_error hs'
    refine { h with rejected := ?_ }
    have := h.rejected
    simp only [Pool.countRejected]
    omega
  | accept hs' =>
    obtain ⟨_, _, htally⟩ := submit_ledger hs'
    obtain ⟨h₁, h₂, h₃, h₄, h₅, _⟩ := Tally.mk.injEq .. ▸ htally
    refine ⟨?_, ?_, h₃.trans h.completed, h₄.trans h.panicked, h₅.trans h.discarded⟩
    · simp [h₁, h.submitted]
    · have hrejected : _ = s.pool.tally.rejected := h₂
      have := h.rejected
      simp only [hrejected, List.length_append, List.length_singleton]
      omega
  | turn hw ht =>
    refine h.of_eq ?_ rfl rfl rfl rfl rfl
    rw [(turn_held ht).tally, roused_tally]
  | @finish id e hw he =>
    obtain ⟨h₁, h₂, h₃, h₄, h₅, _⟩ := Tally.mk.injEq .. ▸ finish_tally s.pool id e
    refine ⟨h₁.trans h.submitted, ?_, ?_, ?_, h₅.trans h.discarded⟩
    · exact (congrArg (· + s.accepted.length) h₂).trans h.rejected
    · simp [h₃, h.completed]
    · simp [h₄, h.panicked]
  | shutdownStopped =>
    refine h.of_eq rfl rfl rfl rfl rfl ?_
    simp [Session.discarded, ShutdownCall.discarded, ShutdownCall.drained]
  | shutdown ho hb =>
    rw [eq_of_beginDrain hb]
    refine h.of_eq rfl rfl rfl rfl rfl ?_
    simp [Session.discarded, ShutdownCall.discarded, ShutdownCall.drained]
  | shutdownNow =>
    refine h.of_eq rfl rfl rfl rfl rfl ?_
    simp [Session.discarded, ShutdownCall.discarded]
  | dropTask hc hs hu =>
    refine h.of_eq rfl rfl rfl rfl rfl ?_
    simp [Session.discarded, ShutdownCall.discarded, hc, hs]
  | countDropped hc hs hu =>
    have hd := h.discarded
    refine { h with discarded := ?_ }
    simp only [Session.discarded, hc, List.flatMap_append, List.flatMap_cons, List.length_append,
      Pool.countDiscarded, ShutdownCall.discarded, ShutdownCall.drained, hs, hu] at hd ⊢
    simp at hd ⊢
    omega
  | alert hc hs | skip hc hs | join hc hs =>
    refine h.of_eq rfl rfl rfl rfl rfl ?_
    simp [Session.discarded, ShutdownCall.discarded, ShutdownCall.drained, hc, hs]
  | confirm hc hs =>
    rw [confirmStopped_fst]
    refine h.of_eq rfl rfl rfl rfl rfl ?_
    simp [Session.discarded, ShutdownCall.discarded, ShutdownCall.drained, hc, hs]
  | _ => exact { h with }

theorem Reachable.counted (h : Reachable c s) : s.Counted := by
  induction h with
  | start => constructor <;> simp [Session.start, Session.discarded]
  | next _ st ih => exact ih.step st

theorem Reachable.accepted_perm (hc : c.validate = .ok ()) (h : Reachable c s) :
    s.accepted.Perm (s.pool.queue.items ++ s.pool.executing ++ s.completed ++ s.panicked ++
      s.drained ++ s.lost) := by
  have hsettled := h.settled hc
  rw [(h.ordered hc).order]
  unfold Settled at hsettled
  simp only [← Multiset.coe_eq_coe, ← Multiset.coe_add] at hsettled ⊢
  rw [hsettled]
  abel

/-- Every accepted task is in one place, and no task is begun twice. So the counters add up,
and the outstanding tasks are those that are queued, executing or lost, with those that a call
has drained but not counted. Dropping a task that was never executed is taken not to panic. -/
theorem accepted_partition (hc : c.validate = .ok ()) (h : Reachable c s) :
    s.accepted.Perm (s.pool.queue.items ++ s.pool.executing ++ s.completed ++ s.panicked ++
        s.drained ++ s.lost) ∧
      (s.accepted.map PoolTask.channel).Nodup ∧ (s.dispatched.map PoolTask.channel).Nodup ∧
      s.pool.tally.completed = s.completed.length ∧ s.pool.tally.panicked = s.panicked.length ∧
      s.pool.tally.submitted = s.pool.tally.completed + s.pool.tally.panicked +
        s.pool.tally.discarded + s.pool.queue.size + s.pool.executing.length +
        s.uncounted.length + s.lost.length ∧
      s.pool.tally.completed + s.pool.tally.panicked + s.pool.tally.discarded ≤
        s.pool.tally.submitted ∧
      ((∀ call ∈ s.calls, call.stage ≠ .dropping) →
        s.pool.tally.outstanding =
          s.pool.queue.size + s.pool.executing.length + s.lost.length) ∧
      s.pool.tally.submitted + s.pool.tally.rejected = s.submits := by
  have hperm := h.accepted_perm hc
  have hcounted := h.counted
  have hlength := hperm.length_eq
  simp only [List.length_append, s.drained_length] at hlength
  have hsum : s.pool.tally.submitted = s.pool.tally.completed + s.pool.tally.panicked +
      s.pool.tally.discarded + s.pool.queue.size + s.pool.executing.length +
      s.uncounted.length + s.lost.length := by
    rw [hcounted.submitted, hcounted.completed, hcounted.panicked, hcounted.discarded, hlength]
    simp only [BoundedQueue.size]
    omega
  refine ⟨hperm, h.numbered.nodup, h.dispatched_nodup hc, hcounted.completed, hcounted.panicked,
    hsum, by omega, ?_, ?_⟩
  · intro hnone
    have huncounted : s.uncounted = [] := by
      refine List.flatMap_eq_nil_iff.mpr fun call hcall => ?_
      exact if_neg (hnone call hcall)
    simp only [huncounted, List.length_nil] at hsum
    unfold Tally.outstanding
    omega
  · have := hcounted.rejected
    rw [hcounted.submitted]
    omega

theorem accepted_partition_of_two : ∃ s, Reachable solo s ∧ s.pool.executing.length = 1 ∧
    s.pool.tally.outstanding = s.pool.queue.size + s.pool.executing.length + s.lost.length ∧
    s.pool.tally.outstanding = 2 := by
  have h₁ := Reachable.start.next (c := solo) (d := .submit [] true) (.accept rfl)
  have h₂ := h₁.next (.turn (List.Mem.head _) rfl)
  have h₃ := h₂.next (d := .submit [] true) (.accept rfl)
  obtain ⟨_, _, _, _, _, _, _, hout, _⟩ := accepted_partition rfl h₃
  exact ⟨_, h₃, rfl, hout nofun, rfl⟩

end Session
end TaskEngine
