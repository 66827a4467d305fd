import TaskEngine.Proofs.Pool.Lifecycle

/-! In a stopping pool the work becomes less: every deed of a worker takes from it, and so
does every wake-up, while the deeds of a call take from the call. Until the pool has
stopped, a worker or a call can go on. -/

namespace TaskEngine

namespace Pool

variable {τ : Type} {p q : Pool τ} {id : Nat} {turn : Turn τ}

theorem AtLock.active_pos (h : p.AtLock id) : 0 < p.active := by
  obtain ⟨_, hw, _⟩ := h.here
  exact h.active_eq ▸ List.length_pos_of_mem hw

theorem AtLock.held_toil (h : p.AtLock id) (hd : Held p id q turn) (hs : p.stopping = true) :
    q.active + 2 * q.queue.size + turn.begun.length < p.active + 2 * p.queue.size := by
  have hpos := h.active_pos
  cases hd with
  | @run task queue hq =>
    have hsize := size_of_pop hq
    show p.active + 2 * queue.size + 1 < _
    omega
  | wait hq hst | retire hq hst => simp [hs] at hst
  | exit =>
    show p.active - 1 + 2 * p.queue.size + 0 < _
    omega

theorem AtLock.finish_toil (h : p.AtLock id) (conclusion : Conclusion) (hs : p.stopping = true) :
    (p.finish id conclusion).1.active + 2 * (p.finish id conclusion).1.queue.size +
      (p.finish id conclusion).2.begun.length < p.active + 2 * p.queue.size := by
  by_cases hu : conclusion = .unwound
  · have hpos := h.active_pos
    rw [hu, finish_unwound]
    show p.active - 1 + 2 * p.queue.size + 0 < _
    omega
  · have hheld := (h.record conclusion).held_toil (finish_held p id hu) (by rwa [record_stopping])
    rwa [record_active, record_queue] at hheld

theorem AtLock.finish_waiting (h : p.AtLock id) (conclusion : Conclusion)
    (hs : p.stopping = true) : (p.finish id conclusion).1.waiting ≤ p.waiting := by
  have hothers := others_waiting_le p id
  by_cases hu : conclusion = .unwound
  · rw [hu, finish_unwound]
    exact hothers
  · rw [(h.record conclusion).held_waiting (finish_held p id hu) (by rwa [record_stopping]),
      record_others]
    exact hothers

theorem wake_waiting {timed : Bool} (h : p.Consistent) (hw : ⟨id, .waiting timed⟩ ∈ p.crew)
    (timedOut : Bool) : (p.setPhase id (.woken timedOut)).waiting + 1 = p.waiting := by
  have hp := Pool.crew_perm h.ids_nodup hw
  have hc := Pool.setPhase_perm h.ids_nodup hw (.woken timedOut)
  simp [waiting, headcount_perm _ hp, headcount_perm _ hc, WorkerPhase.isWaiting]

theorem AtLock.dismiss_crew_ne_nil (h : p.AtLock id) (hs : (p.dismiss id).1.stage = .draining) :
    (p.dismiss id).1.crew ≠ [] := by
  intro hnil
  obtain ⟨_, hp⟩ := h.crew_perm
  have ho : p.others id = [] := hnil
  have hactive : p.active = 1 := by rw [h.active_eq, hp.length_eq, ho, List.length_singleton]
  rcases dismiss_stage p id with ⟨_, _, hstopped⟩ | ⟨hnot, hsame⟩
  · simp [hstopped] at hs
  · have hst : p.stopping = true := by
      have := h.running_iff
      simpa [← hsame, hs] using this
    have hl : p.isLast = true := (isLast_iff h.not_stopped).mpr ⟨hst, by rw [hactive]⟩
    exact Bool.false_ne_true (hnot.symm.trans hl)

theorem AtLock.held_crew_ne_nil (h : p.AtLock id) (hd : Held p id q turn)
    (hs : q.stage = .draining) : q.crew ≠ [] := by
  cases hd with
  | run => exact fun hnil => List.cons_ne_nil _ _ (hnil ▸ h.setPhase_perm _).symm.eq_nil
  | wait => exact fun hnil => List.cons_ne_nil _ _ (hnil ▸ beginWait_perm p id).symm.eq_nil
  | exit => exact h.dismiss_crew_ne_nil hs
  | retire => exact AtLock.dismiss_crew_ne_nil { h with } hs

theorem AtLock.finish_crew_ne_nil (h : p.AtLock id) (conclusion : Conclusion)
    (hs : (p.finish id conclusion).1.stage = .draining) : (p.finish id conclusion).1.crew ≠ [] := by
  by_cases hu : conclusion = .unwound
  · rw [hu, finish_unwound] at hs ⊢
    exact h.dismiss_crew_ne_nil hs
  · exact (h.record conclusion).held_crew_ne_nil (finish_held p id hu) hs

end Pool

namespace Session

open Pool

variable {c : PoolConfig} {s s' t : Session} {d : Deed} {i : Nat} {call : ShutdownCall}

/-- What workers and wake-ups take from. A queued task counts twice: it is begun, and its body
ends. -/
def toil (s : Session) : Nat :=
  s.pool.active + s.pool.waiting + 2 * s.pool.queue.size + s.running.length

def errands (s : Session) : Nat := (s.calls.map ShutdownCall.errands).sum

def underway (s : Session) : Nat := s.toil + s.notices + s.errands

/-- What a deed takes from the toil of a stopping pool at the least. -/
def Deed.effort (s : Session) : Deed → Nat
  | .turn _ | .endTask .. | .finish _ | .wake .. | .notify (some _) => 1
  | .alert _ => s.pool.waiting
  | _ => 0

/-- Somebody from outside asks for something, or puts a handle to use. -/
def Deed.isRequest : Deed → Bool
  | .submit .. | .shutdown _ | .shutdownNow _ | .read _ | .dropHandle _ => true
  | _ => false

theorem Deed.effort_of_worker {id : Nat} (hd : d.actor? = some (.worker id)) :
    d.effort s = 1 := by
  cases d with
  | turn | endTask | finish => rfl
  | _ => exact nomatch hd

theorem running_length_le_add {ended begun rest : List PoolTask}
    (hbefore : s.pool.executing.Perm (ended ++ rest))
    (hafter : t.pool.executing.Perm (begun ++ rest)) (hx : t.executions = s.executions) :
    t.running.length ≤ begun.length + s.running.length := by
  have hbegun : begun.countP s.isUnended ≤ begun.length := List.countP_le_length
  rw [running, running, isUnended_congr hx, ← List.countP_eq_length_filter,
    ← List.countP_eq_length_filter, hbefore.countP_eq, hafter.countP_eq, List.countP_append,
    List.countP_append]
  omega

theorem running_length_congr (he : t.pool.executing.Perm s.pool.executing)
    (hx : t.executions = s.executions) : t.running.length = s.running.length := by
  rw [running, running, isUnended_congr hx]
  exact (he.filter _).length_eq

theorem running_length_lt {e : Execution} (hp : t.pool = s.pool)
    (hx : t.executions = s.executions ++ [e]) (he : e.task ∈ s.running) :
    t.running.length < s.running.length := by
  have hrunning : t.running = s.running.filter fun u => e.task.channel != u.channel := by
    simp only [running, List.filter_filter, hp]
    refine List.filter_congr fun u _ => ?_
    simp [isUnended, hx, Bool.and_comm]
  rw [hrunning]
  exact List.length_filter_lt_length_iff_exists.mpr ⟨e.task, he, by simp⟩

/-- In a stopping pool no deed adds to the toil. -/
theorem Sound.step_toil (h : s.Sound c) (hst : s.pool.stopping = true) (st : Step s d s') :
    s'.toil + d.effort s ≤ s.toil := by
  have hp := h.consistent
  have hwake {id : Nat} {timed timedOut : Bool} {t : Session}
      (hw : ⟨id, .waiting timed⟩ ∈ s.pool.crew)
      (ht : t.pool = s.pool.setPhase id (.woken timedOut)) (hx : t.executions = s.executions) :
      t.toil + 1 ≤ s.toil := by
    have hwaiting := wake_waiting hp hw timedOut
    have hrunning := running_length_congr (t := t) (by rw [ht]; exact wake_executing hp hw) hx
    simp only [toil, hrunning, ht]
    show s.pool.active + _ + 2 * s.pool.queue.size + _ + 1 ≤ _
    omega
  cases st with
  | refuse hs =>
    obtain rfl := eq_of_submitWith_error hs
    exact Nat.le_refl _
  | accept hs => simp [(eq_of_submitWith_ok hs).1] at hst
  | notify hn hw => exact hwake hw rfl rfl
  | stir hw => exact hwake hw rfl rfl
  | timeOut hw => exact hwake hw rfl rfl
  | @turn w pool turn hw ht =>
    have hlock := hp.atLock_turn hw ht
    have hheld := turn_held ht
    have htoil := hlock.held_toil hheld hst
    have hwaiting := hlock.held_waiting hheld hst
    have hothers := others_waiting_le s.pool w.id
    have hbefore : s.pool.executing.Perm ([] ++ _) := turn_executing hp hw ht
    have hrunning := running_length_le_add
      (t := { s with pool, dispatched := s.dispatched ++ turn.begun })
      hbefore (hlock.held_executing hheld) rfl
    simp only [roused_active, roused_queue, roused_others] at htoil hwaiting
    simp only [toil, Deed.effort]
    omega
  | @endTask id task ending armed conclusion channel hr =>
    have hrunning := running_length_lt (s := s) (t := { s with
        channels := Function.update s.channels task.channel channel
        executions := s.executions ++ [⟨task, ending, conclusion⟩] })
      rfl rfl (mem_running.mpr ⟨id, hr⟩)
    simp only [toil, Deed.effort]
    omega
  | @finish id e hw he =>
    have hlock := hp.atLock_executing hw
    have htoil := hlock.finish_toil e.conclusion hst
    have hwaiting := hlock.finish_waiting e.conclusion hst
    have hbefore : s.pool.executing.Perm ([e.task] ++ _) := executing_perm hp hw
    have hrunning := running_length_le_add (t := { s with
        pool := (s.pool.finish id e.conclusion).1
        dispatched := s.dispatched ++ (s.pool.finish id e.conclusion).2.begun
        completed := s.completed ++ e.completed
        panicked := s.panicked ++ e.panicked
        lost := s.lost ++ e.lost })
      hbefore (hlock.finish_executing e.conclusion) rfl
    simp only [toil, Deed.effort]
    omega
  | shutdown ho hb =>
    rw [eq_of_beginDrain hb]
    exact Nat.le_refl _
  | shutdownNow =>
    show s.pool.active + s.pool.waiting + 2 * 0 + s.running.length + 0 ≤ s.toil
    unfold toil
    omega
  | @alert before call after hc hs =>
    have hwaiting : s.pool.notifyAll.waiting = 0 := (headcount_notified s.pool.crew).1
    have hrunning := running_length_congr (s := s) (t := { s with
        pool := s.pool.notifyAll
        calls := before ++ { call with stage := .deciding } :: after })
      (.of_eq (tasksOf_notified s.pool.crew)) rfl
    show s.pool.active + s.pool.notifyAll.waiting + 2 * s.pool.queue.size + _ + s.pool.waiting ≤
      s.pool.active + s.pool.waiting + 2 * s.pool.queue.size + s.running.length
    omega
  | confirm =>
    rw [confirmStopped_fst]
    exact Nat.le_refl _
  | _ => exact Nat.le_refl _

theorem errands_replace {calls before after : List ShutdownCall} {call later : ShutdownCall}
    (hc : calls = before ++ call :: after) (he : later.errands < call.errands) :
    ((before ++ later :: after).map ShutdownCall.errands).sum <
      (calls.map ShutdownCall.errands).sum := by
  simp [hc, he]

theorem Sound.step_underway (h : s.Sound c) (hst : s.pool.stopping = true) (st : Step s d s')
    (hd : d.isRequest = false) : s'.underway < s.underway := by
  have htoil := h.step_toil hst st
  have hcall {calls : List ShutdownCall} (htoil : s'.toil ≤ s.toil) (hn : s'.notices = s.notices)
      (hcalls : s'.calls = calls)
      (he : (calls.map ShutdownCall.errands).sum < (s.calls.map ShutdownCall.errands).sum) :
      s'.underway < s.underway := by
    unfold underway errands
    rw [hn, hcalls]
    omega
  cases st with
  | notify hn | notifyNobody hn =>
    simp only [underway, errands, hn] at htoil ⊢
    omega
  | stir | timeOut | turn | endTask | finish =>
    simp only [underway, errands, Deed.effort] at htoil ⊢
    omega
  | dropTask hc hs hu =>
    refine hcall (Nat.le_of_add_right_le htoil) rfl rfl (errands_replace hc ?_)
    simp [ShutdownCall.errands, hs, hu]
  | countDropped hc hs | alert hc hs | skip hc hs | join hc hs | confirm hc hs =>
    refine hcall (Nat.le_of_add_right_le htoil) rfl rfl (errands_replace hc ?_)
    simp [ShutdownCall.errands, hs]
  | refuse | accept | shutdownStopped | shutdown | shutdownNow | read | dropHandle =>
    simp [Deed.isRequest] at hd

theorem Step.crew_eq (st : Step s d s') (hst : s.pool.stopping = true) (hd : d.effort s = 0) :
    s'.pool.crew = s.pool.crew := by
  cases st with
  | refuse hs =>
    obtain rfl := eq_of_submitWith_error hs
    rfl
  | accept hs => simp [(eq_of_submitWith_ok hs).1] at hst
  | notify | stir | timeOut | turn | finish => exact nomatch hd
  | shutdown ho hb => rw [eq_of_beginDrain hb]
  | alert =>
    refine (List.map_congr_left fun w hw => notified_eq_self ?_).trans (List.map_id' _)
    exact Bool.eq_false_iff.mpr (List.countP_eq_zero.mp hd w hw)
  | confirm => rw [confirmStopped_fst]
  | _ => rfl

/-- Where a pool drains without workers, it was a caller on a thread of its own that shut it
down. -/
def Overseen (s : Session) : Prop :=
  s.pool.stage = .draining → s.pool.crew = [] → ∃ call ∈ s.calls, call.origin = none

theorem Overseen.step (ho : s.Overseen) (h : s.Sound c) (st : Step s d s') : s'.Overseen := by
  have hp := h.consistent
  unfold Overseen at ho ⊢
  have horigin {origin : Option Nat} (hcall : s.CanCall origin) (hcrew : s.pool.crew = []) :
      origin = none := by
    cases origin with
    | none => rfl
    | some worker =>
      obtain ⟨task, hw, _⟩ := hcall
      simp [hcrew] at hw
  have hreplace {before after : List ShutdownCall} {call later : ShutdownCall}
      (hc : s.calls = before ++ call :: after) (hsame : later.origin = call.origin)
      (hex : ∃ call ∈ s.calls, call.origin = none) :
      ∃ call ∈ before ++ later :: after, call.origin = none :=
    exists_of_replace hc hex fun hnone => hsame.trans hnone
  have hwake {id : Nat} {phase : WorkerPhase PoolTask}
      (hcrew : (s.pool.setPhase id phase).crew = []) : s.pool.crew = [] :=
    List.map_eq_nil_iff.mp hcrew
  cases st with
  | refuse hs =>
    obtain rfl := eq_of_submitWith_error hs
    exact ho
  | accept hs =>
    intro hstage
    rw [submit_stage hs, hp.running_iff.mpr (eq_of_submitWith_ok hs).1] at hstage
    exact nomatch hstage
  | notify | stir | timeOut => exact fun hstage hcrew => ho hstage (hwake hcrew)
  | turn hw ht =>
    exact fun hstage hcrew =>
      absurd hcrew ((hp.atLock_turn hw ht).held_crew_ne_nil (turn_held ht) hstage)
  | finish hw he =>
    exact fun hstage hcrew => absurd hcrew ((hp.atLock_executing hw).finish_crew_ne_nil _ hstage)
  | shutdownStopped =>
    exact fun hstage hcrew => (ho hstage hcrew).imp fun _ ⟨hx, hnone⟩ =>
      ⟨List.mem_append_left _ hx, hnone⟩
  | shutdown hcall hb =>
    intro _ hcrew
    rw [eq_of_beginDrain hb] at hcrew
    exact ⟨_, List.mem_append_right _ (List.mem_singleton_self _), horigin hcall hcrew⟩
  | shutdownNow hcall =>
    exact fun _ hcrew =>
      ⟨_, List.mem_append_right _ (List.mem_singleton_self _), horigin hcall hcrew⟩
  | alert hc =>
    exact fun hstage hcrew => hreplace hc rfl (ho hstage (List.map_eq_nil_iff.mp hcrew))
  | dropTask hc | countDropped hc | skip hc | join hc =>
    exact fun hstage hcrew => hreplace hc rfl (ho hstage hcrew)
  | confirm =>
    intro hstage
    rw [confirmStopped_fst] at hstage
    exact nomatch hstage
  | _ => exact ho

theorem Reachable.overseen (hc : c.validate = .ok ()) (h : Reachable c s) : s.Overseen := by
  induction h with
  | start => exact fun hstage => by simp at hstage
  | next h st ih => exact ih.step (h.sound hc) st

theorem Step.alert_or_willAlert (st : Step s d s') (ha : d.actor? = some (.call i))
    (hi : s.calls[i]? = some call) (hw : call.WillAlert) :
    d = .alert i ∨ ∃ later, s'.calls[i]? = some later ∧ later.WillAlert := by
  have hself {before after : List ShutdownCall} (later : ShutdownCall) :
      (before ++ later :: after)[before.length]? = some later := by simp
  cases st with
  | dropTask hc hs =>
    obtain rfl := Actor.call.inj (Option.some.inj ha)
    exact .inr ⟨_, hself _, .inl hs⟩
  | countDropped =>
    obtain rfl := Actor.call.inj (Option.some.inj ha)
    exact .inr ⟨_, hself _, .inr rfl⟩
  | alert =>
    obtain rfl := Actor.call.inj (Option.some.inj ha)
    exact .inl rfl
  | skip hc hs | join hc hs | confirm hc hs =>
    obtain rfl := Actor.call.inj (Option.some.inj ha)
    rw [hc, hself, Option.some.injEq] at hi
    simp [ShutdownCall.WillAlert, ← hi, hs] at hw
  | _ => simp [Deed.actor?] at ha

def Able (s : Session) (a : Actor) : Prop := ∃ d s', d.actor? = some a ∧ Step s d s'

theorem able_to_alert (hi : s.calls[i]? = some call) (hw : call.WillAlert) :
    s.Able (.call i) :=
  exists_errand hi (by rcases hw with hs | hs <;> simp [hs])
    (by rcases hw with hs | hs <;> simp [hs])

theorem Reachable.task_eq (h : Reachable c s) {t u : PoolTask} (ht : t ∈ s.accepted)
    (hu : u ∈ s.accepted) (he : t.channel = u.channel) : t = u :=
  List.inj_on_of_nodup_map h.numbered.nodup ht hu he

theorem Reachable.able_worker (hc : c.validate = .ok ()) (h : Reachable c s)
    {w : Worker PoolTask} (hw : w ∈ s.pool.crew) (hawake : w.phase.isWaiting = false)
    (hidle : ∀ task, ¬s.IsRunning w.id task) : s.Able (.worker w.id) := by
  obtain ⟨id, phase⟩ := w
  cases phase with
  | starting => exact ⟨_, _, rfl, .turn hw rfl⟩
  | woken => exact ⟨_, _, rfl, .turn hw rfl⟩
  | waiting => exact nomatch hawake
  | executing task =>
    obtain ⟨e, he, hchannel⟩ : ∃ e ∈ s.executions, e.task.channel = task.channel := by
      by_contra hnone
      exact hidle task ⟨hw, fun e he heq => hnone ⟨e, he, heq⟩⟩
    have hbegun := (h.settled hc).mem_dispatched (mem_tasksOf.mpr ⟨_, hw, rfl⟩)
    obtain rfl := h.task_eq (h.mem_accepted hc (.inl ((h.executed hc).dispatched e he)))
      (h.mem_accepted hc (.inl hbegun)) hchannel
    exact ⟨_, _, rfl, .finish hw he⟩

theorem able_running {id : Nat} {task : PoolTask} (hr : s.IsRunning id task)
    (hcalls : ∀ call ∈ s.calls, call.origin = some id → call.stage = .returned) :
    s.Able (.worker id) :=
  ⟨_, _, rfl, @Step.endTask _ id task (.returned (.plain .null)) true _ _ hr hcalls rfl⟩

theorem able_outside (hp : s.pool.Consistent) (hi : s.calls[i]? = some call)
    (hr : call.stage ≠ .returned) (hcrew : s.pool.crew = []) : s.Able (.call i) := by
  by_cases hw : ∃ joined, call.stage = .waiting joined
  · obtain ⟨joined, hw⟩ := hw
    obtain ⟨before, after, hc, rfl⟩ := exists_split_of_getElem? hi
    exact ⟨_, _, rfl, .confirm hc hw (by rw [hp.active_eq, hcrew, List.length_nil])
      fun _ _ => by simp [phase?, hcrew]⟩
  · exact exists_errand hi hr fun joined hj => hw ⟨joined, hj⟩

/-- Nobody waits for ever: until a stopping pool has stopped, somebody can go on. -/
theorem Reachable.exists_able (hc : c.validate = .ok ()) (h : Reachable c s)
    (hst : s.pool.stopping = true) (hne : s.pool.stage ≠ .stopped) : ∃ a, s.Able a := by
  have hp := (h.sound hc).consistent
  -- nobody is left, or somebody does not wait, or all wait and are about to be woken
  by_cases hcrew : s.pool.crew = []
  · obtain ⟨call, hcall, ho⟩ := h.overseen hc (hp.draining hst hne) hcrew
    obtain ⟨i, hi⟩ := List.mem_iff_getElem?.mp hcall
    have hr : call.stage ≠ .returned := fun hr => hne ((h.attended hc call hcall).stopped ho hr)
    exact ⟨_, able_outside hp hi hr hcrew⟩
  · by_cases hawake : ∃ w ∈ s.pool.crew, w.phase.isWaiting = false
    · obtain ⟨w, hw, hawake⟩ := hawake
      by_cases hrun : ∃ task, s.IsRunning w.id task
      · obtain ⟨task, hrun⟩ := hrun
        by_cases hcalls : ∃ call ∈ s.calls, call.origin = some w.id ∧ call.stage ≠ .returned
        · obtain ⟨call, hcall, ho, hr⟩ := hcalls
          obtain ⟨i, hi⟩ := List.mem_iff_getElem?.mp hcall
          exact ⟨_, exists_errand hi hr (h.unwaiting call hcall (by simp [ho]))⟩
        · exact ⟨_, able_running hrun fun call hcall ho => by_contra fun hr =>
            hcalls ⟨call, hcall, ho, hr⟩⟩
      · exact ⟨_, h.able_worker hc hw hawake fun task ht => hrun ⟨task, ht⟩⟩
    · obtain ⟨w, hw⟩ := List.exists_mem_of_ne_nil _ hcrew
      have hwaiting : s.pool.waiting ≠ 0 := fun hz => by
        have := List.countP_eq_zero.mp hz w hw
        exact hawake ⟨w, hw, Bool.eq_false_iff.mpr this⟩
      obtain ⟨call, hcall, halert⟩ := (h.summoned hc hst).resolve_right hwaiting
      obtain ⟨i, hi⟩ := List.mem_iff_getElem?.mp hcall
      exact ⟨_, able_to_alert hi halert⟩

end Session
end TaskEngine
