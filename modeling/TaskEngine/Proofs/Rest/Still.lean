import TaskEngine.Proofs.Rest.Kept

/-! A pool is at rest exactly if nothing is on its way. Then every worker that is not idle
is kept by a stuck task, and if tasks are queued the pool has all the workers it may have,
all of them kept so. -/

namespace TaskEngine

namespace Pool

variable {τ : Type} {p : Pool τ}

theorem exists_waiting (h : 0 < p.waiting) : ∃ id timed, ⟨id, .waiting timed⟩ ∈ p.crew := by
  obtain ⟨⟨id, phase⟩, hw, hp⟩ := List.countP_pos_iff.mp h
  cases phase with
  | waiting timed => exact ⟨id, timed, hw⟩
  | starting | woken | executing => exact nomatch hp

theorem exists_woken (h : 0 < p.woken) : ∃ id timedOut, ⟨id, .woken timedOut⟩ ∈ p.crew := by
  obtain ⟨⟨id, phase⟩, hw, hp⟩ := List.countP_pos_iff.mp h
  cases phase with
  | woken timedOut => exact ⟨id, timedOut, hw⟩
  | starting | waiting | executing => exact nomatch hp

end Pool

namespace Workshop

open Pool Session

variable {gates : List String} {w : Workshop}

structure Still (gates : List String) (w : Workshop) : Prop where
  notices : w.session.notices = 0
  starting : w.session.pool.starting = 0
  woken : w.session.pool.woken = 0
  stuck : ∀ task ∈ w.session.pool.executing, (w.todo task.channel).beat? gates = none
  running : ∀ task ∈ w.session.pool.executing, ∀ e ∈ w.session.executions,
    e.task.channel ≠ task.channel
  calls : ∀ call ∈ w.session.calls,
    call.stage = .returned ∨ (∃ joined, call.stage = .waiting joined) ∧ 0 < w.session.pool.active
  timed : w.IsShort → ∀ id, ⟨id, .waiting true⟩ ∉ w.session.pool.crew

theorem Still.atRest (h : w.Still gates) : w.AtRest gates := by
  intro w' m
  have hrunning {id : Nat} {task : PoolTask} (hr : w.session.IsRunning id task) :
      task ∈ w.session.pool.executing := mem_tasksOf.mpr ⟨_, hr.1, rfl⟩
  have hcall {before after : List ShutdownCall} {call : ShutdownCall}
      (hc : w.session.calls = before ++ call :: after) := h.calls call (by simp [hc])
  cases m with
  | act hr hb => simp [h.stuck _ (hrunning hr)] at hb
  | endTask hr hb => simp [h.stuck _ (hrunning hr)] at hb
  | pool hd st =>
    cases st with
    | notify hn | notifyNobody hn => simp [h.notices] at hn
    | timeOut hw => exact h.timed hd.2 _ hw
    | @turn v _ _ hw ht =>
      have hstarting := List.countP_eq_zero.mp h.starting v hw
      have hwoken := List.countP_eq_zero.mp h.woken v hw
      rcases phase_of_turn ht with hs | ⟨_, hs⟩
      · simp [hs, WorkerPhase.isStarting] at hstarting
      · simp [hs, WorkerPhase.isWoken] at hwoken
    | @finish id e hw he => exact h.running e.task (mem_tasksOf.mpr ⟨_, hw, rfl⟩) e he rfl
    | dropTask hc hs | countDropped hc hs | alert hc hs | join hc hs =>
      simpa [hs] using hcall hc
    | confirm hc hs ha => simpa [hs, ha] using hcall hc
    | stir => exact absurd hd.1 Bool.false_ne_true
    | _ => exact False.elim hd

theorem AtRest.notices (hr : w.AtRest gates) : w.session.notices = 0 := by
  by_contra hne
  obtain ⟨n, hn⟩ := Nat.exists_eq_succ_of_ne_zero hne
  rcases Nat.eq_zero_or_pos w.session.pool.waiting with hz | hpos
  · exact hr _ (.pool (d := .notify none) trivial (.notifyNobody hn hz))
  · obtain ⟨id, timed, hw⟩ := exists_waiting hpos
    exact hr _ (.pool (d := .notify (some id)) trivial (.notify hn hw))

section Rest

variable (h : w.Kept gates) (hr : w.AtRest gates)
include h hr

theorem Kept.running_of_rest {task : PoolTask} (ht : task ∈ w.session.pool.executing)
    {e : Execution} (he : e ∈ w.session.executions) : e.task.channel ≠ task.channel := by
  intro hch
  obtain ⟨⟨id, _⟩, hw, rfl⟩ := mem_tasksOf.mp ht
  have hdispatched := (h.reachable.executed h.valid).dispatched e he
  have hmem := (h.reachable.settled h.valid).mem_dispatched ht
  obtain rfl := List.inj_on_of_nodup_map (h.reachable.dispatched_nodup h.valid) hdispatched hmem hch
  exact hr _ (.pool (d := .finish id) trivial (.finish hw he))

theorem Kept.stuck_of_rest {task : PoolTask} (ht : task ∈ w.session.pool.executing) :
    (w.todo task.channel).beat? gates = none := by
  have hrunning := fun e => h.running_of_rest hr ht (e := e)
  obtain ⟨⟨id, _⟩, hw, rfl⟩ := mem_tasksOf.mp ht
  cases hb : (w.todo task.channel).beat? gates with
  | none => rfl
  | some beat =>
    exfalso
    cases beat with
    | pass rest => exact hr _ (.act ⟨hw, hrunning⟩ hb)
    | ends ending =>
      refine hr _ (.endTask ⟨hw, hrunning⟩ hb
        (@Step.endTask _ id task ending true _ _ ⟨hw, hrunning⟩ (fun call hc ho => ?_) rfl))
      simp [h.origins call hc] at ho

theorem Kept.call_of_rest {call : ShutdownCall} (hc : call ∈ w.session.calls) :
    call.stage = .returned ∨
      (∃ joined, call.stage = .waiting joined) ∧ 0 < w.session.pool.active := by
  obtain ⟨before, after, hs⟩ := List.append_of_mem hc
  cases hstage : call.stage with
  | returned => exact .inl rfl
  | dropping =>
    exfalso
    cases hu : call.undropped with
    | nil => exact hr _ (.pool (d := .countDropped _) trivial (.countDropped hs hstage hu))
    | cons task rest => exact hr _ (.pool (d := .dropTask _) trivial (.dropTask hs hstage hu))
  | alerting => exact False.elim (hr _ (.pool (d := .alert _) trivial (.alert hs hstage)))
  | deciding =>
    exact False.elim
      (hr _ (.pool (d := .join _) trivial (.join hs hstage (h.origins call hc))))
  | waiting joined =>
    refine .inr ⟨⟨joined, rfl⟩, Nat.pos_of_ne_zero fun hz => ?_⟩
    have hcrew := List.length_eq_zero_iff.mp (h.sound.consistent.active_eq ▸ hz)
    exact hr _ (.pool (d := .confirm _) trivial
      (.confirm hs hstage hz fun t _ => by simp [phase?, hcrew]))

theorem Kept.still : w.Still gates where
  notices := hr.notices
  starting := by
    by_contra hne
    obtain ⟨id, hw⟩ := exists_starting (Nat.pos_of_ne_zero hne)
    exact hr _ (.pool (d := .turn id) trivial (.turn hw rfl))
  woken := by
    by_contra hne
    obtain ⟨id, timedOut, hw⟩ := exists_woken (Nat.pos_of_ne_zero hne)
    exact hr _ (.pool (d := .turn id) trivial (.turn hw rfl))
  stuck _ ht := h.stuck_of_rest hr ht
  running _ ht _ he := h.running_of_rest hr ht he
  calls _ hc := h.call_of_rest hr hc
  timed hs id hw := hr _ (.pool (d := .wake id true) ⟨rfl, hs⟩ (.timeOut hw))

end Rest

section Crew

variable (h : w.Kept gates) (hs : w.Still gates)
include h hs

theorem Kept.isStuck_of_still {task : PoolTask} (ht : task ∈ w.session.pool.executing) :
    task.body.isStuck gates = true := by
  have haccepted := h.reachable.mem_accepted h.valid
    (.inl ((h.reachable.settled h.valid).mem_dispatched ht))
  have hending := Body.ending?_of_none (hs.stuck task ht)
  rw [h.todo task haccepted gates (List.Subset.refl _)] at hending
  simp [Body.isStuck, hending]

theorem Kept.busy_of_still : w.session.pool.executing.length =
    w.session.dispatched.countP fun t => t.body.isStuck gates := by
  rw [h.countP_stuck]
  exact (List.countP_eq_length.mpr fun task ht => h.isStuck_of_still hs ht).symm

theorem Kept.active_of_still : w.session.pool.active = w.session.pool.idle +
    w.session.dispatched.countP fun t => t.body.isStuck gates := by
  have hp := h.sound.consistent
  have hidle := hp.idle_eq
  have hlength := w.session.pool.crew_length
  rw [← hp.active_eq, h.busy_of_still hs, hs.starting, hs.woken] at hlength
  rw [hs.woken] at hidle
  omega

theorem Kept.idle_of_stopping (hst : w.session.pool.stopping = true) :
    w.session.pool.idle = 0 := by
  have hidle := h.sound.consistent.idle_eq
  rcases h.reachable.summoned h.valid hst with ⟨call, hc, hw⟩ | hnone
  · rcases hs.calls call hc with hr | ⟨⟨joined, hj⟩, _⟩
    · rcases hw with hw | hw <;> simp [hr] at hw
    · rcases hw with hw | hw <;> simp [hj] at hw
  · rw [hidle, hnone, hs.woken]

/-- With a task left in the queue, stuck tasks keep as many workers as the pool may have. -/
theorem Kept.full_of_queued (hq : w.session.pool.queue.items ≠ []) :
    w.session.pool.idle = 0 ∧
      (w.session.dispatched.countP fun t => t.body.isStuck gates) = w.session.pool.max := by
  have hsize : 0 < w.session.pool.queue.size := List.length_pos_iff.mpr hq
  have halarm := h.reachable.alarmed h.valid
  have hsupply := h.reachable.supplied h.valid h.spawns
  have hactive := h.active_of_still hs
  have hle := h.sound.consistent.active_le
  simp only [Alarmed, hs.woken, hs.notices] at halarm
  simp only [Supplied, h.lost_nil, List.length_nil, hs.starting] at hsupply
  omega

theorem Kept.active_of_short (hrun : w.session.pool.stopping = false) (hshort : w.IsShort) :
    w.session.pool.active = max w.session.pool.core
      (w.session.dispatched.countP fun t => t.body.isStuck gates) := by
  have hactive := h.active_of_still hs
  have hcore := h.reachable.retained h.valid (.inl hrun)
  rw [h.lost_nil] at hcore
  rcases Nat.eq_zero_or_pos w.session.pool.waiting with hz | hpos
  · have hidle := h.sound.consistent.idle_eq
    rw [hz, hs.woken] at hidle
    simp only [List.length_nil] at hcore
    omega
  · obtain ⟨id, timed, hw⟩ := exists_waiting hpos
    cases timed with
    | true => exact absurd hw (hs.timed hshort id)
    | false =>
      have hle := h.untimed _ hw rfl
      simp only [List.length_nil] at hcore
      omega

theorem Kept.stopped_of_still (hst : w.session.pool.stopping = true)
    (hnone : w.session.pool.active = 0) : w.session.pool.stage = .stopped := by
  obtain ⟨call, hc⟩ := List.exists_mem_of_ne_nil _ (h.sound.stopping_iff.mp hst)
  refine (h.reachable.attended h.valid call hc).stopped (h.origins call hc) ?_
  exact (hs.calls call hc).resolve_right fun ⟨_, hpos⟩ => absurd hnone (Nat.ne_of_gt hpos)

end Crew

end Workshop
end TaskEngine
