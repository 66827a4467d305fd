import TaskEngine.Proofs.Rest.Yard

/-! Moves neither submit nor drain tasks, they neither stop a pool nor hire workers. Tasks
that are stuck keep their workers, and all other tasks come to their end. -/

namespace TaskEngine

open Function

namespace Pool

variable {τ : Type} {p q : Pool τ} {id : Nat} {turn : Turn τ}

theorem AtLock.mem_of_held {v : Worker τ} (h : p.AtLock id) (hd : Held p id q turn)
    (hv : v ∈ q.crew) :
    v ∈ p.others id ∨ (∃ task, v.phase = .executing task) ∨
      v.phase = .waiting (decide (p.core < p.active)) ∧ q.active = p.active := by
  cases hd with
  | @run task queue hq =>
    rcases List.mem_cons.mp ((h.setPhase_perm (.executing task)).mem_iff.mp hv) with rfl | hv
    · exact .inr (.inl ⟨task, rfl⟩)
    · exact .inl hv
  | wait =>
    rcases List.mem_cons.mp ((beginWait_perm p id).mem_iff.mp hv) with rfl | hv
    · exact .inr (.inr ⟨rfl, rfl⟩)
    · exact .inl hv
  | exit | retire => exact .inl hv

theorem Held.active_le (hd : Held p id q turn) : q.active ≤ p.active := by
  cases hd with
  | run | wait => exact Nat.le_refl _
  | exit | retire => exact Nat.sub_le _ _

theorem finish_active_le (p : Pool τ) (id : Nat) (conclusion : Conclusion) :
    (p.finish id conclusion).1.active ≤ p.active := by
  by_cases hc : conclusion = .unwound
  · rw [hc, finish_unwound]
    exact Nat.sub_le _ _
  · have := (finish_held p id hc).active_le
    rwa [record_active] at this

theorem Consistent.mem_of_setPhase {phase phase' : WorkerPhase τ} {v : Worker τ}
    (h : p.Consistent) (hw : ⟨id, phase⟩ ∈ p.crew) (hv : v ∈ (p.setPhase id phase').crew) :
    v ∈ p.crew ∨ v.phase = phase' := by
  rcases List.mem_cons.mp ((setPhase_perm h.ids_nodup hw _).mem_iff.mp hv) with rfl | hv
  · exact .inr rfl
  · exact .inl (others_subset _ _ hv)

theorem Consistent.countP_executing_lt {P : τ → Bool} {v : Worker τ} (h : p.Consistent)
    (hv : v ∈ p.crew) (hp : ∀ task, v.phase = .executing task → P task = false) :
    p.executing.countP P < p.crew.length := by
  have hcrew := crew_perm h.ids_nodup hv
  have hnone : v.phase.task?.toList.countP P = 0 := by
    cases hph : v.phase with
    | executing task => simp [WorkerPhase.task?, hp task hph]
    | starting | waiting | woken => rfl
  have hle : (tasksOf (p.others v.id)).countP P ≤ (p.others v.id).length :=
    List.countP_le_length.trans (List.length_filterMap_le _ _)
  have hcount := (tasksOf_perm hcrew).countP_eq P
  have hlength := hcrew.length_eq
  simp only [tasksOf_cons, List.countP_append, hnone] at hcount
  simp only [List.length_cons] at hlength
  show (tasksOf p.crew).countP P < _
  omega

end Pool

namespace Session

structure Steady (s s' : Session) : Prop where
  submits : s'.submits = s.submits
  accepted : s'.accepted = s.accepted
  told : s'.told = s.told
  failedSpawns : s'.failedSpawns = s.failedSpawns
  drained : s'.drained = s.drained
  stopping : s'.pool.stopping = s.pool.stopping
  spawned : s'.pool.tally.spawnedWorkers = s.pool.tally.spawnedWorkers

end Session

/-- The execution ended as its task does while these gates are open, and was counted so. -/
structure Execution.Regular (gates : List String) (e : Execution) : Prop where
  ending : e.task.body.ending? gates = some e.ending
  counted : (∃ value, e.ending = .returned value ∧ e.conclusion = .completed) ∨
    ∃ payload error, e.ending = .panicked payload ∧ e.conclusion = .panicked error

namespace Workshop

open Pool Session

variable {gates gates' : List String} {w w' : Workshop} {d : Deed} {s : Session}

theorem Allows.steady (hd : w.Allows d) (st : Session.Step w.session d s) :
    w.session.Steady s := by
  have hdrained : s.drained = w.session.drained := by
    refine st.drained_eq fun origin he => ?_
    subst he
    exact False.elim hd
  cases st with
  | turn hw ht =>
    have hheld := turn_held ht
    exact ⟨rfl, rfl, rfl, rfl, hdrained, hheld.stopping, hheld.spawned⟩
  | @finish id e hw he =>
    refine ⟨rfl, rfl, rfl, rfl, hdrained, finish_stopping _ _ _, ?_⟩
    by_cases hu : e.conclusion = .unwound
    · simp only [hu, finish_unwound]
      rfl
    · simp only [(finish_held _ _ hu).spawned, record_spawned]
  | confirm =>
    simp only [confirmStopped_fst] at hdrained ⊢
    exact ⟨rfl, rfl, rfl, rfl, hdrained, rfl, rfl⟩
  | notify | notifyNobody | timeOut | dropTask | countDropped | alert | join =>
    exact ⟨rfl, rfl, rfl, rfl, hdrained, rfl, rfl⟩
  | stir => exact nomatch hd.1
  | _ => exact False.elim hd

/-- A pool that moves gets no new workers, and these are the ways in which they change. -/
theorem Allows.mem_crew {v : Worker PoolTask} (h : w.session.Sound w.config) (hd : w.Allows d)
    (st : Session.Step w.session d s) (hv : v ∈ s.pool.crew) :
    v ∈ w.session.pool.crew ∨ (∃ task, v.phase = .executing task) ∨
      v.phase = .waiting (decide (w.session.pool.core < w.session.pool.active)) ∧
        s.pool.active = w.session.pool.active ∨
      ∃ timedOut, v.phase = .woken timedOut ∧ (timedOut = true → w.IsShort) := by
  have hp := h.consistent
  cases st with
  | notify hn hw =>
    exact (hp.mem_of_setPhase hw hv).imp_right fun hph => .inr (.inr ⟨false, hph, nofun⟩)
  | timeOut hw =>
    exact (hp.mem_of_setPhase hw hv).imp_right fun hph => .inr (.inr ⟨true, hph, fun _ => hd.2⟩)
  | turn hw ht =>
    rcases (hp.atLock_turn hw ht).mem_of_held (turn_held ht) hv with hv | hv | hv
    · exact .inl (others_subset _ _ hv)
    · exact .inr (.inl hv)
    · exact .inr (.inr (.inl hv))
  | @finish id e hw he =>
    by_cases hu : e.conclusion = .unwound
    · simp only [hu, finish_unwound] at hv
      exact .inl (others_subset _ _ hv)
    · have hl := (hp.atLock_executing hw).record e.conclusion
      rcases hl.mem_of_held (finish_held _ _ hu) hv with hv | hv | hv
      · exact .inl (others_subset _ _ (record_others _ _ _ ▸ hv))
      · exact .inr (.inl hv)
      · exact .inr (.inr (.inl (by simpa using hv)))
  | alert =>
    obtain ⟨⟨id, phase⟩, hu, rfl⟩ := List.mem_map.mp hv
    cases phase with
    | waiting => exact .inr (.inr (.inr ⟨false, rfl, nofun⟩))
    | starting | woken | executing => exact .inl hu
  | confirm =>
    rw [confirmStopped_fst] at hv
    exact .inl hv
  | notifyNobody | dropTask | countDropped | join => exact .inl hv
  | stir => exact nomatch hd.1
  | _ => exact False.elim hd

theorem Allows.active_le (hd : w.Allows d) (st : Session.Step w.session d s) :
    s.pool.active ≤ w.session.pool.active := by
  cases st with
  | turn hw ht => exact (turn_held ht).active_le
  | finish => exact finish_active_le _ _ _
  | confirm => simp only [confirmStopped_fst, Nat.le_refl]
  | notify | notifyNobody | timeOut | dropTask | countDropped | alert | join =>
    exact Nat.le_refl _
  | stir => exact nomatch hd.1
  | _ => exact False.elim hd

theorem Allows.dispatched (hd : w.Allows d) (st : Session.Step w.session d s) :
    s.dispatched = w.session.dispatched ∨
      ∃ v ∈ w.session.pool.crew, ∃ task, s.dispatched = w.session.dispatched ++ [task] ∧
        ∀ t, v.phase = .executing t → ∃ e ∈ w.session.executions, e.task = t := by
  have hbegun {v : Worker PoolTask} {turn : Turn PoolTask} (hv : v ∈ w.session.pool.crew)
      (he : ∀ t, v.phase = .executing t → ∃ e ∈ w.session.executions, e.task = t) :
      w.session.dispatched ++ turn.begun = w.session.dispatched ∨
        ∃ v ∈ w.session.pool.crew, ∃ task,
          w.session.dispatched ++ turn.begun = w.session.dispatched ++ [task] ∧
          ∀ t, v.phase = .executing t → ∃ e ∈ w.session.executions, e.task = t := by
    cases turn with
    | run task => exact .inr ⟨v, hv, task, rfl, he⟩
    | wait | leave | die => exact .inl (List.append_nil _)
  cases st with
  | turn hw ht =>
    refine hbegun hw fun t hph => ?_
    rcases phase_of_turn ht with hs | ⟨_, hs⟩ <;> simp [hs] at hph
  | @finish id e hw he =>
    refine hbegun hw fun t hph => ?_
    obtain rfl := WorkerPhase.executing.inj hph
    exact ⟨e, he, rfl⟩
  | notify | notifyNobody | timeOut | dropTask | countDropped | alert | join | confirm =>
    exact .inl rfl
  | stir => exact nomatch hd.1
  | _ => exact False.elim hd

theorem Allows.executions (hd : w.Allows d) (st : Session.Step w.session d s) :
    s.executions = w.session.executions := by
  cases st with
  | stir => exact nomatch hd.1
  | refuse | accept | endTask | shutdownStopped | shutdown | shutdownNow | skip | read
  | dropHandle => exact False.elim hd
  | _ => rfl

theorem Allows.channels (hd : w.Allows d) (st : Session.Step w.session d s) (n : Nat)
    (h : w.session.channels n ≠ .abandoned) : s.channels n ≠ .abandoned := by
  cases st with
  | @dropTask _ _ _ task =>
    by_cases hn : n = task.channel
    · subst hn
      simp only [update_self]
      cases hc : w.session.channels task.channel with
      | abandoned => exact absurd hc h
      | empty | ready | closed => exact nofun
    · simpa only [update_of_ne hn] using h
  | stir => exact nomatch hd.1
  | refuse | accept | endTask | shutdownStopped | shutdown | shutdownNow | skip | read
  | dropHandle => exact False.elim hd
  | _ => exact h

theorem Allows.origins (hd : w.Allows d) (st : Session.Step w.session d s)
    (h : ∀ call ∈ w.session.calls, call.origin = none) : ∀ call ∈ s.calls, call.origin = none := by
  cases st with
  | dropTask hc | countDropped hc | alert hc | join hc | confirm hc =>
    exact forall_of_replace hc h id
  | notify | notifyNobody | timeOut | turn | finish => exact h
  | stir => exact nomatch hd.1
  | _ => exact False.elim hd

/-- What moves keep while these gates are open. -/
structure Kept (gates : List String) (w : Workshop) : Prop where
  valid : w.config.validate = .ok ()
  reachable : Reachable w.config w.session
  spawns : w.session.failedSpawns = 0
  origins : ∀ call ∈ w.session.calls, call.origin = none
  unread : ∀ n, w.session.told n = none
  held : ∀ n, w.session.channels n ≠ .abandoned
  untimed : ∀ v ∈ w.session.pool.crew, v.phase = .waiting false →
    w.session.pool.active ≤ w.session.pool.core
  patient : ∀ v ∈ w.session.pool.crew, v.phase = .woken true → w.IsShort
  plain : ∀ task ∈ w.session.accepted, (w.todo task.channel).Plain
  todo : ∀ task ∈ w.session.accepted, ∀ gates', gates ⊆ gates' →
    (w.todo task.channel).ending? gates' = task.body.ending? gates'
  executed : ∀ e ∈ w.session.executions, e.Regular gates
  prompt : ∀ begun task, begun ++ [task] <+: w.session.dispatched →
    begun.countP (fun t => t.body.isStuck gates) < w.session.pool.max

namespace Kept

theorem sound (h : w.Kept gates) : w.session.Sound w.config := h.reachable.sound h.valid

theorem lost_nil (h : w.Kept gates) : w.session.lost = [] := by
  refine List.eq_nil_iff_forall_not_mem.mpr fun task ht => ?_
  obtain ⟨e, he, hu⟩ := (h.reachable.executed h.valid).lost task ht
  rcases (h.executed e he).counted with ⟨_, _, hc⟩ | ⟨_, _, _, hc⟩ <;> simp [hu] at hc

theorem completed (h : w.Kept gates) {task : PoolTask} (ht : task ∈ w.session.completed) :
    ∃ value, task.body.ending? gates = some (.returned value) := by
  obtain ⟨e, he, rfl, hc⟩ := h.reachable.concluded.completed task ht
  obtain ⟨hending, ⟨value, hv, _⟩ | ⟨_, _, _, hp⟩⟩ := h.executed e he
  · exact ⟨value, hv ▸ hending⟩
  · simp [hc] at hp

theorem panicked (h : w.Kept gates) {task : PoolTask} (ht : task ∈ w.session.panicked) :
    ∃ payload, task.body.ending? gates = some (.panicked payload) := by
  obtain ⟨e, he, rfl, error, hc⟩ := h.reachable.concluded.panicked task ht
  obtain ⟨hending, ⟨_, _, hk⟩ | ⟨payload, _, hp, _⟩⟩ := h.executed e he
  · simp [hc] at hk
  · exact ⟨payload, hp ▸ hending⟩

theorem countP_stuck (h : w.Kept gates) :
    w.session.dispatched.countP (fun t => t.body.isStuck gates) =
      w.session.pool.executing.countP (fun t => t.body.isStuck gates) := by
  have hcompleted : w.session.completed.countP (fun t => t.body.isStuck gates) = 0 := by
    refine List.countP_eq_zero.mpr fun task ht => ?_
    obtain ⟨value, hv⟩ := h.completed ht
    simp [Body.isStuck, hv]
  have hpanicked : w.session.panicked.countP (fun t => t.body.isStuck gates) = 0 := by
    refine List.countP_eq_zero.mpr fun task ht => ?_
    obtain ⟨payload, hp⟩ := h.panicked ht
    simp [Body.isStuck, hp]
  rw [(h.reachable.settled h.valid).countP_eq]
  simp [hcompleted, hpanicked, h.lost_nil]

theorem pool (h : w.Kept gates) (hd : w.Allows d) (st : Session.Step w.session d s) :
    Kept gates { w with session := s } := by
  have hsteady := hd.steady st
  have hlater := st.later
  have hactive := hd.active_le st
  refine
    { valid := h.valid
      reachable := h.reachable.next st
      spawns := hsteady.failedSpawns.trans h.spawns
      origins := hd.origins st h.origins
      unread := fun n => (congrFun hsteady.told n).trans (h.unread n)
      held := fun n => hd.channels st n (h.held n)
      untimed := fun v hv huntimed => ?_
      patient := fun v hv htimedOut => ?_
      plain := fun task ht => h.plain task (hsteady.accepted ▸ ht)
      todo := fun task ht => h.todo task (hsteady.accepted ▸ ht)
      executed := fun e he => h.executed e (hd.executions st ▸ he)
      prompt := fun begun task hpre => ?_ }
  · show s.pool.active ≤ s.pool.core
    rw [hlater.core_eq]
    rcases hd.mem_crew h.sound st hv with hv | ⟨_, hph⟩ | ⟨hph, ha⟩ | ⟨_, hph, _⟩
    · exact Nat.le_trans hactive (h.untimed v hv huntimed)
    · simp [huntimed] at hph
    · simp only [huntimed, WorkerPhase.waiting.injEq, false_eq_decide_iff] at hph
      omega
    · simp [huntimed] at hph
  · rcases hd.mem_crew h.sound st hv with hv | ⟨_, hph⟩ | ⟨hph, _⟩ | ⟨_, hph, hshort⟩
    · exact h.patient v hv htimedOut
    · simp [htimedOut] at hph
    · simp [htimedOut] at hph
    · exact hshort (WorkerPhase.woken.inj (htimedOut.symm.trans hph)).symm
  · show _ < s.pool.max
    rw [hlater.max_eq]
    rcases hd.dispatched st with heq | ⟨v, hv, t, heq, hidle⟩
    · exact h.prompt begun task (heq ▸ hpre)
    · simp only [heq] at hpre
      rcases List.prefix_concat_iff.mp hpre with hpre | hpre
      · obtain ⟨rfl, -⟩ := List.append_inj' hpre rfl
        have hlt := h.sound.consistent.countP_executing_lt (P := fun t => t.body.isStuck gates)
          hv fun t hph => by
            obtain ⟨e, he, rfl⟩ := hidle t hph
            simp [Body.isStuck, (h.executed e he).ending]
        rw [h.countP_stuck]
        have hactive := h.sound.consistent.active_eq
        have hmax := h.sound.consistent.active_le
        omega
      · exact h.prompt begun task hpre

theorem running_accepted (h : w.Kept gates) {id : Nat} {task : PoolTask}
    (hr : w.session.IsRunning id task) : task ∈ w.session.accepted :=
  h.reachable.mem_accepted h.valid (.inl (h.reachable.running_dispatched h.valid hr))

theorem act (h : w.Kept gates) {id : Nat} {task : PoolTask} {rest : Body}
    (hr : w.session.IsRunning id task)
    (hb : (w.todo task.channel).beat? gates = some (.pass rest)) :
    Kept gates { w with todo := update w.todo task.channel rest } := by
  have hplain := (h.plain task (h.running_accepted hr)).after_pass hb
  refine { h with plain := fun t ht => ?_, todo := fun t ht gates' hg => ?_ }
  · by_cases he : t.channel = task.channel
    · simpa only [he, update_self] using hplain
    · simpa only [update_of_ne he] using h.plain t ht
  · by_cases he : t.channel = task.channel
    · have := h.todo t ht gates' hg
      rw [he, Body.ending?_of_pass hb hg] at this
      simpa only [he, update_self] using this
    · simpa only [update_of_ne he] using h.todo t ht gates' hg

theorem endTask (h : w.Kept gates) {id : Nat} {task : PoolTask} {ending : Ending Product}
    (hr : w.session.IsRunning id task)
    (hb : (w.todo task.channel).beat? gates = some (.ends ending))
    (st : Session.Step w.session (.endTask id ending) s) :
    Kept gates { w with session := s } ∧ w.session.Steady s := by
  have hnext := h.reachable.next st
  have htask := h.running_accepted hr
  have hending := Body.ending?_of_ends hb
  have hordinary := (h.plain task htask).ordinary hending
  rw [h.todo task htask gates (List.Subset.refl _)] at hending
  cases st with
  | @endTask _ task' _ armed conclusion channel hr' hc hconclude =>
    obtain rfl : task' = task := h.sound.consistent.task_unique hr'.1 hr.1
    have hcounted := hordinary.conclude armed (w.session.channels task'.channel)
    have hchannel := conclude_channel armed ending (w.session.channels task'.channel)
    simp only [hconclude] at hcounted hchannel
    refine ⟨{ h with reachable := hnext, held := fun n => ?_, executed := fun e he => ?_ },
      ⟨rfl, rfl, rfl, rfl, rfl, rfl, rfl⟩⟩
    · by_cases hn : n = task'.channel
      · have hheld := h.held task'.channel
        simp only [hn, update_self, hchannel]
        cases hcase : w.session.channels task'.channel with
        | abandoned => exact absurd hcase hheld
        | empty | ready | closed => cases ending.capture <;> exact nofun
      · simpa only [update_of_ne hn] using h.held n
    · rcases List.mem_append.mp he with he | he
      · exact h.executed e he
      · obtain rfl := List.mem_singleton.mp he
        exact ⟨hending, hcounted⟩

theorem move (h : w.Kept gates) (m : w.Move gates w') : w'.Kept gates := by
  cases m with
  | pool hd st => exact h.pool hd st
  | act hr hb => exact h.act hr hb
  | endTask hr hb st => exact (h.endTask hr hb st).1

theorem stir (h : w.Kept gates) (m : w.Stir w') : w'.Kept gates := by
  cases m with
  | @wake id s st =>
    have hnext := h.reachable.next st
    cases st with
    | stir hw =>
      have hold {v : Worker PoolTask} (hv : v ∈ (w.session.pool.setPhase id (.woken false)).crew)
          (hph : v.phase ≠ .woken false) : v ∈ w.session.pool.crew :=
        (h.sound.consistent.mem_of_setPhase hw hv).resolve_right hph
      exact
        { h with
          reachable := hnext
          untimed := fun v hv hph => h.untimed v (hold hv (by simp [hph])) hph
          patient := fun v hv hph => h.patient v (hold hv (by simp [hph])) hph }

theorem steady (h : w.Kept gates) (m : w.Move gates w') : w.session.Steady w'.session := by
  cases m with
  | pool hd st => exact hd.steady st
  | act => exact ⟨rfl, rfl, rfl, rfl, rfl, rfl, rfl⟩
  | endTask hr hb st => exact (h.endTask hr hb st).2

end Kept
end Workshop
end TaskEngine
