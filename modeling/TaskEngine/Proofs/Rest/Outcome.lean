import TaskEngine.Proofs.Rest.Still

/-! What is seen of a pool at rest follows from few facts: which tasks were begun, drained
or queued, whether the pool is stopping, and how many workers it has and had. -/

namespace TaskEngine

/-- What a handle answers when its task has come to this end. -/
def Ending.answer (ending : Ending Product) : Outcome Product :=
  ending.capture.getD (.error .discarded)

def Body.returns (gates : List String) (body : Body) : Bool :=
  body.ending? gates matches some (.returned _)

namespace Session

variable {c : PoolConfig} {s : Session} {n : Nat}

theorem Reachable.queued_ne (hc : c.validate = .ok ()) (h : Reachable c s) {t u : PoolTask}
    (ht : t ∈ s.dispatched ∨ t ∈ s.drained) (hu : u ∈ s.pool.queue.items) :
    t.channel ≠ u.channel := by
  have hnodup := h.numbered.nodup
  rw [(h.ordered hc).order, List.map_append] at hnodup
  have htask : t ∈ s.dispatched ++ s.drained := by simpa using ht
  have hdisjoint := List.disjoint_of_nodup_append hnodup
  intro he
  exact hdisjoint (List.mem_map_of_mem htask) (he ▸ List.mem_map_of_mem hu)

theorem Answers.join {answer : Option (Outcome Product)} (h : s.Answers n answer)
    (ht : s.told n = none) (hg : s.channels n ≠ .abandoned) :
    (s.channels n).join.map Prod.fst = answer := by
  cases answer with
  | none =>
    rcases h.2 with hempty | hgone
    · simp [hempty, Channel.join]
    · exact absurd hgone hg
  | some outcome =>
    rcases h with htold | ⟨_, hgone | ⟨after, hjoin⟩⟩
    · simp [ht] at htold
    · exact absurd hgone hg
    · simp [hjoin]

end Session

namespace Workshop

open Pool Session

variable {gates : List String} {w : Workshop}

section Still

variable (h : w.Kept gates) (hs : w.Still gates)
include h hs

theorem Kept.stage_of_still : w.session.pool.stage =
    if w.session.pool.stopping then
      if w.session.pool.active = 0 then .stopped else .draining
    else .running := by
  have hp := h.sound.consistent
  cases hst : w.session.pool.stopping with
  | false => exact hp.running_iff.mpr hst
  | true =>
    simp only [if_true]
    split
    · next hnone => exact h.stopped_of_still hs hst hnone
    · next hsome =>
      cases hstage : w.session.pool.stage with
      | running => simp [hp.running_iff.mp hstage] at hst
      | draining => rfl
      | stopped => exact absurd (by simp [hp.active_eq, hp.empty_of_stopped hstage]) hsome

omit hs in
theorem Kept.dispatched_length : w.session.dispatched.length =
    w.session.pool.executing.length + w.session.completed.length +
      w.session.panicked.length := by
  rw [(h.reachable.settled h.valid).length_eq]
  simp [h.lost_nil, Nat.add_assoc]

theorem Kept.completed_of_still : w.session.completed.length =
    w.session.dispatched.countP fun t => t.body.returns gates := by
  have hexecuting : (w.session.pool.executing.countP fun t => t.body.returns gates) = 0 := by
    refine List.countP_eq_zero.mpr fun task ht => ?_
    have hstuck := h.isStuck_of_still hs ht
    simp only [Body.isStuck, Option.isNone_iff_eq_none] at hstuck
    simp [Body.returns, hstuck]
  have hcompleted : (w.session.completed.countP fun t => t.body.returns gates) =
      w.session.completed.length := by
    refine List.countP_eq_length.mpr fun task ht => ?_
    obtain ⟨value, hv⟩ := h.completed ht
    simp [Body.returns, hv]
  have hpanicked : (w.session.panicked.countP fun t => t.body.returns gates) = 0 := by
    refine List.countP_eq_zero.mpr fun task ht => ?_
    obtain ⟨payload, hp⟩ := h.panicked ht
    simp [Body.returns, hp]
  rw [(h.reachable.settled h.valid).countP_eq]
  simp [hexecuting, hcompleted, hpanicked, h.lost_nil]

omit h in
theorem Still.not_dropping {call : ShutdownCall} (hc : call ∈ w.session.calls) :
    call.stage ≠ .dropping := by
  rcases hs.calls call hc with hr | ⟨⟨joined, hj⟩, _⟩
  · simp [hr]
  · simp [hj]

theorem Kept.discarded_of_still :
    w.session.pool.tally.discarded = w.session.drained.length := by
  have hnone : w.session.uncounted = [] :=
    List.flatMap_eq_nil_iff.mpr fun call hc => if_neg (hs.not_dropping hc)
  rw [h.reachable.counted.discarded, w.session.drained_length, hnone, List.length_nil,
    Nat.add_zero]

theorem Kept.handle_of_dispatched {task : PoolTask} (ht : task ∈ w.session.dispatched) :
    (w.session.channels task.channel).join.map Prod.fst =
      (task.body.ending? gates).map Ending.answer := by
  have hreach := h.reachable
  refine Answers.join ?_ (h.unread _) (h.held _)
  have hplace := (hreach.settled h.valid).mem_iff.mp ht
  simp only [h.lost_nil, List.append_nil, List.append_assoc, List.mem_append] at hplace
  rcases hplace with hexec | hended
  · have hstuck := h.isStuck_of_still hs hexec
    simp only [Body.isStuck, Option.isNone_iff_eq_none] at hstuck
    rw [hstuck]
    refine (hreach.delivered h.valid).pending task (hreach.mem_accepted h.valid (.inl ht))
      (hs.running task hexec) fun t hd => ?_
    exact (hreach.dispatched_ne h.valid ht
      (w.session.drained_perm.mem_iff.mpr (List.mem_append_left _ hd))).symm
  · obtain ⟨e, he, rfl⟩ := (hreach.executed h.valid).ended task (by simpa [h.lost_nil] using hended)
    rw [(h.executed e he).ending]
    exact (hreach.delivered h.valid).executed e he

theorem Kept.handle_of_drained {task : PoolTask} (ht : task ∈ w.session.drained) :
    (w.session.channels task.channel).join.map Prod.fst = some (.error .discarded) := by
  have hreach := h.reachable
  have hundropped : w.session.undropped = [] := by
    refine List.flatMap_eq_nil_iff.mpr fun call hc => ?_
    exact (hreach.attended h.valid call hc).undropped (hs.not_dropping hc)
  have hdropped : task ∈ w.session.dropped := by
    simpa [hundropped] using w.session.drained_perm.mem_iff.mp ht
  exact ((hreach.delivered h.valid).dropped task hdropped).join (h.unread _) (h.held _)

omit hs in
theorem Kept.handle_of_queued {task : PoolTask} (ht : task ∈ w.session.pool.queue.items) :
    (w.session.channels task.channel).join.map Prod.fst = none := by
  have hreach := h.reachable
  refine Answers.join ?_ (h.unread _) (h.held _)
  refine (hreach.delivered h.valid).pending task (hreach.mem_accepted h.valid (.inr (.inr ht)))
    (fun e he => ?_) fun t hd => ?_
  · exact hreach.queued_ne h.valid (.inl ((hreach.executed h.valid).dispatched e he)) ht
  · have hdrained := w.session.drained_perm.mem_iff.mpr (List.mem_append_left _ hd)
    exact hreach.queued_ne h.valid (.inr hdrained) ht

theorem Kept.handles_of_still : w.view.handles =
    (w.session.dispatched.map fun t => (t.channel, (t.body.ending? gates).map Ending.answer)) ++
      (w.session.drained.map fun t => (t.channel, some (.error .discarded))) ++
      w.session.pool.queue.items.map fun t => (t.channel, none) := by
  simp only [view, (h.reachable.ordered h.valid).order, List.map_append]
  congr 1
  · congr 1
    · exact List.map_congr_left fun t ht => by rw [h.handle_of_dispatched hs ht]
    · exact List.map_congr_left fun t ht => by rw [h.handle_of_drained hs ht]
  · exact List.map_congr_left fun t ht => by rw [h.handle_of_queued ht]

end Still
end Workshop
end TaskEngine
