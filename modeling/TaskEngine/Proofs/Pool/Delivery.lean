import TaskEngine.Proofs.Pool.Ledger

/-! What the handles of the accepted tasks answer. A handle can be read once its task has
been executed or dropped, and nothing that anybody does later changes the answer. -/

namespace TaskEngine

theorem conclude_channel (armed : Bool) (ending : Ending Product) (channel : Channel Product) :
    (conclude armed ending channel).2 =
      match ending.capture with
      | none => channel.dropProducer
      | some outcome => (channel.complete outcome).1 := by
  unfold conclude
  cases ending.capture with
  | none => rfl
  | some outcome =>
    simp only
    split <;> rfl

theorem conclude_eq_unwound_iff (armed : Bool) (ending : Ending Product)
    (channel : Channel Product) :
    (conclude armed ending channel).1 = .unwound ↔ ending.capture = none := by
  unfold conclude
  cases ending.capture with
  | none => simp
  | some outcome =>
    simp only
    split <;> simp

/-- The answer that an execution leaves behind. -/
def Execution.outcome (e : Execution) : Outcome Product :=
  e.ending.capture.getD (.error .discarded)

namespace Session

open Pool Function

variable {c : PoolConfig} {s s' : Session} {d : Deed} {n : Nat}

/-- The handle of a channel cannot be read yet, or it has given or will give this answer. A
handle that was dropped unread gives none. -/
def Answers (s : Session) (n : Nat) : Option (Outcome Product) → Prop
  | none => s.told n = none ∧ (s.channels n = .empty ∨ s.channels n = .abandoned)
  | some outcome => s.told n = some outcome ∨ s.told n = none ∧
      (s.channels n = .abandoned ∨ ∃ after, (s.channels n).join = some (outcome, after))

theorem Answers.of_eq {answer : Option (Outcome Product)} (h : s.Answers n answer)
    (ht : s'.told n = s.told n) (hc : s'.channels n = s.channels n) : s'.Answers n answer := by
  cases answer with
  | none => simpa only [Answers, ht, hc] using h
  | some outcome => simpa only [Answers, ht, hc] using h

theorem Answers.read {answer : Option (Outcome Product)} {m : Nat} {outcome : Outcome Product}
    {channel : Channel Product} (h : s.Answers n answer) (hh : s.IsHeld m)
    (hr : (s.channels m).join = some (outcome, channel)) :
    Answers { s with
      channels := update s.channels m channel
      told := update s.told m (some outcome) } n answer := by
  by_cases hn : n = m
  · subst hn
    obtain ⟨_, htold, hheld⟩ := hh
    cases answer with
    | none =>
      obtain ⟨_, hempty | hgone⟩ := h
      · simp [hempty, Channel.join] at hr
      · exact absurd hgone hheld
    | some answer =>
      rcases h with h | ⟨_, hgone | ⟨after, hjoin⟩⟩
      · simp [htold] at h
      · exact absurd hgone hheld
      · left
        have heq : (answer, after) = (outcome, channel) := Option.some.inj (hjoin.symm.trans hr)
        rw [(Prod.mk.inj heq).1]
        exact update_self _ _ _
  · exact h.of_eq (update_of_ne hn _ _) (update_of_ne hn _ _)

theorem Answers.dropHandle {answer : Option (Outcome Product)} {m : Nat}
    (h : s.Answers n answer) (hh : s.IsHeld m) :
    Answers { s with channels := update s.channels m (s.channels m).dropReader.1 } n answer := by
  by_cases hn : n = m
  · subst hn
    cases answer with
    | none => exact ⟨hh.2.1, .inr (by simp)⟩
    | some answer => exact .inr ⟨hh.2.1, .inl (by simp)⟩
  · exact h.of_eq rfl (update_of_ne hn _ _)

theorem Answers.conclude {task : PoolTask} {ending : Ending Product} {armed : Bool}
    {conclusion : Conclusion} {channel : Channel Product} (h : s.Answers task.channel none)
    (hc : conclude armed ending (s.channels task.channel) = (conclusion, channel)) :
    Answers { s with
      channels := update s.channels task.channel channel
      executions := s.executions ++ [⟨task, ending, conclusion⟩] } task.channel
      (some (Execution.outcome ⟨task, ending, conclusion⟩)) := by
  obtain ⟨htold, hopen⟩ := h
  have hchannel := conclude_channel armed ending (s.channels task.channel)
  simp only [hc] at hchannel
  refine .inr ⟨htold, ?_⟩
  simp only [update_self, Execution.outcome, hchannel]
  cases ending.capture with
  | none =>
    rcases hopen with hempty | hgone
    · exact .inr ⟨.closed, by simp [hempty, Channel.dropProducer, Channel.join]⟩
    · exact .inl (by simp [hgone, Channel.dropProducer])
  | some outcome =>
    rcases hopen with hempty | hgone
    · exact .inr ⟨.closed, by simp [hempty, Channel.complete, Channel.join]⟩
    · exact .inl (by simp [hgone, Channel.complete])

theorem Answers.dropProducer {task : PoolTask} {calls : List ShutdownCall}
    (h : s.Answers task.channel none) :
    Answers { s with
      channels := update s.channels task.channel (s.channels task.channel).dropProducer
      calls } task.channel (some (.error .discarded)) := by
  obtain ⟨htold, hempty | hgone⟩ := h
  · exact .inr ⟨htold, .inr ⟨.closed, by simp [hempty, Channel.dropProducer, Channel.join]⟩⟩
  · exact .inr ⟨htold, .inl (by simp [hgone, Channel.dropProducer])⟩

def dropped (s : Session) : List PoolTask := s.calls.flatMap ShutdownCall.dropped

/-- An execution is one of a task that was begun, and no task has two. -/
structure Executed (s : Session) : Prop where
  dispatched : ∀ e ∈ s.executions, e.task ∈ s.dispatched
  nodup : (s.executions.map fun e => e.task.channel).Nodup
  unwound_iff : ∀ e ∈ s.executions, e.conclusion = .unwound ↔ e.ending.capture = none
  ended : ∀ task ∈ s.completed ++ s.panicked ++ s.lost, ∃ e ∈ s.executions, e.task = task
  lost : ∀ task ∈ s.lost, ∃ e ∈ s.executions, e.conclusion = .unwound

theorem Execution.mem_fates {e : Execution} {task : PoolTask}
    (h : task ∈ e.completed ++ e.panicked ++ e.lost) : e.task = task := by
  rw [e.fates] at h
  exact (List.mem_singleton.mp h).symm

theorem Executed.step (h : s.Executed) (hs : s.Settled) (st : Step s d s') : s'.Executed := by
  cases st with
  | turn => exact { h with dispatched := fun e he => List.mem_append_left _ (h.dispatched e he) }
  | @endTask id task ending armed conclusion channel hr hc hconclude =>
    have hold {e : Execution} (he : e ∈ s.executions ++ [⟨task, ending, conclusion⟩]) :
        e ∈ s.executions ∨ e = ⟨task, ending, conclusion⟩ := by simpa using he
    refine ⟨fun e he => ?_, ?_, fun e he => ?_, fun t ht => ?_, fun t ht => ?_⟩
    · rcases hold he with he | rfl
      · exact h.dispatched e he
      · exact hs.mem_dispatched (mem_tasksOf.mpr ⟨_, hr.1, rfl⟩)
    · simpa [List.nodup_append] using ⟨h.nodup, fun e he => hr.2 e he⟩
    · rcases hold he with he | rfl
      · exact h.unwound_iff e he
      · have := conclude_eq_unwound_iff armed ending (s.channels task.channel)
        rwa [hconclude] at this
    · obtain ⟨e, he, het⟩ := h.ended t ht
      exact ⟨e, List.mem_append_left _ he, het⟩
    · obtain ⟨e, he, heu⟩ := h.lost t ht
      exact ⟨e, List.mem_append_left _ he, heu⟩
  | @finish id e hw he =>
    refine ⟨fun e he => List.mem_append_left _ (h.dispatched e he), h.nodup, h.unwound_iff, ?_, ?_⟩
    · intro t ht
      have hcase : t ∈ s.completed ++ s.panicked ++ s.lost ∨
          t ∈ e.completed ++ e.panicked ++ e.lost := by
        simp only [List.mem_append] at ht ⊢
        tauto
      rcases hcase with ht | ht
      · exact h.ended t ht
      · exact ⟨e, he, Execution.mem_fates ht⟩
    · intro t ht
      rcases List.mem_append.mp ht with ht | ht
      · exact h.lost t ht
      · refine ⟨e, he, ?_⟩
        by_contra hu
        simp [Execution.lost_eq_nil hu] at ht
  | _ => exact { h with }

theorem Reachable.executed (hc : c.validate = .ok ()) (h : Reachable c s) : s.Executed := by
  induction h with
  | start => exact ⟨nofun, List.nodup_nil, nofun, nofun, nofun⟩
  | next h st ih => exact ih.step (h.settled hc) st

def undropped (s : Session) : List PoolTask := s.calls.flatMap ShutdownCall.undropped

theorem drained_perm (s : Session) : s.drained.Perm (s.dropped ++ s.undropped) :=
  (List.flatMap_append_perm s.calls _ _).symm

theorem Reachable.unread (h : Reachable c s) (hn : s.submits ≤ n) : s.told n = none := by
  induction h with
  | start => rfl
  | @next s s' d h st ih =>
    cases st with
    | refuse | accept => exact ih (Nat.le_of_succ_le hn)
    | @read m _ _ hh =>
      obtain ⟨⟨task, ht, rfl⟩, _⟩ := hh
      have hlt := h.numbered.lt task ht
      exact (update_of_ne (Nat.ne_of_gt (Nat.lt_of_lt_of_le hlt hn)) _ _).trans (ih hn)
    | _ => exact ih hn

section Apart

variable (hc : c.validate = .ok ()) (h : Reachable c s)
include hc h

theorem Reachable.mem_accepted {task : PoolTask}
    (ht : task ∈ s.dispatched ∨ task ∈ s.drained ∨ task ∈ s.pool.queue.items) :
    task ∈ s.accepted := by
  rw [(h.ordered hc).order]
  simpa [or_assoc] using ht

theorem Reachable.executed_lt {e : Execution} (he : e ∈ s.executions) :
    e.task.channel < s.submits :=
  h.numbered.lt _ (h.mem_accepted hc (.inl ((h.executed hc).dispatched e he)))

theorem Reachable.drained_lt {task : PoolTask} (ht : task ∈ s.drained) :
    task.channel < s.submits :=
  h.numbered.lt _ (h.mem_accepted hc (.inr (.inl ht)))

theorem Reachable.dispatched_ne {t u : PoolTask} (ht : t ∈ s.dispatched) (hu : u ∈ s.drained) :
    t.channel ≠ u.channel := by
  have hnodup := h.numbered.nodup
  rw [(h.ordered hc).order, List.map_append, List.map_append] at hnodup
  have hdisjoint := List.disjoint_of_nodup_append hnodup.of_append_left
  intro he
  exact hdisjoint (List.mem_map_of_mem ht) (he ▸ List.mem_map_of_mem hu)

theorem Reachable.dropped_ne {t u : PoolTask} (ht : t ∈ s.dropped) (hu : u ∈ s.undropped) :
    t.channel ≠ u.channel := by
  have hnodup := h.numbered.nodup
  rw [(h.ordered hc).order, List.map_append, List.map_append] at hnodup
  have hdrained := hnodup.of_append_left.of_append_right
  rw [(s.drained_perm.map _).nodup_iff, List.map_append] at hdrained
  intro he
  exact List.disjoint_of_nodup_append hdrained (List.mem_map_of_mem ht)
    (he ▸ List.mem_map_of_mem hu)

theorem Reachable.running_dispatched {id : Nat} {task : PoolTask} (hr : s.IsRunning id task) :
    task ∈ s.dispatched :=
  (h.settled hc).mem_dispatched (mem_tasksOf.mpr ⟨_, hr.1, rfl⟩)

theorem Reachable.dropped_ne_running {id : Nat} {task t : PoolTask} (hr : s.IsRunning id task)
    (ht : t ∈ s.dropped) : t.channel ≠ task.channel :=
  (h.dispatched_ne hc (h.running_dispatched hc hr)
    (s.drained_perm.mem_iff.mpr (List.mem_append_left _ ht))).symm

theorem Reachable.executed_ne {e : Execution} {task : PoolTask} (he : e ∈ s.executions)
    (ht : task ∈ s.undropped) : e.task.channel ≠ task.channel :=
  h.dispatched_ne hc ((h.executed hc).dispatched e he)
    (s.drained_perm.mem_iff.mpr (List.mem_append_right _ ht))

end Apart

/-- What becomes of a handle is decided by what becomes of its task. -/
structure Delivered (s : Session) : Prop where
  pending : ∀ task ∈ s.accepted, (∀ e ∈ s.executions, e.task.channel ≠ task.channel) →
    (∀ t ∈ s.dropped, t.channel ≠ task.channel) → s.Answers task.channel none
  executed : ∀ e ∈ s.executions, s.Answers e.task.channel (some e.outcome)
  dropped : ∀ t ∈ s.dropped, s.Answers t.channel (some (.error .discarded))

theorem Delivered.running (h : s.Delivered) (hc : c.validate = .ok ()) (hr : Reachable c s)
    {id : Nat} {task : PoolTask} (hrun : s.IsRunning id task) : s.Answers task.channel none :=
  h.pending task (hr.mem_accepted hc (.inl (hr.running_dispatched hc hrun))) hrun.2
    fun _ ht => hr.dropped_ne_running hc hrun ht

theorem Delivered.undropped (h : s.Delivered) (hc : c.validate = .ok ()) (hr : Reachable c s)
    {task : PoolTask} (ht : task ∈ s.undropped) : s.Answers task.channel none := by
  have hdrained : task ∈ s.drained := s.drained_perm.mem_iff.mpr (List.mem_append_right _ ht)
  exact h.pending task (hr.mem_accepted hc (.inr (.inl hdrained)))
    (fun _ he => hr.executed_ne hc he ht) fun _ hd => hr.dropped_ne hc hd ht

theorem Delivered.keep (h : s.Delivered) (hc : c.validate = .ok ()) (hr : Reachable c s)
    (hk : ∀ n < s.submits, ∀ answer, s.Answers n answer → s'.Answers n answer)
    (ha : s'.accepted = s.accepted) (he : s'.executions = s.executions)
    (hd : s'.dropped = s.dropped) : s'.Delivered := by
  refine ⟨fun task ht hne hnd => ?_, fun e hx => ?_, fun t ht => ?_⟩
  · rw [ha] at ht
    rw [he] at hne
    rw [hd] at hnd
    exact hk _ (hr.numbered.lt task ht) _ (h.pending task ht hne hnd)
  · rw [he] at hx
    exact hk _ (hr.executed_lt hc hx) _ (h.executed e hx)
  · rw [hd] at ht
    have hdrained : t ∈ s.drained := s.drained_perm.mem_iff.mpr (List.mem_append_left _ ht)
    exact hk _ (hr.drained_lt hc hdrained) _ (h.dropped t ht)

theorem Delivered.step (h : s.Delivered) (hc : c.validate = .ok ()) (hr : Reachable c s)
    (st : Step s d s') : s'.Delivered := by
  cases st with
  | refuse =>
    refine h.keep hc hr (fun n hn answer ha => ?_) rfl rfl rfl
    exact ha.of_eq rfl (update_of_ne (Nat.ne_of_lt hn) _ _)
  | accept =>
    have hold : ∀ n < s.submits, update s.channels s.submits .empty n = s.channels n :=
      fun n hn => update_of_ne (Nat.ne_of_lt hn) _ _
    refine ⟨fun task ht hne hnd => ?_, fun e he => ?_, fun t ht => ?_⟩
    · rcases List.mem_append.mp ht with ht | ht
      · exact (h.pending task ht hne hnd).of_eq rfl (hold _ (hr.numbered.lt task ht))
      · rw [List.mem_singleton.mp ht]
        exact ⟨hr.unread (Nat.le_refl _), .inl (update_self ..)⟩
    · exact (h.executed e he).of_eq rfl (hold _ (hr.executed_lt hc he))
    · have hdrained : t ∈ s.drained := s.drained_perm.mem_iff.mpr (List.mem_append_left _ ht)
      exact (h.dropped t ht).of_eq rfl (hold _ (hr.drained_lt hc hdrained))
  | @endTask id task ending armed conclusion channel hrun hcalls hconclude =>
    have hopen := h.running hc hr hrun
    refine ⟨fun t ht hne hnd => ?_, fun e he => ?_, fun t ht => ?_⟩
    · have hother : t.channel ≠ task.channel :=
        (hne _ (List.mem_append_right _ (List.mem_singleton_self _))).symm
      refine (h.pending t ht (fun e he => hne e (List.mem_append_left _ he)) hnd).of_eq rfl ?_
      exact update_of_ne hother _ _
    · rcases List.mem_append.mp he with he | he
      · exact (h.executed e he).of_eq rfl (update_of_ne (hrun.2 e he) _ _)
      · rw [List.mem_singleton.mp he]
        exact hopen.conclude hconclude
    · exact (h.dropped t ht).of_eq rfl (update_of_ne (hr.dropped_ne_running hc hrun ht) _ _)
  | shutdownStopped | shutdown | shutdownNow =>
    refine h.keep hc hr (fun n _ answer ha => ha.of_eq rfl rfl) rfl rfl ?_
    simp [Session.dropped]
  | @dropTask before call after task rest hcall hs hu =>
    have hundropped : task ∈ s.undropped := by simp [Session.undropped, hcall, hu]
    have hopen := h.undropped hc hr hundropped
    have hmem : ∀ t, t ∈ Session.dropped { s with
        calls := before ++ { call with dropped := call.dropped ++ [task], undropped := rest } ::
          after } ↔ t ∈ s.dropped ∨ t = task := by
      intro t
      simp only [Session.dropped, hcall, List.flatMap_append, List.flatMap_cons, List.mem_append,
        List.mem_singleton]
      tauto
    refine ⟨fun t ht hne hnd => ?_, fun e he => ?_, fun t ht => ?_⟩
    · have hother := hnd task ((hmem task).mpr (.inr rfl))
      refine (h.pending t ht hne fun u hu => hnd u ((hmem u).mpr (.inl hu))).of_eq rfl ?_
      exact update_of_ne hother.symm _ _
    · have hother := hr.executed_ne hc he hundropped
      exact (h.executed e he).of_eq rfl (update_of_ne hother _ _)
    · rcases (hmem t).mp ht with ht | rfl
      · have hother := hr.dropped_ne hc ht hundropped
        exact (h.dropped t ht).of_eq rfl (update_of_ne hother _ _)
      · exact hopen.dropProducer
  | countDropped hcall | alert hcall | skip hcall | join hcall | confirm hcall =>
    refine h.keep hc hr (fun n _ answer ha => ha.of_eq rfl rfl) rfl rfl ?_
    simp [Session.dropped, hcall]
  | read hh hj => exact h.keep hc hr (fun n _ answer ha => ha.read hh hj) rfl rfl rfl
  | dropHandle hh => exact h.keep hc hr (fun n _ answer ha => ha.dropHandle hh) rfl rfl rfl
  | _ => exact { h with }

theorem Reachable.delivered (hc : c.validate = .ok ()) (h : Reachable c s) : s.Delivered := by
  induction h with
  | start => exact ⟨nofun, nofun, nofun⟩
  | next h st ih => exact ih.step hc h st

end Session
end TaskEngine
