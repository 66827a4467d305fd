import TaskEngine.Proofs.Rest.Outcome

/-! Pools that agree in what no move changes look the same at rest: tasks are begun in the
order of the queue, until stuck tasks keep as many workers as there may be, so that neither
of the two can have begun a task more than the other. -/

namespace TaskEngine

namespace Session

variable {s s' s'' : Session}

theorem Steady.symm (h : s.Steady s') : s'.Steady s :=
  ⟨h.submits.symm, h.accepted.symm, h.told.symm, h.failedSpawns.symm, h.drained.symm,
    h.stopping.symm, h.spawned.symm⟩

theorem Steady.trans (h : s.Steady s') (h' : s'.Steady s'') : s.Steady s'' :=
  ⟨h'.submits.trans h.submits, h'.accepted.trans h.accepted, h'.told.trans h.told,
    h'.failedSpawns.trans h.failedSpawns, h'.drained.trans h.drained,
    h'.stopping.trans h.stopping, h'.spawned.trans h.spawned⟩

end Session

namespace Pool

variable {τ : Type} {p q : Pool τ} {id : Nat} {turn : Turn τ}

theorem dispatch_active (p : Pool τ) (id : Nat) (hs : p.stopping = false) :
    (p.dispatch id).1.active = p.active := by
  unfold dispatch
  split
  · rfl
  · simp only [hs]
    rfl

theorem turn_active {w : Worker τ} (h : p.turn w = some (q, turn)) (hs : p.stopping = false)
    (hw : w.phase ≠ .woken true) : q.active = p.active := by
  obtain ⟨id, phase⟩ := w
  cases phase with
  | starting =>
    have he : p.dispatch id = (q, turn) := Option.some.inj h
    have := dispatch_active p id hs
    rwa [he] at this
  | woken timedOut =>
    cases timedOut with
    | true => exact absurd rfl hw
    | false =>
      have he : Pool.dispatch { p with idle := p.idle - 1 } id = (q, turn) := Option.some.inj h
      have := dispatch_active { p with idle := p.idle - 1 } id hs
      rwa [he] at this
  | waiting timed => exact nomatch h
  | executing task => exact nomatch h

theorem finish_active {conclusion : Conclusion} (hs : p.stopping = false)
    (hc : conclusion ≠ .unwound) : (p.finish id conclusion).1.active = p.active := by
  have hrecord := dispatch_active (p.record conclusion) id (by rw [record_stopping, hs])
  rw [record_active] at hrecord
  cases conclusion with
  | unwound => exact absurd rfl hc
  | completed | panicked => exact hrecord

theorem Held.retired_of_stopping (hd : Held p id q turn) (hs : p.stopping = true) :
    q.tally.retiredWorkers = p.tally.retiredWorkers := by
  cases hd with
  | run | wait | exit => rfl
  | retire hq hst => simp [hs] at hst

theorem finish_retired (p : Pool τ) (id : Nat) (conclusion : Conclusion)
    (hs : p.stopping = true) :
    (p.finish id conclusion).1.tally.retiredWorkers = p.tally.retiredWorkers := by
  by_cases hc : conclusion = .unwound
  · rw [hc, finish_unwound]
    rfl
  · rw [(finish_held p id hc).retired_of_stopping (by rw [record_stopping, hs]), record_retired]

end Pool

namespace Workshop

open Pool Session

variable {gates : List String} {w w' v u : Workshop}

structure Alike (w v : Workshop) : Prop where
  config : v.config = w.config
  steady : w.session.Steady v.session
  active : w.session.pool.stopping = false → ¬w.IsShort →
    v.session.pool.active = w.session.pool.active
  retired : w.session.pool.stopping = true →
    v.session.pool.tally.retiredWorkers = w.session.pool.tally.retiredWorkers

theorem Alike.refl (w : Workshop) : w.Alike w :=
  ⟨rfl, ⟨rfl, rfl, rfl, rfl, rfl, rfl, rfl⟩, fun _ _ => rfl, fun _ => rfl⟩

theorem Alike.symm (h : w.Alike v) : v.Alike w := by
  have hstopping := h.steady.stopping
  refine ⟨h.config.symm, h.steady.symm, fun hs hl => ?_, fun hs => ?_⟩
  · refine (h.active (hstopping ▸ hs) fun hshort => hl ?_).symm
    simpa only [IsShort, h.config] using hshort
  · exact (h.retired (hstopping ▸ hs)).symm

theorem Alike.trans (h : w.Alike v) (h' : v.Alike u) : w.Alike u := by
  have hstopping := h.steady.stopping
  refine ⟨h'.config.trans h.config, h.steady.trans h'.steady, fun hs hl => ?_, fun hs => ?_⟩
  · refine (h'.active (hstopping.trans hs) fun hshort => hl ?_).trans (h.active hs hl)
    simpa only [IsShort, h.config] using hshort
  · exact (h'.retired (hstopping.trans hs)).trans (h.retired hs)

theorem Kept.pool_active (h : w.Kept gates) {d : Deed} {s : Session} (hd : w.Allows d)
    (st : Session.Step w.session d s) (hs : w.session.pool.stopping = false)
    (hl : ¬w.IsShort) : s.pool.active = w.session.pool.active := by
  cases st with
  | turn hw ht => exact turn_active ht hs fun hph => hl (h.patient _ hw hph)
  | @finish id e hw he =>
    refine finish_active hs fun hu => ?_
    rcases (h.executed e he).counted with ⟨_, _, hc⟩ | ⟨_, _, _, hc⟩ <;> simp [hu] at hc
  | confirm => simp only [confirmStopped_fst]
  | notify | notifyNobody | timeOut | dropTask | countDropped | alert | join => rfl
  | stir => exact nomatch hd.1
  | _ => exact False.elim hd

theorem Allows.retired {d : Deed} {s : Session} (hd : w.Allows d)
    (st : Session.Step w.session d s) (hs : w.session.pool.stopping = true) :
    s.pool.tally.retiredWorkers = w.session.pool.tally.retiredWorkers := by
  cases st with
  | turn hw ht => exact (turn_held ht).retired_of_stopping hs
  | finish => exact finish_retired _ _ _ hs
  | confirm => simp only [confirmStopped_fst]
  | notify | notifyNobody | timeOut | dropTask | countDropped | alert | join => rfl
  | stir => exact nomatch hd.1
  | _ => exact False.elim hd

theorem Kept.alike (h : w.Kept gates) (m : w.Move gates w') : w.Alike w' := by
  have hsteady := h.steady m
  cases m with
  | pool hd st => exact ⟨rfl, hsteady, h.pool_active hd st, hd.retired st⟩
  | act => exact ⟨rfl, hsteady, fun _ _ => rfl, fun _ => rfl⟩
  | endTask hr hb st =>
    cases st with
    | endTask => exact ⟨rfl, hsteady, fun _ _ => rfl, fun _ => rfl⟩

theorem Stir.alike (m : w.Stir w') : w.Alike w' := by
  cases m with
  | wake st =>
    cases st with
    | stir => exact ⟨rfl, ⟨rfl, rfl, rfl, rfl, rfl, rfl, rfl⟩, fun _ _ => rfl, fun _ => rfl⟩

structure Same (w v : Workshop) : Prop where
  alike : w.Alike v
  dispatched : v.session.dispatched = w.session.dispatched
  queued : v.session.pool.queue.items = w.session.pool.queue.items
  active : v.session.pool.active = w.session.pool.active
  idle : v.session.pool.idle = w.session.pool.idle
  retired : v.session.pool.tally.retiredWorkers = w.session.pool.tally.retiredWorkers

section Two

variable (hw : w.Kept gates) (hv : v.Kept gates) (ha : w.Alike v)
include hw hv ha

theorem Alike.max_eq : v.session.pool.max = w.session.pool.max := by
  rw [hv.sound.max_eq, hw.sound.max_eq, ha.config]

theorem Alike.core_eq : v.session.pool.core = w.session.pool.core := by
  rw [hv.sound.core_eq, hw.sound.core_eq, ha.config]

/-- A pool at rest has begun as many tasks as any pool that is alike. Otherwise tasks are queued in
it, and stuck tasks keep all the workers that there may be; but the other pool has begun one of the
queued tasks. -/
theorem Alike.dispatched_le (hs : w.Still gates) :
    v.session.dispatched.length ≤ w.session.dispatched.length := by
  by_contra hlt
  have hord := hw.reachable.ordered hw.valid
  have hlength := congrArg List.length hord.order
  have horder := (hv.reachable.ordered hv.valid).order
  rw [ha.steady.accepted, ha.steady.drained] at horder
  have hlength' := congrArg List.length horder
  simp only [List.length_append] at hlength hlength'
  have hqueued : w.session.pool.queue.items ≠ [] := by
    intro hnone
    rw [hnone, List.length_nil] at hlength
    omega
  have hprefix : w.session.dispatched <+: v.session.dispatched := by
    have hw' : w.session.dispatched <+: w.session.accepted := by
      rw [hord.order, List.append_assoc]
      exact List.prefix_append _ _
    have hv' : v.session.dispatched <+: w.session.accepted := by
      rw [horder, List.append_assoc]
      exact List.prefix_append _ _
    exact List.prefix_of_prefix_length_le hw' hv' (by omega)
  obtain ⟨more, hmore⟩ := hprefix
  cases more with
  | nil =>
    rw [← hmore, List.append_nil] at hlt
    exact hlt (Nat.le_refl _)
  | cons task more =>
    have hlate := hv.prompt w.session.dispatched task ⟨more, by simpa using hmore⟩
    have hfull := (hw.full_of_queued hs hqueued).2
    rw [ha.max_eq hw hv] at hlate
    omega

end Two

theorem Alike.same (hw : w.Kept gates) (hv : v.Kept gates) (ha : w.Alike v)
    (hws : w.Still gates) (hvs : v.Still gates) : w.Same v := by
  have hlength : v.session.dispatched.length = w.session.dispatched.length :=
    Nat.le_antisymm (ha.dispatched_le hw hv hws) (ha.symm.dispatched_le hv hw hvs)
  have hworder := (hw.reachable.ordered hw.valid).order
  have hvorder := (hv.reachable.ordered hv.valid).order
  rw [ha.steady.accepted, ha.steady.drained, hworder, List.append_assoc, List.append_assoc]
    at hvorder
  obtain ⟨hdispatched, hrest⟩ := List.append_inj hvorder hlength.symm
  have hqueued := List.append_cancel_left hrest
  have hwactive := hw.active_of_still hws
  have hvactive := hv.active_of_still hvs
  rw [← hdispatched] at hvactive
  have hactive : v.session.pool.active = w.session.pool.active := by
    cases hst : w.session.pool.stopping with
    | true =>
      have hwidle := hw.idle_of_stopping hws hst
      have hvidle := hv.idle_of_stopping hvs (ha.steady.stopping.trans hst)
      omega
    | false =>
      by_cases hshort : w.IsShort
      · have hvshort : v.IsShort := by simpa only [IsShort, ha.config] using hshort
        rw [hw.active_of_short hws hst hshort,
          hv.active_of_short hvs (ha.steady.stopping.trans hst) hvshort, ha.core_eq hw hv,
          hdispatched]
      · exact ha.active hst hshort
  refine ⟨ha, hdispatched.symm, hqueued.symm, hactive, by omega, ?_⟩
  cases hst : w.session.pool.stopping with
  | true => exact ha.retired hst
  | false =>
    have hwhired := hw.reachable.hired hw.valid hst
    have hvhired := hv.reachable.hired hv.valid (ha.steady.stopping.trans hst)
    rw [hw.lost_nil] at hwhired
    rw [hv.lost_nil, ha.steady.spawned] at hvhired
    omega

theorem Same.tally (h : w.Same v) (hw : w.Kept gates) (hv : v.Kept gates)
    (hws : w.Still gates) (hvs : v.Still gates) :
    v.session.pool.tally = w.session.pool.tally := by
  have hwc := hw.reachable.counted
  have hvc := hv.reachable.counted
  have haccepted := h.alike.steady.accepted
  have hsubmitted : v.session.pool.tally.submitted = w.session.pool.tally.submitted := by
    rw [hvc.submitted, hwc.submitted, haccepted]
  have hrejected : v.session.pool.tally.rejected = w.session.pool.tally.rejected := by
    have hwr := hwc.rejected
    have hvr := hvc.rejected
    rw [haccepted, h.alike.steady.submits] at hvr
    omega
  have hcompleted : v.session.completed.length = w.session.completed.length := by
    rw [hv.completed_of_still hvs, hw.completed_of_still hws, h.dispatched]
  have hpanicked : v.session.panicked.length = w.session.panicked.length := by
    have hwl := hw.dispatched_length
    have hvl := hv.dispatched_length
    rw [hw.busy_of_still hws] at hwl
    rw [hv.busy_of_still hvs, h.dispatched] at hvl
    omega
  have hdiscarded : v.session.pool.tally.discarded = w.session.pool.tally.discarded := by
    rw [hv.discarded_of_still hvs, hw.discarded_of_still hws, h.alike.steady.drained]
  exact (Tally.mk.injEq ..).mpr ⟨hsubmitted, hrejected,
    by rw [hvc.completed, hwc.completed, hcompleted],
    by rw [hvc.panicked, hwc.panicked, hpanicked], hdiscarded, h.alike.steady.spawned, h.retired⟩

theorem Same.view (h : w.Same v) (hw : w.Kept gates) (hv : v.Kept gates)
    (hws : w.Still gates) (hvs : v.Still gates) : v.view = w.view := by
  have hstage : v.session.pool.stage = w.session.pool.stage := by
    rw [hv.stage_of_still hvs, hw.stage_of_still hws, h.alike.steady.stopping, h.active]
  have haccepting : v.session.pool.isAccepting = w.session.pool.isAccepting :=
    congrArg Bool.not h.alike.steady.stopping
  have hhandles : v.view.handles = w.view.handles := by
    rw [hv.handles_of_still hvs, hw.handles_of_still hws, h.dispatched, h.queued,
      h.alike.steady.drained]
  exact (View.mk.injEq ..).mpr ⟨hstage, haccepting, h.active, h.idle,
    congrArg List.length h.queued, h.tally hw hv hws hvs, hhandles⟩

end Workshop
end TaskEngine
