import TaskEngine.Proofs.Rest.Alike

/-! Pools that have come to the same are still alike after the same request: both take a
task or none does, and both hire a worker for it or none does. -/

namespace TaskEngine

open Function

namespace Pool

variable {τ : Type} {p q : Pool τ}

theorem phase_of_start (c : PoolConfig) {v : Worker τ} (hv : v ∈ (start c).crew) :
    v.phase = .starting := by
  simp only [start, hireMany_eq, List.nil_append, List.mem_map] at hv
  obtain ⟨id, -, rfl⟩ := hv
  rfl

theorem mem_crew_of_submit {spawns : Bool} {task : τ} {v : Worker τ}
    (h : p.submitWith spawns task = (q, .ok ())) (hv : v ∈ q.crew) :
    v ∈ p.crew ∨ v.phase = .starting := by
  obtain ⟨_, queue, _, _, rfl⟩ := eq_of_submitWith_ok h
  cases spawns with
  | false => exact .inl hv
  | true =>
    simp only [if_true, grow] at hv
    split at hv
    · rcases List.mem_append.mp hv with hv | hv
      · exact .inl hv
      · rw [List.mem_singleton.mp hv]
        exact .inr rfl
    · exact .inl hv

theorem room_of_submit {spawns : Bool} {task : τ} (h : p.submitWith spawns task = (q, .ok ())) :
    p.queue.size < p.queue.capacity := by
  obtain ⟨_, queue, hi, hc, _⟩ := eq_of_submitWith_ok h
  have hbound := queue.bounded
  rw [hi, hc, List.length_append, List.length_singleton] at hbound
  exact hbound

end Pool

namespace Session

open Pool

variable {c : PoolConfig} {s s' : Session} {origin : Option Nat}

structure Halts (s s' : Session) : Prop where
  submits : s'.submits = s.submits
  accepted : s'.accepted = s.accepted
  told : s'.told = s.told
  failedSpawns : s'.failedSpawns = s.failedSpawns
  stopping : s'.pool.stopping = true
  tally : s'.pool.tally = s.pool.tally

theorem Sound.halts_of_shutdown (h : s.Sound c) (st : Step s (.shutdown origin) s') :
    s.Halts s' := by
  have hstopping := (h.step st).stopping_iff
  cases st with
  | shutdownStopped => exact ⟨rfl, rfl, rfl, rfl, hstopping.mpr (by simp), rfl⟩
  | shutdown ho hb =>
    obtain rfl := eq_of_beginDrain hb
    exact ⟨rfl, rfl, rfl, rfl, rfl, rfl⟩

theorem halts_of_shutdownNow (st : Step s (.shutdownNow origin) s') : s.Halts s' := by
  cases st with
  | shutdownNow => exact ⟨rfl, rfl, rfl, rfl, rfl, rfl⟩

theorem drained_of_shutdownNow (st : Step s (.shutdownNow origin) s') :
    s'.drained = s.drained ++ s.pool.queue.items := by
  cases st with
  | shutdownNow => simp [drained, ShutdownCall.drained, takeQueued]

end Session

namespace Workshop

open Pool Session

variable {gates gates' : List String} {w w' v v' : Workshop} {r : Request}

theorem kept_start {c : PoolConfig} (hc : c.validate = .ok ()) : (start c).Kept gates where
  valid := hc
  reachable := .start
  spawns := rfl
  origins := nofun
  unread _ := rfl
  held _ := nofun
  untimed v hv hph := by simp [phase_of_start c hv] at hph
  patient v hv hph := by simp [phase_of_start c hv] at hph
  plain := nofun
  todo := nofun
  executed := nofun
  prompt begun task hpre := by simpa using List.prefix_nil.mp hpre

theorem Kept.open (h : w.Kept gates) (hg : gates ⊆ gates') : w.Kept gates' where
  __ := h
  todo task ht gates'' hg' := h.todo task ht gates'' (List.Subset.trans hg hg')
  executed e he :=
    ⟨Body.ending?_mono hg (h.executed e he).ending, (h.executed e he).counted⟩
  prompt begun task hpre :=
    Nat.lt_of_le_of_lt (List.countP_mono_left fun _ _ => Body.isStuck_mono hg)
      (h.prompt begun task hpre)

section Submit

variable {body : Body} {s : Session}

theorem Kept.submit (h : w.Kept gates) (hs : w.Still gates) (hb : body.Plain)
    (st : Session.Step w.session (.submit body true) s) :
    Kept gates { w with session := s, todo := update w.todo w.session.submits body } := by
  have hold {task : PoolTask} (ht : task ∈ w.session.accepted) :
      update w.todo w.session.submits body task.channel = w.todo task.channel :=
    update_of_ne (Nat.ne_of_lt (h.reachable.numbered.lt task ht)) _ _
  have hheld {channel : Channel Product} (hc : channel ≠ .abandoned) (n : Nat) :
      update w.session.channels w.session.submits channel n ≠ .abandoned := by
    by_cases hn : n = w.session.submits
    · simpa only [hn, update_self] using hc
    · simpa only [update_of_ne hn] using h.held n
  have hnext := h.reachable.next st
  cases st with
  | refuse hr =>
    obtain rfl := eq_of_submitWith_error hr
    refine
      { h with
        reachable := hnext
        held := hheld nofun
        plain := fun task ht => ?_
        todo := fun task ht => ?_ }
    · simpa only [hold ht] using h.plain task ht
    · simpa only [hold ht] using h.todo task ht
  | @accept _ _ pool ha =>
    have hlater := later_submitWith_ok ha
    refine
      { valid := h.valid
        reachable := hnext
        spawns := h.spawns
        origins := h.origins
        unread := h.unread
        held := hheld nofun
        untimed := fun v hv hph => ?_
        patient := fun v hv hph => ?_
        plain := fun task ht => ?_
        todo := fun task ht => ?_
        executed := h.executed
        prompt := fun begun task hpre => hlater.max_eq ▸ h.prompt begun task hpre }
    · have hv : v ∈ w.session.pool.crew :=
        (mem_crew_of_submit ha hv).resolve_right (by simp [hph])
      -- somebody is idle, so nothing was queued, and nobody is hired
      have hidle : 0 < w.session.pool.idle := by
        have hwaiting : 0 < w.session.pool.waiting :=
          List.countP_pos_iff.mpr ⟨v, hv, by simp [hph, WorkerPhase.isWaiting]⟩
        have := h.sound.consistent.idle_eq
        omega
      have hempty : w.session.pool.queue.items = [] := by
        by_contra hne
        have := (h.full_of_queued hs hne).1
        omega
      have hactive := (submit_hires ha).1
      rw [if_neg (by simp [BoundedQueue.size, hempty]; omega), Nat.add_zero] at hactive
      show pool.active ≤ pool.core
      rw [hactive, hlater.core_eq]
      exact h.untimed v hv hph
    · exact h.patient v ((mem_crew_of_submit ha hv).resolve_right (by simp [hph])) hph
    · rcases List.mem_append.mp ht with ht | ht
      · simpa only [hold ht] using h.plain task ht
      · rw [List.mem_singleton.mp ht]
        simpa only [update_self] using hb
    · rcases List.mem_append.mp ht with ht | ht
      · simpa only [hold ht] using h.todo task ht
      · rw [List.mem_singleton.mp ht]
        simp only [update_self, implies_true]

end Submit

theorem forall_mem_concat {P : ShutdownCall → Prop} {calls : List ShutdownCall}
    {call : ShutdownCall} (h : ∀ x ∈ calls, P x) (hp : P call) : ∀ x ∈ calls ++ [call], P x := by
  intro x hx
  rcases List.mem_append.mp hx with hx | hx
  · exact h x hx
  · rwa [List.mem_singleton.mp hx]

theorem Kept.takes (h : w.Kept gates) (hs : w.Still gates) (ht : w.Takes r w') :
    w'.Kept gates := by
  cases ht with
  | submit hb st => exact h.submit hs hb st
  | shutdown st =>
    have hnext := h.reachable.next st
    cases st with
    | shutdownStopped =>
      exact { h with reachable := hnext, origins := forall_mem_concat h.origins rfl }
    | shutdown ho hb =>
      obtain rfl := eq_of_beginDrain hb
      exact { h with reachable := hnext, origins := forall_mem_concat h.origins rfl }
  | shutdownNow st =>
    have hnext := h.reachable.next st
    cases st with
    | shutdownNow =>
      exact { h with reachable := hnext, origins := forall_mem_concat h.origins rfl }

theorem Same.symm (h : w.Same v) : v.Same w :=
  ⟨h.alike.symm, h.dispatched.symm, h.queued.symm, h.active.symm, h.idle.symm, h.retired.symm⟩

section Two

variable (hw : w.Kept gates) (hv : v.Kept gates) (h : w.Same v)
include hw hv h

theorem Same.accepts {task : PoolTask} {p : Pool PoolTask}
    (hs : w.session.pool.submitWith true task = (p, .ok ())) (task' : PoolTask) :
    ∃ q, v.session.pool.submitWith true task' = (q, .ok ()) := by
  have hroom := room_of_submit hs
  refine submitWith_of_lt (h.alike.steady.stopping.trans (eq_of_submitWith_ok hs).1) ?_ _ _
  rw [BoundedQueue.size, h.queued, hv.sound.capacity_eq, h.alike.config, ← hw.sound.capacity_eq]
  exact hroom

theorem Same.hires {task task' : PoolTask} {p q : Pool PoolTask}
    (hp : w.session.pool.submitWith true task = (p, .ok ()))
    (hq : v.session.pool.submitWith true task' = (q, .ok ())) :
    q.active = p.active ∧ q.tally.spawnedWorkers = p.tally.spawnedWorkers := by
  obtain ⟨hpa, hps⟩ := submit_hires hp
  obtain ⟨hqa, hqs⟩ := submit_hires hq
  have hsize : v.session.pool.queue.size = w.session.pool.queue.size :=
    congrArg List.length h.queued
  rw [hsize, h.idle, h.active, h.alike.max_eq hw hv] at hqa hqs
  rw [h.alike.steady.spawned] at hqs
  omega

theorem Same.submit {body : Body} {s t : Session}
    (st : Session.Step w.session (.submit body true) s)
    (st' : Session.Step v.session (.submit body true) t) {f g : Nat → Body} :
    Alike { w with session := s, todo := f } { v with session := t, todo := g } := by
  have hst := h.alike.steady
  have hdrained := st.drained_eq nofun
  have hdrained' := st'.drained_eq nofun
  have hsubmits : v.session.submits + 1 = w.session.submits + 1 := congrArg (· + 1) hst.submits
  cases st with
  | refuse hr =>
    cases st' with
    | refuse hr' =>
      obtain rfl := eq_of_submitWith_error hr
      obtain rfl := eq_of_submitWith_error hr'
      exact ⟨h.alike.config, { hst with submits := hsubmits }, h.alike.active, h.alike.retired⟩
    | accept ha' =>
      obtain ⟨q, hq⟩ := h.symm.accepts hv hw ha' ⟨body, w.session.submits⟩
      simp [hr] at hq
  | accept ha =>
    cases st' with
    | refuse hr' =>
      obtain ⟨q, hq⟩ := h.accepts hw hv ha ⟨body, v.session.submits⟩
      simp [hr'] at hq
    | accept ha' =>
      obtain ⟨hactive, hspawned⟩ := h.hires hw hv ha ha'
      have hrunning := (submitWith_stopping ha).trans (eq_of_submitWith_ok ha).1
      have hrunning' := (submitWith_stopping ha').trans (eq_of_submitWith_ok ha').1
      refine ⟨h.alike.config, ?_, fun _ _ => hactive, fun hstop => ?_⟩
      · exact
          { submits := hsubmits
            accepted := by simp only [hst.accepted, hst.submits]
            told := hst.told
            failedSpawns := hst.failedSpawns
            drained := hst.drained
            stopping := hrunning'.trans hrunning.symm
            spawned := hspawned }
      · exact absurd (hrunning.symm.trans hstop) nofun

end Two

theorem Same.halt {s t : Session} (h : w.Same v) (hs : w.session.Halts s) (ht : v.session.Halts t)
    (hd : t.drained = s.drained) : Alike { w with session := s } { v with session := t } := by
  have hst := h.alike.steady
  refine ⟨h.alike.config, ?_, fun hrun => ?_, fun _ => ?_⟩
  · exact
      { submits := by rw [ht.submits, hs.submits, hst.submits]
        accepted := by rw [ht.accepted, hs.accepted, hst.accepted]
        told := by rw [ht.told, hs.told, hst.told]
        failedSpawns := by rw [ht.failedSpawns, hs.failedSpawns, hst.failedSpawns]
        drained := hd
        stopping := by rw [ht.stopping, hs.stopping]
        spawned := by rw [ht.tally, hs.tally, hst.spawned] }
  · exact absurd (hrun.symm.trans hs.stopping) nofun
  · show t.pool.tally.retiredWorkers = s.pool.tally.retiredWorkers
    rw [ht.tally, hs.tally, h.retired]

theorem Same.takes (hw : w.Kept gates) (hv : v.Kept gates) (h : w.Same v) (ht : w.Takes r w')
    (ht' : v.Takes r v') : w'.Alike v' := by
  have hdrained := h.alike.steady.drained
  cases ht with
  | submit hb st =>
    cases ht' with
    | submit hb' st' => exact h.submit hw hv st st'
  | shutdown st =>
    cases ht' with
    | shutdown st' =>
      refine h.halt (hw.sound.halts_of_shutdown st) (hv.sound.halts_of_shutdown st') ?_
      rw [st'.drained_eq nofun, st.drained_eq nofun, hdrained]
  | shutdownNow st =>
    cases ht' with
    | shutdownNow st' =>
      refine h.halt (halts_of_shutdownNow st) (halts_of_shutdownNow st') ?_
      rw [drained_of_shutdownNow st', drained_of_shutdownNow st, hdrained, h.queued]

end Workshop
end TaskEngine
