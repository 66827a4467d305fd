import TaskEngine.Proofs.Pool.Calls
import TaskEngine.Proofs.Pool.Workforce

/-! A worker waits without a timeout if there are no more workers than the core when it
begins to. The pool may then grow around it; but the last of them to begin finds them all
there, so that no more than the core ever wait so. A surplus waits with a timeout, and
retires. -/

namespace TaskEngine

def WorkerPhase.isUntimed {τ : Type} : WorkerPhase τ → Bool
  | .waiting timed => !timed
  | _ => false

theorem headcount_map_le {τ : Type} {kind : WorkerPhase τ → Bool} {crew : List (Worker τ)}
    {f : Worker τ → Worker τ} (hf : ∀ w ∈ crew, kind (f w).phase = true → kind w.phase = true) :
    headcount kind (crew.map f) ≤ headcount kind crew := by
  unfold headcount
  rw [List.countP_map]
  exact List.countP_mono_left hf

namespace Pool

variable {τ : Type} {p q : Pool τ} {id : Nat} {turn : Turn τ}

def untimed (p : Pool τ) : Nat := headcount WorkerPhase.isUntimed p.crew

theorem others_untimed_le (p : Pool τ) (id : Nat) :
    headcount WorkerPhase.isUntimed (p.others id) ≤ p.untimed :=
  List.filter_sublist.countP_le

theorem wake_untimed_le (p : Pool τ) (id : Nat) (timedOut : Bool) :
    (p.setPhase id (.woken timedOut)).untimed ≤ p.untimed := by
  refine headcount_map_le fun w _ hw => ?_
  by_cases hid : w.id = id
  · simp [hid, WorkerPhase.isUntimed] at hw
  · simpa [hid] using hw

theorem submit_untimed {spawns : Bool} {task : τ} (h : p.submitWith spawns task = (q, .ok ())) :
    q.untimed = p.untimed := by
  obtain ⟨_, queue, _, _, rfl⟩ := eq_of_submitWith_ok h
  cases spawns with
  | false => rfl
  | true =>
    simp only [if_true, grow]
    split
    · simp [hire, countSubmitted, untimed, WorkerPhase.isUntimed]
    · rfl

theorem AtLock.held_untimed (h : p.AtLock id) (hd : Held p id q turn)
    (hu : headcount WorkerPhase.isUntimed (p.others id) ≤ p.core) : q.untimed ≤ q.core := by
  cases hd with
  | @run task queue hq =>
    have huntimed : ({ p with queue }.setPhase id (.executing task)).untimed =
        headcount WorkerPhase.isUntimed (p.others id) :=
      h.headcount_setPhase WorkerPhase.isUntimed (.executing task)
    rw [huntimed]
    exact hu
  | wait =>
    show headcount _ _ ≤ p.core
    rw [headcount_perm _ (beginWait_perm p id), headcount_cons]
    by_cases hcore : p.core < p.active
    · simpa [WorkerPhase.isUntimed, hcore] using hu
    · obtain ⟨_, hperm⟩ := h.crew_perm
      have hothers : headcount WorkerPhase.isUntimed (p.others id) ≤ (p.others id).length :=
        List.countP_le_length
      have hlength := hperm.length_eq
      have hactive := h.active_eq
      simp only [List.length_cons] at hlength
      simp only [WorkerPhase.isUntimed, hcore, decide_false, Bool.not_false, if_true]
      omega
  | exit | retire => exact hu

theorem retired_not_mem_dispatch (p : Pool τ) (id i : Nat) :
    (i, .retired) ∉ (p.dispatch id).2.departures id := by
  unfold dispatch
  split
  · simp [Turn.departures]
  · split <;> simp [Turn.departures]

theorem retired_not_mem_finish (p : Pool τ) (id i : Nat) (conclusion : Conclusion) :
    (i, .retired) ∉ (p.finish id conclusion).2.departures id := by
  cases conclusion with
  | unwound => simp [finish, Turn.departures]
  | completed | panicked => exact retired_not_mem_dispatch _ id i

theorem retired_mem_resume (p : Pool τ) (id i : Nat) (timedOut : Bool) :
    (i, .retired) ∈ (p.resume id timedOut).2.departures id ↔
      i = id ∧ timedOut = true ∧ p.mayRetire = true := by
  simp only [resume]
  split
  · next h =>
    obtain ⟨htimed, hmay⟩ := Bool.and_eq_true_iff.mp h
    have hmay : p.mayRetire = true := hmay
    simp [Turn.departures, htimed, hmay]
  · next h =>
    have hnot : ¬(timedOut = true ∧ p.mayRetire = true) := fun hand => h (by
      rw [hand.1]
      exact hand.2)
    simp [retired_not_mem_dispatch, hnot]

theorem retired_mem_turn {w : Worker τ} {i : Nat} (ht : p.turn w = some (q, turn)) :
    (i, .retired) ∈ turn.departures w.id ↔
      i = w.id ∧ w.phase = .woken true ∧ p.mayRetire = true := by
  obtain ⟨id, phase⟩ := w
  cases phase with
  | starting =>
    obtain rfl := congrArg Prod.snd (Option.some.inj ht)
    simp [retired_not_mem_dispatch]
  | woken timedOut =>
    obtain rfl := congrArg Prod.snd (Option.some.inj ht)
    simp [retired_mem_resume]
  | waiting | executing => exact nomatch ht

theorem turn_of_mayRetire (hm : p.mayRetire = true) :
    p.turn ⟨id, .woken true⟩ =
      some (({ p with idle := p.idle - 1 }.countRetired.dismiss id).1,
        .leave true ({ p with idle := p.idle - 1 }.countRetired.dismiss id).2) := by
  have hm' : { p with idle := p.idle - 1 }.mayRetire = true := hm
  simp [turn, resume, hm']

end Pool

namespace Session

open Pool

variable {c : PoolConfig} {s s' : Session} {d : Deed} {left : List (Nat × Departure)}

theorem Sound.step_untimed (h : s.Sound c) (hu : s.pool.untimed ≤ s.pool.core)
    (st : Step s d s') : s'.pool.untimed ≤ s'.pool.core := by
  have hp := h.consistent
  cases st with
  | refuse hs =>
    obtain rfl := eq_of_submitWith_error hs
    exact hu
  | accept hs =>
    rw [submit_untimed hs, (later_submitWith_ok hs).core_eq]
    exact hu
  | notify | stir | timeOut => exact (wake_untimed_le ..).trans hu
  | turn hw ht =>
    exact (hp.atLock_turn hw ht).held_untimed (turn_held ht) ((others_untimed_le ..).trans hu)
  | @finish id e hw he =>
    have hothers := (others_untimed_le s.pool id).trans hu
    by_cases hunwound : e.conclusion = .unwound
    · simp only [hunwound, finish_unwound]
      exact hothers
    · refine ((hp.atLock_executing hw).record _).held_untimed (finish_held _ _ hunwound) ?_
      simpa only [record_others, record_core] using hothers
  | shutdown ho hb =>
    rw [eq_of_beginDrain hb]
    exact hu
  | alert =>
    refine (headcount_map_le fun w _ hw => ?_).trans hu
    obtain ⟨id, phase⟩ := w
    cases phase with
    | waiting => simp [Worker.notified, WorkerPhase.isUntimed] at hw
    | _ => exact hw
  | confirm =>
    rw [confirmStopped_fst]
    exact hu
  | _ => exact hu

theorem Reachable.untimed_le (hc : c.validate = .ok ()) (h : Reachable c s) :
    s.pool.untimed ≤ c.coreThreads.toNat := by
  rw [← (h.sound hc).core_eq]
  induction h with
  | start =>
    simp [Pool.start, hireMany_eq, untimed, headcount, WorkerPhase.isUntimed, Function.comp_def]
  | next h st ih => exact (h.sound hc).step_untimed ih st

/-- The pool runs, nobody was lost, nothing is to be done, and nobody is on its way to the
lock. -/
structure Quiet (s : Session) : Prop where
  running : s.pool.stage = .running
  unlost : s.lost = []
  queue : s.pool.queue.items = []
  executing : s.pool.executing = []
  starting : s.pool.starting = 0
  woken : s.pool.woken = 0

theorem Quiet.waits (h : s.Quiet) {w : Worker PoolTask} (hw : w ∈ s.pool.crew) :
    ∃ timed, w.phase = .waiting timed := by
  have hstarting := List.countP_eq_zero.mp h.starting w hw
  have hwoken := List.countP_eq_zero.mp h.woken w hw
  cases hphase : w.phase with
  | starting => simp [hphase, WorkerPhase.isStarting] at hstarting
  | woken timedOut => simp [hphase, WorkerPhase.isWoken] at hwoken
  | waiting timed => exact ⟨timed, rfl⟩
  | executing task =>
    have htask : task ∈ s.pool.executing := mem_tasksOf.mpr ⟨w, hw, hphase⟩
    simp [h.executing] at htask

theorem quiet_of_waits (hr : s.pool.stage = .running) (hl : s.lost = [])
    (hq : s.pool.queue.items = [])
    (hw : ∀ w ∈ s.pool.crew, ∃ timed, w.phase = .waiting timed) : s.Quiet := by
  have hnone {kind : WorkerPhase PoolTask → Bool} (hk : ∀ timed, kind (.waiting timed) = false) :
      headcount kind s.pool.crew = 0 := by
    refine List.countP_eq_zero.mpr fun w hw' => ?_
    obtain ⟨timed, hphase⟩ := hw w hw'
    simp [hphase, hk]
  refine ⟨hr, hl, hq, List.eq_nil_iff_forall_not_mem.mpr fun task ht => ?_,
    hnone fun _ => rfl, hnone fun _ => rfl⟩
  obtain ⟨w, hw', hphase⟩ := mem_tasksOf.mp ht
  obtain ⟨timed, hphase'⟩ := hw w hw'
  rw [hphase] at hphase'
  exact nomatch hphase'

/-- More workers than the core can only be quiet if the timeout of one is running. -/
theorem Quiet.exists_timed (hc : c.validate = .ok ()) (h : Reachable c s) (hq : s.Quiet)
    (ha : c.coreThreads.toNat < s.pool.active) : ∃ id, ⟨id, .waiting true⟩ ∈ s.pool.crew := by
  by_contra hnone
  have huntimed : s.pool.untimed = s.pool.crew.length := by
    refine List.countP_eq_length.mpr fun w hw => ?_
    obtain ⟨timed, hphase⟩ := hq.waits hw
    cases timed with
    | true => exact absurd ⟨w.id, hphase ▸ hw⟩ hnone
    | false => simp [hphase, WorkerPhase.isUntimed]
  have hle := h.untimed_le hc
  rw [huntimed, ← (h.sound hc).consistent.active_eq] at hle
  omega

theorem Quiet.core_le (hc : c.validate = .ok ()) (h : Reachable c s) (hq : s.Quiet) :
    c.coreThreads.toNat ≤ s.pool.active := by
  have hs := h.sound hc
  have hcore := h.retained hc (.inl (hs.consistent.running_iff.mp hq.running))
  rwa [hs.core_eq, hq.unlost] at hcore

theorem Quiet.settled (hc : c.validate = .ok ()) (h : Reachable c s) (hq : s.Quiet)
    (ht : ∀ w ∈ s.pool.crew, w.phase ≠ .waiting true) :
    s.pool.active = c.coreThreads.toNat := by
  by_contra hne
  obtain ⟨id, hw⟩ := hq.exists_timed hc h
    (Nat.lt_of_le_of_ne (hq.core_le hc h) (Ne.symm hne))
  exact ht _ hw rfl

theorem Quiet.retires (hc : c.validate = .ok ()) (h : Reachable c s) (hq : s.Quiet)
    (ha : c.coreThreads.toNat < s.pool.active) :
    ∃ t, Leads Step s t ∧ t.Quiet ∧ t.pool.active + 1 = s.pool.active := by
  have hs := h.sound hc
  obtain ⟨id, hw⟩ := hq.exists_timed hc h ha
  have hwoken : ⟨id, .woken true⟩ ∈ (s.pool.timeOut id).crew :=
    List.mem_map.mpr ⟨_, hw, if_pos rfl⟩
  have hmay : (s.pool.timeOut id).mayRetire = true :=
    (mayRetire_iff _).mpr
      ⟨hq.queue, hs.consistent.running_iff.mp hq.running, hs.core_eq ▸ ha⟩
  have hlast : s.pool.isLast = false := by
    simp [isLast, hs.consistent.running_iff.mp hq.running]
  have htimed := Step.timeOut hw
  refine ⟨_, .first htimed (.first (.turn hwoken (turn_of_mayRetire hmay)) (.refl _)), ?_, ?_⟩
  · refine quiet_of_waits ?_ hq.unlost hq.queue fun w hw' => ?_
    · show (if s.pool.isLast then PoolStage.stopped else s.pool.stage) = .running
      rw [hlast]
      exact hq.running
    · -- the others wait as before
      obtain ⟨hw', hid⟩ := mem_others.mp hw'
      obtain ⟨v, hv, rfl⟩ := List.mem_map.mp hw'
      by_cases hv' : v.id = id
      · simp [hv'] at hid
      · rw [if_neg hv']
        exact hq.waits hv
  · show s.pool.active - 1 + 1 = _
    omega

theorem Quiet.exists_settled (hc : c.validate = .ok ()) (h : Reachable c s) (hq : s.Quiet) :
    ∃ t, Leads Step s t ∧ t.Quiet ∧ t.pool.active = c.coreThreads.toNat := by
  have hcore := hq.core_le hc h
  obtain ⟨n, hn⟩ := Nat.exists_eq_add_of_le hcore
  -- on the surplus, with the state left open
  induction n generalizing s with
  | zero => exact ⟨s, .refl s, hq, hn⟩
  | succ n ih =>
    obtain ⟨t, hl, ht, hactive⟩ := hq.retires hc h (by omega)
    obtain ⟨u, hl', hu⟩ := ih (h.leads hl) ht (ht.core_le hc (h.leads hl)) (by omega)
    exact ⟨u, hl.trans hl', hu⟩

theorem Reachable.retired_iff (hc : c.validate = .ok ()) (h : Reachable c s)
    (hl : s.Leaves d s' left) {id : Nat} : (id, .retired) ∈ left ↔
      d = .turn id ∧ ⟨id, .woken true⟩ ∈ s.pool.crew ∧ s.pool.mayRetire = true := by
  have hp := (h.sound hc).consistent
  cases hl with
  | @turn w turn hd hw ht =>
    rw [retired_mem_turn ht, hd]
    constructor
    · rintro ⟨rfl, hphase, hmay⟩
      exact ⟨rfl, hphase ▸ hw, hmay⟩
    · rintro ⟨hid, hw', hmay⟩
      obtain rfl := Deed.turn.inj hid
      exact ⟨rfl, congrArg Worker.phase (hp.eq_of_id hw hw' rfl), hmay⟩
  | finish hd hw he hf =>
    obtain rfl := congrArg Prod.snd hf
    simp [retired_not_mem_finish, hd]
  | stay ht => simp [ht]

/-- No more workers than the core wait without a timeout, so a quiet pool in which nobody's
timeout runs has its core and no more, and one with a surplus can come to it. A worker retires
exactly if its timeout has passed and it then finds no task, a running pool and a surplus, and
the pool counts those that do. -/
theorem settles_at_core (hc : c.validate = .ok ()) (h : Reachable c s) :
    s.pool.untimed ≤ c.coreThreads.toNat ∧
    (s.Quiet → (∀ w ∈ s.pool.crew, w.phase ≠ .waiting true) →
      s.pool.active = c.coreThreads.toNat) ∧
    (s.Quiet → ∃ t, Leads Step s t ∧ t.Quiet ∧ t.pool.active = c.coreThreads.toNat) ∧
    (∀ {d s' left}, Step s d s' → s.Leaves d s' left →
      (∀ id, (id, .retired) ∈ left ↔
        d = .turn id ∧ ⟨id, .woken true⟩ ∈ s.pool.crew ∧ s.pool.queue.items = [] ∧
          s.pool.stopping = false ∧ c.coreThreads.toNat < s.pool.active) ∧
      s'.pool.tally.retiredWorkers = s.pool.tally.retiredWorkers + departed .retired left) ∧
    ∀ staff, Recorded c staff s →
      s.pool.tally.retiredWorkers = departed .retired staff.left := by
  refine ⟨h.untimed_le hc, fun hq => hq.settled hc h, fun hq => hq.exists_settled hc h,
    fun st hl => ⟨fun id => ?_, (h.step_turnover hc st hl).1.retired⟩,
    fun staff hstaff => (hstaff.accounted hc).retired⟩
  rw [h.retired_iff hc hl, mayRetire_iff, (h.sound hc).core_eq]

/-- A core of one, room for one more worker and for one task. -/
def duo : PoolConfig := { coreThreads := 1, maxThreads := 2, queueCapacity := 1 }

/-- A submission finds nobody idle and hires a second worker, which has nothing to do. Both wait
with a timeout, and the first retires. -/
theorem settles_at_core_grown : ∃ s s', Reachable duo s ∧ s.Step (.turn 0) s' ∧
    s.pool.active = 2 ∧ s.pool.untimed ≤ 1 ∧ s'.pool.active = 1 ∧
    s'.pool.tally.retiredWorkers = 1 := by
  have h₁ := Reachable.start.next (c := duo) (d := .submit [] true) (.accept rfl)
  have h₂ := h₁.next (.turn (List.Mem.head _) rfl)
  have h₃ := h₂.next (d := .endTask 0 (.returned (.plain .null)))
    (@Step.endTask _ _ ⟨[], 0⟩ _ true _ _ ⟨List.Mem.head _, nofun⟩ nofun rfl)
  have h₄ := h₃.next (d := .finish 0) (.finish (List.Mem.head _) (List.Mem.head _))
  have h₅ := h₄.next (.turn (List.Mem.head _) rfl)
  have h₆ := h₅.next (d := .wake 0 true) (.timeOut (List.Mem.head _))
  obtain ⟨s, hs, hreach⟩ : ∃ s, s = _ ∧ Reachable duo s := ⟨_, rfl, h₆⟩
  have hw : ⟨0, .woken true⟩ ∈ s.pool.crew := hs ▸ List.Mem.head _
  have st := Step.turn hw (turn_of_mayRetire (by rw [hs]; rfl))
  obtain ⟨huntimed, _, _, hstep, _⟩ := settles_at_core rfl hreach
  obtain ⟨_, hretired⟩ := hstep st (.turn rfl hw (turn_of_mayRetire (by rw [hs]; rfl)))
  refine ⟨s, _, hreach, st, by rw [hs]; rfl, huntimed, by rw [hs]; rfl, ?_⟩
  rw [hretired, hs]
  rfl

end Session
end TaskEngine
