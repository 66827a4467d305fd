import Mathlib.Order.WellFounded
import TaskEngine.Proofs.Pool.Toil

/-! A pool that has been shut down stops: in every run in which nobody is passed over for
ever and every task ends, and in every run that goes on as long as somebody can, when the
requests from outside come to an end. Wake-ups without a cause delay it only as often as
there are workers that wait. -/

namespace TaskEngine
namespace Session

open Pool

variable {c : PoolConfig} {s s' t : Session} {d : Deed} {i : Nat} {call : ShutdownCall}

def Moves (s : Session) : Option Deed → Session → Prop
  | some d, s' => Step s d s'
  | none, s' => s' = s

/-- What goes on from a state, with pauses. -/
structure Run (s : Session) where
  state : Nat → Session
  deed : Nat → Option Deed
  start : state 0 = s
  moves : ∀ n, (state n).Moves (deed n) (state (n + 1))

namespace Run

/-- Whoever can always go on from some time on goes on some time. -/
def Fair (r : Run s) : Prop :=
  ∀ a n, (∀ m ≥ n, (r.state m).Able a) → ∃ m ≥ n, ∃ d, r.deed m = some d ∧ d.actor? = some a

/-- Every task that is executed comes to its end. -/
def TasksEnd (r : Run s) : Prop :=
  ∀ n id task, (r.state n).IsRunning id task → ∃ m ≥ n, ¬(r.state m).IsRunning id task

/-- There is a pause only where nobody can go on. -/
def Maximal (r : Run s) : Prop := ∀ n, r.deed n = none → ∀ a, ¬(r.state n).Able a

/-- From some time on nothing is asked for from outside. -/
def FewRequests (r : Run s) : Prop :=
  ∃ n, ∀ m ≥ n, ∀ d, r.deed m = some d → d.isRequest = false

/-- From this time on nothing that is done takes from the toil. -/
def Lull (r : Run s) (n : Nat) : Prop :=
  ∀ m ≥ n, ∀ d, r.deed m = some d → d.effort (r.state m) = 0

variable {r : Run s} {m n k : Nat}

theorem step (r : Run s) (hd : r.deed n = some d) : Step (r.state n) d (r.state (n + 1)) := by
  have := r.moves n
  rwa [hd] at this

theorem pause (r : Run s) (hd : r.deed n = none) : r.state (n + 1) = r.state n := by
  have := r.moves n
  rwa [hd] at this

theorem leads (r : Run s) (h : m ≤ n) : Leads Step (r.state m) (r.state n) := by
  induction n, h using Nat.le_induction with
  | base => exact .refl _
  | succ n _ ih =>
    cases hd : r.deed n with
    | none => rwa [r.pause hd]
    | some d => exact ih.next (r.step hd)

theorem reachable (r : Run s) (h : Reachable c s) (n : Nat) : Reachable c (r.state n) := by
  have hl := r.leads (Nat.zero_le n)
  rw [r.start] at hl
  exact h.leads hl

theorem stopping (r : Run s) (hst : s.pool.stopping = true) (n : Nat) :
    (r.state n).pool.stopping = true := by
  induction n with
  | zero => rwa [r.start]
  | succ n ih =>
    cases hd : r.deed n with
    | none => rwa [r.pause hd]
    | some d => exact (r.step hd).later.stopping ih

theorem Fair.acts {P : Session → Prop} {a : Actor} (hf : r.Fair) (hn : P (r.state n))
    (hable : ∀ m ≥ n, P (r.state m) → (r.state m).Able a)
    (hkeep : ∀ m ≥ n, ∀ d, r.deed m = some d → d.actor? ≠ some a → P (r.state m) →
      P (r.state (m + 1))) :
    ∃ m ≥ n, P (r.state m) ∧ ∃ d, r.deed m = some d ∧ d.actor? = some a := by
  by_contra hnever
  have hall : ∀ m ≥ n, P (r.state m) := by
    intro m hm
    induction m, hm using Nat.le_induction with
    | base => exact hn
    | succ m hm ih =>
      cases hd : r.deed m with
      | none => rwa [r.pause hd]
      | some d => exact hkeep m hm d hd (fun ha => hnever ⟨m, hm, ih, d, hd, ha⟩) ih
  obtain ⟨m, hm, hact⟩ := hf a n fun m hm => hable m hm (hall m hm)
  exact hnever ⟨m, hm, hall m hm, hact⟩

theorem Fair.no_endless_call {Q : ShutdownCall → Prop} (hf : r.Fair)
    (hable : ∀ m ≥ n, ∀ call, (r.state m).calls[i]? = some call → Q call →
      (r.state m).Able (.call i))
    (hnext : ∀ m ≥ n, ∀ d call later, r.deed m = some d → d.actor? = some (.call i) →
      (r.state m).calls[i]? = some call → Q call → call.Advances later →
      (r.state (m + 1)).calls[i]? = some later → Q later)
    (hm : n ≤ m) (hi : (r.state m).calls[i]? = some call) : ¬Q call := by
  intro hq
  -- each of its deeds leaves it fewer errands
  induction he : call.errands using Nat.strong_induction_on generalizing m call with
  | _ e ih =>
    obtain ⟨k, hk, hi, d, hd, ha⟩ := hf.acts (P := fun t => t.calls[i]? = some call) hi
      (fun k hk hi => hable k (hm.trans hk) call hi hq)
      fun k _ d hd ha hi => ((r.step hd).call_cases hi).resolve_right (fun hown => ha hown.1) |>.2
    rcases (r.step hd).call_cases hi with ⟨hne, _⟩ | ⟨_, later, hlater, hadvances⟩
    · exact hne ha
    · have hnk := hm.trans hk
      exact ih later.errands (he ▸ hadvances.errands) (hnk.trans (Nat.le_succ k)) hlater
        (hnext k hnk d call later hd ha hi hq hadvances hlater) rfl

section Lull

variable (hc : c.validate = .ok ()) (h : Reachable c s) (hst : s.pool.stopping = true)
include hc h hst

theorem exists_lull (r : Run s) : ∃ n, r.Lull n := by
  -- where the toil is least, for it never grows
  obtain ⟨n, hmin⟩ : ∃ n, ∀ m, (r.state n).toil ≤ (r.state m).toil :=
    ⟨_, fun m => Function.argmin_le (fun n => (r.state n).toil) m⟩
  have hstep {m : Nat} {d : Deed} (hd : r.deed m = some d) :=
    ((r.reachable h m).sound hc).step_toil (r.stopping hst m) (r.step hd)
  have hle : ∀ m ≥ n, (r.state m).toil ≤ (r.state n).toil := by
    intro m hm
    induction m, hm using Nat.le_induction with
    | base => exact Nat.le_refl _
    | succ m _ ih =>
      cases hd : r.deed m with
      | none => rwa [r.pause hd]
      | some d => exact (Nat.le_of_add_right_le (hstep hd)).trans ih
  refine ⟨n, fun m hm d hd => ?_⟩
  have := hle m hm
  have := hmin (m + 1)
  have := hstep hd
  omega

omit hc h in
theorem Lull.crew_eq (hl : r.Lull n) (hm : n ≤ m) :
    (r.state m).pool.crew = (r.state n).pool.crew := by
  induction m, hm using Nat.le_induction with
  | base => rfl
  | succ m hm ih =>
    cases hd : r.deed m with
    | none => rwa [r.pause hd]
    | some d => rw [(r.step hd).crew_eq (r.stopping hst m) (hl m hm d hd), ih]

omit hc h in
theorem Lull.isRunning {id : Nat} {task : PoolTask} (hl : r.Lull n) (hm : n ≤ m) (hk : m ≤ k)
    (hr : (r.state k).IsRunning id task) : (r.state m).IsRunning id task := by
  refine ⟨?_, fun e he => hr.2 e ((extends_of_leads (r.leads hk)).executions.subset he)⟩
  rw [hl.crew_eq hst hm, ← hl.crew_eq hst (hm.trans hk)]
  exact hr.1

theorem Lull.waiting_of_mem (hl : r.Lull n) (hf : r.Fair) (ht : r.TasksEnd)
    {w : Worker PoolTask} (hw : w ∈ (r.state n).pool.crew) : w.phase.isWaiting = true := by
  by_contra hawake
  -- from some time on its body has ended, if it has run one
  obtain ⟨m, hm, hidle⟩ : ∃ m ≥ n, ∀ k ≥ m, ∀ task, ¬(r.state k).IsRunning w.id task := by
    by_cases hrun : ∃ task, (r.state n).IsRunning w.id task
    · obtain ⟨task, hrun⟩ := hrun
      obtain ⟨m, hm, hended⟩ := ht n w.id task hrun
      refine ⟨m, hm, fun k hk task' hr => hended ?_⟩
      have hp := ((r.reachable h n).sound hc).consistent
      obtain rfl := hp.task_unique hrun.1 (hl.isRunning hst (le_refl n) (hm.trans hk) hr).1
      exact hl.isRunning hst hm hk hr
    · exact ⟨n, le_refl n, fun k hk task hr => hrun ⟨task, hl.isRunning hst (le_refl n) hk hr⟩⟩
  obtain ⟨k, hk, d, hd, ha⟩ := hf (.worker w.id) m fun k hk =>
    (r.reachable h k).able_worker hc (hl.crew_eq hst (hm.trans hk) ▸ hw) (by simpa using hawake)
      (hidle k hk)
  have heffort := hl k (hm.trans hk) d hd
  rw [Deed.effort_of_worker ha] at heffort
  exact nomatch heffort

theorem Lull.waiting_eq_zero (hl : r.Lull n) (hf : r.Fair) :
    (r.state n).pool.waiting = 0 := by
  by_contra hwaiting
  obtain ⟨call, hcall, halert⟩ :=
    ((r.reachable h n).summoned hc (r.stopping hst n)).resolve_right hwaiting
  obtain ⟨i, hi⟩ := List.mem_iff_getElem?.mp hcall
  refine hf.no_endless_call (Q := ShutdownCall.WillAlert)
    (fun _ _ _ hi halert => able_to_alert hi halert)
    (fun m hm d call later hd ha hi halert _ hlater => ?_) (le_refl n) hi halert
  rcases (r.step hd).alert_or_willAlert ha hi halert with rfl | ⟨later', hlater', hwill⟩
  · have heffort : (r.state m).pool.waiting = 0 := hl m hm _ hd
    rw [waiting, hl.crew_eq hst hm] at heffort
    exact absurd heffort hwaiting
  · rwa [Option.some.inj (hlater.symm.trans hlater')]

theorem Lull.stopped_of_nil (hl : r.Lull n) (hf : r.Fair) (hcrew : (r.state n).pool.crew = []) :
    ∃ m, (r.state m).pool.stage = .stopped := by
  by_contra hnever
  have hdraining := ((r.reachable h n).sound hc).consistent.draining (r.stopping hst n)
    fun hstage => hnever ⟨n, hstage⟩
  obtain ⟨call, hcall, ho⟩ := (r.reachable h n).overseen hc hdraining hcrew
  obtain ⟨i, hi⟩ := List.mem_iff_getElem?.mp hcall
  refine hf.no_endless_call (Q := fun call => call.origin = none) (fun m hm call hi ho => ?_)
    (fun _ _ _ _ _ _ _ _ ho hadvances _ => hadvances.origin.trans ho) (le_refl n) hi ho
  have hr := r.reachable h m
  refine able_outside (hr.sound hc).consistent hi (fun hreturned => hnever ⟨m, ?_⟩)
    (by rw [hl.crew_eq hst hm, hcrew])
  exact (hr.attended hc call (List.mem_of_getElem? hi)).stopped ho hreturned

theorem stops_of_fair (r : Run s) (hf : r.Fair) (ht : r.TasksEnd) :
    ∃ n, (r.state n).pool.stage = .stopped := by
  obtain ⟨n, hl⟩ := exists_lull hc h hst r
  refine hl.stopped_of_nil hc h hst hf (List.eq_nil_iff_forall_not_mem.mpr fun w hw => ?_)
  have hwaits := hl.waiting_of_mem hc h hst hf ht hw
  exact List.countP_eq_zero.mp (hl.waiting_eq_zero hc h hst hf) w hw hwaits

theorem stops_of_maximal (r : Run s) (hm : r.Maximal) (hq : r.FewRequests) :
    ∃ n, (r.state n).pool.stage = .stopped := by
  obtain ⟨n, hn⟩ := hq
  obtain ⟨m, hpause⟩ : ∃ m, r.deed m = none := by
    by_contra hnever
    -- then every deed would take from what is under way
    obtain ⟨k, hmin⟩ : ∃ k, ∀ m, (r.state (n + k)).underway ≤ (r.state (n + m)).underway :=
      ⟨_, fun m => Function.argmin_le (fun m => (r.state (n + m)).underway) m⟩
    obtain ⟨d, hd⟩ := Option.ne_none_iff_exists'.mp fun hnone => hnever ⟨n + k, hnone⟩
    have hless := ((r.reachable h (n + k)).sound hc).step_underway (r.stopping hst _) (r.step hd)
      (hn _ (Nat.le_add_right n k) d hd)
    exact Nat.not_lt_of_le (hmin (k + 1)) hless
  refine ⟨m, ?_⟩
  by_contra hne
  obtain ⟨a, ha⟩ := (r.reachable h m).exists_able hc (r.stopping hst m) hne
  exact hm m hpause a ha

end Lull

theorem exists_maximal (s : Session) : ∃ r : Run s, r.Maximal ∧ r.FewRequests := by
  have hnext (s : Session) : ∃ o s', s.Moves o s' ∧ (o = none → ∀ a, ¬s.Able a) ∧
      ∀ d, o = some d → d.actor? ≠ none := by
    by_cases hable : ∃ a, s.Able a
    · obtain ⟨a, d, s', ha, st⟩ := hable
      refine ⟨some d, s', st, nofun, fun d' hd => ?_⟩
      rw [← Option.some.inj hd, ha]
      exact Option.some_ne_none a
    · exact ⟨none, s, rfl, fun _ a ha => hable ⟨a, ha⟩, nofun⟩
  choose deed next hmoves hmaximal hactor using hnext
  refine ⟨⟨fun n => next^[n] s, fun n => deed (next^[n] s), rfl, fun n => ?_⟩,
    fun n => hmaximal _, 0, fun m _ d hd => ?_⟩
  · rw [Function.iterate_succ_apply']
    exact hmoves _
  · have hd := hactor _ d hd
    cases d with
    | submit | shutdown | shutdownNow | read | dropHandle => exact absurd rfl hd
    | _ => rfl

end Run

/-- A pool runs, drains and has stopped. It refuses tasks as stopped exactly when it does not
run any more. One deed stops it, when no worker is left, and then nothing happens in it any
more. A call on one of its own workers returns without waiting. And a pool that has been shut
down stops in the end. Dropping a queued task is taken not to panic in the call that drains it. -/
theorem runs_drains_stops (hc : c.validate = .ok ()) (h : Reachable c s) :
    (s.pool.stopping = true ↔ s.pool.stage ≠ .running) ∧
      (∀ spawns task,
        (s.pool.submitWith spawns task).2 = .error .stopped ↔ s.pool.stage ≠ .running) ∧
      (∀ d s', Step s d s' →
        (s'.pool.stage = s.pool.stage ∨ s.pool.stage.Next s'.pool.stage) ∧
          (s.Stops d s' ↔ s.pool.stage ≠ .stopped ∧ s'.pool.stage = .stopped)) ∧
      (s.pool.stage = .stopped → s.pool.active = 0 ∧
        ∀ t, Leads Step s t → t.Over s ∧ ∀ d t', ¬t.Stops d t') ∧
      (∀ i call, s.calls[i]? = some call → call.origin ≠ none →
        (∀ joined, call.stage ≠ .waiting joined) ∧
          ∃ t later, Leads (fun s d s' => Step s d s' ∧ d.actor? = some (.call i)) s t ∧
            t.calls[i]? = some later ∧ later.stage = .returned) ∧
      (s.pool.stopping = true → (∃ r : Run s, r.Maximal ∧ r.FewRequests) ∧
        ∀ r : Run s, r.Fair ∧ r.TasksEnd ∨ r.Maximal ∧ r.FewRequests →
          ∃ n, (r.state n).pool.stage = .stopped) := by
  have hs := h.sound hc
  have hp := hs.consistent
  refine ⟨hp.stopping_iff, fun spawns task => ?_, fun d s' st => ⟨hs.step_next st, hs.stops_iff st⟩,
    fun hstopped => ⟨?_, fun t hl => ⟨h.over hc hstopped hl, fun d t' hstops => ?_⟩⟩,
    fun i call hi ho => ⟨h.unwaiting call (List.mem_of_getElem? hi) ho, h.returns hi ho⟩,
    fun hst => ⟨Run.exists_maximal s, fun r hr => ?_⟩⟩
  · exact (submitWith_eq_stopped_iff _ spawns task).trans hp.stopping_iff
  · rw [hp.active_eq, hp.empty_of_stopped hstopped, List.length_nil]
  · exact (((h.leads hl).sound hc).of_stops hstops).1 (h.over hc hstopped hl).stage
  · rcases hr with ⟨hf, ht⟩ | ⟨hm, hq⟩
    · exact r.stops_of_fair hc h hst hf ht
    · exact r.stops_of_maximal hc h hst hm hq

/-- The only call is made by a task on the only worker. -/
theorem runs_drains_stops_inside : ∃ s, Reachable solo s ∧ s.pool.stopping = true ∧
    s.calls.map ShutdownCall.origin = [some 0] ∧ s.running.length = 1 ∧
    (∃ r : Run s, r.Maximal ∧ r.FewRequests) ∧
    ∀ r : Run s, r.Fair ∧ r.TasksEnd ∨ r.Maximal ∧ r.FewRequests →
      ∃ n, (r.state n).pool.stage = .stopped := by
  have h₁ := Reachable.start.next (c := solo) (d := .submit [] true) (.accept rfl)
  have h₂ := h₁.next (.turn (List.Mem.head _) rfl)
  have h₃ := h₂.next (d := .shutdown (some 0))
    (.shutdown ⟨⟨[], 0⟩, List.Mem.head _, nofun⟩ rfl)
  obtain ⟨_, _, _, _, _, hstops⟩ := runs_drains_stops rfl h₃
  exact ⟨_, h₃, rfl, rfl, rfl, hstops rfl⟩

end Session
end TaskEngine
