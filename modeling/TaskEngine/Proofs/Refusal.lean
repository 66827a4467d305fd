import TaskEngine.Proofs.Delayed.Frozen
import TaskEngine.Proofs.Periodic.Running
import TaskEngine.Proofs.Pool.Calls
import TaskEngine.Proofs.Pool.Lifecycle
import TaskEngine.Scenario.Call

/-! What a refused call leaves behind: nothing that is queued, begun or claimed, and of a
submission its count. The checks come in a fixed order, so that it is known which of two
reasons is given. -/

namespace TaskEngine

namespace Pool

variable {τ : Type} {p : Pool τ} {spawns : Bool} {task : τ}

theorem submitWith_eq_queueFull_iff {n : Nat} :
    (p.submitWith spawns task).2 = .error (.queueFull n) ↔
      p.stopping = false ∧ p.queue.size = p.queue.capacity ∧ n = p.queue.capacity := by
  unfold submitWith
  cases p.stopping with
  | true => simp
  | false =>
    rcases Nat.lt_or_eq_of_le p.queue.size_le_capacity with hlt | heq
    · obtain ⟨queue, hpush, _⟩ := BoundedQueue.push_of_lt task hlt
      simp [hpush, Nat.ne_of_lt hlt]
    · simp [BoundedQueue.push_of_full task (Nat.le_of_eq heq.symm), heq, eq_comm]

end Pool

namespace Session

open Function

variable {c : PoolConfig} {s s' t : Session} {d : Deed} {n : Nat}

/-- The session after a submission that was refused: its handle is there for nobody. -/
def refused (s : Session) : Session :=
  { s with
    pool := { s.pool with tally := { s.pool.tally with rejected := s.pool.tally.rejected + 1 } }
    channels := update s.channels s.submits .closed
    submits := s.submits + 1 }

/-- The task of that submission is nowhere in the pool, and has never been. -/
def Unheard (s : Session) (n : Nat) : Prop :=
  ∀ task : PoolTask, task.channel = n → task ∉ s.accepted ∧ task ∉ s.dispatched ∧
    task ∉ s.pool.queue.items ∧ task ∉ s.pool.executing ∧ ∀ e ∈ s.executions, e.task ≠ task

theorem Step.submits_le (st : Step s d s') : s.submits ≤ s'.submits := by
  cases st with
  | refuse | accept => exact Nat.le_succ _
  | _ => exact Nat.le_refl _

theorem Step.accepted_cases (st : Step s d s') {task : PoolTask} (ht : task ∈ s'.accepted) :
    task ∈ s.accepted ∨ task.channel = s.submits := by
  cases st with
  | accept =>
    rcases List.mem_append.mp ht with ht | ht
    · exact .inl ht
    · exact .inr (congrArg _ (List.mem_singleton.mp ht))
  | _ => exact .inl ht

theorem Reachable.unheard (hc : c.validate = .ok ()) (h : Reachable c s)
    (hn : ∀ task ∈ s.accepted, task.channel ≠ n) : s.Unheard n := by
  intro task htask
  have hnot : task ∉ s.accepted := fun ht => hn task ht htask
  have hdispatched : task ∉ s.dispatched := fun ht => hnot (h.mem_accepted hc (.inl ht))
  refine ⟨hnot, hdispatched, fun ht => hnot (h.mem_accepted hc (.inr (.inr ht))),
    fun ht => hdispatched ((h.settled hc).mem_dispatched ht), ?_⟩
  rintro e he rfl
  exact hdispatched ((h.executed hc).dispatched e he)

theorem Reachable.unheard_leads (hc : c.validate = .ok ()) (h : Reachable c s)
    (hlt : n < s.submits) (hn : ∀ task ∈ s.accepted, task.channel ≠ n)
    (hl : Leads Step s t) : t.Unheard n := by
  have hkept := hl.preserve
    (P := fun t => n < t.submits ∧ ∀ task ∈ t.accepted, task.channel ≠ n)
    (fun {s d s'} ⟨hlt, hn⟩ st =>
      ⟨Nat.lt_of_lt_of_le hlt st.submits_le, fun task ht => ?_⟩) ⟨hlt, hn⟩
  · exact (h.leads hl).unheard hc hkept.2
  · rcases st.accepted_cases ht with ht | ht
    · exact hn task ht
    · omega

structure RefusesUntraced (c : PoolConfig) (s : Session) (body : Body) (spawns : Bool) : Prop where
  stopped_iff : (s.pool.submitWith spawns ⟨body, s.submits⟩).2 = .error .stopped ↔
    s.pool.stopping = true
  full_iff : ∀ n, (s.pool.submitWith spawns ⟨body, s.submits⟩).2 = .error (.queueFull n) ↔
    s.pool.stopping = false ∧ s.pool.queue.size = c.queueCapacity.toNat ∧
      n = c.queueCapacity.toNat
  unchanged : ∀ {why}, (s.pool.submitWith spawns ⟨body, s.submits⟩).2 = .error why →
    Step s (.submit body spawns) s.refused ∧
      ∀ {s'}, Step s (.submit body spawns) s' → s' = s.refused
  unheard : ∀ {why}, (s.pool.submitWith spawns ⟨body, s.submits⟩).2 = .error why →
    ∀ {t}, Leads Step s.refused t → t.Unheard s.submits

theorem Reachable.refusesUntraced (hc : c.validate = .ok ()) (h : Reachable c s) (body : Body)
    (spawns : Bool) : s.RefusesUntraced c body spawns := by
  have hstep {why : Refusal} {pool : Pool PoolTask}
      (hw : s.pool.submitWith spawns ⟨body, s.submits⟩ = (pool, .error why)) :
      Step s (.submit body spawns) s.refused := by
    obtain rfl := Pool.eq_of_submitWith_error hw
    exact .refuse hw
  refine ⟨Pool.submitWith_eq_stopped_iff _ _ _, fun n => ?_,
    fun {why} hw => ⟨?_, fun {s'} st => ?_⟩, fun {why} hw {t} hl => ?_⟩
  · rw [Pool.submitWith_eq_queueFull_iff, (h.sound hc).capacity_eq]
  · exact hstep (Prod.ext rfl hw)
  · cases st with
    | refuse hr =>
      obtain rfl := Pool.eq_of_submitWith_error hr
      rfl
    | accept ha => exact nomatch hw.symm.trans (congrArg Prod.snd ha)
  · refine (h.next (hstep (Prod.ext rfl hw))).unheard_leads hc (Nat.lt_succ_self _)
      (fun task ht => ?_) hl
    exact Nat.ne_of_lt (h.numbered.lt task ht)

end Session

namespace Chronicle

variable {s : Chronicle}

/-- How the scheduler refuses tasks. What begins is a callable of an accepted task, and begins
once, so that nothing begins for a refused one. -/
structure RefusesUntraced (s : Chronicle) : Prop where
  stopped_iff : s.agenda.schedule s.agenda.nextId = none ↔ s.agenda.stopped = true
  unchanged : s.agenda.stopped = true →
    Step s .schedule s ∧ ∀ {s'}, Step s .schedule s' → s' = s
  begun : ∀ {t}, Leads Step s t → t.begun.Nodup ∧ ∀ id ∈ t.begun, id ∈ t.accepted

theorem Reachable.accepted_of_begun {id : Nat} (h : Reachable s) (hid : id ∈ s.begun) :
    id ∈ s.accepted := by
  rw [h.filed.accepted, List.mem_range]
  by_contra hge
  exact (h.staged.unborn (Nat.le_of_not_lt hge)).2.2.1 hid

theorem Reachable.refusesUntraced (h : Reachable s) : s.RefusesUntraced where
  stopped_iff := by simp [Agenda.schedule]
  unchanged hs := ⟨.refuse (schedule_of_stopped hs _), fun st => st.eq_of_schedule hs⟩
  begun hl := ⟨(h.leads hl).nodup_begun, fun _ hid => (h.leads hl).accepted_of_begun hid⟩

end Chronicle

def Delay.IsNegative : Delay → Prop
  | .millis n => n < 0
  | .span _ => False

namespace World

structure RefusesUntraced (w : World) (s : Scheduler) (place : Place) (delay : Delay)
    (body : Body) : Prop where
  negative : ∀ {n}, delay = .millis n → n < 0 → w.callSchedule place delay body =
    (.scheduled (.error (.invalidArgument
      ("delay must be non-negative, got " ++ toString n ++ "ms"))), w)
  stopped : ¬delay.IsNegative → s.agenda.stopped = true →
    w.callSchedule place delay body = (.scheduled (.error .stopped), w)
  accepted : ¬delay.IsNegative → s.agenda.stopped = false →
    (w.callSchedule place delay body).1 = .scheduled (.ok s.agenda.nextId)

theorem refusesUntraced {w : World} {s : Scheduler} (hs : w.scheduler? = some s) (place : Place)
    (delay : Delay) (body : Body) : w.RefusesUntraced s place delay body := by
  have hcall (hd : ¬delay.IsNegative) :
      ∃ d, w.callSchedule place delay body = w.schedule place s d body := by
    cases delay with
    | millis n =>
      refine ⟨.ofMillis (UInt64.ofNat n.toNat), ?_⟩
      simp [callSchedule, hs, show ¬n < 0 from hd]
    | span d => exact ⟨d, by simp [callSchedule, hs]⟩
  refine ⟨?_, fun hd hstopped => ?_, fun hd hstopped => ?_⟩
  · rintro n rfl hn
    simp [callSchedule, hs, hn]
  · obtain ⟨d, hd⟩ := hcall hd
    simp [hd, schedule, Agenda.schedule, hstopped]
  · obtain ⟨d, hd⟩ := hcall hd
    simp [hd, schedule, Agenda.schedule, hstopped]

end World

namespace Course

variable {s : Course} {origin : Option Nat} {now : Nat}

structure RefusesUntraced (s : Course) (origin : Option Nat) (now : Nat) : Prop where
  running_iff : s.actuator.start now = .error .alreadyRunning ↔ s.actuator.active ≠ none
  unchanged : s.actuator.start now = .error .alreadyRunning →
    Step s (.start origin now) s ∧ ∀ {s'}, Step s (.start origin now) s' → s' = s

theorem refusesUntraced (ho : s.CanCall origin) (now : Nat) : s.RefusesUntraced origin now := by
  have hiff : s.actuator.start now = .error .alreadyRunning ↔ s.actuator.active ≠ none := by
    unfold Actuator.start
    cases s.actuator.active with
    | some id => simp
    | none =>
      simp only [Option.isSome_none, Bool.false_eq_true, if_false, ne_eq, not_true, iff_false]
      split <;> nofun
  refine ⟨hiff, fun h => ⟨.refuse ho h, fun {s'} st => ?_⟩⟩
  cases st with
  | refuse => rfl
  | start _ hs => exact nomatch h.symm.trans hs
  | failStart _ ha => exact absurd ha (hiff.mp h)

end Course

/-- Refused calls leave no trace, in every reachable state. A submission is refused by a pool
that is stopping, and else by a full queue; its task is never executed, and only the counter of
refusals has changed. A task with a negative delay is refused, and else any task by a scheduler
that is shut down; nothing has changed then, and callables begin only for accepted tasks. A start
is refused exactly while a loop holds the place, and leaves the actuator as it was. The drop of a
refused task is taken not to panic. -/
theorem refusals_untraced :
    (∀ {c s}, c.validate = .ok () → Session.Reachable c s →
      ∀ body spawns, s.RefusesUntraced c body spawns) ∧
    (∀ {s : Chronicle}, s.Reachable → s.RefusesUntraced) ∧
    (∀ {w : World} {s}, w.scheduler? = some s →
      ∀ place delay body, w.RefusesUntraced s place delay body) ∧
    ∀ {s : Course} {origin}, s.CanCall origin → ∀ now, s.RefusesUntraced origin now :=
  ⟨fun hc h => h.refusesUntraced hc, fun h => h.refusesUntraced,
    fun hs => World.refusesUntraced hs, fun ho => Course.refusesUntraced ho⟩

/-- A full queue refuses, and once the pool is stopping as well that is the reason given. A
negative delay is refused by a scheduler that is shut down, which begins nothing later, and a
start while the first loop is there. -/
theorem refusals_untraced_full :
    (∃ s t, Session.Reachable Session.solo s ∧ Session.Reachable Session.solo t ∧
      (s.pool.submitWith true ⟨[], s.submits⟩).2 = .error (.queueFull 1) ∧
      t.pool.queue.size = 1 ∧
      (t.pool.submitWith true ⟨[], t.submits⟩).2 = .error .stopped ∧
      t.refused.Unheard t.submits) ∧
    (∃ s : Chronicle, s.Reachable ∧ s.agenda.stopped = true ∧
      ∀ {s'}, Chronicle.Step s .schedule s' → s' = s) ∧
    (∃ (w : World) (s : Scheduler), w.scheduler? = some s ∧ s.agenda.stopped = true ∧
      w.callSchedule .main (.millis (-1)) [] = (.scheduled (.error (.invalidArgument
        "delay must be non-negative, got -1ms")), w)) ∧
    ∃ s : Course, s.Reachable ∧ s.actuator.running = true ∧ s.CanCall none ∧
      s.actuator.start 0 = .error .alreadyRunning ∧
      ∀ {s'}, Course.Step s (.start none 0) s' → s' = s := by
  obtain ⟨hpool, hscheduler, hworld, hactuator⟩ := refusals_untraced
  refine ⟨?_, ?_, ?_, ?_⟩
  · have h₁ := Session.Reachable.start.next (c := Session.solo) (d := .submit [] true) (.accept rfl)
    have h₂ := h₁.next (d := .shutdown none) (.shutdown trivial rfl)
    have hfull := ((hpool rfl h₁ [] true).full_iff 1).mpr ⟨rfl, rfl, rfl⟩
    have hstopped := (hpool rfl h₂ [] true).stopped_iff.mpr rfl
    exact ⟨_, _, h₁, h₂, hfull, rfl, hstopped, (hpool rfl h₂ [] true).unheard hstopped (.refl _)⟩
  · have h₁ := Chronicle.Reachable.start.next (d := .shutdown) (.shutdown rfl)
    exact ⟨_, h₁, rfl, ((hscheduler h₁).unchanged rfl).2⟩
  · refine ⟨{ schedulers := [{ key := 0, clock := .virtual, agenda := { stopped := true } }] },
      _, rfl, rfl, ?_⟩
    exact (hworld rfl .main (.millis (-1)) []).negative rfl (by decide)
  · have h₁ := (@Course.Reachable.idle (.ofMillis 10) (by decide)).next
      (d := .start none 0) (.start trivial rfl)
    exact ⟨_, h₁, rfl, trivial, rfl, ((@hactuator _ none trivial 0).unchanged rfl).2⟩

end TaskEngine
