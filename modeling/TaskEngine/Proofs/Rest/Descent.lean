import Mathlib.Algebra.Order.BigOperators.Group.List
import Mathlib.Algebra.Order.Group.Nat
import Mathlib.Data.List.Perm.Subperm
import TaskEngine.Proofs.Rest.Commands

/-! Every move takes from a weight. Notifications weigh more than the waiting workers they
wake, queued tasks more than executed ones, and a call more than all it has still to do. A
worker whose timeout has passed weighs less than one that waits for it. -/

namespace TaskEngine

open Function

def WorkerPhase.weight {τ : Type} : WorkerPhase τ → Nat
  | .starting => 3
  | .waiting timed => if timed then 2 else 0
  | .woken timedOut => if timedOut then 1 else 3
  | .executing _ => 4

def crewWeight {τ : Type} (crew : List (Worker τ)) : Nat :=
  (crew.map fun v => v.phase.weight).sum

def ShutdownCall.weight (workers : Nat) (call : ShutdownCall) : Nat :=
  match call.stage with
  | .dropping => call.undropped.length + 3 * workers + 5
  | .alerting => 3 * workers + 4
  | .deciding => 2
  | .waiting _ => 1
  | .returned => 0

theorem ShutdownCall.weight_mono {m n : Nat} (h : m ≤ n) (call : ShutdownCall) :
    call.weight m ≤ call.weight n := by
  unfold weight
  cases call.stage <;> simp only <;> omega

namespace Pool

variable {τ : Type} {p q : Pool τ} {id : Nat} {turn : Turn τ}

@[simp] theorem crewWeight_cons (v : Worker τ) (crew : List (Worker τ)) :
    crewWeight (v :: crew) = v.phase.weight + crewWeight crew := by
  simp [crewWeight]

theorem crewWeight_perm {crew crew' : List (Worker τ)} (h : crew.Perm crew') :
    crewWeight crew = crewWeight crew' := (h.map _).sum_eq

theorem notified_weight (v : Worker τ) : v.notified.phase.weight ≤ v.phase.weight + 3 := by
  obtain ⟨id, phase⟩ := v
  cases phase with
  | waiting timed => simp [Worker.notified, WorkerPhase.weight]
  | starting | woken | executing => exact Nat.le_add_right _ _

theorem crewWeight_notified (crew : List (Worker τ)) :
    crewWeight (crew.map Worker.notified) ≤ crewWeight crew + 3 * crew.length := by
  induction crew with
  | nil => exact Nat.le_refl _
  | cons v crew ih =>
    have := notified_weight v
    simp only [List.map_cons, crewWeight_cons, List.length_cons]
    omega

/-- The weight of a crew and its queue. -/
def load (p : Pool τ) : Nat := crewWeight p.crew + 5 * p.queue.size

theorem Consistent.wake_load {timed : Bool} (h : p.Consistent)
    (hw : ⟨id, .waiting timed⟩ ∈ p.crew) (timedOut : Bool) :
    (p.setPhase id (.woken timedOut)).load + (WorkerPhase.waiting timed : WorkerPhase τ).weight =
      p.load + (WorkerPhase.woken timedOut : WorkerPhase τ).weight := by
  have hbefore := crewWeight_perm (crew_perm h.ids_nodup hw)
  have hafter := crewWeight_perm (setPhase_perm h.ids_nodup hw (.woken timedOut))
  rw [crewWeight_cons] at hbefore hafter
  simp only [load, hbefore, hafter]
  show _ + 5 * p.queue.size + _ = _
  omega

theorem AtLock.held_load (h : p.AtLock id) (hd : Held p id q turn) {n : Nat}
    (hn : turn = .wait → p.core < p.active → 2 ≤ n) :
    q.load ≤ crewWeight (p.others id) + 5 * p.queue.size + n := by
  cases hd with
  | @run task queue hq =>
    have hsize := size_of_pop hq
    have hcrew := crewWeight_perm (h.setPhase_perm (.executing task))
    rw [crewWeight_cons] at hcrew
    show crewWeight (p.setPhase id (.executing task)).crew + 5 * queue.size ≤ _
    simp only [hcrew, WorkerPhase.weight]
    omega
  | wait hq hs =>
    have hcrew := crewWeight_perm (beginWait_perm p id)
    rw [crewWeight_cons] at hcrew
    dsimp only at hcrew
    have hweight :
        (WorkerPhase.waiting (decide (p.core < p.active)) : WorkerPhase τ).weight ≤ n := by
      by_cases hc : p.core < p.active
      · simpa [WorkerPhase.weight, hc] using hn rfl hc
      · simp [WorkerPhase.weight, hc]
    show crewWeight (p.beginWait id).crew + 5 * p.queue.size ≤ _
    omega
  | exit | retire =>
    show crewWeight (p.others id) + 5 * p.queue.size ≤ _
    omega

theorem dispatch_wait (h : (p.dispatch id).2 = .wait) :
    p.queue.items = [] ∧ p.stopping = false := by
  have hheld := dispatch_held p id
  rcases hp : p.dispatch id with ⟨q, turn⟩
  rw [hp] at h hheld
  subst h
  cases hheld with
  | wait hq hs => exact ⟨hq, hs⟩

theorem resume_wait (h : (p.resume id true).2 = .wait) : ¬p.core < p.active := by
  intro hc
  unfold resume at h
  simp only [Bool.true_and] at h
  split at h
  · exact nomatch h
  · next hm =>
    obtain ⟨hq, hs⟩ := dispatch_wait h
    exact hm ((mayRetire_iff _).mpr ⟨hq, hs, hc⟩)

theorem Consistent.turn_load {w : Worker τ} (h : p.Consistent) (hw : w ∈ p.crew)
    (ht : p.turn w = some (q, turn)) : q.load < p.load := by
  have hcrew := crewWeight_perm (crew_perm h.ids_nodup hw)
  have hl := h.atLock_turn hw ht
  have hheld := turn_held ht
  rw [crewWeight_cons] at hcrew
  have hload {n : Nat} (hn : turn = .wait → p.core < p.active → 2 ≤ n)
      (hlt : n < w.phase.weight) : q.load < p.load := by
    have hle := hl.held_load hheld hn
    simp only [roused_others, roused_queue] at hle
    simp only [load] at hle ⊢
    omega
  obtain ⟨id, phase⟩ := w
  cases phase with
  | starting => exact hload (n := 2) (fun _ _ => Nat.le_refl _) (Nat.lt_succ_self 2)
  | woken timedOut =>
    cases timedOut with
    | false => exact hload (n := 2) (fun _ _ => Nat.le_refl _) (Nat.lt_succ_self 2)
    | true =>
      have he : p.resume id true = (q, turn) := Option.some.inj ht
      refine hload (n := 0) (fun hwait hc => ?_) (Nat.lt_succ_self 0)
      exact absurd hc (resume_wait (by rw [he, hwait]))
  | waiting | executing => exact nomatch ht

theorem Consistent.finish_load {task : τ} (h : p.Consistent)
    (hw : ⟨id, .executing task⟩ ∈ p.crew) (conclusion : Conclusion) :
    (p.finish id conclusion).1.load < p.load := by
  have hcrew := crewWeight_perm (crew_perm h.ids_nodup hw)
  rw [crewWeight_cons] at hcrew
  simp only [WorkerPhase.weight] at hcrew
  by_cases hc : conclusion = .unwound
  · rw [hc, finish_unwound]
    show crewWeight (p.others id) + 5 * p.queue.size < crewWeight p.crew + _
    omega
  · have hle := ((h.atLock_executing hw).record conclusion).held_load (finish_held p id hc)
      (n := 2) fun _ _ => Nat.le_refl _
    simp only [record_others, record_queue] at hle
    simp only [load] at hle ⊢
    omega

end Pool

namespace Session

variable {s s' : Session}

def callsWeight (workers : Nat) (calls : List ShutdownCall) : Nat :=
  (calls.map (ShutdownCall.weight workers)).sum

def weight (s : Session) : Nat :=
  4 * s.notices + s.pool.load + callsWeight s.pool.crew.length s.calls

theorem callsWeight_mono {m n : Nat} (h : m ≤ n) (calls : List ShutdownCall) :
    callsWeight m calls ≤ callsWeight n calls :=
  List.sum_le_sum fun call _ => call.weight_mono h

theorem weight_lt_of_crew (hc : s'.calls = s.calls)
    (hl : s'.pool.crew.length ≤ s.pool.crew.length)
    (hlt : 4 * s'.notices + s'.pool.load < 4 * s.notices + s.pool.load) :
    s'.weight < s.weight := by
  have hcalls := callsWeight_mono hl s.calls
  simp only [weight, hc]
  omega

theorem weight_lt_of_call {before after : List ShutdownCall} {call call' : ShutdownCall} {k : Nat}
    (hc : s.calls = before ++ call :: after) (hc' : s'.calls = before ++ call' :: after)
    (hl : s'.pool.crew.length = s.pool.crew.length) (hn : s'.notices = s.notices)
    (hk : s'.pool.load ≤ s.pool.load + k)
    (hlt : call'.weight s.pool.crew.length + k < call.weight s.pool.crew.length) :
    s'.weight < s.weight := by
  simp only [weight, hc, hc', hl, hn, callsWeight, List.map_append, List.map_cons, List.sum_append,
    List.sum_cons]
  omega

end Session

namespace Workshop

open Pool Session

variable {gates : List String} {w w' : Workshop} {d : Deed} {s : Session}

theorem Allows.weight_lt (h : w.session.Sound w.config) (hd : w.Allows d)
    (st : Session.Step w.session d s) : s.weight < w.session.weight := by
  have hp := h.consistent
  have hlength : s.pool.crew.length ≤ w.session.pool.crew.length := by
    rw [← hp.active_eq, ← (h.step_consistent st).active_eq]
    exact hd.active_le st
  cases st with
  | notify hn hw =>
    refine weight_lt_of_crew rfl hlength ?_
    have hload := hp.wake_load hw false
    simp only [WorkerPhase.weight, Bool.false_eq_true, if_false] at hload
    dsimp only
    omega
  | notifyNobody hn =>
    refine weight_lt_of_crew rfl hlength ?_
    dsimp only
    omega
  | timeOut hw =>
    refine weight_lt_of_crew rfl hlength ?_
    have hload := hp.wake_load hw true
    simp only [WorkerPhase.weight, if_true] at hload
    dsimp only [Pool.timeOut]
    omega
  | turn hw ht =>
    exact weight_lt_of_crew rfl hlength (Nat.add_lt_add_left (hp.turn_load hw ht) _)
  | finish hw he =>
    exact weight_lt_of_crew rfl hlength (Nat.add_lt_add_left (hp.finish_load hw _) _)
  | dropTask hc hs hu =>
    refine weight_lt_of_call (k := 0) hc rfl rfl rfl (Nat.le_refl _) ?_
    simp only [ShutdownCall.weight, hs, hu, List.length_cons]
    omega
  | countDropped hc hs hu =>
    refine weight_lt_of_call (k := 0) hc rfl rfl rfl (Nat.le_refl _) ?_
    simp only [ShutdownCall.weight, hs]
    omega
  | alert hc hs =>
    refine weight_lt_of_call (k := 3 * w.session.pool.crew.length) hc rfl (List.length_map _) rfl
      ?_ ?_
    · have := crewWeight_notified w.session.pool.crew
      simp only [load, notifyAll]
      omega
    · simp only [ShutdownCall.weight, hs]
      omega
  | join hc hs =>
    refine weight_lt_of_call (k := 0) hc rfl rfl rfl (Nat.le_refl _) ?_
    simp [ShutdownCall.weight, hs]
  | confirm hc hs =>
    rw [confirmStopped_fst]
    refine weight_lt_of_call (k := 0) hc rfl rfl rfl (Nat.le_refl _) ?_
    simp [ShutdownCall.weight, hs]
  | stir => exact absurd hd.1 Bool.false_ne_true
  | _ => exact False.elim hd

/-- Queued work, tasks that have not come to their end, and actions that are still to do. -/
def weight (w : Workshop) : Nat :=
  w.session.weight + (w.session.accepted.length - w.session.executions.length) +
    (w.session.accepted.map fun task => (w.todo task.channel).length).sum

theorem Kept.executions_le (h : w.Kept gates) :
    w.session.executions.length ≤ w.session.accepted.length := by
  have hexecuted := h.reachable.executed h.valid
  have hsubset : (w.session.executions.map fun e => e.task.channel) ⊆
      w.session.accepted.map PoolTask.channel := by
    intro n hn
    obtain ⟨e, he, rfl⟩ := List.mem_map.mp hn
    exact List.mem_map_of_mem (h.reachable.mem_accepted h.valid (.inl (hexecuted.dispatched e he)))
  simpa using (List.subperm_of_subset hexecuted.nodup hsubset).length_le

theorem Kept.weight_lt (h : w.Kept gates) (m : w.Move gates w') : w'.weight < w.weight := by
  have hkept := h.move m
  cases m with
  | pool hd st =>
    have hlt := hd.weight_lt h.sound st
    have haccepted := (hd.steady st).accepted
    have hexecutions := hd.executions st
    simp only [weight, haccepted, hexecutions]
    omega
  | @act id task rest hr hb =>
    have hlength := Body.length_of_pass hb
    have hlt : (w.session.accepted.map fun t =>
        (update w.todo task.channel rest t.channel).length).sum <
          (w.session.accepted.map fun t => (w.todo t.channel).length).sum := by
      refine List.sum_lt_sum _ _ (fun t _ => ?_) ⟨task, h.running_accepted hr, ?_⟩
      · by_cases he : t.channel = task.channel
        · simp only [he, update_self]
          omega
        · simp only [update_of_ne he, Nat.le_refl]
      · simp only [update_self]
        omega
    simp only [weight]
    omega
  | endTask hr hb st =>
    have hle := hkept.executions_le
    cases st with
    | endTask =>
      simp only [List.length_append, List.length_singleton] at hle
      simp only [weight, List.length_append, List.length_singleton]
      have hsame : ∀ channels executions,
          Session.weight { w.session with channels, executions } = w.session.weight :=
        fun _ _ => rfl
      rw [hsame]
      omega

end Workshop
end TaskEngine
