import TaskEngine.Proofs.Pool.Discard
import TaskEngine.Proofs.Pool.Roster

/-! A pool stops with one deed: the last worker leaves, or a caller sees that no worker is
left. From then on nothing happens in it any more. A call that is made on one of its workers
never waits. -/

namespace TaskEngine

inductive PoolStage.Next : PoolStage → PoolStage → Prop
  | drain : Next .running .draining
  | stop : Next .draining .stopped

def Turn.stops {τ : Type} : Turn τ → Bool
  | .leave _ last | .die last => last
  | .run _ | .wait => false

namespace Pool

variable {τ : Type} {p q : Pool τ} {id : Nat} {turn : Turn τ}

theorem submitWith_eq_stopped_iff (p : Pool τ) (spawns : Bool) (task : τ) :
    (p.submitWith spawns task).2 = .error .stopped ↔ p.stopping = true := by
  unfold submitWith
  split
  · next hs => simp [hs]
  · next hs => split <;> simp [hs]

theorem submit_stage {spawns : Bool} {task : τ} (h : p.submitWith spawns task = (q, .ok ())) :
    q.stage = p.stage := by
  obtain ⟨_, queue, _, _, rfl⟩ := eq_of_submitWith_ok h
  cases spawns with
  | false => rfl
  | true =>
    simp only [if_true, grow]
    split <;> rfl

@[simp] theorem record_stage (p : Pool τ) (conclusion : Conclusion) :
    (p.record conclusion).stage = p.stage := by
  cases conclusion <;> rfl

theorem dismiss_stage (p : Pool τ) (id : Nat) :
    (p.dismiss id).2 = true ∧ p.stopping = true ∧ (p.dismiss id).1.stage = .stopped ∨
      (p.dismiss id).2 = false ∧ (p.dismiss id).1.stage = p.stage := by
  cases hl : p.isLast with
  | true =>
    have hst : p.stopping = true := by
      simp only [isLast, decide_eq_true_eq] at hl
      exact hl.1
    exact .inl ⟨hl, hst, if_pos hl⟩
  | false => exact .inr ⟨hl, if_neg (by simp [hl])⟩

theorem Held.stage (hd : Held p id q turn) :
    turn.stops = true ∧ p.stopping = true ∧ q.stage = .stopped ∨
      turn.stops = false ∧ q.stage = p.stage := by
  cases hd with
  | run | wait => exact .inr ⟨rfl, rfl⟩
  | exit => exact dismiss_stage p id
  | retire => exact dismiss_stage p.countRetired id

theorem finish_stage (p : Pool τ) (id : Nat) (conclusion : Conclusion) :
    (p.finish id conclusion).2.stops = true ∧ p.stopping = true ∧
        (p.finish id conclusion).1.stage = .stopped ∨
      (p.finish id conclusion).2.stops = false ∧ (p.finish id conclusion).1.stage = p.stage := by
  by_cases hu : conclusion = .unwound
  · rw [hu, finish_unwound]
    exact dismiss_stage p id
  · simpa using (finish_held p id hu).stage

theorem takeQueued_stage (p : Pool τ) :
    p.takeQueued.1.stage = p.stage ∧ p.stage ≠ .running ∨
      p.takeQueued.1.stage = .draining ∧ p.stage = .running := by
  show (if p.stage = .running then PoolStage.draining else p.stage) = _ ∧ _ ∨
    (if p.stage = .running then PoolStage.draining else p.stage) = _ ∧ _
  by_cases hs : p.stage = .running
  · exact .inr ⟨if_pos hs, hs⟩
  · exact .inl ⟨if_neg hs, hs⟩

end Pool

namespace Session

open Pool

variable {c : PoolConfig} {s s' t : Session} {d : Deed} {i : Nat} {call : ShutdownCall}

/-- The deed notes that the pool has stopped: a worker is the last to leave or to die, or a
caller is the first to see that nobody is left. -/
inductive Stops (s : Session) : Deed → Session → Prop
  | turn {w turn next} (hw : w ∈ s.pool.crew) (h : s.pool.turn w = some (next.pool, turn))
      (hs : turn.stops = true) : Stops s (.turn w.id) next
  | finish {id turn e next} (hw : ⟨id, .executing e.task⟩ ∈ s.pool.crew) (he : e ∈ s.executions)
      (h : s.pool.finish id e.conclusion = (next.pool, turn)) (hs : turn.stops = true) :
      Stops s (.finish id) next
  | confirm {number next} (h : s.pool.confirmStopped = (next.pool, true)) :
      Stops s (.confirm number) next

theorem Sound.of_stops (h : s.Sound c) (hs : s.Stops d s') :
    s.pool.stage ≠ .stopped ∧ s'.pool.stage = .stopped := by
  have hp := h.consistent
  cases hs with
  | turn hw ht hs =>
    refine ⟨(hp.atLock_turn hw ht).not_stopped, ?_⟩
    rcases (turn_held ht).stage with ⟨_, _, hstage⟩ | ⟨hnot, _⟩
    · exact hstage
    · simp [hs] at hnot
  | @finish id turn e _ hw he hf hs =>
    refine ⟨(hp.atLock_executing hw).not_stopped, ?_⟩
    have hstage := finish_stage s.pool id e.conclusion
    rw [hf] at hstage
    rcases hstage with ⟨_, _, hstage⟩ | ⟨hnot, _⟩
    · exact hstage
    · simp [hs] at hnot
  | confirm hq =>
    unfold Pool.confirmStopped at hq
    split at hq
    · exact nomatch congrArg Prod.snd hq
    · next hne => exact ⟨hne, (congrArg (fun r => r.1.stage) hq).symm⟩

theorem Sound.step_stage (h : s.Sound c) (st : Step s d s') :
    s'.pool.stage = s.pool.stage ∨ s.pool.stage = .running ∧ s'.pool.stage = .draining ∨
      s.pool.stage = .draining ∧ s'.pool.stage = .stopped ∧ s.Stops d s' := by
  have hp := h.consistent
  have hdraining := hp.draining
  cases st with
  | refuse hs =>
    obtain rfl := eq_of_submitWith_error hs
    exact .inl rfl
  | accept hs => exact .inl (submit_stage hs)
  | turn hw ht =>
    have hnot := (hp.atLock_turn hw ht).not_stopped
    rcases (turn_held ht).stage with ⟨hstops, hst, hstage⟩ | ⟨_, hstage⟩
    · exact .inr (.inr ⟨hdraining hst hnot, hstage, .turn hw ht hstops⟩)
    · exact .inl hstage
  | @finish id e hw he =>
    have hnot := (hp.atLock_executing hw).not_stopped
    rcases finish_stage s.pool id e.conclusion with ⟨hstops, hst, hstage⟩ | ⟨_, hstage⟩
    · exact .inr (.inr ⟨hdraining hst hnot, hstage, .finish hw he rfl hstops⟩)
    · exact .inl hstage
  | shutdown ho hb =>
    have hne : s.pool.stage ≠ .stopped := fun hs => by simp [beginDrain_eq_none_iff.mpr hs] at hb
    rw [eq_of_beginDrain hb]
    cases hst : s.pool.stopping with
    | true => exact .inl (hdraining hst hne).symm
    | false => exact .inr (.inl ⟨hp.running_iff.mpr hst, rfl⟩)
  | shutdownNow =>
    rcases takeQueued_stage s.pool with ⟨hstage, _⟩ | ⟨hstage, hrunning⟩
    · exact .inl hstage
    · exact .inr (.inl ⟨hrunning, hstage⟩)
  | confirm hc hs ha hj =>
    by_cases hstopped : s.pool.stage = .stopped
    · refine .inl ?_
      rw [confirmStopped_fst]
      exact hstopped.symm
    · have hst : s.pool.stopping = true := h.stopping_iff.mpr (by simp [hc])
      have hfirst : s.pool.confirmStopped = ({ s.pool with stage := .stopped }, true) :=
        if_neg hstopped
      rw [hfirst]
      exact .inr (.inr ⟨hdraining hst hstopped, rfl, .confirm hfirst⟩)
  | _ => exact .inl rfl

theorem Sound.stops_iff (h : s.Sound c) (st : Step s d s') :
    s.Stops d s' ↔ s.pool.stage ≠ .stopped ∧ s'.pool.stage = .stopped := by
  refine ⟨h.of_stops, fun ⟨hne, hstopped⟩ => ?_⟩
  rcases h.step_stage st with hsame | ⟨_, hdraining⟩ | ⟨_, _, hstops⟩
  · exact absurd (hsame ▸ hstopped) hne
  · simp [hdraining] at hstopped
  · exact hstops

theorem Sound.step_next (h : s.Sound c) (st : Step s d s') :
    s'.pool.stage = s.pool.stage ∨ s.pool.stage.Next s'.pool.stage := by
  rcases h.step_stage st with hsame | ⟨hrunning, hdraining⟩ | ⟨hdraining, hstopped, _⟩
  · exact .inl hsame
  · rw [hrunning, hdraining]
    exact .inr .drain
  · rw [hdraining, hstopped]
    exact .inr .stop

/-- The pool has stopped, nobody works, and since the other session nobody was hired, and no
task was accepted, begun or ended. -/
structure Over (t s : Session) : Prop where
  stage : t.pool.stage = .stopped
  crew : t.pool.crew = []
  nextWorker : t.pool.nextWorker = s.pool.nextWorker
  accepted : t.accepted = s.accepted
  dispatched : t.dispatched = s.dispatched
  executions : t.executions = s.executions

theorem Sound.step_over (h : t.Sound c) (ho : t.Over s) (st : Step t d s') : s'.Over s := by
  have hstage := h.step_stopped st ho.stage
  have hp := h.step_consistent st
  have hcrew := hp.empty_of_stopped hstage
  have hstopping : t.pool.stopping = true := h.consistent.stopping_iff.mpr (by simp [ho.stage])
  cases st with
  | refuse hs =>
    obtain rfl := eq_of_submitWith_error hs
    exact { ho with }
  | accept hs => simp [(eq_of_submitWith_ok hs).1] at hstopping
  | turn hw => simp [ho.crew] at hw
  | endTask hr => simp [IsRunning, ho.crew] at hr
  | finish hw => simp [ho.crew] at hw
  | shutdown ho' hb => simp [beginDrain_eq_none_iff.mpr ho.stage] at hb
  | confirm =>
    refine ⟨hstage, hcrew, ?_, ho.accepted, ho.dispatched, ho.executions⟩
    rw [confirmStopped_fst]
    exact ho.nextWorker
  | _ =>
    exact ⟨hstage, hcrew, ho.nextWorker, ho.accepted, ho.dispatched, ho.executions⟩

theorem Reachable.over (hc : c.validate = .ok ()) (h : Reachable c s)
    (hs : s.pool.stage = .stopped) (hl : Leads Step s t) : t.Over s := by
  have hcrew := (h.sound hc).consistent.empty_of_stopped hs
  exact (hl.keep .next (fun hr st ho => (hr.sound hc).step_over ho st) h
    ⟨hs, hcrew, rfl, rfl, rfl, rfl⟩).2

/-- A call on a worker of the pool never waits. -/
def Unwaiting (s : Session) : Prop :=
  ∀ call ∈ s.calls, call.origin ≠ none → ∀ joined, call.stage ≠ .waiting joined

theorem Unwaiting.step (h : s.Unwaiting) (st : Step s d s') : s'.Unwaiting := by
  have hadd {new : ShutdownCall} (hnew : ∀ joined, new.stage ≠ .waiting joined) :
      ∀ call ∈ s.calls ++ [new], call.origin ≠ none → ∀ joined, call.stage ≠ .waiting joined := by
    intro call hcall ho
    rcases List.mem_append.mp hcall with hcall | hcall
    · exact h call hcall ho
    · rw [List.mem_singleton.mp hcall]
      exact hnew
  cases st with
  | shutdownStopped | shutdown | shutdownNow => exact hadd nofun
  | dropTask hc | countDropped hc | alert hc | skip hc | confirm hc =>
    exact forall_of_replace hc h fun hcall ho => by simp_all
  | join hc hs ho => exact forall_of_replace hc h fun _ hne => absurd ho hne
  | _ => exact h

theorem Reachable.unwaiting (h : Reachable c s) : s.Unwaiting := by
  induction h with
  | start => exact nofun
  | next _ st ih => exact ih.step st

theorem Reachable.returns (h : Reachable c s) (hi : s.calls[i]? = some call)
    (ho : call.origin ≠ none) :
    ∃ t later, Leads (fun s d s' => Step s d s' ∧ d.actor? = some (.call i)) s t ∧
      t.calls[i]? = some later ∧ later.stage = .returned := by
  induction hn : call.errands using Nat.strong_induction_on generalizing s call with
  | _ n ih =>
    by_cases hr : call.stage = .returned
    · exact ⟨s, call, .refl s, hi, hr⟩
    · have hw := h.unwaiting call (List.mem_of_getElem? hi) ho
      obtain ⟨d, s', hd, st⟩ := exists_errand hi hr hw
      rcases st.call_cases hi with ⟨hne, _⟩ | ⟨_, next, hi', hnext⟩
      · exact absurd hd hne
      · obtain ⟨t, later, hl, ht⟩ := ih next.errands (hn ▸ hnext.errands) (h.next st) hi'
          (by rwa [hnext.origin]) rfl
        exact ⟨t, later, .first ⟨st, hd⟩ hl, ht⟩

end Session
end TaskEngine
