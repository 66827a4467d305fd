import TaskEngine.Proofs.Leads
import TaskEngine.Proofs.Pool.Delivery

/-! What has been noted of a session only grows, at its end. A call goes on by its own
deeds, which come nearer to its return, and a task that is executed stays with its worker
until it ends. -/

namespace TaskEngine

/-- Who goes on without being asked: a worker, or a call that shuts the pool down. -/
inductive Actor
  | worker (id : Nat)
  | call (number : Nat)

def ShutdownCall.errands (call : ShutdownCall) : Nat :=
  match call.stage with
  | .dropping => call.undropped.length + 4
  | .alerting => 3
  | .deciding => 2
  | .waiting _ => 1
  | .returned => 0

/-- The call `later` is this one after a deed of its own. -/
structure ShutdownCall.Advances (call later : ShutdownCall) : Prop where
  origin : later.origin = call.origin
  graceful : later.graceful = call.graceful
  drained : later.drained = call.drained
  errands : later.errands < call.errands

namespace Session

open Pool

variable {c : PoolConfig} {s s' t : Session} {d : Deed} {i : Nat} {call : ShutdownCall}

def Deed.actor? : Deed → Option Actor
  | .turn id | .endTask id _ | .finish id => some (.worker id)
  | .dropTask i | .countDropped i | .alert i | .skip i | .join i | .confirm i => some (.call i)
  | .submit .. | .notify _ | .wake .. | .shutdown _ | .shutdownNow _ | .read _ | .dropHandle _ =>
    none

theorem Reachable.leads (h : Reachable c s) (hl : Leads Step s t) : Reachable c t :=
  hl.preserve .next h

theorem Step.call_cases (st : Step s d s') (hi : s.calls[i]? = some call) :
    d.actor? ≠ some (.call i) ∧ s'.calls[i]? = some call ∨
      d.actor? = some (.call i) ∧ ∃ later, s'.calls[i]? = some later ∧ call.Advances later := by
  have hadd {new : ShutdownCall} : (s.calls ++ [new])[i]? = some call := by
    rw [List.getElem?_append_left (List.getElem?_eq_some_iff.mp hi).1, hi]
  have hreplace {before after : List ShutdownCall} {old new : ShutdownCall}
      (hc : s.calls = before ++ old :: after) (hnew : old.Advances new) :
      some (Actor.call before.length) ≠ some (.call i) ∧
          (before ++ new :: after)[i]? = some call ∨
        some (Actor.call before.length) = some (.call i) ∧
          ∃ later, (before ++ new :: after)[i]? = some later ∧ call.Advances later := by
    rw [getElem?_replaced before after old, ← hc, hi]
    split
    · next hn =>
      subst hn
      obtain rfl : old = call := by simpa [hc] using hi
      exact .inr ⟨rfl, new, rfl, hnew⟩
    · next hn => exact .inl ⟨fun h => hn (Actor.call.inj (Option.some.inj h)).symm, rfl⟩
  cases st with
  | shutdownStopped | shutdown | shutdownNow =>
    exact .inl ⟨(Option.some_ne_none _).symm, hadd⟩
  | dropTask hc hs hu =>
    refine hreplace hc ⟨rfl, rfl, ?_, ?_⟩
    · simp [ShutdownCall.drained, hu]
    · simp [ShutdownCall.errands, hs, hu]
  | countDropped hc hs hu | alert hc hs | skip hc hs | join hc hs | confirm hc hs =>
    exact hreplace hc ⟨rfl, rfl, rfl, by simp [ShutdownCall.errands, hs]⟩
  | _ => exact .inl ⟨by simp [Deed.actor?], hi⟩

theorem call_leads (hl : Leads Step s t) (hi : s.calls[i]? = some call) :
    ∃ later, t.calls[i]? = some later ∧ later.origin = call.origin ∧
      later.graceful = call.graceful ∧ later.drained = call.drained := by
  induction hl with
  | refl => exact ⟨call, hi, rfl, rfl, rfl⟩
  | tail _ hnext ih =>
    obtain ⟨_, st⟩ := hnext
    obtain ⟨later, hi, ho, hg, hd⟩ := ih
    rcases st.call_cases hi with ⟨_, hi⟩ | ⟨_, last, hi, hlast⟩
    · exact ⟨later, hi, ho, hg, hd⟩
    · exact ⟨last, hi, hlast.origin.trans ho, hlast.graceful.trans hg, hlast.drained.trans hd⟩

theorem exists_errand (hi : s.calls[i]? = some call) (hr : call.stage ≠ .returned)
    (hw : ∀ joined, call.stage ≠ .waiting joined) :
    ∃ d s', d.actor? = some (.call i) ∧ Step s d s' := by
  obtain ⟨before, after, hc, rfl⟩ := exists_split_of_getElem? hi
  cases hs : call.stage with
  | dropping =>
    cases hu : call.undropped with
    | nil => exact ⟨_, _, rfl, .countDropped hc hs hu⟩
    | cons => exact ⟨_, _, rfl, .dropTask hc hs hu⟩
  | alerting => exact ⟨_, _, rfl, .alert hc hs⟩
  | deciding =>
    cases ho : call.origin with
    | none => exact ⟨_, _, rfl, .join hc hs ho⟩
    | some worker => exact ⟨_, _, rfl, .skip hc hs ho⟩
  | waiting joined => exact absurd hs (hw joined)
  | returned => exact absurd hs hr

theorem Sound.step_awake {w : Worker PoolTask} (h : s.Sound c) (st : Step s d s')
    (hw : w ∈ s.pool.crew) (hawake : w.phase.isWaiting = false) :
    w ∈ s'.pool.crew ∨ d = .turn w.id ∨ d = .finish w.id := by
  have hp := h.consistent
  have hwake {id : Nat} {timed : Bool} (phase : WorkerPhase PoolTask)
      (hv : ⟨id, .waiting timed⟩ ∈ s.pool.crew) : w ∈ (s.pool.setPhase id phase).crew := by
    refine mem_setPhase_of_ne hw fun he => ?_
    rw [hp.eq_of_id hw hv he] at hawake
    exact nomatch hawake
  cases st with
  | refuse hs =>
    obtain rfl := eq_of_submitWith_error hs
    exact .inl hw
  | accept hs => exact .inl (submit_crew_subset hs hw)
  | notify hn hv => exact .inl (hwake _ hv)
  | stir hv => exact .inl (hwake _ hv)
  | timeOut hv => exact .inl (hwake _ hv)
  | @turn v _ _ hv ht =>
    by_cases he : w.id = v.id
    · exact .inr (.inl (by rw [he]))
    · exact .inl ((turn_held ht).others_subset (mem_others.mpr ⟨hw, he⟩))
  | @finish id e hv =>
    by_cases he : w.id = id
    · exact .inr (.inr (by rw [he]))
    · exact .inl (finish_others_subset _ _ _ (mem_others.mpr ⟨hw, he⟩))
  | shutdown ho hb =>
    rw [eq_of_beginDrain hb]
    exact .inl hw
  | alert => exact .inl (List.mem_map.mpr ⟨w, hw, notified_eq_self hawake⟩)
  | confirm =>
    rw [confirmStopped_fst]
    exact .inl hw
  | _ => exact .inl hw

theorem Step.turned {id : Nat} (st : Step s (.turn id) s') :
    ∃ v ∈ s.pool.crew, v.id = id ∧ ∃ turn, s.pool.turn v = some (s'.pool, turn) := by
  generalize hd : Deed.turn id = d at st
  cases st with
  | turn hv ht => exact ⟨_, hv, (Deed.turn.inj hd).symm, _, ht⟩
  | _ => exact nomatch hd

theorem Sound.step_executing {id : Nat} {task : PoolTask} (h : s.Sound c) (st : Step s d s')
    (hw : ⟨id, .executing task⟩ ∈ s.pool.crew) :
    ⟨id, .executing task⟩ ∈ s'.pool.crew ∨ ∃ e ∈ s.executions, e.task = task := by
  have hp := h.consistent
  refine (h.step_awake st hw rfl).imp_right fun hown => ?_
  rcases hown with rfl | rfl
  · obtain ⟨v, hv, hid, turn, ht⟩ := st.turned
    rw [hp.eq_of_id hv hw hid] at ht
    exact nomatch ht
  · cases st with
    | @finish _ e hv he => exact ⟨e, he, hp.task_unique hv hw⟩

/-- What has been noted in the one session is the beginning of what has been in the other. -/
structure Extends (t s : Session) : Prop where
  accepted : s.accepted <+: t.accepted
  dispatched : s.dispatched <+: t.dispatched
  drained : s.drained <+: t.drained
  executions : s.executions <+: t.executions

theorem Extends.refl (s : Session) : s.Extends s :=
  ⟨List.prefix_refl _, List.prefix_refl _, List.prefix_refl _, List.prefix_refl _⟩

theorem Step.drained_prefix (st : Step s d s') : s.drained <+: s'.drained := by
  by_cases hd : ∃ origin, d = .shutdownNow origin
  · obtain ⟨origin, rfl⟩ := hd
    cases st
    simp [drained]
  · have heq := st.drained_eq fun origin he => hd ⟨origin, he⟩
    exact ⟨[], (List.append_nil _).trans heq.symm⟩

theorem Step.extends (st : Step s d s') : s'.Extends s := by
  have hdrained := st.drained_prefix
  cases st with
  | accept => exact { Extends.refl s with accepted := List.prefix_append _ _, drained := hdrained }
  | turn | finish =>
    exact { Extends.refl s with dispatched := List.prefix_append _ _, drained := hdrained }
  | endTask =>
    exact { Extends.refl s with executions := List.prefix_append _ _, drained := hdrained }
  | _ => exact { Extends.refl s with drained := hdrained }

theorem extends_of_leads (hl : Leads Step s t) : t.Extends s := by
  induction hl with
  | refl => exact .refl s
  | tail _ hnext ih =>
    obtain ⟨_, st⟩ := hnext
    have := st.extends
    exact ⟨ih.accepted.trans this.accepted, ih.dispatched.trans this.dispatched,
      ih.drained.trans this.drained, ih.executions.trans this.executions⟩

end Session
end TaskEngine
