import Mathlib.Data.List.Count
import TaskEngine.Proofs.Pool.Roster

/-! Who was hired and who has left. A worker gets the number after the last one given. It
leaves once at most, and is counted out by that deed alone, so that those that count as
active are those that were hired and have not left. -/

namespace TaskEngine

inductive Departure
  | retired
  | exited
  | unwound
  deriving DecidableEq

def Turn.departures {τ : Type} (worker : Nat) : Turn τ → List (Nat × Departure)
  | .leave retired _ => [(worker, if retired then .retired else .exited)]
  | .die _ => [(worker, .unwound)]
  | .run _ | .wait => []

def departed (why : Departure) (left : List (Nat × Departure)) : Nat :=
  (left.map Prod.snd).count why

@[simp] theorem departed_nil (why : Departure) : departed why [] = 0 := rfl

@[simp] theorem departed_append (why : Departure) (left left' : List (Nat × Departure)) :
    departed why (left ++ left') = departed why left + departed why left' := by
  simp [departed]

theorem departed_sum (left : List (Nat × Departure)) :
    departed .retired left + departed .exited left + departed .unwound left = left.length := by
  induction left with
  | nil => rfl
  | cons entry left ih =>
    obtain ⟨id, why⟩ := entry
    simp only [departed, List.map_cons, List.count_cons, List.length_cons] at ih ⊢
    cases why <;> simp <;> omega

namespace Pool

variable {τ : Type} {p q r : Pool τ} {id : Nat} {turn : Turn τ}

def ids (p : Pool τ) : List Nat := p.crew.map Worker.id

def newcomers (p q : Pool τ) : List Nat := q.ids.filter fun id => id ∉ p.ids

@[simp] theorem ids_length (p : Pool τ) : p.ids.length = p.crew.length := List.length_map _

@[simp] theorem setPhase_ids (p : Pool τ) (id : Nat) (phase : WorkerPhase τ) :
    (p.setPhase id phase).ids = p.ids := by
  simp only [ids, setPhase, List.map_map]
  refine List.map_congr_left fun w _ => ?_
  by_cases hw : w.id = id <;> simp [hw]

theorem AtLock.ids_perm (h : p.AtLock id) : p.ids.Perm (id :: (p.others id).map Worker.id) := by
  obtain ⟨phase, hp⟩ := h.crew_perm
  exact hp.map Worker.id

/-- What happens to the workforce from the one pool to the other. -/
structure Turnover (p q : Pool τ) (hired : List Nat) (left : List (Nat × Departure)) : Prop where
  ids : (p.ids ++ hired).Perm (q.ids ++ left.map Prod.fst)
  numbers : hired = List.range' p.nextWorker hired.length
  nextWorker : q.nextWorker = p.nextWorker + hired.length
  spawned : q.tally.spawnedWorkers = p.tally.spawnedWorkers + hired.length
  retired : q.tally.retiredWorkers = p.tally.retiredWorkers + departed .retired left

theorem Turnover.of_perm (hi : q.ids.Perm p.ids) (hn : q.nextWorker = p.nextWorker)
    (hs : q.tally.spawnedWorkers = p.tally.spawnedWorkers)
    (hr : q.tally.retiredWorkers = p.tally.retiredWorkers) : p.Turnover q [] [] :=
  ⟨by simpa using hi.symm, rfl, hn, hs, hr⟩

theorem Turnover.refl (p : Pool τ) : p.Turnover p [] [] := .of_perm (.refl _) rfl rfl rfl

theorem AtLock.dismiss_turnover (h : p.AtLock id) {why : Departure} (hw : why ≠ .retired) :
    p.Turnover (p.dismiss id).1 [] [(id, why)] := by
  refine ⟨?_, rfl, rfl, rfl, ?_⟩
  · rw [List.append_nil]
    exact h.ids_perm.trans (List.perm_append_singleton _ _).symm
  · show p.tally.retiredWorkers = p.tally.retiredWorkers + _
    simp [departed, hw]

theorem AtLock.held_turnover (h : p.AtLock id) (hd : Held p id q turn) :
    p.Turnover q [] (turn.departures id) := by
  cases hd with
  | run => exact .of_perm (.of_eq (setPhase_ids ..)) rfl rfl rfl
  | wait =>
    refine .of_perm ?_ rfl rfl rfl
    exact ((beginWait_perm p id).map Worker.id).trans h.ids_perm.symm
  | exit => exact h.dismiss_turnover nofun
  | retire =>
    refine ⟨?_, rfl, rfl, rfl, rfl⟩
    rw [List.append_nil]
    exact h.ids_perm.trans (List.perm_append_singleton _ _).symm

theorem AtLock.finish_turnover (h : p.AtLock id) (conclusion : Conclusion) :
    p.Turnover (p.finish id conclusion).1 [] ((p.finish id conclusion).2.departures id) := by
  by_cases hu : conclusion = .unwound
  · rw [hu, finish_unwound]
    exact h.dismiss_turnover nofun
  · have hheld := (h.record conclusion).held_turnover (finish_held p id hu)
    cases conclusion <;> exact ⟨hheld.ids, hheld.numbers, hheld.nextWorker, hheld.spawned,
      hheld.retired⟩

theorem Held.departures_ne (hd : Held p id q turn) {i : Nat} :
    (i, .unwound) ∉ turn.departures id := by
  cases hd <;> simp [Turn.departures]

theorem Held.departed_unwound (hd : Held p id q turn) :
    departed .unwound (turn.departures id) = 0 := by
  cases hd <;> rfl

theorem mem_departures_finish (p : Pool τ) (id : Nat) (conclusion : Conclusion) {i : Nat} :
    (i, .unwound) ∈ (p.finish id conclusion).2.departures id ↔
      i = id ∧ conclusion = .unwound := by
  by_cases hu : conclusion = .unwound
  · rw [hu, finish_unwound]
    simp [Turn.departures]
  · simp [hu, (finish_held p id hu).departures_ne]

theorem departed_finish (p : Pool τ) (id : Nat) (e : Execution) :
    departed .unwound ((p.finish id e.conclusion).2.departures id) = e.lost.length := by
  by_cases hu : e.conclusion = .unwound
  · rw [hu, finish_unwound]
    simp [Execution.lost, hu, Turn.departures, departed]
  · rw [(finish_held p id hu).departed_unwound, Execution.lost_eq_nil hu]
    rfl

theorem newcomers_eq_nil (h : q.ids ⊆ p.ids) : p.newcomers q = [] := by
  simpa [newcomers] using fun id hid => h hid

theorem Turnover.newcomers_eq_nil {left : List (Nat × Departure)} (h : p.Turnover q [] left) :
    p.newcomers q = [] := by
  refine Pool.newcomers_eq_nil fun id hid => ?_
  have := h.ids.mem_iff.mpr (List.mem_append_left _ hid)
  simpa using this

theorem Turnover.of_newcomers {left : List (Nat × Departure)} (h : p.Turnover q [] left) :
    p.Turnover q (p.newcomers q) left := by
  rwa [h.newcomers_eq_nil]

theorem submit_turnover {spawns : Bool} {task : τ} (hp : p.Consistent)
    (h : p.submitWith spawns task = (q, .ok ())) : p.Turnover q (p.newcomers q) [] := by
  obtain ⟨_, queue, _, _, rfl⟩ := eq_of_submitWith_ok h
  have hsame : p.Turnover ({ p with queue }.countSubmitted) [] [] := .of_perm (.refl _) rfl rfl rfl
  cases spawns with
  | false => exact hsame.of_newcomers
  | true =>
    simp only [if_true, grow]
    split
    · have hfresh : p.nextWorker ∉ p.ids := by
        intro hm
        obtain ⟨w, hw, he⟩ := List.mem_map.mp hm
        exact absurd he (Nat.ne_of_lt (hp.ids_lt w hw))
      have hids : ({ p with queue }.countSubmitted.hire).ids = p.ids ++ [p.nextWorker] := by
        simp [ids, hire, countSubmitted]
      have hnew : p.newcomers ({ p with queue }.countSubmitted.hire) = [p.nextWorker] := by
        simp [newcomers, hids, List.filter_append, hfresh]
      rw [hnew]
      exact ⟨by simp [hids], rfl, rfl, rfl, rfl⟩
    · exact hsame.of_newcomers

end Pool

/-- What a live worker is about. -/
inductive Activity
  | starting
  | idle
  | executing
  | unwinding
  deriving DecidableEq

structure Personnel where
  hired : List Nat
  left : List (Nat × Departure) := []

namespace Session

open Pool

variable {c : PoolConfig} {s s' : Session} {d : Deed} {left : List (Nat × Departure)}
  {staff : Personnel}

def HasUnwound (s : Session) (task : PoolTask) : Prop :=
  ∃ e ∈ s.executions, e.task.channel = task.channel ∧ e.conclusion = .unwound

instance (s : Session) (task : PoolTask) : Decidable (s.HasUnwound task) :=
  inferInstanceAs (Decidable (∃ e ∈ s.executions, _))

def activity (s : Session) (w : Worker PoolTask) : Activity :=
  match w.phase with
  | .starting => .starting
  | .waiting _ | .woken _ => .idle
  | .executing task => if s.HasUnwound task then .unwinding else .executing

def doing (s : Session) (activity : Activity) : Nat :=
  s.pool.crew.countP fun w => s.activity w = activity

/-- The workers that leave with a deed. -/
inductive Leaves (s : Session) (d : Deed) (s' : Session) : List (Nat × Departure) → Prop
  | turn {w turn} (hd : d = .turn w.id) (hw : w ∈ s.pool.crew)
      (h : s.pool.turn w = some (s'.pool, turn)) : Leaves s d s' (turn.departures w.id)
  | finish {id e turn} (hd : d = .finish id) (hw : ⟨id, .executing e.task⟩ ∈ s.pool.crew)
      (he : e ∈ s.executions) (h : s.pool.finish id e.conclusion = (s'.pool, turn)) :
      Leaves s d s' (turn.departures id)
  | stay (ht : ∀ id, d ≠ .turn id) (hf : ∀ id, d ≠ .finish id) : Leaves s d s' []

/-- The states of the pools of a configuration, with who was hired and who has left. -/
inductive Recorded (c : PoolConfig) : Personnel → Session → Prop
  | start : Recorded c { hired := (start c).pool.ids } (.start c)
  | next {staff : Personnel} {s s' : Session} {d : Deed} {left : List (Nat × Departure)}
      (h : Recorded c staff s) (st : Step s d s') (hl : s.Leaves d s' left) :
      Recorded c ⟨staff.hired ++ s.pool.newcomers s'.pool, staff.left ++ left⟩ s'

theorem Step.exists_leaves (st : Step s d s') : ∃ left, s.Leaves d s' left := by
  cases st with
  | turn hw ht => exact ⟨_, .turn rfl hw ht⟩
  | finish hw he => exact ⟨_, .finish rfl hw he rfl⟩
  | _ => exact ⟨[], .stay nofun nofun⟩

theorem Reachable.exists_recorded (h : Reachable c s) : ∃ staff, Recorded c staff s := by
  induction h with
  | start => exact ⟨_, .start⟩
  | next _ st ih =>
    obtain ⟨staff, hr⟩ := ih
    obtain ⟨left, hl⟩ := st.exists_leaves
    exact ⟨_, hr.next st hl⟩

theorem Recorded.reachable (h : Recorded c staff s) : Reachable c s := by
  induction h with
  | start => exact .start
  | next _ st _ ih => exact ih.next st

theorem Executed.eq_of_channel (h : s.Executed) {e e' : Execution} (he : e ∈ s.executions)
    (he' : e' ∈ s.executions) (ht : e.task.channel = e'.task.channel) : e = e' :=
  List.inj_on_of_nodup_map h.nodup he he' ht

theorem Step.lost_of_turn {id : Nat} (st : Step s (.turn id) s') : s'.lost = s.lost := by
  generalize hd : Deed.turn id = d at st
  cases st with
  | finish => exact nomatch hd
  | _ => rfl

/-- A deed hires the workers with the next numbers, and counts those in that it hires and those
out that leave. -/
theorem Reachable.step_turnover (hc : c.validate = .ok ()) (h : Reachable c s) (st : Step s d s')
    (hl : s.Leaves d s' left) :
    s.pool.Turnover s'.pool (s.pool.newcomers s'.pool) left ∧
      s'.lost.length = s.lost.length + departed .unwound left := by
  have hp := (h.sound hc).consistent
  cases hl with
  | turn hd hw ht =>
    subst hd
    have hheld := turn_held ht
    have hturn := (hp.atLock_turn hw ht).held_turnover hheld
    refine ⟨Turnover.of_newcomers ⟨hturn.ids, hturn.numbers, hturn.nextWorker, hturn.spawned,
      hturn.retired⟩, ?_⟩
    rw [st.lost_of_turn, hheld.departed_unwound, Nat.add_zero]
  | finish hd hw he hf =>
    subst hd
    cases st with
    | @finish _ e' hw' he' =>
      obtain rfl := (h.executed hc).eq_of_channel he he'
        (congrArg PoolTask.channel (hp.task_unique hw hw'))
      have hfinish := (hp.atLock_executing hw).finish_turnover
      have hunwound := departed_finish s.pool
      obtain rfl := congrArg Prod.snd hf
      exact ⟨(hfinish _).of_newcomers, by simp [hunwound]⟩
  | stay hturn hfinish =>
    have hsame (hi : s'.pool.ids.Perm s.pool.ids) (hn : s'.pool.nextWorker = s.pool.nextWorker)
        (ht : s'.pool.tally.spawnedWorkers = s.pool.tally.spawnedWorkers)
        (hr : s'.pool.tally.retiredWorkers = s.pool.tally.retiredWorkers) :
        s.pool.Turnover s'.pool (s.pool.newcomers s'.pool) [] :=
      (Turnover.of_perm hi hn ht hr).of_newcomers
    cases st with
    | refuse hs =>
      obtain rfl := eq_of_submitWith_error hs
      exact ⟨hsame (.refl _) rfl rfl rfl, rfl⟩
    | accept hs => exact ⟨submit_turnover hp hs, rfl⟩
    | notify | stir | timeOut => exact ⟨hsame (.of_eq (setPhase_ids ..)) rfl rfl rfl, rfl⟩
    | turn => exact absurd rfl (hturn _)
    | finish => exact absurd rfl (hfinish _)
    | shutdown ho hb =>
      refine ⟨hsame ?_ ?_ ?_ ?_, rfl⟩ <;> rw [eq_of_beginDrain hb]
      exact .refl _
    | alert => exact ⟨hsame (.of_eq (map_id_notified _)) rfl rfl rfl, rfl⟩
    | confirm =>
      refine ⟨hsame ?_ ?_ ?_ ?_, rfl⟩ <;> rw [confirmStopped_fst]
      exact .refl _
    | _ => exact ⟨hsame (.refl _) rfl rfl rfl, rfl⟩

theorem Reachable.unwound_iff (hc : c.validate = .ok ()) (h : Reachable c s)
    (hl : s.Leaves d s' left) {id : Nat} : (id, .unwound) ∈ left ↔
      d = .finish id ∧ ∃ w ∈ s.pool.crew, w.id = id ∧ s.activity w = .unwinding := by
  have hp := (h.sound hc).consistent
  cases hl with
  | turn hd hw ht => simp [(turn_held ht).departures_ne, hd]
  | @finish i e turn hd hw he hf =>
    subst hd
    obtain rfl := congrArg Prod.snd hf
    rw [mem_departures_finish]
    constructor
    · rintro ⟨rfl, hu⟩
      exact ⟨rfl, _, hw, rfl, if_pos ⟨e, he, rfl, hu⟩⟩
    · rintro ⟨hd, w, hw', hid, hunwinding⟩
      obtain rfl := Deed.finish.inj hd
      obtain rfl := hp.eq_of_id hw' hw hid
      refine ⟨rfl, ?_⟩
      by_contra hu
      have hnot : ¬s.HasUnwound e.task := by
        rintro ⟨e', he', hch, hu'⟩
        exact hu ((h.executed hc).eq_of_channel he' he hch ▸ hu')
      simp [activity, hnot] at hunwinding
  | stay _ hf => simp [hf]

/-- The workers that were hired are those with the numbers up to the next one, and each of them
is there or has left. -/
structure Accounted (staff : Personnel) (s : Session) : Prop where
  hired : staff.hired = List.range s.pool.nextWorker
  spawned : s.pool.tally.spawnedWorkers = s.pool.nextWorker
  present : staff.hired.Perm (s.pool.ids ++ staff.left.map Prod.fst)
  retired : s.pool.tally.retiredWorkers = departed .retired staff.left
  lost : s.lost.length = departed .unwound staff.left

theorem accounted_start (c : PoolConfig) :
    Accounted { hired := (start c).pool.ids } (.start c) := by
  have hids : (start c).pool.ids = List.range (start c).pool.nextWorker := by
    simp [Pool.ids, Pool.start, hireMany_eq, List.range_eq_range', Function.comp_def]
  exact ⟨hids, by simp [Pool.start, hireMany_eq], by simp, by simp, rfl⟩

theorem Accounted.next {hired : List Nat} (h : Accounted staff s)
    (ht : s.pool.Turnover s'.pool hired left)
    (hlost : s'.lost.length = s.lost.length + departed .unwound left) :
    Accounted ⟨staff.hired ++ hired, staff.left ++ left⟩ s' := by
  have hnumbers := ht.numbers
  constructor
  · show staff.hired ++ hired = _
    rw [h.hired, ht.nextWorker, hnumbers, List.length_range', List.range_eq_range',
      List.range_eq_range']
    simpa using @List.range'_append_1 0 s.pool.nextWorker hired.length
  · rw [ht.spawned, ht.nextWorker, h.spawned]
  · have hids := ht.ids
    have hpresent := h.present
    simp only [List.map_append, ← Multiset.coe_eq_coe, ← Multiset.coe_add] at hids hpresent ⊢
    rw [hpresent, add_right_comm, hids]
    abel
  · rw [ht.retired, h.retired, departed_append]
  · rw [hlost, h.lost, departed_append]

theorem Recorded.accounted (hc : c.validate = .ok ()) (h : Recorded c staff s) :
    Accounted staff s := by
  induction h with
  | start => exact accounted_start c
  | next h st hl ih =>
    obtain ⟨hturnover, hlost⟩ := h.reachable.step_turnover hc st hl
    exact ih.next hturnover hlost

theorem Accounted.nodup (h : Accounted staff s) :
    (s.pool.ids ++ staff.left.map Prod.fst).Nodup := by
  rw [← h.present.nodup_iff, h.hired]
  exact List.nodup_range

theorem workerName_injective (entry : PoolEntry) :
    Function.Injective (World.workerName entry) := by
  intro id id' h
  rw [World.workerName, World.workerName, String.append_right_inj] at h
  -- A number is read back from its digits.
  have hdigits := congrArg String.toList h
  simp only [toString, Nat.toList_repr] at hdigits
  rw [← @Nat.ofDigitChars_toDigits 10 id (by decide) (by decide), hdigits,
    Nat.ofDigitChars_toDigits (by decide) (by decide)]

theorem length_eq_activities {α : Type} (activity : α → Activity) (l : List α) :
    l.length = l.countP (activity · = .starting) + l.countP (activity · = .idle) +
      l.countP (activity · = .executing) + l.countP (activity · = .unwinding) := by
  induction l with
  | nil => rfl
  | cons a l ih =>
    simp only [List.countP_cons, List.length_cons]
    cases h : activity a <;> simp <;> omega

theorem doing_idle (s : Session) : s.doing .idle = s.pool.waiting + s.pool.woken := by
  unfold doing waiting woken
  induction s.pool.crew with
  | nil => rfl
  | cons w crew ih =>
    obtain ⟨id, phase⟩ := w
    rw [List.countP_cons, ih, headcount_cons, headcount_cons]
    cases phase with
    | starting => rfl
    | waiting | woken =>
      simp only [activity, WorkerPhase.isWaiting, WorkerPhase.isWoken]
      simp
      omega
    | executing task =>
      have hbusy : s.activity ⟨id, .executing task⟩ ≠ .idle := by
        simp only [activity]
        split <;> simp
      simp [hbusy, WorkerPhase.isWaiting, WorkerPhase.isWoken]

/-- The live workers are those that were hired and have not left; each is new, idle, executing
or unwinding, and there are no fewer than the core while the pool runs and nobody was lost,
and never more than the pool may have. Whoever leaves does so once, is still counted then and
counted out by that, and says how. Numbers, and with them names, are given in order and
never again. -/
theorem workers_accounted (hc : c.validate = .ok ()) (h : Reachable c s) :
    s.pool.active = s.doing .starting + s.doing .idle + s.doing .executing + s.doing .unwinding ∧
    s.pool.idle = s.doing .idle ∧
    s.pool.idle ≤ s.pool.active ∧ s.pool.active ≤ c.maxThreads.toNat ∧
    s.pool.queue.size ≤ c.queueCapacity.toNat ∧
    (s.pool.stage = .running → s.lost = [] → c.coreThreads.toNat ≤ s.pool.active) ∧
    (∀ w ∈ s.pool.crew, 0 < s.pool.active ∧ (s.activity w = .idle → 0 < s.pool.idle)) ∧
    (∀ {d s'}, Step s d s' → (∃ left, s.Leaves d s' left) ∧ ∀ left, s.Leaves d s' left →
      s'.pool.active + left.length = s.pool.active + (s.pool.newcomers s'.pool).length ∧
      ∀ id, (id, .unwound) ∈ left ↔
        d = .finish id ∧ ∃ w ∈ s.pool.crew, w.id = id ∧ s.activity w = .unwinding) ∧
    (∃ staff, Recorded c staff s) ∧
    ∀ staff, Recorded c staff s →
      staff.hired = List.range s.pool.tally.spawnedWorkers ∧
      (∀ entry, (staff.hired.map (World.workerName entry)).Nodup) ∧
      staff.hired.Perm (s.pool.ids ++ staff.left.map Prod.fst) ∧
      (s.pool.ids ++ staff.left.map Prod.fst).Nodup ∧
      s.pool.active + s.pool.tally.retiredWorkers + departed .exited staff.left +
        departed .unwound staff.left = s.pool.tally.spawnedWorkers ∧
      departed .retired staff.left = s.pool.tally.retiredWorkers ∧
      departed .unwound staff.left = s.lost.length := by
  have hs := h.sound hc
  have hp := hs.consistent
  have hsum := length_eq_activities s.activity s.pool.crew
  have hactive : s.pool.active = s.doing .starting + s.doing .idle + s.doing .executing +
      s.doing .unwinding := hp.active_eq.trans hsum
  have hidle : s.pool.idle = s.doing .idle := hp.idle_eq.trans s.doing_idle.symm
  refine ⟨hactive, hidle, by omega, hs.max_eq ▸ hp.active_le,
    hs.capacity_eq ▸ s.pool.queue.size_le_capacity, fun hrun hlost => ?_, fun w hw => ⟨?_, ?_⟩,
    fun st => ⟨st.exists_leaves, fun left hl => ⟨?_, fun id => h.unwound_iff hc hl⟩⟩,
    h.exists_recorded, fun staff hstaff => ?_⟩
  · have hcore := h.retained hc (.inl (hp.running_iff.mp hrun))
    rwa [hs.core_eq, hlost] at hcore
  · rw [hp.active_eq]
    exact List.length_pos_of_mem hw
  · intro hw'
    rw [hidle]
    exact List.countP_pos_iff.mpr ⟨w, hw, decide_eq_true hw'⟩
  · have hlength := (h.step_turnover hc st hl).1.ids.length_eq
    simp only [List.length_append, List.length_map, ids_length] at hlength
    rw [hp.active_eq, (hs.step_consistent st).active_eq]
    exact hlength.symm
  · have haccounted := hstaff.accounted hc
    have hlength := haccounted.present.length_eq
    have hdeparted := departed_sum staff.left
    simp only [haccounted.hired, List.length_append, List.length_map, List.length_range,
      ids_length] at hlength
    have hlive := hp.active_eq
    refine ⟨?_, fun entry => ?_, haccounted.present, haccounted.nodup, ?_,
      haccounted.retired.symm, haccounted.lost.symm⟩
    · rw [haccounted.hired, haccounted.spawned]
    · rw [haccounted.hired]
      exact List.nodup_range.map (workerName_injective entry)
    · rw [haccounted.retired, haccounted.spawned]
      omega

/-- The first worker is lost with its task, and the next submission hires the second one. -/
theorem workers_accounted_replaced : ∃ s staff, Recorded solo staff s ∧
    staff.hired = [0, 1] ∧ staff.left = [(0, .unwound)] ∧ s.pool.ids = [1] ∧
    s.pool.active + s.pool.tally.retiredWorkers + departed .exited staff.left +
      departed .unwound staff.left = s.pool.tally.spawnedWorkers := by
  have h₁ := Recorded.start.next (c := solo) (d := .submit [] true) (.accept rfl)
    (.stay nofun nofun)
  have h₂ := h₁.next (.turn (List.Mem.head _) rfl)
    (by exact .turn rfl (List.Mem.head _) rfl)
  have h₃ := h₂.next (d := .endTask 0 (.panicked (.fragile "")))
    (@Step.endTask _ _ ⟨[], 0⟩ _ true _ _ ⟨List.Mem.head _, nofun⟩ nofun rfl) (.stay nofun nofun)
  have h₄ := h₃.next (d := .finish 0) (.finish (List.Mem.head _) (List.Mem.head _))
    (by exact .finish rfl (List.Mem.head _) (List.Mem.head _) rfl)
  have h₅ := h₄.next (d := .submit [] true) (.accept rfl) (.stay nofun nofun)
  obtain ⟨_, _, _, _, _, _, _, _, _, hstaff⟩ := workers_accounted rfl h₅.reachable
  obtain ⟨_, _, _, _, hactive, _, _⟩ := hstaff _ h₅
  exact ⟨_, _, h₅, rfl, rfl, rfl, hactive⟩

end Session
end TaskEngine
