import TaskEngine.Proofs.Delayed.Taken

/-! A scheduler that has been shut down accepts nothing and has nothing pending, for ever.
What was stored can still be read. Every other timer or callable lets go of its producer
sooner or later, and a read that waits for it then learns that there is nothing. -/

namespace TaskEngine

/-- How many deeds of its own a timer has still to do at the most. -/
def TimerStage.toGo : TimerStage → Nat
  | .asleep => 6
  | .awake => 5
  | .claimed => 4
  | .running => 3
  | .ended _ => 2
  | .leaving => 1
  | .gone => 0

namespace Chronicle

open Agenda Function

variable {s s' t u v : Chronicle} {d : Deed} {id k : Nat} {outcome : Outcome Product}

theorem Moves.toGo_lt {old new : TimerStage} (h : Moves id d old new) : new.toGo < old.toGo := by
  cases h <;> simp [TimerStage.toGo]

theorem Step.stopped (st : Step s d s') (h : s.agenda.stopped = true) :
    s'.agenda.stopped = true := by
  cases st with
  | accept hs => exact nomatch (eq_of_schedule hs).1.symm.trans h
  | claim hs hc =>
    obtain ⟨_, rfl⟩ := eq_of_claim hc
    exact h
  | store hs hp | discard hs hp | readNothing hp | read hp =>
    obtain rfl := congrArg Prod.snd hp
    exact h
  | cancel hc =>
    rcases cancel_cases hc with ⟨_, _, _, _, rfl⟩ | ⟨_, rfl⟩ <;> exact h
  | shutdown hs =>
    obtain ⟨_, _, rfl⟩ := eq_of_shutdown hs
    rfl
  | _ => exact h

theorem schedule_of_stopped (h : s.agenda.stopped = true) (reader : Nat) :
    s.agenda.schedule reader = none := by
  simp [Agenda.schedule, h]

theorem Step.eq_of_schedule (st : Step s .schedule s') (h : s.agenda.stopped = true) :
    s' = s := by
  cases st with
  | refuse => rfl
  | accept hs => exact nomatch (schedule_of_stopped h _).symm.trans hs

theorem Step.eq_of_shutdown (st : Step s .shutdown s') (h : s.agenda.stopped = true) :
    s' = s := by
  cases st with
  | shutdownAgain => rfl
  | shutdown hs => simp [Agenda.shutdown, h] at hs

theorem Step.of_shutdown (st : Step s .shutdown s') :
    s'.agenda.stopped = true ∧ s'.agenda.nextId = s.agenda.nextId ∧ s'.accepted = s.accepted ∧
      s'.channels = s.channels ∧ s'.calls = s.calls := by
  cases st with
  | shutdownAgain hs =>
    exact ⟨by simpa [Agenda.shutdown] using hs, rfl, rfl, rfl, rfl⟩
  | shutdown hs =>
    obtain ⟨_, _, rfl⟩ := Agenda.eq_of_shutdown hs
    exact ⟨rfl, rfl, rfl, rfl, rfl⟩

theorem Reachable.phase?_of_stopped (h : Reachable s) (hs : s.agenda.stopped = true) (id : Nat) :
    s.agenda.phase? id = none := by
  rw [phase?, h.closed.stopped hs, List.lookup_nil]

theorem stopped_leads (hs : s.agenda.stopped = true) (hl : Leads Step s t) :
    t.agenda.stopped = true ∧ t.agenda.nextId = s.agenda.nextId ∧ t.accepted = s.accepted := by
  refine hl.preserve (P := fun t => t.agenda.stopped = true ∧
    t.agenda.nextId = s.agenda.nextId ∧ t.accepted = s.accepted)
    (fun ⟨hs, hn, ha⟩ st => ⟨st.stopped hs, ?_⟩) ⟨hs, rfl, rfl⟩
  rcases st.nextId_cases with ⟨hn', ha'⟩ | ⟨rfl, _⟩
  · exact ⟨hn'.trans hn, ha'.trans ha⟩
  · rw [st.eq_of_schedule hs]
    exact ⟨hn, ha⟩

theorem Reachable.unready_leads (h : Reachable s) (hs : s.agenda.stopped = true)
    (hr : ∀ outcome, s.channels id ≠ .ready outcome) (hl : Leads Step s t) :
    ∀ outcome, t.channels id ≠ .ready outcome := by
  refine (hl.keep (P := fun t => t.agenda.stopped = true ∧
    ∀ outcome, t.channels id ≠ .ready outcome) .next
    (fun h st ⟨hs, hr⟩ => ⟨st.stopped hs, fun outcome hr' => ?_⟩) h ⟨hs, hr⟩).2.2
  rcases st.ready_cases hr' with hr' | ⟨_, hp, _⟩
  · exact hr outcome hr'
  · exact isPending_iff_phase?.mp hp (h.phase?_of_stopped hs id)

theorem Step.toGo_le (st : Step s d s') (hs : s.agenda.stopped = true) (id : Nat) :
    (s'.stage id).toGo ≤ (s.stage id).toGo := by
  rcases st.stage_cases id with (heq | hm) | ⟨_, rfl, _⟩
  · exact Nat.le_of_eq (congrArg _ heq)
  · exact Nat.le_of_lt hm.toGo_lt
  · obtain rfl := st.eq_of_schedule hs
    exact Nat.le_refl _

/-- The timer of a task that nobody has pending goes on, to its end. -/
theorem exists_toGo_lt (hp : s.agenda.phase? id = none) (hs : s.stage id ≠ .gone) :
    ∃ d s', Step s d s' ∧ (s'.stage id).toGo < (s.stage id).toGo := by
  have hmove {d : Deed} {s' : Chronicle} (st : Step s d s') {stage : TimerStage}
      (hnew : s'.stage = update s.stage id stage) (hlt : stage.toGo < (s.stage id).toGo) :
      ∃ d s', Step s d s' ∧ (s'.stage id).toGo < (s.stage id).toGo :=
    ⟨d, s', st, by rwa [hnew, update_self]⟩
  cases hstage : s.stage id with
  | asleep => exact hstage ▸ hmove (.wake hstage) rfl (by simp [hstage, TimerStage.toGo])
  | awake =>
    have hclaim : s.agenda.claim id = none := by simp [claim, hp]
    exact hstage ▸ hmove (.skip hstage hclaim) rfl (by simp [hstage, TimerStage.toGo])
  | claimed => exact hstage ▸ hmove (.start hstage) rfl (by simp [hstage, TimerStage.toGo])
  | running =>
    have hcapture := @Step.capture s id (.returned (.plain .null)) _ hstage rfl
    exact hstage ▸ hmove hcapture rfl (by simp [hstage, TimerStage.toGo])
  | ended outcome =>
    have htake : s.agenda.takePending id = (none, (s.agenda.takePending id).2) :=
      Prod.ext hp rfl
    exact hstage ▸ hmove (.discard hstage htake) rfl (by simp [hstage, TimerStage.toGo])
  | leaving => exact hstage ▸ hmove (.release hstage) rfl (by simp [hstage, TimerStage.toGo])
  | gone => exact absurd hstage hs

/-- The read finds nothing, or it waits for a timer that still has to go on: once that is gone,
the read learns that there is nothing. -/
inductive FindsNothing (s : Chronicle) (k id : Nat) : Prop
  | notFound {reader}
      (hk : s.calls[k]? = some (.read id reader (.answered (.error (.notFound id)))))
  | abandoned {reader} (hk : s.calls[k]? = some (.read id reader .abandoned))
  | waiting {reader} (hk : s.calls[k]? = some (.read id reader .waiting))
      (hgone : s.stage id = .gone → ∃ s', Step s (.receive k) s' ∧
        s'.calls[k]? = some (.read id reader (.answered (.error (.notFound id)))))
      (hgoes : s.stage id ≠ .gone → ∃ d s', Step s d s' ∧
        (s'.stage id).toGo < (s.stage id).toGo)

theorem Reachable.findsNothing_of_spent {c : Nat} (h : Reachable s) (hspent : s.Spent id)
    (hk : s.calls[k]? = some (.read id (some c) .waiting)) (hl : Leads Step s t) :
    t.FindsNothing k id := by
  have ht := hspent.leads hl
  obtain ⟨call, hk', hcall⟩ := h.unlucky_leads hspent hk hl
  cases hcall with
  | waiting =>
    exact .waiting hk' (fun hgone => (h.leads hl).receives_notFound ht hk' hgone)
      fun hgone => exists_toGo_lt ht.phase hgone
  | abandoned => exact .abandoned hk'
  | notFound => exact .notFound hk'

theorem Step.calls_of_take {c : Nat} (st : Step s (.read id) s')
    (h : s.agenda.reader? id = some c) :
    s'.calls = s.calls ++ [.read id (some c) .waiting] ∧ s'.channels = s.channels := by
  cases st with
  | readNothing hr => exact nomatch h.symm.trans (congrArg Prod.fst hr)
  | read hr =>
    obtain rfl := Option.some.inj (h.symm.trans (congrArg Prod.fst hr))
    exact ⟨rfl, rfl⟩

theorem Reachable.findsNothing_of_read (h : Reachable s) (hs : s.agenda.stopped = true)
    (hr : ∀ outcome, s.channels id ≠ .ready outcome) (st : Step s (.read id) u)
    (hl : Leads Step u v) : v.FindsNothing s.calls.length id := by
  cases hreader : s.agenda.reader? id with
  | none =>
    have hk : u.calls[s.calls.length]? =
        some (.read id none (.answered (.error (.notFound id)))) := by
      simp [st.calls_of_read hreader]
    refine .notFound (hl.preserve (P := fun v => v.calls[s.calls.length]? = _)
      (fun hk st => ?_) hk)
    rcases st.call_cases hk with hk' | ⟨_, _, _, heq, _⟩
    · exact hk'
    · exact nomatch heq
  | some c =>
    obtain ⟨hcalls, hchannels⟩ := st.calls_of_take hreader
    have hlt := Nat.lt_of_lt_of_le (h.filed.reader hreader).2 st.nextId_le
    have hspent : u.Spent id := ⟨hlt, (h.next st).phase?_of_stopped (st.stopped hs) id,
      st.reader?_of_read, by rwa [hchannels]⟩
    have hk : u.calls[s.calls.length]? = some (.read id (some c) .waiting) := by simp [hcalls]
    exact (h.next st).findsNothing_of_spent hspent hk hl

theorem Reachable.gets_of_read (h : Reachable s) (hr : s.channels id = .ready outcome)
    (ht : ¬s.Taken id) (st : Step s (.read id) u) (hl : Leads Step u v) :
    v.Gets s.calls.length id outcome := by
  have hid : id ∈ s.accepted := by
    rw [h.filed.accepted]
    exact List.mem_range.mpr (h.carried.ready hr).2.1
  obtain ⟨c, hreader⟩ := Option.ne_none_iff_exists'.mp (h.reader?_ne_none_iff.mpr ⟨hid, ht⟩)
  obtain ⟨rfl, _⟩ := h.filed.reader hreader
  obtain ⟨hcalls, hchannels⟩ := st.calls_of_take hreader
  have hgets : u.Gets s.calls.length c outcome :=
    gets_of_ready (by simp [hcalls]) (by rw [hchannels, hr])
  exact hgets.leads (h.next st) hl

theorem Reachable.cancel_of_stopped (h : Reachable s) (hs : s.agenda.stopped = true)
    (st : Step s (.cancel id) s') : ∃ result,
      s'.calls = s.calls ++ [.cancel id false result] ∧
      (result.succeeded = true ↔ id ∈ s.accepted ∧ ¬s.Taken id) ∧
      (result = .panicked → ∃ outcome, s.channels id = .ready outcome) := by
  have hphase := h.phase?_of_stopped hs id
  rw [← h.reader?_ne_none_iff]
  cases st with
  | @cancel _ armed result agenda hc =>
    refine ⟨result, by simp [isPending, hphase], ?_⟩
    rcases cancel_cases hc with ⟨c, hreader, hdrop, rfl, _⟩ | ⟨rfl, _⟩
    · obtain ⟨rfl, _⟩ := h.filed.reader hreader
      exact ⟨by simp [Cancellation.succeeded, hreader], fun _ => ready_of_dropPanics hdrop⟩
    · exact ⟨by simp [Cancellation.succeeded, hphase, Option.isSome_iff_ne_none], by simp⟩

/-- After a shutdown nothing is pending and nothing is accepted, and another shutdown changes
nothing. An outcome that was stored and not read goes to the first read, unless a cancel drops
it. All other reads find nothing, those that were waiting included, as soon as the timer of
the task has come to its end, which nothing but its own deeds brings nearer. A cancel succeeds
exactly if no call has taken the reader of the task. -/
theorem shutdown_freezes (h : Reachable s) (st : Step s .shutdown s') (hl : Leads Step s' t) :
    (t.agenda.pendingCount = 0 ∧ (∀ id, t.agenda.isPending id = false) ∧
      t.agenda.nextId = s.agenda.nextId ∧ t.accepted = s.accepted) ∧
    (t.agenda.schedule t.agenda.nextId = none ∧ (∃ u, Step t .schedule u) ∧
      ∀ {u}, Step t .schedule u → u = t) ∧
    ((∃ u, Step t .shutdown u) ∧ ∀ {u}, Step t .shutdown u → u = t) ∧
    (∀ {id outcome}, s.channels id = .ready outcome →
      (∀ {k c}, s.calls[k]? = some (.read id (some c) .waiting) → t.Gets k id outcome) ∧
      (¬t.Taken id → ∀ {u v}, Step t (.read id) u → Leads Step u v →
        v.Gets t.calls.length id outcome)) ∧
    (∀ {id}, (∀ outcome, s.channels id ≠ .ready outcome) →
      (∀ {k c}, s.calls[k]? = some (.read id (some c) .waiting) → t.FindsNothing k id) ∧
      ∀ {u v}, Step t (.read id) u → Leads Step u v → v.FindsNothing t.calls.length id) ∧
    (∀ {id}, t.Taken id → ∀ {u}, Step t (.read id) u →
      u.calls = t.calls ++ [.read id none (.answered (.error (.notFound id)))]) ∧
    (∀ {d u}, Step t d u → ∀ id, (u.stage id).toGo ≤ (t.stage id).toGo) ∧
    ∀ id, (∃ u, Step t (.cancel id) u) ∧ ∀ {u}, Step t (.cancel id) u → ∃ result,
      u.calls = t.calls ++ [.cancel id false result] ∧
      (result.succeeded = true ↔ id ∈ s.accepted ∧ ¬t.Taken id) ∧
      (result = .panicked → ∃ outcome, t.channels id = .ready outcome) := by
  obtain ⟨hstopped', hn', ha', hchannels, hcalls⟩ := st.of_shutdown
  have h' := h.next st
  have ht := h'.leads hl
  obtain ⟨hstopped, hn, ha⟩ := stopped_leads hstopped' hl
  have hphase := ht.phase?_of_stopped hstopped
  refine ⟨⟨?_, fun id => isPending_eq_false_iff.mpr (hphase id), hn.trans hn', ha.trans ha'⟩,
    ⟨schedule_of_stopped hstopped _, ⟨t, .refuse (schedule_of_stopped hstopped _)⟩,
      fun st => st.eq_of_schedule hstopped⟩,
    ⟨⟨t, .shutdownAgain (by simp [Agenda.shutdown, hstopped])⟩,
      fun st => st.eq_of_shutdown hstopped⟩,
    fun {id outcome} hr => ⟨fun {k c} hk => ?_, fun htaken {u v} st hlater => ?_⟩,
    fun {id} hr => ⟨fun {k c} hk => ?_, fun {u v} st hlater => ?_⟩,
    fun {id} htaken {u} st => st.calls_of_read (ht.taken_iff.mp htaken).2,
    fun st id => st.toGo_le hstopped id,
    fun id => ⟨⟨_, @Step.cancel t id true _ _ rfl⟩, fun {u} st => ?_⟩⟩
  · rw [pendingCount, ht.closed.stopped hstopped, List.length_nil]
  · obtain ⟨rfl, _⟩ := h.filed.taken (List.mem_of_getElem? hk)
    exact (gets_of_ready (hcalls ▸ hk) (hchannels ▸ hr)).leads h' hl
  · exact ht.gets_of_read (h'.ready_of_untaken (hchannels ▸ hr) hl htaken) htaken st hlater
  · obtain ⟨_, hlt, hreader⟩ := h'.filed.taken (List.mem_of_getElem? (hcalls ▸ hk))
    refine h'.findsNothing_of_spent ⟨hlt, h'.phase?_of_stopped hstopped' id, hreader, ?_⟩
      (hcalls ▸ hk) hl
    rwa [hchannels]
  · exact ht.findsNothing_of_read hstopped
      (h'.unready_leads hstopped' (by rwa [hchannels]) hl) st hlater
  · rw [← ha', ← ha]
    exact ht.cancel_of_stopped hstopped st

/-- The outcome of the first task is stored, and the callable of the second is running with a read
waiting for it. After the shutdown the callable ends, in vain, and the first task is read. -/
theorem shutdown_freezes_running : ∃ s s' t u, Reachable s ∧ Step s .shutdown s' ∧
    Leads Step s' t ∧ s.stage 1 = .running ∧ t.stage 1 = .gone ∧ t.agenda.pendingCount = 0 ∧
    t.FindsNothing 0 1 ∧ Step t (.read 0) u ∧ u.Gets 1 0 (.ok (.plain .null)) := by
  have h₁ := Reachable.start.next (d := .schedule) (.accept rfl)
  have h₂ := h₁.next (d := .schedule) (.accept rfl)
  have h₃ := h₂.next (d := .wake 0) (.wake rfl)
  have h₄ := h₃.next (d := .claim 0) (.claim rfl rfl)
  have h₅ := h₄.next (d := .start 0) (.start rfl)
  have h₆ := h₅.next (d := .finish 0 (.returned (.plain .null))) (.capture rfl rfl)
  have h₇ := h₆.next (d := .store 0) (.store rfl rfl)
  have h₈ := h₇.next (d := .wake 1) (.wake rfl)
  have h₉ := h₈.next (d := .claim 1) (.claim rfl rfl)
  have h₁₀ := h₉.next (d := .start 1) (.start rfl)
  have h₁₁ := h₁₀.next (d := .read 1) (.read rfl)
  have h₁₂ := h₁₁.next (d := .shutdown) (.shutdown rfl)
  have l₁ := h₁₂.leads_self.next (d := .finish 1 (.returned (.plain .null))) (.capture rfl rfl)
  have l₂ := l₁.next (d := .store 1) (.discard rfl rfl)
  have l₃ := l₂.next (d := .release 1) (.release rfl)
  obtain ⟨t, ht, hl⟩ : ∃ t, t = _ ∧ Leads Step _ t := ⟨_, rfl, l₃⟩
  have hcalls : t.calls = [.read 1 (some 1) .waiting] := by rw [ht]; rfl
  have hreader : t.agenda.reader? 0 = some 0 := by rw [ht]; rfl
  have hgone : t.stage 1 = .gone := by rw [ht]; rfl
  have st : Step t (.read 0) _ := .read (Prod.ext hreader rfl)
  obtain ⟨⟨hcount, _⟩, _, _, hstored, hothers, _⟩ := shutdown_freezes h₁₁ (.shutdown rfl) hl
  have hnothing := (@hothers 1 fun _ => nofun).1 (k := 0) (c := 1) rfl
  have huntaken : ¬t.Taken 0 := by simp [Taken, hcalls, TaskCall.takes]
  have hgets := (@hstored 0 (.ok (.plain .null)) rfl).2 huntaken st (.refl _)
  have hlength : t.calls.length = 1 := by rw [hcalls]; rfl
  rw [hlength] at hgets
  exact ⟨_, _, t, _, h₁₁, .shutdown rfl, hl, rfl, hgone, hcount, hnothing, st, hgets⟩

end Chronicle
end TaskEngine
