import TaskEngine.Proofs.Delayed.Winner

/-! How far a timer has come says whether its id is claimed, whether the callable has begun,
and whether it has ended with an outcome. So a task is pending until it is given up, or
until the thread of its callable comes back for the lock with an outcome. -/

namespace TaskEngine
namespace Chronicle

open Agenda

variable {s s' t : Chronicle} {d : Deed} {id : Nat}

theorem Step.isPending_of_claimed (st : Step s d s') (hmem : id ∈ s'.claimed)
    (hnew : id ∉ s.claimed) : d = .claim id ∧ s.agenda.isPending id = true ∧
      s'.agenda.phase? id = some .running ∧ s.stage id = .awake ∧ s'.stage id = .claimed := by
  cases st with
  | @claim i agenda hs h =>
    obtain rfl : id = i := by simpa [hnew] using hmem
    have hphase : agenda.phase? id = _ := phase?_claim h
    exact ⟨rfl, (eq_of_claim h).1, by simpa using hphase, hs, by simp⟩
  | _ => exact absurd hmem hnew

theorem Step.mem_claimed_iff (st : Step s d s') (id : Nat) : id ∈ s'.claimed ↔
    id ∈ s.claimed ∨ s.stage id = .awake ∧ s'.stage id = .claimed := by
  constructor
  · intro hmem
    by_cases hold : id ∈ s.claimed
    · exact .inl hold
    · exact .inr (st.isPending_of_claimed hmem hold).2.2.2
  · rintro (hmem | ⟨hawake, hclaimed⟩)
    · cases st with
      | claim => exact List.mem_append_left _ hmem
      | _ => exact hmem
    · rcases st.stage_cases id with (heq | hm) | ⟨_, _, _, hasleep⟩
      · exact nomatch hawake.symm.trans (heq.symm.trans hclaimed)
      · rw [hawake, hclaimed] at hm
        cases hm with
        | claim =>
          cases st with
          | claim => simp
          | skip => simp at hclaimed
      · exact nomatch hasleep.symm.trans hclaimed

theorem Step.mem_begun_iff (st : Step s d s') (id : Nat) : id ∈ s'.begun ↔
    id ∈ s.begun ∨ s.stage id = .claimed ∧ s'.stage id = .running := by
  constructor
  · intro hmem
    cases st with
    | @start i hs =>
      rcases List.mem_append.mp hmem with hmem | hnew
      · exact .inl hmem
      · obtain rfl := List.mem_singleton.mp hnew
        exact .inr ⟨hs, by simp⟩
    | _ => exact .inl hmem
  · rintro (hmem | ⟨hclaimed, hrun⟩)
    · cases st with
      | start => exact List.mem_append_left _ hmem
      | _ => exact hmem
    · rcases st.stage_cases id with (heq | hm) | ⟨_, _, _, hasleep⟩
      · exact nomatch hclaimed.symm.trans (heq.symm.trans hrun)
      · rw [hclaimed, hrun] at hm
        cases hm with
        | start =>
          cases st with
          | start => simp
      · exact nomatch hasleep.symm.trans hrun

theorem Step.mem_captured_iff (st : Step s d s') (id : Nat) (outcome : Outcome Product) :
    (id, outcome) ∈ s'.captured ↔
      (id, outcome) ∈ s.captured ∨ s.stage id = .running ∧ s'.stage id = .ended outcome := by
  constructor
  · intro hmem
    cases st with
    | @capture i ending o hs h =>
      rcases List.mem_append.mp hmem with hmem | hnew
      · exact .inl hmem
      · obtain ⟨rfl, rfl⟩ := Prod.mk.inj (List.mem_singleton.mp hnew)
        exact .inr ⟨hs, by simp⟩
    | _ => exact .inl hmem
  · rintro (hmem | ⟨hrun, hend⟩)
    · exact st.captured_subset hmem
    · rcases st.stage_cases id with (heq | hm) | ⟨_, _, _, hasleep⟩
      · exact nomatch hrun.symm.trans (heq.symm.trans hend)
      · rw [hrun, hend] at hm
        cases hm with
        | capture h => exact st.captured_of_finish h
      · exact nomatch hasleep.symm.trans hend

/-- What has happened to a task, going by the stage of its timer. -/
def Told (s : Chronicle) (id : Nat) : TimerStage → Prop
  | .asleep | .awake => id ∉ s.claimed ∧ id ∉ s.begun ∧ ∀ outcome, (id, outcome) ∉ s.captured
  | .claimed => id ∈ s.claimed ∧ id ∉ s.begun ∧ ∀ outcome, (id, outcome) ∉ s.captured
  | .running => id ∈ s.claimed ∧ id ∈ s.begun ∧ ∀ outcome, (id, outcome) ∉ s.captured
  | .ended outcome => id ∈ s.claimed ∧ id ∈ s.begun ∧ ∀ o, (id, o) ∈ s.captured → o = outcome
  | .leaving | .gone => id ∈ s.claimed ↔ id ∈ s.begun

theorem told_congr (hclaimed : id ∈ s'.claimed ↔ id ∈ s.claimed)
    (hbegun : id ∈ s'.begun ↔ id ∈ s.begun)
    (hcaptured : ∀ outcome, (id, outcome) ∈ s'.captured ↔ (id, outcome) ∈ s.captured)
    (stage : TimerStage) : s'.Told id stage ↔ s.Told id stage := by
  cases stage <;> simp only [Told, hclaimed, hbegun, hcaptured]

theorem Told.claimed_of_begun {stage : TimerStage} (h : s.Told id stage) (hid : id ∈ s.begun) :
    id ∈ s.claimed := by
  cases stage with
  | asleep | awake | claimed => exact absurd hid h.2.1
  | running | ended => exact h.1
  | leaving | gone => exact h.mpr hid

structure Staged (s : Chronicle) : Prop where
  told : ∀ id, s.Told id (s.stage id)
  unborn : ∀ {id}, s.agenda.nextId ≤ id →
    s.stage id = .gone ∧ id ∉ s.claimed ∧ id ∉ s.begun ∧ ∀ outcome, (id, outcome) ∉ s.captured

theorem Staged.step (h : s.Staged) (st : Step s d s') : s'.Staged := by
  have hclaimed := st.mem_claimed_iff
  have hbegun := st.mem_begun_iff
  have hcaptured := st.mem_captured_iff
  refine ⟨fun id => ?_, fun {id} hge => ?_⟩
  · have htold := h.told id
    rcases st.stage_cases id with (heq | hm) | ⟨hid, _, _, hasleep⟩
    · rw [heq, told_congr]
      · exact htold
      · rw [hclaimed, heq]
        exact or_iff_left fun ⟨ha, hc⟩ => nomatch ha.symm.trans hc
      · rw [hbegun, heq]
        exact or_iff_left fun ⟨hc, hr⟩ => nomatch hc.symm.trans hr
      · intro outcome
        rw [hcaptured, heq]
        exact or_iff_left fun ⟨hr, he⟩ => nomatch hr.symm.trans he
    · have hclaimed := hclaimed id
      have hbegun := hbegun id
      have hcaptured := hcaptured id
      generalize s.stage id = old at *
      generalize s'.stage id = new at *
      cases hm <;> grind [Told]
    · obtain ⟨hgone, hunclaimed, hunbegun, huncaptured⟩ := h.unborn (Nat.le_of_eq hid.symm)
      rw [hasleep]
      simp [Told, hclaimed, hbegun, hcaptured, hgone, hunclaimed, hunbegun, huncaptured]
  · obtain ⟨hgone, hunclaimed, hunbegun, huncaptured⟩ := h.unborn (Nat.le_trans st.nextId_le hge)
    refine ⟨?_, ?_, ?_, fun outcome => ?_⟩
    · rcases st.stage_cases id with (heq | hm) | ⟨_, _, hn, _⟩
      · rw [heq, hgone]
      · rw [hgone] at hm
        exact nomatch hm
      · omega
    · simp [hclaimed, hgone, hunclaimed]
    · simp [hbegun, hgone, hunbegun]
    · simp [hcaptured, hgone, huncaptured]

theorem Reachable.staged (h : Reachable s) : s.Staged := by
  induction h with
  | start => exact ⟨fun _ => Iff.rfl, fun _ => ⟨rfl, nofun, nofun, nofun⟩⟩
  | next _ st ih => exact ih.step st

/-- The callable has ended with an outcome, and its thread has had the lock since. -/
def Concluded (s : Chronicle) (id : Nat) : Prop :=
  ∃ outcome, (id, outcome) ∈ s.captured ∧ s.stage id ≠ .ended outcome

theorem Staged.stage_of_concluded (h : s.Staged) (hc : s.Concluded id) :
    id < s.agenda.nextId ∧ (s.stage id = .leaving ∨ s.stage id = .gone) := by
  obtain ⟨outcome, hmem, hstage⟩ := hc
  refine ⟨?_, ?_⟩
  · by_contra hge
    exact (h.unborn (Nat.le_of_not_lt hge)).2.2.2 outcome hmem
  · have htold := h.told id
    cases hs : s.stage id with
    | leaving => exact .inl rfl
    | gone => exact .inr rfl
    | ended o =>
      rw [hs] at htold hstage
      exact absurd (congrArg _ (htold.2.2 outcome hmem).symm) hstage
    | asleep | awake | claimed | running =>
      rw [hs] at htold
      exact absurd hmem (htold.2.2 outcome)

theorem Concluded.step (hs : s.Staged) (h : s.Concluded id) (st : Step s d s') :
    s'.Concluded id := by
  obtain ⟨hlt, hstage⟩ := hs.stage_of_concluded h
  obtain ⟨outcome, hmem, hne⟩ := h
  refine ⟨outcome, st.captured_subset hmem, ?_⟩
  rcases st.stage_cases id with (heq | hm) | ⟨hid, _⟩
  · rwa [heq]
  · rcases hstage with hstage | hstage
    · rw [hstage] at hm
      intro hend
      rw [hend] at hm
      exact nomatch hm
    · rw [hstage] at hm
      exact nomatch hm
  · omega

theorem Step.concluded_cases (hs : s.Staged) (st : Step s d s') (h : s'.Concluded id) :
    s.Concluded id ∨ d = .store id := by
  obtain ⟨outcome, hmem, hne⟩ := h
  rcases (st.mem_captured_iff id outcome).mp hmem with hmem | ⟨_, hend⟩
  · by_cases hend : s.stage id = .ended outcome
    · rcases st.stage_cases id with (heq | hm) | ⟨hid, _⟩
      · exact absurd (heq.trans hend) hne
      · rw [hend] at hm
        generalize s'.stage id = new at hm
        cases hm with
        | store | discard => exact .inr rfl
      · exact absurd hmem ((hs.unborn (Nat.le_of_eq hid.symm)).2.2.2 outcome)
    · exact .inl ⟨outcome, hmem, hend⟩
  · exact absurd hend hne

/-- What is over is not pending. -/
structure Closed (s : Chronicle) : Prop where
  concluded : ∀ {id}, s.Concluded id → s.agenda.phase? id = none
  forgotten : ∀ {id}, id ∈ s.forgotten → id < s.agenda.nextId ∧ s.agenda.phase? id = none
  stopped : s.agenda.stopped = true → s.agenda.pending = []

theorem Step.phase?_of_shutdown (hc : s.Closed) (st : Step s .shutdown s') (id : Nat) :
    s'.agenda.phase? id = none := by
  cases st with
  | shutdownAgain h =>
    have hstopped : s.agenda.stopped = true := by simpa [Agenda.shutdown] using h
    simp [phase?, hc.stopped hstopped]
  | shutdown h =>
    obtain ⟨_, _, rfl⟩ := eq_of_shutdown h
    rfl

theorem Step.pending_of_stopped (hc : s.Closed) (st : Step s d s')
    (h : s'.agenda.stopped = true) : s'.agenda.pending = [] := by
  cases st with
  | accept hs =>
    obtain ⟨hrunning, _, rfl⟩ := eq_of_schedule hs
    exact nomatch hrunning.symm.trans h
  | claim _ hs =>
    obtain ⟨_, rfl⟩ := eq_of_claim hs
    simpa using hc.stopped h
  | store _ hs | discard _ hs | readNothing hs | read hs =>
    obtain rfl := congrArg Prod.snd hs
    have hpending := hc.stopped h
    simp [takePending, takeReader, withoutId, hpending]
  | cancel hs =>
    rcases cancel_cases hs with ⟨_, _, _, _, rfl⟩ | ⟨_, rfl⟩
    · exact hc.stopped h
    · have hpending := hc.stopped h
      simp [takePending, takeReader, withoutId, hpending]
  | shutdown hs =>
    obtain ⟨_, _, rfl⟩ := eq_of_shutdown hs
    rfl
  | _ => exact hc.stopped h

theorem Closed.step (h : s.Closed) (hs : s.Staged) (hf : s.Filed) (st : Step s d s') :
    s'.Closed where
  concluded hconcluded := by
    rcases st.concluded_cases hs hconcluded with hold | rfl
    · exact st.phase?_eq_none (hs.stage_of_concluded hold).1 (h.concluded hold)
    · exact st.phase?_of_store
  forgotten {id} hmem := by
    have hold (hmem : id ∈ s.forgotten) :
        id < s'.agenda.nextId ∧ s'.agenda.phase? id = none := by
      obtain ⟨hlt, hnone⟩ := h.forgotten hmem
      exact ⟨Nat.lt_of_lt_of_le hlt st.nextId_le, st.phase?_eq_none hlt hnone⟩
    cases st with
    | shutdown hs =>
      obtain ⟨_, _, rfl⟩ := eq_of_shutdown hs
      rcases List.mem_append.mp hmem with hmem | hmem
      · exact hold hmem
      · exact ⟨hf.lt (List.mem_filter.mp hmem).1, rfl⟩
    | _ => exact hold hmem
  stopped := st.pending_of_stopped h

theorem Reachable.closed (h : Reachable s) : s.Closed := by
  induction h with
  | start => exact ⟨fun _ => rfl, nofun, fun _ => rfl⟩
  | next h st ih => exact ih.step h.staged h.filed st

theorem Step.forgotten_subset (st : Step s d s') : s.forgotten ⊆ s'.forgotten := by
  cases st with
  | shutdown => exact List.subset_append_left _ _
  | _ => exact List.Subset.refl _

theorem Cancelled.step {wasPending : Bool} (h : s.Cancelled id wasPending) (st : Step s d s') :
    s'.Cancelled id wasPending := by
  obtain ⟨result, hmem, hresult⟩ := h
  refine ⟨result, ?_, hresult⟩
  rcases st.calls_cases with heq | ⟨_, _, _, heq⟩ | ⟨_, _, _, _, heq⟩ | ⟨_, _, _, _, _, heq⟩ |
    ⟨before, after, i, c, stage, hcalls, heq, _⟩
  · rwa [heq]
  · simp [heq, hmem]
  · simp [heq, hmem]
  · simp [heq, hmem]
  · simpa [heq, hcalls] using hmem

theorem Step.cancelled_of_cancel (st : Step s (.cancel id) s')
    (hp : s.agenda.isPending id = true) : s'.Cancelled id true := by
  cases st with
  | @cancel _ armed result agenda hc =>
    refine ⟨result, by simp [hp], ?_⟩
    rcases cancel_cases hc with ⟨_, _, _, rfl, _⟩ | ⟨rfl, _⟩
    · rfl
    · have hsome : (s.agenda.phase? id).isSome = true := hp
      simp [Cancellation.succeeded, hsome]

theorem Step.concluded_of_store (h : s.Carried) {outcome : Outcome Product}
    (st : Step s (.store id) s') (hs : s.stage id = .ended outcome) : s'.Concluded id := by
  refine ⟨outcome, st.captured_subset (h.ended hs), fun hend => ?_⟩
  cases st with
  | store | discard => simp at hend

theorem Reachable.reason (h : Reachable s) (hid : id ∈ s.accepted)
    (hnone : s.agenda.phase? id = none) :
    s.Cancelled id true ∨ id ∈ s.forgotten ∨ s.Concluded id := by
  induction h with
  | start => exact nomatch hid
  | @next s s' d h st ih =>
    by_cases hlt : id < s.agenda.nextId
    · have hold : id ∈ s.accepted := by
        rw [h.filed.accepted]
        exact List.mem_range.mpr hlt
      cases hp : s.agenda.phase? id with
      | none =>
        exact (ih hold hp).imp (fun hc => hc.step st)
          (Or.imp (fun hf => st.forgotten_subset hf) fun hc => hc.step h.staged st)
      | some phase =>
        have hpending : s.agenda.isPending id = true := isPending_iff_phase?.mpr (by simp [hp])
        rcases st.phase?_cases id with heq | ⟨_, ⟨_, hs, rfl⟩ | rfl | rfl⟩ | ⟨_, heq, _⟩ |
          ⟨_, _, heq⟩
        · exact nomatch hnone.symm.trans (heq.trans hp)
        · exact .inr (.inr (st.concluded_of_store h.carried hs))
        · exact .inl (st.cancelled_of_cancel hpending)
        · cases st with
          | shutdownAgain => exact nomatch hnone.symm.trans hp
          | shutdown => simp [hold, hpending]
        · exact nomatch hnone.symm.trans heq
        · rw [hp] at heq
          exact nomatch hnone.symm.trans heq
    · have hpending := (st.born (Nat.le_of_not_lt hlt) ((h.next st).filed.lt hid)).2
      exact absurd hnone (isPending_iff_phase?.mp hpending)

/-- A task is pending from its acceptance until it is cancelled, forgotten or concluded. -/
theorem Reachable.isPending_iff (h : Reachable s) : s.agenda.isPending id = true ↔
    id ∈ s.accepted ∧ ¬s.Cancelled id true ∧ id ∉ s.forgotten ∧ ¬s.Concluded id := by
  constructor
  · intro hp
    have hsome := isPending_iff_phase?.mp hp
    refine ⟨?_, fun hc => hsome (h.spent_of_cancelled hc).phase,
      fun hf => hsome (h.closed.forgotten hf).2, fun hc => hsome (h.closed.concluded hc)⟩
    by_contra hid
    rw [h.filed.accepted, List.mem_range] at hid
    exact hsome (h.filed.pending (Nat.le_of_not_lt hid))
  · rintro ⟨hid, hcancelled, hforgotten, hconcluded⟩
    by_contra hp
    rcases h.reason hid (by simpa using hp) with hc | hf | hc
    · exact hcancelled hc
    · exact hforgotten hf
    · exact hconcluded hc

theorem Step.nodup_pending (hf : s.Filed) (h : (s.agenda.pending.map Prod.fst).Nodup)
    (st : Step s d s') : (s'.agenda.pending.map Prod.fst).Nodup := by
  have hwithout (id : Nat) : ((withoutId id s.agenda.pending).map Prod.fst).Nodup :=
    h.sublist (List.filter_sublist.map _)
  cases st with
  | accept hs =>
    obtain ⟨_, _, rfl⟩ := eq_of_schedule hs
    have hnew : s.agenda.nextId ∉ s.agenda.pending.map Prod.fst := by
      rw [← Agenda.isPending_iff, isPending_iff_phase?]
      exact not_not_intro (hf.pending (Nat.le_refl _))
    simpa [List.nodup_append] using ⟨h, fun a phase hmem ha =>
      hnew (ha ▸ List.mem_map.mpr ⟨_, hmem, rfl⟩)⟩
  | @claim id _ _ hs =>
    obtain ⟨_, rfl⟩ := eq_of_claim hs
    have hids : Prod.fst ∘ (fun e : Nat × PendingPhase => if e.1 = id then (id, .running) else e) =
        Prod.fst := by
      funext e
      by_cases he : e.1 = id <;> simp [he]
    rwa [List.map_map, hids]
  | store _ hs | discard _ hs =>
    obtain rfl := congrArg Prod.snd hs
    exact hwithout _
  | readNothing hs | read hs =>
    obtain rfl := congrArg Prod.snd hs
    exact h
  | cancel hs =>
    rcases cancel_cases hs with ⟨_, _, _, _, rfl⟩ | ⟨_, rfl⟩
    · exact h
    · exact hwithout _
  | shutdown hs =>
    obtain ⟨_, _, rfl⟩ := eq_of_shutdown hs
    exact List.nodup_nil
  | _ => exact h

theorem Reachable.nodup_pending (h : Reachable s) : (s.agenda.pending.map Prod.fst).Nodup := by
  induction h with
  | start => exact List.nodup_nil
  | next h st ih => exact st.nodup_pending h.filed ih

theorem Reachable.pendingCount (h : Reachable s) :
    s.agenda.pendingCount = (s.accepted.filter s.agenda.isPending).length := by
  have hperm : (s.agenda.pending.map Prod.fst).Perm (s.accepted.filter s.agenda.isPending) := by
    refine (List.perm_ext_iff_of_nodup h.nodup_pending ?_).mpr fun id => ?_
    · rw [h.filed.accepted]
      exact List.nodup_range.filter _
    · rw [List.mem_filter, ← Agenda.isPending_iff]
      exact ⟨fun hp => ⟨(h.isPending_iff.mp hp).1, hp⟩, And.right⟩
  simpa [Agenda.pendingCount] using hperm.length_eq

theorem Reachable.nodup_begun (h : Reachable s) : s.begun.Nodup := by
  induction h with
  | start => exact List.nodup_nil
  | next h st ih =>
    cases st with
    | @start id hs =>
      have htold := h.staged.told id
      rw [hs] at htold
      simpa [List.nodup_append] using ⟨ih, fun a hmem (ha : a = id) => htold.2.1 (ha ▸ hmem)⟩
    | _ => exact ih

theorem Step.claimed_of_begun (h : s.Staged) (st : Step s d s') (hmem : id ∈ s'.begun)
    (hnew : id ∉ s.begun) : d = .start id ∧ id ∈ s.claimed := by
  cases st with
  | @start i hs =>
    obtain rfl : id = i := by simpa [hnew] using hmem
    have htold := h.told id
    rw [hs] at htold
    exact ⟨rfl, htold.1⟩
  | _ => exact absurd hmem hnew

theorem Reachable.begins (h : Reachable s) (hid : id ∈ s.claimed) :
    id ∈ s.begun ∨ ∃ s', Step s (.start id) s' := by
  have htold := h.staged.told id
  cases hs : s.stage id with
  | asleep | awake =>
    rw [hs] at htold
    exact absurd hid htold.1
  | claimed => exact .inr ⟨_, .start hs⟩
  | running | ended =>
    rw [hs] at htold
    exact .inl htold.2.1
  | leaving | gone =>
    rw [hs] at htold
    exact .inl (htold.mp hid)

theorem Reachable.never_begun (h : Reachable s) (hid : id < s.agenda.nextId)
    (hnone : s.agenda.phase? id = none) (hunclaimed : id ∉ s.claimed) (hl : Leads Step s t) :
    id ∉ t.begun := by
  have hkept := hl.keep (P := fun t => id < t.agenda.nextId ∧ t.agenda.phase? id = none ∧
    id ∉ t.claimed ∧ id ∉ t.begun) .next ?_ h ?_
  · exact hkept.2.2.2.2
  · intro s d s' hr st ⟨hid, hnone, hunclaimed, hunbegun⟩
    refine ⟨Nat.lt_of_lt_of_le hid st.nextId_le, st.phase?_eq_none hid hnone, fun hmem => ?_,
      fun hmem => hunclaimed (st.claimed_of_begun hr.staged hmem hunbegun).2⟩
    have hp := (st.isPending_of_claimed hmem hunclaimed).2.1
    simp [isPending, hnone] at hp
  · exact ⟨hid, hnone, hunclaimed, fun hbegun =>
      hunclaimed ((h.staged.told id).claimed_of_begun hbegun)⟩

/-- Every read of the id that has been answered came away with nothing. -/
def Unheard (s : Chronicle) (id : Nat) : Prop :=
  ∀ reader answer, .read id reader (.answered answer) ∈ s.calls → answer = .error (.notFound id)

theorem Reachable.unheard_of_isPending (h : Reachable s) (hp : s.agenda.isPending id = true) :
    s.Unheard id := by
  intro reader answer hmem
  rcases h.carried.answered hmem with heq | ⟨outcome, _, rfl⟩
  · exact heq
  · rcases answer_cases id outcome with ⟨_, hanswer⟩ | ⟨_, hwins⟩
    · exact hanswer
    · have hpos : 0 < s.calls.countP (TaskCall.wins id) :=
        List.countP_pos_iff.mpr ⟨_, hmem, hwins reader⟩
      rcases h.won id with hzero | ⟨_, hspent⟩
      · omega
      · simp [isPending, hspent.phase] at hp

theorem Unheard.step (h : s.Unheard id) (hf : s.Filed)
    (hunread : ∀ outcome, s.channels id ≠ .ready outcome) (st : Step s d s') : s'.Unheard id := by
  intro reader answer hmem
  rcases st.read_cases hmem with hmem | ⟨_, _, ⟨_, heq⟩ | ⟨_, heq⟩⟩ | ⟨c, rfl, hwaits, hstage⟩
  · exact h _ _ hmem
  · exact ReadStage.answered.inj heq
  · exact nomatch heq
  · rcases hstage with heq | ⟨outcome, heq, hjoin⟩
    · exact nomatch heq
    · obtain rfl := ReadStage.answered.inj heq
      obtain ⟨rfl, _⟩ := hf.taken hwaits
      rcases Channel.join_cases hjoin with ⟨hready, _⟩ | ⟨rfl, _⟩
      · exact absurd hready (hunread outcome)
      · rfl

/-- A task that is given up while it is pending delivers its outcome to nobody. -/
theorem Reachable.unheard_of_given_up (h : Reachable s) (hp : s.agenda.isPending id = true)
    (st : Step s d s') (hnone : s'.agenda.phase? id = none) (hd : d ≠ .store id)
    (hl : Leads Step s' t) : t.Unheard id := by
  have hsome := isPending_iff_phase?.mp hp
  have hunread : ∀ outcome, s.channels id ≠ .ready outcome :=
    fun outcome hr => hsome (h.carried.ready hr).2.2
  have hunread' : ∀ outcome, s'.channels id ≠ .ready outcome := fun outcome hr => by
    rcases st.ready_cases hr with hr | ⟨_, _, hstore⟩
    · exact hunread outcome hr
    · exact hd hstore
  have hlt : id < s'.agenda.nextId :=
    Nat.lt_of_lt_of_le (h.filed.lt (h.isPending_iff.mp hp).1) st.nextId_le
  refine (hl.keep (P := fun t => id < t.agenda.nextId ∧ t.agenda.phase? id = none ∧
    (∀ outcome, t.channels id ≠ .ready outcome) ∧ t.Unheard id) .next ?_ (h.next st)
    ⟨hlt, hnone, hunread', (h.unheard_of_isPending hp).step h.filed hunread st⟩).2.2.2.2
  intro s d s' hr st ⟨hlt, hnone, hunread, hunheard⟩
  refine ⟨Nat.lt_of_lt_of_le hlt st.nextId_le, st.phase?_eq_none hlt hnone, fun outcome hr' => ?_,
    hunheard.step hr.filed hunread st⟩
  rcases st.ready_cases hr' with hr' | ⟨_, hp, _⟩
  · exact hunread outcome hr'
  · simp [isPending, hnone] at hp

/-- The callable is over, and left no outcome. -/
structure Lost (s : Chronicle) (id : Nat) : Prop where
  lt : id < s.agenda.nextId
  stage : s.stage id = .leaving ∨ s.stage id = .gone
  uncaptured : ∀ outcome, (id, outcome) ∉ s.captured

theorem Lost.step (h : s.Lost id) (st : Step s d s') : s'.Lost id where
  lt := Nat.lt_of_lt_of_le h.lt st.nextId_le
  stage := by
    rcases st.stage_cases id with (heq | hm) | ⟨hid, _⟩
    · rw [heq]
      exact h.stage
    · rcases h.stage with hs | hs
      · rw [hs] at hm
        generalize s'.stage id = new at hm
        cases hm with
        | release => exact .inr rfl
      · rw [hs] at hm
        exact nomatch hm
    · exact absurd hid (Nat.ne_of_lt h.lt)
  uncaptured outcome hmem := by
    rcases (st.mem_captured_iff id outcome).mp hmem with hmem | ⟨hrun, _⟩
    · exact h.uncaptured outcome hmem
    · rcases h.stage with hs | hs <;> exact nomatch hrun.symm.trans hs

theorem Reachable.lost_of_escape {ending : Ending Product} (h : Reachable s)
    (hc : ending.capture = none) (st : Step s (.finish id ending) s') : s'.Lost id := by
  cases st with
  | capture _ h' => exact nomatch hc.symm.trans h'
  | escape hs =>
    have htold := h.staged.told id
    rw [hs] at htold
    refine ⟨?_, .inl (by simp), htold.2.2⟩
    by_contra hge
    exact nomatch (h.staged.unborn (Nat.le_of_not_lt hge)).1.symm.trans hs

theorem Reachable.isPending_of_lost (h : Reachable s) (hlost : s.Lost id) :
    s.agenda.isPending id = true ↔ ¬s.Cancelled id true ∧ id ∉ s.forgotten := by
  have hid : id ∈ s.accepted := by
    rw [h.filed.accepted]
    exact List.mem_range.mpr hlost.lt
  have hconcluded : ¬s.Concluded id := fun ⟨outcome, hmem, _⟩ => hlost.uncaptured outcome hmem
  rw [h.isPending_iff]
  exact ⟨fun hp => ⟨hp.2.1, hp.2.2.1⟩, fun hp => ⟨hid, hp.1, hp.2, hconcluded⟩⟩

/-- A task is pending from its acceptance until it is cancelled, or the scheduler is shut
down, while it is pending, or its callable has ended with an outcome that was captured and the
thread of the callable has had the lock since: an id whose callable has ended but whose thread
has not yet had the lock is still pending. A callable begins once at most, and only after its
timer has claimed the id while the task was pending. What is given up before that never begins.
What is given up later runs on, and is heard of by nobody. -/
theorem pending_until_ended (h : Reachable s) :
    (∀ id, s.agenda.isPending id = true ↔
      id ∈ s.accepted ∧ ¬s.Cancelled id true ∧ id ∉ s.forgotten ∧ ¬s.Concluded id) ∧
    (∀ id, (∀ outcome, s.stage id ≠ .ended outcome) →
      (s.agenda.isPending id = true ↔ id ∈ s.accepted ∧ ¬s.Cancelled id true ∧
        id ∉ s.forgotten ∧ ∀ outcome, (id, outcome) ∉ s.captured)) ∧
    s.agenda.pendingCount = (s.accepted.filter s.agenda.isPending).length ∧
    s.begun.Nodup ∧
    (∀ {d s'}, Step s d s' → ∀ id,
      (id ∈ s'.begun → id ∈ s.begun ∨ d = .start id ∧ id ∈ s.claimed) ∧
      (id ∈ s'.claimed → id ∈ s.claimed ∨ d = .claim id ∧ s.agenda.isPending id = true ∧
        s'.agenda.phase? id = some .running)) ∧
    (∀ {id}, id ∈ s.claimed → id ∈ s.begun ∨ ∃ s', Step s (.start id) s') ∧
    (∀ {id d s' t}, id ∈ s.accepted → d = .cancel id ∨ d = .shutdown → Step s d s' →
      Leads Step s' t → s'.agenda.isPending id = false ∧
      (id ∉ s.claimed → id ∉ t.begun) ∧
      (id ∈ s.claimed → s'.stage id = s.stage id ∧
        (s.agenda.isPending id = true → t.Unheard id))) ∧
    ∀ {id ending s' t}, ending.capture = none → Step s (.finish id ending) s' →
      Leads Step s' t →
      (t.agenda.isPending id = true ↔ ¬t.Cancelled id true ∧ id ∉ t.forgotten) := by
  refine ⟨fun id => h.isPending_iff, fun id hs => ?_, h.pendingCount, h.nodup_begun,
    fun st id => ⟨fun hmem => ?_, fun hmem => ?_⟩, fun hid => h.begins hid,
    fun {id d s' t} hid hd st hl => ?_, fun {id ending s' t} hc st hl => ?_⟩
  · have hconcluded : ¬s.Concluded id ↔ ∀ outcome, (id, outcome) ∉ s.captured :=
      ⟨fun hc outcome hmem => hc ⟨outcome, hmem, hs outcome⟩,
        fun hc ⟨outcome, hmem, _⟩ => hc outcome hmem⟩
    rw [← hconcluded]
    exact h.isPending_iff
  · exact or_iff_not_imp_left.mpr fun hnew => st.claimed_of_begun h.staged hmem hnew
  · refine or_iff_not_imp_left.mpr fun hnew => ?_
    obtain ⟨hd, hp, hphase, _⟩ := st.isPending_of_claimed hmem hnew
    exact ⟨hd, hp, hphase⟩
  · have hnone : s'.agenda.phase? id = none := by
      rcases hd with rfl | rfl
      · exact h.phase?_of_cancel st
      · exact st.phase?_of_shutdown h.closed id
    have hlt : id < s'.agenda.nextId := Nat.lt_of_lt_of_le (h.filed.lt hid) st.nextId_le
    refine ⟨by simpa using hnone, fun hunclaimed => ?_, fun hclaimed => ⟨?_, fun hp => ?_⟩⟩
    · refine (h.next st).never_begun hlt hnone (fun hmem => ?_) hl
      have hclaim := (st.isPending_of_claimed hmem hunclaimed).1
      rcases hd with rfl | rfl <;> exact nomatch hclaim
    · rcases hd with rfl | rfl <;> cases st <;> rfl
    · refine h.unheard_of_given_up hp st hnone ?_ hl
      rcases hd with rfl | rfl <;> nofun
  · have hlost : t.Lost id :=
      hl.preserve (P := fun t => t.Lost id) Lost.step (h.lost_of_escape hc st)
    exact ((h.next st).leads hl).isPending_of_lost hlost

/-- A task is cancelled when its timer has just claimed it: it runs to its end unheard. -/
theorem pending_until_ended_claimed : ∃ s s' t, Reachable s ∧ Step s (.cancel 0) s' ∧
    Leads Step s' t ∧ 0 ∈ s.claimed ∧ s.agenda.pendingCount = 2 ∧
    s.agenda.isPending 0 = true ∧ s'.agenda.isPending 0 = false ∧ t.begun = [0] ∧
    t.captured = [(0, .ok (.plain .null))] ∧ t.Unheard 0 := by
  have h₁ := Reachable.start.next (d := .schedule) (.accept rfl)
  have h₂ := h₁.next (d := .schedule) (.accept rfl)
  have h₃ := h₂.next (d := .wake 0) (.wake rfl)
  have h₄ := h₃.next (d := .claim 0) (.claim rfl rfl)
  have h₅ := h₄.next (@Step.cancel _ 0 true _ _ rfl)
  have l₁ := h₅.leads_self.next (d := .start 0) (.start rfl)
  have l₂ := l₁.next (d := .finish 0 (.returned (.plain .null))) (.capture rfl rfl)
  have l₃ := l₂.next (d := .store 0) (.discard rfl rfl)
  obtain ⟨_, _, _, _, _, _, hgiven, _⟩ := pending_until_ended h₄
  obtain ⟨hp, _, hclaimed⟩ := hgiven (List.Mem.head _) (.inl rfl) (@Step.cancel _ 0 true _ _ rfl) l₃
  exact ⟨_, _, _, h₄, @Step.cancel _ 0 true _ _ rfl, l₃, List.Mem.head _, rfl, rfl, hp, rfl, rfl,
    (hclaimed (List.Mem.head _)).2 rfl⟩

end Chronicle
end TaskEngine
