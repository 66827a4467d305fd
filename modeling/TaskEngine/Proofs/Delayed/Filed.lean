import TaskEngine.Proofs.Delayed.Chronicle

/-! What one deed can do to the entries of an id and to the channel of its task. An id that
has lost an entry never gets it back. -/

namespace TaskEngine

namespace Channel

variable {α : Type} {c c' : Channel α} {outcome o : Outcome α}

theorem join_cases (h : c.join = some (outcome, c')) :
    c = .ready outcome ∧ c' = .closed ∨
      outcome = .error .discarded ∧ c' = c ∧ ∀ o, c ≠ .ready o := by
  cases c with
  | empty => exact nomatch h
  | ready o =>
    obtain ⟨rfl, rfl⟩ := Prod.mk.inj (Option.some.inj h)
    exact .inl ⟨rfl, rfl⟩
  | closed | abandoned =>
    obtain ⟨rfl, rfl⟩ := Prod.mk.inj (Option.some.inj h)
    exact .inr ⟨rfl, rfl, nofun⟩

theorem complete_eq_ready (h : (c.complete outcome).1 = .ready o) :
    c = .empty ∧ outcome = o ∨ c = .ready o := by
  cases c with
  | empty => exact .inl ⟨rfl, Channel.ready.inj h⟩
  | ready | closed | abandoned => exact .inr h

theorem dropProducer_eq_ready (h : c.dropProducer = .ready o) : c = .ready o := by
  cases c with
  | empty => exact nomatch h
  | ready | closed | abandoned => exact h

end Channel

namespace Chronicle

open Agenda Function

variable {s s' t : Chronicle} {d : Deed} {id j : Nat}

theorem channelsWithout_cases (s : Chronicle) (id j : Nat) :
    s.channelsWithout id j = s.channels j ∨
      s.agenda.reader? id = some j ∧ s.channelsWithout id j = .abandoned := by
  cases hc : s.agenda.reader? id with
  | none => simp [channelsWithout, hc]
  | some c =>
    by_cases hj : j = c
    · simp [channelsWithout, hc, hj]
    · simp [channelsWithout, hc, hj]

theorem Step.nextId_cases (st : Step s d s') :
    s'.agenda.nextId = s.agenda.nextId ∧ s'.accepted = s.accepted ∨
      d = .schedule ∧ s'.agenda.nextId = s.agenda.nextId + 1 ∧
        s'.accepted = s.accepted ++ [s.agenda.nextId] := by
  cases st with
  | accept h =>
    obtain ⟨_, rfl, rfl⟩ := eq_of_schedule h
    exact .inr ⟨rfl, rfl, rfl⟩
  | claim hs h =>
    obtain ⟨_, rfl⟩ := eq_of_claim h
    exact .inl ⟨rfl, rfl⟩
  | store hs h | discard hs h | readNothing h | read h =>
    obtain rfl := congrArg Prod.snd h
    exact .inl ⟨rfl, rfl⟩
  | cancel h =>
    rcases cancel_cases h with ⟨_, _, _, _, rfl⟩ | ⟨_, rfl⟩ <;> exact .inl ⟨rfl, rfl⟩
  | shutdown h =>
    obtain ⟨_, _, rfl⟩ := eq_of_shutdown h
    exact .inl ⟨rfl, rfl⟩
  | _ => exact .inl ⟨rfl, rfl⟩

theorem Step.nextId_le (st : Step s d s') : s.agenda.nextId ≤ s'.agenda.nextId := by
  rcases st.nextId_cases with h | ⟨_, h, _⟩ <;> omega

theorem Step.phase?_cases (st : Step s d s') (j : Nat) :
    s'.agenda.phase? j = s.agenda.phase? j ∨
      s'.agenda.phase? j = none ∧ ((∃ o, s.stage j = .ended o ∧ d = .store j) ∨
        d = .cancel j ∨ d = .shutdown) ∨
      s.agenda.isPending j = true ∧ s'.agenda.phase? j = some .running ∧ d = .claim j ∨
      j = s.agenda.nextId ∧ s'.agenda.nextId = j + 1 ∧
        s'.agenda.phase? j = (s.agenda.phase? j).or (some .waiting) := by
  cases st with
  | @accept id agenda h =>
    have hphase : agenda.phase? j = _ := phase?_schedule h
    obtain ⟨_, rfl, rfl⟩ := eq_of_schedule h
    by_cases hj : j = s.agenda.nextId
    · exact .inr (.inr (.inr ⟨hj, by simp [hj], by simpa [hj] using hphase⟩))
    · exact .inl (by simpa [hj] using hphase)
  | @claim id agenda hs h =>
    have hphase : agenda.phase? j = _ := phase?_claim h
    by_cases hj : j = id
    · subst hj
      exact .inr (.inr (.inl ⟨(eq_of_claim h).1, by simpa using hphase, rfl⟩))
    · exact .inl (by simpa [hj] using hphase)
  | @store id outcome phase agenda hs h | @discard id outcome agenda hs h =>
    obtain rfl := congrArg Prod.snd h
    by_cases hj : j = id
    · subst hj
      exact .inr (.inl ⟨by simp, .inl ⟨outcome, hs, rfl⟩⟩)
    · exact .inl (by simp [hj])
  | readNothing h | read h =>
    obtain rfl := congrArg Prod.snd h
    exact .inl (by simp)
  | @cancel id armed result agenda h =>
    rcases cancel_cases h with ⟨_, _, _, _, rfl⟩ | ⟨_, rfl⟩
    · exact .inl (by simp)
    · by_cases hj : j = id
      · subst hj
        exact .inr (.inl ⟨by simp, .inr (.inl rfl)⟩)
      · exact .inl (by simp [hj])
  | shutdown h =>
    obtain ⟨_, _, rfl⟩ := eq_of_shutdown h
    exact .inr (.inl ⟨rfl, .inr (.inr rfl)⟩)
  | _ => exact .inl rfl

theorem Step.reader?_cases (st : Step s d s') (j : Nat) :
    s'.agenda.reader? j = s.agenda.reader? j ∨
      s'.agenda.reader? j = none ∧ (d = .read j ∨ d = .cancel j) ∨
      j = s.agenda.nextId ∧ s'.agenda.nextId = j + 1 ∧
        s'.agenda.reader? j = (s.agenda.reader? j).or (some j) := by
  cases st with
  | @accept id agenda h =>
    have hreader : agenda.reader? j = _ := reader?_schedule h
    obtain ⟨_, rfl, rfl⟩ := eq_of_schedule h
    by_cases hj : j = s.agenda.nextId
    · exact .inr (.inr ⟨hj, by simp [hj], by simpa [hj] using hreader⟩)
    · exact .inl (by simpa [hj] using hreader)
  | claim hs h =>
    obtain ⟨_, rfl⟩ := eq_of_claim h
    exact .inl rfl
  | store hs h | discard hs h =>
    obtain rfl := congrArg Prod.snd h
    exact .inl (by simp)
  | @readNothing id agenda h | @read id c agenda h =>
    obtain rfl := congrArg Prod.snd h
    by_cases hj : j = id
    · subst hj
      exact .inr (.inl ⟨by simp, .inl rfl⟩)
    · exact .inl (by simp [hj])
  | @cancel id armed result agenda h =>
    have hreader : agenda.reader? j = _ := reader?_cancel h
    by_cases hj : j = id
    · subst hj
      exact .inr (.inl ⟨by simpa using hreader, .inr rfl⟩)
    · exact .inl (by simpa [hj] using hreader)
  | shutdown h =>
    obtain ⟨_, _, rfl⟩ := eq_of_shutdown h
    exact .inl rfl
  | _ => exact .inl rfl

theorem Step.channels_cases (st : Step s d s') (j : Nat) :
    s'.channels j = s.channels j ∨
      j = s.agenda.nextId ∧ d = .schedule ∧ s'.channels j = .empty ∨
      (∃ o, s.stage j = .ended o ∧ s.agenda.isPending j = true ∧ d = .store j ∧
        s'.channels j = ((s.channels j).complete o).1) ∨
      s.stage j = .leaving ∧ d = .release j ∧ s'.channels j = (s.channels j).dropProducer ∨
      (∃ o, (s.channels j).join = some (o, s'.channels j)) ∨
      s'.channels j = .abandoned := by
  cases st with
  | accept h =>
    obtain ⟨_, rfl, _⟩ := eq_of_schedule h
    by_cases hj : j = s.agenda.nextId
    · exact .inr (.inl ⟨hj, rfl, by simp [hj]⟩)
    · exact .inl (by simp [hj])
  | @store id outcome phase agenda hs h =>
    by_cases hj : j = id
    · subst hj
      have hp : s.agenda.phase? j = some phase := congrArg Prod.fst h
      exact .inr (.inr (.inl ⟨outcome, hs, by simp [isPending, hp], rfl, by simp⟩))
    · exact .inl (by simp [hj])
  | @release id hs =>
    by_cases hj : j = id
    · subst hj
      exact .inr (.inr (.inr (.inl ⟨hs, rfl, by simp⟩)))
    · exact .inl (by simp [hj])
  | @receive before after id c outcome channel hc h =>
    by_cases hj : j = c
    · subst hj
      exact .inr (.inr (.inr (.inr (.inl ⟨outcome, by simpa using h⟩))))
    · exact .inl (by simp [hj])
  | @giveUp before after id c hc =>
    by_cases hj : j = c
    · exact .inr (.inr (.inr (.inr (.inr (by simp [hj])))))
    · exact .inl (by simp [hj])
  | @cancel id armed result agenda h =>
    rcases s.channelsWithout_cases id j with hj | ⟨_, hj⟩
    · exact .inl hj
    · exact .inr (.inr (.inr (.inr (.inr hj))))
  | _ => exact .inl rfl

/-- An outcome gets into a channel only where the task is pending, and then goes to it. -/
theorem Step.ready_cases {outcome : Outcome Product} (st : Step s d s')
    (hr : s'.channels j = .ready outcome) :
    s.channels j = .ready outcome ∨
      s.stage j = .ended outcome ∧ s.agenda.isPending j = true ∧ d = .store j := by
  rcases st.channels_cases j with heq | ⟨_, _, heq⟩ | ⟨o, hs, hp, rfl, heq⟩ | ⟨_, _, heq⟩ |
    ⟨o, heq⟩ | heq
  · exact .inl (heq ▸ hr)
  · exact nomatch heq.symm.trans hr
  · rcases Channel.complete_eq_ready (heq.symm.trans hr) with ⟨_, rfl⟩ | hready
    · exact .inr ⟨hs, hp, rfl⟩
    · exact .inl hready
  · exact .inl (Channel.dropProducer_eq_ready (heq.symm.trans hr))
  · rcases Channel.join_cases heq with ⟨_, hclosed⟩ | ⟨_, hsame, hnot⟩
    · exact nomatch hclosed.symm.trans hr
    · exact absurd (hsame.symm.trans hr) (hnot outcome)
  · exact nomatch heq.symm.trans hr

/-- A call is added at the end, or a read that waits ends in its place, with an outcome of
its channel or with none. -/
theorem Step.calls_cases (st : Step s d s') :
    s'.calls = s.calls ∨
      (∃ id, d = .read id ∧ s.agenda.reader? id = none ∧
        s'.calls = s.calls ++ [.read id none (.answered (.error (.notFound id)))]) ∨
      (∃ id c, d = .read id ∧ s.agenda.reader? id = some c ∧
        s'.calls = s.calls ++ [.read id (some c) .waiting]) ∨
      (∃ id armed result, d = .cancel id ∧ s.agenda.cancel (s.dropPanics armed) id =
          (result, s'.agenda) ∧
        s'.calls = s.calls ++ [.cancel id (s.agenda.isPending id) result]) ∨
      ∃ before after id c stage, s.calls = before ++ .read id (some c) .waiting :: after ∧
        s'.calls = before ++ .read id (some c) stage :: after ∧
        (stage = .abandoned ∨ ∃ outcome, stage = .answered (TaskCall.answer id outcome) ∧
          (s.channels c).join = some (outcome, s'.channels c)) := by
  cases st with
  | @readNothing id agenda h =>
    exact .inr (.inl ⟨id, rfl, congrArg Prod.fst h, rfl⟩)
  | @read id c agenda h =>
    exact .inr (.inr (.inl ⟨id, c, rfl, congrArg Prod.fst h, rfl⟩))
  | @cancel id armed result agenda h =>
    exact .inr (.inr (.inr (.inl ⟨id, armed, result, rfl, h, rfl⟩)))
  | @receive before after id c outcome channel hc h =>
    exact .inr (.inr (.inr (.inr
      ⟨before, after, id, c, _, hc, rfl, .inr ⟨outcome, rfl, by simpa using h⟩⟩)))
  | @giveUp before after id c hc =>
    exact .inr (.inr (.inr (.inr ⟨before, after, id, c, _, hc, rfl, .inl rfl⟩)))
  | _ => exact .inl rfl

theorem Step.read_cases {reader : Option Nat} {stage : ReadStage} (st : Step s d s')
    (h : .read id reader stage ∈ s'.calls) :
    .read id reader stage ∈ s.calls ∨
      d = .read id ∧ s.agenda.reader? id = reader ∧
        (reader = none ∧ stage = .answered (.error (.notFound id)) ∨
          reader.isSome = true ∧ stage = .waiting) ∨
      ∃ c, reader = some c ∧ .read id reader .waiting ∈ s.calls ∧
        (stage = .abandoned ∨ ∃ outcome, stage = .answered (TaskCall.answer id outcome) ∧
          (s.channels c).join = some (outcome, s'.channels c)) := by
  rcases st.calls_cases with heq | ⟨i, rfl, hr, heq⟩ | ⟨i, c, rfl, hr, heq⟩ |
    ⟨i, armed, result, _, _, heq⟩ | ⟨before, after, i, c, stage', hc, heq, hstage⟩
  · exact .inl (heq ▸ h)
  · rw [heq, List.mem_append, List.mem_singleton] at h
    rcases h with h | hnew
    · exact .inl h
    · obtain ⟨rfl, rfl, rfl⟩ := TaskCall.read.inj hnew
      exact .inr (.inl ⟨rfl, hr, .inl ⟨rfl, rfl⟩⟩)
  · rw [heq, List.mem_append, List.mem_singleton] at h
    rcases h with h | hnew
    · exact .inl h
    · obtain ⟨rfl, rfl, rfl⟩ := TaskCall.read.inj hnew
      exact .inr (.inl ⟨rfl, hr, .inr ⟨rfl, rfl⟩⟩)
  · exact .inl (by simpa [heq] using h)
  · simp only [heq, List.mem_append, List.mem_cons] at h
    rcases h with h | hnew | h
    · exact .inl (by simp [hc, h])
    · obtain ⟨rfl, rfl, rfl⟩ := TaskCall.read.inj hnew
      exact .inr (.inr ⟨c, rfl, by simp [hc], hstage⟩)
    · exact .inl (by simp [hc, h])

theorem Step.reader?_of_read (st : Step s (.read id) s') : s'.agenda.reader? id = none := by
  cases st with
  | readNothing h | read h =>
    obtain rfl := congrArg Prod.snd h
    simp

theorem Step.reader?_of_cancel (st : Step s (.cancel id) s') : s'.agenda.reader? id = none := by
  cases st with
  | @cancel _ _ _ agenda h =>
    have hreader : agenda.reader? id = _ := reader?_cancel h
    simpa using hreader

/-- What a deed that is about a task does to its timer and its callable. -/
inductive Moves (id : Nat) : Deed → TimerStage → TimerStage → Prop
  | wake : Moves id (.wake id) .asleep .awake
  | abort : Moves id (.abort id) .asleep .leaving
  | claim : Moves id (.claim id) .awake .claimed
  | skip : Moves id (.claim id) .awake .leaving
  | start : Moves id (.start id) .claimed .running
  | capture {ending outcome} (h : ending.capture = some outcome) :
      Moves id (.finish id ending) .running (.ended outcome)
  | escape {ending} (h : ending.capture = none) : Moves id (.finish id ending) .running .leaving
  | store {outcome} : Moves id (.store id) (.ended outcome) .gone
  | discard {outcome} : Moves id (.store id) (.ended outcome) .leaving
  | release : Moves id (.release id) .leaving .gone

theorem Moves.update {i : Nat} {stages : Nat → TimerStage} {stage old : TimerStage}
    (hm : Moves i d old stage) (hs : stages i = old) (j : Nat) :
    update stages i stage j = stages j ∨ Moves j d (stages j) (update stages i stage j) := by
  by_cases hj : j = i
  · subst hj
    rw [update_self, hs]
    exact .inr hm
  · exact .inl (update_of_ne hj _ _)

theorem Step.stage_cases (st : Step s d s') (j : Nat) :
    (s'.stage j = s.stage j ∨ Moves j d (s.stage j) (s'.stage j)) ∨
      j = s.agenda.nextId ∧ d = .schedule ∧ s'.agenda.nextId = j + 1 ∧ s'.stage j = .asleep := by
  cases st with
  | accept h =>
    obtain ⟨_, rfl, rfl⟩ := eq_of_schedule h
    by_cases hj : j = s.agenda.nextId
    · exact .inr ⟨hj, rfl, by simp [hj], by simp [hj]⟩
    · exact .inl (.inl (update_of_ne hj _ _))
  | wake hs => exact .inl (Moves.wake.update hs j)
  | abort hs => exact .inl (Moves.abort.update hs j)
  | claim hs => exact .inl (Moves.claim.update hs j)
  | skip hs => exact .inl (Moves.skip.update hs j)
  | start hs => exact .inl (Moves.start.update hs j)
  | capture hs h => exact .inl ((Moves.capture h).update hs j)
  | escape hs h => exact .inl ((Moves.escape h).update hs j)
  | store hs => exact .inl (Moves.store.update hs j)
  | discard hs => exact .inl (Moves.discard.update hs j)
  | release hs => exact .inl (Moves.release.update hs j)
  | _ => exact .inl (.inl rfl)

/-- The entries of the agenda belong to accepted tasks, and the reader of a task is its own. -/
structure Filed (s : Chronicle) : Prop where
  accepted : s.accepted = List.range s.agenda.nextId
  pending : ∀ {id}, s.agenda.nextId ≤ id → s.agenda.phase? id = none
  reader : ∀ {id c}, s.agenda.reader? id = some c → c = id ∧ id < s.agenda.nextId
  taken : ∀ {id c stage}, .read id (some c) stage ∈ s.calls →
    c = id ∧ id < s.agenda.nextId ∧ s.agenda.reader? id = none

theorem Step.phase?_eq_none (st : Step s d s') (hid : id < s.agenda.nextId)
    (h : s.agenda.phase? id = none) : s'.agenda.phase? id = none := by
  rcases st.phase?_cases id with heq | ⟨hnone, _⟩ | ⟨hp, _⟩ | ⟨rfl, _⟩
  · rw [heq, h]
  · exact hnone
  · simp [isPending, h] at hp
  · omega

theorem Step.reader?_eq_none (st : Step s d s') (hid : id < s.agenda.nextId)
    (h : s.agenda.reader? id = none) : s'.agenda.reader? id = none := by
  rcases st.reader?_cases id with heq | ⟨hnone, _⟩ | ⟨rfl, _⟩
  · rw [heq, h]
  · exact hnone
  · omega

theorem Filed.lt (h : s.Filed) (hid : id ∈ s.accepted) : id < s.agenda.nextId := by
  rw [h.accepted] at hid
  exact List.mem_range.mp hid

theorem Filed.step (h : s.Filed) (st : Step s d s') : s'.Filed := by
  have hle := st.nextId_le
  refine ⟨?_, fun {id} hid => ?_, fun {id c} hr => ?_, fun {id c stage} hmem => ?_⟩
  · rcases st.nextId_cases with ⟨hn, ha⟩ | ⟨_, hn, ha⟩
    · rw [ha, hn, h.accepted]
    · rw [ha, hn, h.accepted, List.range_succ]
  · have hnone := h.pending (Nat.le_trans hle hid)
    rcases st.phase?_cases id with heq | ⟨hgone, _⟩ | ⟨hp, _⟩ | ⟨_, hn, _⟩
    · rw [heq, hnone]
    · exact hgone
    · exact absurd hnone (isPending_iff_phase?.mp hp)
    · omega
  · rcases st.reader?_cases id with heq | ⟨hgone, _⟩ | ⟨hid, hn, hor⟩
    · obtain ⟨hc, hlt⟩ := h.reader (heq ▸ hr)
      exact ⟨hc, Nat.lt_of_lt_of_le hlt hle⟩
    · exact nomatch hgone.symm.trans hr
    · refine ⟨?_, by omega⟩
      cases hold : s.agenda.reader? id with
      | none => simpa [hor, hold, eq_comm] using hr
      | some c' =>
        have := (h.reader hold).2
        omega
  · -- a read that has its reader keeps it, whatever becomes of the call
    have hold {stage} (hmem : .read id (some c) stage ∈ s.calls) :
        c = id ∧ id < s'.agenda.nextId ∧ s'.agenda.reader? id = none := by
      obtain ⟨hc, hlt, hnone⟩ := h.taken hmem
      exact ⟨hc, Nat.lt_of_lt_of_le hlt hle, st.reader?_eq_none hlt hnone⟩
    rcases st.read_cases hmem with hmem | ⟨rfl, hr, _⟩ | ⟨_, _, hmem, _⟩
    · exact hold hmem
    · obtain ⟨hc, hlt⟩ := h.reader hr
      exact ⟨hc, Nat.lt_of_lt_of_le hlt hle, st.reader?_of_read⟩
    · exact hold hmem

theorem Reachable.filed (h : Reachable s) : s.Filed := by
  induction h with
  | start => exact ⟨rfl, fun _ => rfl, nofun, nofun⟩
  | next _ st ih => exact ih.step st

/-- The outcomes on their way, in the channels and in the answers are those with which the
callables ended. -/
structure Carried (s : Chronicle) : Prop where
  ended : ∀ {id outcome}, s.stage id = .ended outcome → (id, outcome) ∈ s.captured
  /-- An outcome is stored in the same hold in which the task ceases to be pending. -/
  ready : ∀ {id outcome}, s.channels id = .ready outcome →
    (id, outcome) ∈ s.captured ∧ id < s.agenda.nextId ∧ s.agenda.phase? id = none
  answered : ∀ {id reader answer}, .read id reader (.answered answer) ∈ s.calls →
    answer = .error (.notFound id) ∨
      ∃ outcome, (id, outcome) ∈ s.captured ∧ answer = TaskCall.answer id outcome
  producing : ∀ {id}, id < s.agenda.nextId → s.channels id = .empty → s.stage id ≠ .gone

theorem Step.captured_subset (st : Step s d s') : s.captured ⊆ s'.captured := by
  cases st with
  | capture hs h => exact List.subset_append_left _ _
  | _ => exact List.Subset.refl _

theorem Step.captured_of_finish {ending : Ending Product} {outcome : Outcome Product}
    (st : Step s (.finish id ending) s') (h : ending.capture = some outcome) :
    (id, outcome) ∈ s'.captured := by
  cases st with
  | capture hs hc =>
    obtain rfl := Option.some.inj (hc.symm.trans h)
    simp
  | escape hs hc => exact nomatch hc.symm.trans h

theorem Step.phase?_of_store (st : Step s (.store id) s') : s'.agenda.phase? id = none := by
  cases st with
  | store hs h | discard hs h =>
    obtain rfl := congrArg Prod.snd h
    simp

theorem Step.born (st : Step s d s') (hge : s.agenda.nextId ≤ id) (hlt : id < s'.agenda.nextId) :
    s'.stage id = .asleep ∧ s'.agenda.isPending id = true := by
  rcases st.nextId_cases with ⟨hn, _⟩ | ⟨rfl, hn, _⟩
  · omega
  · obtain rfl : id = s.agenda.nextId := by omega
    cases st with
    | refuse h => omega
    | @accept i agenda h =>
      have hphase : agenda.phase? s.agenda.nextId = _ := phase?_schedule h
      obtain ⟨_, rfl, _⟩ := eq_of_schedule h
      exact ⟨update_self _ _ _, by simp [isPending, hphase]⟩

theorem Carried.step (h : s.Carried) (hf : s.Filed) (st : Step s d s') : s'.Carried := by
  have hle := st.nextId_le
  have hsub := st.captured_subset
  refine ⟨fun {id outcome} he => ?_, fun {id outcome} hr => ?_, fun {id reader answer} hm => ?_,
    fun {id} hlt hempty hgone => ?_⟩
  · rcases st.stage_cases id with (heq | hm) | ⟨_, _, _, hasleep⟩
    · exact hsub (h.ended (heq ▸ he))
    · rw [he] at hm
      generalize s.stage id = old at hm
      cases hm with
      | capture hc => exact st.captured_of_finish hc
    · exact nomatch hasleep.symm.trans he
  · rcases st.ready_cases hr with hr | ⟨hs, hp, rfl⟩
    · obtain ⟨hmem, hlt, hnone⟩ := h.ready hr
      exact ⟨hsub hmem, Nat.lt_of_lt_of_le hlt hle, st.phase?_eq_none hlt hnone⟩
    · refine ⟨hsub (h.ended hs), ?_, st.phase?_of_store⟩
      by_contra hge
      exact isPending_iff_phase?.mp hp (hf.pending (Nat.le_trans hle (Nat.le_of_not_lt hge)))
  · rcases st.read_cases hm with hm | ⟨_, _, ⟨_, heq⟩ | ⟨_, heq⟩⟩ | ⟨c, rfl, hwaits, hstage⟩
    · exact (h.answered hm).imp_right fun ⟨o, ho, ha⟩ => ⟨o, hsub ho, ha⟩
    · exact .inl (ReadStage.answered.inj heq)
    · exact nomatch heq
    · rcases hstage with hstage | ⟨outcome, hstage, hjoin⟩
      · exact nomatch hstage
      · obtain rfl := ReadStage.answered.inj hstage
        obtain ⟨rfl, _⟩ := hf.taken hwaits
        rcases Channel.join_cases hjoin with ⟨hready, _⟩ | ⟨rfl, _⟩
        · exact .inr ⟨outcome, hsub (h.ready hready).1, rfl⟩
        · exact .inl rfl
  · by_cases hge : s.agenda.nextId ≤ id
    · exact nomatch (st.born hge hlt).1.symm.trans hgone
    rcases st.stage_cases id with (heq | hm) | ⟨_, _, _, hasleep⟩
    · refine h.producing (Nat.lt_of_not_le hge) ?_ (heq ▸ hgone)
      rcases st.channels_cases id with hsame | ⟨hid, _⟩ | ⟨o, hs, _, _, hc⟩ | ⟨hs, _⟩ |
        ⟨o, hjoin⟩ | habandoned
      · exact hsame ▸ hempty
      · omega
      · exact nomatch hs.symm.trans (heq.symm.trans hgone)
      · exact nomatch hs.symm.trans (heq.symm.trans hgone)
      · rcases Channel.join_cases hjoin with ⟨_, hclosed⟩ | ⟨_, hsame, _⟩
        · exact nomatch hclosed.symm.trans hempty
        · exact hsame ▸ hempty
      · exact nomatch habandoned.symm.trans hempty
    · rw [hgone] at hm
      generalize s.stage id = old at hm
      cases hm with
      | store =>
        cases st with
        | store => simp at hempty
        | discard => simp at hgone
      | release =>
        cases st with
        | release => simp at hempty
    · exact nomatch hasleep.symm.trans hgone

theorem Reachable.carried (h : Reachable s) : s.Carried := by
  induction h with
  | start => exact ⟨nofun, nofun, nofun, nofun⟩
  | next h st ih => exact ih.step h.filed st

end Chronicle
end TaskEngine
