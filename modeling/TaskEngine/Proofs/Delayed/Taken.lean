import TaskEngine.Proofs.Delayed.Pending

/-! The reader of a task is in the agenda until one call takes it out: a read, which then
waits for the outcome, or a cancel, which drops it. -/

namespace TaskEngine

/-- Did the cancel find the reader? -/
def Cancellation.hadReader : Cancellation → Bool
  | .panicked => true
  | .found hadReader _ => hadReader

def TaskCall.takes (id : Nat) : TaskCall → Bool
  | .read i reader _ => i == id && reader.isSome
  | .cancel i _ result => i == id && result.hadReader

theorem eq_of_countP_le_one {α : Type} {p : α → Bool} {l : List α} {i j : Nat} {x y : α}
    (h : l.countP p ≤ 1) (hi : l[i]? = some x) (hj : l[j]? = some y) (hx : p x = true)
    (hy : p y = true) : i = j := by
  obtain ⟨before, after, rfl, rfl⟩ := exists_split_of_getElem? hi
  rw [List.countP_append, List.countP_cons, if_pos hx] at h
  by_contra hne
  rcases Nat.lt_or_gt_of_ne hne with hlt | hgt
  · obtain ⟨n, rfl⟩ := Nat.exists_eq_add_of_lt hlt
    rw [List.getElem?_append_right (by omega),
      show before.length + n + 1 - before.length = n + 1 by omega, List.getElem?_cons_succ] at hj
    have := List.countP_pos_iff.mpr ⟨y, List.mem_of_getElem? hj, hy⟩
    omega
  · rw [List.getElem?_append_left hgt] at hj
    have := List.countP_pos_iff.mpr ⟨y, List.mem_of_getElem? hj, hy⟩
    omega

namespace Chronicle

open Agenda Function

variable {s s' t u : Chronicle} {d : Deed} {id k : Nat} {outcome : Outcome Product}

theorem Step.takes_cases (st : Step s d s') (id : Nat) :
    s'.calls.countP (TaskCall.takes id) = s.calls.countP (TaskCall.takes id) ∧
        (d = .read id ∨ d = .cancel id → s.agenda.reader? id = none) ∨
      s'.calls.countP (TaskCall.takes id) = s.calls.countP (TaskCall.takes id) + 1 ∧
        (d = .read id ∨ d = .cancel id) ∧ s.agenda.reader? id ≠ none := by
  cases st with
  | @readNothing i agenda h =>
    have hreader : s.agenda.reader? i = none := congrArg Prod.fst h
    refine .inl ⟨by simp [TaskCall.takes], fun hd => ?_⟩
    obtain rfl : i = id := by simpa using hd
    exact hreader
  | @read i c agenda h =>
    have hreader : s.agenda.reader? i = some c := congrArg Prod.fst h
    by_cases hid : i = id
    · subst hid
      exact .inr ⟨by simp [TaskCall.takes], .inl rfl, by simp [hreader]⟩
    · exact .inl ⟨by simp [TaskCall.takes, hid], by simp [hid]⟩
  | @cancel i armed result agenda h =>
    have htakes : result.hadReader = (s.agenda.reader? i).isSome := by
      rcases cancel_cases h with ⟨c, hreader, _, rfl, _⟩ | ⟨rfl, _⟩
      · simp [Cancellation.hadReader, hreader]
      · rfl
    by_cases hid : i = id
    · subst hid
      cases hreader : s.agenda.reader? i with
      | none => exact .inl ⟨by simp [TaskCall.takes, htakes, hreader], fun _ => rfl⟩
      | some c =>
        exact .inr ⟨by simp [TaskCall.takes, htakes, hreader], .inr rfl, nofun⟩
    · exact .inl ⟨by simp [TaskCall.takes, hid], by simp [hid]⟩
  | receive hc | giveUp hc => exact .inl ⟨by simp [hc, List.countP_cons, TaskCall.takes], by simp⟩
  | _ => exact .inl ⟨rfl, by simp⟩

theorem Step.reader?_eq_none_iff (st : Step s d s') (hid : id < s.agenda.nextId) :
    s'.agenda.reader? id = none ↔ s.agenda.reader? id = none ∨ d = .read id ∨ d = .cancel id := by
  constructor
  · intro hnone
    rcases st.reader?_cases id with heq | ⟨_, hd⟩ | ⟨rfl, _⟩
    · exact .inl (heq ▸ hnone)
    · exact .inr hd
    · omega
  · rintro (hnone | rfl | rfl)
    · exact st.reader?_eq_none hid hnone
    · exact st.reader?_of_read
    · exact st.reader?_of_cancel

theorem Step.reader?_of_born (st : Step s d s') (hge : s.agenda.nextId ≤ id)
    (hlt : id < s'.agenda.nextId) : s'.agenda.reader? id ≠ none := by
  rcases st.nextId_cases with ⟨hn, _⟩ | ⟨rfl, hn, _⟩
  · omega
  · obtain rfl : id = s.agenda.nextId := by omega
    cases st with
    | refuse h => omega
    | @accept i agenda h =>
      have hreader : agenda.reader? s.agenda.nextId = _ := reader?_schedule h
      obtain ⟨_, rfl, _⟩ := eq_of_schedule h
      simp [hreader]

def Taken (s : Chronicle) (id : Nat) : Prop := ∃ call ∈ s.calls, call.takes id = true

theorem Reachable.countP_takes (h : Reachable s) (id : Nat) :
    s.calls.countP (TaskCall.takes id) =
      if id < s.agenda.nextId ∧ s.agenda.reader? id = none then 1 else 0 := by
  induction h with
  | start => rfl
  | @next s s' d h st ih =>
    by_cases hlt : id < s.agenda.nextId
    · have hlt' := Nat.lt_of_lt_of_le hlt st.nextId_le
      have hnone := st.reader?_eq_none_iff hlt
      simp only [hlt, hlt', true_and] at ih ⊢
      rcases st.takes_cases id with ⟨heq, hd⟩ | ⟨heq, hd, hreader⟩
      · rw [heq, ih]
        exact if_congr ((or_iff_left_of_imp hd).symm.trans hnone.symm) rfl rfl
      · rw [heq, ih, if_neg hreader, if_pos (hnone.mpr (.inr hd))]
    · have hreader : s.agenda.reader? id = none := by
        by_contra hne
        obtain ⟨c, hc⟩ := Option.ne_none_iff_exists'.mp hne
        exact hlt (h.filed.reader hc).2
      have hnew : ¬(id < s'.agenda.nextId ∧ s'.agenda.reader? id = none) := fun ⟨hlt', hnone⟩ =>
        st.reader?_of_born (Nat.le_of_not_lt hlt) hlt' hnone
      rw [if_neg hnew]
      rw [if_neg fun hand => hlt hand.1] at ih
      rcases st.takes_cases id with ⟨heq, _⟩ | ⟨_, _, hne⟩
      · rw [heq, ih]
      · exact absurd hreader hne

theorem Reachable.countP_takes_le (h : Reachable s) (id : Nat) :
    s.calls.countP (TaskCall.takes id) ≤ 1 := by
  rw [h.countP_takes]
  split <;> omega

theorem Reachable.taken_iff (h : Reachable s) :
    s.Taken id ↔ id < s.agenda.nextId ∧ s.agenda.reader? id = none := by
  rw [Taken, ← List.countP_pos_iff, h.countP_takes]
  split <;> simp_all

theorem Reachable.reader?_ne_none_iff (h : Reachable s) :
    s.agenda.reader? id ≠ none ↔ id ∈ s.accepted ∧ ¬s.Taken id := by
  rw [h.taken_iff, h.filed.accepted, List.mem_range]
  constructor
  · intro hne
    obtain ⟨c, hc⟩ := Option.ne_none_iff_exists'.mp hne
    exact ⟨(h.filed.reader hc).2, fun hand => hne hand.2⟩
  · exact fun ⟨hlt, hnot⟩ hnone => hnot ⟨hlt, hnone⟩

theorem Taken.step (h : s.Taken id) (st : Step s d s') : s'.Taken id := by
  have hpos := List.countP_pos_iff.mpr h
  refine List.countP_pos_iff.mp ?_
  rcases st.takes_cases id with ⟨heq, _⟩ | ⟨heq, _⟩ <;> omega

/-- A stored outcome stays, until the read that waits for it ends or a cancel drops it. -/
theorem Step.ready_kept (hf : s.Filed) (st : Step s d s') (hid : id < s.agenda.nextId)
    (hr : s.channels id = .ready outcome) :
    s'.channels id = .ready outcome ∨
      (∃ (k : Nat) (stage : ReadStage), s.calls[k]? = some (.read id (some id) .waiting) ∧
        s'.calls[k]? = some (.read id (some id) stage) ∧ stage ≠ .waiting) ∨
      d = .cancel id ∧ s.agenda.reader? id ≠ none := by
  have hread {before after : List TaskCall} {i : Nat} {stage : ReadStage}
      (hc : s.calls = before ++ .read i (some id) .waiting :: after)
      (hc' : s'.calls = before ++ .read i (some id) stage :: after) (hs : stage ≠ .waiting) :
      ∃ (k : Nat) (stage : ReadStage), s.calls[k]? = some (.read id (some id) .waiting) ∧
        s'.calls[k]? = some (.read id (some id) stage) ∧ stage ≠ .waiting := by
    obtain ⟨rfl, _⟩ := hf.taken (by simp [hc] : .read i (some id) .waiting ∈ s.calls)
    exact ⟨before.length, stage, by simp [hc], by simp [hc'], hs⟩
  cases st with
  | accept h =>
    obtain ⟨_, rfl, _⟩ := eq_of_schedule h
    exact .inl ((update_of_ne (Nat.ne_of_lt hid) _ _).trans hr)
  | @store i =>
    by_cases hi : id = i
    · subst hi
      exact .inl (by simp [hr, Channel.complete])
    · exact .inl ((update_of_ne hi _ _).trans hr)
  | @release i =>
    by_cases hi : id = i
    · subst hi
      exact .inl (by simp [hr, Channel.dropProducer])
    · exact .inl ((update_of_ne hi _ _).trans hr)
  | @receive before after i c o channel hc =>
    by_cases hi : id = c
    · subst hi
      exact .inr (.inl (hread hc rfl (by simp)))
    · exact .inl ((update_of_ne hi _ _).trans hr)
  | @giveUp before after i c hc =>
    by_cases hi : id = c
    · subst hi
      exact .inr (.inl (hread hc rfl (by simp)))
    · exact .inl ((update_of_ne hi _ _).trans hr)
  | @cancel i =>
    rcases s.channelsWithout_cases i id with heq | ⟨hreader, _⟩
    · exact .inl (heq.trans hr)
    · obtain ⟨rfl, _⟩ := hf.reader hreader
      exact .inr (.inr ⟨rfl, by simp [hreader]⟩)
  | _ => exact .inl hr

theorem Reachable.ready_of_untaken (h : Reachable s) (hr : s.channels id = .ready outcome)
    (hl : Leads Step s t) (ht : ¬t.Taken id) : t.channels id = .ready outcome := by
  refine (hl.keep (P := fun t => t.Taken id ∨ t.channels id = .ready outcome) .next
    (fun {s d s'} h st hkept => ?_) h (.inr hr)).2.resolve_left ht
  rcases hkept with htaken | hr
  · exact .inl (htaken.step st)
  · rcases st.ready_kept h.filed (h.carried.ready hr).2.1 hr with hr' | ⟨k, _, hk, _⟩ |
      ⟨rfl, hreader⟩
    · exact .inr hr'
    · have htaken : s.Taken id := ⟨_, List.mem_of_getElem? hk, by simp [TaskCall.takes]⟩
      exact .inl (htaken.step st)
    · refine .inl ((h.next st).taken_iff.mpr ⟨?_, st.reader?_of_cancel⟩)
      exact Nat.lt_of_lt_of_le (h.carried.ready hr).2.1 st.nextId_le

/-- A read that waits for an outcome that is stored: it can get it, and gets nothing else. -/
inductive Gets (s : Chronicle) (k id : Nat) (outcome : Outcome Product) : Prop
  | waiting (hk : s.calls[k]? = some (.read id (some id) .waiting))
      (hr : s.channels id = .ready outcome)
      (hreceive : ∃ s', Step s (.receive k) s' ∧
        s'.calls[k]? = some (.read id (some id) (.answered (TaskCall.answer id outcome))))
  | told (hk : s.calls[k]? = some (.read id (some id) (.answered (TaskCall.answer id outcome))))
  | abandoned (hk : s.calls[k]? = some (.read id (some id) .abandoned))

theorem gets_of_ready (hk : s.calls[k]? = some (.read id (some id) .waiting))
    (hr : s.channels id = .ready outcome) : s.Gets k id outcome := by
  obtain ⟨before, after, hc, rfl⟩ := exists_split_of_getElem? hk
  refine .waiting hk hr ⟨_, .receive hc (by rw [hr]; rfl), ?_⟩
  simp

theorem Gets.step (hg : s.Gets k id outcome) (h : Reachable s) (st : Step s d s') :
    s'.Gets k id outcome := by
  cases hg with
  | waiting hk hr =>
    rcases st.call_cases hk with hk' | ⟨i, c, stage, heq, hk', hstage⟩
    · refine gets_of_ready hk' ?_
      rcases st.ready_kept h.filed (h.carried.ready hr).2.1 hr with hr' | ⟨k', _, hold, hnew, hne⟩ |
        ⟨_, hreader⟩
      · exact hr'
      · -- the read that ends is this one, for no other has taken the reader
        obtain rfl := eq_of_countP_le_one (h.countP_takes_le id) hk hold
          (by simp [TaskCall.takes]) (by simp [TaskCall.takes])
        rw [hk'] at hnew
        exact absurd (by simpa using hnew.symm) hne
      · exact absurd (h.filed.taken (List.mem_of_getElem? hk)).2.2 hreader
    · obtain ⟨rfl, hc, _⟩ := TaskCall.read.inj heq
      obtain rfl := Option.some.inj hc
      rcases hstage with rfl | ⟨o, rfl, hjoin⟩
      · exact .abandoned hk'
      · rw [hr] at hjoin
        obtain ⟨rfl, _⟩ := Prod.mk.inj (Option.some.inj hjoin)
        exact .told hk'
  | told hk =>
    rcases st.call_cases hk with hk' | ⟨_, _, _, heq, _⟩
    · exact .told hk'
    · exact nomatch heq
  | abandoned hk =>
    rcases st.call_cases hk with hk' | ⟨_, _, _, heq, _⟩
    · exact .abandoned hk'
    · exact nomatch heq

theorem Gets.leads (hg : s.Gets k id outcome) (h : Reachable s) (hl : Leads Step s t) :
    t.Gets k id outcome :=
  (hl.keep (P := fun t => t.Gets k id outcome) .next (fun h st hg => hg.step h st) h hg).2

end Chronicle
end TaskEngine
