import TaskEngine.Proofs.Delayed.Filed

/-! The outcome of a task goes to one call at most: to the read that gets it, or to the
cancel that forgets it. An id that has been won is spent, and stays so. -/

namespace TaskEngine

namespace Chronicle

open Agenda

variable {s s' t : Chronicle} {d : Deed} {id : Nat}

/-- Nothing is left of the id that a call could get. -/
structure Spent (s : Chronicle) (id : Nat) : Prop where
  lt : id < s.agenda.nextId
  phase : s.agenda.phase? id = none
  reader : s.agenda.reader? id = none
  unread : ∀ outcome, s.channels id ≠ .ready outcome

theorem Spent.step (h : s.Spent id) (st : Step s d s') : s'.Spent id where
  lt := Nat.lt_of_lt_of_le h.lt st.nextId_le
  phase := st.phase?_eq_none h.lt h.phase
  reader := st.reader?_eq_none h.lt h.reader
  unread outcome hr := by
    rcases st.ready_cases hr with hr | ⟨_, hp, _⟩
    · exact h.unread outcome hr
    · simp [isPending, h.phase] at hp

theorem Spent.leads (h : s.Spent id) (hl : Leads Step s t) : t.Spent id :=
  hl.preserve (P := fun t => t.Spent id) Spent.step h

theorem answer_cases (id : Nat) (outcome : Outcome Product) :
    outcome = .error .discarded ∧ TaskCall.answer id outcome = .error (.notFound id) ∨
      outcome ≠ .error .discarded ∧ ∀ reader,
        (TaskCall.read id reader (.answered (TaskCall.answer id outcome))).wins id = true := by
  rcases outcome with error | value
  · cases error with
    | discarded => exact .inl ⟨rfl, rfl⟩
    | panicked reason => exact .inr ⟨nofun, fun _ => beq_self_eq_true id⟩
  · exact .inr ⟨nofun, fun _ => beq_self_eq_true id⟩

theorem ready_of_dropPanics {armed : Bool} {c : Nat} (h : s.dropPanics armed c = true) :
    ∃ outcome, s.channels c = .ready outcome := by
  unfold dropPanics at h
  cases hc : s.channels c with
  | ready outcome => exact ⟨outcome, rfl⟩
  | empty | closed | abandoned => simp [hc, Channel.dropReader] at h

theorem Reachable.phase?_of_cancel (h : Reachable s) (st : Step s (.cancel id) s') :
    s'.agenda.phase? id = none := by
  cases st with
  | cancel hc =>
    rcases cancel_cases hc with ⟨c, hreader, hdrop, _, rfl⟩ | ⟨_, rfl⟩
    · obtain ⟨rfl, _⟩ := h.filed.reader hreader
      obtain ⟨_, hready⟩ := ready_of_dropPanics hdrop
      simpa using (h.carried.ready hready).2.2
    · simp

theorem Reachable.spent_of_cancel {armed : Bool} {result : Cancellation} (h : Reachable s)
    (st : Step s (.cancel id) s')
    (hc : s.agenda.cancel (s.dropPanics armed) id = (result, s'.agenda))
    (hresult : result.succeeded = true) : ¬s.Spent id ∧ s'.Spent id := by
  have hle := st.nextId_le
  have hchannel : s'.channels id = s.channelsWithout id id := by
    cases st with
    | cancel => rfl
  suffices hs : ¬s.Spent id ∧ id < s.agenda.nextId ∧ ∀ outcome, s'.channels id ≠ .ready outcome from
    ⟨hs.1, Nat.lt_of_lt_of_le hs.2.1 hle, h.phase?_of_cancel st, st.reader?_of_cancel, hs.2.2⟩
  cases hreader : s.agenda.reader? id with
  | some c =>
    obtain ⟨rfl, hlt⟩ := h.filed.reader hreader
    refine ⟨fun hspent => ?_, hlt, fun outcome hr => ?_⟩
    · exact nomatch hspent.reader.symm.trans hreader
    · simp [hchannel, channelsWithout, hreader] at hr
  | none =>
    rcases cancel_cases hc with ⟨c', hc', _⟩ | ⟨rfl, _⟩
    · exact nomatch hreader.symm.trans hc'
    · have hphase : s.agenda.phase? id ≠ none := by
        simpa [Cancellation.succeeded, hreader, Option.isSome_iff_ne_none] using hresult
      refine ⟨fun hspent => hphase hspent.phase, ?_, fun outcome hr => ?_⟩
      · by_contra hge
        exact hphase (h.filed.pending (Nat.le_of_not_lt hge))
      · simp only [hchannel, channelsWithout, hreader] at hr
        exact hphase (h.carried.ready hr).2.2

/-- One more call wins an id, and the id is spent with it, or no call does. -/
theorem Reachable.wins_cases (h : Reachable s) (st : Step s d s') (id : Nat) :
    s'.calls.countP (TaskCall.wins id) = s.calls.countP (TaskCall.wins id) ∨
      s'.calls.countP (TaskCall.wins id) = s.calls.countP (TaskCall.wins id) + 1 ∧
        ¬s.Spent id ∧ s'.Spent id := by
  rcases st.calls_cases with heq | ⟨i, _, _, heq⟩ | ⟨i, c, _, _, heq⟩ |
    ⟨i, armed, result, rfl, hcancel, heq⟩ | ⟨before, after, i, c, stage, hcalls, heq, hstage⟩
  · rw [heq]
    exact .inl rfl
  · exact .inl (by simp [heq, TaskCall.wins])
  · exact .inl (by simp [heq, TaskCall.wins])
  · by_cases hwins : (TaskCall.cancel i (s.agenda.isPending i) result).wins id = true
    · obtain ⟨rfl, hresult⟩ : i = id ∧ result.succeeded = true := by
        simpa [TaskCall.wins] using hwins
      exact .inr ⟨by simp [heq, hwins], h.spent_of_cancel st hcancel hresult⟩
    · exact .inl (by simp [heq, hwins])
  · -- the read that ends did not win before
    rw [heq, hcalls]
    simp only [List.countP_append, List.countP_cons]
    have hwait : (TaskCall.read i (some c) .waiting).wins id = false := rfl
    rcases hstage with rfl | ⟨outcome, rfl, hjoin⟩
    · exact .inl rfl
    · have htaken : .read i (some c) .waiting ∈ s.calls := by simp [hcalls]
      rcases answer_cases i outcome with ⟨_, hanswer⟩ | ⟨hne, hwins⟩
      · rw [hanswer]
        exact .inl rfl
      · by_cases hid : i = id
        · subst hid
          obtain ⟨rfl, hlt, hreader⟩ := h.filed.taken htaken
          rcases Channel.join_cases hjoin with ⟨hready, hclosed⟩ | ⟨hnone, _⟩
          · refine .inr ⟨by simp [hwait, hwins]; omega, fun hspent => hspent.unread _ hready,
              Nat.lt_of_lt_of_le hlt st.nextId_le, ?_, st.reader?_eq_none hlt hreader, ?_⟩
            · exact st.phase?_eq_none hlt (h.carried.ready hready).2.2
            · exact fun _ hr => nomatch hclosed.symm.trans hr
          · exact absurd hnone hne
        · refine .inl ?_
          have hother : (TaskCall.read i (some c)
              (.answered (TaskCall.answer i outcome))).wins id = false := by
            unfold TaskCall.wins
            split <;> simp_all
          rw [hother, hwait]

theorem Reachable.won (h : Reachable s) (id : Nat) :
    s.calls.countP (TaskCall.wins id) = 0 ∨
      s.calls.countP (TaskCall.wins id) = 1 ∧ s.Spent id := by
  induction h with
  | start => exact .inl rfl
  | next h st ih =>
    rcases h.wins_cases st id with heq | ⟨heq, hnot, hspent⟩
    · rw [heq]
      exact ih.imp_right (.imp_right fun hspent => hspent.step st)
    · rcases ih with hzero | ⟨_, hspent'⟩
      · exact .inr ⟨by omega, hspent⟩
      · exact absurd hspent' hnot

theorem Reachable.countP_wins_le (h : Reachable s) (hl : Leads Step s t) (id : Nat) :
    s.calls.countP (TaskCall.wins id) ≤ t.calls.countP (TaskCall.wins id) :=
  (hl.keep (P := fun t => s.calls.countP (TaskCall.wins id) ≤ t.calls.countP (TaskCall.wins id))
    .next (fun hr st hle => by rcases hr.wins_cases st id with heq | ⟨heq, _⟩ <;> omega)
    h (Nat.le_refl _)).2

/-- A cancel of the id has succeeded, at a time when the id was pending or not. -/
def Cancelled (s : Chronicle) (id : Nat) (wasPending : Bool) : Prop :=
  ∃ result, .cancel id wasPending result ∈ s.calls ∧ result.succeeded = true

theorem Reachable.spent_of_cancelled {wasPending : Bool} (h : Reachable s)
    (hc : s.Cancelled id wasPending) : s.Spent id := by
  obtain ⟨result, hmem, hresult⟩ := hc
  have hpos : 0 < s.calls.countP (TaskCall.wins id) :=
    List.countP_pos_iff.mpr ⟨_, hmem, by simp [TaskCall.wins, hresult]⟩
  rcases h.won id with hzero | ⟨_, hspent⟩
  · omega
  · exact hspent

theorem Step.calls_of_read (st : Step s (.read id) s') (h : s.agenda.reader? id = none) :
    s'.calls = s.calls ++ [.read id none (.answered (.error (.notFound id)))] := by
  cases st with
  | readNothing => rfl
  | read hr => exact nomatch h.symm.trans (congrArg Prod.fst hr)

theorem Step.calls_of_cancel (st : Step s (.cancel id) s') (h : s.Spent id) :
    s'.calls = s.calls ++ [.cancel id false (.found false none)] := by
  cases st with
  | cancel hc =>
    rcases cancel_cases hc with ⟨_, hreader, _⟩ | ⟨rfl, _⟩
    · exact nomatch h.reader.symm.trans hreader
    · simp [h.reader, h.phase]

theorem Reachable.calls_of_read_again {u u' : Chronicle} (h : Reachable s) (hid : id ∈ s.accepted)
    (st : Step s (.read id) t) (hl : Leads Step t u) (st' : Step u (.read id) u') :
    u'.calls = u.calls ++ [.read id none (.answered (.error (.notFound id)))] := by
  have hlt : id < t.agenda.nextId := Nat.lt_of_lt_of_le (h.filed.lt hid) st.nextId_le
  have hkept := hl.preserve (P := fun u => id < u.agenda.nextId ∧ u.agenda.reader? id = none)
    (fun ⟨hlt, hnone⟩ st =>
      ⟨Nat.lt_of_lt_of_le hlt st.nextId_le, st.reader?_eq_none hlt hnone⟩)
    ⟨hlt, st.reader?_of_read⟩
  exact st'.calls_of_read hkept.2

theorem Step.call_cases {call : TaskCall} {k : Nat} (st : Step s d s')
    (hk : s.calls[k]? = some call) :
    s'.calls[k]? = some call ∨ ∃ id c stage, call = .read id (some c) .waiting ∧
      s'.calls[k]? = some (.read id (some c) stage) ∧ (stage = .abandoned ∨ ∃ outcome,
        stage = .answered (TaskCall.answer id outcome) ∧
          (s.channels c).join = some (outcome, s'.channels c)) := by
  have happend {rest : List TaskCall} (heq : s'.calls = s.calls ++ rest) :
      s'.calls[k]? = some call := by
    rw [heq, List.getElem?_append_left (List.getElem?_eq_some_iff.mp hk).1, hk]
  rcases st.calls_cases with heq | ⟨_, _, _, heq⟩ | ⟨_, _, _, _, heq⟩ | ⟨_, _, _, _, _, heq⟩ |
    ⟨before, after, i, c, stage, hcalls, heq, hstage⟩
  · exact .inl (heq ▸ hk)
  · exact .inl (happend heq)
  · exact .inl (happend heq)
  · exact .inl (happend heq)
  · rw [heq, getElem?_replaced before after (.read i (some c) .waiting), ← hcalls]
    split
    · next hbefore =>
      subst hbefore
      have hcall : .read i (some c) .waiting = call := by simpa [hcalls] using hk
      exact .inr ⟨i, c, stage, hcall.symm, rfl, hstage⟩
    · exact .inl hk

inductive Unlucky (id : Nat) (reader : Option Nat) : TaskCall → Prop
  | waiting : Unlucky id reader (.read id reader .waiting)
  | abandoned : Unlucky id reader (.read id reader .abandoned)
  | notFound : Unlucky id reader (.read id reader (.answered (.error (.notFound id))))

theorem Spent.unlucky_step {reader : Option Nat} {k : Nat} (hf : s.Filed) (h : s.Spent id)
    (st : Step s d s') (hu : ∃ call, s.calls[k]? = some call ∧ Unlucky id reader call) :
    ∃ call, s'.calls[k]? = some call ∧ Unlucky id reader call := by
  obtain ⟨call, hk, hcall⟩ := hu
  rcases st.call_cases hk with hk' | ⟨i, c, stage, rfl, hk', hstage⟩
  · exact ⟨call, hk', hcall⟩
  · cases hcall with
    | waiting =>
      rcases hstage with rfl | ⟨outcome, rfl, hjoin⟩
      · exact ⟨_, hk', .abandoned⟩
      · obtain ⟨rfl, _⟩ := hf.taken (List.mem_of_getElem? hk)
        rcases Channel.join_cases hjoin with ⟨hready, _⟩ | ⟨rfl, _⟩
        · exact absurd hready (h.unread outcome)
        · exact ⟨_, hk', .notFound⟩

theorem Reachable.unlucky_leads {c k : Nat} (h : Reachable s) (hs : s.Spent id)
    (hk : s.calls[k]? = some (.read id (some c) .waiting)) (hl : Leads Step s t) :
    ∃ call, t.calls[k]? = some call ∧ Unlucky id (some c) call :=
  (hl.keep (P := fun t => t.Spent id ∧ ∃ call, t.calls[k]? = some call ∧ Unlucky id (some c) call)
    .next (fun hr st ⟨hs, hu⟩ => ⟨hs.step st, hs.unlucky_step hr.filed st hu⟩)
    h ⟨hs, _, hk, .waiting⟩).2.2

theorem Reachable.receives_notFound {c k : Nat} (h : Reachable s) (hs : s.Spent id)
    (hk : s.calls[k]? = some (.read id (some c) .waiting)) (hgone : s.stage id = .gone) :
    ∃ s', Step s (.receive k) s' ∧
      s'.calls[k]? = some (.read id (some c) (.answered (.error (.notFound id)))) := by
  obtain ⟨hlt, hget⟩ := List.getElem?_eq_some_iff.mp hk
  have hcalls : s.calls =
      s.calls.take k ++ .read id (some c) .waiting :: s.calls.drop (k + 1) := by
    rw [← hget, List.getElem_cons_drop, List.take_append_drop]
  have hlen : (s.calls.take k).length = k := List.length_take_of_le (Nat.le_of_lt hlt)
  have hwait : .read id (some c) .waiting ∈ s.calls := List.mem_of_getElem? hk
  obtain ⟨rfl, hid, _⟩ := h.filed.taken hwait
  have hjoin : ∃ channel, (s.channels c).join = some (.error .discarded, channel) := by
    cases hc : s.channels c with
    | empty => exact absurd hgone (h.carried.producing hid hc)
    | ready outcome => exact absurd hc (hs.unread outcome)
    | closed | abandoned => exact ⟨_, rfl⟩
  obtain ⟨_, hjoin⟩ := hjoin
  have st := Step.receive hcalls hjoin
  rw [hlen] at st
  refine ⟨_, st, ?_⟩
  rw [getElem?_replaced _ _ (.read c (some c) .waiting), hlen, if_pos rfl]
  rfl

/-- The ids count up from zero, and each has one winner at most. What a read gets is what
the callable ended with. Whoever comes after a winner gets nothing: a second read, a read
or a cancel after a cancel that succeeded, and a read that was waiting then, as soon as
nobody is left who could have answered it. -/
theorem one_winner (h : Reachable s) :
    s.accepted = List.range s.accepted.length ∧
      (∀ id, s.calls.countP (TaskCall.wins id) ≤ 1) ∧
      (∀ call ∈ s.calls, (∃ id, call.wins id = true) ∨ call.Loses) ∧
      (∀ {id reader answer}, .read id reader (.answered answer) ∈ s.calls →
        answer = .error (.notFound id) ∨
          ∃ outcome, (id, outcome) ∈ s.captured ∧ answer = TaskCall.answer id outcome) ∧
      (∀ {t}, Leads Step s t → ∀ id,
        s.calls.countP (TaskCall.wins id) ≤ t.calls.countP (TaskCall.wins id)) ∧
      (∀ {id t u u'}, id ∈ s.accepted → Step s (.read id) t → Leads Step t u →
        Step u (.read id) u' →
        u'.calls = u.calls ++ [.read id none (.answered (.error (.notFound id)))]) ∧
      ∀ {id wasPending}, s.Cancelled id wasPending → ∀ {t}, Leads Step s t →
        (∀ {t'}, Step t (.read id) t' →
          t'.calls = t.calls ++ [.read id none (.answered (.error (.notFound id)))]) ∧
        (∀ {t'}, Step t (.cancel id) t' →
          t'.calls = t.calls ++ [.cancel id false (.found false none)]) ∧
        ∀ {k c}, s.calls[k]? = some (.read id (some c) .waiting) →
          (∃ call, t.calls[k]? = some call ∧ Unlucky id (some c) call) ∧
          (t.calls[k]? = some (.read id (some c) .waiting) → t.stage id = .gone →
            ∃ t', Step t (.receive k) t' ∧
              t'.calls[k]? = some (.read id (some c) (.answered (.error (.notFound id))))) := by
  refine ⟨?_, fun id => ?_, fun call hcall => ?_, fun hm => h.carried.answered hm,
    fun hl id => h.countP_wins_le hl id, fun hid st hl st' => h.calls_of_read_again hid st hl st',
    fun {id _} hc {t} hl => ?_⟩
  · rw [h.filed.accepted, List.length_range]
  · rcases h.won id with hzero | ⟨hone, _⟩ <;> omega
  · match call with
    | .read id reader (.answered answer) =>
      rcases h.carried.answered hcall with rfl | ⟨outcome, _, rfl⟩
      · exact .inr rfl
      · rcases answer_cases id outcome with ⟨_, hanswer⟩ | ⟨_, hwins⟩
        · exact .inr hanswer
        · exact .inl ⟨id, hwins reader⟩
    | .read _ _ .waiting | .read _ _ .abandoned => exact .inr trivial
    | .cancel id wasPending result =>
      cases hresult : result.succeeded with
      | true => exact .inl ⟨id, by simp [TaskCall.wins, hresult]⟩
      | false => exact .inr hresult
  · have hspent := h.spent_of_cancelled hc
    have ht := hspent.leads hl
    exact ⟨fun st => st.calls_of_read ht.reader, fun st => st.calls_of_cancel ht,
      fun hk => ⟨h.unlucky_leads hspent hk hl,
        fun hk hgone => (h.leads hl).receives_notFound ht hk hgone⟩⟩

/-- A read is waiting when its task is cancelled, and the timer wakes up too late. -/
theorem one_winner_of_cancel : ∃ s t, Reachable s ∧ s.Cancelled 0 true ∧ Leads Step s t ∧
    s.calls[0]? = some (.read 0 (some 0) .waiting) ∧ t.stage 0 = .gone ∧
    s.calls.countP (TaskCall.wins 0) = 1 ∧ t.calls.countP (TaskCall.wins 0) ≤ 1 ∧
    ∃ t', Step t (.receive 0) t' ∧
      t'.calls[0]? = some (.read 0 (some 0) (.answered (.error (.notFound 0)))) := by
  have h₁ := Reachable.start.next (d := .schedule) (.accept rfl)
  have h₂ := h₁.next (d := .read 0) (.read rfl)
  have h₃ := h₂.next (@Step.cancel _ 0 true _ _ rfl)
  have l₁ := h₃.leads_self.next (d := .wake 0) (.wake rfl)
  have l₂ := l₁.next (d := .claim 0) (.skip rfl rfl)
  have l₃ := l₂.next (d := .release 0) (.release rfl)
  obtain ⟨_, _, _, _, _, _, hlate⟩ := one_winner h₃
  obtain ⟨_, hwins, _⟩ := one_winner (h₃.leads l₃)
  have hmem := List.Mem.tail (TaskCall.read 0 (some 0) .waiting)
    (List.Mem.head (a := TaskCall.cancel 0 true (.found false (some .waiting))) [])
  obtain ⟨_, _, hwait⟩ := hlate ⟨_, hmem, rfl⟩ l₃
  exact ⟨_, _, h₃, ⟨_, hmem, rfl⟩, l₃, rfl, rfl, rfl, hwins 0, (hwait rfl).2 rfl rfl⟩

end Chronicle
end TaskEngine
