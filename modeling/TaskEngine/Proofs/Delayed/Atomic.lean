import TaskEngine.Proofs.Delayed.Pending

/-! A cancel drops the unread outcome before it looks at the pending entry, which stays
where that drop panics. Nothing is amiss then: an outcome is stored in the same hold of the
lock in which the task ceases to be pending, so that the agenda is the one that a quiet
cancel leaves. -/

namespace TaskEngine

namespace Agenda

variable {κ : Type} {a b : Agenda κ} {id : Nat}

theorem withoutId_eq_self {β : Type} {entries : List (Nat × β)}
    (h : entries.lookup id = none) : withoutId id entries = entries := by
  refine List.filter_eq_self.mpr fun e he => bne_iff_ne.mpr ?_
  rintro rfl
  simpa using List.lookup_eq_none_iff.mp h e he

theorem eq_of_cancel {dropPanics : κ → Bool} {result : Cancellation} (hp : a.phase? id = none)
    (h : a.cancel dropPanics id = (result, b)) :
    b = ((a.takeReader id).2.takePending id).2 := by
  have hself : withoutId id a.pending = a.pending := withoutId_eq_self hp
  rcases cancel_cases h with ⟨_, _, _, _, rfl⟩ | ⟨_, rfl⟩
  · simp [takeReader, takePending, hself]
  · rfl

end Agenda

theorem exists_split_of_set {α : Type} (before after : List α) {k : Nat}
    (h : k ≠ before.length) (x : α) : ∃ before' after' : List α,
      before'.length = before.length ∧
        ∀ y, (before ++ y :: after).set k x = before' ++ y :: after' := by
  rcases Nat.lt_or_gt_of_ne h with hlt | hgt
  · exact ⟨before.set k x, after, List.length_set, fun y => List.set_append_left _ _ hlt⟩
  · obtain ⟨n, rfl⟩ := Nat.exists_eq_add_of_lt hgt
    refine ⟨before, after.set n x, rfl, fun y => ?_⟩
    rw [List.set_append_right _ _ (by omega),
      show before.length + n + 1 - before.length = n + 1 by omega, List.set_cons_succ]

namespace Chronicle

open Agenda

variable {s s' t : Chronicle} {d : Deed} {ds : List Deed} {id k : Nat} {call : TaskCall}
  {wasPending : Bool} {result : Cancellation}

inductive Run : Chronicle → List Deed → Chronicle → Prop
  | nil (s : Chronicle) : Run s [] s
  | cons {s t u : Chronicle} {d : Deed} {ds : List Deed} (st : Step s d t) (hr : Run t ds u) :
      Run s (d :: ds) u

/-- The same chronicle, in which another call stands at that place. -/
def retold (s : Chronicle) (k : Nat) (call : TaskCall) : Chronicle :=
  { s with calls := s.calls.set k call }

theorem retold_of_getElem? (hk : s.calls[k]? = some call) : s.retold k call = s := by
  obtain ⟨_, rfl⟩ := List.getElem?_eq_some_iff.mp hk
  rw [retold, List.set_getElem_self]

theorem retold_retold (s : Chronicle) (k : Nat) (call call' : TaskCall) :
    (s.retold k call).retold k call' = s.retold k call' := by
  rw [retold, retold, List.set_set, retold]

/-- Nothing that is done depends on what a cancel was answered. -/
theorem Step.retold (st : Step s d s')
    (hk : s.calls[k]? = some (.cancel id wasPending result)) (answer : Cancellation) :
    Step (s.retold k (.cancel id wasPending answer)) d
      (s'.retold k (.cancel id wasPending answer)) := by
  have hlt : k < s.calls.length := (List.getElem?_eq_some_iff.mp hk).1
  have hadd (new : TaskCall) : (s.calls ++ [new]).set k (.cancel id wasPending answer) =
      s.calls.set k (.cancel id wasPending answer) ++ [new] := List.set_append_left _ _ hlt
  have hother {before after : List TaskCall} {i c : Nat}
      (hc : s.calls = before ++ .read i (some c) .waiting :: after) : k ≠ before.length := by
    rintro rfl
    simp [hc] at hk
  cases st with
  | refuse h => exact .refuse h
  | accept h => exact .accept h
  | wake hs => exact .wake hs
  | abort hs ha => exact .abort hs ha
  | claim hs h => exact .claim hs h
  | skip hs h => exact .skip hs h
  | start hs => exact .start hs
  | capture hs h => exact .capture hs h
  | escape hs h => exact .escape hs h
  | store hs h => exact .store hs h
  | discard hs h => exact .discard hs h
  | release hs => exact .release hs
  | shutdownAgain h => exact .shutdownAgain h
  | shutdown h => exact .shutdown h
  | readNothing h =>
    simp only [Chronicle.retold, hadd]
    exact .readNothing h
  | read h =>
    simp only [Chronicle.retold, hadd]
    exact .read h
  | cancel h =>
    simp only [Chronicle.retold, hadd]
    exact .cancel h
  | @receive before after i c outcome channel hc h =>
    obtain ⟨before', after', hlength, hset⟩ :=
      exists_split_of_set before after (hother hc) (.cancel id wasPending answer)
    simp only [Chronicle.retold, hset, ← hlength]
    exact .receive (by simp only [hc, hset]) h
  | @giveUp before after i c hc =>
    obtain ⟨before', after', hlength, hset⟩ :=
      exists_split_of_set before after (hother hc) (.cancel id wasPending answer)
    simp only [Chronicle.retold, hset, ← hlength]
    exact .giveUp (by simp only [hc, hset])

theorem Run.retold (hr : Run s ds t) (hk : s.calls[k]? = some (.cancel id wasPending result))
    (answer : Cancellation) :
    Run (s.retold k (.cancel id wasPending answer)) ds
      (t.retold k (.cancel id wasPending answer)) := by
  induction hr with
  | nil s => exact .nil _
  | cons st _ ih =>
    rcases st.call_cases hk with hk' | ⟨_, _, _, heq, _⟩
    · exact .cons (st.retold hk answer) (ih hk')
    · exact nomatch heq

theorem dropPanics_false (s : Chronicle) : s.dropPanics false = fun _ => false := by
  funext c
  rw [dropPanics, Option.isSome_eq_false_iff, Option.isNone_iff_eq_none, Option.bind_eq_none_iff]
  rintro (_ | _ | _) _ <;> rfl

theorem Reachable.quiet_cancel (h : Reachable s) (st : Step s (.cancel id) s')
    (hcalls : s'.calls = s.calls ++ [.cancel id wasPending .panicked]) :
    s.agenda.cancel (fun _ => false) id = (.found true none, s'.agenda) ∧
      Step s (.cancel id)
        (s'.retold s.calls.length (.cancel id wasPending (.found true none))) := by
  cases st with
  | @cancel _ armed result agenda hc =>
    obtain ⟨rfl, rfl⟩ : s.agenda.isPending id = wasPending ∧ result = .panicked := by
      simpa using List.append_cancel_left hcalls
    obtain ⟨c, hreader, hdrop⟩ : ∃ c, s.agenda.reader? id = some c ∧
        s.dropPanics armed c = true := by
      rcases cancel_cases hc with ⟨c, hreader, hdrop, _⟩ | ⟨hfound, _⟩
      · exact ⟨c, hreader, hdrop⟩
      · exact nomatch hfound
    obtain ⟨rfl, _⟩ := h.filed.reader hreader
    obtain ⟨outcome, hready⟩ := ready_of_dropPanics hdrop
    have hphase := (h.carried.ready hready).2.2
    have hquiet : s.agenda.cancel (fun _ => false) c = (.found true none, agenda) := by
      rcases hq : s.agenda.cancel (fun _ => false) c with ⟨answer, after⟩
      obtain rfl : after = agenda := (eq_of_cancel hphase hq).trans (eq_of_cancel hphase hc).symm
      rcases cancel_cases hq with ⟨_, _, hnever, _⟩ | ⟨rfl, _⟩
      · exact nomatch hnever
      · simp [hreader, hphase]
    have hstep := @Step.cancel s c false _ _ ((dropPanics_false s).symm ▸ hquiet)
    refine ⟨hquiet, ?_⟩
    have hlast : (s.calls ++ [TaskCall.cancel c (s.agenda.isPending c) .panicked]).set
        s.calls.length (.cancel c (s.agenda.isPending c) (.found true none)) =
          s.calls ++ [.cancel c (s.agenda.isPending c) (.found true none)] := by simp
    simp only [Chronicle.retold, hlast]
    exact hstep

/-- A task whose outcome is stored, or has been stored or dropped by its callable, is not
pending. A cancel that panics leaves the agenda that a quiet cancel leaves, with no entry of the
id, and after both the same deeds can be done and come to the same, but for the answer of that
cancel. -/
theorem cancel_atomic (h : Reachable s) :
    (∀ {id outcome}, s.channels id = .ready outcome → s.agenda.isPending id = false) ∧
    (∀ {id}, s.Concluded id → s.agenda.isPending id = false) ∧
    ∀ {id wasPending s'}, Step s (.cancel id) s' →
      s'.calls = s.calls ++ [.cancel id wasPending .panicked] →
      s'.agenda = (s.agenda.cancel (fun _ => false) id).2 ∧
      s'.agenda.isPending id = false ∧ s'.agenda.reader? id = none ∧
      ∃ quiet, Step s (.cancel id) quiet ∧
        quiet.calls = s.calls ++ [.cancel id wasPending (.found true none)] ∧
        quiet.agenda = s'.agenda ∧
        (∀ {ds t}, Run s' ds t →
          Run quiet ds (t.retold s.calls.length (.cancel id wasPending (.found true none)))) ∧
        ∀ {ds t}, Run quiet ds t →
          Run s' ds (t.retold s.calls.length (.cancel id wasPending .panicked)) := by
  refine ⟨fun hr => isPending_eq_false_iff.mpr (h.carried.ready hr).2.2, fun {id} hc => ?_,
    fun {id wasPending s'} st hcalls => ?_⟩
  · rw [← Bool.not_eq_true, h.isPending_iff]
    exact fun hp => hp.2.2.2 hc
  · obtain ⟨hagenda, hquiet⟩ := h.quiet_cancel st hcalls
    have hk : s'.calls[s.calls.length]? = some (.cancel id wasPending .panicked) := by
      simp [hcalls]
    refine ⟨(congrArg Prod.snd hagenda).symm,
      isPending_eq_false_iff.mpr (h.phase?_of_cancel st), st.reader?_of_cancel, _, hquiet,
      by simp [retold, hcalls], rfl, fun hr => hr.retold hk _, fun hr => ?_⟩
    have hk' : (s'.retold s.calls.length (.cancel id wasPending (.found true none))).calls[
        s.calls.length]? = some (.cancel id wasPending (.found true none)) := by
      simp [retold, hcalls]
    have hback := hr.retold hk' .panicked
    rwa [retold_retold, retold_of_getElem? hk] at hback

/-- The callable has ended with a value whose destructor panics, and nobody has read it. After
the cancel that panics a read finds nothing, as after a quiet one. -/
theorem cancel_atomic_unread : ∃ s s' quiet t, Reachable s ∧ Step s (.cancel 0) s' ∧
    s.channels 0 = .ready (.ok (.fragile "boom")) ∧ s.agenda.isPending 0 = false ∧
    s'.calls = [.cancel 0 false .panicked] ∧ s'.agenda.reader? 0 = none ∧
    Step s (.cancel 0) quiet ∧ quiet.agenda = s'.agenda ∧ Run s' [.read 0] t ∧
    t.calls = [.cancel 0 false .panicked, .read 0 none (.answered (.error (.notFound 0)))] ∧
    Run quiet [.read 0] (t.retold 0 (.cancel 0 false (.found true none))) := by
  have h₁ := Reachable.start.next (d := .schedule) (.accept rfl)
  have h₂ := h₁.next (d := .wake 0) (.wake rfl)
  have h₃ := h₂.next (d := .claim 0) (.claim rfl rfl)
  have h₄ := h₃.next (d := .start 0) (.start rfl)
  have h₅ := h₄.next (d := .finish 0 (.returned (.fragile "boom"))) (.capture rfl rfl)
  have h₆ := h₅.next (d := .store 0) (.store rfl rfl)
  obtain ⟨s, hs, h⟩ : ∃ s, s = _ ∧ Reachable s := ⟨_, rfl, h₆⟩
  have hready : s.channels 0 = .ready (.ok (.fragile "boom")) := by rw [hs]; rfl
  have hnone : s.calls = [] := by rw [hs]
  obtain ⟨hstored, _, hcancel⟩ := cancel_atomic h
  have hpending := hstored hready
  obtain ⟨s', hs', st⟩ : ∃ s', s'.calls = s.calls ++ [.cancel 0 false .panicked] ∧
      Step s (.cancel 0) s' :=
    ⟨_, by rw [hpending], @Step.cancel s 0 true .panicked _ (by rw [hs]; rfl)⟩
  obtain ⟨_, _, hreader, quiet, st', _, hagenda, hrun, _⟩ := hcancel st hs'
  simp only [hnone, List.nil_append, List.length_nil] at hs' hrun
  obtain ⟨t, ht, hr⟩ : ∃ t, t.calls =
      s'.calls ++ [.read 0 none (.answered (.error (.notFound 0)))] ∧ Run s' [.read 0] t :=
    ⟨_, rfl, .cons (.readNothing (Prod.ext hreader rfl)) (.nil _)⟩
  rw [hs'] at ht
  exact ⟨s, s', quiet, t, h, st, hready, hpending, hs', hreader, st', hagenda, hr, ht, hrun hr⟩

end Chronicle
end TaskEngine
