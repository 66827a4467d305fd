import TaskEngine.Task.Channel

/-! A handover is the life of one channel. The producer acts once, at some time. The reader
tries to read as often as it likes, until a try answers; or it waits in a join; or it drops
the handle. -/

namespace TaskEngine

inductive ReaderStage
  | holding
  | joining
  | answered
  | gone
  deriving DecidableEq

structure Handover (α : Type) where
  channel : Channel α := .empty
  acted : Bool := false
  reader : ReaderStage := .holding

namespace Handover

variable {α : Type}

/-- What is done, and what is returned. A completion returns what could not be delivered. A try
that has no answer leaves the handle with the reader. -/
inductive Deed (α : Type)
  | complete (outcome : Outcome α) (undelivered : Option (Outcome α))
  | leave
  | tryJoin (answer : Option (Outcome α))
  | poll (answer : Option (Outcome α))
  | join
  | joined (outcome : Outcome α)
  | dropHandle

inductive Step (s : Handover α) : Deed α → Handover α → Prop
  | complete {outcome undelivered channel} (ha : s.acted = false)
      (h : s.channel.complete outcome = (channel, undelivered)) :
      Step s (.complete outcome undelivered) { s with channel, acted := true }
  | leave (ha : s.acted = false) :
      Step s .leave { s with channel := s.channel.dropProducer, acted := true }
  | tryJoinEarly {channel} (hr : s.reader = .holding) (h : s.channel.tryJoin = .error channel) :
      Step s (.tryJoin none) { s with channel }
  | tryJoin {outcome channel} (hr : s.reader = .holding)
      (h : s.channel.tryJoin = .ok (outcome, channel)) :
      Step s (.tryJoin (some outcome)) { s with channel, reader := .answered }
  | pollEarly {channel} (hr : s.reader = .holding) (h : s.channel.poll = (none, channel)) :
      Step s (.poll none) { s with channel }
  | poll {outcome channel} (hr : s.reader = .holding)
      (h : s.channel.poll = (some outcome, channel)) :
      Step s (.poll (some outcome)) { s with channel, reader := .answered }
  | join (hr : s.reader = .holding) : Step s .join { s with reader := .joining }
  | joined {outcome channel} (hr : s.reader = .joining)
      (h : s.channel.join = some (outcome, channel)) :
      Step s (.joined outcome) { s with channel, reader := .answered }
  | dropHandle (hr : s.reader = .holding) :
      Step s .dropHandle { s with channel := s.channel.dropReader.1, reader := .gone }

/-- The deeds on a new channel, in any order, and where they lead. -/
inductive History : List (Deed α) → Handover α → Prop
  | nil : History [] {}
  | snoc {ds s d s'} (h : History ds s) (st : Step s d s') : History (ds ++ [d]) s'

def Deed.verdict? : Deed α → Option (Outcome α)
  | .complete outcome _ => some outcome
  | .leave => some (.error .discarded)
  | _ => none

def Deed.answer? : Deed α → Option (Outcome α)
  | .tryJoin answer | .poll answer => answer
  | .joined outcome => some outcome
  | _ => none

/-- What there is to read, once the producer has acted. -/
def verdict? (ds : List (Deed α)) : Option (Outcome α) := ds.findSome? Deed.verdict?

def answers (ds : List (Deed α)) : List (Outcome α) := ds.filterMap Deed.answer?

theorem verdict?_snoc (ds : List (Deed α)) (d : Deed α) :
    verdict? (ds ++ [d]) = (verdict? ds).or d.verdict? := by
  rw [verdict?, List.findSome?_append, List.findSome?_singleton]
  rfl

theorem answers_snoc (ds : List (Deed α)) (d : Deed α) :
    answers (ds ++ [d]) = answers ds ++ d.answer?.toList := by
  rw [answers, List.filterMap_append]
  cases h : d.answer? <;> simp [answers, h]

def after (s : Handover α) : Option (Outcome α) → Handover α
  | none => s
  | some _ => { s with channel := .closed, reader := .answered }

/-- The channel that has not been read, when this is what there is to read. -/
inductive Unread : Channel α → Option (Outcome α) → Prop
  | empty : Unread .empty none
  | ready (outcome : Outcome α) : Unread (.ready outcome) (some outcome)
  | closed : Unread .closed (some (.error .discarded))

namespace Unread

variable {c c' : Channel α} {verdict : Option (Outcome α)}

theorem tryJoin_eq_error_iff (h : Unread c verdict) :
    c.tryJoin = .error c' ↔ verdict = none ∧ c' = c := by
  cases h <;> simp [Channel.tryJoin, eq_comm]

theorem tryJoin_eq_ok_iff (h : Unread c verdict) {outcome : Outcome α} :
    c.tryJoin = .ok (outcome, c') ↔ verdict = some outcome ∧ c' = .closed := by
  cases h <;> simp [Channel.tryJoin, eq_comm]

theorem poll_eq_none_iff (h : Unread c verdict) :
    c.poll = (none, c') ↔ verdict = none ∧ c' = c := by
  cases h <;> simp [Channel.poll, eq_comm]

theorem poll_eq_some_iff (h : Unread c verdict) {outcome : Outcome α} :
    c.poll = (some outcome, c') ↔ verdict = some outcome ∧ c' = .closed := by
  cases h <;> simp [Channel.poll, eq_comm]

theorem join_eq_some_iff (h : Unread c verdict) {outcome : Outcome α} :
    c.join = some (outcome, c') ↔ verdict = some outcome ∧ c' = .closed := by
  cases h <;> simp [Channel.join, eq_comm]

end Unread

theorem unread_none_iff {c : Channel α} : Unread c none ↔ c = .empty :=
  ⟨fun h => by cases h; rfl, fun h => h ▸ .empty⟩

variable {ds : List (Deed α)} {s s' : Handover α} {d : Deed α}

theorem Step.acted (st : Step s d s') : s'.acted = (s.acted || d.verdict?.isSome) := by
  cases st <;> simp [Deed.verdict?]

theorem History.acted (h : History ds s) : s.acted = (verdict? ds).isSome := by
  induction h with
  | nil => rfl
  | snoc _ st ih => rw [st.acted, ih, verdict?_snoc, Option.isSome_or]

theorem History.verdict?_eq_none_iff (h : History ds s) : verdict? ds = none ↔ s.acted = false := by
  rw [h.acted, Option.isSome_eq_false_iff, Option.isNone_iff_eq_none]

theorem History.verdict?_of_mem (h : History ds s) (hd : d ∈ ds) {outcome : Outcome α}
    (hv : d.verdict? = some outcome) : verdict? ds = some outcome := by
  induction h with
  | nil => cases hd
  | @snoc ds s e s' h st ih =>
    rw [verdict?_snoc]
    rcases List.mem_append.mp hd with hd | hd
    · rw [ih hd, Option.some_or]
    obtain rfl := List.mem_singleton.mp hd
    have hnone : verdict? ds = none := by
      rw [h.verdict?_eq_none_iff]
      cases st with
      | complete ha | leave ha => exact ha
      | _ => cases hv
    rw [hnone, Option.none_or, hv]

/-- How the reader stands after the deeds. -/
inductive Stands (ds : List (Deed α)) (s : Handover α) : Prop
  | unread (hr : s.reader = .holding ∨ s.reader = .joining)
      (hc : Unread s.channel (verdict? ds)) (ha : answers ds = []) (hd : .dropHandle ∉ ds)
  | answered (hr : s.reader = .answered) {outcome : Outcome α} (hv : verdict? ds = some outcome)
      (ha : answers ds = [outcome]) (hd : .dropHandle ∉ ds)
  | gone (hr : s.reader = .gone) (hc : s.channel = .abandoned) (ha : answers ds = [])
      (hd : .dropHandle ∈ ds)

namespace Stands

theorem of_holding (h : Stands ds s) (hr : s.reader = .holding ∨ s.reader = .joining) :
    Unread s.channel (verdict? ds) ∧ answers ds = [] ∧ .dropHandle ∉ ds := by
  cases h with
  | unread _ hc ha hd => exact ⟨hc, ha, hd⟩
  | answered hr' | gone hr' => simp [hr'] at hr

theorem tryJoin_iff (h : Stands ds s) (answer : Option (Outcome α)) :
    Step s (.tryJoin answer) s' ↔
      s.reader = .holding ∧ answer = verdict? ds ∧ s' = s.after answer := by
  constructor
  · intro st
    cases st with
    | tryJoinEarly hr hc =>
      obtain ⟨hv, rfl⟩ := (h.of_holding (.inl hr)).1.tryJoin_eq_error_iff.mp hc
      exact ⟨hr, hv.symm, rfl⟩
    | tryJoin hr hc =>
      obtain ⟨hv, rfl⟩ := (h.of_holding (.inl hr)).1.tryJoin_eq_ok_iff.mp hc
      exact ⟨hr, hv.symm, rfl⟩
  · rintro ⟨hr, rfl, rfl⟩
    have hunread := (h.of_holding (.inl hr)).1
    cases hv : verdict? ds with
    | none => exact .tryJoinEarly hr (hunread.tryJoin_eq_error_iff.mpr ⟨hv, rfl⟩)
    | some outcome => exact .tryJoin hr (hunread.tryJoin_eq_ok_iff.mpr ⟨hv, rfl⟩)

theorem poll_iff (h : Stands ds s) (answer : Option (Outcome α)) :
    Step s (.poll answer) s' ↔
      s.reader = .holding ∧ answer = verdict? ds ∧ s' = s.after answer := by
  constructor
  · intro st
    cases st with
    | pollEarly hr hc =>
      obtain ⟨hv, rfl⟩ := (h.of_holding (.inl hr)).1.poll_eq_none_iff.mp hc
      exact ⟨hr, hv.symm, rfl⟩
    | poll hr hc =>
      obtain ⟨hv, rfl⟩ := (h.of_holding (.inl hr)).1.poll_eq_some_iff.mp hc
      exact ⟨hr, hv.symm, rfl⟩
  · rintro ⟨hr, rfl, rfl⟩
    have hunread := (h.of_holding (.inl hr)).1
    cases hv : verdict? ds with
    | none => exact .pollEarly hr (hunread.poll_eq_none_iff.mpr ⟨hv, rfl⟩)
    | some outcome => exact .poll hr (hunread.poll_eq_some_iff.mpr ⟨hv, rfl⟩)

theorem joined_iff (h : Stands ds s) (outcome : Outcome α) :
    Step s (.joined outcome) s' ↔
      s.reader = .joining ∧ some outcome = verdict? ds ∧ s' = s.after (some outcome) := by
  constructor
  · intro st
    cases st with
    | joined hr hc =>
      obtain ⟨hv, rfl⟩ := (h.of_holding (.inr hr)).1.join_eq_some_iff.mp hc
      exact ⟨hr, hv.symm, rfl⟩
  · rintro ⟨hr, hv, rfl⟩
    exact .joined hr ((h.of_holding (.inr hr)).1.join_eq_some_iff.mpr ⟨hv.symm, rfl⟩)

theorem complete_iff (h : Stands ds s) (hacted : s.acted = (verdict? ds).isSome)
    (outcome : Outcome α) (undelivered : Option (Outcome α)) :
    (∃ s', Step s (.complete outcome undelivered) s') ↔
      verdict? ds = none ∧
        (undelivered = none ∧ .dropHandle ∉ ds ∨
          undelivered = some outcome ∧ .dropHandle ∈ ds) := by
  have hnone : s.acted = false ↔ verdict? ds = none := by
    rw [hacted, Option.isSome_eq_false_iff, Option.isNone_iff_eq_none]
  constructor
  · rintro ⟨s', st⟩
    cases st with
    | complete ha hc =>
      refine ⟨hnone.mp ha, ?_⟩
      cases h with
      | unread _ hunread _ hd =>
        rw [hnone.mp ha, unread_none_iff] at hunread
        rw [hunread, Channel.complete_empty] at hc
        cases hc
        exact .inl ⟨rfl, hd⟩
      | answered _ hv => exact nomatch (hnone.mp ha).symm.trans hv
      | gone _ habandoned _ hd =>
        rw [habandoned] at hc
        cases hc
        exact .inr ⟨rfl, hd⟩
  · rintro ⟨hv, hcases⟩
    refine ⟨{ s with channel := (s.channel.complete outcome).1, acted := true },
      .complete (hnone.mpr hv) ?_⟩
    cases h with
    | unread _ hunread _ hd =>
      rw [hv, unread_none_iff] at hunread
      rw [hunread, Channel.complete_empty]
      obtain ⟨rfl, -⟩ | ⟨-, hd'⟩ := hcases
      · rfl
      · exact absurd hd' hd
    | answered _ hv' => exact nomatch hv.symm.trans hv'
    | gone _ habandoned _ hd =>
      rw [habandoned]
      obtain ⟨-, hd'⟩ | ⟨rfl, -⟩ := hcases
      · exact absurd hd hd'
      · rfl

theorem act (h : Stands ds s) (hnone : verdict? ds = none) (hnoanswer : d.answer? = none)
    (hne : d ≠ .dropHandle) (hr : s'.reader = s.reader)
    (hc : s.channel = .empty → Unread s'.channel d.verdict?)
    (hgone : s.channel = .abandoned → s'.channel = .abandoned) : Stands (ds ++ [d]) s' := by
  have hanswers : answers (ds ++ [d]) = answers ds := by simp [answers_snoc, hnoanswer]
  have hdrop : .dropHandle ∈ ds ++ [d] ↔ .dropHandle ∈ ds := by simp [hne.symm]
  cases h with
  | unread hr' hunread ha hd =>
    refine .unread (hr ▸ hr') ?_ (hanswers.trans ha) (mt hdrop.mp hd)
    rw [hnone, unread_none_iff] at hunread
    rw [verdict?_snoc, hnone, Option.none_or]
    exact hc hunread
  | answered _ hv => exact nomatch hnone.symm.trans hv
  | gone hr' habandoned ha hd =>
    exact .gone (hr.trans hr') (hgone habandoned) (hanswers.trans ha) (hdrop.mpr hd)

theorem read (h : Stands ds s) (hr : s.reader = .holding ∨ s.reader = .joining)
    (hverdict : d.verdict? = none) (hanswer : d.answer? = verdict? ds) (hne : d ≠ .dropHandle) :
    Stands (ds ++ [d]) (s.after (verdict? ds)) := by
  obtain ⟨hunread, ha, hd⟩ := h.of_holding hr
  have hkept : verdict? (ds ++ [d]) = verdict? ds := by
    rw [verdict?_snoc, hverdict, Option.or_none]
  have hd' : .dropHandle ∉ ds ++ [d] := by simp [hd, hne.symm]
  have hanswers : answers (ds ++ [d]) = (verdict? ds).toList := by
    rw [answers_snoc, ha, hanswer, List.nil_append]
  cases hv : verdict? ds with
  | none =>
    rw [hv] at hanswers
    exact .unread hr (hkept ▸ hunread) hanswers hd'
  | some outcome =>
    rw [hv] at hanswers hkept
    exact .answered rfl hkept hanswers hd'

end Stands

theorem History.stands (h : History ds s) : Stands ds s := by
  induction h with
  | nil => exact .unread (.inl rfl) .empty rfl (by simp)
  | @snoc ds s d s' h st ih =>
    cases d with
    | tryJoin answer =>
      obtain ⟨hr, rfl, rfl⟩ := (ih.tryJoin_iff answer).mp st
      exact ih.read (.inl hr) rfl rfl nofun
    | poll answer =>
      obtain ⟨hr, rfl, rfl⟩ := (ih.poll_iff answer).mp st
      exact ih.read (.inl hr) rfl rfl nofun
    | joined outcome =>
      obtain ⟨hr, hv, rfl⟩ := (ih.joined_iff outcome).mp st
      exact hv ▸ ih.read (.inr hr) rfl hv nofun
    | complete outcome undelivered =>
      cases st with
      | complete ha hc =>
        refine ih.act (h.verdict?_eq_none_iff.mpr ha) rfl nofun rfl (fun hempty => ?_)
          fun habandoned => ?_
        · rw [hempty, Channel.complete_empty] at hc
          cases hc
          exact .ready outcome
        · rw [habandoned] at hc
          cases hc
          rfl
    | leave =>
      cases st with
      | leave ha =>
        refine ih.act (h.verdict?_eq_none_iff.mpr ha) rfl nofun rfl (fun hempty => ?_)
          fun habandoned => ?_
        · exact hempty ▸ .closed
        · rw [habandoned]
          rfl
    | join =>
      cases st with
      | join hr =>
        obtain ⟨hunread, ha, hd⟩ := ih.of_holding (.inl hr)
        have hkept : verdict? (ds ++ [.join]) = verdict? ds :=
          (verdict?_snoc ds .join).trans Option.or_none
        refine .unread (.inr rfl) (hkept ▸ hunread) ?_ (by simp [hd])
        rw [answers_snoc, ha]
        rfl
    | dropHandle =>
      cases st with
      | dropHandle hr =>
        obtain ⟨-, ha, -⟩ := ih.of_holding (.inl hr)
        refine .gone rfl (Channel.dropReader_fst _) ?_ (by simp)
        rw [answers_snoc, ha]
        rfl

/-- Over any order of what the producer and the reader do: a try with the handle, or with the
handle as a future, and a join answer alike. There is no answer until the producer has acted, a
try then changes nothing, and a join goes on waiting. Once it has acted, the first of them
returns the completed outcome, or that the task was discarded if nothing was completed; none
comes after it. A completion gets its outcome back exactly if the handle was dropped before. -/
theorem read_once (h : History ds s) :
    (∀ answer s', Step s (.tryJoin answer) s' ↔
      s.reader = .holding ∧ answer = verdict? ds ∧ s' = s.after answer) ∧
    (∀ answer s', Step s (.poll answer) s' ↔
      s.reader = .holding ∧ answer = verdict? ds ∧ s' = s.after answer) ∧
    (∀ outcome s', Step s (.joined outcome) s' ↔
      s.reader = .joining ∧ some outcome = verdict? ds ∧ s' = s.after (some outcome)) ∧
    (∀ outcome undelivered, (∃ s', Step s (.complete outcome undelivered) s') ↔
      verdict? ds = none ∧
        (undelivered = none ∧ .dropHandle ∉ ds ∨
          undelivered = some outcome ∧ .dropHandle ∈ ds)) ∧
    (∀ d ∈ ds, ∀ outcome, d.verdict? = some outcome → verdict? ds = some outcome) ∧
    (s.reader = .answered → ∃ outcome, verdict? ds = some outcome ∧ answers ds = [outcome]) ∧
    (s.reader ≠ .answered → answers ds = []) := by
  have hs := h.stands
  refine ⟨fun answer s' => hs.tryJoin_iff answer, fun answer s' => hs.poll_iff answer,
    fun outcome s' => hs.joined_iff outcome,
    fun outcome undelivered => hs.complete_iff h.acted outcome undelivered,
    fun d hd outcome hv => h.verdict?_of_mem hd hv, fun hr => ?_, fun hr => ?_⟩
  · cases hs with
    | unread hr' => rcases hr' with hr' | hr' <;> exact nomatch hr.symm.trans hr'
    | answered _ hv ha => exact ⟨_, hv, ha⟩
    | gone hr' => exact nomatch hr.symm.trans hr'
  · cases hs with
    | unread _ _ ha | gone _ _ ha => exact ha
    | answered hr' => exact absurd hr' hr

/-- A handle that is tried, polled and joined before the task ends. -/
theorem read_once_joined :
    let s : Handover Nat := ⟨.ready (.ok 5), true, .joining⟩
    History [.tryJoin none, .poll none, .join, .complete (.ok 5) none] s ∧
      Step s (.joined (.ok 5)) ⟨.closed, true, .answered⟩ ∧
      ∀ answer s', ¬ Step s (.poll answer) s' := by
  intro s
  have h : History [.tryJoin none, .poll none, .join, .complete (.ok 5) none] s :=
    .snoc (.snoc (.snoc (.snoc .nil (.tryJoinEarly rfl rfl)) (.pollEarly rfl rfl)) (.join rfl))
      (.complete rfl rfl)
  obtain ⟨-, hpoll, hjoined, -⟩ := read_once h
  refine ⟨h, (hjoined (.ok 5) _).mpr ⟨rfl, rfl, rfl⟩, fun answer s' st => ?_⟩
  exact nomatch ((hpoll answer s').mp st).1

end Handover
end TaskEngine
