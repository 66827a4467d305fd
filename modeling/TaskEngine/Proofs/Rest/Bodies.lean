import TaskEngine.Scenario.Advance

/-! Plain tasks pass gates and make notes, and end by returning a plain value or by an
ordinary panic. How one ends depends on its body alone, once all gates on its way are open,
and opening more gates changes no end that it can already come to. -/

namespace TaskEngine

namespace Action

def Plain : Action → Prop
  | .gate _ | .note _ | .threadName | .finish (.plain _) | .panic (.text _) | .panic .other => True
  | .finish (.fragile _) | .panic (.fragile _) | .call _ => False

def passes (gates : List String) : Action → Bool
  | .gate name => decide (name ∈ gates)
  | .note _ | .threadName => true
  | .finish _ | .panic _ | .call _ => false

def ending? : Action → Option (Ending Product)
  | .finish product => some (.returned product)
  | .panic payload => some (.panicked payload)
  | .gate _ | .note _ | .threadName | .call _ => none

theorem passes_mono {gates gates' : List String} (hg : gates ⊆ gates') {action : Action}
    (h : action.passes gates = true) : action.passes gates' = true := by
  cases action with
  | gate name => exact decide_eq_true (hg (of_decide_eq_true h))
  | note | threadName => rfl
  | finish | panic | call => exact nomatch h

theorem passes_of_ending? {action : Action} {ending : Ending Product}
    (h : action.ending? = some ending) (gates : List String) : action.passes gates = false := by
  cases action with
  | finish | panic => rfl
  | gate | note | threadName | call => exact nomatch h

end Action

/-- A value or a payload that can be dropped without a panic. -/
def Ending.Ordinary : Ending Product → Prop
  | .returned (.plain _) | .panicked (.text _) | .panicked .other => True
  | .returned (.fragile _) | .panicked (.fragile _) => False

inductive Beat
  | pass (rest : Body)
  | ends (ending : Ending Product)

namespace Body

def Plain (body : Body) : Prop := ∀ action ∈ body, action.Plain

/-- None at a closed gate. Calls are left out. -/
def beat? (gates : List String) : Body → Option Beat
  | [] => some (.ends (.returned (.plain .null)))
  | action :: rest =>
    if action.passes gates then some (.pass rest) else action.ending?.map .ends

/-- How a task ends while these gates are open, if it comes to an end. -/
def ending? (gates : List String) : Body → Option (Ending Product)
  | [] => some (.returned (.plain .null))
  | action :: rest => if action.passes gates then ending? gates rest else action.ending?

def isStuck (gates : List String) (body : Body) : Bool := (body.ending? gates).isNone

variable {gates gates' : List String} {body rest : Body} {ending : Ending Product}

theorem of_pass (h : body.beat? gates = some (.pass rest)) :
    ∃ action, body = action :: rest ∧ action.passes gates = true := by
  cases body with
  | nil => exact nomatch h
  | cons action body =>
    simp only [beat?] at h
    split at h
    · next hp =>
      obtain rfl := Beat.pass.inj (Option.some.inj h)
      exact ⟨action, rfl, hp⟩
    · cases ha : action.ending? <;> simp [ha] at h

theorem ending?_of_pass (h : body.beat? gates = some (.pass rest)) (hg : gates ⊆ gates') :
    body.ending? gates' = rest.ending? gates' := by
  obtain ⟨action, rfl, hp⟩ := of_pass h
  exact if_pos (Action.passes_mono hg hp)

theorem length_of_pass (h : body.beat? gates = some (.pass rest)) :
    body.length = rest.length + 1 := by
  obtain ⟨action, rfl, _⟩ := of_pass h
  rfl

theorem ending?_of_ends (h : body.beat? gates = some (.ends ending)) :
    body.ending? gates = some ending := by
  cases body with
  | nil => exact congrArg some (Beat.ends.inj (Option.some.inj h))
  | cons action body =>
    simp only [beat?, ending?] at h ⊢
    split at h
    · exact nomatch h
    · cases ha : action.ending? with
      | none => simp [ha] at h
      | some e => simp_all

theorem ending?_of_none (h : body.beat? gates = none) : body.ending? gates = none := by
  cases body with
  | nil => exact nomatch h
  | cons action body =>
    simp only [beat?, ending?] at h ⊢
    split at h
    · exact nomatch h
    · next hp => simpa [hp] using h

theorem ending?_mono (hg : gates ⊆ gates') (h : body.ending? gates = some ending) :
    body.ending? gates' = some ending := by
  induction body with
  | nil => exact h
  | cons action body ih =>
    simp only [ending?] at h ⊢
    split at h
    · next hp => rw [if_pos (Action.passes_mono hg hp), ih h]
    · simpa [Action.passes_of_ending? h] using h

theorem isStuck_mono (hg : gates ⊆ gates') (h : body.isStuck gates' = true) :
    body.isStuck gates = true := by
  unfold isStuck at h ⊢
  cases he : body.ending? gates with
  | none => rfl
  | some ending => simp [ending?_mono hg he] at h

theorem Plain.after_pass (hp : body.Plain) (h : body.beat? gates = some (.pass rest)) :
    rest.Plain := by
  obtain ⟨action, rfl, _⟩ := of_pass h
  exact fun a ha => hp a (List.mem_cons_of_mem _ ha)

theorem Plain.ordinary (hp : body.Plain) (h : body.ending? gates = some ending) :
    ending.Ordinary := by
  induction body with
  | nil =>
    obtain rfl := Option.some.inj h
    exact trivial
  | cons action body ih =>
    simp only [ending?] at h
    split at h
    · exact ih (fun a ha => hp a (List.mem_cons_of_mem _ ha)) h
    · have haction := hp action List.mem_cons_self
      cases action with
      | finish product =>
        obtain rfl := Option.some.inj h
        cases product <;> exact haction
      | panic payload =>
        obtain rfl := Option.some.inj h
        cases payload <;> exact haction
      | gate | note | threadName | call => exact nomatch h

end Body

theorem Ending.Ordinary.conclude {ending : Ending Product} (h : ending.Ordinary) (armed : Bool)
    (channel : Channel Product) :
    (∃ value, ending = .returned value ∧
        (conclude armed ending channel).1 = .completed) ∨
      ∃ payload error, ending = .panicked payload ∧
        (conclude armed ending channel).1 = .panicked error := by
  cases ending with
  | returned value =>
    cases value with
    | plain value => exact .inl ⟨_, rfl, by cases channel <;> rfl⟩
    | fragile => exact False.elim h
  | panicked payload =>
    cases payload with
    | text | other => exact .inr ⟨_, _, rfl, by cases channel <;> rfl⟩
    | fragile => exact False.elim h

namespace World

variable {w : World} {s : Strand} {rest : Body} {ending : Ending Product}

theorem addNote_strands (w : World) (place : Place) (note : Note) :
    (w.addNote place note).strands = w.strands ∧ (w.addNote place note).pools = w.pools := by
  cases place <;> exact ⟨rfl, rfl⟩

/-- A strand that acts does what `beat?` says: it passes an action, ends, or is held at a gate. -/
theorem act_of_pass (h : s.todo.beat? w.gates = some (.pass rest)) :
    (w.act s).strands = (w.setStrand s.place fun s => { s with todo := rest }).strands ∧
      (w.act s).pools = w.pools := by
  obtain ⟨action, htodo, hp⟩ := Body.of_pass h
  simp only [act, htodo]
  cases action with
  | gate name =>
    have hopen : isGateOpen (w.setStrand s.place fun s => { s with todo := rest }) name = true := by
      simpa [isGateOpen, setStrand] using .inr (of_decide_eq_true hp)
    dsimp only
    rw [if_pos hopen]
    exact ⟨rfl, rfl⟩
  | note value => exact addNote_strands _ _ _
  | threadName => exact addNote_strands _ _ _
  | finish | panic | call => exact nomatch hp

theorem act_of_ends (h : s.todo.beat? w.gates = some (.ends ending)) :
    ∃ v : World, v.pools = w.pools ∧ w.act s = v.endBody s.place ending := by
  unfold act
  cases htodo : s.todo with
  | nil =>
    rw [htodo] at h
    obtain rfl := Beat.ends.inj (Option.some.inj h)
    exact ⟨w, rfl, rfl⟩
  | cons action rest =>
    rw [htodo] at h
    cases action with
    | finish | panic =>
      obtain rfl := Beat.ends.inj (Option.some.inj h)
      exact ⟨w.setStrand s.place fun s => { s with todo := rest }, rfl, rfl⟩
    | gate name =>
      simp only [Body.beat?] at h
      split at h <;> simp [Action.ending?] at h
    | note | threadName | call => exact nomatch h

theorem act_of_none (hp : s.todo.Plain) (hg : w.gatesOpen = false)
    (h : s.todo.beat? w.gates = none) :
    ∃ name rest, s.todo = .gate name :: rest ∧ w.isOver (.gate name) = false ∧
      w.act s = (w.setStrand s.place fun s => { s with todo := rest }).setStrand s.place
        fun s => { s with hold := some (.gate name) } := by
  unfold act
  cases htodo : s.todo with
  | nil => simp [htodo, Body.beat?] at h
  | cons action rest =>
    rw [htodo] at h hp
    cases action with
    | gate name =>
      have hclosed : name ∉ w.gates := by
        intro hn
        simp [Body.beat?, Action.passes, hn] at h
      have hopen : isGateOpen (w.setStrand s.place fun s => { s with todo := rest }) name =
          false := by
        simpa [isGateOpen, setStrand, hg] using hclosed
      refine ⟨name, rest, rfl, by simpa [isOver, isGateOpen, hg] using hclosed, ?_⟩
      simp only [hopen, Bool.false_eq_true, if_false]
    | call => exact False.elim (hp _ List.mem_cons_self)
    | note | threadName | finish | panic => exact nomatch h

end World
end TaskEngine
