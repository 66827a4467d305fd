import TaskEngine.Proofs.Pool.Toil
import TaskEngine.Proofs.Pool.Workforce

/-! What comes of executing a task, over all the ways in which its body can end and over
what has become of its handle. The handle gets its answer first; then the worker gets the
lock, counts the task and goes on, or is gone. -/

namespace TaskEngine

def PanicPayload.text? : PanicPayload → Option String
  | .text message => some message
  | .other => some "non-string panic payload"
  | .fragile _ => none

theorem capture_panicked {α : Type} (payload : PanicPayload) :
    (Ending.panicked payload : Ending α).capture =
      payload.text?.map fun message => .error (.panicked message) := by
  cases payload <;> rfl

/-- What comes of a body. With its handle gone the value is dropped, quietly or with a panic; the
panic of the body is captured, or unwinds its worker. -/
inductive Effect
  | delivered (value : Product)
  | dropped
  | dropPanicked (message : String)
  | panicked (message : String)
  | unwound

/-- What a live handle answers. -/
def Effect.answer? : Effect → Option (Outcome Product)
  | .delivered value => some (.ok value)
  | .panicked message => some (.error (.panicked message))
  | .unwound => some (.error .discarded)
  | .dropped | .dropPanicked _ => none

def Effect.count (effect : Effect) (t : Tally) : Tally :=
  match effect with
  | .delivered _ | .dropped => { t with completed := t.completed + 1 }
  | .dropPanicked _ | .panicked _ => { t with panicked := t.panicked + 1 }
  | .unwound => t

/-- The effect of a body that ends so, with its handle still held or not. -/
inductive EffectOf (armed : Bool) (held : Prop) : Ending Product → Effect → Prop
  | delivered {value} (hh : held) : EffectOf armed held (.returned value) (.delivered value)
  | dropped {value} (hh : ¬held) (hd : dropPanic armed (.ok value) = none) :
      EffectOf armed held (.returned value) .dropped
  | dropPanicked {value message} (hh : ¬held) (hd : dropPanic armed (.ok value) = some message) :
      EffectOf armed held (.returned value) (.dropPanicked message)
  | panicked {payload message} (ht : payload.text? = some message) :
      EffectOf armed held (.panicked payload) (.panicked message)
  | unwound {payload} (ht : payload.text? = none) : EffectOf armed held (.panicked payload) .unwound

def Effect.conclusion : Effect → Conclusion
  | .delivered _ | .dropped => .completed
  | .dropPanicked message | .panicked message => .panicked (.panicked message)
  | .unwound => .unwound

namespace EffectOf

variable {armed : Bool} {held : Prop} {ending : Ending Product} {effect : Effect}

theorem unique {other : Effect} (h : EffectOf armed held ending effect)
    (h' : EffectOf armed held ending other) : other = effect := by
  cases h with
  | delivered hh => cases h' with
    | delivered => rfl
    | dropped hh' | dropPanicked hh' => exact absurd hh hh'
  | dropped hh hd => cases h' with
    | delivered hh' => exact absurd hh' hh
    | dropped => rfl
    | dropPanicked _ hd' => exact nomatch hd.symm.trans hd'
  | dropPanicked hh hd => cases h' with
    | delivered hh' => exact absurd hh' hh
    | dropped _ hd' => exact nomatch hd.symm.trans hd'
    | dropPanicked _ hd' => rw [Option.some.inj (hd.symm.trans hd')]
  | panicked ht => cases h' with
    | panicked ht' => rw [Option.some.inj (ht.symm.trans ht')]
    | unwound ht' => exact nomatch ht.symm.trans ht'
  | unwound ht => cases h' with
    | panicked ht' => exact nomatch ht.symm.trans ht'
    | unwound => rfl

theorem answer (h : EffectOf armed held ending effect) (hh : held) :
    effect.answer? = some (ending.capture.getD (.error .discarded)) := by
  cases h with
  | delivered => rfl
  | dropped hh' | dropPanicked hh' => exact absurd hh hh'
  | panicked ht | unwound ht => simp [Effect.answer?, capture_panicked, ht]

theorem conclude_held (h : EffectOf armed held ending effect) (hh : held) :
    (conclude armed ending .empty).1 = effect.conclusion ∧
      (conclude armed ending .empty).2.join =
        some (ending.capture.getD (.error .discarded), .closed) := by
  cases h with
  | delivered => exact ⟨rfl, rfl⟩
  | dropped hh' | dropPanicked hh' => exact absurd hh hh'
  | panicked ht =>
    simp [conclude, capture_panicked, ht, Channel.complete, Channel.join, Effect.conclusion]
  | unwound ht =>
    simp [conclude, capture_panicked, ht, Channel.dropProducer, Channel.join, Effect.conclusion]

theorem conclude_gone (h : EffectOf armed held ending effect) (hh : ¬held) :
    conclude armed ending .abandoned = (effect.conclusion, .abandoned) := by
  cases h with
  | delivered hh' => exact absurd hh' hh
  | dropped _ hd | dropPanicked _ hd =>
    simp [conclude, Ending.capture, Channel.complete, hd, Effect.conclusion]
  | panicked ht =>
    simp [conclude, capture_panicked, ht, Channel.complete, dropPanic, Effect.conclusion]
  | unwound ht => simp [conclude, capture_panicked, ht, Channel.dropProducer, Effect.conclusion]

end EffectOf

namespace Pool

variable {τ : Type} {p q : Pool τ} {id : Nat}

end Pool

namespace Session

open Pool Function

variable {c : PoolConfig} {s s' t : Session} {d : Deed} {id : Nat} {task : PoolTask}
  {effect : Effect}

/-- What the end of a body does. -/
structure Ends (s : Session) (task : PoolTask) (ending : Ending Product) (effect : Effect)
    (s' : Session) : Prop where
  pool : s'.pool = s.pool
  executions : s'.executions = s.executions ++ [⟨task, ending, effect.conclusion⟩]
  told : s'.told = s.told
  channels : ∀ n ≠ task.channel, s'.channels n = s.channels n
  held : s.IsHeld task.channel → s'.IsHeld task.channel ∧ ∃ outcome,
    effect.answer? = some outcome ∧ (s'.channels task.channel).join = some (outcome, .closed)
  gone : ¬s.IsHeld task.channel →
    s.channels task.channel = .abandoned ∧ s'.channels task.channel = .abandoned

theorem Reachable.running_open (hc : c.validate = .ok ()) (h : Reachable c s)
    (hr : s.IsRunning id task) :
    s.IsHeld task.channel ∧ s.channels task.channel = .empty ∨
      ¬s.IsHeld task.channel ∧ s.channels task.channel = .abandoned := by
  obtain ⟨htold, hempty | hgone⟩ := (h.delivered hc).running hc h hr
  · have haccepted := h.mem_accepted hc (.inl (h.running_dispatched hc hr))
    exact .inl ⟨⟨⟨task, haccepted, rfl⟩, htold, by simp [hempty]⟩, hempty⟩
  · exact .inr ⟨fun hh => hh.2.2 hgone, hgone⟩

theorem Reachable.ends (hc : c.validate = .ok ()) (h : Reachable c s) (hr : s.IsRunning id task)
    {armed : Bool} {ending : Ending Product}
    (he : EffectOf armed (s.IsHeld task.channel) ending effect) :
    (conclude armed ending (s.channels task.channel)).1 = effect.conclusion ∧
      s.Ends task ending effect { s with
        channels := update s.channels task.channel
          (conclude armed ending (s.channels task.channel)).2
        executions := s.executions ++
          [⟨task, ending, (conclude armed ending (s.channels task.channel)).1⟩] } := by
  have hframe : ∀ n ≠ task.channel, update s.channels task.channel
      (conclude armed ending (s.channels task.channel)).2 n = s.channels n :=
    fun n hn => update_of_ne hn _ _
  rcases h.running_open hc hr with ⟨hheld, hempty⟩ | ⟨hnot, hgone⟩
  · obtain ⟨hconclusion, hjoin⟩ := he.conclude_held hheld
    rw [← hempty] at hconclusion hjoin
    refine ⟨hconclusion, rfl, by rw [hconclusion], rfl, hframe,
      fun _ => ⟨⟨hheld.1, hheld.2.1, fun habandoned => ?_⟩, _, he.answer hheld, ?_⟩,
      fun hnot => absurd hheld hnot⟩
    · simp only [update_self] at habandoned
      simp [habandoned, Channel.join] at hjoin
    · simp only [update_self]
      exact hjoin
  · have hconclude := he.conclude_gone hnot
    rw [← hgone] at hconclude
    refine ⟨congrArg Prod.fst hconclude, rfl, by rw [hconclude], rfl, hframe,
      fun hheld => absurd hheld hnot, fun _ => ⟨hgone, ?_⟩⟩
    simp only [update_self, hconclude]
    exact hgone

end Session
end TaskEngine
