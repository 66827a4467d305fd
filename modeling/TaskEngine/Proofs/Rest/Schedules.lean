import Mathlib.Data.List.Chain
import TaskEngine.Proofs.Rest.Descent

/-! A script leaves the schedule open: which worker gets the lock next, whom a notification
wakes, when a timeout passes, how far each call has come. What is seen of the yard when it
is at rest is the same for all schedules. -/

namespace TaskEngine
namespace Yard

variable {y y' z z' : Yard} {script : List Command} {command : Command}

def Kept (y : Yard) : Prop := ∀ w ∈ y.shops, w.Kept y.gates

/-- The same gates are open, and the pools are alike one by one. -/
structure Alike (y z : Yard) : Prop where
  gates : z.gates = y.gates
  length : z.shops.length = y.shops.length
  shops : ∀ (i : Nat) (w v : Workshop), y.shops[i]? = some w → z.shops[i]? = some v → w.Alike v

theorem Alike.refl (y : Yard) : y.Alike y := by
  refine ⟨rfl, rfl, fun i w v hw hv => ?_⟩
  obtain rfl := Option.some.inj (hw.symm.trans hv)
  exact .refl w

theorem Alike.symm (h : y.Alike z) : z.Alike y :=
  ⟨h.gates.symm, h.length.symm, fun i w v hw hv => (h.shops i v w hv hw).symm⟩

theorem Alike.trans (h : y.Alike z) (h' : z.Alike z') : y.Alike z' := by
  refine ⟨h'.gates.trans h.gates, h'.length.trans h.length, fun i w v hw hv => ?_⟩
  have hi : i < z.shops.length := h.length ▸ (List.getElem?_eq_some_iff.mp hw).1
  exact (h.shops i w _ hw (List.getElem?_eq_getElem hi)).trans
    (h'.shops i _ v (List.getElem?_eq_getElem hi) hv)

theorem Kept.set {i : Nat} {w : Workshop} (h : y.Kept) (hw : w.Kept y.gates) :
    Kept { y with shops := y.shops.set i w } := by
  intro v hv
  rcases List.mem_or_eq_of_mem_set hv with hv | rfl
  · exact h v hv
  · exact hw

theorem Kept.move (h : y.Kept) (m : y.Move y') : y'.Kept := by
  cases m with
  | «at» hw m => exact h.set ((h _ (List.mem_of_getElem? hw)).move m)

theorem Kept.stir (h : y.Kept) (m : y.Stir y') : y'.Kept := by
  cases m with
  | «at» hw m => exact h.set ((h _ (List.mem_of_getElem? hw)).stir m)

theorem alike_set {i : Nat} {w w' : Workshop} (hw : y.shops[i]? = some w) (ha : w.Alike w') :
    y.Alike { y with shops := y.shops.set i w' } := by
  refine ⟨rfl, List.length_set, fun j u v hu hv => ?_⟩
  simp only [List.getElem?_set] at hv
  split at hv
  · next hij =>
    subst hij
    split at hv
    · obtain rfl := Option.some.inj hv
      obtain rfl := Option.some.inj (hw.symm.trans hu)
      exact ha
    · exact nomatch hv
  · obtain rfl := Option.some.inj (hu.symm.trans hv)
    exact .refl _

theorem Kept.alike (h : y.Kept) (m : y.Move y' ∨ y.Stir y') : y.Alike y' := by
  rcases m with m | m
  · cases m with
    | «at» hw m => exact alike_set hw ((h _ (List.mem_of_getElem? hw)).alike m)
  · cases m with
    | «at» hw m => exact alike_set hw m.alike

theorem Kept.settled (h : y.Kept) (hs : y.Settles y') : y'.Kept ∧ y.Alike y' := by
  obtain ⟨hm, -⟩ := hs
  induction hm with
  | refl => exact ⟨h, .refl _⟩
  | tail _ m ih => exact ⟨m.elim ih.1.move ih.1.stir, ih.2.trans (ih.1.alike m)⟩

theorem AtRest.shop (hr : y.AtRest) {i : Nat} {w : Workshop} (hw : y.shops[i]? = some w) :
    w.AtRest y.gates := fun _ m => hr _ (.at hw m)

theorem Kept.still (h : y.Kept) (hr : y.AtRest) {i : Nat} {w : Workshop}
    (hw : y.shops[i]? = some w) : w.Kept y.gates ∧ w.Still y.gates :=
  have hkept := h w (List.mem_of_getElem? hw)
  ⟨hkept, hkept.still (hr.shop hw)⟩

theorem atRest_of_still (h : ∀ w ∈ y.shops, w.Still y.gates) : y.AtRest := by
  intro y' m
  cases m with
  | «at» hw m => exact (h _ (List.mem_of_getElem? hw)).atRest _ m

theorem settles_single {gates : List String} {w w' : Workshop}
    (hm : Relation.ReflTransGen (Workshop.Move gates) w w') (hs : w'.Still gates) :
    Settles { gates, shops := [w] } { gates, shops := [w'] } := by
  refine ⟨hm.lift (fun v => ({ gates, shops := [v] } : Yard)) fun v v' m =>
    .inl (.at (i := 0) rfl m), atRest_of_still fun v hv => ?_⟩
  rwa [List.mem_singleton.mp hv]

section Two

variable (hy : y.Kept) (hz : z.Kept) (ha : y.Alike z) (hyr : y.AtRest) (hzr : z.AtRest)
include hy hz ha hyr hzr

theorem Alike.same {i : Nat} {w v : Workshop} (hw : y.shops[i]? = some w)
    (hv : z.shops[i]? = some v) : w.Same v ∧ v.view = w.view := by
  obtain ⟨hwk, hws⟩ := hy.still hyr hw
  obtain ⟨hvk, hvs⟩ := hz.still hzr hv
  rw [ha.gates] at hvk hvs
  have hsame := (ha.shops i w v hw hv).same hwk hvk hws hvs
  exact ⟨hsame, hsame.view hwk hvk hws hvs⟩

theorem Alike.view_eq : z.view = y.view := by
  refine List.ext_getElem? fun i => ?_
  simp only [view, List.getElem?_map]
  cases hw : y.shops[i]? with
  | none =>
    have hi : z.shops[i]? = none := by
      rw [List.getElem?_eq_none_iff, ha.length]
      exact List.getElem?_eq_none_iff.mp hw
    rw [hi]
  | some w =>
    have hi : i < z.shops.length := ha.length ▸ (List.getElem?_eq_some_iff.mp hw).1
    have hv := List.getElem?_eq_getElem hi
    rw [hv]
    exact congrArg some (ha.same hy hz hyr hzr hw hv).2

end Two

theorem Kept.obeys (h : y.Kept) (hr : y.AtRest) (ho : y.Obeys command y') : y'.Kept := by
  cases ho with
  | createPool hc =>
    intro w hw
    rcases List.mem_append.mp hw with hw | hw
    · exact h w hw
    · rw [List.mem_singleton.mp hw]
      exact Workshop.kept_start hc
  | openGate => exact fun w hw => (h w hw).open (List.subset_cons_self _ _)
  | request hw ht =>
    obtain ⟨hkept, hstill⟩ := h.still hr hw
    exact h.set (hkept.takes hstill ht)

theorem Alike.obeys (hy : y.Kept) (hz : z.Kept) (ha : y.Alike z) (hyr : y.AtRest)
    (hzr : z.AtRest) (ho : y.Obeys command y') (ho' : z.Obeys command z') : y'.Alike z' := by
  cases ho with
  | createPool hc =>
    cases ho' with
    | createPool =>
      refine ⟨ha.gates, by simp [ha.length], fun i w v hw hv => ?_⟩
      simp only [List.getElem?_append, ha.length] at hw hv
      split at hw
      · next hi =>
        rw [if_pos hi] at hv
        exact ha.shops i w v hw hv
      · next hi =>
        rw [if_neg hi] at hv
        obtain rfl := Option.some.inj (hw.symm.trans hv)
        exact .refl w
  | openGate =>
    cases ho' with
    | openGate => exact ⟨congrArg (List.cons _) ha.gates, ha.length, ha.shops⟩
  | @request i r w w' hw ht =>
    cases ho' with
    | @request _ _ v v' hv ht' =>
      obtain ⟨hwk, _⟩ := hy.still hyr hw
      obtain ⟨hvk, _⟩ := hz.still hzr hv
      rw [ha.gates] at hvk
      have hafter := (ha.same hy hz hyr hzr hw hv).1.takes hwk hvk ht ht'
      refine ⟨ha.gates, by simp [ha.length], fun j u t hu ht => ?_⟩
      simp only [List.getElem?_set, ha.length] at hu ht
      split at hu
      · next hij =>
        rw [if_pos hij] at ht
        split at hu
        · next hi =>
          rw [if_pos hi] at ht
          obtain rfl := Option.some.inj hu
          obtain rfl := Option.some.inj ht
          exact hafter
        · exact nomatch hu
      · next hij =>
        rw [if_neg hij] at ht
        exact ha.shops j u t hu ht

theorem Plays.kept (h : Plays script y) : y.Kept ∧ y.AtRest := by
  induction h with
  | nil => exact ⟨nofun, atRest_of_still nofun⟩
  | snoc _ ho hs ih => exact ⟨((ih.1.obeys ih.2 ho).settled hs).1, hs.2⟩

theorem Plays.of_nil (h : Plays [] y) : y = {} := by
  generalize hs : ([] : List Command) = commands at h
  cases h with
  | nil => rfl
  | snoc => simp at hs

theorem Plays.of_snoc (h : Plays (script ++ [command]) y') :
    ∃ y m, Plays script y ∧ y.Obeys command m ∧ m.Settles y' := by
  generalize hs : script ++ [command] = commands at h
  cases h with
  | nil => simp at hs
  | snoc h ho hm =>
    obtain ⟨rfl, hlast⟩ := List.append_inj' hs rfl
    obtain rfl := List.head_eq_of_cons_eq hlast
    exact ⟨_, _, h, ho, hm⟩

theorem Plays.alike (h : Plays script y) (h' : Plays script z) : y.Alike z := by
  induction h generalizing z with
  | nil =>
    obtain rfl := h'.of_nil
    exact .refl _
  | snoc h ho hs ih =>
    obtain ⟨z₀, n, hz₀, ho', hs'⟩ := h'.of_snoc
    have hm := h.kept.1.obeys h.kept.2 ho
    have hn := hz₀.kept.1.obeys hz₀.kept.2 ho'
    have halike := (ih hz₀).obeys h.kept.1 hz₀.kept.1 h.kept.2 hz₀.kept.2 ho ho'
    exact ((hm.settled hs).2.symm.trans halike).trans (hn.settled hs').2

def weight (y : Yard) : Nat := (y.shops.map Workshop.weight).sum

theorem Kept.weight_lt (h : y.Kept) (m : y.Move y') : y'.weight < y.weight := by
  cases m with
  | @«at» i w w' hw m =>
    have hlt := (h w (List.mem_of_getElem? hw)).weight_lt m
    obtain ⟨hi, hget⟩ := List.getElem?_eq_some_iff.mp hw
    obtain ⟨before, after, hshops, -, hset⟩ := @List.exists_of_set _ i w' y.shops hi
    rw [hget] at hshops
    show ((y.shops.set i w').map Workshop.weight).sum < (y.shops.map Workshop.weight).sum
    rw [hset, hshops]
    simp only [List.map_append, List.map_cons, List.sum_append, List.sum_cons]
    omega

theorem Kept.length_le (h : y.Kept) {path : List Yard} (hp : (y :: path).IsChain Move) :
    path.length ≤ y.weight := by
  induction path generalizing y with
  | nil => exact Nat.zero_le _
  | cons y' path ih =>
    obtain ⟨m, hp⟩ := List.isChain_cons_cons.mp hp
    have hlt := h.weight_lt m
    have hle := ih (h.move m) hp
    rw [List.length_cons]
    omega

theorem Kept.exists_rest (h : y.Kept) : ∃ r, Relation.ReflTransGen Move y r ∧ r.AtRest := by
  induction hn : y.weight using Nat.strongRecOn generalizing y with
  | ind n ih =>
    by_cases hr : y.AtRest
    · exact ⟨y, .refl, hr⟩
    · obtain ⟨y', m⟩ : ∃ y', y.Move y' := by simpa [AtRest] using hr
      obtain ⟨r, hm, hr⟩ := ih y'.weight (hn ▸ h.weight_lt m) (h.move m) rfl
      exact ⟨r, .head m hm, hr⟩

/-- After a command at rest no order of moves goes on for ever, so that each leads to rest; and all
that is seen of the pools then is the same for all orders, and for all ways in which the script
before could have gone. -/
theorem view_unique_at_rest {m : Yard} (h : Plays script y) (ho : y.Obeys command m) :
    (∀ path : List Yard, (m :: path).IsChain Move → path.length ≤ m.weight) ∧
      (∃ r, Relation.ReflTransGen Move m r ∧ r.AtRest) ∧
      ∀ r r', m.Settles r → Plays (script ++ [command]) r' → r'.view = r.view := by
  have hkept := h.kept.1.obeys h.kept.2 ho
  refine ⟨fun path hp => hkept.length_le hp, hkept.exists_rest, fun r r' hs hr' => ?_⟩
  have hr := Plays.snoc h ho hs
  exact (hr.alike hr').view_eq hr.kept.1 hr'.kept.1 hr.kept.2 hr'.kept.2

/-- Two workers, and room for one task more. -/
def pair : PoolConfig := { coreThreads := 2, maxThreads := 2, queueCapacity := 1 }

/-- Two workers are kept at a gate while a third task is queued. With the gate open both tasks end,
and it is open whose worker is the first to have the lock and takes the third task. -/
theorem view_unique_at_rest_pair : ∃ y m r r', Plays [.createPool pair,
      .request 0 (.submit [.gate "a"]), .request 0 (.submit [.gate "a", .panic (.text "x")]),
      .request 0 (.submit [.gate "b"])] y ∧
    y.Obeys (.openGate "a") m ∧ m.Settles r ∧ m.Settles r' ∧
    (r.shops.map fun w => w.session.pool.phase? 0) = [some (.executing ⟨[.gate "b"], 2⟩)] ∧
    (r'.shops.map fun w => w.session.pool.phase? 1) = [some (.executing ⟨[.gate "b"], 2⟩)] ∧
    ∀ r, m.Settles r → r.view =
      [{ stage := .running, accepting := true, active := 2, idle := 1, queued := 0,
         tally := { submitted := 3, completed := 1, panicked := 1, spawnedWorkers := 2 },
         handles := [(0, some (.ok (.plain .null))), (1, some (.error (.panicked "x"))),
           (2, none)] }] := by
  have hp₁ : Body.Plain [.gate "a"] := by simp [Body.Plain, Action.Plain]
  have hp₂ : Body.Plain [.gate "a", .panic (.text "x")] := by simp [Body.Plain, Action.Plain]
  have hp₃ : Body.Plain [.gate "b"] := by simp [Body.Plain, Action.Plain]
  have hlong : ¬pair.idleTimeout.nanoseconds ≤ World.shortTimeout.nanoseconds := by decide
  have h₁ := Plays.snoc .nil (@Obeys.createPool _ pair rfl) (settles_single
    (.head (.pool (d := .turn 0) trivial (.turn (w := ⟨0, .starting⟩) (.head _) rfl))
      (.single (.pool (d := .turn 1) trivial (.turn (w := ⟨1, .starting⟩) (.head _) rfl))))
    ⟨rfl, rfl, rfl, nofun, nofun, nofun, fun h => absurd h hlong⟩)
  have h₂ := h₁.snoc (.request (i := 0) rfl (.submit hp₁ (.accept rfl))) (settles_single
    (.head (.pool (d := .notify (some 0)) trivial (.notify rfl (.head _)))
      (.single (.pool (d := .turn 0) trivial (.turn (w := ⟨0, .woken false⟩) (.head _) rfl))))
    ⟨rfl, rfl, rfl, List.forall_mem_cons.mpr ⟨rfl, nofun⟩, nofun, nofun,
      fun h => absurd h hlong⟩)
  have h₃ := h₂.snoc (.request (i := 0) rfl (.submit hp₂ (.accept rfl))) (settles_single
    (.head (.pool (d := .notify (some 1)) trivial (.notify rfl (.tail _ (.head _))))
      (.single (.pool (d := .turn 1) trivial
        (.turn (w := ⟨1, .woken false⟩) (.tail _ (.head _)) rfl))))
    ⟨rfl, rfl, rfl, List.forall_mem_cons.mpr ⟨rfl, List.forall_mem_cons.mpr ⟨rfl, nofun⟩⟩,
      nofun, nofun, fun h => absurd h hlong⟩)
  have h₄ := h₃.snoc (.request (i := 0) rfl (.submit hp₃ (.accept rfl))) (settles_single
    (.single (.pool (d := .notify none) trivial (.notifyNobody rfl rfl)))
    ⟨rfl, rfl, rfl, List.forall_mem_cons.mpr ⟨rfl, List.forall_mem_cons.mpr ⟨rfl, nofun⟩⟩,
      nofun, nofun, fun h => absurd h hlong⟩)
  have hbegin {w : Workshop} {script : List Command} (_ : Plays script { shops := [w] }) :
      Relation.ReflTransGen (Workshop.Move ["a"]) w w := .refl
  have l₁ := (hbegin h₄).tail (@Workshop.Move.act _ _ 0 _ _ ⟨.head _, nofun⟩ rfl)
  have l₂ := l₁.tail (@Workshop.Move.act _ _ 1 _ _ ⟨.tail _ (.head _), nofun⟩ rfl)
  have l₃ := l₂.tail (.endTask ⟨.head _, nofun⟩ rfl
    (@Session.Step.endTask _ 0 _ _ true _ _ ⟨.head _, nofun⟩ nofun rfl))
  have l₄ := l₃.tail (.endTask ⟨.tail _ (.head _), by decide⟩ rfl
    (@Session.Step.endTask _ 1 _ _ true _ _ ⟨.tail _ (.head _), by decide⟩ nofun rfl))
  have finish {w : Workshop} {n : Nat} {e : Execution}
      (hw : ⟨n, .executing e.task⟩ ∈ w.session.pool.crew) (he : e ∈ w.session.executions) :
      w.Move ["a"] _ := .pool (d := .finish n) trivial (.finish hw he)
  have l₅ := (l₄.tail (finish (.head _) (.head _))).tail
    (finish (.tail _ (.head _)) (.tail _ (.head _)))
  have l₆ := (l₄.tail (finish (.tail _ (.head _)) (.tail _ (.head _)))).tail
    (finish (.head _) (.head _))
  have hs := settles_single l₅ ⟨rfl, rfl, rfl, List.forall_mem_cons.mpr ⟨rfl, nofun⟩,
    List.forall_mem_cons.mpr ⟨by decide, nofun⟩, nofun, fun h => absurd h hlong⟩
  have hs' := settles_single l₆ ⟨rfl, rfl, rfl, List.forall_mem_cons.mpr ⟨rfl, nofun⟩,
    List.forall_mem_cons.mpr ⟨by decide, nofun⟩, nofun, fun h => absurd h hlong⟩
  obtain ⟨_, _, hsame⟩ := view_unique_at_rest h₄ .openGate
  exact ⟨_, _, _, _, h₄, .openGate, hs, hs', rfl, rfl,
    fun r hr => (hsame _ r hs (h₄.snoc .openGate hr)).trans rfl⟩

end Yard
end TaskEngine
