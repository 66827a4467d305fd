import Mathlib.Data.List.Induction
import Mathlib.Data.List.Perm.Basic
import TaskEngine.Log.Filter

/-! A filter has the last directive of each target and no other, in an order that this alone
determines. The directive of the longest target that an event's begins with decides about
the event. -/

namespace TaskEngine

namespace LogDirective

/-- The characters an event's target has to begin with. -/
def start (d : LogDirective) : List Char := (d.target.map String.toList).getD []

theorem covers_iff (d : LogDirective) (target : String) :
    d.covers target = true ↔ d.start <+: target.toList := by
  obtain ⟨_ | s, t⟩ := d
  · simp [covers, start]
  · simp [covers, start, List.isPrefixOf_iff_prefix]

theorem precedes_some_iff (s t : String) : precedes (some s) (some t) = true ↔
    t.utf8ByteSize < s.utf8ByteSize ∨ t.utf8ByteSize = s.utf8ByteSize ∧ t < s := by
  simp [precedes]

theorem not_precedes_self (t : Option String) : ¬ precedes t t = true := by
  cases t with
  | none => exact Bool.false_ne_true
  | some s =>
    rw [precedes_some_iff]
    rintro (h | ⟨-, h⟩)
    · exact Nat.lt_irrefl _ h
    · exact String.lt_irrefl _ h

theorem precedes_trans {a b c : Option String} (hab : precedes a b = true)
    (hbc : precedes b c = true) : precedes a c = true := by
  cases a with
  | none => cases hab
  | some s =>
  cases b with
  | none => cases hbc
  | some t =>
  cases c with
  | none => rfl
  | some u =>
    rw [precedes_some_iff] at *
    obtain hst | ⟨hst, hlt⟩ := hab
    · exact .inl (by omega)
    · obtain htu | ⟨htu, hlt'⟩ := hbc
      · exact .inl (by omega)
      · exact .inr ⟨by omega, String.lt_trans hlt' hlt⟩

theorem precedes_of_not {a b : Option String} (h : ¬ precedes a b = true) (hne : a ≠ b) :
    precedes b a = true := by
  cases b with
  | none =>
    cases a with
    | none => exact absurd rfl hne
    | some => exact absurd rfl h
  | some t =>
  cases a with
  | none => rfl
  | some s =>
    rw [precedes_some_iff, not_or] at h
    rw [precedes_some_iff]
    obtain ⟨hsize, hsame⟩ := h
    obtain hlt | heq := Nat.lt_or_eq_of_le (Nat.not_lt.mp hsize)
    · exact .inl hlt
    · refine .inr ⟨heq, ?_⟩
      by_contra hle
      have hge : ¬ t < s := fun hlt => hsame ⟨heq.symm, hlt⟩
      exact hne (congrArg some (String.le_antisymm (String.not_lt.mp hge) (String.not_lt.mp hle)))

theorem start_length_le_of_precedes {d e : LogDirective} {cs : List Char}
    (h : precedes d.target e.target = true) (hd : d.start <+: cs) (he : e.start <+: cs) :
    e.start.length ≤ d.start.length := by
  obtain ⟨s, _⟩ := d
  obtain ⟨t, _⟩ := e
  cases s with
  | none => cases h
  | some s =>
  cases t with
  | none => exact Nat.zero_le _
  | some t =>
  have hsize : t.utf8ByteSize ≤ s.utf8ByteSize := by
    rw [precedes_some_iff] at h
    omega
  obtain hst | hts := List.prefix_or_prefix_of_prefix hd he
  · obtain ⟨rest, hrest⟩ := hst
    have htext : t = s ++ String.ofList rest := by
      rw [← String.toList_inj, String.toList_append, String.toList_ofList]
      exact hrest.symm
    rw [htext, String.utf8ByteSize_append] at hsize
    have hnone : String.ofList rest = "" := String.utf8ByteSize_eq_zero_iff.mp (by omega)
    rw [htext, hnone, String.append_empty]
    exact Nat.le_refl _
  · exact hts.length_le

theorem target_eq_of_start_eq {d e : LogDirective} (hd : d.target ≠ some "")
    (he : e.target ≠ some "") (h : d.start = e.start) : d.target = e.target := by
  obtain ⟨_ | s, _⟩ := d <;> obtain ⟨_ | t, _⟩ := e
  · rfl
  · exact absurd (congrArg some (String.toList_eq_nil_iff.mp h.symm)) he
  · exact absurd (congrArg some (String.toList_eq_nil_iff.mp h)) hd
  · exact congrArg some (String.toList_inj.mp h)

end LogDirective

namespace LogFilter

def Sorted (placed : List LogDirective) : Prop :=
  placed.Pairwise fun d e => LogDirective.precedes d.target e.target = true

/-- The last directive of a target. -/
def last? (ds : List LogDirective) (target : Option String) : Option LogDirective :=
  (ds.filter fun d => d.target = target).getLast?

variable {d e : LogDirective} {ds placed : List LogDirective}

theorem mem_insert (h : e ∈ insert d placed) : e = d ∨ e ∈ placed := by
  fun_induction insert d placed with
  | case1 => exact .inl (List.mem_singleton.mp h)
  | case2 | case3 | case4 => grind

theorem sorted_insert (h : Sorted placed) : Sorted (insert d placed) := by
  fun_induction insert d placed with
  | case1 => exact List.pairwise_singleton _ _
  | case2 e rest heq =>
    obtain ⟨hfirst, hrest⟩ := List.pairwise_cons.mp h
    exact List.pairwise_cons.mpr ⟨heq ▸ hfirst, hrest⟩
  | case3 e rest hne hlt =>
    obtain ⟨hfirst, -⟩ := List.pairwise_cons.mp h
    refine List.pairwise_cons.mpr ⟨fun c hc => ?_, h⟩
    obtain rfl | hc := List.mem_cons.mp hc
    · exact hlt
    · exact LogDirective.precedes_trans hlt (hfirst c hc)
  | case4 e rest hne hge ih =>
    obtain ⟨hfirst, hrest⟩ := List.pairwise_cons.mp h
    refine List.pairwise_cons.mpr ⟨fun c hc => ?_, ih hrest⟩
    obtain rfl | hc := mem_insert hc
    · exact LogDirective.precedes_of_not hge hne
    · exact hfirst c hc

theorem find?_insert (d : LogDirective) (placed : List LogDirective) (target : Option String) :
    (insert d placed).find? (fun e => e.target = target) =
      if d.target = target then some d else placed.find? (fun e => e.target = target) := by
  fun_induction insert d placed with
  | case1 => grind
  -- One of the same target gives way, so that a search for it ends at the new one.
  | case2 e rest heq => grind
  | case3 e rest hne hlt => grind
  | case4 e rest hne hge ih => grind

theorem ofDirectives_concat (ds : List LogDirective) (d : LogDirective) :
    (ofDirectives (ds ++ [d])).directives = insert d (ofDirectives ds).directives := by
  simp [ofDirectives]

theorem last?_concat (ds : List LogDirective) (d : LogDirective) (target : Option String) :
    last? (ds ++ [d]) target = if d.target = target then some d else last? ds target := by
  by_cases h : d.target = target <;> simp [last?, h]

theorem sorted_ofDirectives (ds : List LogDirective) : Sorted (ofDirectives ds).directives := by
  induction ds using List.reverseRecOn with
  | nil => exact .nil
  | append_singleton ds d ih =>
    rw [ofDirectives_concat]
    exact sorted_insert ih

theorem find?_ofDirectives (ds : List LogDirective) (target : Option String) :
    (ofDirectives ds).directives.find? (fun e => e.target = target) = last? ds target := by
  induction ds using List.reverseRecOn with
  | nil => rfl
  | append_singleton ds d ih => rw [ofDirectives_concat, find?_insert, ih, last?_concat]

theorem Sorted.mem_iff (h : Sorted placed) :
    d ∈ placed ↔ placed.find? (fun e => e.target = d.target) = some d := by
  refine ⟨fun hd => ?_, List.mem_of_find?_eq_some⟩
  induction placed with
  | nil => cases hd
  | cons e rest ih =>
    obtain ⟨hfirst, hrest⟩ := List.pairwise_cons.mp h
    obtain rfl | hd := List.mem_cons.mp hd
    · simp
    · have hne : e.target ≠ d.target := fun heq =>
        LogDirective.not_precedes_self _ (heq ▸ hfirst d hd)
      rw [List.find?_cons_of_neg (by simpa using hne), ih hrest hd]

theorem mem_ofDirectives : d ∈ (ofDirectives ds).directives ↔ last? ds d.target = some d := by
  rw [(sorted_ofDirectives ds).mem_iff, find?_ofDirectives]

theorem Sorted.nodup (h : Sorted placed) : placed.Nodup := by
  refine h.imp fun {d e} hlt heq => ?_
  subst heq
  exact LogDirective.not_precedes_self _ hlt

/-- The order leaves no choice. -/
theorem Sorted.eq_of_forall_find? {others : List LogDirective} (h : Sorted placed)
    (h' : Sorted others)
    (hfind : ∀ target : Option String, placed.find? (fun e => e.target = target) =
      others.find? (fun e => e.target = target)) : placed = others := by
  have hmem : ∀ d, d ∈ placed ↔ d ∈ others := fun d => by rw [h.mem_iff, h'.mem_iff, hfind]
  refine List.Perm.eq_of_pairwise (fun d e _ _ hlt hgt => ?_) h h'
    ((List.perm_ext_iff_of_nodup h.nodup h'.nodup).mpr hmem)
  exact absurd (LogDirective.precedes_trans hlt hgt) (LogDirective.not_precedes_self _)

theorem ofDirectives_eq_of_last? {ds' : List LogDirective}
    (h : ∀ target, last? ds target = last? ds' target) : ofDirectives ds = ofDirectives ds' := by
  have hplaced := (sorted_ofDirectives ds).eq_of_forall_find? (sorted_ofDirectives ds')
    fun target => by rw [find?_ofDirectives, find?_ofDirectives, h]
  exact congrArg LogFilter.mk hplaced

theorem Sorted.last?_eq (h : Sorted placed) (target : Option String) :
    last? placed target = placed.find? (fun e => e.target = target) := by
  cases hlast : last? placed target with
  | none =>
    rw [last?, List.getLast?_eq_none_iff, List.filter_eq_nil_iff] at hlast
    exact (List.find?_eq_none.mpr hlast).symm
  | some d =>
    obtain ⟨hd, htarget⟩ := List.mem_filter.mp (List.mem_of_getLast? hlast)
    obtain rfl := of_decide_eq_true htarget
    exact (h.mem_iff.mp hd).symm

theorem ofDirectives_directives (ds : List LogDirective) :
    ofDirectives (ofDirectives ds).directives = ofDirectives ds :=
  ofDirectives_eq_of_last? fun target => by
    rw [(sorted_ofDirectives ds).last?_eq, find?_ofDirectives]

/-- The directive of the longest target that the event's begins with, among the last ones of each
target. -/
structure Decides (ds : List LogDirective) (target : String) (d : LogDirective) : Prop where
  last : last? ds d.target = some d
  covers : d.start <+: target.toList
  longest : ∀ e, last? ds e.target = some e → e.start <+: target.toList →
    e.start.length ≤ d.start.length

/-- No directive has an empty target, which would cover as much as none. -/
def Proper (ds : List LogDirective) : Prop := ∀ d ∈ ds, d.target ≠ some ""

theorem mem_of_last? (h : last? ds d.target = some d) : d ∈ ds :=
  (List.mem_filter.mp (List.mem_of_getLast? h)).1

theorem exists_last? (h : d ∈ ds) : ∃ e, e.target = d.target ∧ last? ds e.target = some e := by
  cases hlast : last? ds d.target with
  | none =>
    rw [last?, List.getLast?_eq_none_iff, List.filter_eq_nil_iff] at hlast
    exact absurd (decide_eq_true rfl) (hlast d h)
  | some e =>
    have he := List.mem_filter.mp (List.mem_of_getLast? hlast)
    have htarget : e.target = d.target := of_decide_eq_true he.2
    exact ⟨e, htarget, htarget ▸ hlast⟩

theorem Decides.unique {target : String} (hds : Proper ds) (h : Decides ds target d)
    (h' : Decides ds target e) : d = e := by
  have hlength : d.start.length = e.start.length :=
    Nat.le_antisymm (h'.longest d h.last h.covers) (h.longest e h'.last h'.covers)
  have hstart : d.start = e.start :=
    (List.prefix_of_prefix_length_le h.covers h'.covers (Nat.le_of_eq hlength)).eq_of_length hlength
  have htarget := LogDirective.target_eq_of_start_eq (hds d (mem_of_last? h.last))
    (hds e (mem_of_last? h'.last)) hstart
  exact Option.some.inj (h.last.symm.trans (htarget ▸ h'.last))

theorem decides_of_find? {target : String}
    (h : (ofDirectives ds).directives.find? (fun d => d.covers target) = some d) :
    Decides ds target d := by
  obtain ⟨hcovers, front, rest, hsplit, hfront⟩ := List.find?_eq_some_iff_append.mp h
  have hd : d ∈ (ofDirectives ds).directives := List.mem_of_find?_eq_some h
  refine ⟨mem_ofDirectives.mp hd, (d.covers_iff target).mp hcovers, fun e he hcovered => ?_⟩
  have hmem : e ∈ front ++ d :: rest := hsplit ▸ mem_ofDirectives.mpr he
  obtain hbefore | hbehind := List.mem_append.mp hmem
  · have hnot := hfront e hbefore
    rw [(e.covers_iff target).mpr hcovered] at hnot
    cases hnot
  obtain rfl | hbehind := List.mem_cons.mp hbehind
  · exact Nat.le_refl _
  have hsorted := sorted_ofDirectives ds
  rw [Sorted, hsplit] at hsorted
  have hlt := (List.pairwise_cons.mp (List.pairwise_append.mp hsorted).2.1).1 e hbehind
  exact LogDirective.start_length_le_of_precedes hlt ((d.covers_iff target).mp hcovers) hcovered

theorem find?_covers_eq_some_iff (hds : Proper ds) (target : String) (d : LogDirective) :
    (ofDirectives ds).directives.find? (fun d => d.covers target) = some d ↔
      Decides ds target d := by
  refine ⟨decides_of_find?, fun h => ?_⟩
  cases hfind : (ofDirectives ds).directives.find? (fun d => d.covers target) with
  | none =>
    have hno := List.find?_eq_none.mp hfind d (mem_ofDirectives.mpr h.last)
    exact absurd ((d.covers_iff target).mpr h.covers) hno
  | some e => rw [(decides_of_find? hfind).unique hds h]

theorem allows_ofDirectives_iff (hds : Proper ds) (target : String) (level : LogLevel) :
    (ofDirectives ds).allows target level = true ↔
      ∃ d, Decides ds target d ∧ d.threshold.allows level = true := by
  simp only [← find?_covers_eq_some_iff hds, allows]
  cases (ofDirectives ds).directives.find? fun d => d.covers target <;> simp

end LogFilter
end TaskEngine
