import TaskEngine.Log.Settings
import TaskEngine.Proofs.Log.Directive
import TaskEngine.Proofs.Log.Filter
import TaskEngine.Proofs.Traversal

/-! A text resolves to the filter of its directives, or to `info` when a piece is none, and
the text of the filter resolves to it again, exactly when no piece begins with a blank or
the text is refused. -/

namespace TaskEngine

namespace LogFilter

theorem pieces_eq_splitOn (cs : List Char) : pieces cs = cs.splitOn ',' := by
  induction cs with
  | nil => rfl
  | cons c rest ih =>
    rw [pieces, List.splitOn_cons_eq_if_modifyHead, ih]
    obtain ⟨piece, others, hsplit⟩ := List.exists_cons_of_ne_nil (List.splitOn_ne_nil ',' rest)
    simp [hsplit]

theorem mem_of_mem_pieces {cs piece : List Char} {c : Char} (h : piece ∈ pieces cs)
    (hc : c ∈ piece) : c ∈ cs ∧ c ≠ ',' := by
  induction cs generalizing piece with
  | nil =>
    obtain rfl := List.mem_singleton.mp h
    cases hc
  | cons d rest ih =>
    have hrest : piece ∈ pieces rest → c ∈ d :: rest ∧ c ≠ ',' := fun hpiece =>
      (ih hpiece hc).imp_left (List.mem_cons_of_mem d)
    rw [pieces] at h
    split at h
    · obtain rfl | hpiece := List.mem_cons.mp h
      · cases hc
      · exact hrest hpiece
    next hd =>
    split at h
    · next first others hfirst =>
      rw [hfirst] at ih
      obtain rfl | hpiece := List.mem_cons.mp h
      · obtain rfl | hc := List.mem_cons.mp hc
        · exact ⟨List.mem_cons_self, hd⟩
        · exact (ih List.mem_cons_self hc).imp_left (List.mem_cons_of_mem d)
      · exact hrest (hfirst ▸ List.mem_cons_of_mem first hpiece)
    · obtain rfl := List.mem_singleton.mp h
      obtain rfl := List.mem_singleton.mp hc
      exact ⟨List.mem_cons_self, hd⟩

def written (text : String) : List (List Char) :=
  (text.toList.splitOn ',').filter fun piece => !piece.isEmpty

theorem ofText_eq_map (text : String) :
    ofText text = ((written text).mapM LogDirective.ofText).map ofDirectives := by
  rw [ofText, pieces_eq_splitOn]
  rfl

theorem mem_of_mem_written {text : String} {piece : List Char} {c : Char}
    (h : piece ∈ written text) (hc : c ∈ piece) : c ∈ text.toList ∧ c ≠ ',' :=
  mem_of_mem_pieces (pieces_eq_splitOn _ ▸ List.mem_of_mem_filter h) hc

/-- No piece of the text is about spans or fields. -/
def Plain (text : String) : Prop := '[' ∉ text.toList ∧ '\x7b' ∉ text.toList

instance (text : String) : Decidable (Plain text) := inferInstanceAs (Decidable (_ ∧ _))

/-- The directives that a filter text stands for: those of its pieces when each is one, otherwise
`info`, as when there is no text. -/
inductive Reads : Option String → List LogDirective → Prop
  | unset : Reads none [⟨none, .upTo .info⟩]
  | parsed {text : String} {ds : List LogDirective}
      (h : List.Forall₂ LogDirective.Denotes (written text) ds) : Reads (some text) ds
  | refused {text : String} {piece : List Char} (hpiece : piece ∈ written text)
      (h : ∀ d, ¬ LogDirective.Denotes piece d) : Reads (some text) [⟨none, .upTo .info⟩]

/-- Blanks are not in the way: no piece begins with one, or the text is refused. -/
def Undistorted (text : String) : Prop :=
  ofText text = .error .malformed ∨ ∀ piece ∈ written text, ¬ LogDirective.Indented piece

instance (text : String) : Decidable (Undistorted text) := inferInstanceAs (Decidable (_ ∨ _))

def marks : List Char := [',', '[', '\x7b']

theorem mark_cases {mark : Char} (h : mark ∈ marks) : mark = ',' ∨ mark = '[' ∨ mark = '\x7b' := by
  simpa [marks] using h

structure Listable (d : LogDirective) : Prop where
  printable : d.Printable
  unmarked : ∀ target ∈ d.target, ∀ mark ∈ marks, mark ∉ target.toList

variable {ds : List LogDirective} {text : String}

theorem ofText_of_denotes (h : List.Forall₂ LogDirective.Denotes (written text) ds) :
    ofText text = .ok (ofDirectives ds) := by
  have hread : (written text).mapM LogDirective.ofText = .ok ds :=
    mapM_eq_ok_iff.mpr (h.imp fun piece d hd =>
      (LogDirective.ofText_eq_ok_iff hd.starts.not_indented d).mpr hd)
  rw [ofText_eq_map, hread]
  rfl

theorem exists_mapM_of_ofText {f : LogFilter} (h : ofText text = .ok f) :
    ∃ ds, List.Forall₂ (fun piece d => LogDirective.ofText piece = .ok d) (written text) ds ∧
      f = ofDirectives ds := by
  rw [ofText_eq_map] at h
  cases hread : (written text).mapM LogDirective.ofText with
  | error fault => rw [hread] at h; cases h
  | ok ds =>
    rw [hread] at h
    exact ⟨ds, mapM_eq_ok_iff.mp hread, (Except.ok.inj h).symm⟩

theorem exists_of_ofText_eq_error {fault : DirectiveFault} (h : ofText text = .error fault) :
    ∃ piece ∈ written text, LogDirective.ofText piece = .error fault := by
  rw [ofText_eq_map] at h
  cases hread : (written text).mapM LogDirective.ofText with
  | error fault' =>
    rw [hread] at h
    cases h
    exact exists_of_mapM_eq_error hread
  | ok ds => rw [hread] at h; cases h

theorem reads_of_malformed (h : ofText text = .error .malformed) :
    Reads (some text) [⟨none, .upTo .info⟩] := by
  obtain ⟨piece, hpiece, hfault⟩ := exists_of_ofText_eq_error h
  refine .refused hpiece fun d hd => ?_
  rw [(LogDirective.ofText_eq_ok_iff hd.starts.not_indented d).mpr hd] at hfault
  cases hfault

theorem Reads.unique {given : Option String} {ds' : List LogDirective} (h : Reads given ds)
    (h' : Reads given ds') : ds = ds' := by
  have hpieces : ∀ {text ds piece}, List.Forall₂ LogDirective.Denotes (written text) ds →
      piece ∈ written text → ¬ ∀ d, ¬ LogDirective.Denotes piece d := fun hall hpiece hno => by
    obtain ⟨d, -, hd⟩ := exists_of_forall₂_of_mem hall hpiece
    exact hno d hd
  cases h with
  | unset => cases h'; rfl
  | parsed hall =>
    cases h' with
    | parsed hall' =>
      have hunique : Relator.RightUnique LogDirective.Denotes := fun _ _ _ =>
        LogDirective.Denotes.unique
      exact hunique.forall₂ hall hall'
    | refused hpiece hno => exact absurd hno (hpieces hall hpiece)
  | refused hpiece hno =>
    cases h' with
    | parsed hall' => exact absurd hno (hpieces hall' hpiece)
    | refused => rfl

theorem not_mem_marks {piece : List Char} {c : Char} (hplain : Plain text)
    (hpiece : piece ∈ written text) (hc : c ∈ piece) : c ∉ marks := by
  obtain ⟨htext, hcomma⟩ := mem_of_mem_written hpiece hc
  intro hmark
  obtain rfl | rfl | rfl := mark_cases hmark
  · exact hcomma rfl
  · exact hplain.1 htext
  · exact hplain.2 htext

theorem listable_of_target_none {d : LogDirective} (h : d.target = none) : Listable d := by
  constructor <;> intro target htarget <;> rw [h] at htarget <;> cases htarget

theorem Reads.listable {given : Option String} (h : Reads given ds)
    (hplain : ∀ text ∈ given, Plain text) : ∀ d ∈ ds, Listable d := by
  intro d hd
  cases h with
  | unset | refused => exact listable_of_target_none (List.mem_singleton.mp hd ▸ rfl)
  | @parsed text _ h =>
    obtain ⟨piece, hpiece, hdenotes⟩ := exists_of_forall₂_of_mem h.flip hd
    refine ⟨hdenotes.printable, fun target htarget mark hmark hmem => ?_⟩
    exact not_mem_marks (hplain text rfl) hpiece (hdenotes.mem_of_target htarget hmem) hmark

theorem Listable.notMem_text {d : LogDirective} (h : Listable d) {mark : Char}
    (hmark : mark ∈ marks) : mark ∉ d.text.toList := by
  refine LogDirective.notMem_text ?_ ?_ fun target htarget => h.unmarked target htarget mark hmark
  · obtain rfl | rfl | rfl := mark_cases hmark <;> decide
  · obtain rfl | rfl | rfl := mark_cases hmark <;> decide

theorem toList_text (f : LogFilter) :
    f.text.toList = [','].intercalate (f.directives.map fun d => d.text.toList) := by
  rw [text, String.toList_intercalate, List.map_map]
  rfl

theorem written_text {f : LogFilter} (h : ∀ d ∈ f.directives, Listable d) :
    written f.text = f.directives.map fun d => d.text.toList := by
  by_cases hnil : f.directives = []
  · rw [written, toList_text, hnil]
    rfl
  have hsplit : f.text.toList.splitOn ',' = f.directives.map fun d => d.text.toList := by
    rw [toList_text]
    refine List.splitOn_intercalate ',' (fun piece hpiece => ?_) (by simpa using hnil)
    obtain ⟨d, hd, rfl⟩ := List.mem_map.mp hpiece
    exact (h d hd).notMem_text List.mem_cons_self
  rw [written, hsplit, List.filter_eq_self]
  intro piece hpiece
  obtain ⟨d, hd, rfl⟩ := List.mem_map.mp hpiece
  simpa using (h d hd).printable.denotes_text.starts.ne_nil

theorem denotes_text {f : LogFilter} (h : ∀ d ∈ f.directives, Listable d) :
    List.Forall₂ LogDirective.Denotes (written f.text) f.directives := by
  rw [written_text h, List.forall₂_map_left_iff, List.forall₂_same]
  exact fun d hd => (h d hd).printable.denotes_text

theorem mem_intercalate {ls : List (List Char)} {c : Char} (h : c ∈ [','].intercalate ls) :
    c = ',' ∨ ∃ l ∈ ls, c ∈ l := by
  induction ls with
  | nil => cases h
  | cons l ls ih =>
    cases ls with
    | nil =>
      rw [List.intercalate_singleton] at h
      exact .inr ⟨l, List.mem_singleton_self l, h⟩
    | cons l' ls =>
      rw [List.intercalate_cons_cons, List.mem_append, List.mem_append] at h
      obtain (hl | hcomma) | hrest := h
      · exact .inr ⟨l, List.mem_cons_self, hl⟩
      · exact .inl (List.mem_singleton.mp hcomma)
      · exact (ih hrest).imp_right fun ⟨k, hk, hc⟩ => ⟨k, List.mem_cons_of_mem l hk, hc⟩

theorem plain_text {f : LogFilter} (h : ∀ d ∈ f.directives, Listable d) : Plain f.text := by
  have hno : ∀ mark ∈ marks, mark ≠ ',' → mark ∉ f.text.toList := fun mark hmark hne hmem => by
    rw [toList_text] at hmem
    obtain hcomma | ⟨piece, hpiece, hc⟩ := mem_intercalate hmem
    · exact hne hcomma
    · obtain ⟨d, hd, rfl⟩ := List.mem_map.mp hpiece
      exact (h d hd).notMem_text hmark hc
  exact ⟨hno '[' (by decide) (by decide), hno '\x7b' (by decide) (by decide)⟩

end LogFilter

namespace LogSettings

open LogFilter

/-- The settings' filter text stands for the directives, and they resolve to the filter, which has
the last of the directives for each target and decides by them. -/
structure ResolvesTo (s : LogSettings) (ds : List LogDirective) (f : LogFilter) : Prop where
  reads : ∀ ds', Reads s.filterText ds' ↔ ds' = ds
  resolved : s.filter = .ok f
  sorted : Sorted f.directives
  directives : ∀ d, d ∈ f.directives ↔ last? ds d.target = some d
  allows : ∀ target level, f.allows target level = true ↔
    ∃ d, Decides ds target d ∧ d.threshold.allows level = true
  unique : ∀ target d e, Decides ds target d → Decides ds target e → d = e
  reordered : ∀ text ds', Plain text → List.Forall₂ LogDirective.Denotes (written text) ds' →
    (∀ target, ds'.filter (fun d => d.target = target) = ds.filter fun d => d.target = target) →
      { s with filterText := some text }.filter = .ok f
  plain : Plain f.text
  normal : { s with filterText := some f.text }.filter = .ok f

variable {s : LogSettings} {text : String} {ds : List LogDirective} {f : LogFilter}

theorem filter_of_ofText (s : LogSettings) (h : LogFilter.ofText text = .ok f) :
    { s with filterText := some text }.filter = .ok f := by
  simp [filter, h]

theorem resolvesTo_ofDirectives (hplain : ∀ text ∈ s.filterText, Plain text)
    (hreads : Reads s.filterText ds) (hfilter : s.filter = .ok (ofDirectives ds)) :
    s.ResolvesTo ds (ofDirectives ds) := by
  have hlistable := hreads.listable hplain
  have hproper : Proper ds := fun d hd => (hlistable d hd).printable.target_ne_empty
  have hplaced : ∀ d ∈ (ofDirectives ds).directives, Listable d := fun d hd =>
    hlistable d (mem_of_last? (mem_ofDirectives.mp hd))
  exact {
    reads := fun ds' => ⟨fun h => h.unique hreads, fun h => h ▸ hreads⟩
    resolved := hfilter
    sorted := sorted_ofDirectives ds
    directives := fun d => mem_ofDirectives
    allows := allows_ofDirectives_iff hproper
    unique := fun target d e => Decides.unique hproper
    reordered := fun text ds' _ hdenotes hsame => by
      refine filter_of_ofText s ?_
      rw [ofText_of_denotes hdenotes]
      exact congrArg Except.ok (ofDirectives_eq_of_last? fun target => by
        rw [last?, hsame, last?])
    plain := plain_text hplaced
    normal := by
      refine filter_of_ofText s ?_
      rw [ofText_of_denotes (denotes_text hplaced), ofDirectives_directives] }

/-- Without blanks in front, a text is read as the grammar has it. -/
theorem exists_reads (h : Undistorted text) (hs : s.filterText = some text) :
    ∃ ds, Reads (some text) ds ∧ s.filter = .ok (ofDirectives ds) := by
  have hinfo : LogFilter.ofText text = .error .malformed →
      ∃ ds, Reads (some text) ds ∧ s.filter = .ok (ofDirectives ds) := fun hfault =>
    ⟨_, reads_of_malformed hfault, by simp [filter, hs, hfault]; rfl⟩
  obtain hfault | hvisible := h
  · exact hinfo hfault
  cases htext : LogFilter.ofText text with
  | ok f =>
    obtain ⟨ds, hread, rfl⟩ := exists_mapM_of_ofText htext
    have hboth := (List.forall₂_and_left (written text) ds).mpr ⟨hvisible, hread⟩
    refine ⟨ds, .parsed (hboth.imp fun piece d ⟨hpiece, hd⟩ => ?_), by simp [filter, hs, htext]⟩
    exact (LogDirective.ofText_eq_ok_iff hpiece d).mp hd
  | error fault =>
    cases fault with
    | malformed => exact hinfo htext
    | split character =>
      obtain ⟨piece, hpiece, hsplit⟩ := exists_of_ofText_eq_error htext
      exact absurd hsplit (LogDirective.ofText_ne_split (hvisible piece hpiece) character)

theorem ResolvesTo.undistorted (h : s.ResolvesTo ds f) (hs : s.filterText = some text) :
    Undistorted text := by
  have hreads : Reads (some text) ds := hs ▸ (h.reads ds).mpr rfl
  have hfilter := h.resolved
  cases htext : LogFilter.ofText text with
  | error fault =>
    cases fault with
    | malformed => exact .inl htext
    | split character => simp [filter, hs, htext] at hfilter
  | ok g =>
    obtain rfl : g = f := by simpa [filter, hs, htext] using hfilter
    refine .inr fun piece hpiece hindented => ?_
    obtain ⟨ds', hread, rfl⟩ := exists_mapM_of_ofText htext
    obtain ⟨d, hd, hpieceRead⟩ := exists_of_forall₂_of_mem hread hpiece
    obtain ⟨-, rfl⟩ := hindented.ofText_eq_ok hpieceRead
    -- The blanks have made a target, and the filter has a directive for it.
    obtain ⟨e, htarget, hlast⟩ := exists_last? hd
    have hmem : e ∈ ds := mem_of_last? ((h.directives e).mp (mem_ofDirectives.mpr hlast))
    cases hreads with
    | parsed hall =>
      obtain ⟨d', -, hd'⟩ := exists_of_forall₂_of_mem hall hpiece
      exact hindented.not_denotes d' hd'
    | refused =>
      obtain rfl := List.mem_singleton.mp hmem
      cases htarget

/-- Settings without spans and fields resolve by the grammar exactly when no piece begins with a
blank, or else the text is refused. -/
theorem resolves_iff_undistorted (s : LogSettings) (hplain : ∀ text ∈ s.filterText, Plain text) :
    (∃ ds f, s.ResolvesTo ds f) ↔ ∀ text ∈ s.filterText, Undistorted text := by
  refine ⟨fun ⟨ds, f, h⟩ text hs => h.undistorted hs, fun h => ?_⟩
  cases hs : s.filterText with
  | none =>
    have hfilter : s.filter = .ok (ofDirectives [⟨none, .upTo .info⟩]) := by
      simp only [filter, hs]
      rfl
    exact ⟨_, _, resolvesTo_ofDirectives hplain (hs ▸ .unset) hfilter⟩
  | some text =>
    obtain ⟨ds, hreads, hfilter⟩ := exists_reads (h text hs) hs
    exact ⟨ds, _, resolvesTo_ofDirectives hplain (hs ▸ hreads) hfilter⟩

/-- A text with a target twice, names in any case, numbers and an empty level. -/
theorem resolves_twice_named :
    ∃ ds f, ({ filterText := some "net=DEBUG,,net::tcp=,4,net=+1" } : LogSettings).ResolvesTo ds f ∧
      f.text = "net::tcp=trace,net=error,debug" := by
  obtain ⟨ds, f, h⟩ := (resolves_iff_undistorted
    { filterText := some "net=DEBUG,,net::tcp=,4,net=+1" } (by decide +kernel)).mpr
      (by decide +kernel)
  refine ⟨ds, f, h, ?_⟩
  have htext : ({ filterText := some "net=DEBUG,,net::tcp=,4,net=+1" } : LogSettings).filter.map
    LogFilter.text = .ok "net::tcp=trace,net=error,debug" := by decide +kernel
  rw [h.resolved] at htext
  exact Except.ok.inj htext

/-- A cut at the equals sign can come inside a blank, so that there is no filter. Without an equals
sign the blanks get into a target, the text of which is then cut too early and refused. -/
theorem indented_misread :
    (Plain "\u3000ab=5" ∧
        ¬ ∃ ds f, ({ filterText := some "\u3000ab=5" } : LogSettings).ResolvesTo ds f) ∧
      Plain " info" ∧
        ¬ ∃ ds f, ({ filterText := some " info" } : LogSettings).ResolvesTo ds f := by
  refine ⟨⟨by decide +kernel, ?_⟩, by decide +kernel, ?_⟩
  · rintro ⟨ds, f, h⟩
    have hcut : ({ filterText := some "\u3000ab=5" } : LogSettings).filter =
      .error ⟨.stop, 2, '\u3000', 0⟩ := by decide +kernel
    rw [h.resolved] at hcut
    cases hcut
  · rintro ⟨ds, f, h⟩
    have hread : ({ filterText := some " info" } : LogSettings).filter =
      .ok ⟨[⟨some " info", .upTo .trace⟩]⟩ := by decide +kernel
    obtain rfl := Except.ok.inj (h.resolved.symm.trans hread)
    have hagain : ({ filterText := some (LogFilter.text ⟨[⟨some " info", .upTo .trace⟩]⟩) } :
      LogSettings).filter = .ok .info := by decide +kernel
    exact absurd (h.normal.symm.trans hagain) (by decide +kernel)

end LogSettings
end TaskEngine
