import TaskEngine.Log.Filter
import TaskEngine.Proofs.Text.Numeral
import TaskEngine.Proofs.Traversal

/-! The grammar of levels and directives, apart from how they are read. A piece that does
not begin with a blank is read exactly when the grammar has it; one that does is read only
as a target. -/

namespace TaskEngine

namespace Text

@[simp] theorem byteLength_append (xs ys : List Char) :
    byteLength (xs ++ ys) = byteLength xs + byteLength ys := by
  induction xs with
  | nil => simp
  | cons x xs ih => simp [ih, Nat.add_assoc]

theorem mem_of_cutFrom {side : CutSide} {first offset : Nat} {front rest before after : List Char}
    {c : Char} (h : cutFrom side first offset (front ++ c :: rest) = .ok (before, after))
    (hle : offset ≤ first + byteLength front) : c ∈ after := by
  induction front generalizing first before with
  | nil =>
    rw [List.nil_append, cutFrom, if_pos (by simpa using hle)] at h
    cases h
    exact List.mem_cons_self
  | cons x front ih =>
    rw [List.cons_append, cutFrom] at h
    split at h
    · cases h
      simp
    split at h
    · cases h
    cases hcut : cutFrom side (first + x.utf8Size) offset (front ++ c :: rest) with
    | error fault => rw [hcut] at h; cases h
    | ok parts =>
      obtain ⟨before', after'⟩ := parts
      rw [hcut] at h
      cases h
      exact ih hcut (by simpa [Nat.add_assoc] using hle)

theorem mem_of_dropBytes {offset : Nat} {front rest after : List Char} {c : Char}
    (h : dropBytes offset (front ++ c :: rest) = .ok after) (hle : offset ≤ byteLength front) :
    c ∈ after := by
  rw [dropBytes] at h
  cases hcut : cutFrom .start 0 offset (front ++ c :: rest) with
  | error fault => rw [hcut] at h; cases h
  | ok parts =>
    rw [hcut] at h
    cases h
    exact mem_of_cutFrom hcut (by omega)

theorem isAlpha_iff_toNat {c : Char} :
    c.isAlpha = true ↔ 65 ≤ c.toNat ∧ c.toNat ≤ 90 ∨ 97 ≤ c.toNat ∧ c.toNat ≤ 122 := by
  have halpha : c.isAlpha = (decide (65 ≤ c.val ∧ c.val ≤ 90) ||
    (decide (97 ≤ c.val) && decide (c.val ≤ 122))) := rfl
  rw [halpha, Bool.or_eq_true, Bool.and_eq_true, decide_eq_true_eq, decide_eq_true_eq,
    decide_eq_true_eq]
  exact Iff.rfl

theorem isAlpha_of_isLower_toLower {c : Char} (h : c.toLower.isLower = true) :
    c.isAlpha = true := by
  unfold Char.toLower at h
  split at h
  · next hupper => exact isAlpha_iff_toNat.mpr (.inl hupper)
  · exact Bool.or_eq_true_iff.mpr (.inr h)

theorem isAlpha_eq_false_of_isDigit {c : Char} (h : c.isDigit = true) : c.isAlpha = false := by
  have hdigit : 48 ≤ c.toNat ∧ c.toNat ≤ 57 := Char.isDigit_iff_toNat.mp h
  rw [← Bool.not_eq_true, isAlpha_iff_toNat]
  omega

theorem isBlank_eq_false_of_isAlphanum {c : Char} (h : c.isAlphanum = true) :
    isBlank c = false := by
  rw [Char.isAlphanum, Bool.or_eq_true, isAlpha_iff_toNat, Char.isDigit_iff_toNat] at h
  have hascii : 48 ≤ c.toNat ∧ c.toNat ≤ 122 := by
    have hdigits : '0'.toNat = 48 ∧ '9'.toNat = 57 := by decide
    omega
  simp only [isBlank, CharRanges.contains, blankRanges, List.any_cons, List.any_nil,
    Bool.or_false, Bool.or_eq_false_iff, Bool.and_eq_false_iff, decide_eq_false_iff_not]
  omega

theorem contains_eq_false_of_apart {ranges others : CharRanges} {c : Char}
    (hapart : ∀ r ∈ ranges, ∀ q ∈ others, r.2 < q.1 ∨ q.2 < r.1)
    (h : ranges.contains c = true) : others.contains c = false := by
  simp only [CharRanges.contains, List.any_eq_true, Bool.and_eq_true, decide_eq_true_eq] at h
  obtain ⟨r, hr, hlow, hhigh⟩ := h
  simp only [CharRanges.contains, List.any_eq_false, Bool.and_eq_true, decide_eq_true_eq]
  intro q hq
  have := hapart r hr q hq
  omega

theorem blankRanges_apart :
    ∀ r ∈ blankRanges, ∀ q ∈ alphanumericRanges, r.2 < q.1 ∨ q.2 < r.1 := by
  decide +kernel

theorem isAlphanumeric_eq_false_of_isBlank {c : Char} (h : isBlank c = true) :
    isAlphanumeric c = false :=
  contains_eq_false_of_apart blankRanges_apart h

end Text

namespace LogThreshold

/-- The texts of a threshold: its place among the thresholds, or its name in any ASCII case. -/
inductive Denotes : List Char → LogThreshold → Prop
  | number {cs : List Char} {n : Nat} {t : LogThreshold} (hn : Text.Numeral cs n)
      (ht : all[n]? = some t) : Denotes cs t
  | name {cs : List Char} {t : LogThreshold} (h : cs.map Char.toLower = t.name.toList) :
      Denotes cs t

theorem forall_of_all {p : LogThreshold → Prop} (h : ∀ t ∈ all, p t) (t : LogThreshold) : p t := by
  obtain _ | level := t
  · exact h _ (by decide)
  · cases level <;> exact h _ (by decide)

theorem isLower_name (t : LogThreshold) : t.name.toList.all Char.isLower = true :=
  forall_of_all (p := fun t => t.name.toList.all Char.isLower = true) (by decide) t

theorem name_ne_nil (t : LogThreshold) : t.name.toList ≠ [] :=
  forall_of_all (p := fun t => t.name.toList ≠ []) (by decide) t

theorem map_toLower_name (t : LogThreshold) : t.name.toList.map Char.toLower = t.name.toList :=
  forall_of_all (p := fun t => t.name.toList.map Char.toLower = t.name.toList) (by decide) t

theorem isAlpha_of_name {cs : List Char} {t : LogThreshold}
    (h : cs.map Char.toLower = t.name.toList) : ∀ c ∈ cs, c.isAlpha = true := by
  intro c hc
  have hname := List.all_eq_true.mp t.isLower_name c.toLower (h ▸ List.mem_map_of_mem hc)
  exact Text.isAlpha_of_isLower_toLower hname

theorem not_numeral_of_name {cs : List Char} {t : LogThreshold} {n : Nat}
    (h : cs.map Char.toLower = t.name.toList) : ¬ Text.Numeral cs n := by
  intro hn
  obtain ⟨c, hc⟩ := List.exists_mem_of_ne_nil cs hn.ne_nil
  have halpha := isAlpha_of_name h c hc
  obtain rfl | hdigit := hn.forall_mem c hc
  · exact absurd halpha (by decide)
  · rw [Text.isAlpha_eq_false_of_isDigit hdigit] at halpha
    cases halpha

theorem find?_name_eq_some_iff (cs : List Char) (t : LogThreshold) :
    (all.find? fun u => u.name.toList == cs) = some t ↔ cs = t.name.toList := by
  constructor
  · intro h
    have hname := List.find?_some (p := fun u : LogThreshold => u.name.toList == cs) h
    exact (beq_iff_eq.mp hname).symm
  · rintro rfl
    exact forall_of_all
      (p := fun t => (all.find? fun u => u.name.toList == t.name.toList) = some t) (by decide) t

theorem place_lt_size {n : Nat} {t : LogThreshold} (h : all[n]? = some t) : n < UInt64.size :=
  Nat.lt_of_lt_of_le (List.getElem?_eq_some_iff.mp h).1 (by decide)

theorem ofText?_eq_some_iff (cs : List Char) (t : LogThreshold) :
    ofText? cs = some t ↔ Denotes cs t := by
  unfold ofText?
  split
  · next n hn =>
    have hnumeral := (Text.unsigned?_eq_some_iff cs n).mp hn
    refine ⟨.number hnumeral, fun h => ?_⟩
    cases h with
    | number hm ht => rwa [ofNumber?, ← hm.unique hnumeral]
    | name h => exact absurd hnumeral (not_numeral_of_name h)
  · next hnone =>
    rw [find?_name_eq_some_iff]
    refine ⟨.name, fun h => ?_⟩
    cases h with
    | number hn ht =>
      rw [← UInt64.toNat_ofNat_of_lt' (place_lt_size ht), ← Text.unsigned?_eq_some_iff,
        hnone] at hn
      cases hn
    | name h => exact h

theorem denotes_name (t : LogThreshold) : Denotes t.name.toList t := .name t.map_toLower_name

theorem Denotes.ne_nil {cs : List Char} {t : LogThreshold} (h : Denotes cs t) : cs ≠ [] := by
  cases h with
  | number hn => exact hn.ne_nil
  | name h =>
    rintro rfl
    exact t.name_ne_nil h.symm

theorem Denotes.forall_mem {cs : List Char} {t : LogThreshold} (h : Denotes cs t) :
    ∀ c ∈ cs, c = '+' ∨ c.isAlphanum = true := by
  intro c hc
  cases h with
  | number hn => exact (hn.forall_mem c hc).imp_right fun hd => by simp [Char.isAlphanum, hd]
  | name h => exact .inr (by simp [Char.isAlphanum, isAlpha_of_name h c hc])

end LogThreshold

namespace LogDirective

def Starts (piece : List Char) : Prop := ∃ c ∈ piece.head?, canStart c = true

instance (piece : List Char) : Decidable (Starts piece) :=
  decidable_of_iff (piece.head?.any canStart = true) (Option.any_eq_true ..)

def Indented (piece : List Char) : Prop := ∃ c ∈ piece.head?, Text.isBlank c = true

instance (piece : List Char) : Decidable (Indented piece) :=
  decidable_of_iff (piece.head?.any Text.isBlank = true) (Option.any_eq_true ..)

/-- The directives of the grammar: a level, a target, which then is at `trace`, or both around
the first equals sign, after which no level stands for `trace`. -/
inductive Denotes : List Char → LogDirective → Prop
  | level {piece : List Char} {t : LogThreshold} (hs : Starts piece) (hsign : '=' ∉ piece)
      (ht : LogThreshold.Denotes piece t) : Denotes piece ⟨none, t⟩
  | target {piece : List Char} (hs : Starts piece) (hsign : '=' ∉ piece)
      (ht : ∀ t, ¬ LogThreshold.Denotes piece t) :
      Denotes piece ⟨some (String.ofList piece), .upTo .trace⟩
  | both {target level : List Char} {t : LogThreshold} (hs : Starts target) (hsign : '=' ∉ target)
      (ht : level = [] ∧ t = .upTo .trace ∨ LogThreshold.Denotes level t) :
      Denotes (target ++ '=' :: level) ⟨some (String.ofList target), t⟩

theorem canStart_of_isBlank {c : Char} (h : Text.isBlank c = true) : canStart c = false := by
  have hmarks : c ≠ '-' ∧ c ≠ ':' ∧ c ≠ '_' := by
    refine ⟨?_, ?_, ?_⟩ <;> rintro rfl <;> exact absurd h (by decide)
  simp [canStart, Text.isAlphanumeric_eq_false_of_isBlank h, hmarks]

theorem Starts.ne_nil {piece : List Char} (h : Starts piece) : piece ≠ [] := by
  rintro rfl
  obtain ⟨c, hc, -⟩ := h
  cases hc

theorem Starts.append {target : List Char} (h : Starts target) (rest : List Char) :
    Starts (target ++ rest) := by
  obtain ⟨c, hc, hstart⟩ := h
  exact ⟨c, by rw [List.head?_append, Option.mem_def.mp hc]; rfl, hstart⟩

theorem Starts.not_indented {piece : List Char} (h : Starts piece) : ¬ Indented piece := by
  rintro ⟨d, hd, hblank⟩
  obtain ⟨c, hc, hstart⟩ := h
  obtain rfl : c = d := Option.some.inj (hc.symm.trans hd)
  rw [canStart_of_isBlank hblank] at hstart
  cases hstart

theorem Denotes.starts {piece : List Char} {d : LogDirective} (h : Denotes piece d) :
    Starts piece := by
  cases h with
  | level hs | target hs => exact hs
  | both hs => exact hs.append _

theorem threshold?_eq_some_iff (level : List Char) (t : LogThreshold) :
    threshold? level = some t ↔
      level = [] ∧ t = .upTo .trace ∨ LogThreshold.Denotes level t := by
  unfold threshold?
  split
  · refine ⟨fun h => .inl ⟨rfl, (Option.some.inj h).symm⟩, ?_⟩
    rintro (⟨-, rfl⟩ | h)
    · rfl
    · exact absurd rfl h.ne_nil
  · next hne =>
    rw [LogThreshold.ofText?_eq_some_iff]
    exact ⟨.inr, fun h => h.resolve_left fun h => hne h.1⟩

theorem ofParts_of_cuts {sign : Nat} {piece target level : List Char}
    (ht : Text.takeBytes sign piece = .ok target)
    (hl : Text.dropBytes (sign + 1) piece = .ok level) :
    ofParts sign piece =
      match threshold? level with
      | some t => .ok ⟨some (String.ofList target), t⟩
      | none => .error .malformed := by
  rw [ofParts, ht, hl]
  simp only [Except.mapError, bind, Except.bind]
  cases threshold? level <;> rfl

theorem ofParts_append (target level : List Char) :
    ofParts (Text.byteLength target) (target ++ '=' :: level) =
      match threshold? level with
      | some t => .ok ⟨some (String.ofList target), t⟩
      | none => .error .malformed := by
  refine ofParts_of_cuts (Text.takeBytes_append target _) ?_
  have hdrop := Text.dropBytes_append (target ++ ['=']) level
  rwa [Text.byteLength_append, List.append_assoc] at hdrop

theorem exists_level_of_ofParts {sign : Nat} {piece : List Char} {d : LogDirective}
    (h : ofParts sign piece = .ok d) :
    ∃ level t, Text.dropBytes (sign + 1) piece = .ok level ∧ threshold? level = some t := by
  rw [ofParts, bind_eq_ok_iff] at h
  obtain ⟨target, -, h⟩ := h
  rw [bind_eq_ok_iff] at h
  obtain ⟨level, hlevel, h⟩ := h
  rw [mapError_eq_ok_iff] at hlevel
  split at h
  · next t ht => exact ⟨level, t, hlevel, ht⟩
  · cases h

theorem ofParts_ne_ok {sign : Nat} {front rest : List Char} (h : sign < Text.byteLength front)
    (d : LogDirective) : ofParts sign (front ++ '=' :: rest) ≠ .ok d := by
  intro hok
  obtain ⟨level, t, hdrop, ht⟩ := exists_level_of_ofParts hok
  have hmem : '=' ∈ level := Text.mem_of_dropBytes hdrop h
  obtain ⟨rfl, -⟩ | hdenotes := (threshold?_eq_some_iff level t).mp ht
  · cases hmem
  · exact absurd (hdenotes.forall_mem '=' hmem) (by decide)

theorem ofWhole_eq_iff {piece : List Char} (hs : Starts piece) (hsign : '=' ∉ piece)
    (d : LogDirective) : ofWhole piece = d ↔ Denotes piece d := by
  have hboth : ∀ target level : List Char, piece ≠ target ++ '=' :: level := by
    rintro target level rfl
    exact hsign (by simp)
  unfold ofWhole
  split
  · next t ht =>
    have hlevel := (LogThreshold.ofText?_eq_some_iff piece t).mp ht
    constructor
    · rintro rfl
      exact .level hs hsign hlevel
    · intro h
      cases h with
      | level _ _ ht' =>
        rw [← LogThreshold.ofText?_eq_some_iff, ht, Option.some.injEq] at ht'
        rw [ht']
      | target _ _ hno => exact absurd hlevel (hno t)
      | both => exact absurd rfl (hboth _ _)
  · next hnone =>
    have hno : ∀ t, ¬ LogThreshold.Denotes piece t := fun t ht => by
      rw [← LogThreshold.ofText?_eq_some_iff, hnone] at ht
      cases ht
    constructor
    · rintro rfl
      exact .target hs hsign hno
    · intro h
      cases h with
      | level _ _ ht => exact absurd ht (hno _)
      | target => rfl
      | both => exact absurd rfl (hboth _ _)

theorem dropWhile_isBlank_of_not_indented {piece : List Char} (h : ¬ Indented piece) :
    piece.dropWhile Text.isBlank = piece := by
  cases piece with
  | nil => rfl
  | cons c rest => rw [List.dropWhile_cons, if_neg fun hc => h ⟨c, rfl, hc⟩]

theorem takeWhile_append_sign {target : List Char} (h : '=' ∉ target) (level : List Char) :
    (target ++ '=' :: level).takeWhile (· != '=') = target := by
  have hall : ∀ c ∈ target, (c != '=') = true := fun c hc =>
    bne_iff_ne.mpr fun heq => by rw [heq] at hc; exact h hc
  rw [List.takeWhile_append_of_pos hall]
  simp

theorem ofText_eq_of_visible {piece visible : List Char}
    (h : piece.dropWhile Text.isBlank = visible) (hs : Starts visible) :
    ofText piece =
      if '=' ∈ visible then ofParts (Text.byteLength (visible.takeWhile (· != '='))) piece
      else .ok (ofWhole piece) := by
  obtain ⟨c, hc, hstart⟩ := hs
  obtain ⟨rest, rfl⟩ := List.head?_eq_some_iff.mp hc
  simp [ofText, h, hstart]

theorem ofText_eq_malformed {piece : List Char} (h : ¬ Starts (piece.dropWhile Text.isBlank)) :
    ofText piece = .error .malformed := by
  cases hvisible : piece.dropWhile Text.isBlank with
  | nil => simp [ofText, hvisible]
  | cons c rest =>
    have hstart : ¬ canStart c := fun hc => h ⟨c, by simp [hvisible], hc⟩
    simp [ofText, hvisible, hstart]

theorem append_sign_inj {target target' level level' : List Char} (h : '=' ∉ target)
    (h' : '=' ∉ target') (heq : target ++ '=' :: level = target' ++ '=' :: level') :
    target = target' ∧ level = level' := by
  have htarget := takeWhile_append_sign h level
  rw [heq, takeWhile_append_sign h'] at htarget
  subst htarget
  exact ⟨rfl, (List.cons.inj (List.append_cancel_left heq)).2⟩

theorem Starts.target_of_append {target level : List Char}
    (h : Starts (target ++ '=' :: level)) : Starts target := by
  obtain ⟨c, hc, hstart⟩ := h
  cases target with
  | nil =>
    obtain rfl : '=' = c := Option.some.inj hc
    exact absurd hstart (by decide +kernel)
  | cons => exact ⟨c, hc, hstart⟩

theorem denotes_append_iff {target level : List Char} (hs : Starts target) (hsign : '=' ∉ target)
    (d : LogDirective) : Denotes (target ++ '=' :: level) d ↔
      ∃ t, threshold? level = some t ∧ d = ⟨some (String.ofList target), t⟩ := by
  constructor
  · intro h
    generalize hpiece : target ++ '=' :: level = piece at h
    cases h with
    | level _ hno | target _ hno => exact absurd (hpiece ▸ by simp) hno
    | both _ hsign' ht =>
      obtain ⟨rfl, rfl⟩ := append_sign_inj hsign hsign' hpiece
      exact ⟨_, (threshold?_eq_some_iff _ _).mpr ht, rfl⟩
  · rintro ⟨t, ht, rfl⟩
    exact .both hs hsign ((threshold?_eq_some_iff _ _).mp ht)

/-- A piece that starts like a directive is cut at its equals sign, where it can be cut. -/
theorem ofText_append {target : List Char} (hs : Starts target) (hsign : '=' ∉ target)
    (level : List Char) :
    ofText (target ++ '=' :: level) =
      match threshold? level with
      | some t => .ok ⟨some (String.ofList target), t⟩
      | none => .error .malformed := by
  have hstarts := hs.append ('=' :: level)
  rw [ofText_eq_of_visible (dropWhile_isBlank_of_not_indented hstarts.not_indented) hstarts,
    if_pos (by simp), takeWhile_append_sign hsign, ofParts_append]

theorem ofText_eq_ok_iff {piece : List Char} (h : ¬ Indented piece) (d : LogDirective) :
    ofText piece = .ok d ↔ Denotes piece d := by
  have hvisible := dropWhile_isBlank_of_not_indented h
  by_cases hs : Starts piece
  · by_cases hsign : '=' ∈ piece
    · obtain ⟨target, level, rfl, hfirst⟩ := List.eq_append_cons_of_mem hsign
      rw [ofText_append hs.target_of_append hfirst,
        denotes_append_iff hs.target_of_append hfirst]
      cases threshold? level with
      | none => simp
      | some t => simp [eq_comm]
    · rw [ofText_eq_of_visible hvisible hs, if_neg hsign, Except.ok.injEq,
        ofWhole_eq_iff hs hsign]
  · rw [ofText_eq_malformed (hvisible.symm ▸ hs)]
    exact ⟨nofun, fun hd => absurd hd.starts hs⟩

theorem Denotes.unique {piece : List Char} {d e : LogDirective} (h : Denotes piece d)
    (h' : Denotes piece e) : d = e := by
  have hread := ofText_eq_ok_iff h.starts.not_indented
  exact Except.ok.inj (((hread d).mpr h).symm.trans ((hread e).mpr h'))

/-- Only a piece that begins with a blank is ever cut inside a character. -/
theorem ofText_ne_split {piece : List Char} (h : ¬ Indented piece)
    (character : Text.SplitCharacter) : ofText piece ≠ .error (.split character) := by
  have hvisible := dropWhile_isBlank_of_not_indented h
  by_cases hs : Starts piece
  · by_cases hsign : '=' ∈ piece
    · obtain ⟨target, level, rfl, hfirst⟩ := List.eq_append_cons_of_mem hsign
      rw [ofText_append hs.target_of_append hfirst]
      cases threshold? level <;> simp
    · rw [ofText_eq_of_visible hvisible hs, if_neg hsign]
      nofun
  · rw [ofText_eq_malformed (hvisible.symm ▸ hs)]
    simp

theorem Indented.not_denotes {piece : List Char} (h : Indented piece) (d : LogDirective) :
    ¬ Denotes piece d := fun hd => hd.starts.not_indented h

theorem Indented.ofText?_eq_none {piece : List Char} (h : Indented piece) :
    LogThreshold.ofText? piece = none := by
  rw [Option.eq_none_iff_forall_ne_some]
  intro t ht
  obtain ⟨c, hc, hblank⟩ := h
  have hlevel := (LogThreshold.ofText?_eq_some_iff piece t).mp ht
  obtain rfl | halphanum := hlevel.forall_mem c (List.mem_of_head? hc)
  · exact absurd hblank (by decide)
  · rw [Text.isBlank_eq_false_of_isAlphanum halphanum] at hblank
    cases hblank

theorem Indented.exists_blanks {piece : List Char} (h : Indented piece) :
    ∃ blanks, 0 < Text.byteLength blanks ∧ '=' ∉ blanks ∧
      piece = blanks ++ piece.dropWhile Text.isBlank := by
  obtain ⟨c, hc, hblank⟩ := h
  obtain ⟨rest, rfl⟩ := List.head?_eq_some_iff.mp hc
  refine ⟨(c :: rest).takeWhile Text.isBlank, ?_, fun hsign => ?_,
    List.takeWhile_append_dropWhile.symm⟩
  · rw [List.takeWhile_cons, if_pos hblank, Text.byteLength_cons]
    exact Nat.lt_of_lt_of_le c.utf8Size_pos (Nat.le_add_right _ _)
  · exact absurd (List.all_eq_true.mp List.all_takeWhile '=' hsign) (by decide)

/-- A piece that begins with a blank is read only as a target, with its blanks. The cut at an
equals sign comes too early by as many bytes as the blanks take. -/
theorem Indented.ofText_eq_ok {piece : List Char} (h : Indented piece) {d : LogDirective}
    (hd : ofText piece = .ok d) :
    '=' ∉ piece ∧ d = ⟨some (String.ofList piece), .upTo .trace⟩ := by
  have hs : Starts (piece.dropWhile Text.isBlank) := by
    by_contra hs
    rw [ofText_eq_malformed hs] at hd
    cases hd
  obtain ⟨blanks, hpos, hblanks, heq⟩ := h.exists_blanks
  generalize hvisible : piece.dropWhile Text.isBlank = visible at hs heq
  rw [ofText_eq_of_visible hvisible hs] at hd
  split at hd
  · next hsign =>
    obtain ⟨target, level, rfl, hfirst⟩ := List.eq_append_cons_of_mem hsign
    rw [takeWhile_append_sign hfirst, heq, ← List.append_assoc] at hd
    exact absurd hd (ofParts_ne_ok (by rw [Text.byteLength_append]; omega) d)
  · next hsign =>
    rw [ofWhole, h.ofText?_eq_none, Except.ok.injEq] at hd
    refine ⟨?_, hd.symm⟩
    rw [heq, List.mem_append]
    exact not_or.mpr ⟨hblanks, hsign⟩

/-- The target can stand before an equals sign. -/
def Printable (d : LogDirective) : Prop :=
  ∀ target ∈ d.target, Starts target.toList ∧ '=' ∉ target.toList

theorem Denotes.printable {piece : List Char} {d : LogDirective} (h : Denotes piece d) :
    d.Printable := by
  intro target htarget
  cases h with
  | level => cases htarget
  | target hs hsign | both hs hsign =>
    obtain rfl := Option.some.inj htarget
    simpa using ⟨hs, hsign⟩

theorem Printable.target_ne_empty {d : LogDirective} (h : d.Printable) : d.target ≠ some "" :=
  fun htarget => (h "" htarget).1.ne_nil rfl

theorem Denotes.mem_of_target {piece : List Char} {d : LogDirective} (h : Denotes piece d)
    {target : String} (htarget : d.target = some target) {c : Char} (hc : c ∈ target.toList) :
    c ∈ piece := by
  cases h with
  | level => cases htarget
  | target =>
    obtain rfl := Option.some.inj htarget
    simpa using hc
  | both =>
    obtain rfl := Option.some.inj htarget
    exact List.mem_append_left _ (by simpa using hc)

theorem starts_name (t : LogThreshold) : Starts t.name.toList :=
  LogThreshold.forall_of_all (p := fun t => Starts t.name.toList) (by decide +kernel) t

theorem isAlpha_name (t : LogThreshold) : ∀ c ∈ t.name.toList, c.isAlpha = true :=
  LogThreshold.isAlpha_of_name t.map_toLower_name

theorem notMem_name {mark : Char} (h : mark.isAlpha = false) (t : LogThreshold) :
    mark ∉ t.name.toList := fun hmark => by
  rw [isAlpha_name t mark hmark] at h
  cases h

theorem Printable.denotes_text {d : LogDirective} (h : d.Printable) : Denotes d.text.toList d := by
  obtain ⟨_ | target, t⟩ := d
  · exact .level (starts_name t) (notMem_name (by decide) t) t.denotes_name
  · obtain ⟨hs, hsign⟩ := h target rfl
    have hboth := Denotes.both hs hsign (.inr t.denotes_name)
    rw [String.ofList_toList] at hboth
    simpa [text] using hboth

theorem notMem_text {mark : Char} (halpha : mark.isAlpha = false) (hsign : mark ≠ '=')
    {d : LogDirective} (h : ∀ target ∈ d.target, mark ∉ target.toList) : mark ∉ d.text.toList := by
  obtain ⟨_ | target, t⟩ := d
  · exact notMem_name halpha t
  · simp [text, h target rfl, hsign, notMem_name halpha t]

end LogDirective
end TaskEngine
