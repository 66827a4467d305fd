import TaskEngine.Config.Record
import TaskEngine.Proofs.Json.Members
import TaskEngine.Proofs.Json.Tokens
import TaskEngine.Proofs.Traversal

/-! Reading a record from a value and from its tokens accepts the values that denote it and
no others. The two readers meet the members in different orders and may report different
faults, so that they are compared through the members found by name. -/

namespace TaskEngine

namespace FieldKind

def write : (kind : FieldKind) → kind.Value → Json
  | .count, n => .ofUInt64 n
  | .millis, n => .ofUInt64 n
  | .text, s => .string s

theorem readUnsigned_eq_ok_iff (expected : String) (j : Json) (n : UInt64) :
    readUnsigned expected (.ofJson j) = .ok n ↔ j = .ofUInt64 n := by
  constructor
  · intro h
    rcases j with _ | _ | ⟨m, inRange⟩ | _ | _ | _
    case number.integer =>
      simp only [JsonHead.ofJson, readUnsigned] at h
      split at h
      · next hm =>
        cases h
        have hsize : m.toNat < UInt64.size := by simp only [UInt64.size]; omega
        have hnat : ((UInt64.ofNat m.toNat).toNat : Int) = m := by
          rw [UInt64.toNat_ofNat_of_lt' hsize, Int.toNat_of_nonneg hm]
        simp only [Json.ofUInt64, JsonNumber.ofUInt64, hnat]
      · cases h
    all_goals cases h
  · rintro rfl
    simp [JsonHead.ofJson, Json.ofUInt64, JsonNumber.ofUInt64, readUnsigned]

theorem read_eq_ok_iff (kind : FieldKind) (j : Json) (v : kind.Value) :
    kind.read (.ofJson j) = .ok v ↔ j = kind.write v := by
  cases kind with
  | count => exact readUnsigned_eq_ok_iff _ j v
  | millis => exact readUnsigned_eq_ok_iff _ j v
  | text => cases j <;> simp [read, readText, JsonHead.ofJson, write]

theorem write_injective (kind : FieldKind) : Function.Injective kind.write := by
  intro v w h
  have hv := (kind.read_eq_ok_iff _ v).mpr rfl
  rw [h, (kind.read_eq_ok_iff _ w).mpr rfl] at hv
  exact (Except.ok.inj hv).symm

theorem map_write_eq_some_iff {kind : FieldKind} {given : Option kind.Value} {v : kind.Value} :
    given.map kind.write = some (kind.write v) ↔ given = some v := by
  simp [Option.map_eq_some_iff, kind.write_injective.eq_iff]

theorem eq_nil_of_read {kind : FieldKind} {j : Json} {v : kind.Value} {token : JsonToken}
    {ts : List JsonToken} (hread : kind.read (.ofJson j) = .ok v)
    (htokens : j.tokens = token :: ts) : ts = [] := by
  obtain rfl := (kind.read_eq_ok_iff j v).mp hread
  cases kind <;> exact (List.cons.inj htokens).2.symm

end FieldKind

namespace RecordFormat

variable {F : Type} (format : RecordFormat F)

abbrev Values := (f : F) → (format.kind f).Value

variable {format}

def Values.draft (r : format.Values) : format.Draft := fun f => some (r f)

theorem Draft.exists_eq_draft {draft : format.Draft} (h : ∀ f, (draft f).isSome) :
    ∃ r : format.Values, draft = r.draft :=
  ⟨fun f => (draft f).get (h f), funext fun f => by simp [Values.draft]⟩

theorem Draft.require_eq_ok_iff {draft : format.Draft} {f : F} {v : (format.kind f).Value} :
    draft.require f = .ok v ↔ draft f = some v := by
  unfold Draft.require
  cases draft f <;> simp

variable (format)

/-- Every field is listed once and has a name of its own. -/
structure WellFormed : Prop where
  mem_fields : ∀ f, f ∈ format.fields
  nodup_fields : format.fields.Nodup
  name_injective : Function.Injective format.name

/-- The records a value denotes. Of an object only the fields matter. -/
inductive Denotes : Json → format.Values → Prop
  | object (members : List (String × Json)) (r : format.Values)
      (fields : ∀ f, (Json.object members).get? (format.name f) =
        some ((format.kind f).write (r f))) : Denotes (.object members) r
  | array (r : format.Values) :
      Denotes (.array (format.fields.map fun f => (format.kind f).write (r f))) r

variable {format}

theorem WellFormed.field?_eq_some_iff (hf : format.WellFormed) {name : String} {f : F} :
    format.field? name = some f ↔ format.name f = name := by
  constructor
  · intro h
    simpa using List.find?_some h
  · rintro rfl
    cases hfind : format.field? (format.name f) with
    | none => simpa using List.find?_eq_none.mp hfind f (hf.mem_fields f)
    | some g =>
      have : format.name g = format.name f := by simpa using List.find?_some hfind
      rw [hf.name_injective this]

def NamesOnce (format : RecordFormat F) (ms : List (String × Json)) : Prop :=
  ∀ f, Json.countName (format.name f) ms ≤ 1

theorem NamesOnce.tail {name : String} {j : Json} {ms : List (String × Json)}
    (h : format.NamesOnce ((name, j) :: ms)) : format.NamesOnce ms := fun f => by
  have := h f
  rw [Json.countName_cons] at this
  omega

theorem NamesOnce.lookup_tail {f : F} {j : Json} {ms : List (String × Json)}
    (h : format.NamesOnce ((format.name f, j) :: ms)) : ms.lookup (format.name f) = none := by
  have := h f
  rw [Json.countName_cons, if_pos rfl] at this
  exact Json.lookup_eq_none_of_countName (by omega)

variable [DecidableEq F]

theorem readMembers_eq_ok_iff (hf : format.WellFormed) {ms : List (String × Json)}
    (hms : format.NamesOnce ms) (draft : format.Draft) (r : format.Values) :
    format.readMembers draft ms = .ok r.draft ↔
      ∀ f, (ms.lookup (format.name f)).or ((draft f).map (format.kind f).write) =
        some ((format.kind f).write (r f)) := by
  induction ms generalizing draft with
  | nil =>
    simp only [readMembers, Except.ok.injEq, funext_iff, Values.draft, List.lookup_nil,
      Option.none_or, FieldKind.map_write_eq_some_iff]
  | cons m ms ih =>
    obtain ⟨name, j⟩ := m
    rw [readMembers]
    split
    · next f hfield =>
      obtain rfl := hf.field?_eq_some_iff.mp hfield
      cases hread : (format.kind f).read (.ofJson j) with
      | error e =>
        refine iff_of_false nofun fun h => ?_
        have hj := h f
        rw [lookup_cons_ite, if_pos rfl, Option.some_or, Option.some.injEq,
          ← FieldKind.read_eq_ok_iff, hread] at hj
        cases hj
      | ok v =>
        obtain rfl := ((format.kind f).read_eq_ok_iff j v).mp hread
        refine (ih hms.tail (draft.set f v)).trans (forall_congr' fun g => ?_)
        rw [lookup_cons_ite]
        by_cases hg : f = g
        · subst hg
          rw [hms.lookup_tail, Draft.set_same, if_pos rfl]
          rfl
        · rw [Draft.set_of_ne _ _ hg, if_neg fun h => hg (hf.name_injective h.symm)]
    · next hfield =>
      refine (ih hms.tail draft).trans (forall_congr' fun f => ?_)
      rw [lookup_cons_ite, if_neg]
      rintro rfl
      rw [hf.field?_eq_some_iff.mpr rfl] at hfield
      cases hfield

theorem readElements_eq_ok_iff (length : Nat) {fields : List F} (hfields : fields.Nodup)
    (elements : List Json) (draft : format.Draft) (r : format.Values) :
    format.readElements length draft fields elements = .ok r.draft ↔
      elements = fields.map (fun f => (format.kind f).write (r f)) ∧
        ∀ f, f ∉ fields → draft f = some (r f) := by
  induction fields generalizing draft elements with
  | nil => cases elements <;> simp [readElements, Values.draft, funext_iff]
  | cons f fields ih =>
    obtain ⟨hmem, hnodup⟩ := List.nodup_cons.mp hfields
    cases elements with
    | nil => simp [readElements]
    | cons j elements =>
      rw [readElements, List.map_cons, List.cons.injEq]
      cases hread : (format.kind f).read (.ofJson j) with
      | error e =>
        refine iff_of_false nofun fun h => ?_
        rw [← FieldKind.read_eq_ok_iff, hread] at h
        cases h.1.1
      | ok v =>
        obtain rfl := ((format.kind f).read_eq_ok_iff j v).mp hread
        refine (ih hnodup elements (draft.set f v)).trans ⟨?_, ?_⟩
        · rintro ⟨rfl, hset⟩
          have hv : v = r f := by simpa using hset f hmem
          refine ⟨⟨by rw [hv], rfl⟩, fun g hg => ?_⟩
          obtain ⟨hne, hg⟩ := not_or.mp (mt List.mem_cons.mpr hg)
          rw [← Draft.set_of_ne draft v (Ne.symm hne)]
          exact hset g hg
        · rintro ⟨⟨hv, rfl⟩, hdraft⟩
          obtain rfl := (format.kind f).write_injective hv
          refine ⟨rfl, fun g hg => ?_⟩
          by_cases hne : f = g
          · subst hne; exact Draft.set_same ..
          · rw [Draft.set_of_ne _ _ hne]
            exact hdraft g (mt List.mem_cons.mp (not_or.mpr ⟨Ne.symm hne, hg⟩))

/-- Read from a value, a record is one that the value denotes. -/
theorem draftOfJson_eq_ok_iff (hf : format.WellFormed) (j : Json) (r : format.Values) :
    format.draftOfJson j = .ok r.draft ↔ format.Denotes j r := by
  have hmembers (ms : List (String × Json)) :=
    readMembers_eq_ok_iff hf (fun f => Json.countName_sortMembers ms (format.name f))
      format.emptyDraft r
  have helements (elements : List Json) :=
    readElements_eq_ok_iff elements.length hf.nodup_fields elements format.emptyDraft r
  simp only [Json.lookup_sortMembers, emptyDraft, Option.map_none, Option.or_none] at hmembers
  constructor
  · intro h
    cases j with
    | object ms => exact .object ms r ((hmembers ms).mp h)
    | array elements =>
      obtain ⟨rfl, -⟩ := (helements elements).mp h
      exact .array r
    | _ => cases h
  · rintro (⟨ms, _, hfields⟩ | _)
    · exact (hmembers ms).mpr hfields
    · exact (helements _).mpr ⟨rfl, fun f hmem => absurd (hf.mem_fields f) hmem⟩

theorem readToken_of_tokens (kind : FieldKind) {j : Json} {token : JsonToken}
    {ts : List JsonToken} (h : j.tokens = token :: ts) :
    readToken kind token = kind.read (.ofJson j) := by
  obtain ⟨token', ts', htokens, hhead⟩ := j.exists_tokens_eq_cons
  obtain ⟨rfl, -⟩ := List.cons.inj (h.symm.trans htokens)
  rw [readToken, hhead]

theorem scanSeparator_memberTokens (hf : format.WellFormed) {ms : List (String × Json)}
    (hms : format.NamesOnce ms) {draft : format.Draft}
    (hdraft : ∀ f, (ms.lookup (format.name f)).isSome → draft f = none) {fuel : Nat}
    (hfuel : (Json.memberTokens ms).length ≤ fuel) (rest : List JsonToken) :
    scanMembers.scanSeparator format fuel draft (Json.memberTokens ms ++ rest) =
      (format.readMembers draft ms).map (·, rest) := by
  induction ms generalizing draft fuel with
  | nil =>
    obtain _ | fuel := fuel
    · simp [Json.memberTokens] at hfuel
    · rfl
  | cons m ms ih =>
    obtain ⟨name, j⟩ := m
    simp only [Json.memberTokens, List.length_cons, List.length_append] at hfuel
    obtain ⟨fuel, rfl⟩ : ∃ k, fuel = k + 2 := ⟨fuel - 2, by omega⟩
    have htail (f : F) (h : (ms.lookup (format.name f)).isSome) : draft f = none := by
      refine hdraft f ?_
      rw [lookup_cons_ite]
      split
      · rfl
      · exact h
    simp only [Json.memberTokens, List.cons_append, List.append_assoc,
      scanMembers.scanSeparator, scanMembers, readMembers]
    cases hfield : format.field? name with
    | none =>
      simp only [Json.skip_tokens]
      exact ih hms.tail htail (by omega)
    | some f =>
      obtain rfl := hf.field?_eq_some_iff.mp hfield
      obtain ⟨token, ts, htokens, -⟩ := j.exists_tokens_eq_cons
      have hnone : draft f = none := hdraft f (by simp)
      simp only [hnone, Option.isSome_none, Bool.false_eq_true, if_false, htokens,
        List.cons_append, readToken_of_tokens _ htokens]
      cases hread : (format.kind f).read (.ofJson j) with
      | error e => rfl
      | ok v =>
        obtain rfl := FieldKind.eq_nil_of_read hread htokens
        refine ih hms.tail (fun g h => ?_) (by omega)
        rw [Draft.set_of_ne _ _ ?_]
        · exact htail g h
        · rintro rfl
          simp [hms.lookup_tail] at h

theorem scanElements_cons (present : Nat) (draft : format.Draft) (f : F) (fields : List F)
    (j : Json) (ts : List JsonToken) :
    format.scanElements present draft (f :: fields)
        ((if present = 0 then [] else [.comma]) ++ (j.tokens ++ ts)) =
      (format.kind f).read (.ofJson j) >>= fun v =>
        format.scanElements (present + 1) (draft.set f v) fields ts := by
  obtain ⟨token, ts', htokens, hhead⟩ := j.exists_tokens_eq_cons
  have hstart : format.scanElements present draft (f :: fields)
      ((if present = 0 then [] else [.comma]) ++ (token :: (ts' ++ ts))) =
        readToken (format.kind f) token >>= fun v =>
          format.scanElements (present + 1) (draft.set f v) fields (ts' ++ ts) := by
    split
    · next hpresent =>
      subst hpresent
      cases token <;> first | cases hhead | rfl
    · next hpresent => simp [scanElements, hpresent]
  rw [htokens, List.cons_append, hstart, readToken_of_tokens _ htokens]
  cases hread : (format.kind f).read (.ofJson j) with
  | error e => rfl
  | ok v =>
    obtain rfl := FieldKind.eq_nil_of_read hread htokens
    rfl

theorem scanElements_eq_ok_iff (length : Nat) (fields : List F) (elements : List Json)
    {present : Nat} (hpresent : present ≠ 0) (draft draft' : format.Draft) :
    format.scanElements present draft fields (Json.elementTokens elements) = .ok (draft', []) ↔
      format.readElements length draft fields elements = .ok draft' := by
  induction fields generalizing elements draft present with
  | nil => cases elements <;> simp [Json.elementTokens, scanElements, readElements]
  | cons f fields ih =>
    cases elements with
    | nil => simp [Json.elementTokens, scanElements, readElements]
    | cons j elements =>
      have hcons := scanElements_cons present draft f fields j (Json.elementTokens elements)
      rw [if_neg hpresent, List.singleton_append] at hcons
      rw [Json.elementTokens, readElements, hcons]
      cases (format.kind f).read (.ofJson j) with
      | error e => simp [bind, Except.bind]
      | ok v => exact ih elements (by omega) (draft.set f v)

/-- No field is named twice at the top of a value. -/
def Unrepeated (format : RecordFormat F) (j : Json) : Prop :=
  ∀ ms, j = .object ms → format.NamesOnce ms

theorem draftOfTokens_object (hf : format.WellFormed) {ms : List (String × Json)}
    (hms : format.NamesOnce ms) :
    format.draftOfTokens (Json.object ms).tokens =
      (format.readMembers format.emptyDraft ms).map (·, []) := by
  obtain _ | ⟨⟨name, j⟩, ms⟩ := ms
  · rfl
  let ts := .string (some name) :: .colon :: (j.tokens ++ Json.memberTokens ms)
  have hscan : scanMembers.scanSeparator format (Json.enough ts + 1) format.emptyDraft
      (.comma :: ts ++ []) = (format.readMembers format.emptyDraft ((name, j) :: ms)).map (·, []) :=
    scanSeparator_memberTokens hf hms (fun _ _ => rfl)
      (by simp [Json.memberTokens, Json.enough, ts]; omega) []
  rw [← hscan, List.append_nil, Json.tokens]
  rfl

theorem draftOfTokens_array_eq_ok_iff (elements : List Json) (draft : format.Draft) :
    format.draftOfTokens (Json.array elements).tokens = .ok (draft, []) ↔
      format.draftOfJson (.array elements) = .ok draft := by
  obtain _ | ⟨j, elements⟩ := elements
  · simp only [Json.tokens, draftOfTokens, draftOfJson]
    cases format.fields <;> simp [scanElements, readElements]
  simp only [Json.tokens, draftOfTokens, draftOfJson]
  cases format.fields with
  | nil =>
    obtain ⟨token, ts, htokens, hhead⟩ := j.exists_tokens_eq_cons
    rw [htokens]
    cases token <;> first | cases hhead | simp [scanElements, readElements]
  | cons f fields =>
    have hcons := scanElements_cons 0 format.emptyDraft f fields j (Json.elementTokens elements)
    rw [if_pos rfl, List.nil_append] at hcons
    rw [hcons, readElements]
    cases (format.kind f).read (.ofJson j) with
    | error e => simp [bind, Except.bind]
    | ok v => exact scanElements_eq_ok_iff _ fields elements (by omega) _ draft

/-- From the tokens of a value, a record is read whenever it is read from the value. -/
theorem draftOfTokens_eq_ok_iff (hf : format.WellFormed) {j : Json} (hj : format.Unrepeated j)
    (r : format.Values) :
    format.draftOfTokens j.tokens = .ok (r.draft, []) ↔ format.draftOfJson j = .ok r.draft := by
  cases j with
  | object ms =>
    have hms := hj ms rfl
    have hmap : (format.readMembers format.emptyDraft ms).map (·, ([] : List JsonToken)) =
        .ok (r.draft, []) ↔ format.readMembers format.emptyDraft ms = .ok r.draft := by
      cases format.readMembers format.emptyDraft ms <;> simp [Except.map]
    rw [draftOfTokens_object hf hms, hmap, draftOfJson, readMembers_eq_ok_iff hf hms,
      readMembers_eq_ok_iff hf fun f => Json.countName_sortMembers ms (format.name f)]
    simp only [Json.lookup_sortMembers, Json.lookup_reverse_of_countName (hms _)]
  | array elements => exact draftOfTokens_array_eq_ok_iff elements r.draft
  | _ => exact iff_of_false nofun nofun

section Build

/-- A record is built from a draft when, and only when, all fields are given. -/
structure Builds {α : Type} (build : format.Draft → Except DecodeError α)
    (make : format.Values → α) : Prop where
  ok : ∀ r, build r.draft = .ok (make r)
  full : ∀ draft a, build draft = .ok a → ∃ r : format.Values, draft = r.draft

variable {α : Type} {build : format.Draft → Except DecodeError α} {make : format.Values → α}
variable (hf : format.WellFormed) (hbuild : format.Builds build make)
include hf hbuild

theorem ofJson_eq_ok_iff (j : Json) (a : α) :
    format.ofJson build j = .ok a ↔ ∃ r, format.Denotes j r ∧ make r = a := by
  simp only [ofJson, bind_eq_ok_iff]
  constructor
  · rintro ⟨draft, hread, hmade⟩
    obtain ⟨r, rfl⟩ := hbuild.full draft a hmade
    exact ⟨r, (draftOfJson_eq_ok_iff hf j r).mp hread,
      Except.ok.inj ((hbuild.ok r).symm.trans hmade)⟩
  · rintro ⟨r, hdenotes, rfl⟩
    exact ⟨r.draft, (draftOfJson_eq_ok_iff hf j r).mpr hdenotes, hbuild.ok r⟩

theorem ofText_eq_ok_iff {text : String} {j : Json} (hj : format.Unrepeated j)
    (hscan : JsonToken.scan text.toList = j.tokens) (a : α) :
    format.ofText build text = .ok a ↔ format.ofJson build j = .ok a := by
  simp only [ofText, ofJson, hscan, bind_eq_ok_iff]
  constructor
  · rintro ⟨⟨draft, rest⟩, hread, made, hmade, hend⟩
    obtain ⟨r, rfl⟩ := hbuild.full draft made hmade
    cases rest with
    | nil =>
      cases hend
      exact ⟨r.draft, (draftOfTokens_eq_ok_iff hf hj r).mp hread, hmade⟩
    | cons token rest => cases hend
  · rintro ⟨draft, hread, hmade⟩
    obtain ⟨r, rfl⟩ := hbuild.full draft a hmade
    exact ⟨(r.draft, []), (draftOfTokens_eq_ok_iff hf hj r).mpr hread, a, hmade, rfl⟩

end Build

end RecordFormat
end TaskEngine
