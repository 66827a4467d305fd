import TaskEngine.Config.Format
import TaskEngine.Proofs.Config.Record
import TaskEngine.Proofs.Json.Scanned

/-! The settings that are read from a value or a text are those that it denotes, and the
text written for settings is read back to them, up to the part of the idle timeout that is
not written. -/

namespace TaskEngine

namespace RecordFormat

variable {F : Type} {format : RecordFormat F}

/-- The written form of a record: an object with the fields in declared order. -/
def Values.toJson (r : format.Values) : Json :=
  .object (format.fields.map fun f => (format.name f, (format.kind f).write (r f)))

theorem unrepeated_toJson (hf : format.WellFormed) (r : format.Values) :
    format.Unrepeated r.toJson := by
  rintro ms hms f
  cases hms
  have hnodup : (format.fields.map format.name).Nodup :=
    List.pairwise_map.mpr (hf.nodup_fields.imp fun hne h => hne (hf.name_injective h))
  rw [Json.countName, List.map_map]
  exact List.nodup_iff_count.mp hnodup (format.name f)

theorem denotes_toJson (hf : format.WellFormed) (r : format.Values) :
    format.Denotes r.toJson r := by
  refine .object _ r fun f => ?_
  rw [Json.get?, Json.lookup_reverse_of_countName (unrepeated_toJson hf r _ rfl f)]
  have hmem := hf.mem_fields f
  generalize format.fields = fields at hmem
  induction fields with
  | nil => cases hmem
  | cons g fields ih =>
    rw [List.map_cons, lookup_cons_ite]
    split
    · next h => rw [hf.name_injective h]
    · next h =>
      obtain rfl | hmem := List.mem_cons.mp hmem
      · exact absurd rfl h
      · exact ih hmem

theorem noDoubles_toJson (r : format.Values) : JsonToken.NoDoubles r.toJson.tokens := by
  refine Json.noDoubles_object fun m hm => ?_
  obtain ⟨f, -, rfl⟩ := List.mem_map.mp hm
  generalize r f = v
  generalize format.kind f = kind at v
  cases kind <;> simp [FieldKind.write, Json.ofUInt64, JsonNumber.ofUInt64, Json.tokens,
    JsonToken.NoDoubles]

variable [DecidableEq F] {α : Type} {build : format.Draft → Except DecodeError α}
  {make : format.Values → α}

theorem ofText_compact (hf : format.WellFormed) (hbuild : format.Builds build make)
    (r : format.Values) : format.ofText build r.toJson.compact = .ok (make r) := by
  have hscan := Json.scan_compact (noDoubles_toJson r)
  rw [ofText_eq_ok_iff hf hbuild (unrepeated_toJson hf r) hscan, ofJson_eq_ok_iff hf hbuild]
  exact ⟨r, denotes_toJson hf r, rfl⟩

end RecordFormat

namespace PoolConfig

def values (c : PoolConfig) : format.Values
  | .coreThreads => c.coreThreads
  | .maxThreads => c.maxThreads
  | .queueCapacity => c.queueCapacity
  | .idleTimeout => c.idleTimeout.millis64
  | .threadName => c.threadName

def ofValues (r : format.Values) : PoolConfig where
  coreThreads := r .coreThreads
  maxThreads := r .maxThreads
  queueCapacity := r .queueCapacity
  idleTimeout := .ofMillis (r .idleTimeout)
  threadName := r .threadName

theorem wellFormed_format : format.WellFormed where
  mem_fields f := by cases f <;> decide
  nodup_fields := by decide
  name_injective f g := by cases f <;> cases g <;> simp [format]

theorem builds_ofDraft : format.Builds ofDraft ofValues where
  ok r := rfl
  full draft c h := by
    simp only [ofDraft, bind_eq_ok_iff, RecordFormat.Draft.require_eq_ok_iff] at h
    obtain ⟨core, h₁, max, h₂, capacity, h₃, idleMillis, h₄, name, h₅, -⟩ := h
    exact RecordFormat.Draft.exists_eq_draft fun f => by
      cases f <;> simp only [h₁, h₂, h₃, h₄, h₅, Option.isSome_some]

/-- What pool settings may be read from. -/
inductive Denotes : Json → PoolConfig → Prop
  | object (members : List (String × Json)) (core max capacity idleMillis : UInt64)
      (name : String)
      (coreThreads : (Json.object members).get? "core_threads" = some (.ofUInt64 core))
      (maxThreads : (Json.object members).get? "max_threads" = some (.ofUInt64 max))
      (queueCapacity : (Json.object members).get? "queue_capacity" = some (.ofUInt64 capacity))
      (idleTimeout : (Json.object members).get? "idle_timeout" = some (.ofUInt64 idleMillis))
      (threadName : (Json.object members).get? "thread_name" = some (.string name)) :
      Denotes (.object members) ⟨core, max, capacity, .ofMillis idleMillis, name⟩
  | array (core max capacity idleMillis : UInt64) (name : String) :
      Denotes
        (.array [.ofUInt64 core, .ofUInt64 max, .ofUInt64 capacity, .ofUInt64 idleMillis,
          .string name])
        ⟨core, max, capacity, .ofMillis idleMillis, name⟩

theorem ofValues_values (c : PoolConfig) :
    ofValues c.values = { c with idleTimeout := .ofMillis c.idleTimeout.millis64 } := rfl

theorem denotes_iff (j : Json) (c : PoolConfig) :
    Denotes j c ↔ ∃ r, format.Denotes j r ∧ ofValues r = c := by
  constructor
  · rintro (⟨members, core, max, capacity, idleMillis, name, h₁, h₂, h₃, h₄, h₅⟩ |
      ⟨core, max, capacity, idleMillis, name⟩)
    all_goals
      refine ⟨values ⟨core, max, capacity, .ofMillis idleMillis, name⟩, ?_, ?_⟩
    · refine .object _ _ fun f => ?_
      cases f <;> simp only [values, Duration.millis64_ofMillis] <;> assumption
    · simp [ofValues_values]
    · have := RecordFormat.Denotes.array (values ⟨core, max, capacity, .ofMillis idleMillis, name⟩)
      simpa [format, values, FieldKind.write] using this
    · simp [ofValues_values]
  · rintro ⟨r, ⟨members, _, hfields⟩ | _, rfl⟩
    · exact .object members _ _ _ _ _ (hfields .coreThreads) (hfields .maxThreads)
        (hfields .queueCapacity) (hfields .idleTimeout) (hfields .threadName)
    · exact .array ..

end PoolConfig

namespace TimerConfig

def values (c : TimerConfig) : format.Values
  | .timerThreads => c.timerThreads
  | .threadName => c.threadName

def ofValues (r : format.Values) : TimerConfig where
  timerThreads := r .timerThreads
  threadName := r .threadName

theorem wellFormed_format : format.WellFormed where
  mem_fields f := by cases f <;> decide
  nodup_fields := by decide
  name_injective f g := by cases f <;> cases g <;> simp [format]

theorem builds_ofDraft : format.Builds ofDraft ofValues where
  ok r := rfl
  full draft c h := by
    simp only [ofDraft, bind_eq_ok_iff, RecordFormat.Draft.require_eq_ok_iff] at h
    obtain ⟨threads, h₁, name, h₂, -⟩ := h
    exact RecordFormat.Draft.exists_eq_draft fun f => by
      cases f <;> simp only [h₁, h₂, Option.isSome_some]

inductive Denotes : Json → TimerConfig → Prop
  | object (members : List (String × Json)) (threads : UInt64) (name : String)
      (timerThreads : (Json.object members).get? "timer_threads" = some (.ofUInt64 threads))
      (threadName : (Json.object members).get? "thread_name" = some (.string name)) :
      Denotes (.object members) ⟨threads, name⟩
  | array (threads : UInt64) (name : String) :
      Denotes (.array [.ofUInt64 threads, .string name]) ⟨threads, name⟩

theorem denotes_iff (j : Json) (c : TimerConfig) :
    Denotes j c ↔ ∃ r, format.Denotes j r ∧ ofValues r = c := by
  constructor
  · rintro (⟨members, threads, name, h₁, h₂⟩ | ⟨threads, name⟩)
    all_goals refine ⟨values ⟨threads, name⟩, ?_, rfl⟩
    · refine .object _ _ fun f => ?_
      cases f <;> assumption
    · exact .array (values ⟨threads, name⟩)
  · rintro ⟨r, ⟨members, _, hfields⟩ | _, rfl⟩
    · exact .object members _ _ (hfields .timerThreads) (hfields .threadName)
    · exact .array ..

end TimerConfig

theorem Duration.ofMillis_millis64_eq_iff (d : Duration) :
    ofMillis d.millis64 = d ↔ d.nanoseconds % 1_000_000 = 0 ∧ d.millis < UInt64.size := by
  have hnanos : (ofMillis d.millis64).nanoseconds = d.millis % UInt64.size * 1_000_000 := by
    simp [ofMillis, millis64]
  have heq : ofMillis d.millis64 = d ↔ (ofMillis d.millis64).nanoseconds = d.nanoseconds :=
    ⟨congrArg _, fun h => by cases d; simpa [ofMillis] using h⟩
  rw [heq, hnanos]
  simp only [millis, UInt64.size]
  omega

/-- The text written for pool settings is read back, with the idle timeout cut down to the
low 64 bits of its whole milliseconds; written again, it is the same text. The settings are
the same when nothing of the idle timeout is cut off. Timer settings are read back whole. -/
theorem settings_round_trip :
    (∀ c : PoolConfig,
      (∃ ms : UInt64, ms.toNat = c.idleTimeout.millis % UInt64.size ∧
        PoolConfig.ofText c.toText = .ok { c with idleTimeout := .ofMillis ms } ∧
        { c with idleTimeout := .ofMillis ms }.toText = c.toText) ∧
      (PoolConfig.ofText c.toText = .ok c ↔
        c.idleTimeout.nanoseconds % 1_000_000 = 0 ∧ c.idleTimeout.millis < UInt64.size)) ∧
    ∀ c : TimerConfig, TimerConfig.ofText c.toText = .ok c := by
  refine ⟨fun c => ?_, fun c => ?_⟩
  · have hread : PoolConfig.ofText c.toText =
        .ok { c with idleTimeout := .ofMillis c.idleTimeout.millis64 } :=
      RecordFormat.ofText_compact PoolConfig.wellFormed_format PoolConfig.builds_ofDraft c.values
    refine ⟨⟨c.idleTimeout.millis64, by simp [Duration.millis64], hread, ?_⟩, ?_⟩
    · simp [PoolConfig.toText, PoolConfig.toJson]
    · rw [hread, ← Duration.ofMillis_millis64_eq_iff, Except.ok.injEq]
      exact ⟨congrArg PoolConfig.idleTimeout, fun h => by rw [h]⟩
  · exact RecordFormat.ofText_compact TimerConfig.wellFormed_format TimerConfig.builds_ofDraft
      c.values

/-- Settings are read from the values that denote them and from no others, and their sizes
are not checked. A text that denotes a value and names no field of the settings twice is
read like that value. -/
theorem settings_read_iff :
    (∀ j c, PoolConfig.ofJson j = .ok c ↔ PoolConfig.Denotes j c) ∧
    (∀ text j, Json.parse? text = some j → PoolConfig.format.Unrepeated j →
      ∀ c, PoolConfig.ofText text = .ok c ↔ PoolConfig.ofJson j = .ok c) ∧
    (∀ j c, TimerConfig.ofJson j = .ok c ↔ TimerConfig.Denotes j c) ∧
    (∀ text j, Json.parse? text = some j → TimerConfig.format.Unrepeated j →
      ∀ c, TimerConfig.ofText text = .ok c ↔ TimerConfig.ofJson j = .ok c) := by
  refine ⟨fun j c => ?_, fun text j htext hj c => ?_, fun j c => ?_, fun text j htext hj c => ?_⟩
  · rw [PoolConfig.denotes_iff]
    exact RecordFormat.ofJson_eq_ok_iff PoolConfig.wellFormed_format PoolConfig.builds_ofDraft j c
  · exact RecordFormat.ofText_eq_ok_iff PoolConfig.wellFormed_format PoolConfig.builds_ofDraft hj
      (Json.parse?_eq_some_iff.mp htext |>.1) c
  · rw [TimerConfig.denotes_iff]
    exact RecordFormat.ofJson_eq_ok_iff TimerConfig.wellFormed_format TimerConfig.builds_ofDraft
      j c
  · exact RecordFormat.ofText_eq_ok_iff TimerConfig.wellFormed_format TimerConfig.builds_ofDraft
      hj (Json.parse?_eq_some_iff.mp htext |>.1) c

/-- Members in another order, one of them unknown. -/
theorem settings_read_iff_unordered :
    PoolConfig.ofText
        (Json.object
          [("idle_timeout", .ofUInt64 7), ("thread_name", .string "w"),
            ("x", .array [.object []]), ("queue_capacity", .ofUInt64 3),
            ("max_threads", .ofUInt64 2), ("core_threads", .ofUInt64 1)]).compact =
        .ok ⟨1, 2, 3, .ofMillis 7, "w"⟩ ∧
      TimerConfig.ofText
        (Json.object
          [("thread_name", .string "t"), ("x", .null), ("timer_threads", .ofUInt64 2)]).compact =
        .ok ⟨2, "t"⟩ := by
  obtain ⟨hpool, hpoolText, htimer, htimerText⟩ := settings_read_iff
  constructor
  · refine (hpoolText _ _ (Json.parse?_compact ?_ (by decide)) ?_ _).mpr ((hpool _ _).mpr ?_)
    · simp [JsonToken.NoDoubles, Json.tokens, Json.memberTokens, Json.elementTokens,
        Json.ofUInt64, JsonNumber.ofUInt64]
    · rintro ms hms f
      cases hms
      cases f <;> decide
    · exact .object _ 1 2 3 7 "w" rfl rfl rfl rfl rfl
  · refine (htimerText _ _ (Json.parse?_compact ?_ (by decide)) ?_ _).mpr ((htimer _ _).mpr ?_)
    · simp [JsonToken.NoDoubles, Json.tokens, Json.memberTokens, Json.ofUInt64,
        JsonNumber.ofUInt64]
    · rintro ms hms f
      cases hms
      cases f <;> decide
    · exact .object _ 2 "t" rfl rfl

end TaskEngine
