import TaskEngine.Config.Environment
import TaskEngine.Proofs.Text.Numeral

/-! Every number among the settings is the one that its own variable holds as a numeral, or
the default when the variable holds none that fits 64 bits. -/

namespace TaskEngine

theorem fromUTF8?_eq_some_iff (bytes : ByteArray) (s : String) :
    String.fromUTF8? bytes = some s ↔ bytes = s.toUTF8 := by
  rw [String.fromUTF8?]
  constructor
  · intro h
    split at h
    · cases h
      rfl
    · cases h
  · rintro rfl
    rw [String.toUTF8_eq_toByteArray, dif_pos s.isValidUTF8]
    rfl

namespace Environment

/-- The variable is set to the text of a numeral. -/
def Holds (env : Environment) (name : String) (n : Nat) : Prop :=
  ∃ text : String, env.bytes? name = some text.toUTF8 ∧ Text.Numeral text.toList n

theorem text?_eq_some_iff (env : Environment) (name s : String) :
    env.text? name = some s ↔ env.bytes? name = some s.toUTF8 := by
  rw [text?, Option.bind_eq_some_iff]
  simp only [fromUTF8?_eq_some_iff, exists_eq_right]

theorem count?_eq_some_iff (env : Environment) (name : String) (n : UInt64) :
    env.count? name = some n ↔ env.Holds name n.toNat := by
  rw [count?, Option.bind_eq_some_iff]
  simp only [text?_eq_some_iff, Text.unsigned?_eq_some_iff, Holds]

theorem count?_eq_none_iff (env : Environment) (name : String) :
    env.count? name = none ↔ ∀ n < UInt64.size, ¬ env.Holds name n := by
  rw [Option.eq_none_iff_forall_ne_some]
  constructor
  · intro h n hn hholds
    refine h (UInt64.ofNat n) ((count?_eq_some_iff env name _).mpr ?_)
    rwa [UInt64.toNat_ofNat_of_lt' hn]
  · exact fun h n hn => h n.toNat n.toNat_lt ((count?_eq_some_iff env name n).mp hn)

theorem count?_getD_eq_iff (env : Environment) (name : String) (default n : UInt64) :
    (env.count? name).getD default = n ↔
      env.Holds name n.toNat ∨ (∀ m < UInt64.size, ¬ env.Holds name m) ∧ n = default := by
  rw [← count?_eq_some_iff, ← count?_eq_none_iff]
  cases env.count? name with
  | none => simp [eq_comm]
  | some m => simp

theorem holds_toString {env : Environment} {name : String} {n : UInt64}
    (h : env.bytes? name = some (toString n).toUTF8) : env.Holds name n.toNat := by
  refine ⟨toString n, h, .plain ?_⟩
  have hdigits : (toString n).toList = Nat.toDigits 10 n.toNat := String.toList_ofList
  exact hdigits ▸ Text.digits_toDigits n.toNat

end Environment

inductive NumericSetting
  | coreThreads | maxThreads | queueCapacity | idleTimeout | timerThreads

namespace NumericSetting

def name : NumericSetting → String
  | .coreThreads => "TASKPOOL_CORE_THREADS"
  | .maxThreads => "TASKPOOL_MAX_THREADS"
  | .queueCapacity => "TASKPOOL_QUEUE_CAPACITY"
  | .idleTimeout => "TASKPOOL_IDLE_TIMEOUT_MS"
  | .timerThreads => "TASKPOOL_TIMER_THREADS"

def default : NumericSetting → UInt64
  | .coreThreads => 4
  | .maxThreads => 8
  | .queueCapacity => 1024
  | .idleTimeout => 60000
  | .timerThreads => 1

/-- The settings taken from the environment have this number; an idle timeout counts in
milliseconds. -/
def IsTakenAs (env : Environment) : NumericSetting → UInt64 → Prop
  | .coreThreads, n => (PoolConfig.ofEnvironment env).coreThreads = n
  | .maxThreads, n => (PoolConfig.ofEnvironment env).maxThreads = n
  | .queueCapacity, n => (PoolConfig.ofEnvironment env).queueCapacity = n
  | .idleTimeout, n => (PoolConfig.ofEnvironment env).idleTimeout = .ofMillis n
  | .timerThreads, n => (TimerConfig.ofEnvironment env).timerThreads = n

end NumericSetting

theorem Duration.ofMillis_inj {m n : UInt64} : ofMillis m = ofMillis n ↔ m = n :=
  ⟨fun h => by rw [← millis64_ofMillis m, h, millis64_ofMillis], congrArg _⟩

theorem NumericSetting.isTakenAs_iff (env : Environment) (f : NumericSetting) (n : UInt64) :
    f.IsTakenAs env n ↔ (env.count? f.name).getD f.default = n := by
  cases f with
  | idleTimeout =>
    rw [IsTakenAs, ← Duration.ofMillis_inj]
    exact Iff.of_eq (congrArg (· = _) (Option.getD_map Duration.ofMillis 60000 _))
  | _ => exact Iff.rfl

/-- A setting is the number that its variable holds as a numeral below 2^64, and its default
when the variable holds none. So the decimal text of a number is read back. Environments that
agree on the variable of a setting agree on the setting. -/
theorem setting_of_own_variable :
    (∀ (env : Environment) (f : NumericSetting) (n : UInt64),
      f.IsTakenAs env n ↔
        env.Holds f.name n.toNat ∨
          (∀ m < UInt64.size, ¬ env.Holds f.name m) ∧ n = f.default) ∧
    (∀ (env : Environment) (f : NumericSetting) (n : UInt64),
      env.bytes? f.name = some (toString n).toUTF8 → f.IsTakenAs env n) ∧
    (∀ (env env' : Environment) (f : NumericSetting),
      env.bytes? f.name = env'.bytes? f.name → f.IsTakenAs env = f.IsTakenAs env') ∧
    (∀ env env' : Environment,
      env.bytes? "TASKPOOL_THREAD_NAME" = env'.bytes? "TASKPOOL_THREAD_NAME" →
        (PoolConfig.ofEnvironment env).threadName = (PoolConfig.ofEnvironment env').threadName) ∧
    ∀ env env' : Environment,
      (TimerConfig.ofEnvironment env).threadName = (TimerConfig.ofEnvironment env').threadName := by
  have hiff : ∀ (env : Environment) (f : NumericSetting) (n : UInt64), f.IsTakenAs env n ↔
      env.Holds f.name n.toNat ∨ (∀ m < UInt64.size, ¬ env.Holds f.name m) ∧ n = f.default :=
    fun env f n => (f.isTakenAs_iff env n).trans (env.count?_getD_eq_iff f.name f.default n)
  refine ⟨hiff, fun env f n htext => ?_, fun env env' f hagree => ?_, fun env env' hagree => ?_,
    fun _ _ => rfl⟩
  · exact (hiff env f n).mpr (.inl (Environment.holds_toString htext))
  · funext n
    rw [eq_iff_iff, hiff, hiff]
    simp only [Environment.Holds, hagree]
  · simp only [PoolConfig.ofEnvironment, Environment.text?, hagree]

/-- A sign and leading zeros, a numeral that is not decimal, bytes that are no text, a plain
decimal and a number that is too large; and the plain decimal alone. -/
theorem setting_of_own_variable_mixed :
    let env := Environment.ofList
      [("TASKPOOL_CORE_THREADS", "+007".toUTF8), ("TASKPOOL_MAX_THREADS", "0x10".toUTF8),
        ("TASKPOOL_QUEUE_CAPACITY", ⟨#[0xff]⟩), ("TASKPOOL_IDLE_TIMEOUT_MS", "250".toUTF8),
        ("TASKPOOL_TIMER_THREADS", "18446744073709551616".toUTF8)]
    let alone := Environment.ofList [("TASKPOOL_IDLE_TIMEOUT_MS", "250".toUTF8)]
    (NumericSetting.IsTakenAs env .coreThreads 7 ∧ NumericSetting.IsTakenAs env .maxThreads 8 ∧
      NumericSetting.IsTakenAs env .queueCapacity 1024 ∧
      NumericSetting.IsTakenAs env .idleTimeout 250 ∧
      NumericSetting.IsTakenAs env .timerThreads 1) ∧
    NumericSetting.IsTakenAs env .idleTimeout = NumericSetting.IsTakenAs alone .idleTimeout ∧
    (PoolConfig.ofEnvironment env).threadName = (PoolConfig.ofEnvironment alone).threadName := by
  intro env alone
  obtain ⟨hiff, htext, hagree, hname, -⟩ := setting_of_own_variable
  have hunset : ∀ f : NumericSetting, env.count? f.name = none → f.IsTakenAs env f.default :=
    fun f h => (hiff env f f.default).mpr (.inr ⟨(env.count?_eq_none_iff f.name).mp h, rfl⟩)
  have hseven : Text.Numeral ['+', '0', '0', '7'] 7 :=
    .signed (.snoc (.snoc (.one (d := 0) (by decide)) (d := 0) (by decide)) (d := 7) (by decide))
  refine ⟨⟨(hiff env .coreThreads 7).mpr (.inl ⟨"+007", by decide, hseven⟩),
    hunset .maxThreads (by decide +kernel), hunset .queueCapacity (by decide +kernel),
    htext env .idleTimeout 250 (by decide), hunset .timerThreads (by decide +kernel)⟩,
    hagree env alone .idleTimeout (by decide), hname env alone (by decide)⟩

end TaskEngine
