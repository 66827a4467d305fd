import Mathlib.Data.List.Induction
import TaskEngine.Text.Decimal

/-! A text is read as a number exactly when it is a numeral, that is digits with or without
a plus sign in front, of that number, and the number fits 64 bits. -/

namespace TaskEngine
namespace Text

/-- One or more digits, the most significant first, and the number they denote. -/
inductive Digits : List Char → Nat → Prop
  | one {d : Nat} (hd : d < 10) : Digits [Nat.digitChar d] d
  | snoc {cs : List Char} {n d : Nat} (h : Digits cs n) (hd : d < 10) :
      Digits (cs ++ [Nat.digitChar d]) (10 * n + d)

inductive Numeral : List Char → Nat → Prop
  | plain {cs : List Char} {n : Nat} (h : Digits cs n) : Numeral cs n
  | signed {cs : List Char} {n : Nat} (h : Digits cs n) : Numeral ('+' :: cs) n

theorem digitChar_toNat_sub {c : Char} (h : c.isDigit = true) :
    c.toNat - 48 < 10 ∧ Nat.digitChar (c.toNat - 48) = c := by
  obtain ⟨hlow, hhigh⟩ : 48 ≤ c.toNat ∧ c.toNat ≤ 57 := Char.isDigit_iff_toNat.mp h
  have hd : c.toNat - 48 < 10 := by omega
  refine ⟨hd, Char.toNat_inj.mp ?_⟩
  rw [Nat.toNat_digitChar_of_lt_ten hd]
  omega

theorem ofDigitChars_snoc {cs : List Char} {d : Nat} (hd : d < 10) :
    Nat.ofDigitChars 10 (cs ++ [Nat.digitChar d]) 0 = 10 * Nat.ofDigitChars 10 cs 0 + d := by
  rw [Nat.ofDigitChars_append, Nat.ofDigitChars_cons_digitChar_of_lt_ten hd,
    Nat.ofDigitChars_nil]

theorem digits_iff (cs : List Char) (n : Nat) :
    Digits cs n ↔
      cs ≠ [] ∧ cs.all Char.isDigit = true ∧ Nat.ofDigitChars 10 cs 0 = n := by
  constructor
  · intro h
    induction h with
    | one hd =>
      refine ⟨List.cons_ne_nil _ _, by simp [Nat.isDigit_digitChar, hd], ?_⟩
      rw [← List.nil_append [Nat.digitChar _], ofDigitChars_snoc hd, Nat.ofDigitChars_nil]
      omega
    | snoc _ hd ih =>
      obtain ⟨-, hall, hvalue⟩ := ih
      refine ⟨by simp, ?_, by rw [ofDigitChars_snoc hd, hvalue]⟩
      rw [List.all_append, hall]
      simp [Nat.isDigit_digitChar, hd]
  · rintro ⟨hne, hall, rfl⟩
    induction cs using List.reverseRecOn with
    | nil => exact absurd rfl hne
    | append_singleton cs c ih =>
      rw [List.all_append, Bool.and_eq_true] at hall
      obtain ⟨hcs, hc⟩ := hall
      obtain ⟨hd, hchar⟩ := digitChar_toNat_sub (by simpa using hc)
      rw [← hchar, ofDigitChars_snoc hd]
      by_cases hnil : cs = []
      · subst hnil
        simpa [Nat.ofDigitChars_nil] using Digits.one hd
      · exact .snoc (ih hnil hcs) hd

theorem digits_toDigits (n : Nat) : Digits (Nat.toDigits 10 n) n := by
  rw [digits_iff]
  refine ⟨Nat.toDigits_ne_nil, ?_, Nat.ofDigitChars_ten_toDigits⟩
  rw [List.all_eq_true]
  exact fun c hc => Nat.isDigit_of_mem_toDigits (by decide) (by decide) hc

theorem dropPlus_eq_self {cs : List Char} (h : cs.all Char.isDigit = true) : dropPlus cs = cs := by
  unfold dropPlus
  split
  · simp [Char.isDigit] at h
  · rfl

theorem numeral_iff (cs : List Char) (n : Nat) : Numeral cs n ↔ Digits (dropPlus cs) n := by
  constructor
  · rintro (⟨h⟩ | ⟨h⟩)
    · rwa [dropPlus_eq_self ((digits_iff _ _).mp h).2.1]
    · exact h
  · intro h
    unfold dropPlus at h
    split at h
    · exact .signed h
    · exact .plain h

theorem Numeral.unique {cs : List Char} {m n : Nat} (hm : Numeral cs m) (hn : Numeral cs n) :
    m = n := by
  rw [numeral_iff, digits_iff] at hm hn
  exact hm.2.2.symm.trans hn.2.2

theorem unsigned?_eq_some_iff (cs : List Char) (n : UInt64) :
    unsigned? cs = some n ↔ Numeral cs n.toNat := by
  rw [numeral_iff, digits_iff]
  simp only [unsigned?, Option.ite_none_right_eq_some, Option.some.injEq]
  constructor
  · rintro ⟨⟨hne, hall⟩, hlt, rfl⟩
    exact ⟨hne, hall, (UInt64.toNat_ofNat_of_lt hlt).symm⟩
  · rintro ⟨hne, hall, hvalue⟩
    rw [hvalue]
    exact ⟨⟨hne, hall⟩, n.toNat_lt, UInt64.ofNat_toNat⟩

theorem Numeral.ne_nil {cs : List Char} {n : Nat} (h : Numeral cs n) : cs ≠ [] := by
  obtain ⟨h⟩ | ⟨h⟩ := h
  · exact ((digits_iff _ _).mp h).1
  · exact List.cons_ne_nil _ _

theorem Numeral.forall_mem {cs : List Char} {n : Nat} (h : Numeral cs n) :
    ∀ c ∈ cs, c = '+' ∨ c.isDigit = true := by
  have hdigits : ∀ {ds : List Char}, Digits ds n → ∀ c ∈ ds, c = '+' ∨ c.isDigit = true :=
    fun h c hc => .inr (List.all_eq_true.mp ((digits_iff _ _).mp h).2.1 c hc)
  obtain ⟨h⟩ | ⟨h⟩ := h
  · exact hdigits h
  · exact List.forall_mem_cons.mpr ⟨.inl rfl, hdigits h⟩

end Text
end TaskEngine
