import TaskEngine.Json.Writer
import TaskEngine.Proofs.Json.Tokens

/-! The compact text of a value is cut into the tokens of that value. Integers come back
because their digits have no leading zero, stay within 64 bits and end at a comma or a
bracket. Of doubles nothing is said here: their digits go through binary64 arithmetic. -/

namespace TaskEngine

namespace JsonNumeral

theorem absorb_of_lt {n : Nat} {digits : List Char}
    (h : Nat.ofDigitChars 10 digits n < UInt64.size) :
    absorb n digits = (Nat.ofDigitChars 10 digits n, []) := by
  induction digits generalizing n with
  | nil => rfl
  | cons c digits ih =>
    rw [Nat.ofDigitChars_cons] at h ⊢
    have hnext : 10 * n + (c.toNat - 48) < UInt64.size := by
      rw [Nat.ofDigitChars_eq_ofDigitChars_zero] at h
      have := Nat.le_mul_of_pos_left (10 * n + (c.toNat - 48)) (Nat.pow_pos (n := digits.length)
        (show 0 < 10 by decide))
      exact Nat.lt_of_le_of_lt (Nat.le_trans this (Nat.le_add_right _ _)) h
    rw [absorb, if_pos hnext]
    exact ih h

theorem value?_integer (n : Int)
    (inRange : -9_223_372_036_854_775_808 ≤ n ∧ n < 18_446_744_073_709_551_616) :
    value? { negative := decide (n < 0), whole := Nat.toDigits 10 n.natAbs, fraction := none,
             exponent := none } = some (.integer n inRange) := by
  have hdigits : Nat.ofDigitChars 10 (Nat.toDigits 10 n.natAbs) 0 = n.natAbs :=
    Nat.ofDigitChars_toDigits (by decide) (by decide)
  have habsorb : absorb 0 (Nat.toDigits 10 n.natAbs) = (n.natAbs, []) := by
    rw [absorb_of_lt (by rw [hdigits]; simp only [UInt64.size]; omega), hdigits]
  simp only [value?, habsorb, List.isEmpty_nil, if_true, integer?]
  by_cases hn : n < 0
  · have habs : 0 < n.natAbs ∧ n.natAbs ≤ 9_223_372_036_854_775_808 := by omega
    have hneg : -(n.natAbs : Int) = n := by omega
    simp only [hn, decide_true, if_true, dif_pos habs, hneg]
  · have habs : n.natAbs < 18_446_744_073_709_551_616 := by omega
    have hnat : (n.natAbs : Int) = n := by omega
    simp only [hn, decide_false, Bool.false_eq_true, if_false, dif_pos habs, hnat]

end JsonNumeral

namespace JsonToken

/-- The texts that may follow a written value. -/
inductive Closes : List Char → Prop
  | nil : Closes []
  | comma (cs : List Char) : Closes (',' :: cs)
  | endArray (cs : List Char) : Closes (']' :: cs)
  | endObject (cs : List Char) : Closes ('}' :: cs)

theorem scanDigits_append {digits rest : List Char} (hne : digits ≠ [])
    (h : ∀ c ∈ digits, c.isDigit) (hrest : ∀ c ∈ rest.head?, c.isDigit = false) :
    scanDigits (digits ++ rest) = some (digits, rest) := by
  have hspan : rest.takeWhile Char.isDigit = [] ∧ rest.dropWhile Char.isDigit = rest := by
    cases rest with
    | nil => simp
    | cons c rest => simp [hrest c (by simp)]
  obtain ⟨d, ds, rfl⟩ := List.exists_cons_of_ne_nil hne
  rw [scanDigits, List.takeWhile_append_of_pos h, List.dropWhile_append_of_pos h, hspan.1,
    hspan.2, List.append_nil]

theorem eq_zero_of_head?_toDigits (n : Nat) (h : (Nat.toDigits 10 n).head? = some '0') :
    n = 0 := by
  induction n using Nat.strongRecOn with
  | ind n ih =>
    obtain hn | hn := Nat.lt_or_ge n 10
    · simpa [Nat.toDigits_of_lt_base hn] using h
    · rw [Nat.toDigits_of_base_le (by decide) hn, List.head?_append, Option.or_eq_some_iff] at h
      have := ih (n / 10) (by omega) <|
        h.resolve_right fun hnone => Nat.toDigits_ne_nil (List.head?_eq_none_iff.mp hnone.1)
      omega

theorem scanWhole_toDigits (n : Nat) {rest : List Char} (h : Closes rest) :
    scanWhole (Nat.toDigits 10 n ++ rest) = some (Nat.toDigits 10 n, rest) := by
  have hscan : scanDigits (Nat.toDigits 10 n ++ rest) = some (Nat.toDigits 10 n, rest) :=
    scanDigits_append Nat.toDigits_ne_nil
      (fun c hc => Nat.isDigit_of_mem_toDigits (by decide) (by decide) hc)
      (by cases h <;> simp)
  unfold scanWhole
  rw [hscan]
  split
  · next heq =>
    obtain ⟨hdigits, -⟩ := Prod.mk.inj (Option.some.inj heq)
    obtain rfl := eq_zero_of_head?_toDigits n (by simp [hdigits])
    simp at hdigits
  · rfl

open Json (writeNumber) in
theorem scanNumeral_writeNumber (n : Int)
    (inRange : -9_223_372_036_854_775_808 ≤ n ∧ n < 18_446_744_073_709_551_616)
    {rest : List Char} (h : Closes rest) :
    scanNumeral (writeNumber (.integer n inRange) ++ rest) =
      some ({ negative := decide (n < 0), whole := Nat.toDigits 10 n.natAbs, fraction := none,
              exponent := none }, rest) := by
  have hwhole := scanWhole_toDigits n.natAbs h
  have hfraction : scanFraction rest = some (none, rest) := by cases h <;> rfl
  have hexponent : scanExponent rest = some (none, rest) := by cases h <;> rfl
  by_cases hn : n < 0
  · simp [scanNumeral, writeNumber, hn, hwhole, hfraction, hexponent]
  · -- the first digit is no minus sign
    obtain ⟨d, ds, hd⟩ := List.exists_cons_of_ne_nil (Nat.toDigits_ne_nil (n := n.natAbs) (b := 10))
    have hminus : d ≠ '-' := by
      rintro rfl
      have := Nat.isDigit_of_mem_toDigits (b := 10) (n := n.natAbs) (c := '-') (by decide)
        (by decide) (by simp [hd])
      exact absurd this (by decide)
    rw [hd, List.cons_append] at hwhole
    simp [scanNumeral, writeNumber, hn, hd, hminus, hwhole, hfraction, hexponent]

def piece (c : Char) : Piece :=
  if c = '\x08' ∨ c = '\x0c' ∨ c = '\n' ∨ c = '\x0d' ∨ c = '\t' then .char c
  else if c.toNat < 0x20 then .unit c.toNat
  else .char c

theorem hexUnit_digitChar :
    ∀ n < 0x20, hexUnit '0' '0' (Nat.digitChar (n / 16)) (Nat.digitChar (n % 16)) = some n := by
  decide

theorem scanString_plain {c : Char} (hquote : c ≠ '"') (hbackslash : c ≠ '\\')
    (hcontrol : ¬ c.toNat < 0x20) (cs : List Char) :
    scanString (c :: cs) = (scanString cs).map fun (pieces, rest) => (.char c :: pieces, rest) := by
  rw [scanString, if_neg (by simp [hcontrol, hbackslash])]
  · cases scanString cs <;> rfl
  all_goals simp [hquote, hbackslash]

theorem scanString_escape (c : Char) (cs : List Char) :
    scanString (Json.escape c ++ cs) =
      (scanString cs).map fun (pieces, rest) => (piece c :: pieces, rest) := by
  unfold Json.escape
  split
  case h_8 hquote hbackslash hb hf hn hr ht =>
    have hletter : ¬ (c = '\x08' ∨ c = '\x0c' ∨ c = '\n' ∨ c = '\x0d' ∨ c = '\t') := by
      simp only [not_or]
      exact ⟨hb, hf, hn, hr, ht⟩
    split
    · next hcontrol =>
      rw [piece, if_neg hletter, if_pos hcontrol]
      simp [scanString, hexUnit_digitChar c.toNat hcontrol]
      cases scanString cs <;> rfl
    · next hcontrol =>
      rw [piece, if_neg hletter, if_neg hcontrol]
      exact scanString_plain hquote hbackslash hcontrol cs
  all_goals
    simp [scanString, unescape, piece]
    cases scanString cs <;> rfl

theorem scanString_quoted (cs rest : List Char) :
    scanString (cs.flatMap Json.escape ++ '"' :: rest) = some (cs.map piece, rest) := by
  induction cs with
  | nil => simp [scanString]
  | cons c cs ih =>
    rw [List.flatMap_cons, List.append_assoc, scanString_escape, ih]
    rfl

theorem joinPieces_unit {n : Nat} (h : n < 0xD800) (pieces : List Piece) :
    joinPieces (.unit n :: pieces) = (joinPieces pieces).map (Char.ofNat n :: ·) := by
  have hhigh : isHighUnit n = false := by grind [isHighUnit]
  have hlow : isLowUnit n = false := by grind [isLowUnit]
  match pieces with
  | [] | .char _ :: _ | .unit _ :: _ => simp [joinPieces, hhigh, hlow]

theorem joinPieces_piece (cs : List Char) : joinPieces (cs.map piece) = some cs := by
  induction cs with
  | nil => rfl
  | cons c cs ih =>
    rw [List.map_cons, piece]
    split
    · simp [joinPieces, ih]
    split
    · next hcontrol => rw [joinPieces_unit (by omega), ih, Char.ofNat_toNat]; rfl
    · simp [joinPieces, ih]

def NoDoubles (ts : List JsonToken) : Prop := ∀ bits, .number (some (.double bits)) ∉ ts

theorem noDoubles_cons {token : JsonToken} {ts : List JsonToken} :
    NoDoubles (token :: ts) ↔
      (∀ bits, token ≠ .number (some (.double bits))) ∧ NoDoubles ts := by
  simp only [NoDoubles, List.mem_cons, not_or, forall_and, ne_comm]

theorem noDoubles_append {ts us : List JsonToken} :
    NoDoubles (ts ++ us) ↔ NoDoubles ts ∧ NoDoubles us := by
  simp only [NoDoubles, List.mem_append, not_or, forall_and]

/-- The tokens of a text, for every limit that its length allows. -/
def Scans (cs : List Char) (ts : List JsonToken) : Prop :=
  ∀ limit, cs.length ≤ limit → scanUpTo limit cs = ts

namespace Scans

theorem scan_eq {cs : List Char} {ts : List JsonToken} (h : Scans cs ts) : scan cs = ts :=
  h _ (Nat.le_refl _)

theorem nil : Scans [] [] := fun limit _ => by cases limit <;> rfl

variable {c : Char} {cs rest : List Char} {token : JsonToken} {ts : List JsonToken}

theorem cons (hc : isBlank c = false) (hone : scanOne (c :: cs) = (token, rest))
    (hlength : rest.length ≤ cs.length) (h : Scans rest ts) : Scans (c :: cs) (token :: ts) := by
  intro limit hlimit
  rw [List.length_cons] at hlimit
  obtain _ | limit := limit
  · omega
  have hblank : (c :: cs).dropWhile isBlank = c :: cs := by simp [hc]
  rw [scanUpTo, hblank]
  simp only [hone]
  rw [h limit (by omega)]

theorem string (s : String) (h : Scans rest ts) :
    Scans (Json.quote s ++ rest) (.string (some s) :: ts) := by
  have hone : scanOne ('"' :: (s.toList.flatMap Json.escape ++ '"' :: rest)) =
      (.string (some s), rest) := by
    simp [scanOne, scanString_quoted, joinPieces_piece]
  have hlength : rest.length ≤ (s.toList.flatMap Json.escape ++ '"' :: rest).length := by
    simp only [List.length_append, List.length_cons]
    omega
  simpa [Json.quote] using cons rfl hone hlength h

theorem numeral {numeral : JsonNumeral} (hone : scanNumeral (c :: cs) = some (numeral, rest))
    (hlength : rest.length ≤ cs.length) (h : Scans rest ts) :
    Scans (c :: cs) (.number numeral.value? :: ts) := by
  refine cons ?_ ?_ hlength h
  · refine Bool.eq_false_iff.mpr fun hblank => ?_
    have hchar : c = ' ' ∨ c = '\n' ∨ c = '\t' ∨ c = '\x0d' := by
      simpa [isBlank, or_assoc] using hblank
    rcases hchar with rfl | rfl | rfl | rfl <;> simp [scanNumeral, scanWhole, scanDigits] at hone
  · unfold scanOne
    split
    case h_11 => rw [hone]
    all_goals simp_all [scanNumeral, scanWhole, scanDigits]

theorem integer (n : Int)
    (inRange : -9_223_372_036_854_775_808 ≤ n ∧ n < 18_446_744_073_709_551_616)
    (hrest : Closes rest) (h : Scans rest ts) :
    Scans (Json.writeNumber (.integer n inRange) ++ rest)
      (.number (some (.integer n inRange)) :: ts) := by
  have hscan := scanNumeral_writeNumber n inRange hrest
  have hne : Json.writeNumber (.integer n inRange) ≠ [] := by
    simp [Json.writeNumber, Nat.toDigits_ne_nil]
  obtain ⟨c, cs, hcs⟩ := List.exists_cons_of_ne_nil hne
  rw [hcs, List.cons_append] at hscan ⊢
  have := numeral hscan (by simp) h
  rwa [JsonNumeral.value?_integer n inRange] at this

end Scans

end JsonToken

namespace Json
open JsonToken

theorem noDoubles_memberTokens {ms : List (String × Json)}
    (h : ∀ m ∈ ms, NoDoubles m.2.tokens) : NoDoubles (memberTokens ms) := by
  induction ms with
  | nil => simp [memberTokens, NoDoubles]
  | cons m ms ih =>
    obtain ⟨hm, hms⟩ := List.forall_mem_cons.mp h
    simpa [memberTokens, noDoubles_cons, noDoubles_append] using ⟨hm, ih hms⟩

theorem noDoubles_object {ms : List (String × Json)} (h : ∀ m ∈ ms, NoDoubles m.2.tokens) :
    NoDoubles (object ms).tokens := by
  obtain _ | ⟨⟨name, j⟩, ms⟩ := ms
  · simp [tokens, NoDoubles]
  · simpa [tokens, memberTokens, noDoubles_cons] using noDoubles_memberTokens h

theorem closes_writeElements (js : List Json) (rest : List Char) :
    Closes (writeElements js ++ rest) := by
  cases js <;> rw [writeElements] <;> constructor

theorem closes_writeMembers (ms : List (String × Json)) (rest : List Char) :
    Closes (writeMembers ms ++ rest) := by
  rcases ms with _ | ⟨⟨name, j⟩, ms⟩ <;> rw [writeMembers] <;> constructor

mutual

/-- A written value in front of a text puts its tokens in front of those of the text. The
recursion is that of the writer. -/
theorem scans_write (j : Json) {rest : List Char} {ts : List JsonToken}
    (hj : NoDoubles j.tokens) (hrest : Closes rest) (h : Scans rest ts) :
    Scans (j.write ++ rest) (j.tokens ++ ts) := by
  match j with
  | .null => exact .cons rfl rfl (Nat.le_add_right _ 3) h
  | .bool true => exact .cons rfl rfl (Nat.le_add_right _ 3) h
  | .bool false => exact .cons rfl rfl (Nat.le_add_right _ 4) h
  | .number (.integer n inRange) => simpa [write, tokens] using Scans.integer n inRange hrest h
  | .number (.double bits) => exact absurd (by simp [tokens]) (hj bits)
  | .string s => simpa [write, tokens] using Scans.string s h
  | .array [] => exact .cons rfl rfl (by simp) (.cons (c := ']') rfl rfl (by simp) h)
  | .array (j :: js) =>
    simp only [tokens, noDoubles_cons, noDoubles_append] at hj
    have hjs := scans_elements js hj.2.2 h
    have hvalue := scans_write j hj.2.1 (closes_writeElements js rest) hjs
    simpa [write, tokens] using Scans.cons (c := '[') rfl rfl (Nat.le_refl _) hvalue
  | .object [] => exact .cons rfl rfl (by simp) (.cons (c := '\x7d') rfl rfl (by simp) h)
  | .object ((name, j) :: ms) =>
    simp only [tokens, noDoubles_cons, noDoubles_append] at hj
    have hms := scans_members ms hj.2.2.2.2 h
    have hvalue := scans_write j hj.2.2.2.1 (closes_writeMembers ms rest) hms
    have hname := Scans.string name (Scans.cons (c := ':') rfl rfl (Nat.le_refl _) hvalue)
    simpa [write, tokens] using Scans.cons (c := '\x7b') rfl rfl (Nat.le_refl _) hname

theorem scans_elements (js : List Json) {rest : List Char} {ts : List JsonToken}
    (hjs : NoDoubles (elementTokens js)) (h : Scans rest ts) :
    Scans (writeElements js ++ rest) (elementTokens js ++ ts) := by
  match js with
  | [] => exact .cons rfl rfl (Nat.le_refl _) h
  | j :: js =>
    simp only [elementTokens, noDoubles_cons, noDoubles_append] at hjs
    have hrest := scans_elements js hjs.2.2 h
    have hvalue := scans_write j hjs.2.1 (closes_writeElements js rest) hrest
    simpa [writeElements, elementTokens] using
      Scans.cons (c := ',') rfl rfl (Nat.le_refl _) hvalue

theorem scans_members (ms : List (String × Json)) {rest : List Char} {ts : List JsonToken}
    (hms : NoDoubles (memberTokens ms)) (h : Scans rest ts) :
    Scans (writeMembers ms ++ rest) (memberTokens ms ++ ts) := by
  match ms with
  | [] => exact .cons rfl rfl (Nat.le_refl _) h
  | (name, j) :: ms =>
    simp only [memberTokens, noDoubles_cons, noDoubles_append] at hms
    have hrest := scans_members ms hms.2.2.2.2 h
    have hvalue := scans_write j hms.2.2.2.1 (closes_writeMembers ms rest) hrest
    have hname := Scans.string name (Scans.cons (c := ':') rfl rfl (Nat.le_refl _) hvalue)
    simpa [writeMembers, memberTokens] using
      Scans.cons (c := ',') rfl rfl (Nat.le_refl _) hname

end

theorem scan_compact {j : Json} (h : NoDoubles j.tokens) : scan j.compact.toList = j.tokens := by
  rw [compact, String.toList_ofList]
  simpa using (scans_write j h .nil .nil).scan_eq

theorem parse?_compact {j : Json} (h : NoDoubles j.tokens) (hdepth : j.nesting ≤ maxDepth) :
    parse? j.compact = some j :=
  parse?_eq_some_iff.mpr ⟨scan_compact h, hdepth⟩

end Json
end TaskEngine
