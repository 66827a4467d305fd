import TaskEngine.Json.Value

/-! The value of a JSON numeral. With neither fraction nor exponent it is an integer if that
fits 64 bits. Else it is a double: as many leading digits as fit 64 bits are one integer,
which is scaled by a power of ten in binary64 arithmetic, and the digits left out of a
fraction do not count. -/

namespace TaskEngine

structure JsonNumeral where
  negative : Bool
  whole : List Char
  fraction : Option (List Char)
  exponent : Option (Bool × List Char)
  deriving DecidableEq

namespace JsonNumeral

/-- Appends digits to `n` while it stays below 2^64; also gives the digits left out. -/
def absorb (n : Nat) : List Char → Nat × List Char
  | [] => (n, [])
  | c :: rest =>
    let next := 10 * n + (c.toNat - 48)
    if next < UInt64.size then absorb next rest else (n, c :: rest)

def powerOfTen (k : Nat) : Float := Float.ofScientific 1 false k

def scaleDown (x : Float) (k : Nat) : Float :=
  if k ≤ 308 then x / powerOfTen k
  else if x == 0.0 then x
  else scaleDown (x / powerOfTen 308) (k - 308)
termination_by k

def scale (significand : Nat) (exponent : Int) : Option Float :=
  let x := (UInt64.ofNat significand).toFloat
  if exponent < 0 then some (scaleDown x exponent.natAbs)
  else if exponent ≤ 308 then
    let y := x * powerOfTen exponent.natAbs
    if y.isInf then none else some y
  else if significand = 0 then some x
  else none

def signed (negative : Bool) (x : Float) : Float := if negative then -x else x

/-- An exponent of 2^31 or more makes the number zero or too large. -/
def double (negative : Bool) (significand : Nat) (shift : Int)
    (exponent : Option (Bool × List Char)) : Option Float :=
  match exponent with
  | none => (scale significand shift).map (signed negative)
  | some (negativeExponent, digits) =>
    let e := Nat.ofDigitChars 10 digits 0
    if e < 2_147_483_648 then
      (scale significand (if negativeExponent then shift - e else shift + e)).map (signed negative)
    else if significand ≠ 0 ∧ ¬ negativeExponent then none
    else some (signed negative 0.0)

def integer? (negative : Bool) (n : Nat) : Option JsonNumber :=
  if negative then
    if h : 0 < n ∧ n ≤ 9_223_372_036_854_775_808 then some (.integer (-n) (by omega)) else none
  else
    if h : n < 18_446_744_073_709_551_616 then some (.integer n (by omega)) else none

def value? (t : JsonNumeral) : Option JsonNumber :=
  let (significand, left) := absorb 0 t.whole
  let asDouble (x : Option Float) := x.map fun x => JsonNumber.double x.toBits
  match t.fraction, t.exponent with
  | none, none =>
    let exact := if left.isEmpty then integer? t.negative significand else none
    match exact with
    | some n => some n
    | none => asDouble (double t.negative significand left.length none)
  | fraction, exponent =>
    let digits := fraction.getD []
    let (significand, ignored) := absorb significand digits
    let shift : Int := left.length - (digits.length - ignored.length : Nat)
    asDouble (double t.negative significand shift exponent)

end JsonNumeral
end TaskEngine
