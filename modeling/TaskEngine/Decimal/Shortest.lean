/-! Shortest decimal text of binary64 numbers. Among the decimals `d · 10^p` that round to
the number, those with the largest `p` have the fewest digits, and of these the nearest is
chosen. On each grid of step `10^p` only the two neighbours of the number have to be tried.
-/

namespace TaskEngine
namespace Decimal

/-- A finite double: `±mantissa · 2^exponent`, and whether the gap below it is
half the gap above it. -/
structure Binary where
  negative : Bool
  mantissa : Nat
  exponent : Int
  narrowBelow : Bool

def Binary.ofBits (bits : UInt64) : Binary :=
  let negative := 1 <<< 63 ≤ bits.toNat
  let biased : Nat := bits.toNat >>> 52 % 2048
  let fraction : Nat := bits.toNat % (1 <<< 52)
  if biased = 0 then ⟨negative, fraction, -1074, false⟩
  else ⟨negative, fraction + (1 <<< 52), (biased : Int) - 1075, fraction == 0 && 1 < biased⟩

namespace Binary

/-- The ends of the reals that round to the number, in quarters of its gap. -/
def lower (x : Binary) : Nat := 4 * x.mantissa - (if x.narrowBelow then 1 else 2)

def upper (x : Binary) : Nat := 4 * x.mantissa + 2

def numerator (x : Binary) (p : Int) (quarters : Nat) : Nat :=
  quarters <<< (x.exponent - 2).toNat * Nat.pow 10 (-p).toNat

def denominator (x : Binary) (p : Int) : Nat := 1 <<< (2 - x.exponent).toNat * Nat.pow 10 p.toNat

/-- Does `d · 10^p` round to the number? The ends count when the mantissa is even. -/
def roundsTo (x : Binary) (p : Int) (d : Nat) : Bool :=
  let low := x.numerator p x.lower
  let high := x.numerator p x.upper
  let point := d * x.denominator p
  if x.mantissa % 2 = 0 then low ≤ point && point ≤ high else low < point && point < high

def onGrid (x : Binary) (p : Int) : Option Nat :=
  let value := x.numerator p (4 * x.mantissa)
  let unit := x.denominator p
  let d := value / unit
  match x.roundsTo p d, x.roundsTo p (d + 1) with
  | true, true =>
    let twice := 2 * (value % unit)
    if twice < unit || (twice == unit && d % 2 == 0) then some d else some (d + 1)
  | true, false => some d
  | false, true => some (d + 1)
  | false, false => none

def coarsest (x : Binary) : Nat → Int → Nat × Int
  | 0, p => (0, p)
  | steps + 1, p =>
    match x.onGrid p with
    | some d => (d, p)
    | none => x.coarsest steps (p - 1)

def shortest (x : Binary) : Nat × Int := x.coarsest 700 309

end Binary

def zeros (n : Nat) : List Char := List.replicate n '0'

def exponentText (e : Int) : List Char :=
  (if e < 0 then ['e', '-'] else ['e', '+']) ++ Nat.toDigits 10 e.natAbs

/-- The decimal `d · 10^p`: positional from 10^-5 up to below 10^16, always with a
point there. -/
def layout (d : Nat) (p : Int) : List Char :=
  let digits := Nat.toDigits 10 d
  let e : Int := digits.length - 1 + p
  if e < -5 ∨ 15 < e then
    match digits with
    | first :: [] => first :: exponentText e
    | first :: rest => first :: '.' :: rest ++ exponentText e
    | [] => []
  else if 0 ≤ p then digits ++ zeros p.toNat ++ ['.', '0']
  else if 0 ≤ e then digits.take (e + 1).toNat ++ '.' :: digits.drop (e + 1).toNat
  else ['0', '.'] ++ zeros (-e - 1).toNat ++ digits

def ofDouble (bits : UInt64) : String :=
  let x := Binary.ofBits bits
  let sign := if x.negative then ['-'] else []
  if x.mantissa = 0 then String.ofList (sign ++ ['0', '.', '0'])
  else
    let (d, p) := x.shortest
    String.ofList (sign ++ layout d p)

end Decimal
end TaskEngine
