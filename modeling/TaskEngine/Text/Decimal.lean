/-! A numeral is an optional plus sign and one or more ASCII digits, however many of them
lead with zero, whose value is below 2^64. -/

namespace TaskEngine
namespace Text

def dropPlus : List Char → List Char
  | '+' :: rest => rest
  | cs => cs

/-- The number a text denotes, if it is an unsigned decimal below 2^64. -/
def unsigned? (cs : List Char) : Option UInt64 :=
  let digits := dropPlus cs
  if digits ≠ [] ∧ digits.all Char.isDigit then
    let n := Nat.ofDigitChars 10 digits 0
    if n < UInt64.size then some (UInt64.ofNat n) else none
  else none

end Text
end TaskEngine
