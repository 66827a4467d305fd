import TaskEngine.Json.Numeral

/-! A text is cut into tokens from left to right. A single `invalid` token ends the list
where no token can start or one is malformed, so that a reader which stops earlier never
sees it. Strings with half a surrogate pair and numbers out of range are tokens without a
value, which can be skipped. -/

namespace TaskEngine

inductive JsonToken
  | beginArray | endArray | beginObject | endObject | colon | comma
  | null
  | bool (b : Bool)
  | number (value : Option JsonNumber)
  | string (value : Option String)
  | invalid
  deriving DecidableEq

namespace JsonToken

def isBlank (c : Char) : Bool := c == ' ' || c == '\n' || c == '\t' || c == '\x0d'

def scanDigits (cs : List Char) : Option (List Char × List Char) :=
  match cs.takeWhile Char.isDigit with
  | [] => none
  | digits => some (digits, cs.dropWhile Char.isDigit)

def scanFraction : List Char → Option (Option (List Char) × List Char)
  | '.' :: rest => (scanDigits rest).map fun (digits, rest) => (some digits, rest)
  | cs => some (none, cs)

def scanSign : List Char → Bool × List Char
  | '-' :: rest => (true, rest)
  | '+' :: rest => (false, rest)
  | cs => (false, cs)

def scanExponent : List Char → Option (Option (Bool × List Char) × List Char)
  | c :: rest =>
    if c = 'e' ∨ c = 'E' then
      let (negative, rest) := scanSign rest
      (scanDigits rest).map fun (digits, rest) => (some (negative, digits), rest)
    else some (none, c :: rest)
  | [] => some (none, [])

def scanWhole (cs : List Char) : Option (List Char × List Char) :=
  match scanDigits cs with
  | some ('0' :: _ :: _, _) => none
  | scanned => scanned

def scanNumeral (cs : List Char) : Option (JsonNumeral × List Char) := do
  let (negative, cs) := match cs with
    | '-' :: rest => (true, rest)
    | _ => (false, cs)
  let (whole, cs) ← scanWhole cs
  let (fraction, cs) ← scanFraction cs
  let (exponent, cs) ← scanExponent cs
  return ({ negative, whole, fraction, exponent }, cs)

/-- A character of a string, or a 16-bit code unit given by its number. -/
inductive Piece
  | char (c : Char)
  | unit (n : Nat)
  deriving DecidableEq

def hexValue (c : Char) : Option Nat :=
  if '0' ≤ c ∧ c ≤ '9' then some (c.toNat - 48)
  else if 'a' ≤ c ∧ c ≤ 'f' then some (c.toNat - 87)
  else if 'A' ≤ c ∧ c ≤ 'F' then some (c.toNat - 55)
  else none

def hexUnit (a b c d : Char) : Option Nat := do
  return 4096 * (← hexValue a) + 256 * (← hexValue b) + 16 * (← hexValue c) + (← hexValue d)

def unescape : Char → Option Char
  | '"' => some '"'
  | '\\' => some '\\'
  | '/' => some '/'
  | 'b' => some '\x08'
  | 'f' => some '\x0c'
  | 'n' => some '\n'
  | 'r' => some '\x0d'
  | 't' => some '\t'
  | _ => none

/-- What stands before the closing quote; control characters must be escaped. -/
def scanString : List Char → Option (List Piece × List Char)
  | [] => none
  | '"' :: rest => some ([], rest)
  | '\\' :: 'u' :: a :: b :: c :: d :: rest => do
    let unit ← hexUnit a b c d
    let (pieces, rest) ← scanString rest
    return (.unit unit :: pieces, rest)
  | '\\' :: c :: rest => do
    let escaped ← unescape c
    let (pieces, rest) ← scanString rest
    return (.char escaped :: pieces, rest)
  | c :: rest => do
    if c.toNat < 0x20 ∨ c = '\\' then none else
    let (pieces, rest) ← scanString rest
    return (.char c :: pieces, rest)

def isHighUnit (n : Nat) : Bool := 0xD800 ≤ n && n ≤ 0xDBFF

def isLowUnit (n : Nat) : Bool := 0xDC00 ≤ n && n ≤ 0xDFFF

/-- Joins surrogate pairs; half a pair stands for no character. -/
def joinPieces : List Piece → Option (List Char)
  | [] => some []
  | .char c :: rest => (joinPieces rest).map (c :: ·)
  | .unit high :: .unit low :: rest =>
    if isHighUnit high then
      if isLowUnit low then
        (joinPieces rest).map
          (Char.ofNat (0x10000 + (high - 0xD800) * 0x400 + (low - 0xDC00)) :: ·)
      else none
    else if isLowUnit high then none
    else (joinPieces (.unit low :: rest)).map (Char.ofNat high :: ·)
  | .unit n :: rest =>
    if isHighUnit n || isLowUnit n then none else (joinPieces rest).map (Char.ofNat n :: ·)

/-- The token at the head of a text that starts with no blank. -/
def scanOne : List Char → JsonToken × List Char
  | '[' :: rest => (.beginArray, rest)
  | ']' :: rest => (.endArray, rest)
  | '{' :: rest => (.beginObject, rest)
  | '}' :: rest => (.endObject, rest)
  | ':' :: rest => (.colon, rest)
  | ',' :: rest => (.comma, rest)
  | 'n' :: 'u' :: 'l' :: 'l' :: rest => (.null, rest)
  | 't' :: 'r' :: 'u' :: 'e' :: rest => (.bool true, rest)
  | 'f' :: 'a' :: 'l' :: 's' :: 'e' :: rest => (.bool false, rest)
  | '"' :: rest =>
    match scanString rest with
    | some (pieces, rest) => (.string ((joinPieces pieces).map String.ofList), rest)
    | none => (.invalid, [])
  | cs =>
    match scanNumeral cs with
    | some (numeral, rest) => (.number numeral.value?, rest)
    | none => (.invalid, [])

def scanUpTo : Nat → List Char → List JsonToken
  | 0, _ => []
  | limit + 1, cs =>
    match cs.dropWhile isBlank with
    | [] => []
    | cs =>
      let (token, rest) := scanOne cs
      token :: scanUpTo limit rest

/-- The tokens of a text; each takes at least one character. -/
def scan (cs : List Char) : List JsonToken := scanUpTo cs.length cs

end JsonToken
end TaskEngine
