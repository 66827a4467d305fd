import TaskEngine.Decimal.Shortest
import TaskEngine.Json.Value

/-! The compact text of a value: no blanks, members in their order. A string escapes the
quote, the backslash and the characters below U+0020 and nothing else. -/

namespace TaskEngine
namespace Json

def escape (c : Char) : List Char :=
  match c with
  | '"' => ['\\', '"']
  | '\\' => ['\\', '\\']
  | '\x08' => ['\\', 'b']
  | '\x0c' => ['\\', 'f']
  | '\n' => ['\\', 'n']
  | '\x0d' => ['\\', 'r']
  | '\t' => ['\\', 't']
  | c =>
    if c.toNat < 0x20 then
      ['\\', 'u', '0', '0', Nat.digitChar (c.toNat / 16), Nat.digitChar (c.toNat % 16)]
    else [c]

def quote (s : String) : List Char := '"' :: s.toList.flatMap escape ++ ['"']

def writeNumber : JsonNumber → List Char
  | .integer n _ => (if n < 0 then ['-'] else []) ++ Nat.toDigits 10 n.natAbs
  | .double bits => (Decimal.ofDouble bits).toList

mutual

def write : Json → List Char
  | .null => ['n', 'u', 'l', 'l']
  | .bool true => ['t', 'r', 'u', 'e']
  | .bool false => ['f', 'a', 'l', 's', 'e']
  | .number n => writeNumber n
  | .string s => quote s
  | .array [] => ['[', ']']
  | .array (j :: rest) => '[' :: write j ++ writeElements rest
  | .object [] => ['{', '}']
  | .object ((name, j) :: rest) => '{' :: quote name ++ ':' :: write j ++ writeMembers rest

/-- The elements after the first, each behind a comma, and the closing bracket. -/
def writeElements : List Json → List Char
  | [] => [']']
  | j :: rest => ',' :: write j ++ writeElements rest

def writeMembers : List (String × Json) → List Char
  | [] => ['}']
  | (name, j) :: rest => ',' :: quote name ++ ':' :: write j ++ writeMembers rest

end

def compact (j : Json) : String := String.ofList j.write

end Json
end TaskEngine
