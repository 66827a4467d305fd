/-! JSON values. Numbers are 64-bit integers or the bits of a binary64 number. An object
keeps its members in the order of the text, repeated names included. -/

namespace TaskEngine

inductive JsonNumber
  | integer (n : Int) (inRange : -9_223_372_036_854_775_808 ≤ n ∧ n < 18_446_744_073_709_551_616)
  | double (bits : UInt64)
  deriving DecidableEq

def JsonNumber.ofUInt64 (n : UInt64) : JsonNumber :=
  .integer n.toNat ⟨by omega, by have := n.toNat_lt; omega⟩

inductive Json
  | null
  | bool (b : Bool)
  | number (n : JsonNumber)
  | string (s : String)
  | array (elements : List Json)
  | object (members : List (String × Json))
  deriving Inhabited

namespace Json

def ofUInt64 (n : UInt64) : Json := .number (.ofUInt64 n)

def ofNat (n : Nat) : Json := ofUInt64 (UInt64.ofNat n)

def get? (j : Json) (name : String) : Option Json :=
  match j with
  | .object members => members.reverse.lookup name
  | _ => none

/-- Puts a member in its place by name; a member of the same name gives way. -/
def insertMember (name : String) (value : Json) : List (String × Json) → List (String × Json)
  | [] => [(name, value)]
  | (n, v) :: rest =>
    if name < n then (name, value) :: (n, v) :: rest
    else if name = n then (name, value) :: rest
    else (n, v) :: insertMember name value rest

def sortMembers (members : List (String × Json)) : List (String × Json) :=
  members.foldl (fun sorted m => insertMember m.1 m.2 sorted) []

mutual

/-- Sorted names, and of a repeated name the last member. -/
def canonical : Json → Json
  | .array elements => .array (canonicalElements elements)
  | .object members => .object (sortMembers (canonicalMembers members))
  | .null => .null
  | .bool b => .bool b
  | .number n => .number n
  | .string s => .string s

def canonicalElements : List Json → List Json
  | [] => []
  | j :: rest => canonical j :: canonicalElements rest

def canonicalMembers : List (String × Json) → List (String × Json)
  | [] => []
  | (name, j) :: rest => (name, canonical j) :: canonicalMembers rest

end

end Json
end TaskEngine
