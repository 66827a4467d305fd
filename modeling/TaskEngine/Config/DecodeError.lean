import TaskEngine.Decimal.Shortest
import TaskEngine.Json.Token
import TaskEngine.Text.Quoted

/-! What can be wrong with written settings: a text may be no JSON, or the data in it may
not be what the settings need. Messages name what was found and what was expected. -/

namespace TaskEngine

/-- What a value is at first sight: a scalar in full, a container by its bracket. -/
inductive JsonHead
  | null
  | bool (b : Bool)
  | number (n : JsonNumber)
  | string (s : String)
  | array
  | object
  deriving DecidableEq

namespace JsonHead

def describe : JsonHead → String
  | .null => "null"
  | .bool true => "boolean `true`"
  | .bool false => "boolean `false`"
  | .number (.integer n _) => "integer `" ++ toString n ++ "`"
  | .number (.double bits) => "floating point `" ++ Decimal.ofDouble bits ++ "`"
  | .string s => "string " ++ Text.quoted s
  | .array => "sequence"
  | .object => "map"

def ofJson : Json → JsonHead
  | .null => .null
  | .bool b => .bool b
  | .number n => .number n
  | .string s => .string s
  | .array _ => .array
  | .object _ => .object

def ofToken? : JsonToken → Option JsonHead
  | .null => some .null
  | .bool b => some (.bool b)
  | .number n => n.map .number
  | .string s => s.map .string
  | .beginArray => some .array
  | .beginObject => some .object
  | _ => none

end JsonHead

inductive DecodeError
  | malformed
  | missingField (name : String)
  | duplicateField (name : String)
  | wrongType (found : JsonHead) (expected : String)
  | wrongValue (found : JsonHead) (expected : String)
  | tooShort (length : Nat) (title : String) (needed : Nat)
  | tooLong (length : Nat)
  deriving DecidableEq

namespace DecodeError

def message? : DecodeError → Option String
  | .malformed => none
  | .missingField name => some ("missing field `" ++ name ++ "`")
  | .duplicateField name => some ("duplicate field `" ++ name ++ "`")
  | .wrongType found expected =>
    some ("invalid type: " ++ found.describe ++ ", expected " ++ expected)
  | .wrongValue found expected =>
    some ("invalid value: " ++ found.describe ++ ", expected " ++ expected)
  | .tooShort length title needed =>
    some ("invalid length " ++ toString length ++ ", expected " ++ title ++ " with " ++
      toString needed ++ " elements")
  | .tooLong length =>
    some ("invalid length " ++ toString length ++ ", expected fewer elements in array")

end DecodeError
end TaskEngine
