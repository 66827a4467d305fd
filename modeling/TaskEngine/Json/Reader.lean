import TaskEngine.Json.Token

/-! Values are read from tokens by recursive descent. Containers may nest 127 deep. Skipping
a value checks only its brackets, commas and colons, at any depth. -/

namespace TaskEngine
namespace Json

mutual

/-- The value at the head of the tokens, and the tokens after it. -/
def readValue : Nat → Nat → List JsonToken → Option (Json × List JsonToken)
  | 0, _, _ => none
  | fuel + 1, depth, tokens =>
    match tokens with
    | .null :: rest => some (.null, rest)
    | .bool b :: rest => some (.bool b, rest)
    | .number (some n) :: rest => some (.number n, rest)
    | .string (some s) :: rest => some (.string s, rest)
    | .beginArray :: rest =>
      match depth with
      | 0 => none
      | depth + 1 =>
        match rest with
        | .endArray :: rest => some (.array [], rest)
        | _ => (readElements fuel depth rest).map fun (js, rest) => (.array js, rest)
    | .beginObject :: rest =>
      match depth with
      | 0 => none
      | depth + 1 =>
        match rest with
        | .endObject :: rest => some (.object [], rest)
        | _ => (readMembers fuel depth rest).map fun (ms, rest) => (.object ms, rest)
    | _ => none

def readElements : Nat → Nat → List JsonToken → Option (List Json × List JsonToken)
  | 0, _, _ => none
  | fuel + 1, depth, tokens =>
    match readValue fuel depth tokens with
    | some (j, .endArray :: rest) => some ([j], rest)
    | some (j, .comma :: rest) =>
      (readElements fuel depth rest).map fun (js, rest) => (j :: js, rest)
    | _ => none

def readMembers :
    Nat → Nat → List JsonToken → Option (List (String × Json) × List JsonToken)
  | 0, _, _ => none
  | fuel + 1, depth, tokens =>
    match tokens with
    | .string (some name) :: .colon :: rest =>
      match readValue fuel depth rest with
      | some (j, .endObject :: rest) => some ([(name, j)], rest)
      | some (j, .comma :: rest) =>
        (readMembers fuel depth rest).map fun (ms, rest) => ((name, j) :: ms, rest)
      | _ => none
    | _ => none

end

mutual

/-- The tokens after the value at the head. -/
def skipValue : Nat → List JsonToken → Option (List JsonToken)
  | 0, _ => none
  | fuel + 1, tokens =>
    match tokens with
    | .null :: rest => some rest
    | .bool _ :: rest => some rest
    | .number _ :: rest => some rest
    | .string _ :: rest => some rest
    | .beginArray :: .endArray :: rest => some rest
    | .beginArray :: rest => skipElements fuel rest
    | .beginObject :: .endObject :: rest => some rest
    | .beginObject :: rest => skipMembers fuel rest
    | _ => none

def skipElements : Nat → List JsonToken → Option (List JsonToken)
  | 0, _ => none
  | fuel + 1, tokens =>
    match skipValue fuel tokens with
    | some (.endArray :: rest) => some rest
    | some (.comma :: rest) => skipElements fuel rest
    | _ => none

def skipMembers : Nat → List JsonToken → Option (List JsonToken)
  | 0, _ => none
  | fuel + 1, tokens =>
    match tokens with
    | .string _ :: .colon :: rest =>
      match skipValue fuel rest with
      | some (.endObject :: rest) => some rest
      | some (.comma :: rest) => skipMembers fuel rest
      | _ => none
    | _ => none

end

/-- Steps that suffice to read or skip any value of these tokens. -/
def enough (tokens : List JsonToken) : Nat := 2 * tokens.length + 2

def skip (tokens : List JsonToken) : Option (List JsonToken) := skipValue (enough tokens) tokens

def maxDepth : Nat := 127

def parse? (text : String) : Option Json :=
  let tokens := JsonToken.scan text.toList
  match readValue (enough tokens) maxDepth tokens with
  | some (j, []) => some j
  | _ => none

end Json
end TaskEngine
