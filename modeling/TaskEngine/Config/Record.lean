import TaskEngine.Config.DecodeError
import TaskEngine.Json.Reader

/-! Records read from JSON, an object with a member for each field or an array of the field
values. A value has its members in the order of their names; a text is read token by token,
and there a known member given twice is a fault. Either way the first fault met is the one
reported. -/

namespace TaskEngine

inductive FieldKind
  | count | millis | text
  deriving DecidableEq

namespace FieldKind

abbrev Value : FieldKind → Type
  | .count => UInt64
  | .millis => UInt64
  | .text => String

def expected : FieldKind → String
  | .count => "usize"
  | .millis => "u64"
  | .text => "a string"

def readUnsigned (expected : String) : JsonHead → Except DecodeError UInt64
  | .number (.integer n inRange) =>
    if 0 ≤ n then .ok (UInt64.ofNat n.toNat)
    else .error (.wrongValue (.number (.integer n inRange)) expected)
  | head => .error (.wrongType head expected)

def readText (expected : String) : JsonHead → Except DecodeError String
  | .string s => .ok s
  | head => .error (.wrongType head expected)

def read : (kind : FieldKind) → JsonHead → Except DecodeError kind.Value
  | .count => readUnsigned (expected .count)
  | .millis => readUnsigned (expected .millis)
  | .text => readText (expected .text)

end FieldKind

/-- The shape of a record with fields `F`. -/
structure RecordFormat (F : Type) where
  title : String
  fields : List F
  name : F → String
  kind : F → FieldKind

namespace RecordFormat

variable {F : Type} [DecidableEq F] (format : RecordFormat F)

abbrev Draft := (f : F) → Option (format.kind f).Value

def emptyDraft : format.Draft := fun _ => none

variable {format}

def Draft.set (draft : format.Draft) (f : F) (v : (format.kind f).Value) : format.Draft :=
  fun g => if h : f = g then some (h ▸ v) else draft g

def Draft.require (draft : format.Draft) (f : F) : Except DecodeError (format.kind f).Value :=
  match draft f with
  | some v => .ok v
  | none => .error (.missingField (format.name f))

@[simp] theorem Draft.set_same (draft : format.Draft) (f : F) (v : (format.kind f).Value) :
    draft.set f v f = some v := by
  simp [Draft.set]

theorem Draft.set_of_ne (draft : format.Draft) {f g : F} (v : (format.kind f).Value)
    (h : f ≠ g) : draft.set f v g = draft g := by
  simp [Draft.set, h]

variable (format)

def field? (name : String) : Option F := format.fields.find? fun f => format.name f == name

def wrongTitle (head : JsonHead) : DecodeError := .wrongType head ("struct " ++ format.title)

def tooShort (present : Nat) : DecodeError :=
  .tooShort present ("struct " ++ format.title) format.fields.length

/-- Members in the order given; unknown ones are passed over. -/
def readMembers (draft : format.Draft) : List (String × Json) → Except DecodeError format.Draft
  | [] => .ok draft
  | (name, j) :: rest =>
    match format.field? name with
    | some f => do
      let v ← (format.kind f).read (.ofJson j)
      readMembers (draft.set f v) rest
    | none => readMembers draft rest

def readElements (length : Nat) (draft : format.Draft) :
    List F → List Json → Except DecodeError format.Draft
  | [], [] => .ok draft
  | [], _ :: _ => .error (.tooLong length)
  | _ :: _, [] => .error (format.tooShort length)
  | f :: fields, j :: rest => do
    let v ← (format.kind f).read (.ofJson j)
    readElements length (draft.set f v) fields rest

def draftOfJson (j : Json) : Except DecodeError format.Draft :=
  match j with
  | .object members => format.readMembers format.emptyDraft (Json.sortMembers members)
  | .array elements =>
    format.readElements elements.length format.emptyDraft format.fields elements
  | j => .error (format.wrongTitle (.ofJson j))

def readToken (kind : FieldKind) (token : JsonToken) : Except DecodeError kind.Value :=
  match JsonHead.ofToken? token with
  | some head => kind.read head
  | none => .error .malformed

/-- The members of an object from the first name on, and the tokens after its end. The
record is finished at the closing brace. -/
def scanMembers : Nat → format.Draft → List JsonToken →
    Except DecodeError (format.Draft × List JsonToken)
  | 0, _, _ => .error .malformed
  | fuel + 1, draft, .string (some name) :: rest =>
    match format.field? name with
    | some f =>
      if (draft f).isSome then .error (.duplicateField name) else
      match rest with
      | .colon :: token :: rest => do
        let v ← readToken (format.kind f) token
        scanSeparator fuel (draft.set f v) rest
      | _ => .error .malformed
    | none =>
      match rest with
      | .colon :: rest =>
        match Json.skip rest with
        | some rest => scanSeparator fuel draft rest
        | none => .error .malformed
      | _ => .error .malformed
  | _, _, _ => .error .malformed
where
  /-- After a member: the end, or a comma and the next member. -/
  scanSeparator : Nat → format.Draft → List JsonToken →
      Except DecodeError (format.Draft × List JsonToken)
    | 0, _, _ => .error .malformed
    | _ + 1, draft, .endObject :: rest => .ok (draft, rest)
    | fuel + 1, draft, .comma :: rest => scanMembers fuel draft rest
    | _, _, _ => .error .malformed

def scanElements (present : Nat) (draft : format.Draft) :
    List F → List JsonToken → Except DecodeError (format.Draft × List JsonToken)
  | [], .endArray :: rest => .ok (draft, rest)
  | [], _ => .error .malformed
  | _ :: _, .endArray :: _ => .error (format.tooShort present)
  | f :: fields, tokens =>
    let start :=
      if present = 0 then some tokens
      else match tokens with
        | .comma :: rest => some rest
        | _ => none
    match start with
    | some (token :: rest) => do
      let v ← readToken (format.kind f) token
      scanElements (present + 1) (draft.set f v) fields rest
    | _ => .error .malformed

/-- The record at the head of the tokens and the tokens after it. -/
def draftOfTokens (tokens : List JsonToken) : Except DecodeError (format.Draft × List JsonToken) :=
  match tokens with
  | .beginObject :: .endObject :: rest => .ok (format.emptyDraft, rest)
  | .beginObject :: rest => format.scanMembers (Json.enough rest) format.emptyDraft rest
  | .beginArray :: rest => format.scanElements 0 format.emptyDraft format.fields rest
  | token :: _ =>
    match JsonHead.ofToken? token with
    | some head => .error (format.wrongTitle head)
    | none => .error .malformed
  | [] => .error .malformed

def ofJson {α : Type} (build : format.Draft → Except DecodeError α) (j : Json) :
    Except DecodeError α := do
  build (← format.draftOfJson j)

/-- Reads a record from a text, which must hold nothing else. -/
def ofText {α : Type} (build : format.Draft → Except DecodeError α) (text : String) :
    Except DecodeError α := do
  let (draft, rest) ← format.draftOfTokens (JsonToken.scan text.toList)
  let a ← build draft
  if rest.isEmpty then return a else throw .malformed

end RecordFormat
end TaskEngine
