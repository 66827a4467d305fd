import TaskEngine.Text.Quoted

/-! Cutting a text at a byte. A character takes one to four bytes of UTF-8, so not every
byte offset stands between two characters, and a cut inside a character is refused. -/

namespace TaskEngine
namespace Text

def byteLength : List Char → Nat
  | [] => 0
  | c :: cs => c.utf8Size + byteLength cs

inductive CutSide
  | start | stop
  deriving DecidableEq

/-- A cut at a byte inside `char`, the first byte of which is at `first`. -/
structure SplitCharacter where
  side : CutSide
  offset : Nat
  char : Char
  first : Nat
  deriving DecidableEq

def CutSide.name : CutSide → String
  | .start => "start"
  | .stop => "end"

def SplitCharacter.message (s : SplitCharacter) : String :=
  s.side.name ++ " byte index " ++ toString s.offset ++
    " is not a char boundary; it is inside '" ++ String.ofList (quoteChar s.char) ++
    "' (bytes " ++ toString s.first ++ ".." ++ toString (s.first + s.char.utf8Size) ++
    " of string)"

/-- What stands before byte `offset` and what from it on, in a text that begins at byte
`first`. -/
def cutFrom (side : CutSide) (first offset : Nat) :
    List Char → Except SplitCharacter (List Char × List Char)
  | [] => .ok ([], [])
  | c :: rest =>
    if offset ≤ first then .ok ([], c :: rest)
    else if offset < first + c.utf8Size then .error ⟨side, offset, c, first⟩
    else (cutFrom side (first + c.utf8Size) offset rest).map fun (before, after) =>
      (c :: before, after)

def takeBytes (offset : Nat) (cs : List Char) : Except SplitCharacter (List Char) :=
  (cutFrom .stop 0 offset cs).map Prod.fst

def dropBytes (offset : Nat) (cs : List Char) : Except SplitCharacter (List Char) :=
  (cutFrom .start 0 offset cs).map Prod.snd

@[simp] theorem byteLength_nil : byteLength [] = 0 := rfl

@[simp] theorem byteLength_cons (c : Char) (cs : List Char) :
    byteLength (c :: cs) = c.utf8Size + byteLength cs := rfl

theorem cutFrom_append (side : CutSide) (first : Nat) (xs ys : List Char) :
    cutFrom side first (first + byteLength xs) (xs ++ ys) = .ok (xs, ys) := by
  induction xs generalizing first with
  | nil => cases ys <;> simp [cutFrom]
  | cons c xs ih =>
    have hc := c.utf8Size_pos
    have hlate : ¬ first + (c.utf8Size + byteLength xs) ≤ first := by omega
    have hwhole : ¬ first + (c.utf8Size + byteLength xs) < first + c.utf8Size := by omega
    rw [List.cons_append, cutFrom, byteLength_cons, if_neg hlate, if_neg hwhole, ← Nat.add_assoc,
      ih]
    rfl

theorem takeBytes_append (xs ys : List Char) :
    takeBytes (byteLength xs) (xs ++ ys) = .ok xs := by
  have h := cutFrom_append .stop 0 xs ys
  rw [Nat.zero_add] at h
  rw [takeBytes, h]
  rfl

theorem dropBytes_append (xs ys : List Char) :
    dropBytes (byteLength xs) (xs ++ ys) = .ok ys := by
  have h := cutFrom_append .start 0 xs ys
  rw [Nat.zero_add] at h
  rw [dropBytes, h]
  rfl

end Text
end TaskEngine
