import TaskEngine.Log.Level
import TaskEngine.Text.Alphanumeric
import TaskEngine.Text.Blank
import TaskEngine.Text.Cut

/-! Log filters, as the logging library has them: the reader of directives, its cut at the
equals sign, which comes too early where blanks are in front, and the order of directives
are all that library's and not the engine's. The engine hands over a text and prints the
filter. -/

namespace TaskEngine

inductive DirectiveFault
  | malformed
  | split (character : Text.SplitCharacter)
  deriving DecidableEq

structure LogDirective where
  target : Option String
  threshold : LogThreshold
  deriving DecidableEq

namespace LogDirective

def canStart (c : Char) : Bool :=
  Text.isAlphanumeric c || c == '-' || c == ':' || c == '_'

/-- A level after the equals sign; none at all means `trace`. -/
def threshold? : List Char → Option LogThreshold
  | [] => some (.upTo .trace)
  | cs => LogThreshold.ofText? cs

/-- The parts around an equals sign that stands at byte `sign`. -/
def ofParts (sign : Nat) (piece : List Char) : Except DirectiveFault LogDirective := do
  let target ← (Text.takeBytes sign piece).mapError .split
  let level ← (Text.dropBytes (sign + 1) piece).mapError .split
  match threshold? level with
  | some t => return ⟨some (String.ofList target), t⟩
  | none => throw .malformed

def ofWhole (piece : List Char) : LogDirective :=
  match LogThreshold.ofText? piece with
  | some t => ⟨none, t⟩
  | none => ⟨some (String.ofList piece), .upTo .trace⟩

/-- A directive is a target and a level around the first equals sign, or only one of them. -/
def ofText (piece : List Char) : Except DirectiveFault LogDirective :=
  let visible := piece.dropWhile Text.isBlank
  match visible with
  | [] => .error .malformed
  | c :: _ =>
    if ¬ canStart c then .error .malformed
    else if visible.contains '=' then
      ofParts (Text.byteLength (visible.takeWhile (· != '='))) piece
    else .ok (ofWhole piece)

def text (d : LogDirective) : String :=
  match d.target with
  | some target => target ++ "=" ++ d.threshold.name
  | none => d.threshold.name

def covers (d : LogDirective) (target : String) : Bool :=
  match d.target with
  | some start => start.toList.isPrefixOf target.toList
  | none => true

/-- Longer targets come first, then greater ones, and no target comes last. -/
def precedes : Option String → Option String → Bool
  | some s, some t =>
    t.utf8ByteSize < s.utf8ByteSize || (t.utf8ByteSize == s.utf8ByteSize && decide (t < s))
  | some _, none => true
  | none, _ => false

end LogDirective

structure LogFilter where
  directives : List LogDirective
  deriving DecidableEq

namespace LogFilter

def insert (d : LogDirective) : List LogDirective → List LogDirective
  | [] => [d]
  | e :: rest =>
    if d.target = e.target then d :: rest
    else if LogDirective.precedes d.target e.target then d :: e :: rest
    else e :: insert d rest

def ofDirectives (ds : List LogDirective) : LogFilter :=
  ⟨ds.foldl (fun placed d => insert d placed) []⟩

def pieces : List Char → List (List Char)
  | [] => [[]]
  | c :: rest =>
    if c = ',' then [] :: pieces rest
    else match pieces rest with
      | piece :: others => (c :: piece) :: others
      | [] => [[c]]

/-- Every piece that is not empty must be a directive; the first that is not is reported. -/
def ofText (text : String) : Except DirectiveFault LogFilter :=
  let written := (pieces text.toList).filter fun piece => !piece.isEmpty
  (written.mapM LogDirective.ofText).map ofDirectives

def text (f : LogFilter) : String := ",".intercalate (f.directives.map LogDirective.text)

def allows (f : LogFilter) (target : String) (level : LogLevel) : Bool :=
  match f.directives.find? fun d => d.covers target with
  | some d => d.threshold.allows level
  | none => false

def info : LogFilter := ⟨[⟨none, .upTo .info⟩]⟩

end LogFilter
end TaskEngine
