import TaskEngine.Config.DecodeError
import TaskEngine.Json.Reader

/-! The tokens of a value. The reader accepts them, and nothing else, for a value that is
not nested too deep; skipping passes over whatever could be read. -/

namespace TaskEngine
namespace Json

mutual

def tokens : Json → List JsonToken
  | .null => [.null]
  | .bool b => [.bool b]
  | .number n => [.number (some n)]
  | .string s => [.string (some s)]
  | .array [] => [.beginArray, .endArray]
  | .array (j :: rest) => .beginArray :: (tokens j ++ elementTokens rest)
  | .object [] => [.beginObject, .endObject]
  | .object ((name, j) :: rest) =>
    .beginObject :: .string (some name) :: .colon :: (tokens j ++ memberTokens rest)

def elementTokens : List Json → List JsonToken
  | [] => [.endArray]
  | j :: rest => .comma :: (tokens j ++ elementTokens rest)

def memberTokens : List (String × Json) → List JsonToken
  | [] => [.endObject]
  | (name, j) :: rest =>
    .comma :: .string (some name) :: .colon :: (tokens j ++ memberTokens rest)

end

mutual

/-- How deep containers stand in each other. -/
def nesting : Json → Nat
  | .array js => nestingElements js + 1
  | .object ms => nestingMembers ms + 1
  | .null | .bool _ | .number _ | .string _ => 0

def nestingElements : List Json → Nat
  | [] => 0
  | j :: rest => max (nesting j) (nestingElements rest)

def nestingMembers : List (String × Json) → Nat
  | [] => 0
  | (_, j) :: rest => max (nesting j) (nestingMembers rest)

end

theorem exists_tokens_eq_cons (j : Json) :
    ∃ token rest, j.tokens = token :: rest ∧ JsonHead.ofToken? token = some (.ofJson j) := by
  cases j with
  | array js => cases js <;> exact ⟨_, _, by rw [tokens], rfl⟩
  | object ms => rcases ms with _ | ⟨⟨name, j⟩, ms⟩ <;> exact ⟨_, _, by rw [tokens], rfl⟩
  | _ => exact ⟨_, _, by rw [tokens], rfl⟩

theorem tokens_length_pos (j : Json) : 0 < j.tokens.length := by
  obtain ⟨token, rest, h, -⟩ := exists_tokens_eq_cons j
  simp [h]

theorem tokens_array {ts rest : List JsonToken} {js : List Json}
    (h : .comma :: ts = elementTokens js ++ rest) :
    .beginArray :: ts = tokens (.array js) ++ rest := by
  cases js with
  | nil => simp [elementTokens] at h
  | cons j js => simpa [elementTokens, tokens] using h

theorem tokens_object {ts rest : List JsonToken} {ms : List (String × Json)}
    (h : .comma :: ts = memberTokens ms ++ rest) :
    .beginObject :: ts = tokens (.object ms) ++ rest := by
  rcases ms with _ | ⟨⟨name, j⟩, ms⟩
  · simp [memberTokens] at h
  · simpa [memberTokens, tokens] using h

/-- What is read is the list of tokens of the value returned, which is not nested too deep,
and could be skipped as well. Elements and members that are read are those that would follow
a comma. -/
theorem of_read (fuel : Nat) :
    (∀ depth ts j rest, readValue fuel depth ts = some (j, rest) →
      ts = j.tokens ++ rest ∧ j.nesting ≤ depth ∧ skipValue fuel ts = some rest) ∧
    (∀ depth ts js rest, readElements fuel depth ts = some (js, rest) →
      .comma :: ts = elementTokens js ++ rest ∧ nestingElements js ≤ depth ∧
        skipElements fuel ts = some rest) ∧
    (∀ depth ts ms rest, readMembers fuel depth ts = some (ms, rest) →
      .comma :: ts = memberTokens ms ++ rest ∧ nestingMembers ms ≤ depth ∧
        skipMembers fuel ts = some rest) := by
  induction fuel with
  | zero => simp [readValue, readElements, readMembers]
  | succ fuel ih =>
    obtain ⟨ihValue, ihElements, ihMembers⟩ := ih
    refine ⟨fun depth ts j rest h => ?_, fun depth ts js rest h => ?_,
      fun depth ts ms rest h => ?_⟩
    · unfold readValue at h
      split at h
      case h_5 =>
        split at h
        · cases h
        split at h
        · cases h
          exact ⟨rfl, by simp [nesting, nestingElements], rfl⟩
        · next hne =>
          obtain ⟨⟨js, rest'⟩, hread, heq⟩ := Option.map_eq_some_iff.mp h
          cases heq
          obtain ⟨hts, hdepth, hskip⟩ := ihElements _ _ _ _ hread
          refine ⟨tokens_array hts, Nat.succ_le_succ hdepth, ?_⟩
          rw [skipValue, hskip]
          exact hne
      case h_6 =>
        split at h
        · cases h
        split at h
        · cases h
          exact ⟨rfl, by simp [nesting, nestingMembers], rfl⟩
        · next hne =>
          obtain ⟨⟨ms, rest'⟩, hread, heq⟩ := Option.map_eq_some_iff.mp h
          cases heq
          obtain ⟨hts, hdepth, hskip⟩ := ihMembers _ _ _ _ hread
          refine ⟨tokens_object hts, Nat.succ_le_succ hdepth, ?_⟩
          rw [skipValue, hskip]
          exact hne
      all_goals first | cases h; exact ⟨rfl, by simp [nesting], rfl⟩ | cases h
    · unfold readElements at h
      split at h
      · next j _ hread =>
        cases h
        obtain ⟨rfl, hdepth, hskip⟩ := ihValue _ _ _ _ hread
        exact ⟨by simp [elementTokens], by simpa [nestingElements] using hdepth,
          by rw [skipElements, hskip]⟩
      · next j ts' hread =>
        obtain ⟨⟨js, rest'⟩, hrest, heq⟩ := Option.map_eq_some_iff.mp h
        cases heq
        obtain ⟨rfl, hdepth, hskip⟩ := ihValue _ _ _ _ hread
        obtain ⟨hts, hdepths, hskips⟩ := ihElements _ _ _ _ hrest
        exact ⟨by simp [elementTokens, hts], Nat.max_le.mpr ⟨hdepth, hdepths⟩,
          by rw [skipElements, hskip]; exact hskips⟩
      · cases h
    · unfold readMembers at h
      split at h
      · next name ts' =>
        split at h
        · next j _ hread =>
          cases h
          obtain ⟨rfl, hdepth, hskip⟩ := ihValue _ _ _ _ hread
          exact ⟨by simp [memberTokens], by simpa [nestingMembers] using hdepth,
            by rw [skipMembers, hskip]⟩
        · next j ts'' hread =>
          obtain ⟨⟨ms, rest'⟩, hrest, heq⟩ := Option.map_eq_some_iff.mp h
          cases heq
          obtain ⟨rfl, hdepth, hskip⟩ := ihValue _ _ _ _ hread
          obtain ⟨hts, hdepths, hskips⟩ := ihMembers _ _ _ _ hrest
          exact ⟨by simp [memberTokens, hts], Nat.max_le.mpr ⟨hdepth, hdepths⟩,
            by rw [skipMembers, hskip]; exact hskips⟩
        · cases h
      · cases h

theorem read_tokens (fuel : Nat) :
    (∀ depth j rest, (tokens j).length ≤ fuel → j.nesting ≤ depth →
      readValue fuel depth (j.tokens ++ rest) = some (j, rest)) ∧
    (∀ depth j js rest, (elementTokens (j :: js)).length ≤ fuel + 1 →
      nestingElements (j :: js) ≤ depth →
      readElements fuel depth (j.tokens ++ (elementTokens js ++ rest)) = some (j :: js, rest)) ∧
    (∀ depth name j ms rest, (memberTokens ((name, j) :: ms)).length ≤ fuel + 1 →
      nestingMembers ((name, j) :: ms) ≤ depth →
      readMembers fuel depth
        (.string (some name) :: .colon :: (j.tokens ++ (memberTokens ms ++ rest))) =
          some ((name, j) :: ms, rest)) := by
  induction fuel with
  | zero =>
    refine ⟨fun _ j _ h _ => ?_, fun _ j _ _ h _ => ?_, fun _ _ j _ _ h _ => ?_⟩
    · exact absurd (tokens_length_pos j) (by omega)
    · have := tokens_length_pos j
      simp only [elementTokens, List.length_cons, List.length_append] at h
      omega
    · simp only [memberTokens, List.length_cons] at h
      omega
  | succ fuel ih =>
    obtain ⟨ihValue, ihElements, ihMembers⟩ := ih
    refine ⟨fun depth j rest h hdepth => ?_, fun depth j js rest h hdepth => ?_,
      fun depth name j ms rest h hdepth => ?_⟩
    · match j with
      | .null | .bool _ | .number _ | .string _ => simp [tokens, readValue]
      | .array js =>
        rw [nesting] at hdepth
        obtain ⟨depth, rfl⟩ : ∃ d, depth = d + 1 := ⟨depth - 1, by omega⟩
        obtain _ | ⟨j, js⟩ := js
        · simp [tokens, readValue]
        -- the first element starts with no closing bracket
        obtain ⟨token, ts, hts, hhead⟩ := exists_tokens_eq_cons j
        have hread := ihElements depth j js rest (by simpa [tokens, elementTokens] using h)
          (by omega)
        rw [hts] at hread
        cases token <;> first | cases hhead | simpa [tokens, hts, readValue] using hread
      | .object ms =>
        rw [nesting] at hdepth
        obtain ⟨depth, rfl⟩ : ∃ d, depth = d + 1 := ⟨depth - 1, by omega⟩
        obtain _ | ⟨⟨name, j⟩, ms⟩ := ms
        · simp [tokens, readValue]
        have hread := ihMembers depth name j ms rest
          (by simp only [tokens, memberTokens, List.length_cons] at h ⊢; omega) (by omega)
        simpa [tokens, readValue] using hread
    · simp only [elementTokens, List.length_cons, List.length_append] at h
      obtain ⟨hj, hjs⟩ := Nat.max_le.mp hdepth
      match js with
      | [] =>
        have hread := ihValue depth j (.endArray :: rest)
          (by simp only [elementTokens, List.length_singleton] at h; omega) hj
        simp [readElements, elementTokens, hread]
      | j' :: js =>
        have hpos := tokens_length_pos j
        rw [readElements, ihValue depth j _
          (by simp only [elementTokens, List.length_cons] at h; omega) hj]
        simp [elementTokens, ihElements depth j' js rest (by omega) hjs]
    · simp only [memberTokens, List.length_cons, List.length_append] at h
      obtain ⟨hj, hms⟩ := Nat.max_le.mp hdepth
      match ms with
      | [] => simp [readMembers, memberTokens, ihValue depth j (.endObject :: rest) (by omega) hj]
      | (name', j') :: ms =>
        rw [readMembers, ihValue depth j _ (by omega) hj]
        simp [memberTokens, ihMembers depth name' j' ms rest (by omega) hms]

theorem parse?_eq_some_iff {text : String} {j : Json} :
    parse? text = some j ↔ JsonToken.scan text.toList = j.tokens ∧ j.nesting ≤ maxDepth := by
  simp only [parse?]
  constructor
  · intro h
    split at h
    · next hread =>
      cases h
      obtain ⟨hscan, hdepth, _⟩ := (of_read _).1 _ _ _ _ hread
      exact ⟨by simpa using hscan, hdepth⟩
    · cases h
  · rintro ⟨hscan, hdepth⟩
    have hread := (read_tokens (enough j.tokens)).1 maxDepth j []
      (by simp only [enough]; omega) hdepth
    rw [List.append_nil] at hread
    rw [hscan, hread]

theorem skip_tokens (j : Json) (rest : List JsonToken) : skip (j.tokens ++ rest) = some rest := by
  have hread := (read_tokens (enough (j.tokens ++ rest))).1 j.nesting j rest
    (by simp only [enough, List.length_append]; omega) (Nat.le_refl _)
  exact ((of_read _).1 _ _ _ _ hread).2.2

end Json
end TaskEngine
