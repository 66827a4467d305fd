import TaskEngine.Json.Value
import TaskEngine.Proofs.Lookup

/-! Sorting the members of an object leaves each name once, with the last value given to it.
-/

namespace TaskEngine
namespace Json

def countName (name : String) (ms : List (String × Json)) : Nat := (ms.map Prod.fst).count name

theorem countName_cons (name n : String) (value : Json) (ms : List (String × Json)) :
    countName n ((name, value) :: ms) = countName n ms + if name = n then 1 else 0 := by
  simp only [countName, List.map_cons, List.count_cons, beq_iff_eq]

theorem lookup_eq_none_of_countName {name : String} {ms : List (String × Json)}
    (h : countName name ms = 0) : ms.lookup name = none := by
  rw [List.lookup_eq_none_iff]
  intro m hm
  have hnot := List.count_eq_zero.mp h
  simp only [bne_iff_ne]
  rintro rfl
  exact hnot (List.mem_map_of_mem hm)

theorem lookup_reverse_of_countName {name : String} {ms : List (String × Json)}
    (h : countName name ms ≤ 1) : ms.reverse.lookup name = ms.lookup name := by
  induction ms with
  | nil => rfl
  | cons m ms ih =>
    obtain ⟨n, v⟩ := m
    rw [countName_cons] at h
    rw [List.reverse_cons, List.lookup_append, ih (by omega), lookup_cons_ite, lookup_cons_ite]
    split at h
    · next heq =>
      subst heq
      simp [lookup_eq_none_of_countName (show countName n ms = 0 by omega)]
    · next hne => simp [Ne.symm hne]

theorem lookup_insertMember (name n : String) (value : Json) (ms : List (String × Json)) :
    (insertMember name value ms).lookup n = if n = name then some value else ms.lookup n := by
  induction ms with
  | nil => exact lookup_cons_ite n (name, value) []
  | cons m ms ih =>
    obtain ⟨n', v⟩ := m
    rw [insertMember]
    split
    · exact lookup_cons_ite ..
    split
    · next heq => subst heq; simp only [lookup_cons_ite]; split <;> rfl
    · next hne => simp only [lookup_cons_ite, ih]; grind

/-- Of each name the last member is kept. -/
theorem lookup_sortMembers (ms : List (String × Json)) (n : String) :
    (sortMembers ms).lookup n = ms.reverse.lookup n := by
  have hfold (sorted : List (String × Json)) :
      (ms.foldl (fun sorted m => insertMember m.1 m.2 sorted) sorted).lookup n =
        (ms.reverse.lookup n).or (sorted.lookup n) := by
    induction ms generalizing sorted with
    | nil => rfl
    | cons m ms ih =>
      rw [List.foldl_cons, ih, lookup_insertMember, List.reverse_cons, List.lookup_append,
        Option.or_assoc, lookup_cons_ite]
      split <;> simp
  simpa [sortMembers] using hfold []

def Ascending (ms : List (String × Json)) : Prop := (ms.map Prod.fst).Pairwise (· < ·)

theorem mem_names_insertMember {name n : String} {value : Json} {ms : List (String × Json)}
    (h : n ∈ (insertMember name value ms).map Prod.fst) : n = name ∨ n ∈ ms.map Prod.fst := by
  induction ms with
  | nil => simpa [insertMember] using h
  | cons m ms ih =>
    rw [insertMember] at h
    grind

theorem ascending_insertMember {ms : List (String × Json)} (h : Ascending ms) (name : String)
    (value : Json) : Ascending (insertMember name value ms) := by
  induction ms with
  | nil => simp [Ascending, insertMember]
  | cons m ms ih =>
    obtain ⟨hm, hms⟩ := List.pairwise_cons.mp h
    rw [insertMember]
    split
    · next hlt =>
      refine List.pairwise_cons.mpr ⟨fun n hn => ?_, h⟩
      obtain rfl | hn := List.mem_cons.mp hn
      · exact hlt
      · exact String.lt_trans hlt (hm n hn)
    split
    · next heq => exact heq ▸ h
    · next hlt hne =>
      refine List.pairwise_cons.mpr ⟨fun n hn => ?_, ih hms⟩
      obtain rfl | hn := mem_names_insertMember hn
      · grind
      · exact hm n hn

theorem ascending_sortMembers (ms : List (String × Json)) : Ascending (sortMembers ms) :=
  List.foldlRecOn ms _ .nil fun _ h m _ => ascending_insertMember h m.1 m.2

theorem countName_sortMembers (ms : List (String × Json)) (n : String) :
    countName n (sortMembers ms) ≤ 1 :=
  List.nodup_iff_count.mp ((ascending_sortMembers ms).imp fun h => by grind) n

end Json
end TaskEngine
