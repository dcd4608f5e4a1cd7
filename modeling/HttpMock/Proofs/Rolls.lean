/-
# Rolls

A roll of a list names every member of the list, each once and in the order in which the members
first occur.  The page for a wrong method calls a roll of methods, and the parameters of a path are
kept as a roll of names; both are made by going along a list and adding at the end what is new.

* `IsRoll.eq`: a list has no more than one roll;
* `IsRoll.append`: the roll of two lists, one after the other;
* `IsRoll.concat`: what one more member does to a roll;
* `isRoll_foldl`: a roll is made by adding at the end what is new.
-/
import Mathlib.Data.List.Induction
import Mathlib.Data.List.Nodup

namespace HttpMock

variable {α : Type*} [DecidableEq α]

/-- A list names the members of another one. -/
structure IsRoll (members roll : List α) : Prop where
  /-- No member is named twice. -/
  nodup : roll.Nodup
  /-- The members are named, and nothing else. -/
  mem_iff : ∀ a, a ∈ roll ↔ a ∈ members
  /-- They are named in the order in which they first occur. -/
  ordered : roll.Pairwise fun a b => members.idxOf a < members.idxOf b

namespace IsRoll

variable {members more roll tail : List α}

lemma nil : IsRoll ([] : List α) [] :=
  ⟨List.nodup_nil, fun _ => Iff.rfl, List.Pairwise.nil⟩

lemma singleton (a : α) : IsRoll [a] [a] :=
  ⟨List.nodup_singleton a, fun _ => Iff.rfl, List.pairwise_singleton _ a⟩

/-- A list has no more than one roll. -/
theorem eq (h : IsRoll members roll) (h' : IsRoll members tail) : roll = tail := by
  have hperm : roll.Perm tail := by
    rw [List.perm_ext_iff_of_nodup h.nodup h'.nodup]
    intro a
    rw [h.mem_iff, h'.mem_iff]
  -- no two members can each occur before the other
  refine hperm.eq_of_pairwise ?_ h.ordered h'.ordered
  intro a b _ _ hab hba
  exact absurd hab (Nat.lt_asymm hba)

/-- The members that occur in a later list only are named after the others. -/
theorem append (h : IsRoll members roll) (h' : IsRoll more tail) :
    IsRoll (members ++ more) (roll ++ tail.filter (· ∉ roll)) where
  nodup := by
    rw [List.nodup_append]
    refine ⟨h.nodup, h'.nodup.filter _, ?_⟩
    rintro a ha b hb rfl
    exact absurd ha (by simpa using (List.mem_filter.1 hb).2)
  mem_iff a := by
    by_cases ha : a ∈ members <;> simp [h.mem_iff, h'.mem_iff, ha]
  ordered := by
    have hold {a : α} (ha : a ∈ roll) : (members ++ more).idxOf a = members.idxOf a :=
      List.idxOf_append_of_mem ((h.mem_iff a).1 ha)
    have hnew {a : α} (ha : a ∈ tail.filter (· ∉ roll)) :
        (members ++ more).idxOf a = members.length + more.idxOf a := by
      apply List.idxOf_append_of_notMem
      rw [← h.mem_iff]
      simpa using (List.mem_filter.1 ha).2
    rw [List.pairwise_append]
    refine ⟨?_, ?_, ?_⟩
    · refine h.ordered.imp_of_mem ?_
      intro a b ha hb hab
      rw [hold ha, hold hb]
      exact hab
    · refine (h'.ordered.filter _).imp_of_mem ?_
      intro a b ha hb hab
      rw [hnew ha, hnew hb]
      omega
    · intro a ha b hb
      have hlt : members.idxOf a < members.length :=
        List.idxOf_lt_length_of_mem ((h.mem_iff a).1 ha)
      rw [hold ha, hnew hb]
      omega

/-- One more member is named at the end, unless it is named already. -/
theorem concat (h : IsRoll members roll) (a : α) :
    IsRoll (members ++ [a]) (if a ∈ roll then roll else roll ++ [a]) := by
  have happend := h.append (singleton a)
  split
  · next ha => simpa [ha] using happend
  · next ha => simpa [ha] using happend

end IsRoll

theorem isRoll_foldl (members : List α) :
    IsRoll members (members.foldl (fun roll a => if a ∈ roll then roll else roll ++ [a]) []) := by
  induction members using List.reverseRecOn with
  | nil => exact IsRoll.nil
  | append_singleton members a ih =>
    rw [List.foldl_append]
    exact ih.concat a

end HttpMock
