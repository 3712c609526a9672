import Mathlib.Data.List.Basic

namespace TokenSigner

variable {α : Type} {xs before after : List α} {last x : α}

theorem snoc_eq_split_iff :
    xs ++ [last] = before ++ x :: after ↔
      xs = before ∧ last = x ∧ after = [] ∨
        ∃ rest, xs = before ++ x :: rest ∧ after = rest ++ [last] := by
  constructor
  · intro hsplit
    rcases List.eq_nil_or_concat after with rfl | ⟨rest, final, rfl⟩
    · obtain ⟨hbefore, hlast⟩ := List.append_inj' hsplit rfl
      exact Or.inl ⟨hbefore, List.head_eq_of_cons_eq hlast, rfl⟩
    · rw [List.concat_eq_append, ← List.cons_append, ← List.append_assoc] at hsplit
      obtain ⟨hbefore, hlast⟩ := List.append_inj' hsplit rfl
      refine Or.inr ⟨rest, hbefore, ?_⟩
      rw [List.concat_eq_append, hlast]
  · rintro (⟨rfl, rfl, rfl⟩ | ⟨rest, rfl, rfl⟩)
    · rfl
    · simp

theorem forall_split_snoc {P : List α → α → Prop}
    (h : ∀ before x after, xs = before ++ x :: after → P before x) (hlast : P xs last) :
    ∀ before x after, xs ++ [last] = before ++ x :: after → P before x := by
  intro before x after hsplit
  rcases snoc_eq_split_iff.mp hsplit with ⟨rfl, rfl, -⟩ | ⟨rest, hxs, -⟩
  · exact hlast
  · exact h before x rest hxs

theorem mem_drop_of_not_mem_take {n : Nat} (hmem : x ∈ xs) (hgone : x ∉ xs.take n) :
    x ∈ xs.drop n := by
  rw [← List.take_append_drop n xs] at hmem
  exact (List.mem_append.mp hmem).resolve_left hgone

theorem length_take_of_mem_drop {n : Nat} (h : x ∈ xs.drop n) : (xs.take n).length = n := by
  have hlong := List.length_pos_of_mem h
  rw [List.length_drop] at hlong
  rw [List.length_take]
  omega

end TokenSigner
