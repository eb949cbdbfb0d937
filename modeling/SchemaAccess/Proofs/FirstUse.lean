import Mathlib.Data.List.Basic
import Mathlib.Data.List.Pairwise

namespace SchemaAccess

theorem notMem_of_nodup_append_cons {α : Type} {before after : List α} {a : α}
    (h : (before ++ a :: after).Nodup) : a ∉ before := by
  intro hmem
  exact (List.nodup_append.1 h).2.2 a hmem a List.mem_cons_self rfl

variable {α : Type} [DecidableEq α]

theorem eraseDups_concat (items : List α) (a : α) :
    (items ++ [a]).eraseDups = if a ∈ items then items.eraseDups else items.eraseDups ++ [a] := by
  rw [List.eraseDups_append, List.cons_removeAll]
  by_cases h : a ∈ items <;> simp [h, List.eraseDups_cons]

theorem eraseDups_concat_of_mem {items : List α} {a : α} (h : a ∈ items) :
    (items ++ [a]).eraseDups = items.eraseDups := by rw [eraseDups_concat, if_pos h]

/-- Items that are left after a choice stand in the order in which they are used first. -/
theorem pairwise_idxOf_eraseDups (p : α → Bool) (items : List α) :
    (items.filter p).eraseDups.Pairwise fun a b => items.idxOf a < items.idxOf b := by
  induction items generalizing p with
  | nil => simp
  | cons x items ih =>
    -- behind the head, positions only shift
    have hshift : ∀ q : α → Bool, (∀ a, q a = true → a ≠ x) → (items.filter q).eraseDups.Pairwise
        fun a b => (x :: items).idxOf a < (x :: items).idxOf b := by
      intro q hq
      refine (ih q).imp_of_mem fun {a b} ha hb hab => ?_
      have ha' : a ≠ x := hq a (List.mem_filter.1 (List.mem_eraseDups.1 ha)).2
      have hb' : b ≠ x := hq b (List.mem_filter.1 (List.mem_eraseDups.1 hb)).2
      rw [List.idxOf_cons_ne items ha'.symm, List.idxOf_cons_ne items hb'.symm]
      omega
    by_cases hx : p x = true
    · rw [List.filter_cons_of_pos hx, List.eraseDups_cons, List.filter_filter]
      refine List.pairwise_cons.2 ⟨fun b hb => ?_, hshift _ (by simp +contextual)⟩
      have hb' : b ≠ x := by
        have h := (List.mem_filter.1 (List.mem_eraseDups.1 hb)).2
        simp only [Bool.and_eq_true, Bool.not_eq_true', beq_eq_false_iff_ne] at h
        exact h.1
      rw [List.idxOf_cons_self, List.idxOf_cons_ne items hb'.symm]
      omega
    · rw [List.filter_cons_of_neg hx]
      exact hshift p fun a ha e => hx (e ▸ ha)

theorem nodup_eraseDups (items : List α) : items.eraseDups.Nodup := by
  have h := pairwise_idxOf_eraseDups (fun _ => true) items
  rw [List.filter_eq_self.2 fun _ _ => rfl] at h
  exact h.imp fun {a b} hab e => absurd hab (by simp [e])

end SchemaAccess
