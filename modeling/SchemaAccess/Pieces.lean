namespace SchemaAccess

variable {α : Type}

/-- The list in pieces of `size`, the last one perhaps shorter. No more than `n` pieces are cut. -/
def cut (size : Nat) : Nat → List α → List (List α)
  | 0, _ => []
  | _ + 1, [] => []
  | n + 1, items => items.take size :: cut size n (items.drop size)

def pieces (size : Nat) (items : List α) : List (List α) := cut size items.length items

theorem flatten_cut {size : Nat} (h : 0 < size) (n : Nat) (items : List α) (hn : items.length ≤ n) :
    (cut size n items).flatten = items := by
  induction n generalizing items with
  | zero => simp_all [cut]
  | succ n ih =>
    cases items with
    | nil => simp [cut]
    | cons a rest =>
      rw [cut, List.flatten_cons, ih]
      · exact List.take_append_drop size (a :: rest)
      · simp only [List.length_drop, List.length_cons] at hn ⊢
        omega
      · simp

theorem flatten_pieces {size : Nat} (h : 0 < size) (items : List α) :
    (pieces size items).flatten = items := flatten_cut h _ items (Nat.le_refl _)

theorem length_le_of_mem_cut (size n : Nat) (items : List α) {piece : List α}
    (h : piece ∈ cut size n items) : piece.length ≤ size := by
  induction n generalizing items with
  | zero => simp [cut] at h
  | succ n ih =>
    cases items with
    | nil => simp [cut] at h
    | cons a rest =>
      rw [cut, List.mem_cons] at h
      · rcases h with rfl | h
        · simp only [List.length_take]
          omega
        · exact ih _ h
      · simp

theorem length_cut {size : Nat} (h : 0 < size) (n : Nat) (items : List α) (hn : items.length ≤ n) :
    (cut size n items).length = (items.length + size - 1) / size := by
  induction n generalizing items with
  | zero =>
    have hnone : items.length = 0 := by omega
    rw [cut, List.length_nil, hnone]
    exact (Nat.div_eq_of_lt (by omega)).symm
  | succ n ih =>
    cases items with
    | nil => exact (Nat.div_eq_of_lt (show 0 + size - 1 < size by omega)).symm
    | cons a rest =>
      have hrest : ((a :: rest).drop size).length ≤ n := by
        simp only [List.length_drop, List.length_cons] at hn ⊢
        omega
      -- the first piece takes one `size`, unless it takes all that is left
      have hfirst : (rest.length + 1 + size - 1) / size = rest.length / size + 1 := by
        rw [show rest.length + 1 + size - 1 = rest.length + size by omega, Nat.add_div_right _ h]
      have hothers : (rest.length + 1 - size + size - 1) / size = rest.length / size := by
        by_cases hle : size ≤ rest.length + 1
        · rw [show rest.length + 1 - size + size - 1 = rest.length by omega]
        · rw [show rest.length + 1 - size + size - 1 = size - 1 by omega, Nat.div_eq_of_lt (by omega),
            Nat.div_eq_of_lt (by omega)]
      rw [cut, List.length_cons, ih _ hrest, List.length_drop, List.length_cons, hothers, hfirst]
      simp

theorem length_pieces {size : Nat} (h : 0 < size) (items : List α) :
    (pieces size items).length = (items.length + size - 1) / size := length_cut h _ items (Nat.le_refl _)

/-- Each piece begins one `size` behind the one before it, as long as there is something left. -/
theorem getElem?_cut {size : Nat} (h : 0 < size) (n : Nat) (items : List α) (hn : items.length ≤ n) (i : Nat) :
    (cut size n items)[i]? =
      if i * size < items.length then some ((items.drop (i * size)).take size) else none := by
  induction n generalizing items i with
  | zero =>
    have hnone : items.length = 0 := by omega
    rw [cut, List.getElem?_nil, if_neg (by omega)]
  | succ n ih =>
    cases items with
    | nil => simp [cut]
    | cons a rest =>
      cases i with
      | zero => simp [cut]
      | succ i =>
        have hrest : ((a :: rest).drop size).length ≤ n := by
          simp only [List.length_drop, List.length_cons] at hn ⊢
          omega
        rw [cut, List.getElem?_cons_succ, ih _ hrest i, List.drop_drop, List.length_drop]
        · have hnext : (i + 1) * size = size + i * size := by rw [Nat.succ_mul, Nat.add_comm]
          rw [hnext]
          congr 1
          apply propext
          omega
        · simp

theorem getElem?_pieces {size : Nat} (h : 0 < size) (items : List α) (i : Nat) :
    (pieces size items)[i]? =
      if i * size < items.length then some ((items.drop (i * size)).take size) else none :=
  getElem?_cut h _ items (Nat.le_refl _) i

theorem getElem?_pieces_eq_some_iff {size : Nat} (h : 0 < size) (items : List α) (i : Nat) (piece : List α) :
    (pieces size items)[i]? = some piece ↔
      i * size < items.length ∧ (items.drop (i * size)).take size = piece := by
  rw [getElem?_pieces h, Option.ite_none_right_eq_some, Option.some.injEq]

end SchemaAccess
