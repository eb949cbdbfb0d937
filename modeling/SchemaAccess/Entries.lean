namespace SchemaAccess

abbrev Entries (α : Type) := List (String × α)

namespace Entries

variable {α : Type}

/-- The value of the first entry under `key`. -/
def find? (entries : Entries α) (key : String) : Option α :=
  match entries with
  | [] => none
  | (k, a) :: rest => if k = key then some a else find? rest key

def keys (entries : Entries α) : List String := entries.map Prod.fst

/-- A new key goes to the end; a known one keeps its place and gets the new value. -/
def put (entries : Entries α) (key : String) (a : α) : Entries α :=
  match entries with
  | [] => [(key, a)]
  | (k, b) :: rest => if k = key then (k, a) :: rest else (k, b) :: put rest key a

/-- The entries of a sequence of writes: of a repeated key the first place and the last value. -/
def ofWrites (writes : List (String × α)) : Entries α :=
  writes.foldl (fun entries w => put entries w.1 w.2) []

@[simp] theorem find?_nil (key : String) : find? ([] : Entries α) key = none := rfl

theorem find?_eq_map (entries : Entries α) (key : String) :
    find? entries key = (List.find? (·.1 = key) entries).map Prod.snd := by
  induction entries with
  | nil => rfl
  | cons e rest ih =>
    obtain ⟨k, b⟩ := e
    by_cases h : k = key <;> simp [find?, h, ih]

theorem find?_put (entries : Entries α) (key key' : String) (a : α) :
    find? (put entries key a) key' = if key = key' then some a else find? entries key' := by
  induction entries with
  | nil => simp [put, find?]
  | cons e rest ih =>
    obtain ⟨k, b⟩ := e
    simp only [put, find?]
    split
    · subst k
      by_cases h' : key = key' <;> simp [find?, h']
    · by_cases h' : k = key' <;> simp_all [find?, eq_comm]

theorem find?_eq_none_iff (entries : Entries α) (key : String) :
    find? entries key = none ↔ key ∉ keys entries := by
  induction entries with
  | nil => simp [keys]
  | cons e rest ih =>
    obtain ⟨k, b⟩ := e
    by_cases h : k = key <;> simp_all [find?, keys, eq_comm]

theorem find?_ofWrites (writes : List (String × α)) (key : String) :
    find? (ofWrites writes) key = find? (α := α) writes.reverse key := by
  rw [ofWrites, List.foldl_eq_foldr_reverse]
  induction writes.reverse with
  | nil => rfl
  | cons w rest ih =>
    rw [List.foldr_cons, find?_put, ih]
    rfl

theorem put_of_notMem {entries : Entries α} {key : String} (h : key ∉ keys entries) (a : α) :
    put entries key a = entries ++ [(key, a)] := by
  induction entries with
  | nil => rfl
  | cons e rest ih =>
    obtain ⟨k, b⟩ := e
    simp only [keys, List.map_cons, List.mem_cons, not_or] at h ih
    rw [put, if_neg (fun hk => h.1 hk.symm), ih h.2]
    rfl

theorem ofWrites_of_nodup {writes : List (String × α)} (h : (keys writes).Nodup) : ofWrites writes = writes := by
  suffices ∀ entries : Entries α, (keys (entries ++ writes)).Nodup →
      writes.foldl (fun entries w => put entries w.1 w.2) entries = entries ++ writes from this [] h
  clear h
  induction writes with
  | nil => exact fun entries _ => (List.append_nil entries).symm
  | cons w rest ih =>
    intro entries h
    have hw : w.1 ∉ keys entries := by
      intro hmem
      rw [keys, List.map_append, List.nodup_append] at h
      exact h.2.2 w.1 hmem w.1 (List.mem_map_of_mem List.mem_cons_self) rfl
    rw [List.foldl_cons, put_of_notMem hw, ih]
    · exact List.append_assoc entries [w] rest
    · rwa [List.append_assoc]

end Entries

end SchemaAccess
