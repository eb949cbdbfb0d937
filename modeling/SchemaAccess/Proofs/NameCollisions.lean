import SchemaAccess.Proofs.BoundedNames

namespace SchemaAccess.Deploy

theorem length_shortHash (s : String) : (shortHash s).length = hashLength := by
  rw [← String.length_toList, shortHash, String.toList_ofList, List.length_take, Sha256.length_hex]
  rfl

namespace NameFrame

theorem toList_shortened (s : String) (n : Nat) :
    (shortened s n).toList = s.toList.take (n - hashSpace) ++ '-' :: (Sha256.hex s).toList.take hashLength := by
  simp [shortened, shortHash]

theorem length_shortened {s : String} {n : Nat} (hn : hashSpace ≤ n) (hs : n ≤ s.length) :
    (shortened s n).length = n := by
  have hhash := length_shortHash s
  have hspace : hashSpace = hashLength + 1 := rfl
  have hdash : "-".length = 1 := rfl
  rw [shortened, String.length_append, String.length_append, String.length_ofList, List.length_take, hdash,
    hhash, String.length_toList]
  omega

/-- Names that are too long for `n` characters are cut to the same if they begin alike and so do their
hashes. -/
theorem shortened_eq_iff {s t : String} {n : Nat} (hs : n ≤ s.length) (ht : n ≤ t.length) :
    shortened s n = shortened t n ↔ s.toList.take (n - hashSpace) = t.toList.take (n - hashSpace) ∧
      (Sha256.hex s).toList.take hashLength = (Sha256.hex t).toList.take hashLength := by
  have hlength : (s.toList.take (n - hashSpace)).length = (t.toList.take (n - hashSpace)).length := by
    simp only [List.length_take, String.length_toList]
    omega
  rw [← String.toList_inj, toList_shortened, toList_shortened]
  constructor
  · intro h
    obtain ⟨hbegin, hend⟩ := List.append_inj h hlength
    exact ⟨hbegin, (List.cons.inj hend).2⟩
  · rintro ⟨hbegin, hhash⟩
    rw [hbegin, hhash]

theorem around_injective (f : NameFrame) {s t : String} (h : f.around s = f.around t) : s = t := by
  have hlist := congrArg String.toList h
  simp only [around, String.toList_append, List.append_assoc] at hlist
  exact String.toList_inj.1 (List.append_cancel_right (List.append_cancel_left hlist))

theorem length_around (f : NameFrame) (s : String) :
    ((f.around s).length : Int) = f.limit - f.reserved - f.room + s.length := by
  rw [around, String.length_append, String.length_append, room]
  omega

theorem fitted_of_le {f : NameFrame} {s : String} (h : (s.length : Int) ≤ f.room) : f.fitted s = s := if_pos h

theorem fitted_of_lt {f : NameFrame} {s : String} (h : f.room < s.length) :
    f.fitted s = shortened s f.room.toNat := if_neg (by omega)

/-- How two names come to be one where there are `room` characters for either. -/
inductive Meets (room : Int) (s t : String) : Prop
  /-- Both are cut. They begin alike, and so do their hashes. -/
  | bothCut (hs : room < s.length) (ht : room < t.length)
      (hbegin : s.toList.take (room.toNat - 8) = t.toList.take (room.toNat - 8))
      (hhash : (Sha256.hex s).toList.take 7 = (Sha256.hex t).toList.take 7)
  /-- The first one is cut to what the second one is. -/
  | firstCut (hs : room < s.length) (ht : (t.length : Int) ≤ room)
      (h : s.toList.take (room.toNat - 8) ++ '-' :: (Sha256.hex s).toList.take 7 = t.toList)
  /-- The second one is cut to what the first one is. -/
  | secondCut (hs : (s.length : Int) ≤ room) (ht : room < t.length)
      (h : t.toList.take (room.toNat - 8) ++ '-' :: (Sha256.hex t).toList.take 7 = s.toList)

theorem shortened_eq_iff_toList (s t : String) (n : Nat) : shortened s n = t ↔
    s.toList.take (n - 8) ++ '-' :: (Sha256.hex s).toList.take 7 = t.toList := by
  rw [← String.toList_inj, toList_shortened]
  rfl

/-- Names that are not cut stay apart. -/
theorem fitted_eq_iff_meets (f : NameFrame) {s t : String} (hne : s ≠ t) :
    f.fitted s = f.fitted t ↔ Meets f.room s t := by
  by_cases hs : (s.length : Int) ≤ f.room
  · rw [fitted_of_le hs]
    by_cases ht : (t.length : Int) ≤ f.room
    · rw [fitted_of_le ht]
      refine iff_of_false hne fun h => ?_
      cases h <;> omega
    · rw [fitted_of_lt (by omega), eq_comm, shortened_eq_iff_toList]
      refine ⟨.secondCut hs (by omega), fun h => ?_⟩
      cases h with
      | secondCut _ _ h => exact h
      | _ => omega
  · rw [fitted_of_lt (by omega)]
    by_cases ht : (t.length : Int) ≤ f.room
    · rw [fitted_of_le ht, shortened_eq_iff_toList]
      refine ⟨.firstCut (by omega) ht, fun h => ?_⟩
      cases h with
      | firstCut _ _ h => exact h
      | _ => omega
    · rw [fitted_of_lt (by omega), shortened_eq_iff (by omega) (by omega)]
      refine ⟨fun h => .bothCut (by omega) (by omega) h.1 h.2, fun h => ?_⟩
      cases h with
      | bothCut _ _ hbegin hhash => exact ⟨hbegin, hhash⟩
      | _ => omega

/-- What a frame with `room` characters for a name makes of names. -/
structure KeepsBounds (f : NameFrame) (room : Int) : Prop where
  exists_iff : ∀ s, (∃ id, f.name s = .ok id) ↔
    0 < room ∧ Text.isBlank s = false ∧ ((s.length : Int) ≤ room ∨ 8 < room)
  fails : ∀ s e, f.name s = .error e → ∃ fault, e = .value fault
  length_le : ∀ s id, f.name s = .ok id → (id.length : Int) ≤ f.limit - f.reserved
  framed : ∀ s id, f.name s = .ok id → ∃ inner, id = f.before ++ inner ++ f.after
  fits : ∀ s id, f.name s = .ok id → (s.length : Int) ≤ room → id = f.before ++ s ++ f.after
  cut : ∀ s id, f.name s = .ok id → room < s.length → (id.length : Int) = f.limit - f.reserved
  /-- Different names are told apart unless they meet. -/
  same_iff : ∀ s t id id', f.name s = .ok id → f.name t = .ok id' → s ≠ t → (id = id' ↔ Meets room s t)

theorem exists_value_of_name_eq_error {f : NameFrame} {s : String} {e : Failure} (h : f.name s = .error e) :
    ∃ fault, e = .value fault := by
  unfold name at h
  split at h
  · exact ⟨_, (Except.error.inj h).symm⟩
  · split at h
    · exact ⟨_, (Except.error.inj h).symm⟩
    · split at h
      · contradiction
      · split at h
        · exact ⟨_, (Except.error.inj h).symm⟩
        · contradiction

theorem length_of_cut {f : NameFrame} {s id : String} (h : f.name s = .ok id) (hcut : f.room < s.length) :
    (id.length : Int) = f.limit - f.reserved := by
  obtain ⟨⟨-, -, hroom⟩, rfl⟩ := (f.name_eq_ok_iff s id).1 h
  have hspace : (hashSpace : Int) < f.room := by omega
  rw [length_around, fitted_of_lt hcut, length_shortened (by omega) (by omega)]
  omega

theorem eq_around_of_fits {f : NameFrame} {s id : String} (h : f.name s = .ok id)
    (hfits : (s.length : Int) ≤ f.room) : id = f.around s := by
  obtain ⟨-, rfl⟩ := (f.name_eq_ok_iff s id).1 h
  rw [fitted_of_le hfits]

theorem keepsBounds_room (f : NameFrame) : KeepsBounds f f.room where
  exists_iff := f.exists_name_iff
  fails _ _ h := exists_value_of_name_eq_error h
  length_le := by
    intro s id h
    by_cases hfits : (s.length : Int) ≤ f.room
    · rw [eq_around_of_fits h hfits, length_around]
      omega
    · have hcut := length_of_cut h (by omega)
      omega
  framed := by
    intro s id h
    exact ⟨f.fitted s, ((f.name_eq_ok_iff s id).1 h).2.symm⟩
  fits _ _ h hfits := eq_around_of_fits h hfits
  cut _ _ h hcut := length_of_cut h hcut
  same_iff := by
    intro s t id id' hs ht hne
    obtain ⟨-, rfl⟩ := (f.name_eq_ok_iff s id).1 hs
    obtain ⟨-, rfl⟩ := (f.name_eq_ok_iff t id').1 ht
    rw [← fitted_eq_iff_meets f hne]
    exact ⟨f.around_injective, congrArg f.around⟩

/-- A name that fits may be what another one is cut to. -/
example : (name ⟨"shop-", "-p", 25, 2⟩ "orders-AuthRolePolicy").toOption = some "shop-orders-A-c6adf7e-p" ∧
    (name ⟨"shop-", "-p", 25, 2⟩ "orders-A-c6adf7e").toOption = some "shop-orders-A-c6adf7e-p" := by
  decide +kernel

end NameFrame

end SchemaAccess.Deploy
