import SchemaAccess.Deploy.Plan

namespace SchemaAccess

theorem Text.isBlank_append (s t : String) : isBlank (s ++ t) = (isBlank s && isBlank t) := by
  rw [isBlank, String.toList_append, List.all_append, isBlank, isBlank]

theorem Text.isBlank_append_eq_false (s : String) {t : String} (h : isBlank t = false) :
    isBlank (s ++ t) = false := by
  rw [isBlank_append, h, Bool.and_false]

namespace Deploy

/-- A name as it is if there is room for it, otherwise shortened. -/
def NameFrame.fitted (f : NameFrame) (s : String) : String :=
  if (s.length : Int) ≤ f.room then s else shortened s f.room.toNat

/-- There is a name if there is room at all, something to name, and room for it or for its hash. -/
theorem NameFrame.name_eq_ok_iff (f : NameFrame) (s id : String) : f.name s = .ok id ↔
    (0 < f.room ∧ Text.isBlank s = false ∧ ((s.length : Int) ≤ f.room ∨ (hashSpace : Int) < f.room)) ∧
      f.around (f.fitted s) = id := by
  have hthrow : ∀ fault : Failure, (throw fault : Except Failure String) ≠ .ok id := fun _ => nofun
  have hreturn : ∀ t : String, (return t : Except Failure String) = .ok id ↔ t = id :=
    fun t => Except.ok.injEq t id ▸ Iff.rfl
  unfold NameFrame.name
  by_cases hroom : f.room ≤ 0
  · rw [if_pos hroom]
    exact iff_of_false (hthrow _) fun h => absurd h.1.1 (by omega)
  rw [if_neg hroom]
  cases hblank : Text.isBlank s with
  | true => exact iff_of_false (hthrow _) fun h => absurd h.1.2.1 (by decide)
  | false =>
    rw [if_neg Bool.false_ne_true]
    by_cases hfits : (s.length : Int) ≤ f.room
    · rw [if_pos hfits, hreturn, fitted, if_pos hfits]
      exact (and_iff_right ⟨by omega, rfl, .inl hfits⟩).symm
    rw [if_neg hfits]
    by_cases hhash : f.room ≤ hashSpace
    · rw [if_pos hhash]
      refine iff_of_false (hthrow _) fun h => ?_
      omega
    · rw [if_neg hhash, hreturn, fitted, if_neg hfits]
      exact (and_iff_right ⟨by omega, rfl, .inr (by omega)⟩).symm

theorem NameFrame.exists_name_iff (f : NameFrame) (s : String) : (∃ id, f.name s = .ok id) ↔
    0 < f.room ∧ Text.isBlank s = false ∧ ((s.length : Int) ≤ f.room ∨ (hashSpace : Int) < f.room) := by
  simp only [name_eq_ok_iff, exists_and_left, exists_eq', and_true]

theorem room_frame (n : Naming) (after : String) (limit : Int) :
    (frame n after limit).room = limit - (n.stem.length + after.length + 8) := rfl

namespace Plan

section Names

variable {n : Naming} {component : String} {id : String}
  (h : (frame n "" apiNameLimit).name (component ++ "-api") = .ok id)
include h

theorem exists_keyName : ∃ key, (frame n "" apiNameLimit).name (component ++ "-key") = .ok key := by
  have hapi := (NameFrame.exists_name_iff _ _).1 ⟨id, h⟩
  rw [NameFrame.exists_name_iff]
  have hending : "-key".length = "-api".length := by decide
  have hlength : (component ++ "-key").length = (component ++ "-api").length := by
    rw [String.length_append, String.length_append, hending]
  rw [hlength]
  exact ⟨hapi.1, Text.isBlank_append_eq_false component (by decide), hapi.2.2⟩

/-- Names of policies may be twice as long as those of APIs. Where an API can be named at all, there is room for
their hash. -/
theorem exists_longName {after : String} (hafter : after.length ≤ 2) {s : String}
    (hs : Text.isBlank s = false) : ∃ name, (frame n after policyNameLimit).name s = .ok name := by
  have hroom := ((NameFrame.exists_name_iff _ _).1 ⟨id, h⟩).1
  have hempty : ("" : String).length = 0 := rfl
  have hspace : (hashSpace : Int) = 8 := rfl
  rw [room_frame, apiNameLimit, hempty] at hroom
  have hhash : (hashSpace : Int) < (frame n after policyNameLimit).room := by
    rw [room_frame, policyNameLimit, hspace]
    omega
  rw [NameFrame.exists_name_iff]
  exact ⟨by omega, hs, .inr hhash⟩

theorem exists_policyName (d : Policy.Document) : ∃ name, policyName n component d = .ok name := by
  apply exists_longName h (by decide)
  have hdash := Text.isBlank_append_eq_false component (t := "-") (by decide)
  rw [Text.isBlank_append, hdash, Bool.false_and]

theorem exists_attachmentName (d : Policy.Document) : ∃ name, attachmentName n component d = .ok name := by
  apply exists_longName h (by decide)
  exact Text.isBlank_append_eq_false _ (by decide)

end Names

end Plan

end Deploy

end SchemaAccess
