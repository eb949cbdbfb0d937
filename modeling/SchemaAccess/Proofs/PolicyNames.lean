import Mathlib.Data.List.Nodup
import SchemaAccess.Policy.Document

namespace SchemaAccess.Policy

open Access (Role)

/-- The name of the document of a role at a position, counted from zero. -/
def numberedName (role : Role) (index : Nat) : String := role.policyStem ++ twoDigits (index + 1)

theorem ofDigitChars_twoDigits (n : Nat) : Nat.ofDigitChars 10 (twoDigits n).toList 0 = n := by
  have hdigits : Nat.ofDigitChars 10 (toString n).toList 0 = n := by
    rw [Nat.toString_eq_repr, Nat.toList_repr]
    exact Nat.ofDigitChars_ten_toDigits
  change Nat.ofDigitChars 10 (if n < 10 then s!"0{n}" else toString n).toList 0 = n
  split
  · have hzero : s!"0{n}".toList = '0' :: (toString n).toList := by
      simp [toString, String.toList_append]
    rw [hzero, Nat.ofDigitChars_cons]
    exact hdigits
  · exact hdigits

theorem dash_notMem_twoDigits (n : Nat) : '-' ∉ (twoDigits n).toList := by
  have hdigits : '-' ∉ (toString n).toList := by
    rw [Nat.toString_eq_repr, Nat.toList_repr]
    intro h
    have hdigit := Nat.isDigit_of_mem_toDigits (by decide) (by decide) h
    contradiction
  change '-' ∉ (if n < 10 then s!"0{n}" else toString n).toList
  split
  · simpa [toString, String.toList_append] using hdigits
  · exact hdigits

theorem twoDigits_injective {m n : Nat} (h : twoDigits m = twoDigits n) : m = n := by
  rw [← ofDigitChars_twoDigits m, h, ofDigitChars_twoDigits n]

theorem numberedName_injective (role : Role) : Function.Injective (numberedName role) := by
  intro i j h
  have hlist := congrArg String.toList h
  simp only [numberedName, String.toList_append] at hlist
  have hdigits := String.toList_inj.1 (List.append_cancel_left hlist)
  have hnumber : i + 1 = j + 1 := twoDigits_injective hdigits
  omega

theorem numberedName_auth_ne_unauth (i j : Nat) : numberedName .auth i ≠ numberedName .unauth j := by
  intro h
  have hlist := congrArg String.toList h
  -- the stems differ in their first character
  simp [numberedName, String.toList_append, Role.policyStem] at hlist

theorem map_name_documentsOf (role : Role) (resources : List Resource) (size : Nat) :
    (documentsOf role resources size).map (·.name) =
      (List.range (pieces size resources).length).map (numberedName role) := by
  simp only [documentsOf, List.map_map, List.range_eq_range', ← List.zipIdx_map_snd 0]
  rfl

theorem name_of_mem_documentsOf {role : Role} {resources : List Resource} {size : Nat} {doc : Document}
    (h : doc ∈ documentsOf role resources size) : ∃ index, doc.name = numberedName role index := by
  have hname : doc.name ∈ (documentsOf role resources size).map (·.name) := List.mem_map_of_mem h
  rw [map_name_documentsOf] at hname
  obtain ⟨index, -, heq⟩ := List.mem_map.1 hname
  exact ⟨index, heq.symm⟩

theorem nodup_names_documentsOf (role : Role) (resources : List Resource) (size : Nat) :
    ((documentsOf role resources size).map (·.name)).Nodup := by
  rw [map_name_documentsOf]
  exact List.nodup_range.map (numberedName_injective role)

theorem nodup_names_documentsOf_append (auth unauth : List Resource) (size : Nat) :
    ((documentsOf .auth auth size ++ documentsOf .unauth unauth size).map (·.name)).Nodup := by
  rw [List.map_append]
  refine (nodup_names_documentsOf .auth auth size).append (nodup_names_documentsOf .unauth unauth size) ?_
  rw [map_name_documentsOf, map_name_documentsOf]
  intro name hauth hunauth
  obtain ⟨i, -, rfl⟩ := List.mem_map.1 hauth
  obtain ⟨j, -, hj⟩ := List.mem_map.1 hunauth
  exact numberedName_auth_ne_unauth i j hj.symm

theorem dash_notMem_numberedName (role : Role) (index : Nat) : '-' ∉ (numberedName role index).toList := by
  have hstem : '-' ∉ role.policyStem.toList := by cases role <;> decide
  have hdigits : '-' ∉ (twoDigits ((index + 1 : Nat) : Int)).toList := dash_notMem_twoDigits (index + 1)
  rw [numberedName, String.toList_append, List.mem_append, not_or]
  exact ⟨hstem, hdigits⟩

theorem map_number_documentsOf (role : Role) (resources : List Resource) (size : Nat) :
    (documentsOf role resources size).map (·.number) =
      (List.range (documentsOf role resources size).length).map fun i : Nat => (i : Int) + 1 := by
  have hlength : (documentsOf role resources size).length = (pieces size resources).length := by
    simp [documentsOf]
  rw [hlength]
  simp only [documentsOf, List.map_map, List.range_eq_range', ← List.zipIdx_map_snd 0]
  rfl

theorem role_of_mem_documentsOf {role : Role} {resources : List Resource} {size : Nat} {doc : Document}
    (h : doc ∈ documentsOf role resources size) : doc.role = role := by
  obtain ⟨⟨piece, i⟩, -, rfl⟩ := List.mem_map.1 h
  rfl

theorem resources_document (role : Role) (resources : List Resource) (index : Nat) :
    (document role resources index).resources = resources := by
  simp [document, Document.resources]

theorem map_resources_documentsOf (role : Role) (resources : List Resource) (size : Nat) :
    (documentsOf role resources size).map (·.resources) = pieces size resources := by
  simp only [documentsOf, List.map_map, Function.comp_def, resources_document]
  exact List.zipIdx_map_fst 0 (pieces size resources)

theorem flatMap_resources_documentsOf (role : Role) (resources : List Resource) {size : Nat}
    (h : 0 < size) : (documentsOf role resources size).flatMap (·.resources) = resources := by
  rw [List.flatMap_def, map_resources_documentsOf, flatten_pieces h]

end SchemaAccess.Policy
