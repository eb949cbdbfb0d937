import Mathlib.Algebra.Order.Floor.Div
import SchemaAccess.Proofs.PolicyNames

namespace SchemaAccess

section Sizes

variable {α : Type} {size : Nat} (h : 0 < size) (items : List α)
include h

theorem length_pos_of_mem_pieces {piece : List α} (hp : piece ∈ pieces size items) : 0 < piece.length := by
  obtain ⟨i, hi⟩ := List.mem_iff_getElem?.1 hp
  obtain ⟨hstart, rfl⟩ := (getElem?_pieces_eq_some_iff h items i piece).1 hi
  rw [List.length_take, List.length_drop]
  omega

theorem length_of_mem_dropLast_pieces {piece : List α} (hp : piece ∈ (pieces size items).dropLast) :
    piece.length = size := by
  obtain ⟨i, hi⟩ := List.mem_iff_getElem?.1 hp
  rw [List.getElem?_dropLast, Option.ite_none_right_eq_some] at hi
  obtain ⟨hfollowed, hi⟩ := hi
  obtain ⟨-, rfl⟩ := (getElem?_pieces_eq_some_iff h items i piece).1 hi
  -- the piece that follows begins within the list, so this one ends there
  obtain ⟨next, hnext⟩ : ∃ next, (pieces size items)[i + 1]? = some next :=
    ⟨_, List.getElem?_eq_getElem (by omega)⟩
  have hstart := ((getElem?_pieces_eq_some_iff h items (i + 1) next).1 hnext).1
  rw [Nat.succ_mul] at hstart
  rw [List.length_take, List.length_drop]
  omega

end Sizes

namespace Policy

open Access (Role)

/-- Documents for a role that hold fields cut into pieces of a size. -/
structure CutInOrder (role : Role) (resources : List Resource) (size : Nat) (documents : List Document) :
    Prop where
  lossless : documents.flatMap (·.resources) = resources
  count : documents.length = resources.length ⌈/⌉ size
  full : ∀ d ∈ documents.dropLast, d.resources.length = size
  last : ∀ d, documents.getLast? = some d → 1 ≤ d.resources.length ∧ d.resources.length ≤ size
  /-- Each document begins one size behind the one before it, and ends one size later or with the list. -/
  slice : ∀ i d, documents[i]? = some d → d.resources = (resources.drop (i * size)).take size
  statement : ∀ d ∈ documents, d.role = role ∧ d.statements = [⟨["appsync:GraphQL"], d.resources⟩]
  numbers : documents.map (·.number) = (List.range documents.length).map fun i : Nat => (i : Int) + 1
  names : (documents.map (·.name)).Nodup

theorem cutInOrder_documentsOf (role : Role) (resources : List Resource) {size : Nat} (h : 0 < size) :
    CutInOrder role resources size (documentsOf role resources size) := by
  have hpieces := map_resources_documentsOf role resources size
  constructor
  case lossless => exact flatMap_resources_documentsOf role resources h
  case count =>
    rw [Nat.ceilDiv_eq_add_pred_div, ← length_pieces h, ← hpieces, List.length_map]
  case full =>
    intro d hd
    apply length_of_mem_dropLast_pieces h resources
    rw [← hpieces, ← List.map_dropLast]
    exact List.mem_map_of_mem hd
  case last =>
    intro d hd
    have hmem : d.resources ∈ pieces size resources := by
      rw [← hpieces]
      exact List.mem_map_of_mem (List.mem_of_getLast? hd)
    exact ⟨length_pos_of_mem_pieces h resources hmem, length_le_of_mem_cut size _ resources hmem⟩
  case slice =>
    intro i d hd
    have hpiece : (pieces size resources)[i]? = some d.resources := by
      rw [← hpieces, List.getElem?_map, hd, Option.map_some]
    exact ((getElem?_pieces_eq_some_iff h resources i _).1 hpiece).2.symm
  case statement =>
    intro d hd
    refine ⟨role_of_mem_documentsOf hd, ?_⟩
    obtain ⟨⟨piece, i⟩, -, rfl⟩ := List.mem_map.1 hd
    rw [resources_document]
    rfl
  case numbers => exact map_number_documentsOf role resources size
  case names => exact nodup_names_documentsOf role resources size

/-- A cap below one is refused, and any other cap is the size that fields are cut to. -/
theorem partition_documents (role : Role) (resources : List Resource) (cap : Int) :
    (cap < 1 ∧ partition role resources cap = .error (.value .capBelowOne)) ∨
      ∃ size : Nat, cap = size ∧ 1 ≤ size ∧ ∃ documents,
        partition role resources cap = .ok documents ∧ CutInOrder role resources size documents := by
  by_cases hcap : cap < 1
  · left
    exact ⟨hcap, if_pos hcap⟩
  · right
    have hsize : 0 < cap.toNat := by omega
    refine ⟨cap.toNat, by omega, hsize, documentsOf role resources cap.toNat, if_neg hcap, ?_⟩
    exact cutInOrder_documentsOf role resources hsize

example : (partition .unauth [⟨"Query", "a"⟩, ⟨"Query", "b"⟩, ⟨"Query", "a"⟩] 2).toOption.map
    (·.map fun d => (d.name, d.resources.map (·.fieldName))) =
    some [("UnauthRolePolicy01", ["a", "b"]), ("UnauthRolePolicy02", ["a"])] := by
  decide

end Policy

end SchemaAccess
