import Mathlib.Algebra.GroupWithZero.Nat
import SchemaAccess.FileTree

namespace SchemaAccess

theorem Text.mem_of_mem_partsAt {mark c : Char} {cs part : List Char} (hpart : part ∈ partsAt mark cs)
    (hc : c ∈ part) : c ∈ cs := by
  have hgo : ∀ (cs passed : List Char), part ∈ partsAt.go mark cs passed → c ∈ passed ∨ c ∈ cs := by
    intro cs
    induction cs with
    | nil =>
      intro passed h
      rw [partsAt.go, List.mem_singleton] at h
      exact .inl (List.mem_reverse.1 (h ▸ hc))
    | cons d cs ih =>
      intro passed h
      rw [partsAt.go] at h
      split at h
      · rcases List.mem_cons.1 h with rfl | h
        · exact .inl (List.mem_reverse.1 hc)
        · exact .inr (List.mem_cons_of_mem d ((ih [] h).resolve_left List.not_mem_nil))
      · rcases ih (d :: passed) h with hpassed | hrest
        · rcases List.mem_cons.1 hpassed with rfl | hpassed
          · exact .inr List.mem_cons_self
          · exact .inl hpassed
        · exact .inr (List.mem_cons_of_mem d hrest)
  exact (hgo cs [] hpart).resolve_left List.not_mem_nil

theorem mem_of_mem_intercalate {α : Type} {sep : List α} {parts : List (List α)} {a : α}
    (h : a ∈ sep.intercalate parts) : a ∈ sep ∨ ∃ part ∈ parts, a ∈ part := by
  induction parts with
  | nil => simp at h
  | cons part parts ih =>
    cases parts with
    | nil => exact .inr ⟨part, List.mem_cons_self, by simpa using h⟩
    | cons next parts =>
      rw [List.intercalate_cons_cons, List.mem_append, List.mem_append] at h
      rcases h with (h | h) | h
      · exact .inr ⟨part, List.mem_cons_self, h⟩
      · exact .inl h
      · exact (ih h).imp_right fun ⟨s, hs, ha⟩ => ⟨s, List.mem_cons_of_mem part hs, ha⟩

theorem Path.mem_shown_ofText {text : String} {c : Char} (h : c ∈ (ofText text).shown.toList) :
    c ∈ text.toList ∨ c = '/' ∨ c = '.' := by
  unfold shown at h
  split at h
  · exact .inr (.inr (List.mem_singleton.1 h))
  · rw [String.toList_append, List.mem_append, String.toList_intercalate] at h
    rcases h with hroot | hparts
    · unfold ofText rootOf at hroot
      dsimp only at hroot
      split at hroot <;> simp_all
    · rcases mem_of_mem_intercalate hparts with hslash | ⟨part, hpart, hc⟩
      · exact .inr (.inl (List.mem_singleton.1 hslash))
      · left
        obtain ⟨s, hs, rfl⟩ := List.mem_map.1 hpart
        obtain ⟨cs, hcs, rfl⟩ := List.mem_map.1 ((List.mem_filter.1 hs).1)
        rw [String.toList_ofList] at hc
        exact Text.mem_of_mem_partsAt hcs hc

theorem Path.bracket_notMem_shown {text : String} (h : '[' ∉ text.toList) :
    '[' ∉ (ofText text).shown.toList := by
  intro hmem
  rcases mem_shown_ofText hmem with htext | hslash | hdot
  · exact h htext
  · exact absurd hslash (by decide)
  · exact absurd hdot (by decide)

theorem Text.partsAt_go_append {mark : Char} {part : List Char} (h : mark ∉ part) (rest passed : List Char) :
    partsAt.go mark (part ++ rest) passed = partsAt.go mark rest (part.reverse ++ passed) := by
  induction part generalizing passed with
  | nil => rfl
  | cons c part ih =>
    rw [List.mem_cons, not_or] at h
    have hc : (c == mark) = false := by simpa using fun hc => h.1 hc.symm
    rw [List.cons_append, partsAt.go, hc, if_neg Bool.false_ne_true, ih h.2]
    simp

theorem Text.partsAt_intercalate {mark : Char} {first : List Char} {more : List (List Char)}
    (h : ∀ part ∈ first :: more, mark ∉ part) :
    partsAt mark ([mark].intercalate (first :: more)) = first :: more := by
  induction more generalizing first with
  | nil =>
    rw [List.forall_mem_singleton] at h
    have hgo := partsAt_go_append h [] []
    simpa [partsAt, partsAt.go] using hgo
  | cons second more ih =>
    rw [List.forall_mem_cons] at h
    rw [List.intercalate_cons_cons, List.append_assoc, partsAt, partsAt_go_append h.1, List.singleton_append,
      partsAt.go, if_pos (beq_self_eq_true mark)]
    have hmore := ih h.2
    rw [partsAt] at hmore
    rw [hmore]
    simp

theorem utf8ByteSize_intercalate (sep s : String) (more : List String) :
    (sep.intercalate (s :: more)).utf8ByteSize =
      s.utf8ByteSize + (more.map fun part => sep.utf8ByteSize + part.utf8ByteSize).sum := by
  induction more generalizing s with
  | nil => simp
  | cons t more ih =>
    rw [String.intercalate_cons_cons, String.utf8ByteSize_append, String.utf8ByteSize_append, ih,
      List.map_cons, List.sum_cons]
    omega

theorem Path.exists_utf8ByteSize_child (p : Path) :
    ∃ size, ∀ name, (p.child name).shown.utf8ByteSize = size + name.utf8ByteSize := by
  have hshown : ∀ name, (p.child name).shown = p.root ++ "/".intercalate (p.parts ++ [name]) := by
    intro name
    rw [shown, if_neg]
    · rfl
    · exact fun hempty => List.append_ne_nil_of_right_ne_nil _ (List.cons_ne_nil _ _) hempty.2
  cases hparts : p.parts with
  | nil =>
    refine ⟨p.root.utf8ByteSize, fun name => ?_⟩
    rw [hshown, hparts, String.utf8ByteSize_append, List.nil_append, String.intercalate_singleton]
  | cons first more =>
    refine ⟨p.root.utf8ByteSize + ("/".intercalate (first :: more)).utf8ByteSize + "/".utf8ByteSize,
      fun name => ?_⟩
    rw [hshown, hparts, String.utf8ByteSize_append, List.cons_append, utf8ByteSize_intercalate,
      utf8ByteSize_intercalate, List.map_append, List.sum_append, List.map_singleton, List.sum_singleton]
    omega

/-- A relative path that is put together from names has these as its parts. -/
theorem Path.ofText_intercalate {first : String} {more : List String}
    (h : ∀ part ∈ first :: more, '/' ∉ part.toList ∧ part ≠ "" ∧ part ≠ ".") :
    ofText ("/".intercalate (first :: more)) = ⟨"", first :: more⟩ := by
  have hlist : ("/".intercalate (first :: more)).toList =
      ['/'].intercalate ((first :: more).map String.toList) := String.toList_intercalate
  have hroot : rootOf (['/'].intercalate ((first :: more).map String.toList)) = "" := by
    obtain ⟨hslash, hne, -⟩ := h first List.mem_cons_self
    have hnil : first.toList ≠ [] := fun hnil => hne (String.toList_eq_nil_iff.1 hnil)
    obtain ⟨c, cs, hcs⟩ := List.exists_cons_of_ne_nil hnil
    have hc : (c == '/') = false := by
      rw [hcs, List.mem_cons, not_or] at hslash
      simpa using fun hc => hslash.1 hc.symm
    have hstart : ∃ tail, ['/'].intercalate ((first :: more).map String.toList) = c :: tail := by
      cases more with
      | nil => exact ⟨cs, by simp [hcs]⟩
      | cons second more => exact ⟨_, by rw [List.map_cons, List.map_cons, List.intercalate_cons_cons, hcs]; rfl⟩
    obtain ⟨tail, htail⟩ := hstart
    rw [rootOf, htail, List.takeWhile_cons, hc]
    rfl
  have hparts : partsOf (['/'].intercalate ((first :: more).map String.toList)) = first :: more := by
    rw [partsOf, List.map_cons, Text.partsAt_intercalate, ← List.map_cons, List.map_map]
    · simp [Function.comp_def]
    · rw [← List.map_cons]
      exact List.forall_mem_map.2 fun part hpart => (h part hpart).1
  have hkept : (first :: more).filter (fun part => part != "" && part != ".") = first :: more := by
    rw [List.filter_eq_self]
    intro part hpart
    simp [(h part hpart).2]
  rw [ofText, hlist, hroot, hparts, hkept]

end SchemaAccess
