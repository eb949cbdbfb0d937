import SchemaAccess.Policy.Ledger
import SchemaAccess.Proofs.FirstUse
import SchemaAccess.Proofs.PolicyNames

namespace SchemaAccess.Policy.Ledger

open Access (Role Rule)

section Steps

variable {l l₁ l₂ : Ledger} {role : Role} {r : Resource}

theorem requireOpen_of_open (h : l.closed = false) : l.requireOpen = .ok () := by
  rw [requireOpen, h]
  rfl

theorem requireOpen_of_closed (h : l.closed = true) :
    l.requireOpen = .error (.state .policiesGenerated) := by
  rw [requireOpen, h]
  rfl

theorem add_of_closed (h : l.closed = true) (role : Role) (r : Resource) :
    l.add role r = .error (.state .policiesGenerated) := by
  rw [add, requireOpen_of_closed h]
  rfl

theorem add_of_mem (h : l.closed = false) (hr : r ∈ l.resources role) : l.add role r = .ok (false, l) := by
  rw [add, requireOpen_of_open h]
  exact if_pos hr

theorem add_of_not_mem (h : l.closed = false) (hr : r ∉ l.resources role) :
    l.add role r = .ok (true, l.setResources role (l.resources role ++ [r])) := by
  rw [add, requireOpen_of_open h]
  exact if_neg hr

theorem exists_add_of_open (h : l.closed = false) (role : Role) (r : Resource) :
    ∃ l₁, l.add role r = .ok (decide (r ∉ l.resources role), l₁) ∧ l₁.closed = false ∧
      ∀ role', l₁.resources role' = if role' = role ∧ r ∉ l.resources role' then l.resources role' ++ [r]
        else l.resources role' := by
  by_cases hr : r ∈ l.resources role
  · rw [decide_eq_false (not_not_intro hr)]
    refine ⟨l, add_of_mem h hr, h, fun role' => ?_⟩
    rw [if_neg]
    rintro ⟨rfl, hnew⟩
    exact hnew hr
  · rw [decide_eq_true hr]
    refine ⟨_, add_of_not_mem h hr, (closed_setResources l role _).trans h, fun role' => ?_⟩
    rw [resources_setResources]
    by_cases he : role' = role
    · subst he
      simp only [if_true, hr, not_false_eq_true, and_self]
    · simp only [he, if_false, false_and]

theorem addAll_of_closed (h : l.closed = true) (r : Resource) {roles : List Role} (hne : roles ≠ []) :
    l.addAll r roles = .error (.state .policiesGenerated) := by
  cases roles with
  | nil => contradiction
  | cons role rest =>
    rw [addAll, add_of_closed h]
    rfl

theorem addAll_cons_of_ok {new : Bool} {rest roles : List Role} (hadd : l.add role r = .ok (new, l₁))
    (hall : l₁.addAll r rest = .ok (roles, l₂)) :
    l.addAll r (role :: rest) = .ok (if new then role :: roles else roles, l₂) := by
  rw [addAll, hadd]
  change (l₁.addAll r rest >>= _) = _
  rw [hall]
  rfl

/-- An open ledger takes a field for several roles, and tells for which of them it was new. -/
theorem exists_addAll_of_open (h : l.closed = false) (r : Resource) {roles : List Role} (hn : roles.Nodup) :
    ∃ l₁, l.addAll r roles = .ok (roles.filter (r ∉ l.resources ·), l₁) ∧ l₁.closed = false ∧
      ∀ role, l₁.resources role = if role ∈ roles ∧ r ∉ l.resources role then l.resources role ++ [r]
        else l.resources role := by
  induction roles generalizing l with
  | nil => exact ⟨l, rfl, h, fun role => by simp⟩
  | cons role rest ih =>
    obtain ⟨hnew, hrest⟩ := List.nodup_cons.1 hn
    obtain ⟨l₁, hadd, hopen, hfirst⟩ := exists_add_of_open h role r
    obtain ⟨l₂, hall, hopen', hmore⟩ := ih hopen hrest
    -- the roles to come have what they had, since no role comes twice
    have hothers : ∀ role' ∈ rest, l₁.resources role' = l.resources role' := by
      intro role' hmem
      have hne : role' ≠ role := ne_of_mem_of_not_mem hmem hnew
      rw [hfirst role', if_neg fun hboth => hne hboth.1]
    have hsame : rest.filter (r ∉ l₁.resources ·) = rest.filter (r ∉ l.resources ·) := by
      apply List.filter_congr
      intro role' hmem
      rw [hothers role' hmem]
    rw [hsame] at hall
    refine ⟨l₂, ?_, hopen', fun role' => ?_⟩
    · rw [addAll_cons_of_ok hadd hall, List.filter_cons]
    · rw [hmore role']
      by_cases hmem : role' ∈ rest
      · rw [hothers role' hmem]
        simp only [hmem, List.mem_cons, or_true]
      · rw [if_neg fun hboth => hmem hboth.1, hfirst role']
        simp only [List.mem_cons, hmem, or_false]

theorem documents_of_closed (h : l.closed = true) (cap : Int) :
    l.documents cap = .error (.state .policiesGenerated) := by
  rw [documents, requireOpen_of_closed h]
  rfl

theorem documents_of_cap_lt (h : l.closed = false) {cap : Int} (hcap : cap < 1) :
    l.documents cap = .error (.value .capBelowOne) := by
  have hpart : partition .auth l.auth cap = .error (.value .capBelowOne) := if_pos hcap
  rw [documents, requireOpen_of_open h, hpart]
  rfl

theorem documents_of_one_le (h : l.closed = false) {cap : Int} (hcap : ¬ cap < 1) :
    l.documents cap = .ok (documentsOf .auth l.auth cap.toNat ++ documentsOf .unauth l.unauth cap.toNat,
      { l with closed := true }) := by
  have hpart : ∀ role rs, partition role rs cap = .ok (documentsOf role rs cap.toNat) :=
    fun _ _ => if_neg hcap
  rw [documents, requireOpen_of_open h, hpart, hpart]
  rfl

end Steps

/-- An open ledger that has been given lists of fields, one for each role. -/
structure Holds (l : Ledger) (given : Role → List Resource) : Prop where
  isOpen : l.closed = false
  resources : ∀ role, l.resources role = (given role).eraseDups

variable {l : Ledger} {given : Role → List Resource}

theorem holds_empty : Holds empty fun _ => [] where
  isOpen := rfl
  resources role := by cases role <;> rfl

theorem Holds.congr {given' : Role → List Resource} (h : Holds l given)
    (hg : ∀ role, (given role).eraseDups = (given' role).eraseDups) : Holds l given' where
  isOpen := h.isOpen
  resources role := (h.resources role).trans (hg role)

theorem nodup_grants (rule : Rule) : rule.grants.Nodup := by
  unfold Rule.grants
  split <;> decide

theorem Holds.not_mem_iff (h : Holds l given) (role : Role) (r : Resource) :
    r ∉ l.resources role ↔ r ∉ given role := by
  rw [h.resources role, List.mem_eraseDups]

theorem Holds.of_resources (h : Holds l given) {l₁ : Ledger} (hopen : l₁.closed = false) (r : Resource)
    (p : Role → Prop) [DecidablePred p]
    (hresources : ∀ role, l₁.resources role =
      if p role ∧ r ∉ l.resources role then l.resources role ++ [r] else l.resources role) :
    Holds l₁ fun role => if p role then given role ++ [r] else given role where
  isOpen := hopen
  resources role := by
    rw [hresources role]
    simp only [h.not_mem_iff]
    rw [h.resources role]
    by_cases hp : p role
    · by_cases hr : r ∈ given role
      · rw [if_neg fun hboth => hboth.2 hr, if_pos hp, eraseDups_concat_of_mem hr]
      · rw [if_pos ⟨hp, hr⟩, if_pos hp, eraseDups_concat, if_neg hr]
    · rw [if_neg fun hboth => hp hboth.1, if_neg hp]

theorem Holds.add (h : Holds l given) (role : Role) (r : Resource) :
    ∃ l₁, l.add role r = .ok (decide (r ∉ given role), l₁) ∧
      Holds l₁ fun role' => if role' = role then given role' ++ [r] else given role' := by
  obtain ⟨l₁, hadd, hopen, hresources⟩ := exists_add_of_open h.isOpen role r
  simp only [h.not_mem_iff role] at hadd
  exact ⟨l₁, hadd, h.of_resources hopen r (· = role) hresources⟩

theorem Holds.grant (h : Holds l given) (rule : Rule) (r : Resource) :
    ∃ l₁, l.grant rule r = .ok (rule.grants.filter (r ∉ given ·), l₁) ∧
      Holds l₁ fun role => if role ∈ rule.grants then given role ++ [r] else given role := by
  obtain ⟨l₁, hall, hopen, hresources⟩ := exists_addAll_of_open h.isOpen r (nodup_grants rule)
  simp only [h.not_mem_iff] at hall
  exact ⟨l₁, hall, h.of_resources hopen r (· ∈ rule.grants) hresources⟩

/-- The documents that are drawn when lists of fields have been given. -/
def drawn (given : Role → List Resource) (cap : Int) : List Document :=
  documentsOf .auth (given .auth).eraseDups cap.toNat ++
    documentsOf .unauth (given .unauth).eraseDups cap.toNat

theorem Holds.documents (h : Holds l given) {cap : Int} (hcap : 1 ≤ cap) :
    l.documents cap = .ok (drawn given cap, { l with closed := true }) := by
  have hauth : l.auth = (given .auth).eraseDups := h.resources .auth
  have hunauth : l.unauth = (given .unauth).eraseDups := h.resources .unauth
  rw [documents_of_one_le h.isOpen (by omega), hauth, hunauth]
  rfl

theorem filter_role_drawn (given : Role → List Resource) (cap : Int) (role : Role) :
    (drawn given cap).filter (·.role = role) = documentsOf role (given role).eraseDups cap.toNat := by
  have hsame : ∀ role rs, (documentsOf role rs cap.toNat).filter (·.role = role) =
      documentsOf role rs cap.toNat := by
    intro role rs
    refine List.filter_eq_self.2 fun doc hdoc => ?_
    rw [role_of_mem_documentsOf hdoc, decide_eq_true rfl]
  have hother : ∀ role role' rs, role ≠ role' →
      (documentsOf role rs cap.toNat).filter (·.role = role') = [] := by
    intro role role' rs hne
    refine List.filter_eq_nil_iff.2 fun doc hdoc => ?_
    rw [role_of_mem_documentsOf hdoc, decide_eq_true_iff]
    exact hne
  rw [drawn, List.filter_append]
  cases role with
  | auth => rw [hsame, hother .unauth .auth _ (by decide), List.append_nil]
  | unauth => rw [hsame, hother .auth .unauth _ (by decide), List.nil_append]

theorem flatMap_resources_drawn (given : Role → List Resource) {cap : Int} (hcap : 1 ≤ cap) (role : Role) :
    ((drawn given cap).filter (·.role = role)).flatMap (·.resources) = (given role).eraseDups := by
  have hpos : 0 < cap.toNat := by omega
  rw [filter_role_drawn]
  exact flatMap_resources_documentsOf role _ hpos

end SchemaAccess.Policy.Ledger
