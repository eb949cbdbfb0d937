import SchemaAccess.Pass.Handler
import SchemaAccess.Proofs.GrantLedger
import SchemaAccess.Proofs.PolicyNames

namespace SchemaAccess.Pass

open Access (Role Rule)
open Policy (Resource Document Ledger)

def Session.isBound (s : Session) (r : Resource) : Bool := (s.binding? r.typeName r.fieldName).isSome

/-- Of the fields that wait, those that are bound and whose rules let in a role. -/
def granted (isBound : Resource → Bool) (waiting : List (Resource × List Rule)) (role : Role) :
    List Resource :=
  (waiting.filter fun w => isBound w.1 && w.2.any (role ∈ ·.grants)).map Prod.fst

/-- The template that declares documents, and the roles that they are for. -/
def templateOf (apiId : String) (documents : List Document) : Template where
  parameters := (documents.map fun d => d.role).eraseDups.map fun role =>
    (role.parameter, .object [("Type", .string "String")])
  resources := documents.map fun d => (d.name, d.templateResource apiId)

theorem grantRules_eq_ok {s : Session} {given : Role → List Resource} (h : s.ledger.Holds given)
    (r : Resource) (rules : List Rule) :
    ∃ l, Enforcement.grantRules s r rules = .ok { s with ledger := l } ∧
      l.Holds fun role => if rules.any (role ∈ ·.grants) then given role ++ [r] else given role := by
  induction rules generalizing s given with
  | nil => exact ⟨s.ledger, rfl, by simpa using h⟩
  | cons rule rules ih =>
    obtain ⟨l, hgrant, hl⟩ := h.grant rule r
    obtain ⟨l', hrest, hl'⟩ := ih (s := { s with ledger := l }) hl
    refine ⟨l', ?_, hl'.congr fun role => ?_⟩
    · rw [← hrest, Enforcement.grantRules, List.foldlM_cons, hgrant]
      rfl
    · by_cases hrule : role ∈ rule.grants
      · by_cases hrules : rules.any (role ∈ ·.grants) = true
        · simp only [List.any_cons, hrule, hrules, decide_true, Bool.true_or, if_true]
          exact eraseDups_concat_of_mem (by simp)
        · simp [List.any_cons, hrule, hrules]
      · simp [List.any_cons, hrule]

/-- What the end of a pass does for one field that waits. -/
def grantIfBound (s : Session) (w : Resource × List Rule) : Except Failure Session :=
  if s.isBound w.1 then Enforcement.grantRules s w.1 w.2 else return s

theorem grantIfBound_eq_ok {s : Session} {given : Role → List Resource} (h : s.ledger.Holds given)
    (w : Resource × List Rule) : ∃ l, grantIfBound s w = .ok { s with ledger := l } ∧
      l.Holds fun role => given role ++ granted s.isBound [w] role := by
  unfold grantIfBound
  by_cases hb : s.isBound w.1 = true
  · obtain ⟨l, hgrant, hl⟩ := grantRules_eq_ok h w.1 w.2
    refine ⟨l, by rw [if_pos hb, hgrant], hl.congr fun role => ?_⟩
    by_cases hg : w.2.any (role ∈ ·.grants) = true <;> simp [granted, hb, hg]
  · exact ⟨s.ledger, by rw [if_neg hb]; rfl, by simpa [granted, hb] using h⟩

theorem foldlM_grantIfBound_eq_ok (waiting : List (Resource × List Rule)) {s : Session}
    {given : Role → List Resource} (h : s.ledger.Holds given) :
    ∃ l, waiting.foldlM grantIfBound s = .ok { s with ledger := l } ∧
      l.Holds fun role => given role ++ granted s.isBound waiting role := by
  induction waiting generalizing s given with
  | nil => exact ⟨s.ledger, rfl, by simpa [granted] using h⟩
  | cons w waiting ih =>
    obtain ⟨l, hstep, hl⟩ := grantIfBound_eq_ok h w
    obtain ⟨l', hrest, hl'⟩ := ih (s := { s with ledger := l }) hl
    refine ⟨l', ?_, hl'.congr fun role => ?_⟩
    · rw [List.foldlM_cons, hstep]
      exact hrest
    · have hsplit : granted s.isBound (w :: waiting) role =
          granted s.isBound [w] role ++ granted s.isBound waiting role := by
        simp only [granted, ← List.map_append, ← List.filter_append, List.singleton_append]
      rw [hsplit, ← List.append_assoc]
      rfl

theorem grantPending_eq_ok {s : Session} {given : Role → List Resource} (h : s.ledger.Holds given) :
    ∃ l, Enforcement.grantPending s = .ok { s with ledger := l } ∧
      l.Holds fun role => given role ++ granted s.isBound s.pending role :=
  foldlM_grantIfBound_eq_ok s.pending h

theorem addParameter_templateOf (apiId : String) (before : List Document) (role : Role) :
    (templateOf apiId before).addParameter role.parameter (.object [("Type", .string "String")]) =
      { templateOf apiId before with
        parameters := (before.map (fun d => d.role) ++ [role]).eraseDups.map fun role =>
          (role.parameter, .object [("Type", .string "String")]) } := by
  have hkeys : role.parameter ∈ (templateOf apiId before).parameters.keys ↔
      role ∈ before.map fun d => d.role := by
    have hinj : ∀ role' : Role, role'.parameter = role.parameter ↔ role' = role := by
      intro role'
      cases role <;> cases role' <;> simp [Role.parameter]
    simp only [templateOf, Entries.keys, List.map_map, List.mem_map, List.mem_eraseDups,
      Function.comp_apply, hinj, exists_eq_right]
  -- the parameter is there already if some document before was for the role
  rw [eraseDups_concat]
  unfold Template.addParameter
  cases hf : (templateOf apiId before).parameters.find? role.parameter with
  | none =>
    rw [if_neg (hkeys.not.1 ((Entries.find?_eq_none_iff _ _).1 hf))]
    simp [templateOf]
  | some v =>
    have hmem : role.parameter ∈ (templateOf apiId before).parameters.keys := by
      refine Decidable.not_not.1 fun h => ?_
      rw [(Entries.find?_eq_none_iff _ _).2 h] at hf
      contradiction
    rw [if_pos (hkeys.1 hmem)]
    rfl

theorem declare_eq_ok (e : Enforcement) (s : Session) (before : List Document) (d : Document)
    (hs : s.template = templateOf e.apiId before) (hd : d.name ∉ before.map (·.name)) :
    e.declare s d = .ok { s with template := templateOf e.apiId (before ++ [d]) } := by
  have hfree : (templateOf e.apiId before).resources.find? d.name = none := by
    rw [Entries.find?_eq_none_iff]
    simpa [templateOf, Entries.keys] using hd
  unfold Enforcement.declare Session.addResource Session.addParameter Template.addResource
  rw [hs, addParameter_templateOf]
  simp only [hfree]
  simp [templateOf, pure, Except.pure, bind, Except.bind]

theorem foldlM_declare_eq_ok (e : Enforcement) (before documents : List Document) (s : Session)
    (hs : s.template = templateOf e.apiId before) (hn : ((before ++ documents).map (·.name)).Nodup) :
    documents.foldlM e.declare s = .ok { s with template := templateOf e.apiId (before ++ documents) } := by
  induction documents generalizing before s with
  | nil => rw [List.append_nil, ← hs]; rfl
  | cons d documents ih =>
    have hd : d.name ∉ before.map (·.name) := by
      rw [List.map_append, List.map_cons] at hn
      exact notMem_of_nodup_append_cons hn
    -- what is declared so far moves over to `before`
    have hrest := ih (before ++ [d]) { s with template := templateOf e.apiId (before ++ [d]) } rfl
      (by simpa using hn)
    rw [List.append_assoc, List.singleton_append] at hrest
    rw [List.foldlM_cons, declare_eq_ok e s before d hs hd]
    exact hrest

theorem settle_eq_ok (e : Enforcement) (s : Session) (hl : s.ledger = .empty) (ht : s.template = .empty) :
    ∃ l, e.settle s = .ok { s with
      ledger := l
      template := templateOf e.apiId (Ledger.drawn (granted s.isBound s.pending) e.cap)
      policies := s.policies ++ Ledger.drawn (granted s.isBound s.pending) e.cap } := by
  obtain ⟨l, hpending, hholds⟩ := grantPending_eq_ok (s := s) (hl ▸ Ledger.holds_empty)
  simp only [List.nil_append] at hholds
  refine ⟨{ l with closed := true }, ?_⟩
  have hdeclare := foldlM_declare_eq_ok e [] (Ledger.drawn (granted s.isBound s.pending) e.cap)
    { s with ledger := { l with closed := true } } ht (Policy.nodup_names_documentsOf_append _ _ _)
  unfold Enforcement.settle
  rw [hpending]
  change (l.documents e.cap >>= _) = _
  rw [hholds.documents e.one_le_cap]
  change (List.foldlM e.declare { s with ledger := { l with closed := true } } _ >>= _) = _
  rw [hdeclare]
  rfl

end SchemaAccess.Pass
