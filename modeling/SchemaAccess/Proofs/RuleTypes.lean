import SchemaAccess.Proofs.RuleGrammar

namespace SchemaAccess

def Value.IsText (v : Value) : Prop := ∃ s, v = .string s

theorem Value.isText_orElse_iff (v other : Value) :
    (v.orElse other).IsText ↔ if v.isPresent then v.IsText else other.IsText := by
  unfold orElse
  split <;> rfl

namespace Access

open GraphQL (Directive Literal given)

/-- What claims and the owner's field are to be: a text that is not empty. -/
structure IsName (v : Value) : Prop where
  text : v.IsText
  present : v.isPresent = true

/-- A rule conforms to its types: claims and the owner's field are names, groups are texts, the field for
groups is a text if there is one, and a restriction to operations leaves one at least. -/
structure Rule.WellTyped (r : Rule) : Prop where
  ownerField : IsName r.ownerField
  identityClaim : IsName r.identityClaim
  groupClaim : IsName r.groupClaim
  groups : ∀ members, r.groups = some members → ∀ v ∈ members, v.IsText
  groupsField : r.groupsField = .null ∨ r.groupsField.IsText
  operations : r.operations ≠ some []

/-- What every rule that is read has of its types. -/
structure Rule.Present (r : Rule) : Prop where
  ownerField : r.ownerField.isPresent = true
  identityClaim : r.identityClaim.isPresent = true
  groupClaim : r.groupClaim.isPresent = true
  operations : r.operations ≠ some []

/-- A value that has a default is a text, or is replaced by the default. -/
def TextIfPresent (v : Value) : Prop := v.isPresent = true → v.IsText

/-- An object gives texts where its rule has names and groups. An identity field that a claim goes before is
not looked at, and neither is any value that does not count as present. -/
structure GivesTexts (fields : List (String × Literal)) : Prop where
  ownerField : TextIfPresent (given fields "ownerField")
  identityClaim : TextIfPresent (given fields "identityClaim")
  identityField : (given fields "identityClaim").isPresent = false →
    TextIfPresent (given fields "identityField")
  groupClaim : TextIfPresent (given fields "groupClaim")
  groups : ∀ members, given fields "groups" = .list members → ∀ v ∈ members, v.IsText
  groupsField : given fields "groupsField" = .null ∨ (given fields "groupsField").IsText

/-- The objects that directives write for rules: none without `@auth`. -/
inductive AuthObjects (ds : List Directive) : List (List (String × Literal)) → Prop
  | none (h : GraphQL.carries authDirective ds = false) : AuthObjects ds []
  | one {auth : Directive} {l : Literal} {objects : List (List (String × Literal))}
      (hds : GraphQL.directivesNamed authDirective ds = [auth]) (hl : auth.argument? "rules" = some l)
      (hobjects : RuleObjects l objects) : AuthObjects ds objects

theorem exists_authObjects_of_readRules {c : Config} {place : String} {ds : List Directive}
    {rules : List Rule} (h : readRules c place ds = .ok rules) :
    ∃ objects, AuthObjects ds objects ∧ List.Forall₂ (Says c) objects rules := by
  rcases hds : GraphQL.directivesNamed authDirective ds with _ | ⟨auth, _ | ⟨another, more⟩⟩
  · have hc := (GraphQL.directivesNamed_eq_nil_iff _ ds).1 hds
    obtain rfl := Except.ok.inj ((readRules_of_not_carries hc c place).symm.trans h)
    exact ⟨[], .none hc, .nil⟩
  · obtain ⟨l, objects, hl, hobjects, hsays⟩ := exists_says_of_readRules hds h
    exact ⟨objects, .one hds hl hobjects, hsays⟩
  · have hlength : 1 < (GraphQL.directivesNamed authDirective ds).length := by simp [hds]
    rw [readRules_of_repeated hlength] at h
    contradiction

theorem isName_orElse_iff (v : Value) {other : Value} (h : IsName other) :
    IsName (v.orElse other) ↔ TextIfPresent v := by
  constructor
  · intro hname hp
    simpa [hp] using hname.text
  · intro hv
    refine ⟨?_, Value.isPresent_orElse h.present⟩
    rw [Value.isText_orElse_iff]
    split
    · exact hv ‹_›
    · exact h.text

theorem isName_orElse_orElse_iff (v w : Value) {other : Value} (h : IsName other) :
    IsName (v.orElse (w.orElse other)) ↔ TextIfPresent v ∧ (v.isPresent = false → TextIfPresent w) := by
  cases hv : v.isPresent with
  | true =>
    rw [Value.orElse_of_isPresent hv]
    constructor
    · intro hname
      exact ⟨fun _ => hname.text, nofun⟩
    · rintro ⟨htext, -⟩
      exact ⟨htext hv, hv⟩
  | false =>
    have hskip : v.orElse (w.orElse other) = w.orElse other := by simp [Value.orElse, hv]
    rw [hskip, isName_orElse_iff w h]
    simp [TextIfPresent, hv]

theorem Value.Lists.forall_isText_iff {v : Value} {members : List Value} (h : v.Lists members) :
    (∀ m ∈ members, m.IsText) ↔ ∀ items, v = .list items → ∀ m ∈ items, m.IsText := by
  cases h with
  | text s => simp [Value.IsText]
  | items items => simp
  | keys fields =>
    refine iff_of_true (List.forall_mem_map.2 fun f _ => ⟨f.1, rfl⟩) ?_
    intro items hitems
    contradiction

section Said

variable {c : Config} {fields : List (String × Literal)} {r : Rule}

theorem isName_string {s : String} (h : s.isEmpty = false) : IsName (.string s) :=
  ⟨⟨s, rfl⟩, by simp [Value.isPresent, h]⟩

theorem Says.operations_ne_nil (h : Says c fields r) : r.operations ≠ some [] := by
  intro hnil
  exact (h.operations [] hnil).1 rfl

theorem Says.groups_isText_iff (h : Says c fields r) :
    (∀ members, r.groups = some members → ∀ v ∈ members, v.IsText) ↔
      ∀ items, given fields "groups" = .list items → ∀ v ∈ items, v.IsText := by
  cases hgroups : r.groups with
  | none =>
    have hnull := h.groups_none.1 hgroups
    simp [hnull]
  | some members =>
    have hlists := h.groups members hgroups
    simp [← Value.Lists.forall_isText_iff hlists]

theorem Says.present (h : Says c fields r) : r.Present := by
  constructor
  case ownerField =>
    rw [h.ownerField]
    exact Value.isPresent_orElse rfl
  case identityClaim =>
    rw [h.identityClaim]
    exact Value.isPresent_orElse (Value.isPresent_orElse rfl)
  case groupClaim =>
    rw [h.groupClaim]
    exact Value.isPresent_orElse rfl
  case operations => exact h.operations_ne_nil

/-- A rule conforms to its types just if its object gives texts. -/
theorem Says.wellTyped_iff (h : Says c fields r) : r.WellTyped ↔ GivesTexts fields := by
  have howner : IsName r.ownerField ↔ TextIfPresent (given fields "ownerField") := by
    rw [h.ownerField]
    exact isName_orElse_iff _ (isName_string rfl)
  have hclaim : IsName r.identityClaim ↔ TextIfPresent (given fields "identityClaim") ∧
      ((given fields "identityClaim").isPresent = false → TextIfPresent (given fields "identityField")) := by
    rw [h.identityClaim]
    exact isName_orElse_orElse_iff _ _ (isName_string rfl)
  have hgroup : IsName r.groupClaim ↔ TextIfPresent (given fields "groupClaim") := by
    rw [h.groupClaim]
    exact isName_orElse_iff _ (isName_string rfl)
  constructor
  · intro hr
    exact {
      ownerField := howner.1 hr.ownerField
      identityClaim := (hclaim.1 hr.identityClaim).1
      identityField := (hclaim.1 hr.identityClaim).2
      groupClaim := hgroup.1 hr.groupClaim
      groups := h.groups_isText_iff.1 hr.groups
      groupsField := h.groupsField ▸ hr.groupsField }
  · intro hfields
    exact {
      ownerField := howner.2 hfields.ownerField
      identityClaim := hclaim.2 ⟨hfields.identityClaim, hfields.identityField⟩
      groupClaim := hgroup.2 hfields.groupClaim
      groups := h.groups_isText_iff.2 hfields.groups
      groupsField := h.groupsField ▸ hfields.groupsField
      operations := h.operations_ne_nil }

end Said

/-- The rules that are read name some operation if they name any, and have a value that counts as present
for the owner's field and the claims. They conform to their types just if their objects give texts. -/
theorem readRules_wellTyped {c : Config} {place : String} {ds : List Directive} {rules : List Rule}
    (h : readRules c place ds = .ok rules) : ∃ objects, AuthObjects ds objects ∧
      List.Forall₂ (fun fields r => r.Present ∧ (r.WellTyped ↔ GivesTexts fields)) objects rules := by
  obtain ⟨objects, hobjects, hsays⟩ := exists_authObjects_of_readRules h
  exact ⟨objects, hobjects, hsays.imp fun _ _ hr => ⟨hr.present, hr.wellTyped_iff⟩⟩

def userPoolsOnly : Config := ⟨.bare .userPools, [], by decide⟩

/-- One rule with a number for the owner's field, and one with a single group. -/
def numberedOwner : List (String × Literal) := [("allow", .enum "owner"), ("ownerField", .int "5")]

def singleGroup : List (String × Literal) := [("allow", .enum "groups"), ("groups", .enum "Admin")]

def mixedDirectives : List Directive :=
  [⟨"auth", [⟨"rules", .list [.object numberedOwner, .object singleGroup]⟩]⟩]

def mixedRules : List Rule :=
  [{ Rule.bare .owner .userPools with ownerField := .integer 5 },
    { Rule.bare .groups .userPools with groups := some [.string "Admin"] }]

/-- Both rules are read. The first one does not conform to its types, and the second one does. -/
theorem readRules_wellTyped_mixedDirectives :
    readRules userPoolsOnly "Query.a" mixedDirectives = .ok mixedRules ∧
    (∃ objects, AuthObjects mixedDirectives objects ∧
      List.Forall₂ (fun fields r => r.Present ∧ (r.WellTyped ↔ GivesTexts fields)) objects mixedRules) ∧
    mixedRules.map (·.ownerField) = [.integer 5, .string "owner"] ∧
    ¬GivesTexts numberedOwner ∧ GivesTexts singleGroup := by
  have hread : readRules userPoolsOnly "Query.a" mixedDirectives = .ok mixedRules := rfl
  refine ⟨hread, readRules_wellTyped hread, rfl, ?_, ?_⟩
  · intro h
    obtain ⟨s, hs⟩ := h.ownerField rfl
    contradiction
  · constructor
    case ownerField => nofun
    case identityClaim => nofun
    case identityField => intro; nofun
    case groupClaim => nofun
    case groups => nofun
    case groupsField => exact .inl rfl

end Access

end SchemaAccess
