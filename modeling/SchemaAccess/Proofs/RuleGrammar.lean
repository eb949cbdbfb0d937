import Mathlib.Data.List.Nodup
import SchemaAccess.Proofs.WrittenRules

namespace SchemaAccess

/-- A value lists its members. A text stands for itself, and an object for its keys. -/
inductive Value.Lists : Value → List Value → Prop
  | text (s : String) : Lists (.string s) [.string s]
  | items (items : List Value) : Lists (.list items) items
  | keys (fields : Entries Value) : Lists (.object fields) (fields.map fun f => .string f.1)

theorem Value.Lists.ne_null {v : Value} {members : List Value} (h : v.Lists members) : v ≠ .null := by
  cases h <;> nofun

namespace GraphQL

def Directive.argument? (d : Directive) (name : String) : Option Literal :=
  (d.arguments.reverse.find? (·.name = name)).map (·.value)

/-- The plain value that written fields give for a key. It is null if they do not give any. -/
def given (fields : List (String × Literal)) (key : String) : Value :=
  ((fields.reverse.find? (·.1 = key)).map (·.2.value)).getD .null

theorem field_ofWrites_fieldValues (fields : List (String × Literal)) (key : String) :
    Value.field (Entries.ofWrites (fieldValues fields)) key = given fields key := by
  rw [Value.field, Entries.find?_ofWrites, Entries.find?_eq_map, fieldValues_eq_map, ← List.map_reverse,
    List.find?_map, Option.map_map]
  rfl

theorem Directive.field_settings_eq (d : Directive) (name : String) :
    Value.field d.settings name = ((d.argument? name).map Literal.value).getD .null := by
  rw [Value.field, settings, Entries.find?_ofWrites, Entries.find?_eq_map, ← List.map_reverse,
    List.find?_map, Option.map_map, argument?, Option.map_map]
  rfl

theorem Literal.value_kinds (l : Literal) : l.value.members? = none ∨ (∃ s, l.value = .string s) ∨
    (∃ items, l = .list items) ∨ ∃ fields, l = .object fields := by
  cases l with
  | int text =>
    left
    rw [value, intValue]
    split
    · split <;> rfl
    · rfl
  | float text =>
    left
    rw [value, floatValue]
    split <;> rfl
  | string text block => exact .inr (.inl ⟨text, rfl⟩)
  | enum name => exact .inr (.inl ⟨name, rfl⟩)
  | list items => exact .inr (.inr (.inl ⟨items, rfl⟩))
  | object fields => exact .inr (.inr (.inr ⟨fields, rfl⟩))
  | _ => exact .inl rfl

theorem Literal.value_ne_broken (l : Literal) (glyphs : List Text.Glyph) : l.value ≠ .broken glyphs := by
  intro h
  obtain hnone | ⟨s, hs⟩ | ⟨items, rfl⟩ | ⟨fields, rfl⟩ := l.value_kinds
  · simp [h, Value.members?] at hnone
  · simp [h] at hs
  · simp [value] at h
  · simp [value] at h

theorem given_ne_broken (fields : List (String × Literal)) (key : String) (glyphs : List Text.Glyph) :
    given fields key ≠ .broken glyphs := by
  unfold given
  cases fields.reverse.find? (·.1 = key) with
  | none => nofun
  | some f => exact f.2.value_ne_broken glyphs

end GraphQL

namespace Access

open GraphQL (Directive Literal given)

/-- Rules are written as one object, or as a list of objects that is not empty. -/
inductive RuleObjects : Literal → List (List (String × Literal)) → Prop
  | one (fields : List (String × Literal)) : RuleObjects (.object fields) [fields]
  | several {objects : List (List (String × Literal))} (h : objects ≠ []) :
      RuleObjects (.list (objects.map .object)) objects

/-- The fields of an object that is a rule: the strategy is known; so is the provider, and so are the
operations, unless they are left out; and groups are listed unless they are. Nothing else is asked. -/
structure IsRule (fields : List (String × Literal)) : Prop where
  allow : ∃ strategy : Strategy, given fields "allow" = .string (Vocabulary.word strategy)
  provider : given fields "provider" = .null ∨
    ∃ p : Provider, given fields "provider" = .string (Vocabulary.word p)
  operations : given fields "operations" = .null ∨ ∃ ops : List Operation, ops ≠ [] ∧
    (given fields "operations").Lists (ops.map fun op => .string (Vocabulary.word op))
  groups : given fields "groups" = .null ∨ ∃ members, (given fields "groups").Lists members

/-- A rule says what the fields of an object do. -/
structure Says (c : Config) (fields : List (String × Literal)) (r : Rule) : Prop where
  strategy : given fields "allow" = .string (Vocabulary.word r.strategy)
  provider : given fields "provider" = .string (Vocabulary.word r.provider) ∨
    given fields "provider" = .null ∧ c.defaultProvider = r.provider
  operations_none : r.operations = none ↔ given fields "operations" = .null
  /-- The operations are those that are named, each once, and there are some. -/
  operations : ∀ ops, r.operations = some ops → ops ≠ [] ∧ ops.Nodup ∧
    ∃ names, (given fields "operations").Lists names ∧
      ∀ name, name ∈ names ↔ ∃ op ∈ ops, name = .string (Vocabulary.word op)
  ownerField : r.ownerField = (given fields "ownerField").orElse (.string "owner")
  identityClaim : r.identityClaim = (given fields "identityClaim").orElse
    ((given fields "identityField").orElse (.string "cognito:username"))
  groupClaim : r.groupClaim = (given fields "groupClaim").orElse (.string "cognito:groups")
  groups_none : r.groups = none ↔ given fields "groups" = .null
  groups : ∀ members, r.groups = some members → (given fields "groups").Lists members
  groupsField : r.groupsField = given fields "groupsField"

abbrev entryOf (fields : List (String × Literal)) : Entries Value :=
  Entries.ofWrites (GraphQL.fieldValues fields)

theorem membersOf_listed_eq_ok_iff {v : Value} (hv : ∀ glyphs, v ≠ .broken glyphs)
    (members : List Value) : membersOf (listed v) = .ok members ↔ v.Lists members := by
  rw [membersOf_eq_ok_iff]
  constructor
  · intro h
    cases v with
    | broken glyphs => exact absurd rfl (hv glyphs)
    | string s =>
      obtain rfl := Option.some.inj h
      exact .text s
    | list items =>
      obtain rfl := Option.some.inj h
      exact .items items
    | object fields =>
      obtain rfl := Option.some.inj h
      exact .keys fields
    | _ => contradiction
  · rintro (⟨s⟩ | ⟨items⟩ | ⟨fields⟩) <;> rfl

/-- A single text is listed even if it is empty. Otherwise what lists nothing is not present. -/
theorem isPresent_listed_iff {v : Value} {members : List Value} (h : v.Lists members) :
    (listed v).isPresent = true ↔ members ≠ [] := by
  cases h <;> simp [listed, Value.isPresent]

theorem mapM_ruleWord_eq_ok_iff (argument place : String) (names : List Value) (ops : List Operation) :
    names.mapM (ruleWord Operation argument place) = .ok ops ↔
      names = ops.map fun op => .string (Vocabulary.word op) := by
  rw [mapM_eq_ok_iff, ← List.forall₂_eq_eq_eq, List.forall₂_map_right_iff]
  simp only [ruleWord_eq_ok_iff, ofValue?_operation_eq_some_iff]

section Fields

variable (fields : List (String × Literal))

theorem readProvider_entryOf (c : Config) (place : String) (p : Provider) :
    readProvider c place (entryOf fields) = .ok p ↔
      given fields "provider" = .string (Vocabulary.word p) ∨
        given fields "provider" = .null ∧ c.defaultProvider = p := by
  rw [readProvider_eq_ok_iff, writtenProvider?_eq_some_iff, GraphQL.field_ofWrites_fieldValues]

theorem readOperations_entryOf (place : String) (operations : Option (List Operation)) :
    readOperations place (entryOf fields) = .ok operations ↔
      given fields "operations" = .null ∧ operations = none ∨
      ∃ ops : List Operation, ops ≠ [] ∧
        (given fields "operations").Lists (ops.map fun op => .string (Vocabulary.word op)) ∧
          operations = some (operationSet ops) := by
  have hlists := membersOf_listed_eq_ok_iff (GraphQL.given_ne_broken fields "operations")
  unfold readOperations
  rw [GraphQL.field_ofWrites_fieldValues]
  generalize given fields "operations" = v at hlists
  split
  · -- null lists nothing
    constructor
    · intro h
      exact .inl ⟨rfl, (Except.ok.inj h).symm⟩
    · rintro (⟨-, rfl⟩ | ⟨ops, -, hv, -⟩)
      · rfl
      · exact absurd rfl (Value.Lists.ne_null hv)
  · rename_i hne
    split
    · rename_i hp
      simp only [bind_eq_ok_iff, hlists, mapM_ruleWord_eq_ok_iff]
      constructor
      · rintro ⟨_, hv, ops, rfl, h⟩
        have hops := (isPresent_listed_iff hv).1 hp
        exact .inr ⟨ops, by simpa using hops, hv, (Except.ok.inj h).symm⟩
      · rintro (⟨hnull, -⟩ | ⟨ops, -, hv, rfl⟩)
        · exact absurd hnull hne
        · exact ⟨_, hv, ops, rfl, rfl⟩
    · rename_i hp
      refine iff_of_false (throw_ne_ok _ operations) ?_
      rintro (⟨hnull, -⟩ | ⟨ops, hops, hv, -⟩)
      · exact hne hnull
      · exact hp ((isPresent_listed_iff hv).2 (by simpa using hops))

theorem readGroups_entryOf (groups : Option (List Value)) :
    readGroups (entryOf fields) = .ok groups ↔ given fields "groups" = .null ∧ groups = none ∨
      ∃ members, (given fields "groups").Lists members ∧ groups = some members := by
  have hlists := membersOf_listed_eq_ok_iff (GraphQL.given_ne_broken fields "groups")
  unfold readGroups
  rw [GraphQL.field_ofWrites_fieldValues]
  generalize given fields "groups" = v at hlists
  split
  · constructor
    · intro h
      exact .inl ⟨rfl, (Except.ok.inj h).symm⟩
    · rintro (⟨-, rfl⟩ | ⟨members, hv, -⟩)
      · rfl
      · exact absurd rfl (Value.Lists.ne_null hv)
  · rename_i hne
    rw [map_eq_pure_bind, bind_eq_ok_iff]
    simp only [hlists]
    constructor
    · rintro ⟨members, hv, h⟩
      exact .inr ⟨members, hv, (Except.ok.inj h).symm⟩
    · rintro (⟨hnull, -⟩ | ⟨members, hv, rfl⟩)
      · exact absurd hnull hne
      · exact ⟨members, hv, rfl⟩

/-- What it takes to read a rule, part by part. -/
theorem readRule_eq_ok_iff (c : Config) (place : String) (r : Rule) :
    readRule c place (Literal.object fields).value = .ok r ↔
      ∃ (strategy : Strategy) (p : Provider) (operations : Option (List Operation))
        (groups : Option (List Value)),
        given fields "allow" = .string (Vocabulary.word strategy) ∧
        readProvider c place (entryOf fields) = .ok p ∧
        readOperations place (entryOf fields) = .ok operations ∧ readGroups (entryOf fields) = .ok groups ∧
        r = {
          strategy, provider := p, operations, groups
          ownerField := (given fields "ownerField").orElse defaultOwnerField
          identityClaim := (given fields "identityClaim").orElse
            ((given fields "identityField").orElse defaultIdentityClaim)
          groupClaim := (given fields "groupClaim").orElse defaultGroupClaim
          groupsField := given fields "groupsField" } := by
  simp only [GraphQL.Literal.value, readRule, GraphQL.field_ofWrites_fieldValues]
  split
  · rename_i hnull
    refine iff_of_false (throw_ne_ok _ r) ?_
    rintro ⟨strategy, -, -, -, hallow, -⟩
    rw [hallow] at hnull
    contradiction
  · simp only [bind_eq_ok_iff, ruleWord_eq_ok_iff, ofValue?_strategy_eq_some_iff]
    constructor
    · rintro ⟨strategy, hallow, p, hp, operations, hoperations, groups, hgroups, h⟩
      exact ⟨strategy, p, operations, groups, hallow, hp, hoperations, hgroups, (Except.ok.inj h).symm⟩
    · rintro ⟨strategy, p, operations, groups, hallow, hp, hoperations, hgroups, rfl⟩
      exact ⟨strategy, hallow, p, hp, operations, hoperations, groups, hgroups, rfl⟩

theorem exists_readProvider_iff (c : Config) (place : String) :
    (∃ p, readProvider c place (entryOf fields) = .ok p) ↔ given fields "provider" = .null ∨
      ∃ p : Provider, given fields "provider" = .string (Vocabulary.word p) := by
  simp only [readProvider_entryOf, exists_or, exists_and_left, exists_eq', and_true, or_comm]

theorem exists_readOperations_iff (place : String) :
    (∃ operations, readOperations place (entryOf fields) = .ok operations) ↔
      given fields "operations" = .null ∨ ∃ ops : List Operation, ops ≠ [] ∧
        (given fields "operations").Lists (ops.map fun op => .string (Vocabulary.word op)) := by
  simp only [readOperations_entryOf]
  constructor
  · rintro ⟨operations, ⟨hnull, -⟩ | ⟨ops, hne, hlists, -⟩⟩
    · exact .inl hnull
    · exact .inr ⟨ops, hne, hlists⟩
  · rintro (hnull | ⟨ops, hne, hlists⟩)
    · exact ⟨none, .inl ⟨hnull, rfl⟩⟩
    · exact ⟨some (operationSet ops), .inr ⟨ops, hne, hlists, rfl⟩⟩

theorem exists_readGroups_iff : (∃ groups, readGroups (entryOf fields) = .ok groups) ↔
    given fields "groups" = .null ∨ ∃ members, (given fields "groups").Lists members := by
  simp only [readGroups_entryOf]
  constructor
  · rintro ⟨groups, ⟨hnull, -⟩ | ⟨members, hlists, -⟩⟩
    · exact .inl hnull
    · exact .inr ⟨members, hlists⟩
  · rintro (hnull | ⟨members, hlists⟩)
    · exact ⟨none, .inl ⟨hnull, rfl⟩⟩
    · exact ⟨some members, .inr ⟨members, hlists, rfl⟩⟩

theorem exists_readRule_iff (c : Config) (place : String) :
    (∃ r, readRule c place (Literal.object fields).value = .ok r) ↔ IsRule fields := by
  simp only [readRule_eq_ok_iff]
  constructor
  · rintro ⟨_, strategy, p, operations, groups, hallow, hp, hoperations, hgroups, -⟩
    exact {
      allow := ⟨strategy, hallow⟩
      provider := (exists_readProvider_iff fields c place).1 ⟨p, hp⟩
      operations := (exists_readOperations_iff fields place).1 ⟨operations, hoperations⟩
      groups := (exists_readGroups_iff fields).1 ⟨groups, hgroups⟩ }
  · intro h
    obtain ⟨strategy, hallow⟩ := h.allow
    obtain ⟨p, hp⟩ := (exists_readProvider_iff fields c place).2 h.provider
    obtain ⟨operations, hoperations⟩ := (exists_readOperations_iff fields place).2 h.operations
    obtain ⟨groups, hgroups⟩ := (exists_readGroups_iff fields).2 h.groups
    exact ⟨_, strategy, p, operations, groups, hallow, hp, hoperations, hgroups, rfl⟩

theorem mem_names_iff (ops : List Operation) (name : Value) :
    name ∈ ops.map (fun op => Value.string (Vocabulary.word op)) ↔
      ∃ op ∈ operationSet ops, name = .string (Vocabulary.word op) := by
  simp only [List.mem_map, mem_operationSet, eq_comm]

theorem operationSet_ne_nil {ops : List Operation} (h : ops ≠ []) : operationSet ops ≠ [] := by
  obtain ⟨op, hop⟩ := List.exists_mem_of_ne_nil ops h
  exact List.ne_nil_of_mem ((mem_operationSet op ops).2 hop)

theorem says_of_readRule {c : Config} {place : String} {r : Rule}
    (h : readRule c place (Literal.object fields).value = .ok r) : Says c fields r := by
  obtain ⟨strategy, p, operations, groups, hallow, hp, hoperations, hgroups, rfl⟩ :=
    (readRule_eq_ok_iff fields c place r).1 h
  rw [readOperations_entryOf] at hoperations
  rw [readGroups_entryOf] at hgroups
  constructor
  case strategy => exact hallow
  case provider => exact (readProvider_entryOf fields c place p).1 hp
  case operations_none =>
    obtain ⟨hnull, rfl⟩ | ⟨ops, -, hlists, rfl⟩ := hoperations
    · simp [hnull]
    · simp [hlists.ne_null]
  case operations =>
    intro ops hops
    obtain ⟨-, rfl⟩ | ⟨named, hne, hlists, rfl⟩ := hoperations
    · contradiction
    · obtain rfl := Option.some.inj hops
      have hnodup : (operationSet named).Nodup := List.Nodup.filter _ (by decide)
      exact ⟨operationSet_ne_nil hne, hnodup, _, hlists, mem_names_iff named⟩
  case ownerField => rfl
  case identityClaim => rfl
  case groupClaim => rfl
  case groups_none =>
    obtain ⟨hnull, rfl⟩ | ⟨members, hlists, rfl⟩ := hgroups
    · simp [hnull]
    · simp [hlists.ne_null]
  case groups =>
    intro members hmembers
    obtain ⟨-, rfl⟩ | ⟨listed, hlists, rfl⟩ := hgroups
    · contradiction
    · obtain rfl := Option.some.inj hmembers
      exact hlists
  case groupsField => rfl

end Fields

theorem ruleValues_of_ruleObjects {l : Literal} {objects : List (List (String × Literal))}
    (h : RuleObjects l objects) :
    ruleValues l.value = .ok (objects.map fun fields => (Literal.object fields).value) := by
  cases h with
  | one fields => rfl
  | several hne =>
    obtain ⟨first, rest, rfl⟩ := List.exists_cons_of_ne_nil hne
    rw [GraphQL.Literal.value, GraphQL.literalValues_eq_map, List.map_map]
    rfl

theorem exists_objects_of_values {items : List Literal}
    (h : ∀ l ∈ items, (l.value.object?).isSome = true) :
    ∃ objects : List (List (String × Literal)), items = objects.map .object := by
  induction items with
  | nil => exact ⟨[], rfl⟩
  | cons l items ih =>
    rw [List.forall_mem_cons] at h
    obtain ⟨objects, rfl⟩ := ih h.2
    obtain hnone | ⟨s, hs⟩ | ⟨more, rfl⟩ | ⟨fields, rfl⟩ := l.value_kinds
    · cases hv : l.value <;> simp [hv, Value.object?, Value.members?] at h hnone
    · simp [hs, Value.object?] at h
    · simp [GraphQL.Literal.value, Value.object?] at h
    · exact ⟨fields :: objects, rfl⟩

theorem members?_of_ruleValues {v : Value} {values : List Value} (hv : v.object? = none)
    (h : ruleValues v = .ok values) : v.isPresent = true ∧ v.members? = some values := by
  unfold ruleValues at h
  split at h
  · contradiction
  · split at h
    · exact ⟨‹_›, (membersOf_eq_ok_iff v values).1 h⟩
    · exact absurd h (throw_ne_ok _ values)

/-- Values that are all objects have been written as such. A text has characters instead. -/
theorem exists_ruleObjects_of_ruleValues {l : Literal} {values : List Value}
    (h : ruleValues l.value = .ok values) (hall : ∀ v ∈ values, (v.object?).isSome = true) :
    ∃ objects, RuleObjects l objects := by
  obtain hnone | ⟨s, hs⟩ | ⟨items, rfl⟩ | ⟨fields, rfl⟩ := l.value_kinds
  · have hv : l.value.object? = none := by
      cases hv : l.value <;> simp [hv, Value.object?, Value.members?] at hnone ⊢
    obtain ⟨-, hmembers⟩ := members?_of_ruleValues hv h
    rw [hnone] at hmembers
    contradiction
  · rw [hs] at h
    obtain ⟨hp, hmembers⟩ := members?_of_ruleValues rfl h
    obtain rfl := Option.some.inj hmembers
    have hnil : s.toList = [] := by
      rw [List.eq_nil_iff_forall_not_mem]
      intro c hc
      have hobject := hall _ (List.mem_map_of_mem hc)
      contradiction
    simp_all [Value.isPresent]
  · obtain ⟨hp, hmembers⟩ := members?_of_ruleValues rfl h
    rw [GraphQL.Literal.value, GraphQL.literalValues_eq_map] at hp hmembers
    obtain rfl := Option.some.inj hmembers
    obtain ⟨objects, rfl⟩ := exists_objects_of_values (List.forall_mem_map.1 hall)
    refine ⟨objects, .several ?_⟩
    rintro rfl
    contradiction
  · exact ⟨[fields], .one fields⟩

theorem RuleObjects.mapM_readRule {l : Literal} {objects : List (List (String × Literal))}
    (h : RuleObjects l objects) (c : Config) (place : String) :
    (ruleValues l.value >>= List.mapM (readRule c place)) =
      objects.mapM fun fields => readRule c place (Literal.object fields).value := by
  rw [ruleValues_of_ruleObjects h]
  exact List.mapM_map

theorem exists_ruleObjects_of_mapM {c : Config} {place : String} {l : Literal} {rules : List Rule}
    (h : (ruleValues l.value >>= List.mapM (readRule c place)) = .ok rules) :
    ∃ objects, RuleObjects l objects := by
  obtain ⟨values, hvalues, hrules⟩ := (bind_eq_ok_iff _ _ rules).1 h
  apply exists_ruleObjects_of_ruleValues hvalues
  intro v hv
  obtain ⟨r, hr⟩ := exists_ok_of_mapM hrules hv
  obtain ⟨entry, hentry, -⟩ := reads_of_readRule hr
  rw [hentry]
  rfl

/-- What directives come to is read off the one `@auth` among them: it gives rules by the grammar, or none. -/
structure ReadByGrammar (c : Config) (place : String) (ds : List Directive) : Prop where
  without : GraphQL.carries authDirective ds = false → readRules c place ds = .ok []
  repeated : 1 < (GraphQL.directivesNamed authDirective ds).length →
    readRules c place ds = .error (.rule (.repeatedAuth place))
  accepted_iff : ∀ auth, GraphQL.directivesNamed authDirective ds = [auth] →
    ((∃ rules, readRules c place ds = .ok rules) ↔ ∃ l objects, auth.argument? "rules" = some l ∧
      RuleObjects l objects ∧ ∀ fields ∈ objects, IsRule fields)
  /-- The rules are those of the objects, one by one. -/
  reads : ∀ auth, GraphQL.directivesNamed authDirective ds = [auth] →
    ∀ rules, readRules c place ds = .ok rules → ∃ l objects, auth.argument? "rules" = some l ∧
      RuleObjects l objects ∧ List.Forall₂ (Says c) objects rules

theorem readRules_of_one {ds : List Directive} {auth : Directive}
    (hds : GraphQL.directivesNamed authDirective ds = [auth]) (c : Config) (place : String) :
    readRules c place ds =
      (ruleValues (Value.field auth.settings "rules") >>= List.mapM (readRule c place)) := by
  rw [readRules, hds]

theorem exists_argument?_of_readRules {ds : List Directive} {auth : Directive}
    (hds : GraphQL.directivesNamed authDirective ds = [auth]) {c : Config} {place : String}
    {rules : List Rule} (h : readRules c place ds = .ok rules) :
    ∃ l, auth.argument? "rules" = some l ∧
      (ruleValues l.value >>= List.mapM (readRule c place)) = .ok rules := by
  rw [readRules_of_one hds, GraphQL.Directive.field_settings_eq] at h
  cases harg : auth.argument? "rules" with
  | none =>
    rw [harg] at h
    exact absurd h (throw_ne_ok _ rules)
  | some l =>
    rw [harg] at h
    exact ⟨l, rfl, h⟩

theorem readRules_of_not_carries {ds : List Directive} (h : GraphQL.carries authDirective ds = false)
    (c : Config) (place : String) : readRules c place ds = .ok [] := by
  rw [readRules, (GraphQL.directivesNamed_eq_nil_iff _ ds).2 h]
  rfl

theorem readRules_of_repeated {ds : List Directive}
    (h : 1 < (GraphQL.directivesNamed authDirective ds).length) (c : Config) (place : String) :
    readRules c place ds = .error (.rule (.repeatedAuth place)) := by
  unfold readRules
  split
  · simp_all
  · simp_all
  · rfl

theorem exists_objects_of_readRules {ds : List Directive} {auth : Directive}
    (hds : GraphQL.directivesNamed authDirective ds = [auth]) {c : Config} {place : String}
    {rules : List Rule} (h : readRules c place ds = .ok rules) : ∃ l objects,
      auth.argument? "rules" = some l ∧ RuleObjects l objects ∧
        (objects.mapM fun fields => readRule c place (Literal.object fields).value) = .ok rules := by
  obtain ⟨l, hl, hrules⟩ := exists_argument?_of_readRules hds h
  obtain ⟨objects, hobjects⟩ := exists_ruleObjects_of_mapM hrules
  rw [hobjects.mapM_readRule] at hrules
  exact ⟨l, objects, hl, hobjects, hrules⟩

theorem exists_says_of_readRules {ds : List Directive} {auth : Directive}
    (hds : GraphQL.directivesNamed authDirective ds = [auth]) {c : Config} {place : String}
    {rules : List Rule} (h : readRules c place ds = .ok rules) : ∃ l objects,
      auth.argument? "rules" = some l ∧ RuleObjects l objects ∧ List.Forall₂ (Says c) objects rules := by
  obtain ⟨l, objects, hl, hobjects, hrules⟩ := exists_objects_of_readRules hds h
  have hall := forall₂_of_mapM_eq_ok hrules
  exact ⟨l, objects, hl, hobjects, hall.imp fun fields _ => says_of_readRule fields⟩

theorem exists_readRules_of_objects {ds : List Directive} {auth : Directive}
    (hds : GraphQL.directivesNamed authDirective ds = [auth]) {l : Literal}
    {objects : List (List (String × Literal))} (hl : auth.argument? "rules" = some l)
    (hobjects : RuleObjects l objects) (hall : ∀ fields ∈ objects, IsRule fields) (c : Config)
    (place : String) : ∃ rules, readRules c place ds = .ok rules := by
  obtain ⟨rules, hrules⟩ := exists_mapM_eq_ok_of_forall fun fields hfields =>
    (exists_readRule_iff fields c place).2 (hall fields hfields)
  refine ⟨rules, ?_⟩
  rw [readRules_of_one hds, GraphQL.Directive.field_settings_eq, hl]
  exact (hobjects.mapM_readRule c place).trans hrules

/-- Rules are read by the grammar, whatever node the directives stand on. -/
theorem readRules_grammar (c : Config) (place : String) (ds : List Directive) :
    ReadByGrammar c place ds := by
  constructor
  case without => exact fun h => readRules_of_not_carries h c place
  case repeated => exact fun h => readRules_of_repeated h c place
  case accepted_iff =>
    intro auth hds
    constructor
    · rintro ⟨rules, h⟩
      obtain ⟨l, objects, hl, hobjects, hrules⟩ := exists_objects_of_readRules hds h
      refine ⟨l, objects, hl, hobjects, fun fields hfields => ?_⟩
      exact (exists_readRule_iff fields c place).1 (exists_ok_of_mapM hrules hfields)
    · rintro ⟨l, objects, hl, hobjects, hall⟩
      exact exists_readRules_of_objects hds hl hobjects hall c place
  case reads => exact fun auth hds rules h => exists_says_of_readRules hds h

end Access
end SchemaAccess
