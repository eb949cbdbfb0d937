import Mathlib.Logic.Relation
import SchemaAccess.Proofs.RuleFaults
import SchemaAccess.Proofs.RuleGrammar

namespace SchemaAccess

/-- Failures of one class. -/
inductive Failure.Alike : Failure → Failure → Prop
  | same (e : Failure) : Alike e e
  | rule (fault fault' : RuleFault) : Alike (.rule fault) (.rule fault')
  | shape (fault fault' : ShapeFault) : Alike (.shape fault) (.shape fault')

theorem Failure.Alike.symm {e e' : Failure} (h : e.Alike e') : e'.Alike e := by
  cases h with
  | same => exact .same e
  | rule fault fault' => exact .rule fault' fault
  | shape fault fault' => exact .shape fault' fault

theorem Failure.Alike.trans {e e' e'' : Failure} (h : e.Alike e') (h' : e'.Alike e'') : e.Alike e'' := by
  cases h with
  | same => exact h'
  | rule fault =>
    cases h' with
    | same => exact .rule fault _
    | rule _ fault'' => exact .rule fault fault''
  | shape fault =>
    cases h' with
    | same => exact .shape fault _
    | shape _ fault'' => exact .shape fault fault''

/-- The same result, or failures of one class. -/
inductive SameOutcome {α : Type} : Except Failure α → Except Failure α → Prop
  | ok (a : α) : SameOutcome (.ok a) (.ok a)
  | error {e e' : Failure} (h : e.Alike e') : SameOutcome (.error e) (.error e')

namespace SameOutcome

variable {α β : Type} {x y z : Except Failure α}

@[refl] theorem refl (x : Except Failure α) : SameOutcome x x := by
  cases x with
  | ok a => exact .ok a
  | error e => exact .error (.same e)

theorem of_eq (h : x = y) : SameOutcome x y := h ▸ refl x

theorem symm (h : SameOutcome x y) : SameOutcome y x := by
  cases h with
  | ok a => exact .ok a
  | error he => exact .error he.symm

theorem trans (h : SameOutcome x y) (h' : SameOutcome y z) : SameOutcome x z := by
  cases h with
  | ok a => exact h'
  | error he =>
    cases h' with
    | error he' => exact .error (he.trans he')

theorem bind (h : SameOutcome x y) {k k' : α → Except Failure β}
    (hk : ∀ a, SameOutcome (k a) (k' a)) : SameOutcome (x >>= k) (y >>= k') := by
  cases h with
  | ok a => exact hk a
  | error he => exact .error he

theorem mapM_append_cons {f : α → Except Failure β} {a a' : α} (h : SameOutcome (f a) (f a'))
    (before after : List α) :
    SameOutcome ((before ++ a :: after).mapM f) ((before ++ a' :: after).mapM f) := by
  simp only [List.mapM_append, List.mapM_cons]
  refine (refl _).bind fun bs => bind ?_ fun cs => refl _
  exact h.bind fun b => refl _

end SameOutcome

namespace GraphQL

/-- A word is written as an enum value, or as a text. -/
inductive Literal.Word : Literal → String → Prop
  | enum (s : String) : Word (.enum s) s
  | text (s : String) (block : Bool) : Word (.string s block) s

theorem Literal.Word.value_eq {l : Literal} {s : String} (h : l.Word s) : l.value = .string s := by
  cases h <;> rfl

/-- A word is written in the other way, somewhere within a literal. -/
inductive Literal.Rewritten : Literal → Literal → Prop
  | word {l l' : Literal} {s : String} (h : l.Word s) (h' : l'.Word s) : Rewritten l l'
  | item {l l' : Literal} (before after : List Literal) (h : Rewritten l l') :
      Rewritten (.list (before ++ l :: after)) (.list (before ++ l' :: after))
  | member {l l' : Literal} (before after : List (String × Literal)) (key : String)
      (h : Rewritten l l') :
      Rewritten (.object (before ++ (key, l) :: after)) (.object (before ++ (key, l') :: after))

theorem Literal.Rewritten.value_eq {l l' : Literal} (h : l.Rewritten l') : l.value = l'.value := by
  induction h with
  | word h h' => rw [h.value_eq, h'.value_eq]
  | item before after h ih => simp [value, literalValues_eq_map, ih]
  | member before after key h ih => simp [value, fieldValues_eq_map, ih]

section Given

variable (before after : List (String × Literal)) {key : String}

theorem given_append_cons (f : String × Literal) (key : String) : given (before ++ f :: after) key =
    (((after.reverse.find? (·.1 = key)).or
      ((if f.1 = key then some f else none).or (before.reverse.find? (·.1 = key)))).map
        (·.2.value)).getD .null := by
  unfold given
  rw [List.reverse_append, List.reverse_cons, List.append_assoc, List.find?_append, List.find?_append,
    List.find?_singleton]
  simp

theorem given_append (key : String) : given (before ++ after) key =
    (((after.reverse.find? (·.1 = key)).or (before.reverse.find? (·.1 = key))).map
      (·.2.value)).getD .null := by
  unfold given
  rw [List.reverse_append, List.find?_append]

theorem given_drop_of_ne {f : String × Literal} (h : f.1 ≠ key) :
    given (before ++ f :: after) key = given (before ++ after) key := by
  rw [given_append_cons, given_append, if_neg h, Option.none_or]

theorem given_drop_of_mem (f : String × Literal) (h : key ∈ after.map Prod.fst) :
    given (before ++ f :: after) key = given (before ++ after) key := by
  rw [given_append_cons, given_append]
  obtain ⟨g, hg⟩ : ∃ g, after.reverse.find? (·.1 = key) = some g := by
    rw [← Option.isSome_iff_exists, List.find?_isSome]
    simpa using h
  rw [hg, Option.some_or, Option.some_or]

theorem given_last (l : Literal) (h : key ∉ after.map Prod.fst) :
    given (before ++ (key, l) :: after) key = l.value := by
  have hnone : after.reverse.find? (·.1 = key) = none := by
    rw [List.find?_eq_none]
    intro f hf hk
    have hmem := List.mem_map_of_mem (f := Prod.fst) (List.mem_reverse.1 hf)
    exact h (of_decide_eq_true hk ▸ hmem)
  rw [given_append_cons, hnone, if_pos rfl]
  rfl

theorem given_replace (k : String) (l l' : Literal) (key : String) :
    given (before ++ (k, l) :: after) key = given (before ++ (k, l') :: after) key ∨
      key = k ∧ given (before ++ (k, l) :: after) key = l.value ∧
        given (before ++ (k, l') :: after) key = l'.value := by
  by_cases hk : k = key
  · subst hk
    by_cases hafter : k ∈ after.map Prod.fst
    · left
      rw [given_drop_of_mem before after _ hafter, given_drop_of_mem before after _ hafter]
    · right
      exact ⟨rfl, given_last before after l hafter, given_last before after l' hafter⟩
  · left
    rw [given_drop_of_ne before after hk, given_drop_of_ne before after hk]

theorem given_swap {f g : String × Literal} (h : f.1 ≠ g.1) (key : String) :
    given (before ++ f :: g :: after) key = given (before ++ g :: f :: after) key := by
  by_cases hf : f.1 = key
  · have hg : g.1 ≠ key := fun hg => h (hf.trans hg.symm)
    have hleft := given_drop_of_ne (before ++ [f]) after hg
    rw [List.append_assoc, List.append_assoc] at hleft
    exact hleft.trans (given_drop_of_ne before (f :: after) hg).symm
  · have hright := given_drop_of_ne (before ++ [g]) after hf
    rw [List.append_assoc, List.append_assoc] at hright
    exact (given_drop_of_ne before (g :: after) hf).trans hright.symm

theorem given_filter_of_ne (fields : List (String × Literal)) {k : String} (h : key ≠ k) :
    given (fields.filter (·.1 ≠ k)) key = given fields key := by
  unfold given
  rw [← List.filter_reverse, List.find?_filter]
  congr 3
  funext f
  by_cases hf : f.1 = key <;> simp [hf, h]

theorem given_filter_self (fields : List (String × Literal)) (k : String) :
    given (fields.filter (·.1 ≠ k)) k = .null := by
  have hnone : (fields.filter (·.1 ≠ k)).reverse.find? (·.1 = k) = none := by
    simp [List.find?_eq_none]
  rw [given, hnone]
  rfl

end Given

end GraphQL

namespace Access

open GraphQL (Argument Directive Literal given)

def optionalArguments : List String :=
  ["provider", "operations", "ownerField", "identityClaim", "identityField", "groupClaim", "groups",
    "groupsField"]

def ruleArguments : List String := "allow" :: optionalArguments

/-- A step in respelling the object of a rule. -/
inductive FieldStep : List (String × Literal) → List (String × Literal) → Prop
  /-- A single operation or group stands for the list of it. -/
  | single (before after : List (String × Literal)) {key : String}
      (hkey : key = "operations" ∨ key = "groups") {l : Literal} {s : String} (hl : l.Word s) :
      FieldStep (before ++ (key, l) :: after) (before ++ (key, .list [l]) :: after)
  /-- Operations are listed in another order, or another number of times. -/
  | operations (before after : List (String × Literal)) {items items' : List Literal}
      (hitems : ∀ l, l ∈ items ↔ l ∈ items') :
      FieldStep (before ++ ("operations", .list items) :: after)
        (before ++ ("operations", .list items') :: after)
  /-- An optional argument that is null is left out, in all places where it is written. -/
  | leftOut {fields : List (String × Literal)} {key : String} (hkey : key ∈ optionalArguments)
      (hnull : given fields key = .null) : FieldStep fields (fields.filter (·.1 ≠ key))
  | swap (before after : List (String × Literal)) {f g : String × Literal} (h : f.1 ≠ g.1) :
      FieldStep (before ++ f :: g :: after) (before ++ g :: f :: after)
  /-- A field whose key comes again is taken out. -/
  | repeated (before after : List (String × Literal)) {f : String × Literal}
      (h : f.1 ∈ after.map Prod.fst) : FieldStep (before ++ f :: after) (before ++ after)
  /-- A key that is no argument of a rule is taken out. -/
  | foreign (before after : List (String × Literal)) {f : String × Literal} (h : f.1 ∉ ruleArguments) :
      FieldStep (before ++ f :: after) (before ++ after)

/-- A step in respelling what is given for rules. -/
inductive RulesStep : Literal → Literal → Prop
  /-- A single rule stands for the list of it. -/
  | single (fields : List (String × Literal)) : RulesStep (.object fields) (.list [.object fields])
  | sole {fields fields' : List (String × Literal)} (h : FieldStep fields fields') :
      RulesStep (.object fields) (.object fields')
  | item (before after : List Literal) {fields fields' : List (String × Literal)}
      (h : FieldStep fields fields') :
      RulesStep (.list (before ++ .object fields :: after)) (.list (before ++ .object fields' :: after))

/-- A step in respelling the arguments of `@auth`. -/
inductive ArgumentStep : List Argument → List Argument → Prop
  | rules (before after : List Argument) {l l' : Literal} (h : RulesStep l l') :
      ArgumentStep (before ++ ⟨"rules", l⟩ :: after) (before ++ ⟨"rules", l'⟩ :: after)
  /-- A word is written in the other way, wherever it stands. -/
  | rewritten (before after : List Argument) (name : String) {l l' : Literal} (h : l.Rewritten l') :
      ArgumentStep (before ++ ⟨name, l⟩ :: after) (before ++ ⟨name, l'⟩ :: after)
  /-- An argument that is not looked at is taken out. -/
  | foreign (before after : List Argument) {a : Argument} (h : a.name ≠ "rules") :
      ArgumentStep (before ++ a :: after) (before ++ after)

/-- A step in respelling an `@auth` among the directives of a node. -/
inductive AuthStep : List Directive → List Directive → Prop
  | step (before after : List Directive) {arguments arguments' : List Argument}
      (h : ArgumentStep arguments arguments') :
      AuthStep (before ++ ⟨authDirective, arguments⟩ :: after)
        (before ++ ⟨authDirective, arguments'⟩ :: after)

section Lists

variable {place : String} {entry entry' : Entries Value}

theorem readOperations_congr (h : Value.field entry "operations" = Value.field entry' "operations") :
    readOperations place entry = readOperations place entry' := by
  unfold readOperations
  rw [h]

theorem readOperations_single {s : String} (h : Value.field entry "operations" = .string s)
    (h' : Value.field entry' "operations" = .list [.string s]) :
    readOperations place entry = readOperations place entry' := by
  unfold readOperations
  rw [h, h']
  rfl

theorem readGroups_congr (h : Value.field entry "groups" = Value.field entry' "groups") :
    readGroups entry = readGroups entry' := by
  unfold readGroups
  rw [h]

theorem readGroups_single {s : String} (h : Value.field entry "groups" = .string s)
    (h' : Value.field entry' "groups" = .list [.string s]) : readGroups entry = readGroups entry' := by
  unfold readGroups
  rw [h, h']
  rfl

theorem ruleWord_error {α : Type} [Vocabulary α] {argument : String} {v : Value} {e : Failure}
    (h : ruleWord α argument place v = .error e) : ∃ fault, e = .rule fault := by
  unfold ruleWord at h
  split at h
  · contradiction
  · exact ⟨_, (Except.error.inj h).symm⟩

theorem mapM_ruleWord_error {α : Type} [Vocabulary α] {argument : String} {names : List Value}
    {e : Failure} (h : names.mapM (ruleWord α argument place) = .error e) : ∃ fault, e = .rule fault := by
  induction names with
  | nil => contradiction
  | cons name names ih =>
    rw [List.mapM_cons] at h
    cases hname : ruleWord α argument place name with
    | error e' =>
      rw [hname] at h
      obtain rfl := Except.error.inj h
      exact ruleWord_error hname
    | ok a =>
      rw [hname] at h
      cases hnames : names.mapM (ruleWord α argument place) with
      | error e' =>
        rw [hnames] at h
        obtain rfl := Except.error.inj h
        exact ih hnames
      | ok as =>
        rw [hnames] at h
        contradiction

theorem operationSet_congr {ops ops' : List Operation} (h : ∀ op, op ∈ ops ↔ op ∈ ops') :
    operationSet ops = operationSet ops' := by
  simp only [operationSet, h]

theorem mem_iff_of_words {names names' : List Value} {ops ops' : List Operation}
    (hmem : ∀ name, name ∈ names ↔ name ∈ names')
    (h : names = ops.map fun op => .string (Vocabulary.word op))
    (h' : names' = ops'.map fun op => .string (Vocabulary.word op)) (op : Operation) :
    op ∈ ops ↔ op ∈ ops' := by
  have hinj : Function.Injective fun op : Operation => Value.string (Vocabulary.word op) := by
    intro op op' heq
    have hop := (ofValue?_operation_eq_some_iff _ op).2 rfl
    have hop' := (ofValue?_operation_eq_some_iff _ op').2 heq
    exact Option.some.inj (hop.symm.trans hop')
  have hname := hmem (.string (Vocabulary.word op))
  subst h h'
  rwa [List.mem_map_of_injective hinj, List.mem_map_of_injective hinj] at hname

theorem exists_operations_of_subset {names names' : List Value} (hsub : names' ⊆ names)
    {ops : List Operation} (h : names.mapM (ruleWord Operation "operations" place) = .ok ops) :
    ∃ ops', names'.mapM (ruleWord Operation "operations" place) = .ok ops' :=
  exists_mapM_eq_ok_of_forall fun _ hname => exists_ok_of_mapM h (hsub hname)

theorem mapM_operations_sameMembers {names names' : List Value}
    (hmem : ∀ name, name ∈ names ↔ name ∈ names') :
    SameOutcome (operationSet <$> names.mapM (ruleWord Operation "operations" place))
      (operationSet <$> names'.mapM (ruleWord Operation "operations" place)) := by
  cases h : names.mapM (ruleWord Operation "operations" place) with
  | ok ops =>
    obtain ⟨ops', h'⟩ := exists_operations_of_subset (fun name => (hmem name).2) h
    rw [h']
    rw [mapM_ruleWord_eq_ok_iff] at h h'
    have hset := operationSet_congr (mem_iff_of_words hmem h h')
    exact .of_eq (congrArg Except.ok hset)
  | error e =>
    cases h' : names'.mapM (ruleWord Operation "operations" place) with
    | ok ops' =>
      obtain ⟨ops, hops⟩ := exists_operations_of_subset (fun name => (hmem name).1) h'
      rw [h] at hops
      contradiction
    | error e' =>
      obtain ⟨fault, rfl⟩ := mapM_ruleWord_error h
      obtain ⟨fault', rfl⟩ := mapM_ruleWord_error h'
      exact .error (.rule fault fault')

theorem readOperations_of_list {items : List Value} (h : Value.field entry "operations" = .list items) :
    readOperations place entry = if items.isEmpty then throw (.rule (.operationsEmpty place)) else
      some <$> operationSet <$> items.mapM (ruleWord Operation "operations" place) := by
  unfold readOperations
  rw [h]
  cases items with
  | nil => rfl
  | cons v items =>
    change ((v :: items).mapM (ruleWord Operation "operations" place) >>= fun ops =>
      pure (some (operationSet ops))) = _
    cases (v :: items).mapM (ruleWord Operation "operations" place) <;> rfl

theorem readOperations_sameMembers {items items' : List Value} (hmem : ∀ v, v ∈ items ↔ v ∈ items')
    (h : Value.field entry "operations" = .list items)
    (h' : Value.field entry' "operations" = .list items') :
    SameOutcome (readOperations place entry) (readOperations place entry') := by
  rw [readOperations_of_list h, readOperations_of_list h']
  have hempty : items.isEmpty = items'.isEmpty := by
    rw [Bool.eq_iff_iff]
    simp only [List.isEmpty_iff, List.eq_nil_iff_forall_not_mem, hmem]
  rw [hempty]
  split
  · exact .refl _
  · exact (mapM_operations_sameMembers hmem).bind fun ops => .refl _

end Lists

/-- Objects from which the same rule is read, or which fail to be rules in the same way. -/
structure SameRule (fields fields' : List (String × Literal)) : Prop where
  given_eq : ∀ key ∈ ruleArguments, key ≠ "operations" → key ≠ "groups" →
    given fields key = given fields' key
  operations : ∀ place,
    SameOutcome (readOperations place (entryOf fields)) (readOperations place (entryOf fields'))
  groups : SameOutcome (readGroups (entryOf fields)) (readGroups (entryOf fields'))

theorem SameRule.of_given {fields fields' : List (String × Literal)}
    (h : ∀ key ∈ ruleArguments, given fields key = given fields' key) : SameRule fields fields' := by
  constructor
  case given_eq => exact fun key hkey _ _ => h key hkey
  case operations =>
    intro place
    refine .of_eq (readOperations_congr ?_)
    rw [GraphQL.field_ofWrites_fieldValues, GraphQL.field_ofWrites_fieldValues]
    exact h "operations" (by decide)
  case groups =>
    refine .of_eq (readGroups_congr ?_)
    rw [GraphQL.field_ofWrites_fieldValues, GraphQL.field_ofWrites_fieldValues]
    exact h "groups" (by decide)

/-- Fields of which one is written anew under its key give the same for every key, or the old and the new
value for this one. -/
theorem SameRule.of_replace (before after : List (String × Literal)) {key : String} {l l' : Literal}
    (hkey : key = "operations" ∨ key = "groups")
    (hoperations : ∀ place, ∀ {entry entry' : Entries Value}, key = "operations" →
      Value.field entry key = l.value → Value.field entry' key = l'.value →
        SameOutcome (readOperations place entry) (readOperations place entry'))
    (hgroups : ∀ {entry entry' : Entries Value}, key = "groups" →
      Value.field entry key = l.value → Value.field entry' key = l'.value →
        SameOutcome (readGroups entry) (readGroups entry')) :
    SameRule (before ++ (key, l) :: after) (before ++ (key, l') :: after) := by
  have hreplace := GraphQL.given_replace before after key l l'
  constructor
  case given_eq =>
    intro k _ hkoperations hkgroups
    obtain h | ⟨rfl, -, -⟩ := hreplace k
    · exact h
    · exact absurd hkey (by simp [hkoperations, hkgroups])
  case operations =>
    intro place
    simp only [← GraphQL.field_ofWrites_fieldValues] at hreplace
    obtain h | ⟨hk, h, h'⟩ := hreplace "operations"
    · exact .of_eq (readOperations_congr h)
    · subst hk
      exact hoperations place rfl h h'
  case groups =>
    simp only [← GraphQL.field_ofWrites_fieldValues] at hreplace
    obtain h | ⟨hk, h, h'⟩ := hreplace "groups"
    · exact .of_eq (readGroups_congr h)
    · subst hk
      exact hgroups rfl h h'

theorem FieldStep.sameRule {fields fields' : List (String × Literal)} (h : FieldStep fields fields') :
    SameRule fields fields' := by
  cases h with
  | @single before after key hkey l s hl =>
    have hlist : (Literal.list [l]).value = .list [.string s] := by
      rw [GraphQL.Literal.value, GraphQL.literalValues_eq_map, List.map_singleton, hl.value_eq]
    apply SameRule.of_replace before after hkey
    · rintro place entry entry' rfl h h'
      exact .of_eq (readOperations_single (h.trans hl.value_eq) (h'.trans hlist))
    · rintro entry entry' rfl h h'
      exact .of_eq (readGroups_single (h.trans hl.value_eq) (h'.trans hlist))
  | operations before after hitems =>
    apply SameRule.of_replace before after (.inl rfl)
    · rintro place entry entry' - h h'
      rw [GraphQL.Literal.value, GraphQL.literalValues_eq_map] at h h'
      refine readOperations_sameMembers (fun v => ?_) h h'
      simp only [List.mem_map, hitems]
    · intro entry entry' hgroups
      contradiction
  | @leftOut _ k _ hnull =>
    refine .of_given fun key _ => ?_
    by_cases hk : key = k
    · rw [hk, hnull, GraphQL.given_filter_self]
    · exact (GraphQL.given_filter_of_ne fields hk).symm
  | swap before after h => exact .of_given fun key _ => GraphQL.given_swap before after h key
  | @repeated before after f h =>
    refine .of_given fun key _ => ?_
    by_cases hk : f.1 = key
    · exact GraphQL.given_drop_of_mem before after f (hk ▸ h)
    · exact GraphQL.given_drop_of_ne before after hk
  | foreign before after h =>
    refine .of_given fun key hkey => GraphQL.given_drop_of_ne before after ?_
    rintro rfl
    contradiction

section Outcomes

variable (c : Config) (place : String)

theorem SameRule.readRule {fields fields' : List (String × Literal)} (h : SameRule fields fields') :
    SameOutcome (readRule c place (Literal.object fields).value)
      (Access.readRule c place (Literal.object fields').value) := by
  have hgiven : ∀ key ∈ ruleArguments, key ≠ "operations" → key ≠ "groups" →
      Value.field (entryOf fields) key = Value.field (entryOf fields') key := by
    simpa only [GraphQL.field_ofWrites_fieldValues] using h.given_eq
  have hprovider : readProvider c place (entryOf fields) = readProvider c place (entryOf fields') := by
    unfold readProvider
    rw [hgiven "provider" (by decide) (by decide) (by decide)]
  simp only [GraphQL.Literal.value, Access.readRule]
  rw [hprovider, hgiven "allow" (by decide) (by decide) (by decide),
    hgiven "ownerField" (by decide) (by decide) (by decide),
    hgiven "identityClaim" (by decide) (by decide) (by decide),
    hgiven "identityField" (by decide) (by decide) (by decide),
    hgiven "groupClaim" (by decide) (by decide) (by decide),
    hgiven "groupsField" (by decide) (by decide) (by decide)]
  split
  · exact .refl _
  · refine (SameOutcome.refl _).bind fun strategy => (SameOutcome.refl _).bind fun p => ?_
    refine (h.operations place).bind fun operations => h.groups.bind fun groups => ?_
    exact .refl _

theorem mapM_readRule_list (before after : List Literal) (l : Literal) :
    (ruleValues (Literal.list (before ++ l :: after)).value >>= List.mapM (readRule c place)) =
      (before.map Literal.value ++ l.value :: after.map Literal.value).mapM (readRule c place) := by
  rw [GraphQL.Literal.value, GraphQL.literalValues_eq_map, List.map_append, List.map_cons]
  cases before <;> rfl

theorem RulesStep.sameOutcome {l l' : Literal} (h : RulesStep l l') :
    SameOutcome (ruleValues l.value >>= List.mapM (readRule c place))
      (ruleValues l'.value >>= List.mapM (readRule c place)) := by
  cases h with
  | single fields => exact .of_eq (mapM_readRule_list c place [] [] (.object fields)).symm
  | sole h =>
    have hone := SameOutcome.mapM_append_cons (h.sameRule.readRule c place) [] []
    exact hone
  | item before after h =>
    rw [mapM_readRule_list, mapM_readRule_list]
    exact .mapM_append_cons (h.sameRule.readRule c place) _ _

theorem Directive.field_settings_eq_given (d : Directive) (name : String) :
    Value.field d.settings name = given (d.arguments.map fun a => (a.name, a.value)) name := by
  rw [← GraphQL.field_ofWrites_fieldValues, GraphQL.fieldValues_eq_map, List.map_map]
  rfl

theorem ArgumentStep.sameOutcome {arguments arguments' : List Argument}
    (h : ArgumentStep arguments arguments') (name : String) :
    SameOutcome (ruleValues (Value.field (Directive.mk name arguments).settings "rules") >>=
        List.mapM (readRule c place))
      (ruleValues (Value.field (Directive.mk name arguments').settings "rules") >>=
        List.mapM (readRule c place)) := by
  rw [Directive.field_settings_eq_given, Directive.field_settings_eq_given]
  cases h with
  | rules before after h =>
    rw [List.map_append, List.map_append, List.map_cons, List.map_cons]
    obtain heq | ⟨-, hl, hl'⟩ := GraphQL.given_replace (before.map fun a => (a.name, a.value))
      (after.map fun a => (a.name, a.value)) "rules" _ _ "rules"
    · rw [heq]
    · rw [hl, hl']
      exact h.sameOutcome c place
  | rewritten before after name h =>
    rw [List.map_append, List.map_append, List.map_cons, List.map_cons]
    obtain heq | ⟨-, hl, hl'⟩ := GraphQL.given_replace (before.map fun a => (a.name, a.value))
      (after.map fun a => (a.name, a.value)) name _ _ "rules"
    · rw [heq]
    · rw [hl, hl', h.value_eq]
  | @foreign before after a h =>
    have hdrop := GraphQL.given_drop_of_ne (before.map fun a => (a.name, a.value))
      (after.map fun a => (a.name, a.value)) (f := (a.name, a.value)) h
    rw [List.map_append, List.map_append, List.map_cons, hdrop]

theorem AuthStep.sameOutcome {ds ds' : List Directive} (h : AuthStep ds ds') :
    SameOutcome (readRules c place ds) (readRules c place ds') := by
  obtain @⟨before, after, arguments, arguments', h⟩ := h
  have hnamed : ∀ arguments, GraphQL.directivesNamed authDirective (⟨authDirective, arguments⟩ :: after) =
      ⟨authDirective, arguments⟩ :: GraphQL.directivesNamed authDirective after :=
    fun _ => List.filter_cons_of_pos (decide_eq_true rfl)
  unfold readRules
  rw [GraphQL.directivesNamed_append, GraphQL.directivesNamed_append, hnamed, hnamed]
  -- with another `@auth` beside it no argument is looked at
  rcases GraphQL.directivesNamed authDirective before with _ | ⟨d, _ | ⟨d', more⟩⟩
  · cases GraphQL.directivesNamed authDirective after with
    | nil => exact h.sameOutcome c place authDirective
    | cons => exact .refl _
  · exact .refl _
  · exact .refl _

end Outcomes

/-- However `@auth` is respelled, it gives the same rules, or fails with an error of the same class. -/
theorem readRules_respelled {ds ds' : List Directive} (h : Relation.EqvGen AuthStep ds ds') (c : Config)
    (place : String) : SameOutcome (readRules c place ds) (readRules c place ds') := by
  induction h with
  | rel _ _ h => exact h.sameOutcome c place
  | refl ds => exact .refl _
  | symm _ _ _ ih => exact ih.symm
  | trans _ _ _ _ _ ih ih' => exact ih.trans ih'

def rulesOnly (l : Literal) : List Directive := [⟨authDirective, [⟨"rules", l⟩]⟩]

theorem respelled_of_fieldStep {fields fields' : List (String × Literal)} (h : FieldStep fields fields') :
    Relation.EqvGen AuthStep (rulesOnly (.object fields)) (rulesOnly (.object fields')) :=
  .rel _ _ (.step [] [] (.rules [] [] (.sole h)))

def shortRule : List (String × Literal) :=
  [("allow", .enum "owner"), ("operations", .enum "read"), ("provider", .null)]

def longRules : Literal :=
  .list [.object [("operations", .list [.enum "read"]), ("allow", .string "owner" false)]]

theorem respelled_shortRule :
    Relation.EqvGen AuthStep (rulesOnly (.object shortRule)) (rulesOnly longRules) := by
  have hlisted : FieldStep shortRule
      [("allow", .enum "owner"), ("operations", .list [.enum "read"]), ("provider", .null)] :=
    .single [("allow", .enum "owner")] [("provider", .null)] (.inl rfl) (.enum "read")
  have hleftOut : FieldStep
      [("allow", .enum "owner"), ("operations", .list [.enum "read"]), ("provider", .null)]
      [("allow", .enum "owner"), ("operations", .list [.enum "read"])] :=
    .leftOut (show "provider" ∈ optionalArguments by decide) rfl
  have hswapped : FieldStep [("allow", .enum "owner"), ("operations", .list [.enum "read"])]
      [("operations", .list [.enum "read"]), ("allow", .enum "owner")] :=
    .swap [] [] (by decide)
  have hsingle : RulesStep (.object [("operations", .list [.enum "read"]), ("allow", .enum "owner")])
      (.list [.object [("operations", .list [.enum "read"]), ("allow", .enum "owner")]]) := .single _
  have hquoted : Literal.Rewritten
      (.list [.object [("operations", .list [.enum "read"]), ("allow", .enum "owner")]]) longRules :=
    .item [] [] (.member [("operations", .list [.enum "read"])] [] "allow"
      (.word (.enum "owner") (.text "owner" false)))
  refine .trans _ _ _ (respelled_of_fieldStep hlisted) ?_
  refine .trans _ _ _ (respelled_of_fieldStep hleftOut) ?_
  refine .trans _ _ _ (respelled_of_fieldStep hswapped) ?_
  refine .trans _ (rulesOnly _) _ (.rel _ _ (.step [] [] (.rules [] [] hsingle))) ?_
  exact .rel _ _ (.step [] [] (.rewritten [] [] "rules" hquoted))

theorem readRules_respelled_shortRule :
    Relation.EqvGen AuthStep (rulesOnly (.object shortRule)) (rulesOnly longRules) ∧
    SameOutcome (readRules ⟨.bare .iam, [], by decide⟩ "Post" (rulesOnly (.object shortRule)))
      (readRules ⟨.bare .iam, [], by decide⟩ "Post" (rulesOnly longRules)) ∧
    readRules ⟨.bare .iam, [], by decide⟩ "Post" (rulesOnly (.object shortRule)) =
      .ok [{ Rule.bare .owner .iam with operations := some [.read] }] :=
  ⟨respelled_shortRule, readRules_respelled respelled_shortRule _ _, rfl⟩

end Access

end SchemaAccess
