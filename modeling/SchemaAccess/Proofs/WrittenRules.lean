import Mathlib.Data.List.Forall2
import SchemaAccess.Access.RuleReader

namespace SchemaAccess.Access

open GraphQL (Directive)

/-- The objects that a value given for rules holds: itself, or those among its items. -/
def ruleEntries : Value → List (Entries Value)
  | .object fields => [fields]
  | .list items => items.filterMap Value.object?
  | _ => []

/-- The rules that directives write. -/
def writtenRules (ds : List Directive) : List (Entries Value) :=
  (GraphQL.directivesNamed authDirective ds).flatMap fun d => ruleEntries (Value.field d.settings "rules")

/-- The provider of a written rule: its own, or the default one if it is left out or null. -/
def writtenProvider? (c : Config) (entry : Entries Value) : Option Provider :=
  match Value.field entry "provider" with
  | .null => some c.defaultProvider
  | v => Vocabulary.ofValue? v

/-- The providers that directives name in their rules, in the order of the rules. -/
def writtenProviders (c : Config) (ds : List Directive) : List Provider :=
  (writtenRules ds).filterMap (writtenProvider? c)

/-- Whether a written rule lets in the callers that have a role: its provider is IAM, and it is for
anyone, or for those who are signed in if that is what the role stands for. -/
def LetsIn (c : Config) (role : Role) (entry : Entries Value) : Prop :=
  (Value.field entry "provider" = .string "iam" ∨
    Value.field entry "provider" = .null ∧ c.defaultProvider = .iam) ∧
  (Value.field entry "allow" = .string "public" ∨
    Value.field entry "allow" = .string "private" ∧ role = .auth)

instance (v : Value) (s : String) : Decidable (v = .string s) :=
  decidable_of_iff (v.text? = some s) (by cases v <;> simp [Value.text?])

instance (v : Value) : Decidable (v = .null) :=
  decidable_of_iff (v.isNull = true) (by cases v <;> simp [Value.isNull])

instance (c : Config) (role : Role) (entry : Entries Value) : Decidable (LetsIn c role entry) :=
  inferInstanceAs (Decidable (_ ∧ _))

theorem LetsIn.auth {c : Config} {role : Role} {entry : Entries Value} (h : LetsIn c role entry) :
    LetsIn c .auth entry :=
  ⟨h.1, h.2.imp id fun hs => ⟨hs.1, rfl⟩⟩

/-- Whether some rule that directives write lets in the callers that have a role. -/
def opensTo (c : Config) (role : Role) (ds : List Directive) : Bool :=
  (writtenRules ds).any fun entry => LetsIn c role entry

/-- A rule reads a written one. -/
structure Reads (c : Config) (entry : Entries Value) (r : Rule) : Prop where
  strategy : Vocabulary.ofValue? (Value.field entry "allow") = some r.strategy
  provider : writtenProvider? c entry = some r.provider

theorem ruleWord_eq_ok_iff {α : Type} [Vocabulary α] (argument place : String) (v : Value) (a : α) :
    ruleWord α argument place v = .ok a ↔ Vocabulary.ofValue? v = some a := by
  unfold ruleWord
  cases (Vocabulary.ofValue? v : Option α) <;>
    simp [throw, throwThe, MonadExceptOf.throw, pure, Except.pure]

theorem readProvider_eq_ok_iff (c : Config) (place : String) (fields : Entries Value) (p : Provider) :
    readProvider c place fields = .ok p ↔ writtenProvider? c fields = some p := by
  unfold readProvider writtenProvider?
  cases Value.field fields "provider" with
  | null => simp [pure, Except.pure]
  | _ => exact ruleWord_eq_ok_iff "provider" place _ p

@[simp] theorem throw_ne_ok {α : Type} (e : Failure) (a : α) : (throw e : Except Failure α) ≠ .ok a := nofun

theorem bind_eq_ok_iff {α β : Type} (x : Except Failure α) (k : α → Except Failure β) (b : β) :
    (x >>= k) = .ok b ↔ ∃ a, x = .ok a ∧ k a = .ok b := by
  cases x <;> simp [bind, Except.bind]

theorem forall₂_of_mapM_eq_ok {α β : Type} {f : α → Except Failure β} {items : List α} {results : List β}
    (h : items.mapM f = .ok results) : List.Forall₂ (fun a b => f a = .ok b) items results := by
  induction items generalizing results with
  | nil =>
    obtain rfl : [] = results := Except.ok.inj h
    exact .nil
  | cons a items ih =>
    rw [List.mapM_cons, bind_eq_ok_iff] at h
    obtain ⟨b, ha, h⟩ := h
    rw [bind_eq_ok_iff] at h
    obtain ⟨bs, hitems, h⟩ := h
    obtain rfl : b :: bs = results := Except.ok.inj h
    exact .cons ha (ih hitems)

theorem mapM_eq_ok_iff {α β : Type} {f : α → Except Failure β} {items : List α} {results : List β} :
    items.mapM f = .ok results ↔ List.Forall₂ (fun a b => f a = .ok b) items results := by
  refine ⟨forall₂_of_mapM_eq_ok, fun h => ?_⟩
  induction h with
  | nil => rfl
  | cons ha _ ih =>
    rw [List.mapM_cons, ha, ih]
    rfl

theorem exists_ok_of_mapM {α β : Type} {f : α → Except Failure β} {items : List α} {results : List β}
    (h : items.mapM f = .ok results) {a : α} (ha : a ∈ items) : ∃ b, f a = .ok b := by
  have hall := forall₂_of_mapM_eq_ok h
  clear h
  induction hall with
  | nil => contradiction
  | cons hb _ ih =>
    obtain rfl | ha := List.mem_cons.1 ha
    · exact ⟨_, hb⟩
    · exact ih ha

theorem exists_mapM_eq_ok_of_forall {α β : Type} {f : α → Except Failure β} {items : List α}
    (h : ∀ a ∈ items, ∃ b, f a = .ok b) : ∃ results, items.mapM f = .ok results := by
  induction items with
  | nil => exact ⟨[], rfl⟩
  | cons a items ih =>
    rw [List.forall_mem_cons] at h
    obtain ⟨b, ha⟩ := h.1
    obtain ⟨results, hitems⟩ := ih h.2
    refine ⟨b :: results, ?_⟩
    rw [List.mapM_cons, ha, hitems]
    rfl

theorem reads_of_readRule {c : Config} {place : String} {v : Value} {r : Rule}
    (h : readRule c place v = .ok r) : ∃ entry, v.object? = some entry ∧ Reads c entry r := by
  cases v with
  | object fields =>
    refine ⟨fields, rfl, ?_⟩
    simp only [readRule] at h
    split at h
    · exact absurd h (throw_ne_ok _ r)
    · simp only [bind_eq_ok_iff] at h
      obtain ⟨strategy, hs, provider, hp, operations, -, groups, -, hr⟩ := h
      obtain rfl := Except.ok.inj hr
      exact ⟨(ruleWord_eq_ok_iff "allow" place _ _).1 hs, (readProvider_eq_ok_iff c place fields _).1 hp⟩
  | _ => exact absurd h (throw_ne_ok _ r)

theorem forall₂_reads_of_mapM {c : Config} {place : String} {values : List Value} {rules : List Rule}
    (h : values.mapM (readRule c place) = .ok rules) :
    List.Forall₂ (Reads c) (values.filterMap Value.object?) rules := by
  have hall := forall₂_of_mapM_eq_ok h
  clear h
  induction hall with
  | nil => exact .nil
  | cons hv _ ih =>
    obtain ⟨entry, hentry, hr⟩ := reads_of_readRule hv
    rw [List.filterMap_cons_some hentry]
    exact .cons hr ih

theorem membersOf_eq_ok_iff (v : Value) (values : List Value) :
    membersOf v = .ok values ↔ v.members? = some values := by
  unfold membersOf
  cases v.members? <;> simp [pure, Except.pure]

theorem object?_ofGlyphs (glyphs : List Text.Glyph) : (Value.ofGlyphs glyphs).object? = none := by
  unfold Value.ofGlyphs
  split <;> rfl

/-- Values that are to be rules hold the same objects as the value they were given by. A text has
members as well, but they are texts again. -/
theorem ruleEntries_of_ruleValues {v : Value} {values : List Value} (h : ruleValues v = .ok values) :
    ruleEntries v = values.filterMap Value.object? := by
  unfold ruleValues at h
  split at h
  · obtain rfl := Except.ok.inj h
    rfl
  · rename_i hv
    split at h
    · rw [membersOf_eq_ok_iff] at h
      cases v with
      | object fields => exact absurd rfl (hv fields)
      | list items =>
        obtain rfl := Option.some.inj h
        rfl
      | string s =>
        obtain rfl := Option.some.inj h
        exact (List.filterMap_eq_nil_iff.2 (by simp [Value.object?])).symm
      | broken glyphs =>
        obtain rfl := Option.some.inj h
        exact (List.filterMap_eq_nil_iff.2 (by simp [object?_ofGlyphs])).symm
      | _ => contradiction
    · exact absurd h (throw_ne_ok _ values)

theorem written_of_readRules {c : Config} {place : String} {ds : List Directive} {rules : List Rule}
    (h : readRules c place ds = .ok rules) : List.Forall₂ (Reads c) (writtenRules ds) rules := by
  unfold readRules at h
  unfold writtenRules
  split at h
  · rename_i hd
    obtain rfl := Except.ok.inj h
    rw [hd]
    exact .nil
  · rename_i d hd
    obtain ⟨values, hvalues, hrules⟩ := (bind_eq_ok_iff _ _ rules).1 h
    rw [hd, List.flatMap_singleton, ruleEntries_of_ruleValues hvalues]
    exact forall₂_reads_of_mapM hrules
  · exact absurd h (throw_ne_ok _ rules)

theorem map_provider_eq_writtenProviders {c : Config} {place : String} {ds : List Directive}
    {rules : List Rule} (h : readRules c place ds = .ok rules) :
    rules.map (·.provider) = writtenProviders c ds := by
  have hall := written_of_readRules h
  unfold writtenProviders
  -- along the rules, forgetting where they were read from
  generalize writtenRules ds = entries at hall
  clear h
  induction hall with
  | nil => rfl
  | cons hr _ ih => rw [List.map_cons, ih, List.filterMap_cons_some hr.provider]

theorem eq_word_of_ofValue? {α : Type} [Vocabulary α] {v : Value} {a : α}
    (h : Vocabulary.ofValue? v = some a) : v = .string (Vocabulary.word a) := by
  cases v with
  | string s =>
    have hs := List.find?_some
      (show (Vocabulary.members.find? fun a => Vocabulary.word a = s) = some a from h)
    rw [of_decide_eq_true hs]
  | _ => exact absurd h (by simp [Vocabulary.ofValue?, Value.text?])

theorem ofValue?_eq_some_iff {α : Type} [Vocabulary α]
    (hread : ∀ a : α, Vocabulary.ofValue? (.string (Vocabulary.word a)) = some a) (v : Value) (a : α) :
    Vocabulary.ofValue? v = some a ↔ v = .string (Vocabulary.word a) := by
  refine ⟨eq_word_of_ofValue?, fun h => ?_⟩
  rw [h]
  exact hread a

theorem ofValue?_strategy_eq_some_iff (v : Value) (strategy : Strategy) :
    Vocabulary.ofValue? v = some strategy ↔ v = .string (Vocabulary.word strategy) :=
  ofValue?_eq_some_iff (by intro a; cases a <;> decide) v strategy

theorem ofValue?_provider_eq_some_iff (v : Value) (p : Provider) :
    Vocabulary.ofValue? v = some p ↔ v = .string (Vocabulary.word p) :=
  ofValue?_eq_some_iff (by intro a; cases a <;> decide) v p

theorem ofValue?_operation_eq_some_iff (v : Value) (op : Operation) :
    Vocabulary.ofValue? v = some op ↔ v = .string (Vocabulary.word op) :=
  ofValue?_eq_some_iff (by intro a; cases a <;> decide) v op

theorem writtenProvider?_eq_some_iff (c : Config) (entry : Entries Value) (p : Provider) :
    writtenProvider? c entry = some p ↔ Value.field entry "provider" = .string (Vocabulary.word p) ∨
      Value.field entry "provider" = .null ∧ c.defaultProvider = p := by
  rw [← ofValue?_provider_eq_some_iff]
  unfold writtenProvider?
  cases Value.field entry "provider" with
  | null => simp [Vocabulary.ofValue?, Value.text?]
  | _ => simp

theorem Reads.mem_grants_iff {c : Config} {entry : Entries Value} {r : Rule} (h : Reads c entry r)
    (role : Role) : role ∈ r.grants ↔ LetsIn c role entry := by
  have hp : (Value.field entry "provider" = .string "iam" ∨
      Value.field entry "provider" = .null ∧ c.defaultProvider = .iam) ↔ r.provider = .iam := by
    have hiam := writtenProvider?_eq_some_iff c entry .iam
    rw [h.provider, Option.some_inj] at hiam
    exact hiam.symm
  have hs : ∀ strategy : Strategy,
      Value.field entry "allow" = .string (Vocabulary.word strategy) ↔ r.strategy = strategy := by
    intro strategy
    rw [← ofValue?_strategy_eq_some_iff, h.strategy, Option.some_inj]
  unfold LetsIn
  rw [hp, show Value.string "public" = .string (Vocabulary.word Strategy.anyone) from rfl,
    show Value.string "private" = .string (Vocabulary.word Strategy.signedIn) from rfl, hs, hs]
  unfold Rule.grants
  cases r.provider <;> cases r.strategy <;> cases role <;> simp

theorem opensTo_iff (c : Config) (role : Role) (ds : List Directive) :
    opensTo c role ds = true ↔ ∃ entry ∈ writtenRules ds, LetsIn c role entry := by
  simp [opensTo]

theorem any_grants_eq_opensTo {c : Config} {place : String} {ds : List Directive} {rules : List Rule}
    (h : readRules c place ds = .ok rules) (role : Role) :
    rules.any (role ∈ ·.grants) = opensTo c role ds := by
  rw [Bool.eq_iff_iff, opensTo_iff, List.any_eq_true]
  simp only [decide_eq_true_eq]
  have hall := written_of_readRules h
  generalize writtenRules ds = entries at hall ⊢
  clear h
  induction hall with
  | nil => simp
  | cons hr _ ih => simp only [List.exists_mem_cons_iff, ih, hr.mem_grants_iff role]

end SchemaAccess.Access
