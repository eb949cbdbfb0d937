import SchemaAccess.Proofs.Acceptance

namespace SchemaAccess

open Access (Config)
open GraphQL (Directive Document Site)

/-- Numbers and booleans. They have no members, and are not left out either. -/
def Value.isScalar : Value → Bool
  | .boolean _ | .integer _ | .float _ => true
  | _ => false

theorem Value.isScalar_iff (v : Value) : v.isScalar = true ↔ v ≠ .null ∧ v.members? = none := by
  cases v <;> simp [isScalar, members?]

section Stops

variable {α β : Type} {P Q : Value → Prop} {x : Except Failure α}

/-- A result that is missing only after a rejection, or because one of certain values has no members. -/
structure StopsAt (P : Value → Prop) (x : Except Failure α) : Prop where
  kind : ∀ e, x = .error e → e.isRejection = true ∨ ∃ v, P v ∧ e = .shape (.noMembers v)
  stops : ∀ v, P v → x = .error (.shape (.noMembers v))

theorem StopsAt.congr (h : StopsAt P x) (hv : ∀ v, P v ↔ Q v) : StopsAt Q x :=
  (funext fun v => propext (hv v) : P = Q) ▸ h

theorem StopsAt.nowhere (h : StopsAt (fun _ => False) x) (hv : ∀ v, ¬ P v) : StopsAt P x :=
  h.congr fun v => ⟨False.elim, hv v⟩

theorem StopsAt.ne_ok (h : StopsAt P x) {v : Value} (hv : P v) (a : α) : x ≠ .ok a := by
  intro ha
  have hstop := h.stops v hv
  rw [ha] at hstop
  contradiction

theorem stopsAt_ok (a : α) : StopsAt (fun _ => False) (.ok a : Except Failure α) where
  kind _ he := by contradiction
  stops _ hv := hv.elim

theorem stopsAt_throw {e : Failure} (h : e.isRejection = true) :
    StopsAt (fun _ => False) (throw e : Except Failure α) where
  kind e' he' := by
    obtain rfl := Except.error.inj he'
    exact .inl h
  stops _ hv := hv.elim

theorem stopsAt_settled {faults : List Failure} (h : ∀ e ∈ faults, e.isRejection = true) (a : α) :
    StopsAt (fun _ => False) (settled faults a) := by
  cases faults with
  | nil => exact stopsAt_ok a
  | cons e faults => exact stopsAt_throw (h e List.mem_cons_self)

theorem StopsAt.bind {Q : α → Value → Prop} {k : α → Except Failure β} (hx : StopsAt P x)
    (hk : ∀ a, StopsAt (Q a) (k a)) : StopsAt (fun v => P v ∨ ∃ a, x = .ok a ∧ Q a v) (x >>= k) := by
  cases x with
  | error e =>
    refine ⟨fun e' he' => ?_, ?_⟩
    · obtain rfl := Except.error.inj he'
      refine (hx.kind e rfl).imp id ?_
      rintro ⟨v, hv, he⟩
      exact ⟨v, .inl hv, he⟩
    · rintro v (hv | ⟨a, ha, -⟩)
      · exact congrArg _ (Except.error.inj (hx.stops v hv))
      · contradiction
  | ok a =>
    refine ⟨fun e he => ?_, ?_⟩
    · refine ((hk a).kind e he).imp id ?_
      rintro ⟨v, hv, he⟩
      exact ⟨v, .inr ⟨a, rfl, hv⟩, he⟩
    · rintro v (hv | ⟨a', ha, hv⟩)
      · have hstop := hx.stops v hv
        contradiction
      · obtain rfl := Except.ok.inj ha
        exact (hk a).stops v hv

theorem StopsAt.mapM {P : α → Value → Prop} {f : α → Except Failure β} (hf : ∀ a, StopsAt (P a) (f a))
    (items : List α) : StopsAt (fun v => ∃ before a after, items = before ++ a :: after ∧
      (∀ b ∈ before, ∃ r, f b = .ok r) ∧ P a v) (items.mapM f) := by
  induction items with
  | nil => exact (stopsAt_ok []).nowhere (by simp)
  | cons a items ih =>
    rw [List.mapM_cons]
    have hall := (hf a).bind fun b => ih.bind fun bs => stopsAt_ok (b :: bs)
    -- the first item stops it, or lets through to one that does
    refine hall.congr fun v => ⟨?_, ?_⟩
    · rintro (hv | ⟨b, hb, ⟨before, a', after, rfl, hbefore, hv⟩ | ⟨_, _, hnone⟩⟩)
      · exact ⟨[], a, items, rfl, List.forall_mem_nil _, hv⟩
      · exact ⟨a :: before, a', after, rfl, List.forall_mem_cons.2 ⟨⟨b, hb⟩, hbefore⟩, hv⟩
      · contradiction
    · rintro ⟨before, a', after, hitems, hbefore, hv⟩
      obtain ⟨rfl, hitem⟩ | ⟨rest, rfl, hrest⟩ := List.cons_eq_append_iff.1 hitems
      · obtain ⟨rfl, -⟩ := List.cons.inj hitem
        exact .inl hv
      · obtain ⟨⟨b, hb⟩, hmore⟩ := List.forall_mem_cons.1 hbefore
        exact .inr ⟨b, hb, .inl ⟨rest, a', after, hrest, hmore, hv⟩⟩

end Stops

namespace Access

def ScalarAt (entries : Entries Value) (key : String) (v : Value) : Prop :=
  Value.field entries key = v ∧ v.isScalar = true

/-- Directives give a number or boolean where `@auth` should list rules, operations or groups. -/
def ScalarForList (ds : List Directive) (v : Value) : Prop :=
  ∃ auth ∈ GraphQL.directivesNamed authDirective ds, ScalarAt auth.settings "rules" v ∨
    ∃ entry ∈ ruleEntries (Value.field auth.settings "rules"),
      ScalarAt entry "operations" v ∨ ScalarAt entry "groups" v

/-- Where reading a written rule stops, if it comes so far: at its operations, or else at its groups.
Zero and false count as no operations, but not as no groups. -/
structure RuleStop (c : Config) (place : String) (entry : Entries Value) (v : Value) : Prop where
  strategy : ∃ strategy : Strategy, Vocabulary.ofValue? (Value.field entry "allow") = some strategy
  provider : ∃ p, writtenProvider? c entry = some p
  value : ScalarAt entry "operations" v ∧ v.isPresent = true ∨
    (∃ operations, readOperations place entry = .ok operations) ∧ ScalarAt entry "groups" v

/-- Where reading the rules of a node stops: at the value given for them, or at the first rule that it
stops at. -/
inductive RulesStop (c : Config) (place : String) (ds : List Directive) (v : Value) : Prop
  | all (auth : Directive) (hds : GraphQL.directivesNamed authDirective ds = [auth])
      (hv : ScalarAt auth.settings "rules" v) (hp : v.isPresent = true)
  | one (auth : Directive) (hds : GraphQL.directivesNamed authDirective ds = [auth])
      (before : List Value) (entry : Entries Value) (after : List Value)
      (hvalues : ruleValues (Value.field auth.settings "rules") = .ok (before ++ .object entry :: after))
      (hbefore : ∀ w ∈ before, ∃ r, readRule c place w = .ok r) (hstop : RuleStop c place entry v)

theorem ruleWord_stopsAt (α : Type) [Vocabulary α] (argument place : String) (v : Value) :
    StopsAt (fun _ => False) (ruleWord α argument place v) := by
  unfold ruleWord
  split
  · exact stopsAt_ok _
  · exact stopsAt_throw rfl

theorem readProvider_stopsAt (c : Config) (place : String) (entry : Entries Value) :
    StopsAt (fun _ => False) (readProvider c place entry) := by
  unfold readProvider
  split
  · exact stopsAt_ok _
  · exact ruleWord_stopsAt Provider "provider" place _

theorem membersOf_stopsAt {v : Value} (h : v ≠ .null) :
    StopsAt (fun w => v = w ∧ w.isScalar = true) (membersOf v) := by
  unfold membersOf
  cases hm : v.members? with
  | some members =>
    refine (stopsAt_ok members).nowhere ?_
    rintro w ⟨rfl, hw⟩
    rw [((Value.isScalar_iff v).1 hw).2] at hm
    contradiction
  | none =>
    have hv : v.isScalar = true := (Value.isScalar_iff v).2 ⟨h, hm⟩
    refine ⟨fun e he => .inr ⟨v, ⟨rfl, hv⟩, (Except.error.inj he).symm⟩, ?_⟩
    rintro w ⟨rfl, -⟩
    rfl

theorem listed_of_isScalar {v : Value} (h : v.isScalar = true) : listed v = v := by
  cases v with
  | string s => contradiction
  | _ => rfl

theorem membersOf_listed_stopsAt {v : Value} (h : v ≠ .null) :
    StopsAt (fun w => v = w ∧ w.isScalar = true) (membersOf (listed v)) := by
  cases v with
  | string s =>
    refine (stopsAt_ok [Value.string s]).nowhere ?_
    rintro w ⟨rfl, hw⟩
    contradiction
  | _ => exact membersOf_stopsAt h

theorem not_scalarAt_of_null {entry : Entries Value} {key : String} (h : Value.field entry key = .null)
    (v : Value) : ¬ ScalarAt entry key v := by
  rintro ⟨rfl, hv⟩
  rw [h] at hv
  contradiction

theorem readOperations_stopsAt (place : String) (entry : Entries Value) :
    StopsAt (fun v => ScalarAt entry "operations" v ∧ v.isPresent = true)
      (readOperations place entry) := by
  have hlisted : ∀ v, ScalarAt entry "operations" v → listed (Value.field entry "operations") = v := by
    rintro v ⟨rfl, hv⟩
    exact listed_of_isScalar hv
  unfold readOperations
  split
  · rename_i hnull
    exact (stopsAt_ok none).nowhere fun v hv => not_scalarAt_of_null hnull v hv.1
  · rename_i hne
    split
    · rename_i hp
      have hwords := fun values => (StopsAt.mapM (ruleWord_stopsAt Operation "operations" place) values).bind
        fun ops => stopsAt_ok (some (operationSet ops))
      refine ((membersOf_listed_stopsAt hne).bind hwords).congr fun v => ?_
      have hpresent : ScalarAt entry "operations" v → v.isPresent = true := fun hv => hlisted v hv ▸ hp
      simp only [and_false, exists_false, or_false]
      exact (and_iff_left_of_imp hpresent).symm
    · rename_i hp
      refine (stopsAt_throw rfl).nowhere ?_
      rintro v ⟨hv, hpresent⟩
      exact hp (hlisted v hv ▸ hpresent)

theorem readGroups_stopsAt (entry : Entries Value) :
    StopsAt (ScalarAt entry "groups") (readGroups entry) := by
  unfold readGroups
  split
  · rename_i hnull
    exact (stopsAt_ok none).nowhere (not_scalarAt_of_null hnull)
  · rename_i hne
    rw [map_eq_pure_bind]
    refine ((membersOf_listed_stopsAt hne).bind fun groups => stopsAt_ok (some groups)).congr fun v => ?_
    simp [ScalarAt]

theorem readRule_stopsAt (c : Config) (place : String) (w : Value) :
    StopsAt (fun v => ∃ entry, w = .object entry ∧ RuleStop c place entry v) (readRule c place w) := by
  cases w with
  | object entry =>
    simp only [readRule]
    split
    · rename_i hnull
      refine (stopsAt_throw rfl).nowhere ?_
      rintro v ⟨_, hentry, ⟨strategy, hs⟩, -, -⟩
      obtain rfl := Value.object.inj hentry
      rw [eq_word_of_ofValue? hs] at hnull
      contradiction
    · refine StopsAt.congr ((ruleWord_stopsAt Strategy "allow" place _).bind fun strategy =>
        (readProvider_stopsAt c place entry).bind fun provider =>
        (readOperations_stopsAt place entry).bind fun operations =>
        (readGroups_stopsAt entry).bind fun groups => stopsAt_ok _) fun v => ?_
      simp only [ruleWord_eq_ok_iff, readProvider_eq_ok_iff, false_or, and_false, exists_false, or_false]
      constructor
      · rintro ⟨strategy, hs, p, hp, hv⟩
        refine ⟨entry, rfl, ⟨strategy, hs⟩, ⟨p, hp⟩, hv.imp id ?_⟩
        rintro ⟨operations, hops, hv⟩
        exact ⟨⟨operations, hops⟩, hv⟩
      · rintro ⟨_, hentry, ⟨strategy, hs⟩, ⟨p, hp⟩, hv⟩
        obtain rfl := Value.object.inj hentry
        refine ⟨strategy, hs, p, hp, hv.imp id ?_⟩
        rintro ⟨⟨operations, hops⟩, hv⟩
        exact ⟨operations, hops, hv⟩
  | _ => exact (stopsAt_throw rfl).nowhere (by simp)

theorem ruleValues_stopsAt (v : Value) :
    StopsAt (fun w => (v = w ∧ w.isScalar = true) ∧ w.isPresent = true) (ruleValues v) := by
  unfold ruleValues
  split
  · refine (stopsAt_ok _).nowhere ?_
    rintro w ⟨⟨rfl, hv⟩, -⟩
    contradiction
  · split
    · rename_i hp
      have hne : v ≠ .null := by
        rintro rfl
        contradiction
      refine (membersOf_stopsAt hne).congr fun w => (and_iff_left_of_imp ?_).symm
      rintro ⟨rfl, -⟩
      exact hp
    · rename_i hp
      refine (stopsAt_throw rfl).nowhere ?_
      rintro w ⟨⟨rfl, -⟩, hpresent⟩
      exact hp hpresent

theorem readRules_stopsAt (c : Config) (place : String) (ds : List Directive) :
    StopsAt (RulesStop c place ds) (readRules c place ds) := by
  unfold readRules
  split
  · rename_i hds
    refine (stopsAt_ok _).nowhere ?_
    rintro v (⟨auth, h, -, -⟩ | ⟨auth, h, -⟩) <;> simp [h] at hds
  · rename_i auth hds
    refine ((ruleValues_stopsAt _).bind fun values =>
      StopsAt.mapM (readRule_stopsAt c place) values).congr fun v => ⟨?_, ?_⟩
    · rintro (⟨hv, hp⟩ | ⟨_, hvalues, before, _, after, rfl, hbefore, entry, rfl, hstop⟩)
      · exact .all auth hds hv hp
      · exact .one auth hds before entry after hvalues hbefore hstop
    · rintro (⟨_, h, hv, hp⟩ | ⟨_, h, before, entry, after, hvalues, hbefore, hstop⟩)
      · obtain ⟨rfl, -⟩ := List.cons.inj (hds.symm.trans h)
        exact .inl ⟨hv, hp⟩
      · obtain ⟨rfl, -⟩ := List.cons.inj (hds.symm.trans h)
        exact .inr ⟨_, hvalues, before, _, after, rfl, hbefore, entry, rfl, hstop⟩
  · rename_i hnone hone
    refine (stopsAt_throw rfl).nowhere ?_
    rintro v (⟨auth, h, -, -⟩ | ⟨auth, h, -⟩) <;> exact hone auth h

theorem scalarForList_of_rulesStop {c : Config} {place : String} {ds : List Directive} {v : Value}
    (h : RulesStop c place ds v) : ScalarForList ds v := by
  obtain ⟨auth, hds, hv, -⟩ | ⟨auth, hds, before, entry, after, hvalues, -, hstop⟩ := h
  · exact ⟨auth, by simp [hds], .inl hv⟩
  · refine ⟨auth, by simp [hds], .inr ⟨entry, ?_, hstop.value.imp And.left And.right⟩⟩
    rw [ruleEntries_of_ruleValues hvalues, List.mem_filterMap]
    exact ⟨.object entry, by simp, rfl⟩

theorem carries_of_scalarForList {ds : List Directive} {v : Value} (h : ScalarForList ds v) :
    GraphQL.carries authDirective ds = true := by
  obtain ⟨auth, hauth, -⟩ := h
  obtain ⟨hd, hname⟩ := List.mem_filter.1 hauth
  exact (GraphQL.carries_iff authDirective ds).2 ⟨auth, hd, of_decide_eq_true hname⟩

theorem not_isScalar_of_ruleValues {v : Value} {values : List Value} (h : ruleValues v = .ok values) :
    ¬ v.isScalar = true := by
  intro hv
  by_cases hp : v.isPresent = true
  · exact (ruleValues_stopsAt v).ne_ok ⟨⟨rfl, hv⟩, hp⟩ values h
  · cases v <;> simp_all [ruleValues, Value.isScalar]

theorem not_scalarAt_of_readOperations {place : String} {entry : Entries Value}
    {operations : Option (List Operation)} (h : readOperations place entry = .ok operations) (v : Value) :
    ¬ ScalarAt entry "operations" v := by
  intro hv
  by_cases hp : v.isPresent = true
  · exact (readOperations_stopsAt place entry).ne_ok ⟨hv, hp⟩ operations h
  · -- zero and false are taken for an empty list
    obtain ⟨hfield, hscalar⟩ := hv
    rw [readOperations, hfield] at h
    cases v <;> simp_all [listed, Value.isScalar]

theorem not_scalarAt_of_readRule {c : Config} {place : String} {entry : Entries Value} {r : Rule}
    (h : readRule c place (.object entry) = .ok r) (v : Value) :
    ¬ (ScalarAt entry "operations" v ∨ ScalarAt entry "groups" v) := by
  simp only [readRule] at h
  split at h
  · exact absurd h (throw_ne_ok _ r)
  · simp only [bind_eq_ok_iff] at h
    obtain ⟨_, -, _, -, operations, hoperations, groups, hgroups, -⟩ := h
    rintro (hv | hv)
    · exact not_scalarAt_of_readOperations hoperations v hv
    · exact (readGroups_stopsAt entry).ne_ok hv groups hgroups

/-- Where rules can be read, lists are given for all that should be one. -/
theorem not_scalarForList_of_readRules {c : Config} {place : String} {ds : List Directive}
    {rules : List Rule} (h : readRules c place ds = .ok rules) (v : Value) : ¬ ScalarForList ds v := by
  rintro ⟨auth, hauth, hv⟩
  unfold readRules at h
  split at h
  · rename_i hds
    rw [hds] at hauth
    contradiction
  · rename_i first hds
    rw [hds] at hauth
    obtain rfl := List.mem_singleton.1 hauth
    obtain ⟨values, hvalues, hrules⟩ := (bind_eq_ok_iff _ _ rules).1 h
    obtain hv | ⟨entry, hentry, hv⟩ := hv
    · have hscalar : (Value.field auth.settings "rules").isScalar = true := hv.1 ▸ hv.2
      exact not_isScalar_of_ruleValues hvalues hscalar
    · rw [ruleEntries_of_ruleValues hvalues, List.mem_filterMap] at hentry
      obtain ⟨w, hw, hobject⟩ := hentry
      obtain ⟨r, hr⟩ := exists_ok_of_mapM hrules hw
      cases w with
      | object fields =>
        obtain rfl := Option.some.inj hobject
        exact not_scalarAt_of_readRule hr v hv
      | _ => contradiction
  · exact absurd h (throw_ne_ok _ rules)

theorem forall_ruleFaults_isRejection (c : Config) (r : Rule) :
    ∀ e ∈ ruleFaults c r, e.isRejection = true := by
  refine List.forall_mem_append.2 ⟨List.forall_mem_append.2 ⟨?_, ?_⟩, ?_⟩ <;>
    split <;> simp [Failure.isRejection]

theorem forall_restrictionFaults_isRejection (rules : List Rule) (parentIsRoot parentIsModel : Bool) :
    ∀ e ∈ restrictionFaults rules parentIsRoot parentIsModel, e.isRejection = true := by
  unfold restrictionFaults
  split
  · refine List.forall_mem_append.2 ⟨?_, ?_⟩ <;> split <;> simp [Failure.isRejection]
  · exact List.forall_mem_nil _

theorem forall_markerFaults_isRejection (place : String) (providers : List Provider) (ds : List Directive) :
    ∀ e ∈ markerFaults place providers ds, e.isRejection = true :=
  List.forall_mem_map.2 fun _ _ => rfl

end Access

namespace Pass

open Access

theorem forall_functionFaults_isRejection (bound : List Binding) (site : Site) :
    ∀ e ∈ functionFaults bound site, e.isRejection = true := by
  unfold functionFaults
  split
  · split <;> simp [Failure.isRejection]
  · split
    · split
      · simp [Failure.isRejection]
      · split <;> simp [Failure.isRejection]
    · exact List.forall_mem_nil _

theorem forall_typeFaults_isRejection (models : List String) (site : Site) :
    ∀ e ∈ typeFaults models site, e.isRejection = true := by
  unfold typeFaults
  split
  · split <;> simp [Failure.isRejection]
  · exact List.forall_mem_nil _

theorem forall_fieldFaults_isRejection (roots models : List String) (rules : List Rule) (site : Site) :
    ∀ e ∈ fieldFaults roots models rules site, e.isRejection = true := by
  cases site with
  | type node => exact List.forall_mem_nil _
  | field typeName f => exact forall_restrictionFaults_isRejection rules _ _

/-- Checking a site stops where reading its rules does, unless they stand on a type that is no model. -/
theorem accessFaults_stopsAt (c : Config) (roots models : List String) (site : Site) :
    StopsAt (fun v => typeFaults models site = [] ∧ RulesStop c site.place site.directives v)
      (settled (accessFaults c roots models site) ()) := by
  by_cases hc : site.carries authDirective = true
  · have hchecks : (settled (typeFaults models site) () >>= fun _ =>
        readRules c site.place site.directives >>= fun rules =>
          settled (fieldFaults roots models rules site ++ (rules.flatMap (ruleFaults c) ++
            if isMarkable roots site then
              markerFaults site.place (markerProviders c rules) site.directives
            else [])) ()) = settled (accessFaults c roots models site) () := by
      rw [accessFaults, if_pos hc]
      refine settled_bind _ _ () () _ ?_
      cases readRules c site.place site.directives <;> rfl
    rw [← hchecks]
    refine StopsAt.congr ((stopsAt_settled (forall_typeFaults_isRejection models site) ()).bind fun _ =>
      (readRules_stopsAt c site.place site.directives).bind fun rules => stopsAt_settled ?_ ()) fun v => ?_
    · refine List.forall_mem_append.2 ⟨forall_fieldFaults_isRejection roots models rules site,
        List.forall_mem_append.2 ⟨?_, ?_⟩⟩
      · exact List.forall_mem_flatMap.2 fun r _ => forall_ruleFaults_isRejection c r
      · split
        · exact forall_markerFaults_isRejection _ _ _
        · exact List.forall_mem_nil _
    · simp [settled_eq_ok_iff]
  · rw [accessFaults_of_not_carries c _ _ hc]
    refine (stopsAt_ok ()).nowhere ?_
    rintro v ⟨-, hv⟩
    exact hc (carries_of_scalarForList (scalarForList_of_rulesStop hv))

end Pass

/-- Where compiling a document stops: all functions are in order, and of the sites that have a fault the
first is one whose rules cannot be read. -/
def CompileStop (d : Document) (c : Config) (v : Value) : Prop :=
  Pass.bindingFaults [] d.sites = [] ∧ ∃ before site after, d.sites = before ++ site :: after ∧
    (∀ s ∈ before, Pass.accessFaults c d.rootNames (d.typesCarrying Pass.modelDirective) s = []) ∧
    Pass.typeFaults (d.typesCarrying Pass.modelDirective) site = [] ∧
    Access.RulesStop c site.place site.directives v

theorem faults_stopsAt {α : Type} (d : Document) (c : Config) (a : α) :
    StopsAt (CompileStop d c) (settled (faults d c) a) := by
  have hsites := Pass.accessFaults_stopsAt c d.rootNames (d.typesCarrying Pass.modelDirective)
  constructor
  · intro e he
    rw [settled_eq_error_iff, head?_faults_eq_some_iff] at he
    cases he with
    | function before site after hd hbefore hsite =>
      exact .inl (Pass.forall_functionFaults_isRejection _ site e (List.mem_of_head? hsite))
    | rule before site after hd hnone hbefore hsite =>
      refine ((hsites site).kind e ((settled_eq_error_iff _ () e).2 hsite)).imp id ?_
      rintro ⟨v, hv, he⟩
      exact ⟨v, ⟨hnone, before, site, after, hd, hbefore, hv⟩, he⟩
  · rintro v ⟨hnone, before, site, after, hd, hbefore, hv⟩
    rw [settled_eq_error_iff, head?_faults_eq_some_iff]
    have hsite := (hsites site).stops v hv
    rw [settled_eq_error_iff] at hsite
    exact .rule before site after hd hnone hbefore hsite

/-- A schema without any number or boolean for a list is compiled or rejected. With one it is never
compiled, and it is rejected as well unless reading its rules stops there. -/
theorem compile_failures {schema : String} {d : Document} (hread : Document.read schema = .ok d)
    (c : Config) {cap : Int} (hcap : 1 ≤ cap) :
    (∀ e, compile schema c cap = .error e →
      e.isRejection = true ∨ ∃ v, CompileStop d c v ∧ e = .shape (.noMembers v)) ∧
    (∀ v, CompileStop d c v → compile schema c cap = .error (.shape (.noMembers v))) ∧
    (∀ v, CompileStop d c v → ∃ site ∈ d.sites, Access.ScalarForList site.directives v) ∧
    ((∃ site ∈ d.sites, ∃ v, Access.ScalarForList site.directives v) →
      ∀ out, compile schema c cap ≠ .ok out) := by
  have hstops := faults_stopsAt d c (compiled d c cap)
  rw [compile_eq_compileDocument hread, compileDocument_eq_settled d c hcap]
  refine ⟨hstops.kind, hstops.stops, ?_, ?_⟩
  · rintro v ⟨-, before, site, after, hd, -, -, hv⟩
    exact ⟨site, by simp [hd], Access.scalarForList_of_rulesStop hv⟩
  · rintro ⟨site, hs, v, hv⟩ out hout
    have hfaults := ((settled_eq_ok_iff _ _ out).1 hout).1
    obtain ⟨rules, hr, -⟩ := exists_readRules_of_faults_eq_nil hfaults hs
      (Access.carries_of_scalarForList hv)
    exact Access.not_scalarForList_of_readRules hr v hv

def numberSchema : String := "type Query { a: String @auth(rules: 5) }"

def numberField : GraphQL.FieldDef :=
  ⟨none, "a", [], .named "String", [⟨"auth", [⟨"rules", .int "5"⟩]⟩]⟩

def numberDocument : Document := [.object false ⟨none, "Query", [], [], [numberField]⟩]

theorem read_numberSchema : Document.read numberSchema = .ok numberDocument := by rfl

theorem compileStop_numberDocument : CompileStop numberDocument userPoolsAndIam (.integer 5) := by
  refine ⟨rfl, [.type ⟨none, "Query", [], [], [numberField]⟩], .field "Query" numberField, [], rfl, ?_,
    rfl, .all ⟨"auth", [⟨"rules", .int "5"⟩]⟩ rfl ⟨?_, rfl⟩ rfl⟩
  · exact List.forall_mem_singleton.2 rfl
  · rfl

/-- Compiling stops at the number, and that is no rejection. -/
theorem compile_failures_numberSchema : Document.read numberSchema = .ok numberDocument ∧ (1 : Int) ≤ 25 ∧
    CompileStop numberDocument userPoolsAndIam (.integer 5) ∧
    compile numberSchema userPoolsAndIam 25 = .error (.shape (.noMembers (.integer 5))) ∧
    (Failure.shape (.noMembers (.integer 5))).isRejection = false ∧
    ∃ site ∈ numberDocument.sites, Access.ScalarForList site.directives (.integer 5) := by
  have hcap : (1 : Int) ≤ 25 := by decide
  obtain ⟨-, hstops, hscalar, -⟩ := compile_failures read_numberSchema userPoolsAndIam hcap
  exact ⟨read_numberSchema, hcap, compileStop_numberDocument, hstops _ compileStop_numberDocument, rfl,
    hscalar _ compileStop_numberDocument⟩

end SchemaAccess
