import Mathlib.Data.List.Nodup
import SchemaAccess.Access.Marker
import SchemaAccess.Access.RuleReader
import SchemaAccess.Access.Validation
import SchemaAccess.Proofs.FirstUse
import SchemaAccess.Proofs.StepOutcome

namespace SchemaAccess

theorem GraphQL.directivesNamed_append (name : String) (ds more : List Directive) :
    directivesNamed name (ds ++ more) = directivesNamed name ds ++ directivesNamed name more :=
  List.filter_append ds more

theorem GraphQL.carries_append (name : String) (ds more : List Directive) :
    carries name (ds ++ more) = (carries name ds || carries name more) := List.any_append

theorem GraphQL.carries_map_plain (name : String) (names : List String) :
    carries name (names.map .plain) = decide (name ∈ names) := by
  rw [Bool.eq_iff_iff, carries_iff, decide_eq_true_eq]
  constructor
  · rintro ⟨m, hm, hname⟩
    obtain ⟨name', hmem, rfl⟩ := List.mem_map.1 hm
    exact hname ▸ hmem
  · intro hmem
    exact ⟨_, List.mem_map_of_mem hmem, rfl⟩

namespace Access

open GraphQL (Directive)

/-- The faults of a rule under a configuration, in the order of their checks. -/
def ruleFaults (c : Config) (r : Rule) : List Failure :=
  (if r.provider ∈ r.strategy.providers then []
    else [.placement (.providerForbidden r.strategy r.provider)]) ++
  (if c.isConfigured r.provider then [] else [.rule (.providerNotConfigured r.provider)]) ++
  (if r.strategy = .groups ∧ !r.namesGroups then [.rule .groupsMissing] else [])

/-- The faults of rules that are restricted to operations, by where their field stands. -/
def restrictionFaults (rules : List Rule) (parentIsRoot parentIsModel : Bool) : List Failure :=
  if rules.any (·.restricted) then
    (if parentIsRoot then [.placement .operationsOnRootField] else []) ++
    (if parentIsModel then [] else [.placement .operationsOnPlainField])
  else []

def markerFaults (place : String) (providers : List Provider) (ds : List Directive) : List Failure :=
  (providers.filter fun p => GraphQL.carries p.marker ds).map fun p => .rule (.markerPresent p.marker place)

def markersOf (providers : List Provider) : List Directive := providers.map fun p => .plain p.marker

theorem markersOf_eq_map_plain (providers : List Provider) :
    markersOf providers = (providers.map (·.marker)).map .plain := by
  rw [List.map_map]
  rfl

theorem carries_markersOf (p : Provider) (providers : List Provider) :
    GraphQL.carries p.marker (markersOf providers) = decide (p ∈ providers) := by
  rw [markersOf_eq_map_plain, GraphQL.carries_map_plain, decide_eq_decide]
  exact List.mem_map_of_injective fun _ _ => Provider.marker_injective

theorem directivesNamed_markersOf {p : Provider} {providers : List Provider} (hn : providers.Nodup)
    (hp : p ∈ providers) : GraphQL.directivesNamed p.marker (markersOf providers) = [.plain p.marker] := by
  have hfilter : providers.filter (fun q => q.marker = p.marker) = [p] := by
    have hsame : ∀ q : Provider, decide (q.marker = p.marker) = (q == p) := by
      intro q
      rw [Bool.eq_iff_iff, decide_eq_true_eq, beq_iff_eq]
      exact ⟨Provider.marker_injective, congrArg Provider.marker⟩
    simp only [hsame]
    rw [List.filter_beq, List.count_eq_one_of_mem hn hp, List.replicate_one]
  rw [GraphQL.directivesNamed, markersOf, List.filter_map]
  exact congrArg (List.map fun q => GraphQL.Directive.plain q.marker) hfilter

theorem directivesNamed_markersOf_eq_nil {name : String} (h : ∀ p : Provider, p.marker ≠ name)
    (providers : List Provider) : GraphQL.directivesNamed name (markersOf providers) = [] := by
  refine List.filter_eq_nil_iff.2 fun m hm => ?_
  obtain ⟨p, -, rfl⟩ := List.mem_map.1 hm
  exact decide_eq_true_iff.not.2 (h p)

theorem marker_ne_authDirective (p : Provider) : p.marker ≠ authDirective := by cases p <;> decide

theorem checkType_eq_settled (isModel : Bool) :
    checkType isModel = settled (if isModel then [] else [.placement .typeWithoutModel]) () := by
  cases isModel <;> rfl

theorem checkField_eq_settled (rules : List Rule) (parentIsRoot parentIsModel : Bool) :
    checkField rules parentIsRoot parentIsModel =
      settled (restrictionFaults rules parentIsRoot parentIsModel) () := by
  unfold checkField restrictionFaults
  cases rules.any (·.restricted) <;> cases parentIsRoot <;> cases parentIsModel <;> rfl

theorem checkRule_eq_settled (c : Config) (r : Rule) : checkRule c r = settled (ruleFaults c r) () := by
  unfold checkRule ruleFaults
  by_cases hp : r.provider ∈ r.strategy.providers
  · rw [if_neg (fun h => h hp), if_pos hp]
    cases c.isConfigured r.provider with
    | false => rfl
    | true =>
      by_cases hg : r.strategy = .groups ∧ !r.namesGroups
      · rw [if_neg (by simp), if_pos rfl, if_pos hg, if_pos hg]
        rfl
      · rw [if_neg (by simp), if_pos rfl, if_neg hg, if_neg hg]
        rfl
  · rw [if_pos hp, if_neg hp]
    rfl

theorem checkRules_eq_settled (c : Config) (rules : List Rule) :
    checkRules c rules = settled (rules.flatMap (ruleFaults c)) () := by
  induction rules with
  | nil => rfl
  | cons r rules ih =>
    change (checkRule c r >>= fun _ => checkRules c rules) = _
    rw [checkRule_eq_settled]
    exact settled_bind (ruleFaults c r) (rules.flatMap (ruleFaults c)) () () _ ih

theorem ruleFaults_eq_nil_iff (c : Config) (r : Rule) : ruleFaults c r = [] ↔ r.Fits c := by
  rw [← checkRule_eq_ok_iff, checkRule_eq_settled, settled_eq_ok_iff]
  simp

/-- A call for the markers of providers, on a node with directives `ds`, adds all of them, or those that
come before the first one that the node had. -/
inductive Adds (place : String) (ds : List Directive) : List Provider → Marking → Prop
  | all {providers : List Provider} (hnew : ∀ p ∈ providers, GraphQL.carries p.marker ds = false) :
      Adds place ds providers ⟨ds ++ markersOf providers, .ok (providers.map (·.marker))⟩
  | upTo {before after : List Provider} {p : Provider}
      (hnew : ∀ q ∈ before, GraphQL.carries q.marker ds = false)
      (hpresent : GraphQL.carries p.marker ds = true) :
      Adds place ds (before ++ p :: after)
        ⟨ds ++ markersOf before, .error (.rule (.markerPresent p.marker place))⟩

theorem adds_addMarkers (place : String) (ds : List Directive) (before rest : List Provider)
    (h : (before ++ rest).Nodup) (hnew : ∀ q ∈ before, GraphQL.carries q.marker ds = false) :
    Adds place ds (before ++ rest)
      (addMarkers place (ds ++ markersOf before) (before.map (·.marker)) rest) := by
  -- `before` are the providers whose markers have been added on the way
  induction rest generalizing before with
  | nil =>
    rw [List.append_nil]
    exact .all hnew
  | cons p rest ih =>
    have hp : p ∉ before := notMem_of_nodup_append_cons h
    have hcarries : GraphQL.carries p.marker (ds ++ markersOf before) = GraphQL.carries p.marker ds := by
      rw [GraphQL.carries_append, carries_markersOf, decide_eq_false hp, Bool.or_false]
    rw [addMarkers, hcarries]
    cases hpresent : GraphQL.carries p.marker ds with
    | true => exact .upTo hnew hpresent
    | false =>
      have hnew' : ∀ q ∈ before ++ [p], GraphQL.carries q.marker ds = false := by
        simpa [or_imp, forall_and] using ⟨hnew, hpresent⟩
      simpa [markersOf] using ih (before ++ [p]) (by simpa using h) hnew'

theorem Adds.complete_eq_settled {place : String} {ds : List Directive} {providers : List Provider}
    {m : Marking} (h : Adds place ds providers m) :
    m.complete = settled (markerFaults place providers ds) (ds ++ markersOf providers) := by
  have hnone : ∀ before : List Provider, (∀ p ∈ before, GraphQL.carries p.marker ds = false) →
      before.filter (fun p => GraphQL.carries p.marker ds) = [] := by
    intro before hnew
    simpa [List.filter_eq_nil_iff] using hnew
  cases h with
  | all hnew => simp [Marking.complete, markerFaults, hnone _ hnew, Except.map]
  | upTo hnew hpresent =>
    simp [Marking.complete, markerFaults, hnone _ hnew, hpresent, Except.map]

theorem markerProviders_go_eq (c : Config) (rules : List Rule) (seen : List Provider) :
    markerProviders.go c rules seen = seen.reverse ++
      ((rules.map (·.provider)).filter fun p => p ≠ c.defaultProvider ∧ p ∉ seen).eraseDups := by
  induction rules generalizing seen with
  | nil => simp [markerProviders.go]
  | cons r rules ih =>
    rw [markerProviders.go, List.map_cons]
    by_cases h : r.provider = c.defaultProvider ∨ r.provider ∈ seen
    · rw [if_pos h, ih, List.filter_cons_of_neg]
      simpa [or_iff_not_imp_left] using h
    · rw [not_or] at h
      rw [if_neg (not_or.2 h), ih, List.filter_cons_of_pos (by simp [h]), List.eraseDups_cons,
        List.filter_filter, List.reverse_cons, List.append_assoc, List.singleton_append]
      congr 3
      apply List.filter_congr
      intro p _
      simp only [List.mem_cons, not_or]
      by_cases hp : p = r.provider <;> simp [hp]

/-- The markers to come are those of the providers that rules use besides the default one, in the
order of first use. -/
theorem markerProviders_eq (c : Config) (rules : List Rule) : markerProviders c rules =
    ((rules.map (·.provider)).filter (· ≠ c.defaultProvider)).eraseDups := by
  rw [markerProviders, markerProviders_go_eq]
  simp

theorem nodup_markerProviders (c : Config) (rules : List Rule) : (markerProviders c rules).Nodup := by
  rw [markerProviders_eq]
  exact nodup_eraseDups _

theorem mem_markerProviders_iff (c : Config) (rules : List Rule) (p : Provider) :
    p ∈ markerProviders c rules ↔ p ≠ c.defaultProvider ∧ ∃ r ∈ rules, r.provider = p := by
  simp [markerProviders_eq, and_comm]

theorem markerFaults_markerProviders_eq_nil_iff (c : Config) (place : String) (rules : List Rule)
    (ds : List Directive) : markerFaults place (markerProviders c rules) ds = [] ↔
      ∀ r ∈ rules, r.provider ≠ c.defaultProvider → GraphQL.carries r.provider.marker ds = false := by
  simp only [markerFaults, List.map_eq_nil_iff, List.filter_eq_nil_iff, mem_markerProviders_iff,
    Bool.not_eq_true]
  constructor
  · intro h r hr hp
    exact h r.provider ⟨hp, r, hr, rfl⟩
  · rintro h p ⟨hp, r, hr, rfl⟩
    exact h r hr hp

theorem any_restricted_iff (rules : List Rule) :
    rules.any (·.restricted) = true ↔ ∃ r ∈ rules, r.operations ≠ none := by
  simp [Rule.restricted, Option.isSome_iff_ne_none]

theorem restrictionFaults_eq_nil_iff (rules : List Rule) (parentIsRoot parentIsModel : Bool) :
    restrictionFaults rules parentIsRoot parentIsModel = [] ↔
      ((∃ r ∈ rules, r.operations ≠ none) → parentIsRoot = false ∧ parentIsModel = true) := by
  rw [← any_restricted_iff]
  unfold restrictionFaults
  cases rules.any (·.restricted) <;> cases parentIsRoot <;> cases parentIsModel <;> simp

theorem adds_mark (c : Config) (place : String) (rules : List Rule) (ds : List Directive) :
    Adds place ds (markerProviders c rules) (mark c place rules ds) := by
  have h := adds_addMarkers place ds [] (markerProviders c rules) (nodup_markerProviders c rules) (by simp)
  simpa [mark, markersOf] using h

theorem mark_complete_eq_settled (c : Config) (place : String) (rules : List Rule) (ds : List Directive) :
    (mark c place rules ds).complete = settled (markerFaults place (markerProviders c rules) ds)
      (ds ++ markersOf (markerProviders c rules)) :=
  (adds_mark c place rules ds).complete_eq_settled

end Access

end SchemaAccess
