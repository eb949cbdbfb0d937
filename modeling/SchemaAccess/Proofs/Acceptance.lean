import SchemaAccess.Proofs.CompiledDocument

namespace SchemaAccess

open Access (Config Rule)
open GraphQL (Directive Document Site)
open Pass (Output)

def FreeOfMarkers (c : Config) (rules : List Rule) (ds : List Directive) : Prop :=
  ∀ r ∈ rules, r.provider ≠ c.defaultProvider → GraphQL.carries r.provider.marker ds = false

/-- Some definition or extension of a type makes it a model. -/
def IsModel (d : Document) (typeName : String) : Prop :=
  ∃ node ∈ d.objects, node.name = typeName ∧ GraphQL.carries Pass.modelDirective node.directives = true

/-- All that a document has to keep to. -/
structure Acceptable (d : Document) (c : Config) : Prop where
  no_function : ∀ node ∈ d.objects, GraphQL.carries Pass.functionDirective node.directives = false
  function_named : ∀ node ∈ d.objects, ∀ f ∈ node.fields,
    GraphQL.carries Pass.functionDirective f.directives = true → ∃ first more name,
      GraphQL.directivesNamed Pass.functionDirective f.directives = first :: more ∧
        Value.field first.settings "name" = .string name ∧ Text.isBlank name = false
  /-- No two fields of one name in one type carry `@function`. -/
  function_once : (d.fieldsWith (·.carries Pass.functionDirective)).Nodup
  auth_on_model : ∀ node ∈ d.objects, GraphQL.carries Access.authDirective node.directives = true →
    IsModel d node.name
  /-- Root types get no markers, so nothing is asked of theirs. -/
  type_rules : ∀ node ∈ d.objects, GraphQL.carries Access.authDirective node.directives = true →
    ∃ rules, Access.readRules c node.name node.directives = .ok rules ∧ (∀ r ∈ rules, r.Fits c) ∧
      (node.name ∉ d.rootNames → FreeOfMarkers c rules node.directives)
  /-- Rules of fields can be restricted to operations in model types only, and not in root types. -/
  field_rules : ∀ node ∈ d.objects, ∀ f ∈ node.fields,
    GraphQL.carries Access.authDirective f.directives = true → ∃ rules,
      Access.readRules c (GraphQL.location (some node.name) f.name) f.directives = .ok rules ∧
      ((∃ r ∈ rules, r.operations ≠ none) → node.name ∉ d.rootNames ∧ IsModel d node.name) ∧
      (∀ r ∈ rules, r.Fits c) ∧ FreeOfMarkers c rules f.directives

/-- What is found to be wrong first: with `@function` at the first site that has a fault in it, when
the sites before it are bound, or with `@auth` if all functions are in order. -/
inductive FirstFault (d : Document) (c : Config) (e : Failure) : Prop
  | function (before : List Site) (site : Site) (after : List Site) (hd : d.sites = before ++ site :: after)
      (hbefore : Pass.bindingFaults [] before = [])
      (hsite : (Pass.functionFaults (before.filterMap Pass.siteBinding?) site).head? = some e)
  | rule (before : List Site) (site : Site) (after : List Site) (hd : d.sites = before ++ site :: after)
      (hnone : Pass.bindingFaults [] d.sites = [])
      (hbefore : ∀ s ∈ before, Pass.accessFaults c d.rootNames (d.typesCarrying Pass.modelDirective) s = [])
      (hsite : (Pass.accessFaults c d.rootNames (d.typesCarrying Pass.modelDirective) site).head? = some e)

theorem mem_typesCarrying_modelDirective_iff (d : Document) (typeName : String) :
    typeName ∈ d.typesCarrying Pass.modelDirective ↔ IsModel d typeName := by
  simp only [Document.typesCarrying, List.mem_map, List.mem_filter, IsModel]
  constructor
  · rintro ⟨node, ⟨hn, hc⟩, hname⟩
    exact ⟨node, hn, hname, hc⟩
  · rintro ⟨node, hn, hname, hc⟩
    exact ⟨node, ⟨hn, hc⟩, hname⟩

theorem typeSite_accessFaults_eq_nil_iff (d : Document) (c : Config) (node : GraphQL.Composite) :
    Pass.accessFaults c d.rootNames (d.typesCarrying Pass.modelDirective) (.type node) = [] ↔
      (GraphQL.carries Access.authDirective node.directives = true → IsModel d node.name ∧
        ∃ rules, Access.readRules c node.name node.directives = .ok rules ∧ (∀ r ∈ rules, r.Fits c) ∧
          (node.name ∉ d.rootNames → FreeOfMarkers c rules node.directives)) := by
  rw [← Site.carries_type]
  by_cases hc : (Site.type node).carries Access.authDirective = true
  · have htype : Pass.typeFaults (d.typesCarrying Pass.modelDirective) (.type node) = [] ↔
        IsModel d node.name := by
      rw [← mem_typesCarrying_modelDirective_iff]
      simp [Pass.typeFaults]
    have hmarked : Pass.isMarkable d.rootNames (.type node) = true ↔ node.name ∉ d.rootNames :=
      decide_eq_true_iff
    rw [Pass.accessFaults_eq_nil_iff c _ _ hc, htype, forall_prop_of_true hc, hmarked]
    refine and_congr_right fun _ => exists_congr fun rules => and_congr_right fun _ => ?_
    refine (and_iff_right rfl).trans ?_
    rw [Access.markerFaults_markerProviders_eq_nil_iff]
    rfl
  · rw [Pass.accessFaults_of_not_carries c _ _ hc]
    exact ⟨fun _ h => absurd h hc, fun _ => rfl⟩

theorem fieldSite_accessFaults_eq_nil_iff (d : Document) (c : Config) (typeName : String)
    (f : GraphQL.FieldDef) :
    Pass.accessFaults c d.rootNames (d.typesCarrying Pass.modelDirective) (.field typeName f) = [] ↔
      (GraphQL.carries Access.authDirective f.directives = true →
        ∃ rules, Access.readRules c (GraphQL.location (some typeName) f.name) f.directives = .ok rules ∧
          ((∃ r ∈ rules, r.operations ≠ none) → typeName ∉ d.rootNames ∧ IsModel d typeName) ∧
          (∀ r ∈ rules, r.Fits c) ∧ FreeOfMarkers c rules f.directives) := by
  rw [← Site.carries_field typeName]
  by_cases hc : (Site.field typeName f).carries Access.authDirective = true
  · have hplace : ∀ rules : List Rule,
        Pass.fieldFaults d.rootNames (d.typesCarrying Pass.modelDirective) rules (.field typeName f) = [] ↔
          ((∃ r ∈ rules, r.operations ≠ none) → typeName ∉ d.rootNames ∧ IsModel d typeName) := by
      intro rules
      have hrestricted := Access.restrictionFaults_eq_nil_iff rules (decide (typeName ∈ d.rootNames))
        (decide (typeName ∈ d.typesCarrying Pass.modelDirective))
      rw [decide_eq_false_iff_not, decide_eq_true_iff] at hrestricted
      rw [← mem_typesCarrying_modelDirective_iff]
      exact hrestricted
    rw [Pass.accessFaults_eq_nil_iff c _ _ hc, forall_prop_of_true hc]
    refine (and_iff_right rfl).trans <| exists_congr fun rules => and_congr_right fun _ => ?_
    rw [hplace, Access.markerFaults_markerProviders_eq_nil_iff]
    exact and_congr_right fun _ => and_congr_right fun _ => forall_prop_of_true rfl
  · rw [Pass.accessFaults_of_not_carries c _ _ hc]
    exact ⟨fun _ h => absurd h hc, fun _ => rfl⟩

theorem faults_eq_nil_iff (d : Document) (c : Config) : faults d c = [] ↔ Acceptable d c := by
  rw [faults, List.append_eq_nil_iff, Pass.bindingFaults_eq_nil_iff [] d.sites (by simp),
    List.flatMap_eq_nil_iff, Document.forall_mem_sites_iff, Document.forall_mem_sites_iff, List.map_nil,
    List.nil_append, Pass.filterMap_claimed?]
  simp only [typeSite_accessFaults_eq_nil_iff, fieldSite_accessFaults_eq_nil_iff]
  constructor
  · rintro ⟨⟨hnames, honce⟩, hrules⟩
    exact {
      no_function := fun node hn => (hnames node hn).1
      function_named := fun node hn f hf hc =>
        (Pass.functionName?_ne_none_iff _).1 ((hnames node hn).2 f hf hc)
      function_once := honce
      auth_on_model := fun node hn hc => ((hrules node hn).1 hc).1
      type_rules := fun node hn hc => ((hrules node hn).1 hc).2
      field_rules := fun node hn => (hrules node hn).2 }
  · intro h
    refine ⟨⟨fun node hn => ⟨h.no_function node hn, fun f hf hc => ?_⟩, h.function_once⟩,
      fun node hn => ⟨fun hc => ⟨h.auth_on_model node hn hc, h.type_rules node hn hc⟩,
        h.field_rules node hn⟩⟩
    exact (Pass.functionName?_ne_none_iff _).2 (h.function_named node hn f hf hc)

theorem head?_faults_eq_some_iff (d : Document) (c : Config) (e : Failure) :
    (faults d c).head? = some e ↔ FirstFault d c e := by
  rw [faults, List.head?_append]
  cases hb : Pass.bindingFaults [] d.sites with
  | cons fault more =>
    have hfirst := Pass.head?_bindingFaults_eq_some_iff d.sites e
    rw [hb] at hfirst
    refine hfirst.trans ⟨?_, ?_⟩
    · rintro ⟨before, site, after, hd, hbefore, hsite⟩
      exact .function before site after hd hbefore hsite
    · rintro (⟨before, site, after, hd, hbefore, hsite⟩ | ⟨_, _, _, _, hnone, _, _⟩)
      · exact ⟨before, site, after, hd, hbefore, hsite⟩
      · rw [hb] at hnone
        contradiction
  | nil =>
    rw [List.head?_nil, Option.none_or, head?_flatMap_eq_some_iff]
    constructor
    · rintro ⟨before, site, after, hd, hbefore, hsite⟩
      exact .rule before site after hd hb hbefore hsite
    · rintro (⟨before, site, after, hd, hbefore, hsite⟩ | ⟨before, site, after, hd, _, hbefore, hsite⟩)
      · have hsome := (Pass.head?_bindingFaults_eq_some_iff d.sites e).2
          ⟨before, site, after, hd, hbefore, hsite⟩
        rw [hb] at hsome
        contradiction
      · exact ⟨before, site, after, hd, hbefore, hsite⟩

/-- A schema is accepted if it keeps to everything, and otherwise rejected for the first fault. -/
theorem compile_accepts_iff {schema : String} {d : Document} (hread : Document.read schema = .ok d)
    (c : Config) {cap : Int} (hcap : 1 ≤ cap) :
    ((∃ out, compile schema c cap = .ok out) ↔ Acceptable d c) ∧
      ∀ e, compile schema c cap = .error e ↔ FirstFault d c e := by
  rw [compile_eq_compileDocument hread, compileDocument_eq_settled d c hcap]
  constructor
  · simp only [settled_eq_ok_iff, exists_and_left, exists_eq', and_true, faults_eq_nil_iff]
  · intro e
    rw [settled_eq_error_iff, head?_faults_eq_some_iff]

def plainTypeSchema : String := "type Post @auth(rules: [\x7ballow: owner\x7d]) \x7b id: ID \x7d"

theorem compile_accepts_iff_plainTypeSchema : ∃ d, Document.read plainTypeSchema = .ok d ∧ (1 : Int) ≤ 25 ∧
    ((∃ out, compile plainTypeSchema userPoolsAndIam 25 = .ok out) ↔
      Acceptable d userPoolsAndIam) ∧
    ∀ e, compile plainTypeSchema userPoolsAndIam 25 = .error e ↔
      FirstFault d userPoolsAndIam e := by
  obtain ⟨d, hread⟩ := exists_ok_of_isOk (x := Document.read plainTypeSchema) (by decide +kernel)
  exact ⟨d, hread, by decide, compile_accepts_iff hread _ (by decide)⟩

end SchemaAccess
