import SchemaAccess.Proofs.Acceptance

namespace SchemaAccess

namespace GraphQL

/-- The kinds of nodes besides sites that directives can stand on. -/
inductive OtherNode where
  | operation
  | variable
  | selection
  | fragment
  | schema
  | scalar
  | interface
  | interfaceField
  | union
  | enum
  | enumValue
  | input
  | inputField
  | argument
deriving Repr, DecidableEq

/-- A node that directives can stand on. -/
inductive Carrier where
  | site (site : Site)
  | other (kind : OtherNode) (directives : List Directive)

namespace Carrier

def directives : Carrier → List Directive
  | .site s => s.directives
  | .other _ ds => ds

def site? : Carrier → Option Site
  | .site s => some s
  | .other _ _ => none

def ofArgument (v : InputValue) : Carrier := .other .argument v.directives

@[simp] theorem site?_site (s : Site) : (Carrier.site s).site? = some s := rfl

@[simp] theorem site?_other (kind : OtherNode) (ds : List Directive) :
    (Carrier.other kind ds).site? = none := rfl

@[simp] theorem site?_ofArgument (v : InputValue) : (ofArgument v).site? = none := rfl

end Carrier

mutual

def Selection.carriers : Selection → List Carrier
  | .field _ _ _ directives selections => .other .selection directives :: selectionCarriers selections
  | .spread _ directives => [.other .selection directives]
  | .inline _ directives selections => .other .selection directives :: selectionCarriers selections

def selectionCarriers : List Selection → List Carrier
  | [] => []
  | selection :: rest => selection.carriers ++ selectionCarriers rest

end

/-- All nodes of a definition that directives can stand on. -/
def Definition.carriers : Definition → List Carrier
  | .operation node => .other .operation node.directives ::
      (node.variableDefs.map fun v => .other .variable v.directives) ++ selectionCarriers node.selections
  | .fragment node => .other .fragment node.directives :: selectionCarriers node.selections
  | .schema _ node => [.other .schema node.directives]
  | .scalar _ node => [.other .scalar node.directives]
  | .object _ node => .site (.type node) ::
      node.fields.flatMap fun f => .site (.field node.name f) :: f.arguments.map .ofArgument
  | .interface _ node => .other .interface node.directives ::
      node.fields.flatMap fun f => .other .interfaceField f.directives :: f.arguments.map .ofArgument
  | .union _ node => [.other .union node.directives]
  | .enum _ node => .other .enum node.directives ::
      node.values.map fun v => .other .enumValue v.directives
  | .input _ node => .other .input node.directives ::
      node.fields.map fun v => .other .inputField v.directives
  | .directive node => node.arguments.map .ofArgument

def Document.carriers (d : Document) : List Carrier := d.flatMap (·.carriers)

mutual

theorem Selection.site?_of_mem_carriers (s : Selection) {carrier : Carrier} (h : carrier ∈ s.carriers) :
    carrier.site? = none := by
  cases s with
  | field label name arguments directives selections =>
    obtain rfl | hrest := List.mem_cons.1 h
    · rfl
    · exact site?_of_mem_selectionCarriers selections hrest
  | spread fragment directives =>
    rw [List.mem_singleton.1 h]
    rfl
  | inline condition directives selections =>
    obtain rfl | hrest := List.mem_cons.1 h
    · rfl
    · exact site?_of_mem_selectionCarriers selections hrest

theorem site?_of_mem_selectionCarriers (selections : List Selection) {carrier : Carrier}
    (h : carrier ∈ selectionCarriers selections) : carrier.site? = none := by
  cases selections with
  | nil => contradiction
  | cons s rest =>
    obtain hs | hrest := List.mem_append.1 h
    · exact s.site?_of_mem_carriers hs
    · exact site?_of_mem_selectionCarriers rest hrest

end

theorem filterMap_site?_selectionCarriers (selections : List Selection) :
    (selectionCarriers selections).filterMap Carrier.site? = [] :=
  List.filterMap_eq_nil_iff.2 fun _ h => site?_of_mem_selectionCarriers selections h

theorem filterMap_site?_ofArgument (arguments : List InputValue) :
    (arguments.map Carrier.ofArgument).filterMap Carrier.site? = [] := by
  simp

theorem Definition.filterMap_site?_carriers (x : Definition) :
    x.carriers.filterMap Carrier.site? = x.sites := by
  cases x with
  | object extension node =>
    have hfield : ∀ f : FieldDef, (Carrier.site (.field node.name f) ::
        f.arguments.map Carrier.ofArgument).filterMap Carrier.site? = [.field node.name f] := by
      intro f
      rw [List.filterMap_cons_some (Carrier.site?_site _), filterMap_site?_ofArgument]
    rw [carriers, List.filterMap_cons_some (Carrier.site?_site _), List.filterMap_flatMap]
    simp only [hfield, ← List.map_eq_flatMap]
    rfl
  | operation node =>
    have hvariables :
        (node.variableDefs.map fun v => Carrier.other .variable v.directives).filterMap Carrier.site? = [] := by
      simp
    rw [carriers, List.filterMap_append, List.filterMap_cons_none (Carrier.site?_other _ _), hvariables,
      filterMap_site?_selectionCarriers]
    rfl
  | fragment node =>
    rw [carriers, List.filterMap_cons_none (Carrier.site?_other _ _), filterMap_site?_selectionCarriers]
    rfl
  | interface extension node =>
    rw [carriers, List.filterMap_cons_none (Carrier.site?_other _ _), List.filterMap_flatMap]
    simp [sites]
  | _ => simp [carriers, sites]

theorem Document.filterMap_site?_carriers (d : Document) :
    d.carriers.filterMap Carrier.site? = d.sites := by
  rw [carriers, List.filterMap_flatMap]
  simp only [Definition.filterMap_site?_carriers]
  rfl

theorem Document.site_mem_carriers_iff (d : Document) (site : Site) :
    .site site ∈ d.carriers ↔ site ∈ d.sites := by
  rw [← d.filterMap_site?_carriers, List.mem_filterMap]
  constructor
  · intro h
    exact ⟨_, h, rfl⟩
  · rintro ⟨carrier, hcarrier, hsite⟩
    cases carrier with
    | site => exact Option.some.inj hsite ▸ hcarrier
    | other => contradiction

end GraphQL

open Access (Config)
open GraphQL (Document Site)
open Pass (Output)

/-- What is made sure of where `@auth` is met: it stands there once, on a model if it is on a type, and
its rules can be read and pass the check against the configuration. -/
structure Checked (d : Document) (c : Config) (site : Site) : Prop where
  once : ∃ auth, GraphQL.directivesNamed Access.authDirective site.directives = [auth]
  placed : ∀ node, site = .type node → IsModel d node.name
  rules : ∃ rules, Access.readRules c site.place site.directives = .ok rules ∧
    Access.checkRules c rules = .ok ()

theorem Access.directivesNamed_auth_of_readRules {c : Config} {place : String}
    {ds : List GraphQL.Directive} {rules : List Access.Rule} (h : readRules c place ds = .ok rules)
    (hc : GraphQL.carries authDirective ds = true) :
    ∃ auth, GraphQL.directivesNamed authDirective ds = [auth] := by
  unfold readRules at h
  split at h
  · rename_i hnone
    rw [(GraphQL.directivesNamed_eq_nil_iff _ _).1 hnone] at hc
    contradiction
  · exact ⟨_, by assumption⟩
  · exact absurd h (throw_ne_ok _ rules)

theorem checked_of_faults_eq_nil {d : Document} {c : Config} (h : faults d c = []) {site : Site}
    (hs : site ∈ d.sites) (hc : site.carries Access.authDirective = true) : Checked d c site := by
  have hsite := accessFaults_of_faults_eq_nil h hs
  obtain ⟨htype, rules, hr, -, hfits, -⟩ := (Pass.accessFaults_eq_nil_iff c _ _ hc).1 hsite
  refine ⟨Access.directivesNamed_auth_of_readRules hr hc, ?_, rules, hr, ?_⟩
  · rintro node rfl
    rw [← mem_typesCarrying_modelDirective_iff]
    simpa [Pass.typeFaults] using htype
  · rw [Access.checkRules_eq_settled, settled_eq_ok_iff, List.flatMap_eq_nil_iff]
    exact ⟨fun r hrule => (Access.ruleFaults_eq_nil_iff c r).2 (hfits r hrule), rfl⟩

theorem compileDocument_of_alike {d d' : Document} (h : d.Alike (fun _ => True) d') (c : Config) (cap : Int)
    {out : Output} (hout : compileDocument d c cap = .ok out) :
    ∃ out', compileDocument d' c cap = .ok out' ∧ out'.template = out.template ∧
      out'.policies = out.policies := by
  rw [compileDocument_of_padded h.padded, hout]
  exact ⟨_, rfl, rfl, rfl⟩

/-- On all nodes that are visited `@auth` is checked. Whatever stands on others, a document with the same
visited nodes and the same root types gets the same template and policies. -/
theorem compile_checks {schema : String} {c : Config} {cap : Int} {out : Output}
    (h : compile schema c cap = .ok out) : ∃ d, Document.read schema = .ok d ∧
      (∀ site, .site site ∈ d.carriers → site.carries Access.authDirective = true → Checked d c site) ∧
      ∀ d', d.Alike (fun _ => True) d' → ∃ out', compileDocument d' c cap = .ok out' ∧
        out'.template = out.template ∧ out'.policies = out.policies := by
  obtain ⟨d, hread, hcap, hfaults, hcompiled⟩ := (compile_eq_ok_iff schema c cap out).1 h
  refine ⟨d, hread, fun site hs hc => ?_, fun d' hd' => ?_⟩
  · exact checked_of_faults_eq_nil hfaults ((d.site_mem_carriers_iff site).1 hs) hc
  · exact compileDocument_of_alike hd' c cap
      ((compileDocument_eq_ok_iff d c cap out).2 ⟨hcap, hfaults, hcompiled⟩)

def interfaceSchema : String := "interface Node @auth(rules: []) { id: ID }"

def interfaceDocument : Document :=
  [.interface false ⟨none, "Node", [], [⟨"auth", [⟨"rules", .list []⟩]⟩],
    [⟨none, "id", [], .named "ID", []⟩]⟩]

theorem read_interfaceSchema : Document.read interfaceSchema = .ok interfaceDocument := by rfl

/-- The same interface, and rules for a type that implements it. -/
def implementedInterfaceSchema : String :=
  interfaceSchema ++ " type Post implements Node @model @auth(rules: [{allow: owner}]) { id: ID }"

def postType : GraphQL.Composite :=
  ⟨none, "Post", ["Node"],
    [⟨"model", []⟩, ⟨"auth", [⟨"rules", .list [.object [("allow", .enum "owner")]]⟩]⟩],
    [⟨none, "id", [], .named "ID", []⟩]⟩

def implementedInterfaceDocument : Document := interfaceDocument ++ [.object false postType]

set_option maxRecDepth 4000 in
theorem read_implementedInterfaceSchema :
    Document.read implementedInterfaceSchema = .ok implementedInterfaceDocument := by rfl

/-- The rules of the type are checked. Without the interface, all is as with it. -/
theorem compile_checks_implementedInterfaceSchema :
    ∃ out, compile implementedInterfaceSchema userPoolsAndIam 25 = .ok out ∧
      Checked implementedInterfaceDocument userPoolsAndIam (.type postType) ∧
      ∃ out', compileDocument [.object false postType] userPoolsAndIam 25 = .ok out' ∧
        out'.template = out.template ∧ out'.policies = out.policies := by
  obtain ⟨out, h⟩ := exists_ok_of_isOk
    (x := compile implementedInterfaceSchema userPoolsAndIam 25) (by decide +kernel)
  obtain ⟨d, hread, hchecked, helsewhere⟩ := compile_checks h
  rw [read_implementedInterfaceSchema] at hread
  obtain rfl := Except.ok.inj hread
  have hpost : .site (.type postType) ∈ implementedInterfaceDocument.carriers :=
    List.mem_flatMap.2 ⟨.object false postType, List.mem_cons_of_mem _ List.mem_cons_self,
      List.mem_cons_self⟩
  have hsame : List.Forall₂ (Site.Alike fun _ => True) implementedInterfaceDocument.sites
      (Document.sites [.object false postType]) :=
    List.forall₂_same.2 fun site _ => Site.Alike.refl _ site
  exact ⟨out, h, hchecked _ hpost (by decide), helsewhere _ ⟨rfl, hsame⟩⟩

/-- Not every `@auth` is checked: nobody reads the rules of an interface. -/
theorem interfaceRules_not_checked : (∃ out, compile interfaceSchema userPoolsAndIam 25 = .ok out) ∧
    Document.read interfaceSchema = .ok interfaceDocument ∧
    ∃ carrier ∈ interfaceDocument.carriers,
      GraphQL.carries Access.authDirective carrier.directives = true ∧
      (∀ place, Access.readRules userPoolsAndIam place carrier.directives =
        .error (.rule .rulesMissing)) ∧
      ¬ ∃ site, carrier = .site site ∧ Checked interfaceDocument userPoolsAndIam site := by
  refine ⟨exists_ok_of_isOk (by decide +kernel), read_interfaceSchema, _, List.mem_cons_self, by decide,
    fun place => rfl, ?_⟩
  rintro ⟨site, hsite, -⟩
  contradiction

end SchemaAccess
