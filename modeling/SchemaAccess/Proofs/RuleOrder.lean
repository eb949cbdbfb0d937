import SchemaAccess.Proofs.CompiledDocument

namespace SchemaAccess

open Access (Config Provider Role Rule)
open GraphQL (Argument Directive Document Literal Site)
open Pass (Output)

/-- The same value, or two lists of the same items in different order or number. -/
inductive Value.SameItems : Value → Value → Prop
  | same (v : Value) : SameItems v v
  | list {items items' : List Value} (hmem : ∀ v, v ∈ items' ↔ v ∈ items) :
      SameItems (.list items) (.list items')

namespace GraphQL

/-- The same argument, or two lists of the same rules. -/
inductive Argument.SameRules : Argument → Argument → Prop
  | same (a : Argument) : SameRules a a
  | list {items items' : List Literal} (hmem : ∀ x, x ∈ items' ↔ x ∈ items) :
      SameRules ⟨"rules", .list items⟩ ⟨"rules", .list items'⟩

/-- The same directive, or two `@auth` of which one gives its rules in another order, or some of them more
often. -/
inductive Directive.SameRules : Directive → Directive → Prop
  | same (d : Directive) : SameRules d d
  | auth {arguments arguments' : List Argument}
      (h : List.Forall₂ Argument.SameRules arguments arguments') :
      SameRules ⟨Access.authDirective, arguments⟩ ⟨Access.authDirective, arguments'⟩

inductive Site.SameRules : Site → Site → Prop
  | type {node node' : Composite} (hname : node'.name = node.name)
      (h : List.Forall₂ Directive.SameRules node.directives node'.directives) :
      SameRules (.type node) (.type node')
  | field {typeName : String} {f f' : FieldDef} (hname : f'.name = f.name)
      (h : List.Forall₂ Directive.SameRules f.directives f'.directives) :
      SameRules (.field typeName f) (.field typeName f')

/-- Documents that differ in the order and number of rules. What a compilation never looks at is left
open. -/
structure Document.SameRules (d d' : Document) : Prop where
  rootNames : d'.rootNames = d.rootNames
  sites : List.Forall₂ Site.SameRules d.sites d'.sites

end GraphQL

section Forall₂

variable {α β γ : Type} {R : α → β → Prop} {items : List α} {items' : List β}
  (h : List.Forall₂ R items items')
include h

theorem forall_mem_of_forall₂ {P : α → Prop} {Q : β → Prop} (hR : ∀ a b, R a b → P a → Q b)
    (hP : ∀ a ∈ items, P a) : ∀ b ∈ items', Q b := by
  induction h with
  | nil => exact List.forall_mem_nil Q
  | cons hab _ ih =>
    rw [List.forall_mem_cons] at hP ⊢
    exact ⟨hR _ _ hab hP.1, ih hP.2⟩

theorem filterMap_eq_of_forall₂ {f : α → Option γ} {g : β → Option γ} (hR : ∀ a b, R a b → g b = f a) :
    items'.filterMap g = items.filterMap f := by
  induction h with
  | nil => rfl
  | cons hab _ ih => rw [List.filterMap_cons, List.filterMap_cons, hR _ _ hab, ih]

end Forall₂

namespace GraphQL

namespace Argument.SameRules

variable {a a' : Argument} (h : a.SameRules a')
include h

protected theorem symm : a'.SameRules a := by
  cases h with
  | same => exact .same a
  | list hmem => exact .list fun x => (hmem x).symm

theorem name_eq : a'.name = a.name := by
  cases h <;> rfl

theorem sameItems : a.value.value.SameItems a'.value.value := by
  cases h with
  | same => exact .same _
  | list hmem =>
    apply Value.SameItems.list
    intro v
    rw [literalValues_eq_map, literalValues_eq_map, List.mem_map, List.mem_map]
    simp only [hmem]

end Argument.SameRules

namespace Directive.SameRules

variable {m m' : Directive} (h : m.SameRules m')
include h

protected theorem symm : m'.SameRules m := by
  cases h with
  | same => exact .same m
  | auth harguments => exact .auth (harguments.flip.imp fun _ _ => Argument.SameRules.symm)

theorem name_eq : m'.name = m.name := by
  cases h <;> rfl

theorem field_settings (key : String) :
    (Value.field m.settings key).SameItems (Value.field m'.settings key) := by
  cases h with
  | same => exact .same _
  | @auth arguments arguments' harguments =>
    have hreversed : List.Forall₂ Argument.SameRules arguments.reverse arguments'.reverse :=
      List.forall₂_reverse_iff.2 harguments
    -- the last argument of a name is the first one that is found from behind
    simp only [Value.field, settings, Entries.find?_ofWrites, ← List.map_reverse]
    generalize arguments.reverse = later, arguments'.reverse = later' at hreversed
    induction hreversed with
    | nil => exact .same _
    | @cons a a' _ _ ha _ ih =>
      rw [List.map_cons, List.map_cons, Entries.find?, Entries.find?, ha.name_eq]
      split
      · exact ha.sameItems
      · exact ih

end Directive.SameRules

section Directives

variable {ds ds' : List Directive} (h : List.Forall₂ Directive.SameRules ds ds')
include h

theorem directives_sameRules_symm : List.Forall₂ Directive.SameRules ds' ds :=
  h.flip.imp fun _ _ => Directive.SameRules.symm

theorem directivesNamed_sameRules (name : String) :
    List.Forall₂ Directive.SameRules (directivesNamed name ds) (directivesNamed name ds') := by
  induction h with
  | nil => exact .nil
  | cons hm _ ih =>
    simp only [directivesNamed, List.filter_cons, hm.name_eq] at ih ⊢
    split
    · exact .cons hm ih
    · exact ih

theorem directivesNamed_eq_of_sameRules {name : String} (hname : name ≠ Access.authDirective) :
    directivesNamed name ds' = directivesNamed name ds := by
  induction h with
  | nil => rfl
  | cons hm _ ih =>
    simp only [directivesNamed, List.filter_cons] at ih ⊢
    cases hm with
    | same => rw [ih]
    | auth => simp [hname.symm, ih]

theorem carries_eq_of_sameRules (name : String) : carries name ds' = carries name ds := by
  have hlength := (directivesNamed_sameRules h name).length_eq
  have hnone : directivesNamed name ds' = [] ↔ directivesNamed name ds = [] := by
    rw [← List.length_eq_zero_iff, ← hlength, List.length_eq_zero_iff]
  rw [directivesNamed_eq_nil_iff, directivesNamed_eq_nil_iff] at hnone
  rw [Bool.eq_iff_iff, ← not_iff_not, Bool.not_eq_true, Bool.not_eq_true, hnone]

end Directives

end GraphQL

namespace Access

theorem mem_iff_of_mapM_eq_ok {α β : Type} {f : α → Except Failure β} {items : List α} {results : List β}
    (h : items.mapM f = .ok results) (b : β) : b ∈ results ↔ ∃ a ∈ items, f a = .ok b := by
  have hall := forall₂_of_mapM_eq_ok h
  clear h
  induction hall with
  | nil => simp
  | cons ha _ ih => simp [ih, ha, eq_comm (a := b)]

theorem exists_mapM_eq_ok {α β : Type} {f : α → Except Failure β} {items items' : List α}
    {results : List β} (hmem : ∀ a, a ∈ items' ↔ a ∈ items) (h : items.mapM f = .ok results) :
    ∃ results', items'.mapM f = .ok results' ∧ ∀ b, b ∈ results' ↔ b ∈ results := by
  obtain ⟨results', h'⟩ := exists_mapM_eq_ok_of_forall fun a ha => exists_ok_of_mapM h ((hmem a).1 ha)
  refine ⟨results', h', fun b => ?_⟩
  rw [mem_iff_of_mapM_eq_ok h', mem_iff_of_mapM_eq_ok h]
  simp only [hmem]

theorem exists_ruleValues_of_sameItems {v v' : Value} (h : v.SameItems v') {values : List Value}
    (hvalues : ruleValues v = .ok values) :
    ∃ values', ruleValues v' = .ok values' ∧ ∀ w, w ∈ values' ↔ w ∈ values := by
  cases h with
  | same => exact ⟨values, hvalues, fun _ => Iff.rfl⟩
  | @list items items' hmem =>
    -- an empty list gives no rules, and only it has the same items as an empty one
    cases items with
    | nil => exact absurd hvalues (throw_ne_ok _ values)
    | cons v more =>
      obtain rfl : v :: more = values := Except.ok.inj hvalues
      have hv : v ∈ items' := (hmem v).2 List.mem_cons_self
      cases items' with
      | nil => contradiction
      | cons v' more' => exact ⟨v' :: more', rfl, hmem⟩

section Rules

variable {ds ds' : List Directive} (h : List.Forall₂ Directive.SameRules ds ds') (c : Config)
  (place : String)
include h

theorem exists_readRules_of_sameRules {rules : List Rule} (hr : readRules c place ds = .ok rules) :
    ∃ rules', readRules c place ds' = .ok rules' ∧ ∀ r, r ∈ rules' ↔ r ∈ rules := by
  have hnamed := GraphQL.directivesNamed_sameRules h authDirective
  unfold readRules at hr ⊢
  generalize GraphQL.directivesNamed authDirective ds = auths,
    GraphQL.directivesNamed authDirective ds' = auths' at hnamed hr
  cases hnamed with
  | nil => exact ⟨rules, hr, fun _ => Iff.rfl⟩
  | @cons auth auth' _ _ hauth hmore =>
    cases hmore with
    | nil =>
      obtain ⟨values, hvalues, hrules⟩ := (bind_eq_ok_iff _ _ rules).1 hr
      obtain ⟨values', hvalues', hmem⟩ := exists_ruleValues_of_sameItems (hauth.field_settings "rules") hvalues
      obtain ⟨rules', hrules', hsame⟩ := exists_mapM_eq_ok hmem hrules
      exact ⟨rules', (bind_eq_ok_iff _ _ rules').2 ⟨values', hvalues', hrules'⟩, hsame⟩
    | cons => exact absurd hr (throw_ne_ok _ rules)

theorem mem_readRules_iff_of_sameRules (r : Rule) :
    r ∈ (readRules c place ds').toOption.getD [] ↔ r ∈ (readRules c place ds).toOption.getD [] := by
  cases hr : readRules c place ds with
  | ok rules =>
    obtain ⟨rules', hr', hmem⟩ := exists_readRules_of_sameRules h c place hr
    rw [hr']
    exact hmem r
  | error e =>
    cases hr' : readRules c place ds' with
    | error e' => exact Iff.rfl
    | ok rules' =>
      have hback := GraphQL.directives_sameRules_symm h
      obtain ⟨rules, hok, -⟩ := exists_readRules_of_sameRules hback c place hr'
      rw [hr] at hok
      contradiction

end Rules

theorem markerProviders_perm {rules rules' : List Rule} (c : Config) (hmem : ∀ r, r ∈ rules' ↔ r ∈ rules) :
    (markerProviders c rules).Perm (markerProviders c rules') := by
  rw [List.perm_ext_iff_of_nodup (nodup_markerProviders c rules) (nodup_markerProviders c rules')]
  intro p
  rw [mem_markerProviders_iff, mem_markerProviders_iff]
  simp only [hmem]

end Access

namespace GraphQL.Site.SameRules

variable {site site' : Site} (h : site.SameRules site')
include h

protected theorem symm : site'.SameRules site := by
  cases h with
  | type hname h => exact .type hname.symm (directives_sameRules_symm h)
  | field hname h => exact .field hname.symm (directives_sameRules_symm h)

theorem directives : List.Forall₂ Directive.SameRules site.directives site'.directives := by
  cases h with
  | type _ h => exact h
  | field _ h => exact h

theorem alike : site.Alike (· ≠ Access.authDirective) site' := by
  cases h with
  | type hname h => exact .type hname fun _ hne => directivesNamed_eq_of_sameRules h hne
  | field hname h => exact .field hname fun _ hne => directivesNamed_eq_of_sameRules h hne

theorem carries_eq (name : String) : site'.carries name = site.carries name :=
  carries_eq_of_sameRules h.directives name

theorem mem_rulesAt_iff (c : Config) (r : Rule) : r ∈ Pass.rulesAt c site' ↔ r ∈ Pass.rulesAt c site := by
  rw [Pass.rulesAt, h.alike.place_eq]
  exact Access.mem_readRules_iff_of_sameRules h.directives c site.place r

theorem admits_eq (c : Config) (role : Role) : admits c role site' = admits c role site := by
  have hany : (Pass.rulesAt c site').any (role ∈ ·.grants) = (Pass.rulesAt c site).any (role ∈ ·.grants) := by
    rw [Bool.eq_iff_iff, List.any_eq_true, List.any_eq_true]
    simp only [h.mem_rulesAt_iff c]
  rw [admits, admits, h.carries_eq, hany]

theorem accessFaults_eq_nil {c : Config} {roots models : List String}
    (hnone : Pass.accessFaults c roots models site = []) : Pass.accessFaults c roots models site' = [] := by
  by_cases hc : site.carries Access.authDirective = true
  · obtain ⟨htype, rules, hr, hfield, hfits, hmarkers⟩ := (Pass.accessFaults_eq_nil_iff c _ _ hc).1 hnone
    obtain ⟨rules', hr', hmem⟩ := Access.exists_readRules_of_sameRules h.directives c site.place hr
    rw [← h.carries_eq] at hc
    rw [Pass.accessFaults_eq_nil_iff c _ _ hc, h.alike.place_eq, Pass.typeFaults_eq_of_alike h.alike,
      Pass.isMarkable_eq_of_alike h.alike]
    simp only [Pass.fieldFaults_eq_of_alike h.alike]
    refine ⟨htype, rules', hr', ?_, fun r hr => hfits r ((hmem r).1 hr), fun hm => ?_⟩
    · cases site with
      | type => exact hfield
      | field =>
        rw [Pass.fieldFaults, Access.restrictionFaults_eq_nil_iff] at hfield ⊢
        simpa only [hmem] using hfield
    · have hfree := hmarkers hm
      rw [Access.markerFaults_markerProviders_eq_nil_iff] at hfree ⊢
      intro r hr hp
      rw [carries_eq_of_sameRules h.directives]
      exact hfree r ((hmem r).1 hr) hp
  · rw [← h.carries_eq] at hc
    exact Pass.accessFaults_of_not_carries c _ _ hc

end GraphQL.Site.SameRules

namespace GraphQL.Document.SameRules

variable {d d' : Document} (h : d.SameRules d')
include h

protected theorem symm : d'.SameRules d where
  rootNames := h.rootNames.symm
  sites := h.sites.flip.imp fun _ _ => Site.SameRules.symm

theorem alike : d.Alike (· ≠ Access.authDirective) d' where
  rootNames := h.rootNames
  sites := h.sites.imp fun _ _ => Site.SameRules.alike

theorem faults_eq_nil {c : Config} (hnone : faults d c = []) : faults d' c = [] := by
  rw [faults, List.append_eq_nil_iff, List.flatMap_eq_nil_iff] at hnone ⊢
  rw [h.alike.padded.bindingFaults_eq (by decide), h.rootNames, h.alike.padded.typesCarrying_eq (by decide)]
  refine ⟨hnone.1, forall_mem_of_forall₂ h.sites ?_ hnone.2⟩
  intro _ _ hsite
  exact hsite.accessFaults_eq_nil

theorem faults_eq_nil_iff (c : Config) : SchemaAccess.faults d' c = [] ↔ SchemaAccess.faults d c = [] :=
  ⟨h.symm.faults_eq_nil, h.faults_eq_nil⟩

theorem grantedFields_eq (c : Config) : grantedFields d' c = grantedFields d c := by
  funext role
  have hbacked : Pass.backed d' = Pass.backed d :=
    h.alike.padded.fieldsWith_eq fun _ _ hsite => hsite.carries_eq (by decide)
  have hadmitted : d'.fieldsWith (admits c role) = d.fieldsWith (admits c role) := by
    rw [fieldsWith, fieldsWith, List.filterMap_filter, List.filterMap_filter]
    apply filterMap_eq_of_forall₂ h.sites
    intro _ _ hsite
    rw [hsite.admits_eq, hsite.alike.resource?_eq]
  rw [grantedFields, grantedFields, h.rootNames, hbacked, hadmitted]

end GraphQL.Document.SameRules

namespace GraphQL

/-- The lists that arguments give for rules, rearranged. -/
def Argument.rearranged (f : List Literal → List Literal) : Argument → Argument
  | ⟨"rules", .list items⟩ => ⟨"rules", .list (f items)⟩
  | other => other

def Directive.rearranged (f : List Literal → List Literal) (m : Directive) : Directive :=
  if m.name = Access.authDirective then { m with arguments := m.arguments.map (Argument.rearranged f) }
  else m

/-- Whatever is done to the lists of rules at each site, if only their items are kept. -/
theorem Document.sameRules_rearranged {f : Site → List Literal → List Literal}
    (hf : ∀ site items x, x ∈ f site items ↔ x ∈ items) (d : Document) :
    d.SameRules (d.withDirectives fun site => site.directives.map (Directive.rearranged (f site))) where
  rootNames := d.rootNames_withDirectives _
  sites := by
    have hargument : ∀ site (a : Argument), a.SameRules (a.rearranged (f site)) := by
      intro site a
      unfold Argument.rearranged
      split
      · exact .list (hf site _)
      · exact .same a
    have hdirective : ∀ site (m : Directive), m.SameRules (m.rearranged (f site)) := by
      intro site m
      unfold Directive.rearranged
      split
      · rename_i hname
        obtain ⟨name, arguments⟩ := m
        obtain rfl : name = Access.authDirective := hname
        apply Directive.SameRules.auth
        rw [List.forall₂_map_right_iff, List.forall₂_same]
        exact fun a _ => hargument site a
      · exact .same m
    have hdirectives : ∀ site (ds : List Directive),
        List.Forall₂ Directive.SameRules ds (ds.map (Directive.rearranged (f site))) := by
      intro site ds
      rw [List.forall₂_map_right_iff, List.forall₂_same]
      exact fun m _ => hdirective site m
    rw [Document.sites_withDirectives, List.forall₂_map_right_iff, List.forall₂_same]
    intro site _
    cases site with
    | type node => exact .type rfl (hdirectives _ _)
    | field typeName f => exact .field rfl (hdirectives _ _)

end GraphQL

/-- A document with markers put behind the directives of its sites. -/
def withMarkersOf (m : Site → List Provider) (d : Document) : Document :=
  d.withDirectives fun site => site.directives ++ Access.markersOf (m site)

/-- Two documents get the same markers at every site, each once, in an order that may be another one. -/
def MarkedAlike (d d' after after' : Document) : Prop :=
  ∃ m m' : Site → List Provider, after = withMarkersOf m d ∧ after' = withMarkersOf m' d' ∧
    List.Forall₂ (fun site site' => (m site).Nodup ∧ (m site).Perm (m' site')) d.sites d'.sites

def addedProviders (c : Config) (roots : List String) (site : Site) : List Provider :=
  if site.carries Access.authDirective && Pass.isMarkable roots site then
    Access.markerProviders c (Pass.rulesAt c site)
  else []

theorem markersOf_addedProviders (c : Config) (roots : List String) (site : Site) :
    Access.markersOf (addedProviders c roots site) = Pass.siteMarkers c roots site := by
  unfold addedProviders Pass.siteMarkers
  split <;> rfl

theorem compiled_document_eq_withMarkersOf (d : Document) (c : Config) (cap : Int) :
    (compiled d c cap).document = withMarkersOf (addedProviders c d.rootNames) d := by
  apply Document.withDirectives_congr
  intro site _
  rw [Pass.markedDirectives, markersOf_addedProviders]

theorem nodup_addedProviders (c : Config) (roots : List String) (site : Site) :
    (addedProviders c roots site).Nodup := by
  unfold addedProviders
  split
  · exact Access.nodup_markerProviders c _
  · exact List.nodup_nil

theorem addedProviders_perm {site site' : Site} (h : site.SameRules site') (c : Config)
    (roots : List String) : (addedProviders c roots site).Perm (addedProviders c roots site') := by
  unfold addedProviders
  rw [h.carries_eq, Pass.isMarkable_eq_of_alike h.alike]
  split
  · exact Access.markerProviders_perm c (h.mem_rulesAt_iff c)
  · exact List.Perm.refl []

theorem markedAlike_compiled {d d' : Document} (h : d.SameRules d') (c : Config) (cap : Int) :
    MarkedAlike d d' (compiled d c cap).document (compiled d' c cap).document := by
  refine ⟨addedProviders c d.rootNames, addedProviders c d'.rootNames,
    compiled_document_eq_withMarkersOf d c cap, compiled_document_eq_withMarkersOf d' c cap, ?_⟩
  rw [h.rootNames]
  exact h.sites.imp fun site _ hsite =>
    ⟨nodup_addedProviders c d.rootNames site, addedProviders_perm hsite c d.rootNames⟩

/-- The order of rules, and how often one is given, has no say in whether a document is accepted and what is
granted for it. It moves markers at most. -/
theorem compileDocument_sameRules {d d' : Document} (h : d.SameRules d') (c : Config) (cap : Int) :
    ((∃ out, compileDocument d c cap = .ok out) ↔ ∃ out', compileDocument d' c cap = .ok out') ∧
    ∀ out out', compileDocument d c cap = .ok out → compileDocument d' c cap = .ok out' →
      out'.policies = out.policies ∧ out'.template = out.template ∧
        MarkedAlike d d' out.document out'.document := by
  simp only [compileDocument_eq_ok_iff, h.faults_eq_nil_iff]
  constructor
  · simp only [exists_and_left, exists_eq']
  · intro out out' hout hout'
    obtain ⟨-, -, rfl⟩ := hout
    obtain ⟨-, -, rfl⟩ := hout'
    have hgranted := h.grantedFields_eq c
    refine ⟨?_, ?_, markedAlike_compiled h c cap⟩
    · rw [compiled, compiled, hgranted]
    · rw [compiled, compiled, hgranted]

def userPoolsIamAndKeys : Config := ⟨.bare .userPools, [.bare .iam, .bare .apiKey], by decide⟩

/-- A field for IAM callers, and for those who hold a key. -/
def openQuery : Document :=
  [.object false ⟨none, "Query", [], [], [⟨none, "a", [], .named "String",
    [⟨"function", [⟨"name", .string "f" false⟩]⟩,
     ⟨"auth", [⟨"rules", .list
      [.object [("allow", .enum "private"), ("provider", .enum "iam")],
       .object [("allow", .enum "public"), ("provider", .enum "apiKey")]]⟩]⟩]⟩]⟩]

/-- Its rules, given twice, with those for keys in front. -/
def openQueryAgain : Document :=
  openQuery.withDirectives fun site =>
    site.directives.map (GraphQL.Directive.rearranged fun items => items.reverse ++ items)

theorem compileDocument_sameRules_openQuery : openQuery.SameRules openQueryAgain ∧
    ∃ out out', compileDocument openQuery userPoolsIamAndKeys 25 = .ok out ∧
      compileDocument openQueryAgain userPoolsIamAndKeys 25 = .ok out' ∧
      out.policies.map (·.resources) = [[⟨"Query", "a"⟩]] ∧
      out'.policies = out.policies ∧ out'.template = out.template ∧
      MarkedAlike openQuery openQueryAgain out.document out'.document := by
  have hkept : ∀ (_ : Site) (items : List Literal) x, x ∈ items.reverse ++ items ↔ x ∈ items := by
    intro _ items x
    rw [List.mem_append, List.mem_reverse, or_self]
  have hsame : openQuery.SameRules openQueryAgain := Document.sameRules_rearranged hkept openQuery
  have hgranted : (compileDocument openQuery userPoolsIamAndKeys 25).toOption.map
      (fun out => out.policies.map (·.resources)) = some [[⟨"Query", "a"⟩]] := by
    decide +kernel
  obtain ⟨out, hsome, hfields⟩ := Option.map_eq_some_iff.1 hgranted
  have hout := eq_ok_of_toOption_eq_some hsome
  obtain ⟨hiff, houtputs⟩ := compileDocument_sameRules hsame userPoolsIamAndKeys 25
  obtain ⟨out', hout'⟩ := hiff.1 ⟨out, hout⟩
  exact ⟨hsame, out, out', hout, hout', hfields, houtputs out out' hout hout'⟩

end SchemaAccess
