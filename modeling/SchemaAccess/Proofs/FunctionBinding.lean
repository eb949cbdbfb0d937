import Mathlib.Data.List.Basic
import SchemaAccess.Proofs.HandlerWalk

namespace SchemaAccess.Pass

open GraphQL (Site Directive Document)
open Policy (Resource)

/-- The name that the first `@function` gives. A blank text is no name. -/
def functionName? (ds : List Directive) : Option String :=
  match GraphQL.directivesNamed functionDirective ds with
  | [] => none
  | d :: _ =>
    match Value.field d.settings "name" with
    | .string s => if Text.isBlank s then none else some s
    | _ => none

def siteBinding? : Site → Option Binding
  | .type _ => none
  | .field typeName f =>
    if GraphQL.carries functionDirective f.directives then (functionBinding typeName f).toOption else none

/-- What is wrong with `@function` at a site, when some fields are bound already. -/
def functionFaults (bound : List Binding) : Site → List Failure
  | .type node =>
    if GraphQL.carries functionDirective node.directives then
      [.placement (.unsupportedOnType functionDirective node.name)]
    else []
  | .field typeName f =>
    if GraphQL.carries functionDirective f.directives then
      match functionName? f.directives with
      | none => [.placement (.functionUnnamed (GraphQL.location (some typeName) f.name))]
      | some _ =>
        match bound.find? fun b => b.typeName = typeName ∧ b.fieldName = f.name with
        | some first => [.placement (.alreadyBound typeName f.name first.functionName)]
        | none => []
    else []

/-- The faults of `@function` along sites. Each field is bound before the next site is looked at. -/
def bindingFaults : List Binding → List Site → List Failure :=
  along functionFaults fun bound site => bound ++ (siteBinding? site).toList

def bindSite (s : Session) (site : Site) : Session :=
  { s with bindings := s.bindings ++ (siteBinding? site).toList }

def Binding.resource (b : Binding) : Resource := ⟨b.typeName, b.fieldName⟩

@[simp] theorem bindingFaults_nil (bound : List Binding) : bindingFaults bound [] = [] := rfl

theorem bindingFaults_cons (bound : List Binding) (site : Site) (rest : List Site) :
    bindingFaults bound (site :: rest) =
      functionFaults bound site ++ bindingFaults (bound ++ (siteBinding? site).toList) rest := rfl

theorem head?_bindingFaults_eq_some_iff (sites : List Site) (e : Failure) :
    (bindingFaults [] sites).head? = some e ↔ ∃ before site after, sites = before ++ site :: after ∧
      bindingFaults [] before = [] ∧
      (functionFaults (before.filterMap siteBinding?) site).head? = some e := by
  have hbound : ∀ before : List Site,
      before.foldl (fun bound site => bound ++ (siteBinding? site).toList) [] =
        before.filterMap siteBinding? := by
    intro before
    rw [← List.flatMap_eq_foldl, List.filterMap_eq_flatMap_toList]
  have hfirst := head?_along_eq_some_iff functionFaults
    (fun bound site => bound ++ (siteBinding? site).toList) [] sites e
  simp only [hbound] at hfirst
  exact hfirst

theorem functionName?_ne_none_iff (ds : List Directive) : functionName? ds ≠ none ↔
    ∃ first more name, GraphQL.directivesNamed functionDirective ds = first :: more ∧
      Value.field first.settings "name" = .string name ∧ Text.isBlank name = false := by
  unfold functionName?
  cases GraphQL.directivesNamed functionDirective ds with
  | nil => simp
  | cons first more => cases hv : Value.field first.settings "name" <;> simp [hv]

theorem functionBinding_eq_error (typeName : String) (f : GraphQL.FieldDef)
    (h : functionName? f.directives = none) : functionBinding typeName f =
      .error (.placement (.functionUnnamed (GraphQL.location (some typeName) f.name))) := by
  unfold functionName? at h
  unfold functionBinding
  split at h
  · rename_i hd
    simp only [hd]
    rfl
  · rename_i d rest hd
    simp only [hd]
    cases hv : Value.field d.settings "name" with
    | string s =>
      rw [hv] at h
      cases hs : Text.isBlank s with
      | true => simp [hs, throw, throwThe, MonadExceptOf.throw]
      | false => simp [hs] at h
    | _ => rfl

theorem functionBinding_eq_ok (typeName : String) (f : GraphQL.FieldDef) {s : String}
    (h : functionName? f.directives = some s) :
    ∃ region, functionBinding typeName f = .ok ⟨typeName, f.name, s, region⟩ := by
  unfold functionName? at h
  unfold functionBinding
  split at h
  · exact absurd h (by simp)
  · rename_i d rest hd
    simp only [hd]
    cases hv : Value.field d.settings "name" with
    | string s' =>
      rw [hv] at h
      cases hs : Text.isBlank s' with
      | true => simp [hs] at h
      | false =>
        obtain rfl : s' = s := by simpa [hs] using h
        exact ⟨Value.field d.settings "region", by simp [hs, pure, Except.pure]⟩
    | _ => simp [hv] at h

theorem siteBinding?_eq_some (typeName : String) (f : GraphQL.FieldDef) {name : String}
    (hc : GraphQL.carries functionDirective f.directives = true)
    (h : functionName? f.directives = some name) :
    ∃ b, siteBinding? (.field typeName f) = some b ∧ b.resource = ⟨typeName, f.name⟩ := by
  obtain ⟨region, hb⟩ := functionBinding_eq_ok typeName f h
  exact ⟨⟨typeName, f.name, name, region⟩, by simp [siteBinding?, hc, hb, Except.toOption], rfl⟩

theorem bind_eq_settled (s : Session) (b : Binding) :
    s.bind b = settled (match s.binding? b.typeName b.fieldName with
        | some first => [.placement (.alreadyBound b.typeName b.fieldName first.functionName)]
        | none => [])
      { s with bindings := s.bindings ++ [b] } := by
  unfold Session.bind
  cases s.binding? b.typeName b.fieldName <;> rfl

theorem outcome_visitField_function (s : Session) (typeName : String) (f : GraphQL.FieldDef) :
    (Handler.visitField .function typeName f).outcome s =
      settled (functionFaults s.bindings (.field typeName f)) (f, bindSite s (.field typeName f)) := by
  unfold Handler.visitField functionFaults
  by_cases hc : GraphQL.carries functionDirective f.directives = true
  · simp only [Handler.directive, hc, if_true]
    cases hn : functionName? f.directives with
    | none =>
      rw [Handler.atField, Step.outcome_bind, Step.outcome_update, functionBinding_eq_error typeName f hn]
      rfl
    | some name =>
      obtain ⟨region, hb⟩ := functionBinding_eq_ok typeName f hn
      rw [Handler.atField, Step.outcome_bind, Step.outcome_update, hb]
      change (Except.map _ (s.bind ⟨typeName, f.name, name, region⟩) >>= _) = _
      rw [bind_eq_settled]
      unfold Session.binding?
      cases hfirst : s.bindings.find? fun b => b.typeName = typeName ∧ b.fieldName = f.name with
      | some first => rfl
      | none => simp [bindSite, siteBinding?, hc, hb, Except.toOption, Except.map, bind, Except.bind]
  · simp [Handler.directive, hc, bindSite, siteBinding?]

def functionLaw : SiteLaw .function fun _ => True where
  faults s := functionFaults s.bindings
  next := bindSite
  directives := Site.directives
  keeps _ _ _ := trivial
  at_type s node _ := by
    unfold Handler.visitType functionFaults
    by_cases hc : GraphQL.carries functionDirective node.directives = true
    · simp only [Handler.directive, hc, if_true]
      rfl
    · simp [Handler.directive, hc, bindSite, siteBinding?, Site.directives]
  at_field s typeName f _ := outcome_visitField_function s typeName f

theorem foldl_bindSite (s : Session) (sites : List Site) :
    sites.foldl bindSite s = { s with bindings := s.bindings ++ sites.filterMap siteBinding? } := by
  induction sites generalizing s with
  | nil => simp
  | cons site sites ih =>
    rw [List.foldl_cons, ih]
    cases h : siteBinding? site <;> simp [bindSite, h]

theorem along_functionFaults (s : Session) (sites : List Site) :
    along functionLaw.faults functionLaw.next s sites = bindingFaults s.bindings sites := by
  induction sites generalizing s with
  | nil => rfl
  | cons site sites ih =>
    rw [along_cons, ih]
    rfl

theorem outcome_walk_function (d : Document) (s : Session) :
    (Handler.walk .function d).outcome s = settled (bindingFaults s.bindings d.sites)
      (d, { s with bindings := s.bindings ++ d.sites.filterMap siteBinding? }) := by
  rw [functionLaw.outcome_walk rfl d s trivial, along_functionFaults]
  change settled _ (d.withDirectives Site.directives, d.sites.foldl bindSite s) = _
  rw [d.withDirectives_directives, foldl_bindSite]

/-- Types carry no `@function`, and fields name a function with the first one that they carry. -/
def NamesFunction : Site → Prop
  | .type node => GraphQL.carries functionDirective node.directives = false
  | .field _ f => GraphQL.carries functionDirective f.directives = true → functionName? f.directives ≠ none

def backed (d : Document) : List Resource := d.fieldsWith fun site => site.carries functionDirective

theorem find?_resource_eq_none_iff (bound : List Binding) (typeName fieldName : String) :
    (bound.find? fun b => b.typeName = typeName ∧ b.fieldName = fieldName) = none ↔
      ⟨typeName, fieldName⟩ ∉ bound.map Binding.resource := by
  simp [List.find?_eq_none, Binding.resource]

def claimed? (site : Site) : Option Resource :=
  if site.carries functionDirective then site.resource? else none

@[simp] theorem claimed?_type (node : GraphQL.Composite) : claimed? (.type node) = none := ite_self none

theorem filterMap_claimed? (d : Document) : d.sites.filterMap claimed? = backed d :=
  List.filterMap_filter.symm

theorem resource_siteBinding? {site : Site} (h : NamesFunction site) :
    (siteBinding? site).map Binding.resource = claimed? site := by
  cases site with
  | type node => simp [siteBinding?]
  | field typeName f =>
    by_cases hc : GraphQL.carries functionDirective f.directives = true
    · obtain ⟨name, hn⟩ := Option.ne_none_iff_exists'.1 (h hc)
      obtain ⟨b, hsome, hres⟩ := siteBinding?_eq_some typeName f hc hn
      simp [hsome, claimed?, hc, hres]
    · simp [siteBinding?, claimed?, hc]

theorem map_resource_siteBinding? (sites : List Site) (h : ∀ site ∈ sites, NamesFunction site) :
    (sites.filterMap siteBinding?).map Binding.resource = sites.filterMap claimed? := by
  rw [List.map_filterMap]
  exact List.filterMap_congr fun site hs => resource_siteBinding? (h site hs)

theorem functionFaults_eq_nil_iff (bound : List Binding) (site : Site) :
    functionFaults bound site = [] ↔
      NamesFunction site ∧ ∀ r ∈ claimed? site, r ∉ bound.map Binding.resource := by
  cases site with
  | type node => simp [functionFaults, NamesFunction]
  | field typeName f =>
    by_cases hc : GraphQL.carries functionDirective f.directives = true
    · cases hn : functionName? f.directives with
      | none => simp [functionFaults, NamesFunction, hc, hn]
      | some name =>
        have hnew := find?_resource_eq_none_iff bound typeName f.name
        have hclaimed : claimed? (.field typeName f) = some ⟨typeName, f.name⟩ := if_pos hc
        simp only [functionFaults, hc, hn, if_true, hclaimed, Option.mem_some_iff, forall_eq', ← hnew]
        cases bound.find? fun b => b.typeName = typeName ∧ b.fieldName = f.name <;> simp [NamesFunction, hn]
    · simp [functionFaults, NamesFunction, claimed?, hc]

/-- Functions are bound without fault if every field names its own and no field carries
`@function` twice over the document. -/
theorem bindingFaults_eq_nil_iff (bound : List Binding) (sites : List Site)
    (hb : (bound.map Binding.resource).Nodup) :
    bindingFaults bound sites = [] ↔ (∀ site ∈ sites, NamesFunction site) ∧
      (bound.map Binding.resource ++ sites.filterMap claimed?).Nodup := by
  induction sites generalizing bound with
  | nil => simpa using hb
  | cons site sites ih =>
    have hsplit : (site :: sites).filterMap claimed? =
        (claimed? site).toList ++ sites.filterMap claimed? := by
      cases h : claimed? site <;> simp [h]
    rw [bindingFaults_cons, List.append_eq_nil_iff, functionFaults_eq_nil_iff, List.forall_mem_cons, hsplit,
      ← List.append_assoc]
    -- the site is bound when those behind it are looked at
    have hnext : NamesFunction site → (bound ++ (siteBinding? site).toList).map Binding.resource =
        bound.map Binding.resource ++ (claimed? site).toList := by
      intro hname
      rw [List.map_append, ← resource_siteBinding? hname, Option.toList_map]
    constructor
    · rintro ⟨⟨hname, hfree⟩, hrest⟩
      have hnodup : (bound.map Binding.resource ++ (claimed? site).toList).Nodup := by
        refine List.nodup_append.2 ⟨hb, by cases claimed? site <;> simp, fun r hr r' hr' e => ?_⟩
        exact hfree r' (Option.mem_toList.1 hr') (e ▸ hr)
      rw [ih _ (hnext hname ▸ hnodup), hnext hname] at hrest
      exact ⟨⟨hname, hrest.1⟩, hrest.2⟩
    · rintro ⟨⟨hname, hnames⟩, hnodup⟩
      have hhere := (List.nodup_append.1 hnodup).1
      refine ⟨⟨hname, fun r hr hmem => ?_⟩, ?_⟩
      · exact (List.nodup_append.1 hhere).2.2 r hmem r (Option.mem_toList.2 hr) rfl
      · rw [ih _ (hnext hname ▸ hhere), hnext hname]
        exact ⟨hnames, hnodup⟩

theorem isSome_binding?_iff (s : Session) (d : Document) (h : ∀ site ∈ d.sites, NamesFunction site)
    (hs : s.bindings = d.sites.filterMap siteBinding?) (r : Resource) :
    (s.binding? r.typeName r.fieldName).isSome = true ↔ r ∈ backed d := by
  have hfind := find?_resource_eq_none_iff s.bindings r.typeName r.fieldName
  rw [hs, map_resource_siteBinding? d.sites h] at hfind
  rw [Option.isSome_iff_ne_none, Session.binding?, hs, Ne, hfind, Decidable.not_not, filterMap_claimed?]

end SchemaAccess.Pass
