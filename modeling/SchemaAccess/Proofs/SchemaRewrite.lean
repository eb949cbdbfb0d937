import SchemaAccess.Proofs.CompiledDocument

namespace SchemaAccess

open Access (Config Provider)
open GraphQL (Directive Document Site)
open Pass (Output)

/-- The providers that the rules of directives use besides the default one, each once, in the order of
the rules. -/
def calledFor (c : Config) (ds : List Directive) : List Provider :=
  ((Access.writtenProviders c ds).filter (· ≠ c.defaultProvider)).eraseDups

/-- Sites that get markers: fields that carry `@auth`, and types that do and are not root types. -/
def IsMarked (d : Document) : Site → Prop
  | .type node => GraphQL.carries Access.authDirective node.directives = true ∧ node.name ∉ d.rootNames
  | .field _ f => GraphQL.carries Access.authDirective f.directives = true

instance (d : Document) : DecidablePred (IsMarked d)
  | .type _ => inferInstanceAs (Decidable (_ ∧ _))
  | .field _ _ => inferInstanceAs (Decidable (_ = _))

/-- A document with the markers that its rules call for, each without arguments, behind all other
directives of a site. -/
def rewritten (c : Config) (d : Document) : Document :=
  d.withDirectives fun site => site.directives ++
    if IsMarked d site then (calledFor c site.directives).map fun p => .plain p.marker else []

theorem isMarked_iff (d : Document) (site : Site) :
    IsMarked d site ↔
      site.carries Access.authDirective = true ∧ Pass.isMarkable d.rootNames site = true := by
  cases site <;> simp [IsMarked, Pass.isMarkable]

theorem markerProviders_eq_calledFor {c : Config} {place : String} {ds : List Directive}
    {rules : List Access.Rule} (h : Access.readRules c place ds = .ok rules) :
    Access.markerProviders c rules = calledFor c ds := by
  rw [Access.markerProviders_eq, Access.map_provider_eq_writtenProviders h, calledFor]

theorem siteMarkers_eq {d : Document} {c : Config} (h : faults d c = []) {site : Site}
    (hs : site ∈ d.sites) :
    Pass.siteMarkers c d.rootNames site =
      if IsMarked d site then (calledFor c site.directives).map fun p => .plain p.marker else [] := by
  by_cases hm : IsMarked d site
  · obtain ⟨hc, hmarkable⟩ := (isMarked_iff d site).1 hm
    obtain ⟨rules, hr, -⟩ := exists_readRules_of_faults_eq_nil h hs hc
    rw [if_pos hm, Pass.siteMarkers_of_readRules hc hmarkable hr, Access.markersOf,
      markerProviders_eq_calledFor hr]
  · rw [if_neg hm, Pass.siteMarkers, if_neg]
    rwa [isMarked_iff, ← Bool.and_eq_true_iff] at hm

theorem compiled_document_eq (d : Document) (c : Config) (cap : Int) (h : faults d c = []) :
    (compiled d c cap).document = rewritten c d := by
  refine d.withDirectives_congr fun site hs => ?_
  rw [Pass.markedDirectives, siteMarkers_eq h hs]

/-- Compiling puts the markers that rules call for into a schema, and changes nothing else in it. -/
theorem compile_rewrites {schema : String} {c : Config} {cap : Int} {out : Output}
    (h : compile schema c cap = .ok out) : ∃ d, Document.read schema = .ok d ∧
      out.document = rewritten c d ∧ out.schema = (rewritten c d).written := by
  obtain ⟨d, hread, -, hfaults, rfl⟩ := (compile_eq_ok_iff schema c cap out).1 h
  have hdocument := compiled_document_eq d c cap hfaults
  exact ⟨d, hread, hdocument, congrArg Document.written hdocument⟩

def twoProviderSchema : String :=
  "type Post @model @auth(rules: [\x7ballow: owner\x7d, \x7ballow: private, provider: iam\x7d]) " ++
    "\x7b id: ID \x7d"

theorem compile_rewrites_twoProviderSchema :
    ∃ out, compile twoProviderSchema userPoolsAndIam 25 = .ok out ∧
      ∃ d, Document.read twoProviderSchema = .ok d ∧
        out.document = rewritten userPoolsAndIam d ∧
        out.schema = (rewritten userPoolsAndIam d).written := by
  obtain ⟨out, h⟩ := exists_ok_of_isOk
    (x := compile twoProviderSchema userPoolsAndIam 25) (by decide +kernel)
  exact ⟨out, h, compile_rewrites h⟩

end SchemaAccess
