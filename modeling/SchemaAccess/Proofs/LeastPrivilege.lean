import SchemaAccess.Proofs.CompiledDocument
import SchemaAccess.Proofs.RootTypes

namespace SchemaAccess

open Access (Config Role)
open GraphQL (Document Site FieldDef)
open Pass (Output)
open Policy (Resource Ledger)

/-- The fields in the policies of a role, in the order of the output. -/
def grantedTo (out : Output) (role : Role) : List Resource :=
  (out.policies.filter (·.role = role)).flatMap (·.resources)

/-- Some object definition or extension has such a field under the names of a resource. -/
def HasField (d : Document) (r : Resource) (P : FieldDef → Prop) : Prop :=
  ∃ node ∈ d.objects, node.name = r.typeName ∧ ∃ f ∈ node.fields, f.name = r.fieldName ∧ P f

/-- Roles are granted what they need, each field once, in the order in which the fields are opened to
them. -/
structure LeastPrivilege (d : Document) (c : Config) (granted : Role → List Resource) : Prop where
  nodup : ∀ role, (granted role).Nodup
  mem_iff : ∀ role r, r ∈ granted role ↔ d.IsRootName r.typeName ∧
    HasField d r (fun f => ∃ entry ∈ Access.writtenRules f.directives, Access.LetsIn c role entry) ∧
    HasField d r (fun f => GraphQL.carries Pass.functionDirective f.directives = true)
  ordered : ∀ role, (granted role).Pairwise fun r r' =>
    (d.fieldsWith fun site => Access.opensTo c role site.directives).idxOf r <
      (d.fieldsWith fun site => Access.opensTo c role site.directives).idxOf r'
  unauth_subset_auth : granted .unauth ⊆ granted .auth

theorem admits_eq_opensTo {d : Document} {c : Config} (h : faults d c = []) (role : Role) {site : Site}
    (hs : site ∈ d.sites) : admits c role site = Access.opensTo c role site.directives := by
  unfold admits
  cases hc : site.carries Access.authDirective with
  | true =>
    obtain ⟨rules, hr, -⟩ := exists_readRules_of_faults_eq_nil h hs hc
    rw [Pass.rulesAt_of_readRules hr, Access.any_grants_eq_opensTo hr, Bool.true_and]
  | false =>
    have hnone : GraphQL.directivesNamed Access.authDirective site.directives = [] :=
      (GraphQL.directivesNamed_eq_nil_iff _ _).2 hc
    simp [Access.opensTo, Access.writtenRules, hnone]

theorem grantedFields_eq {d : Document} {c : Config} (h : faults d c = []) (role : Role) :
    grantedFields d c role =
      (d.fieldsWith fun site => Access.opensTo c role site.directives).filter fun r =>
        r.typeName ∈ d.rootNames ∧ r ∈ Pass.backed d := by
  have hsites : d.sites.filter (admits c role) =
      d.sites.filter fun site => Access.opensTo c role site.directives :=
    List.filter_congr fun site hs => admits_eq_opensTo h role hs
  rw [grantedFields, Document.fieldsWith, hsites]
  rfl

theorem grantedTo_compiled (d : Document) (c : Config) {cap : Int} (hcap : 1 ≤ cap) (role : Role) :
    grantedTo (compiled d c cap) role = (grantedFields d c role).eraseDups :=
  Ledger.flatMap_resources_drawn (grantedFields d c) hcap role

theorem leastPrivilege_grantedFields {d : Document} {c : Config} (h : faults d c = []) :
    LeastPrivilege d c fun role => (grantedFields d c role).eraseDups := by
  have hmem : ∀ role r, r ∈ (grantedFields d c role).eraseDups ↔ d.IsRootName r.typeName ∧
      HasField d r (fun f => ∃ entry ∈ Access.writtenRules f.directives, Access.LetsIn c role entry) ∧
      HasField d r (fun f => GraphQL.carries Pass.functionDirective f.directives = true) := by
    intro role r
    rw [List.mem_eraseDups, grantedFields_eq h, List.mem_filter, decide_eq_true_iff,
      Document.mem_fieldsWith_iff, Document.mem_rootNames_iff, Pass.backed, Document.mem_fieldsWith_iff]
    simp only [Access.opensTo_iff, Site.directives, Site.carries_field]
    exact and_left_comm
  refine ⟨fun role => nodup_eraseDups _, hmem, fun role => ?_, fun r hr => ?_⟩
  · rw [grantedFields_eq h]
    exact pairwise_idxOf_eraseDups _ _
  · obtain ⟨hroot, ⟨node, hn, hname, f, hf, hfield, entry, hentry, hlets⟩, hfunction⟩ :=
      (hmem .unauth r).1 hr
    exact (hmem .auth r).2
      ⟨hroot, ⟨node, hn, hname, f, hf, hfield, entry, hentry, hlets.auth⟩, hfunction⟩

/-- Compiling grants to roles what they need, whatever the size of policies. -/
theorem compile_grants {schema : String} {c : Config} {cap : Int} {out : Output}
    (h : compile schema c cap = .ok out) : ∃ d, Document.read schema = .ok d ∧
      LeastPrivilege d c (grantedTo out) ∧
      ∀ cap' : Int, 1 ≤ cap' →
        ∃ out', compile schema c cap' = .ok out' ∧ grantedTo out' = grantedTo out := by
  obtain ⟨d, hread, hcap, hfaults, rfl⟩ := (compile_eq_ok_iff schema c cap out).1 h
  have hgranted : ∀ cap' : Int, 1 ≤ cap' →
      grantedTo (compiled d c cap') = fun role => (grantedFields d c role).eraseDups :=
    fun cap' hcap' => funext fun role => grantedTo_compiled d c hcap' role
  refine ⟨d, hread, ?_, fun cap' hcap' => ⟨compiled d c cap', ?_, ?_⟩⟩
  · rw [hgranted cap hcap]
    exact leastPrivilege_grantedFields hfaults
  · exact (compile_eq_ok_iff schema c cap' _).2 ⟨d, hread, hcap', hfaults, rfl⟩
  · rw [hgranted cap' hcap', hgranted cap hcap]

/-- A field whose rule and function stand in different places. -/
def splitFieldSchema : String :=
  "type Query \x7b a: String @auth(rules: [\x7ballow: public\x7d]) \x7d " ++
    "extend type Query \x7b a: String @function(name: \"f\") \x7d"

theorem compile_grants_splitFieldSchema : ∃ out, compile splitFieldSchema iamOnly 25 = .ok out ∧
    ∃ d, Document.read splitFieldSchema = .ok d ∧
      LeastPrivilege d iamOnly (grantedTo out) ∧
      ∀ cap' : Int, 1 ≤ cap' → ∃ out', compile splitFieldSchema iamOnly cap' = .ok out' ∧
        grantedTo out' = grantedTo out := by
  obtain ⟨out, h⟩ := exists_ok_of_isOk (x := compile splitFieldSchema iamOnly 25) (by decide +kernel)
  exact ⟨out, h, compile_grants h⟩

/-- A schema definition that names two types for one operation. -/
def repeatedQuerySchema : String :=
  "schema \x7b query: A query: B \x7d " ++
    "type A \x7b f: String @auth(rules: [\x7ballow: private\x7d]) @function(name: \"g\") \x7d"

def repeatedQuery : Document :=
  [.schema false ⟨none, [], [(.query, "A"), (.query, "B")]⟩,
    .object false ⟨none, "A", [], [], [⟨none, "f", [], .named "String",
      [⟨"auth", [⟨"rules", .list [.object [("allow", .enum "private")]]⟩]⟩,
        ⟨"function", [⟨"name", .string "g" false⟩]⟩]⟩]⟩]

theorem read_repeatedQuerySchema : Document.read repeatedQuerySchema = .ok repeatedQuery := by rfl

/-- A name in the first schema definition is not enough for a field to be granted: an operation that is
repeated has the last of its names. -/
theorem repeatedQuery_not_granted : ∃ out, compile repeatedQuerySchema iamOnly 25 = .ok out ∧
    Document.read repeatedQuerySchema = .ok repeatedQuery ∧
    (∃ node rest, repeatedQuery = .schema false node :: rest ∧ "A" ∈ node.roots.map Prod.snd) ∧
    HasField repeatedQuery ⟨"A", "f"⟩ (fun f => ∃ entry ∈ Access.writtenRules f.directives,
      Access.LetsIn iamOnly .auth entry) ∧
    HasField repeatedQuery ⟨"A", "f"⟩
      (fun f => GraphQL.carries Pass.functionDirective f.directives = true) ∧
    ⟨"A", "f"⟩ ∉ grantedTo out .auth := by
  obtain ⟨out, h, hnone⟩ : ∃ out, compile repeatedQuerySchema iamOnly 25 = .ok out ∧
      grantedTo out .auth = [] := by
    have hgranted : (compile repeatedQuerySchema iamOnly 25).toOption.map (grantedTo · .auth) =
        some [] := by decide +kernel
    obtain ⟨out, hout, hnone⟩ := Option.map_eq_some_iff.1 hgranted
    exact ⟨out, eq_ok_of_toOption_eq_some hout, hnone⟩
  refine ⟨out, h, read_repeatedQuerySchema, ⟨_, _, rfl, by decide⟩,
    ⟨_, List.mem_cons_self, rfl, _, List.mem_cons_self, rfl, ?_⟩,
    ⟨_, List.mem_cons_self, rfl, _, List.mem_cons_self, rfl, by decide⟩, by simp [hnone]⟩
  exact (Access.opensTo_iff _ _ _).1 (by decide +kernel)

end SchemaAccess
