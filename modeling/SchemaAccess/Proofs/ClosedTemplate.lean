import SchemaAccess.Proofs.CompiledDocument

namespace SchemaAccess

open Access (Role)
open GraphQL (Document)
open Pass (Pipeline Handler Enforcement Session Step)

mutual

/-- What is referred to by name within a value. -/
def Value.references : Value → List String
  | .list items => itemReferences items
  | .object fields => fieldReferences fields
  | _ => []

def itemReferences : List Value → List String
  | [] => []
  | v :: rest => v.references ++ itemReferences rest

def fieldReferences : List (String × Value) → List String
  | [] => []
  | (key, v) :: rest =>
    (if key = "Ref" then v.text?.toList else []) ++ (v.references ++ fieldReferences rest)

end

theorem itemReferences_eq_nil {items : List Value} (h : ∀ v ∈ items, v.references = []) :
    itemReferences items = [] := by
  induction items with
  | nil => rfl
  | cons v items ih =>
    rw [List.forall_mem_cons] at h
    rw [itemReferences, h.1, ih h.2]
    rfl

theorem fieldReferences_eq_flatMap {fields : List (String × Value)}
    (h : ∀ entry ∈ fields, entry.2.text? = none) :
    fieldReferences fields = fields.flatMap fun entry => entry.2.references := by
  induction fields with
  | nil => rfl
  | cons entry fields ih =>
    obtain ⟨key, v⟩ := entry
    rw [List.forall_mem_cons] at h
    have hnone : (if key = "Ref" then v.text?.toList else []) = [] := by
      rw [h.1]
      exact ite_self []
    rw [fieldReferences, hnone, ih h.2]
    rfl

namespace Policy

theorem references_reference (apiId : String) (r : Resource) : (r.reference apiId).references = [] := by
  simp [Resource.reference, Value.references, itemReferences, fieldReferences]

theorem references_rendered (apiId : String) (s : Statement) :
    (s.rendered (·.reference apiId)).references = [] := by
  have hactions : itemReferences (s.actions.map .string) = [] := by
    apply itemReferences_eq_nil
    intro v hv
    obtain ⟨action, -, rfl⟩ := List.mem_map.1 hv
    rfl
  have hresources : itemReferences (s.resources.map (·.reference apiId)) = [] := by
    apply itemReferences_eq_nil
    intro v hv
    obtain ⟨r, -, rfl⟩ := List.mem_map.1 hv
    exact references_reference apiId r
  simp [Statement.rendered, Value.references, fieldReferences, hactions, hresources]

theorem references_templateResource (apiId : String) (doc : Document) :
    (doc.templateResource apiId).references = [doc.role.parameter] := by
  have hstatements : itemReferences (doc.statements.map (·.rendered (·.reference apiId))) = [] := by
    apply itemReferences_eq_nil
    intro v hv
    obtain ⟨s, -, rfl⟩ := List.mem_map.1 hv
    exact references_rendered apiId s
  simp [Document.templateResource, Document.body, Value.references, itemReferences, fieldReferences,
    Value.text?, hstatements]

theorem eraseDups_roles {auth unauth : List Document} (hauth : ∀ doc ∈ auth, doc.role = .auth)
    (hunauth : ∀ doc ∈ unauth, doc.role = .unauth) :
    ((auth ++ unauth).map fun doc => doc.role).eraseDups =
      [Role.auth, .unauth].filter fun role => (auth ++ unauth).any (·.role = role) := by
  have hA : auth.map (fun doc => doc.role) = List.replicate auth.length .auth := by
    rw [List.eq_replicate_iff]
    simpa using hauth
  have hU : unauth.map (fun doc => doc.role) = List.replicate unauth.length .unauth := by
    rw [List.eq_replicate_iff]
    simpa using hunauth
  rw [List.map_append, hA, hU]
  cases auth <;> cases unauth <;> simp_all [List.replicate_succ, List.eraseDups_cons]

end Policy

/-- Documents that are all for one role, and numbered from one on. -/
structure NumberedFor (role : Role) (documents : List Policy.Document) : Prop where
  role_eq : ∀ doc ∈ documents, doc.role = role
  numbers : documents.map (·.number) = (List.range documents.length).map fun i : Nat => (i : Int) + 1

/-- A template that declares policies and the roles that they are for, and nothing else. -/
structure Declares (apiId : String) (t : Template) (policies : List Policy.Document) : Prop where
  /-- Each policy under its name, for the role that its parameter names. A statement allows its actions on the
  fields of the API, whose region, account and id are filled in when the template is deployed. -/
  resources : t.resources = policies.map fun doc => (doc.name,
    .object [("Type", .string "AWS::IAM::ManagedPolicy"), ("Properties", .object [
      ("Roles", .list [.object [("Ref", .string
        (match doc.role with | .auth => "authRoleName" | .unauth => "unauthRoleName"))]]),
      ("PolicyDocument", .object [("Version", .string "2012-10-17"),
        ("Statement", .list (doc.statements.map fun s => .object [("Effect", .string "Allow"),
          ("Action", .list (s.actions.map .string)),
          ("Resource", .list (s.resources.map fun r => .object [("Fn::Sub", .list [
            .string ("arn:aws:appsync:$\x7bAWS::Region\x7d:$\x7bAWS::AccountId\x7d:apis/$\x7bapiId\x7d/" ++
              ("types/" ++ r.typeName ++ "/fields/" ++ r.fieldName)),
            .object [("apiId", .object [("Fn::GetAtt", .list [.string apiId, .string "ApiId"])])]])]))]))])])])
  names_nodup : (policies.map (·.name)).Nodup
  /-- The policies of one role come before those of the other. -/
  numbered : ∃ auth unauth, policies = auth ++ unauth ∧ NumberedFor .auth auth ∧ NumberedFor .unauth unauth
  /-- A role that has a policy has a parameter, that of members first. -/
  parameters : t.parameters =
    (if ∃ doc ∈ policies, doc.role = .auth then [("authRoleName", .object [("Type", .string "String")])] else []) ++
    (if ∃ doc ∈ policies, doc.role = .unauth then [("unauthRoleName", .object [("Type", .string "String")])] else [])
  closed : ∀ name, name ∈ t.toValue.references ↔ name ∈ t.parameters.keys

theorem numberedFor_documentsOf (role : Role) (resources : List Policy.Resource) (size : Nat) :
    NumberedFor role (Policy.documentsOf role resources size) where
  role_eq _ h := Policy.role_of_mem_documentsOf h
  numbers := Policy.map_number_documentsOf role resources size

theorem references_templateOf (apiId : String) (policies : List Policy.Document) :
    (Pass.templateOf apiId policies).toValue.references = policies.map (·.role.parameter) := by
  have hparameters : fieldReferences (Pass.templateOf apiId policies).parameters = [] := by
    rw [fieldReferences_eq_flatMap, List.flatMap_eq_nil_iff]
    all_goals
      intro entry hentry
      obtain ⟨role, -, rfl⟩ := List.mem_map.1 hentry
      rfl
  have hresources : fieldReferences (Pass.templateOf apiId policies).resources =
      policies.map (·.role.parameter) := by
    rw [fieldReferences_eq_flatMap]
    · rw [Pass.templateOf, List.flatMap_map]
      simp only [Policy.references_templateResource]
      exact List.flatMap_pure_eq_map _ policies
    · intro entry hentry
      obtain ⟨doc, -, rfl⟩ := List.mem_map.1 hentry
      rfl
  simp [Template.toValue, Value.references, fieldReferences, hparameters, hresources]

theorem declares_templateOf (apiId : String) {policies auth unauth : List Policy.Document}
    (hsplit : policies = auth ++ unauth) (hauth : NumberedFor .auth auth)
    (hunauth : NumberedFor .unauth unauth) (hnames : (policies.map (·.name)).Nodup) :
    Declares apiId (Pass.templateOf apiId policies) policies where
  resources := rfl
  names_nodup := hnames
  numbered := ⟨auth, unauth, hsplit, hauth, hunauth⟩
  parameters := by
    have hroles := Policy.eraseDups_roles hauth.role_eq hunauth.role_eq
    rw [← hsplit] at hroles
    rw [Pass.templateOf, hroles]
    simp only [List.any_eq_true, decide_eq_true_eq, List.filter_cons, List.filter_nil]
    split <;> split <;> rfl
  closed name := by
    rw [references_templateOf]
    simp [Pass.templateOf, Entries.keys]

/-- A pass whose walks go through ends with a template that declares its policies and what they refer
to. -/
theorem runText_declares {p : Pipeline} {e : Enforcement} (he : .auth e ∈ p.handlers) {schema : String}
    {d d' : Document} {s : Session} (hread : Document.read schema = .ok d)
    (hwalks : (p.walks d).outcome (Session.ofDocument d) = .ok (d', s)) :
    ∃ out, (p.runText schema).1 = .ok out ∧ out.document = d' ∧
      Declares e.apiId out.template out.policies := by
  have hrun : (p.runText schema).1 = .ok (Pass.ended e d' s) := by
    rw [Pipeline.runText, hread]
    have hnone : (p.walks d).outcome (Session.ofDocument d) = settled [] (d', s) := hwalks
    exact Pass.run_fst_eq_settled p he hnone
  have hnames : ((s.drawn e).map (·.name)).Nodup := Policy.nodup_names_documentsOf_append _ _ _
  exact ⟨_, hrun, rfl, declares_templateOf e.apiId rfl (numberedFor_documentsOf _ _ _)
    (numberedFor_documentsOf _ _ _) hnames⟩

def oneFieldEach : Enforcement := ⟨iamOnly, 1, "Api", by decide⟩

/-- A field for anyone, and one for those who are signed in. -/
def twoRoleSchema : String :=
  "type Query \x7b a: ID @auth(rules: \x7ballow: public\x7d) @function(name: \"f\") " ++
    "b: ID @auth(rules: \x7ballow: private\x7d) @function(name: \"g\") \x7d"

theorem runText_declares_twoRoleSchema :
    ∃ out, ((compiler oneFieldEach).runText twoRoleSchema).1 = .ok out ∧
      out.policies.map (·.name) = ["AuthRolePolicy01", "AuthRolePolicy02", "UnauthRolePolicy01"] ∧
      Declares "Api" out.template out.policies := by
  have hwalks : (Document.read twoRoleSchema).toOption.map
      (fun d => (((compiler oneFieldEach).walks d).outcome (Session.ofDocument d)).isOk) = some true := by
    decide +kernel
  have hnames : ((compiler oneFieldEach).runText twoRoleSchema).1.toOption.map
      (fun out => out.policies.map (·.name)) =
        some ["AuthRolePolicy01", "AuthRolePolicy02", "UnauthRolePolicy01"] := by
    decide +kernel
  obtain ⟨d, hd, hok⟩ := Option.map_eq_some_iff.1 hwalks
  obtain ⟨⟨d', s⟩, hwalked⟩ := exists_ok_of_isOk hok
  have hauth : Handler.auth oneFieldEach ∈ (compiler oneFieldEach).handlers := by simp [compiler]
  obtain ⟨out, hout, -, hdeclares⟩ := runText_declares hauth (eq_ok_of_toOption_eq_some hd) hwalked
  rw [hout] at hnames
  exact ⟨out, hout, Option.some.inj hnames, hdeclares⟩

end SchemaAccess
