import SchemaAccess.Proofs.BoundedNames
import SchemaAccess.Proofs.ConfiguredTypes
import SchemaAccess.Proofs.JsonRoundTrip

namespace SchemaAccess.Deploy

open Access (Config Mode Role)
open Pass (Output)

/-- A mode has the setting that its type cannot do without. -/
structure HasSettings (m : Mode) : Prop where
  userPool : m.type = .userPools → ∃ settings id,
    m.userPool = some settings ∧ settings.find? "userPoolId" = some id ∧ id.isPresent = true
  issuer : m.type = .openIdConnect → ∃ settings issuer,
    m.openIdConnect = some settings ∧ settings.find? "issuerUrl" = some issuer ∧ issuer.isPresent = true

/-- All that has been found in order when an API is accepted. -/
structure Accepted (files : FileTree) (r : Request) (c : Config) (out : Output) : Prop where
  config : r.config.read = .ok c
  settings : ∀ m ∈ c.modes, HasSettings m
  compiled : ∃ text, r.loadSchema files = .ok text ∧ compile text c r.cap = .ok out
  authRole : ∀ d ∈ out.policies, d.role = .auth → ∃ role, r.authRole = some role
  unauthRole : ∀ d ∈ out.policies, d.role = .unauth → ∃ role, r.unauthRole = some role

/-- What is declared for a mode: its type, and those of its settings that the service knows. The action is what
happens to callers that no directive mentions. -/
structure DeclaresMode (action : Option String) (m : Mode) (d : ModeDeclaration) : Prop where
  type : d.type = m.type
  userPools : m.type = .userPools → ∃ settings id,
    m.userPool = some settings ∧ settings.find? "userPoolId" = some id ∧
      d.settings = .userPool id ((settings.find? "awsRegion").getD .null)
        ((settings.find? "appIdClientRegex").getD .null) action
  openIdConnect : m.type = .openIdConnect → ∃ settings issuer,
    m.openIdConnect = some settings ∧ settings.find? "issuerUrl" = some issuer ∧
      d.settings = .openIdConnect issuer ((settings.find? "clientId").getD .null)
        ((settings.find? "authTTL").getD .null) ((settings.find? "iatTTL").getD .null)
  bare : m.type = .apiKey ∨ m.type = .iam → d.settings = .bare

/-- What is declared for a policy document: a policy with its text, and its attachment to the role that was
given for such documents. -/
structure DeclaredFor (n : Naming) (r : Request) (d : Policy.Document)
    (declared : PolicyDeclaration × AttachmentDeclaration) : Prop where
  policy_name : (frame n "-p" policyNameLimit).name (r.name ++ "-" ++ d.name) = .ok declared.1.id
  text : ∀ apiArn, declared.1.text apiArn = Json.compact (d.forApi apiArn)
  /-- Each statement allows its actions on its fields, by their names under the ARN of the API. -/
  meaning : ∀ apiArn, Json.read (declared.1.text apiArn) = .ok (.object [("Version", .string "2012-10-17"),
    ("Statement", .list (d.statements.map fun s => .object [("Effect", .string "Allow"),
      ("Action", .list (s.actions.map .string)),
      ("Resource", .list (s.resources.map fun r =>
        .string (apiArn ++ "/" ++ ("types/" ++ r.typeName ++ "/fields/" ++ r.fieldName))))]))])
  attachment_name : (frame n "" policyNameLimit).name (r.name ++ "-" ++ d.name ++ "-attachment") = .ok declared.2.id
  attached : declared.2.policy = declared.1.id
  authRole : d.role = .auth → r.authRole = some declared.2.role
  unauthRole : d.role = .unauth → r.unauthRole = some declared.2.role

/-- A plan declares everything that an accepted API calls for, and nothing else. -/
structure DeclaresAll (n : Naming) (r : Request) (c : Config) (out : Output) (plan : Plan) : Prop where
  api_id : (frame n "" apiNameLimit).name (r.name ++ "-api") = .ok plan.api.id
  api_name : plan.api.name = n.stemmed (some r.name)
  schema : plan.api.schema = out.schema
  main : DeclaresMode (some "ALLOW") c.main plan.api.main
  additional : List.Forall₂ (DeclaresMode none) c.additional plan.api.additional
  key : .apiKey ∈ c.types → ∃ id, (frame n "" apiNameLimit).name (r.name ++ "-key") = .ok id ∧
    plan.key = some ⟨id, plan.api.id, r.keyDays⟩
  no_key : .apiKey ∉ c.types → plan.key = none
  /-- One policy and one attachment for each document, in order. -/
  policies : ∃ declared, List.Forall₂ (DeclaredFor n r) out.policies declared ∧
    plan.policies = declared.map Prod.fst ∧ plan.attachments = declared.map Prod.snd

theorem forall_of_forM_eq_ok {α : Type} {f : α → Except Failure Unit} {items : List α}
    (h : items.forM f = .ok ()) : ∀ a ∈ items, f a = .ok () := by
  induction items with
  | nil => exact List.forall_mem_nil _
  | cons a items ih =>
    change (f a >>= fun _ => items.forM f) = _ at h
    obtain ⟨⟨⟩, ha, hitems⟩ := (Access.bind_eq_ok_iff _ _ _).1 h
    rw [List.forall_mem_cons]
    exact ⟨ha, ih hitems⟩

theorem exists_find?_of_isPresent {given : Option (Entries Value)} {name : String}
    (h : (Value.field (settingsOf given) name).isPresent = true) :
    ∃ settings v, given = some settings ∧ settings.find? name = some v ∧ v.isPresent = true := by
  cases given with
  | none => contradiction
  | some settings =>
    change (Value.field settings name).isPresent = true at h
    cases hfound : settings.find? name with
    | none =>
      rw [Value.field, hfound] at h
      contradiction
    | some v =>
      rw [Value.field, hfound] at h
      exact ⟨settings, v, rfl, hfound, h⟩

theorem eq_true_of_unless {given : Bool} {e : Failure}
    (h : (if given then return () else throw e : Except Failure Unit) = .ok ()) : given = true := by
  cases given with
  | false => exact absurd h (Access.throw_ne_ok e ())
  | true => rfl

theorem hasSettings_of_checkMode {m : Mode} (h : checkMode m = .ok ()) : HasSettings m := by
  constructor
  · intro htype
    rw [checkMode, htype] at h
    exact exists_find?_of_isPresent (eq_true_of_unless h)
  · intro htype
    rw [checkMode, htype] at h
    exact exists_find?_of_isPresent (eq_true_of_unless h)

theorem requiredSetting_eq_ok_iff (given : Option (Entries Value)) (name : String) (v : Value) :
    requiredSetting (settingsOf given) name = .ok v ↔
      ∃ settings, given = some settings ∧ settings.find? name = some v := by
  cases given with
  | none => exact ⟨nofun, nofun⟩
  | some settings =>
    change requiredSetting settings name = .ok v ↔ _
    unfold requiredSetting
    cases hfound : settings.find? name with
    | none => simp [hfound, Access.throw_ne_ok]
    | some found => simp [hfound, pure, Except.pure]

theorem exists_ofMode {m : Mode} (h : HasSettings m) (isDefault : Bool) :
    ∃ d, ModeDeclaration.ofMode isDefault m = .ok d := by
  unfold ModeDeclaration.ofMode
  cases htype : m.type with
  | userPools =>
    obtain ⟨settings, id, hsettings, hid, -⟩ := h.userPool htype
    have hfound := (requiredSetting_eq_ok_iff m.userPool "userPoolId" id).2 ⟨settings, hsettings, hid⟩
    dsimp only
    rw [hfound]
    exact ⟨_, rfl⟩
  | openIdConnect =>
    obtain ⟨settings, issuer, hsettings, hissuer, -⟩ := h.issuer htype
    have hfound := (requiredSetting_eq_ok_iff m.openIdConnect "issuerUrl" issuer).2 ⟨settings, hsettings, hissuer⟩
    dsimp only
    rw [hfound]
    exact ⟨_, rfl⟩
  | _ => exact ⟨_, rfl⟩

theorem declaresMode_of_ofMode {isDefault : Bool} {m : Mode} {d : ModeDeclaration}
    (h : ModeDeclaration.ofMode isDefault m = .ok d) :
    DeclaresMode (if isDefault then some "ALLOW" else none) m d := by
  unfold ModeDeclaration.ofMode at h
  cases htype : m.type with
  | userPools =>
    rw [htype] at h
    obtain ⟨id, hid, h⟩ := (Access.bind_eq_ok_iff _ _ _).1 h
    obtain ⟨settings, hsettings, hfound⟩ := (requiredSetting_eq_ok_iff _ _ _).1 hid
    obtain rfl := Except.ok.inj h
    constructor
    case type => exact htype.symm
    case userPools => exact fun _ => ⟨settings, id, hsettings, hfound, by rw [hsettings]; rfl⟩
    case openIdConnect | bare => simp [htype]
  | openIdConnect =>
    rw [htype] at h
    obtain ⟨issuer, hissuer, h⟩ := (Access.bind_eq_ok_iff _ _ _).1 h
    obtain ⟨settings, hsettings, hfound⟩ := (requiredSetting_eq_ok_iff _ _ _).1 hissuer
    obtain rfl := Except.ok.inj h
    constructor
    case type => exact htype.symm
    case openIdConnect => exact fun _ => ⟨settings, issuer, hsettings, hfound, by rw [hsettings]; rfl⟩
    case userPools | bare => simp [htype]
  | apiKey | iam =>
    rw [htype] at h
    obtain rfl := Except.ok.inj h
    constructor
    case type => exact htype.symm
    case bare => exact fun _ => rfl
    case userPools | openIdConnect => simp [htype]

theorem exists_role_of_checkRoles {r : Request} {policies : List Policy.Document}
    (h : Api.checkRoles r policies = .ok ()) : ∀ d ∈ policies, ∃ role, r.role? d.role = some role := by
  intro d hd
  have hrole := forall_of_forM_eq_ok h d hd
  cases hgiven : r.role? d.role with
  | some role => exact ⟨role, rfl⟩
  | none =>
    rw [hgiven] at hrole
    contradiction

theorem Accepted.exists_role {files : FileTree} {r : Request} {c : Config} {out : Output}
    (h : Accepted files r c out) {d : Policy.Document} (hd : d ∈ out.policies) :
    ∃ role, r.role? d.role = some role := by
  cases hrole : d.role with
  | auth => exact h.authRole d hd hrole
  | unauth => exact h.unauthRole d hd hrole

theorem accepted_of_ofRequest {files : FileTree} {r : Request} {a : Api} (h : Api.ofRequest files r = .ok a) :
    a.request = r ∧ Accepted files r a.config a.output := by
  by_cases hempty : r.schema = ""
  · simp only [Api.ofRequest, if_pos hempty] at h
    exact absurd h nofun
  by_cases hexpired : r.keyDays ≤ 0
  · simp only [Api.ofRequest, if_neg hempty, if_pos hexpired] at h
    exact absurd h nofun
  simp only [Api.ofRequest, if_neg hempty, if_neg hexpired, Access.bind_eq_ok_iff] at h
  obtain ⟨c, hconfig, ⟨⟩, hmodes, text, htext, out, hout, ⟨⟩, hroles, h⟩ := h
  obtain rfl := Except.ok.inj h
  have hgiven := exists_role_of_checkRoles hroles
  refine ⟨rfl, hconfig, ?_, ⟨text, htext, hout⟩, ?_, ?_⟩
  · intro m hm
    exact hasSettings_of_checkMode (forall_of_forM_eq_ok hmodes m hm)
  all_goals
    intro d hd hrole
    have hfound := hgiven d hd
    rw [hrole] at hfound
    exact hfound

theorem exists_declareKey {n : Naming} {daysLeft : Int} {a : Api} {id : String}
    (hname : (frame n "" apiNameLimit).name (a.request.name ++ "-api") = .ok id)
    (hdays : a.request.keyDays ≤ maxDays ∧ a.request.keyDays ≤ daysLeft) :
    ∃ key, Plan.declareKey n daysLeft a id = .ok key := by
  unfold Plan.declareKey
  by_cases hconfigured : a.config.isConfigured .apiKey = true
  · have hcheck : checkDays daysLeft a.request.keyDays = .ok () := by
      rw [maxDays] at hdays
      rw [checkDays, if_neg (by omega), maxDays, if_neg (by omega), if_neg (by omega)]
      rfl
    obtain ⟨keyId, hkey⟩ := Plan.exists_keyName hname
    rw [if_pos hconfigured, hcheck, hkey]
    exact ⟨_, rfl⟩
  · exact ⟨none, if_neg hconfigured⟩

theorem key_of_declareKey {n : Naming} {daysLeft : Int} {a : Api} {id : String} {key : Option KeyDeclaration}
    (h : Plan.declareKey n daysLeft a id = .ok key) :
    (.apiKey ∈ a.config.types → ∃ keyId,
      (frame n "" apiNameLimit).name (a.request.name ++ "-key") = .ok keyId ∧
        key = some ⟨keyId, id, a.request.keyDays⟩) ∧
    (.apiKey ∉ a.config.types → key = none) := by
  have hconfigured : a.config.isConfigured .apiKey = true ↔ .apiKey ∈ a.config.types :=
    a.config.isConfigured_iff .apiKey
  unfold Plan.declareKey at h
  by_cases htypes : .apiKey ∈ a.config.types
  · rw [if_pos (hconfigured.2 htypes)] at h
    simp only [Access.bind_eq_ok_iff] at h
    obtain ⟨⟨⟩, -, keyId, hkey, h⟩ := h
    exact ⟨fun _ => ⟨keyId, hkey, (Except.ok.inj h).symm⟩, fun hnone => absurd htypes hnone⟩
  · rw [if_neg (hconfigured.not.2 htypes)] at h
    exact ⟨fun hsome => absurd hsome htypes, fun _ => (Except.ok.inj h).symm⟩

theorem exists_declarePolicy {n : Naming} {r : Request} {id : String}
    (hname : (frame n "" apiNameLimit).name (r.name ++ "-api") = .ok id) {d : Policy.Document}
    (hrole : ∃ role, r.role? d.role = some role) :
    ∃ declared, Plan.declarePolicy n r d = .ok declared := by
  obtain ⟨role, hrole⟩ := hrole
  obtain ⟨policy, hpolicy⟩ := Plan.exists_policyName hname d
  obtain ⟨attachment, hattachment⟩ := Plan.exists_attachmentName hname d
  refine ⟨(⟨policy, d⟩, ⟨attachment, policy, role⟩), ?_⟩
  rw [Plan.declarePolicy, hpolicy, hattachment, hrole]
  rfl

theorem textual_forApi (d : Policy.Document) (apiArn : String) : (d.forApi apiArn).Textual := by
  simp [Policy.Document.forApi, Policy.Document.body, Policy.Statement.rendered, Entries.keys]

theorem declaredFor_of_declarePolicy {n : Naming} {r : Request} {d : Policy.Document}
    {declared : PolicyDeclaration × AttachmentDeclaration} (h : Plan.declarePolicy n r d = .ok declared) :
    DeclaredFor n r d declared := by
  unfold Plan.declarePolicy at h
  simp only [Access.bind_eq_ok_iff] at h
  obtain ⟨policy, hpolicy, attachment, hattachment, h⟩ := h
  cases hrole : r.role? d.role with
  | none =>
    rw [hrole] at h
    exact absurd h (Access.throw_ne_ok _ declared)
  | some role =>
    rw [hrole] at h
    obtain rfl := Except.ok.inj h
    refine ⟨hpolicy, fun _ => rfl, fun apiArn => Json.read_compact (textual_forApi d apiArn), hattachment, rfl,
      ?_, ?_⟩
    all_goals
      intro hkind
      rw [hkind] at hrole
      exact hrole

/-- An API that has been accepted can be planned for, if it can be named and its keys can end as they should. -/
theorem exists_ofApi {files : FileTree} {a : Api} (haccepted : Accepted files a.request a.config a.output)
    {n : Naming} {daysLeft : Int} {id : String}
    (hid : (frame n "" apiNameLimit).name (a.request.name ++ "-api") = .ok id)
    (hdays : a.request.keyDays ≤ maxDays ∧ a.request.keyDays ≤ daysLeft) :
    ∃ plan, Plan.ofApi (some n) daysLeft a = .ok plan := by
  -- what could fail behind the first name: settings, the end of the key, other names, and roles
  have hsettings : ∀ m ∈ a.config.additional, HasSettings m :=
    fun m hm => haccepted.settings m (List.mem_cons_of_mem _ hm)
  obtain ⟨main, hmain⟩ := exists_ofMode (haccepted.settings _ List.mem_cons_self) true
  obtain ⟨additional, hadditional⟩ := Access.exists_mapM_eq_ok_of_forall
    fun m hm => exists_ofMode (hsettings m hm) false
  obtain ⟨key, hkey⟩ := exists_declareKey hid hdays
  obtain ⟨declared, hdeclared⟩ := Access.exists_mapM_eq_ok_of_forall
    fun d hd => exists_declarePolicy hid (haccepted.exists_role hd)
  simp only [Plan.ofApi, Access.bind_eq_ok_iff]
  exact ⟨_, n, rfl, id, hid, main, hmain, additional, hadditional, key, hkey, declared, hdeclared, rfl⟩

theorem declaresAll_of_ofApi {n : Naming} {daysLeft : Int} {a : Api} {plan : Plan}
    (h : Plan.ofApi (some n) daysLeft a = .ok plan) : DeclaresAll n a.request a.config a.output plan := by
  simp only [Plan.ofApi, Access.bind_eq_ok_iff] at h
  obtain ⟨n', hn, id, hid, main, hmain, additional, hadditional, key, hkey, declared, hdeclared, h⟩ := h
  obtain rfl := Except.ok.inj hn
  obtain rfl := Except.ok.inj h
  have hmodes : List.Forall₂ (DeclaresMode none) a.config.additional additional :=
    (Access.forall₂_of_mapM_eq_ok hadditional).imp fun _ _ => declaresMode_of_ofMode
  have hpolicies : List.Forall₂ (DeclaredFor n a.request) a.output.policies declared :=
    (Access.forall₂_of_mapM_eq_ok hdeclared).imp fun _ _ => declaredFor_of_declarePolicy
  obtain ⟨hsome, hnone⟩ := key_of_declareKey hkey
  exact ⟨hid, rfl, rfl, declaresMode_of_ofMode hmain, hmodes, hsome, hnone, declared, hpolicies, rfl, rfl⟩

/-- An API that has been accepted is deployed in full, once it can be named and its keys can end as they
should. -/
theorem deploys_of_build {registry registry' : Registry} {files : FileTree} {r : Request} {a : Api}
    (hbuild : Api.build registry files r = (.ok a, registry')) (n : Naming)
    (hname : ∃ id, (frame n "" apiNameLimit).name (r.name ++ "-api") = .ok id) {daysLeft : Int}
    (hdays : r.keyDays ≤ maxDays ∧ r.keyDays ≤ daysLeft) :
    Accepted files r a.config a.output ∧ ∃ plan, Plan.ofApi (some n) daysLeft a = .ok plan ∧
      DeclaresAll n r a.config a.output plan := by
  have hrequest : Api.ofRequest files r = .ok a := by
    unfold Api.build at hbuild
    split at hbuild
    · exact absurd (Prod.mk.inj hbuild).1 nofun
    · exact (Prod.mk.inj hbuild).1
  obtain ⟨rfl, haccepted⟩ := accepted_of_ofRequest hrequest
  obtain ⟨id, hid⟩ := hname
  obtain ⟨plan, hplan⟩ := exists_ofApi haccepted hid hdays
  exact ⟨haccepted, plan, hplan, declaresAll_of_ofApi hplan⟩

def poolsKeysAndIam : Value :=
  .object [("defaultAuthentication", .object [("authenticationType", .string "AMAZON_COGNITO_USER_POOLS"),
      ("userPoolConfig", .object [("userPoolId", .string "pool")])]),
    ("additionalAuthenticationProviders", .list [.object [("authenticationType", .string "API_KEY")],
      .object [("authenticationType", .string "AWS_IAM")]])]

/-- An API with a field that IAM callers may call with and without an identity. -/
def postsRequest : Request where
  name := "posts"
  schema := "type Query \x7b a: ID @auth(rules: \x7ballow: public, provider: iam\x7d) @function(name: \"f\") \x7d"
  config := .data poolsKeysAndIam
  authRole := some (.named "members")
  unauthRole := some (.deployed "guests")
  cap := Policy.defaultCap
  keyDays := defaultKeyDays

def blogNaming : Naming := ⟨"Blog", "prod"⟩

theorem deploys_of_build_postsRequest :
    ∃ a registry, Api.build .empty (.ofFiles []) postsRequest = (.ok a, registry) ∧
      a.output.policies.map (·.name) = ["AuthRolePolicy01", "UnauthRolePolicy01"] ∧
      (∃ id, (frame blogNaming "" apiNameLimit).name (postsRequest.name ++ "-api") = .ok id) ∧
      (postsRequest.keyDays ≤ maxDays ∧ postsRequest.keyDays ≤ 2900000) ∧
      Accepted (.ofFiles []) postsRequest a.config a.output ∧
      ∃ plan, Plan.ofApi (some blogNaming) 2900000 a = .ok plan ∧
        DeclaresAll blogNaming postsRequest a.config a.output plan := by
  have hnames : (Api.build .empty (.ofFiles []) postsRequest).1.toOption.map
      (fun a => a.output.policies.map (·.name)) = some ["AuthRolePolicy01", "UnauthRolePolicy01"] := by
    decide +kernel
  obtain ⟨a, hsome, hpolicies⟩ := Option.map_eq_some_iff.1 hnames
  have hbuild : Api.build .empty (.ofFiles []) postsRequest =
      (.ok a, (Api.build .empty (.ofFiles []) postsRequest).2) :=
    Prod.ext (eq_ok_of_toOption_eq_some hsome) rfl
  have hname : ∃ id, (frame blogNaming "" apiNameLimit).name (postsRequest.name ++ "-api") = .ok id :=
    exists_ok_of_isOk (by decide +kernel)
  have hdays : postsRequest.keyDays ≤ maxDays ∧ postsRequest.keyDays ≤ 2900000 := by decide
  exact ⟨a, _, hbuild, hpolicies, hname, hdays, deploys_of_build hbuild blogNaming hname hdays⟩

end SchemaAccess.Deploy
