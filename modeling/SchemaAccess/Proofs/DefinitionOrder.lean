import Mathlib.Data.List.FinRange
import SchemaAccess.Proofs.Acceptance
import SchemaAccess.Proofs.ClosedTemplate
import SchemaAccess.Proofs.LeastPrivilege

namespace SchemaAccess

open Access (Config Role)
open GraphQL (Document Definition Site Directive)
open Pass (Output)
open Policy (Resource Ledger)

namespace GraphQL.Document

/-- The schema definitions of a document. Extensions of schemas are none. -/
def schemaDefinitions (d : Document) : List SchemaDef :=
  d.filterMap fun
    | .schema false node => some node
    | _ => none

theorem findSome?_schemaRoots? (d : Document) :
    d.findSome? schemaRoots? = d.schemaDefinitions.head?.map (·.roots) := by
  have hroots : d.filterMap schemaRoots? = d.schemaDefinitions.map (·.roots) := by
    rw [schemaDefinitions, List.map_filterMap]
    congr 1
    funext x
    cases x with
    | schema extension node => cases extension <;> rfl
    | _ => rfl
  rw [← List.head?_filterMap, hroots, List.head?_map]

variable {d d' : Document} (hperm : d.Perm d')
include hperm

theorem rootNames_eq_of_perm (hone : d.schemaDefinitions.length ≤ 1) : d'.rootNames = d.rootNames := by
  have hdefinitions : d.schemaDefinitions.Perm d'.schemaDefinitions := hperm.filterMap _
  have hsame : d'.schemaDefinitions = d.schemaDefinitions := by
    cases hd : d.schemaDefinitions with
    | nil =>
      rw [hd] at hdefinitions
      exact hdefinitions.nil_eq.symm
    | cons node more =>
      rw [hd, List.length_cons] at hone
      obtain rfl : more = [] := List.eq_nil_of_length_eq_zero (by omega)
      rw [hd] at hdefinitions
      exact hdefinitions.singleton_eq.symm
  apply rootNames_congr
  rw [findSome?_schemaRoots?, findSome?_schemaRoots?, hsame]

theorem mem_objects_iff_of_perm (node : Composite) : node ∈ d'.objects ↔ node ∈ d.objects :=
  (hperm.filterMap _).mem_iff.symm

theorem fieldsWith_perm (p : Site → Bool) : (d.fieldsWith p).Perm (d'.fieldsWith p) := by
  have hsites : d.sites.Perm d'.sites := hperm.flatMap_right _
  exact (hsites.filter p).filterMap _

end GraphQL.Document

theorem Acceptable.of_perm {d d' : Document} {c : Config} (h : Acceptable d c) (hperm : d.Perm d')
    (hroots : d'.rootNames = d.rootNames) : Acceptable d' c := by
  have hobjects := Document.mem_objects_iff_of_perm hperm
  have hmodel : ∀ typeName, IsModel d' typeName ↔ IsModel d typeName := by
    intro typeName
    simp only [IsModel, hobjects]
  exact {
    no_function := fun node hn => h.no_function node ((hobjects node).1 hn)
    function_named := fun node hn => h.function_named node ((hobjects node).1 hn)
    function_once := (Document.fieldsWith_perm hperm _).nodup_iff.1 h.function_once
    auth_on_model := fun node hn hc => (hmodel node.name).2 (h.auth_on_model node ((hobjects node).1 hn) hc)
    type_rules := fun node hn => by
      rw [hroots]
      exact h.type_rules node ((hobjects node).1 hn)
    field_rules := fun node hn => by
      rw [hroots, hmodel]
      exact h.field_rules node ((hobjects node).1 hn) }

theorem acceptable_iff_of_perm {d d' : Document} (hperm : d.Perm d') (hroots : d'.rootNames = d.rootNames)
    (c : Config) : Acceptable d c ↔ Acceptable d' c :=
  ⟨fun h => h.of_perm hperm hroots, fun h => h.of_perm hperm.symm hroots.symm⟩

theorem grantedFields_perm {d d' : Document} (hperm : d.Perm d') (hroots : d'.rootNames = d.rootNames)
    (c : Config) (role : Role) : (grantedFields d c role).Perm (grantedFields d' c role) := by
  have hbacked : ∀ r, r ∈ Pass.backed d' ↔ r ∈ Pass.backed d := by
    intro r
    exact (Document.fieldsWith_perm hperm _).mem_iff.symm
  unfold grantedFields
  simp only [hroots, hbacked]
  exact (Document.fieldsWith_perm hperm _).filter _

theorem eraseDups_perm {α : Type} [DecidableEq α] {items items' : List α} (h : items.Perm items') :
    items.eraseDups.Perm items'.eraseDups := by
  rw [List.perm_ext_iff_of_nodup (nodup_eraseDups items) (nodup_eraseDups items')]
  intro a
  rw [List.mem_eraseDups, List.mem_eraseDups, h.mem_iff]

theorem Policy.length_documentsOf (role : Role) (resources : List Resource) {size : Nat} (h : 0 < size) :
    (documentsOf role resources size).length = (resources.length + size - 1) / size := by
  rw [documentsOf, List.length_map, List.length_zipIdx, length_pieces h]

/-- Outputs that differ in the order of things only: definitions stand in another order, roles are granted
the same fields in as many documents, and the template has the same parameters. -/
structure SameUpToOrder {n : Nat} (σ : Equiv.Perm (Fin n)) (out out' : Output) : Prop where
  document : ∃ definitions : Fin n → Definition,
    out.document = List.ofFn definitions ∧ out'.document = List.ofFn (definitions ∘ σ)
  granted : ∀ role r, r ∈ grantedTo out' role ↔ r ∈ grantedTo out role
  number : ∀ role,
    (out'.policies.filter (·.role = role)).length = (out.policies.filter (·.role = role)).length
  parameters : out'.template.parameters = out.template.parameters

theorem parameters_templateOf_drawn (apiId : String) (given : Role → List Resource) (cap : Int) :
    (Pass.templateOf apiId (Ledger.drawn given cap)).parameters =
      ([Role.auth, .unauth].filter fun role =>
        0 < ((Ledger.drawn given cap).filter (·.role = role)).length).map
          fun role => (role.parameter, .object [("Type", .string "String")]) := by
  have hroles : ((Ledger.drawn given cap).map fun doc => doc.role).eraseDups =
      [Role.auth, .unauth].filter fun role => (Ledger.drawn given cap).any (·.role = role) :=
    Policy.eraseDups_roles (fun _ => Policy.role_of_mem_documentsOf) (fun _ => Policy.role_of_mem_documentsOf)
  have hany : ∀ role, (Ledger.drawn given cap).any (·.role = role) =
      decide (0 < ((Ledger.drawn given cap).filter (·.role = role)).length) := by
    intro role
    rw [Bool.eq_iff_iff, decide_eq_true_iff, List.length_pos_iff_exists_mem]
    simp only [List.any_eq_true, List.mem_filter]
  rw [Pass.templateOf, hroles]
  simp only [hany]

theorem sameUpToOrder_compiled {n : Nat} (definitions : Fin n → Definition) (σ : Equiv.Perm (Fin n))
    (hroots : Document.rootNames (List.ofFn (definitions ∘ σ)) = Document.rootNames (List.ofFn definitions))
    (c : Config) {cap : Int} (hcap : 1 ≤ cap) :
    SameUpToOrder σ (compiled (List.ofFn definitions) c cap)
      (compiled (List.ofFn (definitions ∘ σ)) c cap) := by
  have hperm : (List.ofFn definitions).Perm (List.ofFn (definitions ∘ σ)) :=
    (σ.ofFn_comp_perm definitions).symm
  have hgranted := grantedFields_perm hperm hroots c
  have hnumber : ∀ role,
      ((Ledger.drawn (grantedFields (List.ofFn (definitions ∘ σ)) c) cap).filter (·.role = role)).length =
        ((Ledger.drawn (grantedFields (List.ofFn definitions) c) cap).filter (·.role = role)).length := by
    intro role
    have hpos : 0 < cap.toNat := by omega
    have hlength := (eraseDups_perm (hgranted role)).length_eq
    rw [Ledger.filter_role_drawn, Ledger.filter_role_drawn, Policy.length_documentsOf role _ hpos,
      Policy.length_documentsOf role _ hpos, hlength]
  constructor
  case document =>
    let g := Pass.markedDirectives c (Document.rootNames (List.ofFn definitions))
    refine ⟨fun i => (definitions i).withDirectives g, ?_, ?_⟩
    · exact List.map_ofFn
    · rw [compiled, hroots]
      exact List.map_ofFn
  case granted =>
    intro role r
    rw [grantedTo_compiled _ c hcap, grantedTo_compiled _ c hcap, List.mem_eraseDups, List.mem_eraseDups,
      (hgranted role).mem_iff]
  case number => exact hnumber
  case parameters =>
    rw [compiled, compiled, parameters_templateOf_drawn, parameters_templateOf_drawn]
    simp only [hnumber]

/-- A document is accepted in every order of its definitions or in none, and its outputs differ in the order
of things only. -/
theorem compileDocument_reordered {n : Nat} (definitions : Fin n → Definition) (σ : Equiv.Perm (Fin n))
    (hone : (Document.schemaDefinitions (List.ofFn definitions)).length ≤ 1) (c : Config) (cap : Int) :
    ((∃ out, compileDocument (List.ofFn definitions) c cap = .ok out) ↔
      ∃ out', compileDocument (List.ofFn (definitions ∘ σ)) c cap = .ok out') ∧
    ∀ out out', compileDocument (List.ofFn definitions) c cap = .ok out →
      compileDocument (List.ofFn (definitions ∘ σ)) c cap = .ok out' → SameUpToOrder σ out out' := by
  have hperm : (List.ofFn definitions).Perm (List.ofFn (definitions ∘ σ)) :=
    (σ.ofFn_comp_perm definitions).symm
  have hroots := Document.rootNames_eq_of_perm hperm hone
  have haccepted := acceptable_iff_of_perm hperm hroots c
  simp only [compileDocument_eq_ok_iff, faults_eq_nil_iff, haccepted]
  constructor
  · simp only [exists_and_left, exists_eq']
  · intro out out' hout hout'
    obtain ⟨hcap, -, rfl⟩ := hout
    obtain ⟨-, -, rfl⟩ := hout'
    exact sameUpToOrder_compiled definitions σ hroots c hcap

/-- A field whose rule stands in an extension, and its function in the type. -/
def extendedQuery : Fin 2 → Definition
  | 0 => .object true ⟨none, "Query", [], [], [⟨none, "a", [], .named "String",
    [⟨"auth", [⟨"rules", .list [.object [("allow", .enum "private")]]⟩]⟩]⟩]⟩
  | 1 => .object false ⟨none, "Query", [], [], [⟨none, "a", [], .named "String",
    [⟨"function", [⟨"name", .string "f" false⟩]⟩]⟩]⟩

theorem compileDocument_reordered_extendedQuery :
    (Document.schemaDefinitions (List.ofFn extendedQuery)).length ≤ 1 ∧
    ∃ out out', compileDocument (List.ofFn extendedQuery) iamOnly 25 = .ok out ∧
      compileDocument (List.ofFn (extendedQuery ∘ Equiv.swap 0 1)) iamOnly 25 = .ok out' ∧
      grantedTo out .auth = [⟨"Query", "a"⟩] ∧ SameUpToOrder (n := 2) (Equiv.swap 0 1) out out' := by
  have hone : (Document.schemaDefinitions (List.ofFn extendedQuery)).length ≤ 1 := by decide
  have hgranted : (compileDocument (List.ofFn extendedQuery) iamOnly 25).toOption.map (grantedTo · .auth) =
      some [⟨"Query", "a"⟩] := by
    decide +kernel
  obtain ⟨out, hsome, hfields⟩ := Option.map_eq_some_iff.1 hgranted
  have hout := eq_ok_of_toOption_eq_some hsome
  obtain ⟨hiff, hsame⟩ := compileDocument_reordered extendedQuery (Equiv.swap 0 1) hone iamOnly 25
  obtain ⟨out', hout'⟩ := hiff.1 ⟨out, hout⟩
  exact ⟨hone, out, out', hout, hout', hfields, hsame out out' hout hout'⟩

end SchemaAccess
