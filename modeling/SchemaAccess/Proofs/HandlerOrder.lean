import SchemaAccess.Proofs.CompiledDocument

namespace SchemaAccess

open Access (NoMarker)
open GraphQL (Document)
open Pass (Pipeline Handler Enforcement Output)

theorem run_perm {p p' : Pipeline} {e : Enforcement} (hperm : p.handlers.Perm p'.handlers)
    (hfunction : .function ∈ p.handlers) (hauth : .auth e ∈ p.handlers)
    (hmarkers : ∀ h ∈ p.handlers, NoMarker h.directive) (d : Document) (out : Output) :
    (p.run d).1 = .ok out ↔ (p'.run d).1 = .ok out := by
  have hmarkers' : ∀ h ∈ p'.handlers, NoMarker h.directive := by
    intro h hmem
    exact hmarkers h (hperm.mem_iff.2 hmem)
  -- another fault may come first, but there is one in either order or in none
  have hfaults : p.handlers.flatMap (Handler.faults d) = [] ↔
      p'.handlers.flatMap (Handler.faults d) = [] := by
    simp only [List.flatMap_eq_nil_iff, hperm.mem_iff]
  rw [Pass.run_eq_settled hfunction hauth hmarkers,
    Pass.run_eq_settled (hperm.mem_iff.1 hfunction) (hperm.mem_iff.1 hauth) hmarkers',
    settled_eq_ok_iff, settled_eq_ok_iff, hfaults]

/-- Passes with the same handlers in different orders accept the same schemas, and give the same for
them. -/
theorem runText_perm {p p' : Pipeline} {e : Enforcement} (hperm : p.handlers.Perm p'.handlers)
    (hfunction : .function ∈ p.handlers) (hauth : .auth e ∈ p.handlers)
    (hmarkers : ∀ h ∈ p.handlers, NoMarker h.directive) (schema : String) (out : Output) :
    (p.runText schema).1 = .ok out ↔ (p'.runText schema).1 = .ok out := by
  unfold Pipeline.runText
  cases Document.read schema with
  | error fault => rfl
  | ok d => exact run_perm hperm hfunction hauth hmarkers d out

def iamBeside : Enforcement := ⟨userPoolsAndIam, 25, "Api", by decide⟩

/-- Rules before functions, and handlers around them that reject and that look on. -/
def rulesFirst : Pipeline where
  handlers := [.reject "rest", .auth iamBeside, .observe "key", .function]
  nonempty := by simp
  distinct := by simp [Handler.directive, Handler.reject, Pass.functionDirective, Access.authDirective]

def functionsFirst : Pipeline where
  handlers := [.function, .observe "key", .reject "rest", .auth iamBeside]
  nonempty := by simp
  distinct := by simp [Handler.directive, Handler.reject, Pass.functionDirective, Access.authDirective]

def secretSchema : String :=
  "type Query @key \x7b getSecret: String! " ++
    "@auth(rules: [\x7ballow: private, provider: iam\x7d]) @function(name: \"getSecret\") \x7d"

theorem runText_perm_secretSchema :
    ∃ out, (rulesFirst.runText secretSchema).1 = .ok out ∧ (functionsFirst.runText secretSchema).1 = .ok out ∧
      out.policies.map (·.name) = ["AuthRolePolicy01"] := by
  have hpolicies : (rulesFirst.runText secretSchema).1.toOption.map
      (fun out => out.policies.map (·.name)) = some ["AuthRolePolicy01"] := by
    decide +kernel
  obtain ⟨out, hout, hnames⟩ := Option.map_eq_some_iff.1 hpolicies
  have hok := eq_ok_of_toOption_eq_some hout
  have hperm : rulesFirst.handlers.Perm functionsFirst.handlers := by
    have hrest : ([.reject "rest", .auth iamBeside, .observe "key"] : List Handler).Perm
        [.observe "key", .reject "rest", .auth iamBeside] := @List.perm_append_comm _ [_, _] [_]
    exact (List.perm_append_singleton Handler.function _).trans (hrest.cons Handler.function)
  have hfunction : .function ∈ rulesFirst.handlers := by simp [rulesFirst]
  have hauth : .auth iamBeside ∈ rulesFirst.handlers := by simp [rulesFirst]
  have hmarkers : ∀ h ∈ rulesFirst.handlers, NoMarker h.directive := by
    have hall : ∀ directive ∈ ["rest", "auth", "key", "function"], NoMarker directive := by
      intro directive hmem q
      cases q <;> revert directive <;> decide
    intro h hmem
    exact hall _ (List.mem_map_of_mem (f := (·.directive)) hmem)
  have hok' := (runText_perm hperm hfunction hauth hmarkers secretSchema out).1 hok
  exact ⟨out, hok, hok', hnames⟩

end SchemaAccess
