import SchemaAccess.Compile
import SchemaAccess.Proofs.PassOutcome

namespace SchemaAccess

open Access (Config)
open GraphQL (Document)
open Pass (Output Enforcement Handler)
open Policy (Ledger)

def compiled (d : Document) (c : Config) (cap : Int) : Output where
  document := d.withDirectives (Pass.markedDirectives c d.rootNames)
  template := Pass.templateOf Policy.defaultApiId (Ledger.drawn (grantedFields d c) cap)
  policies := Ledger.drawn (grantedFields d c) cap

def userPoolsAndIam : Config := ⟨.bare .userPools, [.bare .iam], by decide⟩

def iamOnly : Config := ⟨.bare .iam, [], by decide⟩

theorem ofCap_eq_ok (c : Config) {cap : Int} (h : 1 ≤ cap) (apiId : String) :
    Enforcement.ofCap c cap apiId = .ok ⟨c, cap, apiId, h⟩ := dif_neg (by omega)

theorem compileDocument_of_cap_lt (d : Document) (c : Config) {cap : Int} (h : cap < 1) :
    compileDocument d c cap = .error (.value .capBelowOne) := by
  rw [compileDocument, Enforcement.ofCap, dif_pos h]
  rfl

theorem compile_eq_compileDocument {schema : String} {d : Document} (h : Document.read schema = .ok d)
    (c : Config) (cap : Int) : compile schema c cap = compileDocument d c cap := by
  unfold compile compileDocument Pass.Pipeline.runText
  rw [h]

theorem compileDocument_eq_settled (d : Document) (c : Config) {cap : Int} (h : 1 ≤ cap) :
    compileDocument d c cap = settled (faults d c) (compiled d c cap) := by
  let e : Enforcement := ⟨c, cap, Policy.defaultApiId, h⟩
  have hmarkers : ∀ handler ∈ (compiler e).handlers, Access.NoMarker handler.directive := by
    intro handler hmem
    obtain rfl | rfl : handler = .function ∨ handler = .auth e := by simpa [compiler] using hmem
    · exact Access.noMarker_function
    · exact Access.noMarker_auth
  have hfaults : (compiler e).handlers.flatMap (Handler.faults d) = faults d c := by
    simp [compiler, Handler.faults, faults, e]
  rw [compileDocument, ofCap_eq_ok c h]
  change ((compiler e).run d).1 = _
  rw [Pass.run_eq_settled (e := e) (by simp [compiler]) (by simp [compiler]) hmarkers d, hfaults]
  rfl

theorem compileDocument_eq_ok_iff (d : Document) (c : Config) (cap : Int) (out : Output) :
    compileDocument d c cap = .ok out ↔ 1 ≤ cap ∧ faults d c = [] ∧ compiled d c cap = out := by
  by_cases h : 1 ≤ cap
  · rw [compileDocument_eq_settled d c h, settled_eq_ok_iff]
    simp [h]
  · rw [compileDocument_of_cap_lt d c (by omega)]
    simp [h]

theorem compileDocument_of_padded {d d' : Document} (h : d.Padded (fun _ => True) d') (c : Config)
    (cap : Int) : compileDocument d' c cap =
      (compileDocument d c cap).map fun out => { out with document := withMarkers c d' } := by
  have hfaults := h.faults_eq (fun _ => trivial) c
  have hgranted := h.grantedFields_eq trivial trivial c
  by_cases hcap : 1 ≤ cap
  · have hcompiled : compiled d' c cap = { compiled d c cap with document := withMarkers c d' } := by
      rw [compiled, compiled, hgranted]
      rfl
    rw [compileDocument_eq_settled d' c hcap, compileDocument_eq_settled d c hcap, settled_map, hfaults,
      hcompiled]
  · have hlow : cap < 1 := by omega
    rw [compileDocument_of_cap_lt d' c hlow, compileDocument_of_cap_lt d c hlow]
    rfl

theorem compile_eq_ok_iff (schema : String) (c : Config) (cap : Int) (out : Output) :
    compile schema c cap = .ok out ↔
      ∃ d, Document.read schema = .ok d ∧ 1 ≤ cap ∧ faults d c = [] ∧ compiled d c cap = out := by
  cases hread : Document.read schema with
  | ok d => simp [compile_eq_compileDocument hread, compileDocument_eq_ok_iff]
  | error fault =>
    have hne : compile schema c cap ≠ .ok out := by
      unfold compile Pass.Pipeline.runText
      rw [hread]
      cases Enforcement.ofCap c cap Policy.defaultApiId <;> exact nofun
    simp [hne]

end SchemaAccess
