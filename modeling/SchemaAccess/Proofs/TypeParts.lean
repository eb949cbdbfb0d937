import SchemaAccess.Proofs.CompiledDocument

namespace SchemaAccess

namespace GraphQL

/-- An object type in two parts. The fields behind the first `k` move to an extension that has nothing
but them. -/
def Definition.parts (k : Nat) : Definition → List Definition
  | .object false node =>
    [.object false { node with fields := node.fields.take k },
      .object true ⟨none, node.name, [], [], node.fields.drop k⟩]
  | other => [other]

/-- A document with its definition at a position in parts. -/
def Document.inParts (k : Nat) : Document → Nat → Document
  | [], _ => []
  | x :: rest, 0 => x.parts k ++ rest
  | x :: rest, i + 1 => x :: inParts k rest i

theorem Definition.findSome?_schemaRoots?_parts (k : Nat) (x : Definition) :
    (x.parts k).findSome? Document.schemaRoots? = [x].findSome? Document.schemaRoots? := by
  cases x with
  | object extension node => cases extension <;> rfl
  | _ => rfl

theorem Document.rootNames_inParts (k i : Nat) (d : Document) : (d.inParts k i).rootNames = d.rootNames := by
  apply Document.rootNames_congr
  induction d generalizing i with
  | nil => rfl
  | cons x d ih =>
    cases i with
    | zero => rw [inParts, List.findSome?_append, Definition.findSome?_schemaRoots?_parts,
        ← List.findSome?_append, List.singleton_append]
    | succ i => rw [inParts, List.findSome?_cons, List.findSome?_cons, ih]

/-- The sites of the parts are those of the whole, and the extension. -/
theorem Definition.padded_parts (k : Nat) (x : Definition) :
    Site.Padded (fun _ => True) x.sites (Document.sites (x.parts k)) := by
  have hsame : Site.Padded (fun _ => True) x.sites (Document.sites [x]) := by
    rw [Document.sites, List.flatMap_singleton]
    exact .refl _ _
  cases x with
  | object extension node =>
    cases extension with
    | true => exact hsame
    | false =>
      have hsites : (Definition.object false node).sites = .type node ::
          ((node.fields.take k).map (Site.field node.name) ++
            (node.fields.drop k).map (.field node.name)) := by
        rw [← List.map_append, List.take_append_drop]
        rfl
      have hextension : Site.Padded (fun _ => True) ((node.fields.drop k).map (.field node.name))
          (Composite.sites ⟨none, node.name, [], [], node.fields.drop k⟩ ++ []) := by
        rw [List.append_nil]
        exact .bare rfl (.refl _ _)
      rw [hsites]
      apply Site.Padded.alike
      · exact .type rfl fun _ _ => rfl
      · exact (Site.Padded.refl _ _).append hextension
  | _ => exact hsame

theorem Document.padded_inParts (k i : Nat) (d : Document) : d.Padded (fun _ => True) (d.inParts k i) where
  rootNames := d.rootNames_inParts k i
  sites := by
    induction d generalizing i with
    | nil => exact .nil
    | cons x d ih =>
      cases i with
      | zero =>
        have happend : Document.sites (x.parts k ++ d) = Document.sites (x.parts k) ++ Document.sites d :=
          List.flatMap_append
        rw [inParts, happend]
        exact (x.padded_parts k).append (.refl _ (Document.sites d))
      | succ i => exact (Site.Padded.refl _ x.sites).append (ih i)

section WithDirectives

variable {g : Site → List Directive}
  (htype : ∀ (node : Composite) (fields : List FieldDef), g (.type { node with fields }) = g (.type node))
  (hbare : ∀ node : Composite, node.directives = [] → g (.type node) = [])
include htype hbare

theorem Definition.parts_withDirectives (k : Nat) (x : Definition) :
    (x.withDirectives g).parts k = (x.parts k).map (·.withDirectives g) := by
  cases x with
  | object extension node =>
    cases extension with
    | true => rfl
    | false =>
      have hextension := hbare ⟨none, node.name, [], [], node.fields.drop k⟩ rfl
      simp only [withDirectives, parts, Composite.withDirectives, List.map_cons, List.map_nil, List.map_take,
        List.map_drop, htype, hextension]
  | _ => rfl

theorem Document.inParts_withDirectives (k i : Nat) (d : Document) :
    (d.withDirectives g).inParts k i = (d.inParts k i).withDirectives g := by
  induction d generalizing i with
  | nil => rfl
  | cons x d ih =>
    cases i with
    | zero =>
      have hparts := Definition.parts_withDirectives htype hbare k x
      simp only [withDirectives, inParts, List.map_cons, List.map_append, hparts]
    | succ i => exact congrArg (x.withDirectives g :: ·) (ih i)

end WithDirectives

end GraphQL

open Access (Config)
open GraphQL (Document)

theorem withMarkers_inParts (c : Config) (d : Document) (k i : Nat) :
    withMarkers c (d.inParts k i) = (withMarkers c d).inParts k i := by
  rw [withMarkers, withMarkers, d.rootNames_inParts]
  symm
  apply Document.inParts_withDirectives
  · intro node fields
    rfl
  · intro node hnone
    have hcarries := GraphQL.carries_of_directives_eq_nil hnone Access.authDirective
    rw [Pass.markedDirectives_of_not_carries c _ (by simp [hcarries])]
    exact hnone

/-- A document with a type in parts is rejected as the document is, or compiled to the same template and
the same policies, and to the schema with that type in parts. -/
theorem compileDocument_inParts (d : Document) (k i : Nat) (c : Config) (cap : Int) :
    compileDocument (d.inParts k i) c cap =
      (compileDocument d c cap).map fun out => { out with document := out.document.inParts k i } := by
  rw [compileDocument_of_padded (d.padded_inParts k i)]
  cases hout : compileDocument d c cap with
  | error fault => rfl
  | ok out =>
    have hdocument : out.document = withMarkers c d := by
      obtain ⟨-, -, rfl⟩ := (compileDocument_eq_ok_iff d c cap out).1 hout
      rfl
    have hparts : withMarkers c (d.inParts k i) = out.document.inParts k i := by
      rw [hdocument, withMarkers_inParts]
    exact congrArg (fun document => Except.ok { out with document := document }) hparts

end SchemaAccess
