import SchemaAccess.GraphQL.Meaning

namespace SchemaAccess.GraphQL

/-- Names that a schema definition gives. Of an operation that it repeats the last entry counts. -/
def SchemaDef.Names (node : SchemaDef) (name : String) : Prop :=
  ∃ kind before after, node.roots = before ++ (kind, name) :: after ∧ ∀ other, (kind, other) ∉ after

namespace Document

inductive IsRootName (d : Document) (name : String) : Prop
  /-- Without a schema definition. -/
  | usual (h : ∀ node, .schema false node ∉ d) (hname : name ∈ ["Query", "Mutation", "Subscription"])
  /-- By the first schema definition. Extensions of schemas do not count. -/
  | defined (before : Document) (node : SchemaDef) (after : Document)
      (hd : d = before ++ .schema false node :: after) (hfirst : ∀ other, .schema false other ∉ before)
      (hname : node.Names name)

def schemaRoots? : Definition → Option (List (OperationKind × String))
  | .schema false node => some node.roots
  | _ => none

theorem roots_eq_elim (d : Document) : d.roots = (d.findSome? schemaRoots?).elim
    (OperationKind.all.map fun kind => (kind, defaultRoot kind))
    fun pairs => OperationKind.all.filterMap fun kind => pairs.reverse.find? (·.1 = kind) := by
  unfold roots
  dsimp only
  split
  · rename_i hnone
    change d.findSome? schemaRoots? = none at hnone
    rw [hnone, Option.elim_none]
  · rename_i pairs hsome
    change d.findSome? schemaRoots? = some pairs at hsome
    rw [hsome, Option.elim_some]

theorem rootNames_congr {d d' : Document} (h : d'.findSome? schemaRoots? = d.findSome? schemaRoots?) :
    d'.rootNames = d.rootNames := by
  rw [rootNames, roots_eq_elim, h, ← roots_eq_elim, rootNames]

theorem schemaRoots?_eq_some_iff (x : Definition) (pairs : List (OperationKind × String)) :
    schemaRoots? x = some pairs ↔ ∃ node, x = .schema false node ∧ node.roots = pairs := by
  unfold schemaRoots?
  split <;> simp_all

theorem forall_schemaRoots?_eq_none_iff (d : Document) :
    (∀ x ∈ d, schemaRoots? x = none) ↔ ∀ node, .schema false node ∉ d := by
  constructor
  · intro h node hmem
    exact absurd (h _ hmem) (by simp [schemaRoots?])
  · intro h x hx
    refine Option.eq_none_iff_forall_ne_some.2 fun pairs hpairs => ?_
    obtain ⟨node, rfl, -⟩ := (schemaRoots?_eq_some_iff x pairs).1 hpairs
    exact h node hx

theorem mem_map_last_iff (pairs : List (OperationKind × String)) (name : String) :
    name ∈ (OperationKind.all.filterMap fun kind => pairs.reverse.find? (·.1 = kind)).map Prod.snd ↔
      ∃ kind before after, pairs = before ++ (kind, name) :: after ∧ ∀ other, (kind, other) ∉ after := by
  simp only [List.mem_map, List.mem_filterMap, List.find?_eq_some_iff_append]
  constructor
  · -- the entries are searched from the last one on, so those before the one found come later
    rintro ⟨⟨kind, _⟩, ⟨kind', -, hkind, later, earlier, hsplit, hlater⟩, rfl⟩
    have hkind' : kind = kind' := of_decide_eq_true hkind
    refine ⟨kind, earlier.reverse, later.reverse, ?_, fun other hother => ?_⟩
    · have hreversed := congrArg List.reverse hsplit
      simpa using hreversed
    · have hne := hlater _ (List.mem_reverse.1 hother)
      simp [hkind'] at hne
  · rintro ⟨kind, before, after, rfl, hlast⟩
    refine ⟨(kind, name), ⟨kind, ?_, by simp, after.reverse, before.reverse, by simp, ?_⟩, rfl⟩
    · cases kind <;> simp [OperationKind.all]
    · rintro ⟨kind', other⟩ hother
      have hne : kind' ≠ kind := by
        rintro rfl
        exact hlast other (List.mem_reverse.1 hother)
      simpa using hne

theorem mem_rootNames_iff (d : Document) (name : String) : name ∈ d.rootNames ↔ d.IsRootName name := by
  rw [rootNames, roots_eq_elim]
  cases hfind : d.findSome? schemaRoots? with
  | none =>
    have hnone := (forall_schemaRoots?_eq_none_iff d).1 (List.findSome?_eq_none_iff.1 hfind)
    constructor
    · intro hname
      exact .usual hnone (by simpa [OperationKind.all, defaultRoot] using hname)
    · rintro (⟨-, hname⟩ | ⟨before, node, after, rfl, -, -⟩)
      · simpa [OperationKind.all, defaultRoot] using hname
      · exact absurd (by simp) (hnone node)
  | some pairs =>
    obtain ⟨before, x, after, rfl, hx, hbefore⟩ := List.findSome?_eq_some_iff.1 hfind
    obtain ⟨node, rfl, rfl⟩ := (schemaRoots?_eq_some_iff x pairs).1 hx
    have hfirst := (forall_schemaRoots?_eq_none_iff before).1 hbefore
    refine (mem_map_last_iff node.roots name).trans ⟨fun hname => ?_, ?_⟩
    · exact .defined before node after rfl hfirst hname
    · rintro (⟨hnone, -⟩ | ⟨before', node', after', hd, hfirst', hname⟩)
      · exact absurd (by simp) (hnone node)
      · have hsome : (before' ++ .schema false node' :: after').findSome? schemaRoots? = some node'.roots :=
          List.findSome?_eq_some_iff.2
            ⟨before', _, after', rfl, rfl, (forall_schemaRoots?_eq_none_iff before').2 hfirst'⟩
        rw [← hd, hfind] at hsome
        rw [Option.some.inj hsome]
        exact hname

end Document

end SchemaAccess.GraphQL
