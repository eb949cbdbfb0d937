import Mathlib.Data.List.Infix
import SchemaAccess.FileTree

namespace SchemaAccess.FileTree

variable {t t' : FileTree}

section Follow

theorem follow_elsewhere (t : FileTree) (parts : List String) : t.follow .elsewhere parts = .ok .elsewhere := by
  cases parts <;> rfl

theorem follow_cons (t : FileTree) (place : TreePlace) (part : String) (rest : List String) :
    t.follow place (part :: rest) = match place, t.node place with
      | .elsewhere, _ => .ok .elsewhere
      | _, .missing => .error .missing
      | _, .file _ => .error .notADirectory
      | _, .directory =>
        if nameLimit < part.utf8ByteSize then .error .nameTooLong else t.follow (place.step part) rest := rfl

theorem follow_cons_eq_ok_iff (t : FileTree) (place q : TreePlace) (part : String) (rest : List String) :
    t.follow place (part :: rest) = .ok q ↔ place = .elsewhere ∧ q = .elsewhere ∨
      t.node place = .directory ∧ part.utf8ByteSize ≤ nameLimit ∧ t.follow (place.step part) rest = .ok q := by
  rw [follow_cons]
  by_cases hplace : place = .elsewhere
  · subst hplace
    simp [node, eq_comm]
  · cases hnode : t.node place with
    | directory =>
      by_cases hsize : nameLimit < part.utf8ByteSize
      · simp [hplace, Nat.not_le.2 hsize, hsize]
      · simp [hplace, Nat.not_lt.1 hsize, hsize]
    | _ => simp [hplace]

theorem follow_append_eq_ok_iff (t : FileTree) (place q : TreePlace) (parts more : List String) :
    t.follow place (parts ++ more) = .ok q ↔
      ∃ r, t.follow place parts = .ok r ∧ t.follow r more = .ok q := by
  induction parts generalizing place with
  | nil => simp [follow, pure, Except.pure]
  | cons part parts ih =>
    simp only [List.cons_append, follow_cons_eq_ok_iff, ih]
    constructor
    · rintro (⟨rfl, rfl⟩ | ⟨hplace, hsize, r, hr, hq⟩)
      · exact ⟨.elsewhere, .inl ⟨rfl, rfl⟩, follow_elsewhere t more⟩
      · exact ⟨r, .inr ⟨hplace, hsize, hr⟩, hq⟩
    · rintro ⟨r, ⟨rfl, rfl⟩ | ⟨hplace, hsize, hr⟩, hq⟩
      · rw [follow_elsewhere] at hq
        exact .inl ⟨rfl, (Except.ok.inj hq).symm⟩
      · exact .inr ⟨hplace, hsize, r, hr, hq⟩

theorem follow_mono (h : ∀ q, t.node q = .directory → t'.node q = .directory) {place q : TreePlace}
    {parts : List String} (hq : t.follow place parts = .ok q) : t'.follow place parts = .ok q := by
  induction parts generalizing place with
  | nil => exact hq
  | cons part parts ih =>
    rw [follow_cons_eq_ok_iff] at hq ⊢
    rcases hq with helsewhere | ⟨hplace, hsize, hrest⟩
    · exact .inl helsewhere
    · exact .inr ⟨h place hplace, hsize, ih hrest⟩

theorem follow_filter {place q : TreePlace} {parts : List String} (h : t.follow place parts = .ok q) :
    t.follow place (parts.filter fun part => part != "" && part != ".") = .ok q := by
  induction parts generalizing place with
  | nil => exact h
  | cons part parts ih =>
    rw [follow_cons_eq_ok_iff] at h
    rcases h with ⟨rfl, rfl⟩ | ⟨hplace, hsize, hrest⟩
    · exact follow_elsewhere t _
    · by_cases hpart : part = "" ∨ part = "."
      · rw [List.filter_cons_of_neg (by rcases hpart with rfl | rfl <;> decide)]
        have hstay : place.step part = place := if_pos hpart
        exact ih (hstay ▸ hrest)
      · rw [not_or] at hpart
        rw [List.filter_cons_of_pos (by simp [hpart]), follow_cons_eq_ok_iff]
        exact .inr ⟨hplace, hsize, ih hrest⟩

theorem exists_last_step {place q : TreePlace} {parts : List String} (h : t.follow place parts = .ok q) :
    q = place ∨ q = .elsewhere ∨ ∃ d part, t.node d = .directory ∧ q = d.step part := by
  induction parts generalizing place with
  | nil => exact .inl (Except.ok.inj h).symm
  | cons part parts ih =>
    rw [follow_cons_eq_ok_iff] at h
    rcases h with ⟨-, rfl⟩ | ⟨hplace, -, hrest⟩
    · exact .inr (.inl rfl)
    · rcases ih hrest with rfl | hlater
      · exact .inr (.inr ⟨place, part, hplace, rfl⟩)
      · exact .inr hlater

end Follow

section Nodes

theorem node_inside (t : FileTree) (names : List String) : t.node (.inside names) =
    match t.files.find? (·.1 = names) with
    | some f => .file f.2
    | none => if t.isDirectory names then .directory else .missing := by
  rw [node]
  cases t.files.find? (·.1 = names) <;> rfl

theorem isDirectory_of_node {names : List String} (h : t.node (.inside names) = .directory) :
    t.isDirectory names = true := by
  rw [node_inside] at h
  split at h
  · contradiction
  · split at h
    · assumption
    · contradiction

theorem isDirectory_of_longer {names more : List String} (h : t.isDirectory more = true)
    (hnames : names <+: more) : t.isDirectory names = true := by
  simp only [isDirectory, Bool.or_eq_true, List.isEmpty_iff, List.any_eq_true, Bool.and_eq_true,
    List.isPrefixOf_iff_prefix, decide_eq_true_eq] at h ⊢
  rcases h with (rfl | ⟨d, hd, hmore⟩) | ⟨f, hf, hmore, hlength⟩
  · exact .inl (.inl (List.prefix_nil.1 hnames))
  · exact .inl (.inr ⟨d, hd, hnames.trans hmore⟩)
  · exact .inr ⟨f, hf, hnames.trans hmore, hnames.length_le.trans_lt hlength⟩

theorem node_eq_missing_iff (t : FileTree) (names : List String) : t.node (.inside names) = .missing ↔
    t.files.find? (·.1 = names) = none ∧ t.isDirectory names = false := by
  rw [node_inside]
  cases t.files.find? (·.1 = names) with
  | some f => simp
  | none => cases t.isDirectory names <;> simp

/-- What is missing at the end of a path that can be followed is missing in a directory. -/
theorem exists_parent {root : String} {parts names : List String}
    (h : t.follow (start root) parts = .ok (.inside names)) (hnone : t.node (.inside names) = .missing) :
    ∃ before name, names = before ++ [name] ∧ t.isDirectory before = true := by
  have hnot : t.isDirectory names = false := ((node_eq_missing_iff t names).1 hnone).2
  rcases exists_last_step h with hstart | helsewhere | ⟨d, part, hd, hnames⟩
  · unfold start at hstart
    split at hstart
    · obtain rfl := TreePlace.inside.inj hstart
      contradiction
    · contradiction
  · contradiction
  · unfold TreePlace.step at hnames
    split at hnames
    · rw [← hnames, hnone] at hd
      contradiction
    · split at hnames
      · rename_i names'
        split at hnames
        · split at hnames
          · contradiction
          · -- two dots lead to a directory
            obtain rfl := TreePlace.inside.inj hnames
            have hprefix := isDirectory_of_longer (isDirectory_of_node hd) (List.dropLast_prefix names')
            rw [hnot] at hprefix
            contradiction
        · exact ⟨names', part, TreePlace.inside.inj hnames, isDirectory_of_node hd⟩
      · split at hnames <;> contradiction
      · contradiction

end Nodes

section Growth

/-- A directory that is added where nothing was, in a directory. -/
theorem node_addDirectory {before : List String} {name : String} (hbefore : t.isDirectory before = true)
    (hnone : t.node (.inside (before ++ [name])) = .missing) (q : TreePlace) :
    node { t with directories := t.directories ++ [before ++ [name]] } q =
      if q = .inside (before ++ [name]) then .directory else t.node q := by
  cases q with
  | above => rfl
  | elsewhere => rfl
  | inside names =>
    have hdir : isDirectory { t with directories := t.directories ++ [before ++ [name]] } names =
        (t.isDirectory names || names.isPrefixOf (before ++ [name])) := by
      simp only [isDirectory, List.any_append, List.any_cons, List.any_nil, Bool.or_false]
      ac_rfl
    rw [node_inside, node_inside, hdir]
    by_cases hnames : names = before ++ [name]
    · subst hnames
      rw [((node_eq_missing_iff t _).1 hnone).1]
      simp
    · have hsame : (t.isDirectory names || names.isPrefixOf (before ++ [name])) = t.isDirectory names := by
        cases hp : names.isPrefixOf (before ++ [name]) with
        | false => exact Bool.or_false _
        | true =>
          rw [List.isPrefixOf_iff_prefix, List.prefix_concat_iff] at hp
          rw [isDirectory_of_longer hbefore (hp.resolve_left hnames), Bool.true_or]
      have hne : TreePlace.inside names ≠ .inside (before ++ [name]) := fun h => hnames (TreePlace.inside.inj h)
      rw [hsame, if_neg hne]

/-- A tree has grown by directories on a path. Files stay, and so does every other place. -/
structure Grows (root : String) (parts : List String) (t t' : FileTree) : Prop where
  files : t'.files = t.files
  node : ∀ q, t'.node q = t.node q ∨ t.node q = .missing ∧ t'.node q = .directory ∧
    ∃ before, before <+: parts ∧ t'.follow (start root) before = .ok q

theorem Grows.refl (root : String) (parts : List String) (t : FileTree) : Grows root parts t t :=
  ⟨rfl, fun _ => .inl rfl⟩

theorem Grows.node_directory {root : String} {parts : List String} (h : Grows root parts t t') {q : TreePlace}
    (hq : t.node q = .directory) : t'.node q = .directory := by
  rcases h.node q with hsame | ⟨hnone, -, -⟩
  · rw [hsame, hq]
  · rw [hq] at hnone
    contradiction

theorem Grows.trans {root : String} {parts more : List String} {t'' : FileTree} (h : Grows root parts t t')
    (hmore : parts <+: more) (h' : Grows root more t' t'') : Grows root more t t'' := by
  refine ⟨h'.files.trans h.files, fun q => ?_⟩
  rcases h'.node q with hsame | ⟨hnone, hdir, hway⟩
  · rw [hsame]
    rcases h.node q with hbefore | ⟨hnone, hdir, before, hprefix, hfollow⟩
    · exact .inl hbefore
    · exact .inr ⟨hnone, hdir, before, hprefix.trans hmore, follow_mono (fun _ => h'.node_directory) hfollow⟩
  · rcases h.node q with hbefore | ⟨-, hdir', -⟩
    · exact .inr ⟨hbefore ▸ hnone, hdir, hway⟩
    · rw [hnone] at hdir'
      contradiction

/-- A path leads to a directory, or out of the tree. -/
def Reaches (t : FileTree) (p : Path) : Prop :=
  ∃ q, t.place p = .ok q ∧ (t.node q = .directory ∨ q = .elsewhere)

theorem place_eq_ok_iff (t : FileTree) (p : Path) (q : TreePlace) : t.place p = .ok q ↔
    p.shown.utf8ByteSize ≤ pathLimit ∧ t.follow (start p.root) p.parts = .ok q := by
  unfold place
  split
  · rename_i h
    simp [throw, throwThe, MonadExceptOf.throw, Nat.not_le.2 h]
  · rename_i h
    simp [Nat.not_lt.1 h]

theorem place_mono (h : ∀ q, t.node q = .directory → t'.node q = .directory) {p : Path} {q : TreePlace}
    (hplace : t.place p = .ok q) : t'.place p = .ok q := by
  rw [place_eq_ok_iff] at hplace ⊢
  exact ⟨hplace.1, follow_mono h hplace.2⟩

/-- A directory is added at a place where nothing is yet. -/
def addDirectoryAt (t : FileTree) (q : TreePlace) : Except FileCause FileTree :=
  match t.node q, q with
  | .missing, .inside names => .ok { t with directories := t.directories ++ [names] }
  | .missing, _ => .ok t
  | _, _ => .error .present

theorem addDirectory_eq_bind (t : FileTree) (p : Path) : t.addDirectory p = t.place p >>= t.addDirectoryAt := rfl

/-- A directory that is added is a new one within a directory, or lies elsewhere. -/
theorem addDirectory_cases {p : Path} (h : t.addDirectory p = .ok t') :
    (t.place p = .ok .elsewhere ∧ t' = t) ∨ ∃ before name, t.place p = .ok (.inside (before ++ [name])) ∧
      t.isDirectory before = true ∧ t.node (.inside (before ++ [name])) = .missing ∧
      t' = { t with directories := t.directories ++ [before ++ [name]] } := by
  rw [addDirectory_eq_bind] at h
  cases hplace : t.place p with
  | error cause =>
    rw [hplace] at h
    contradiction
  | ok q =>
    rw [hplace] at h
    change t.addDirectoryAt q = .ok t' at h
    unfold addDirectoryAt at h
    have hfollow := ((place_eq_ok_iff t p q).1 hplace).2
    cases q with
    | above => contradiction
    | elsewhere => exact .inl ⟨rfl, (Except.ok.inj h).symm⟩
    | inside names =>
      cases hnone : t.node (.inside names) with
      | missing =>
        rw [hnone] at h
        obtain ⟨before, name, rfl, hbefore⟩ := exists_parent hfollow hnone
        exact .inr ⟨before, name, rfl, hbefore, hnone, (Except.ok.inj h).symm⟩
      | _ =>
        rw [hnone] at h
        contradiction

theorem grows_of_addDirectory {p : Path} (h : t.addDirectory p = .ok t') :
    Grows p.root p.parts t t' ∧ Reaches t' p := by
  rcases addDirectory_cases h with ⟨hplace, rfl⟩ | ⟨before, name, hplace, hbefore, hnone, rfl⟩
  · exact ⟨.refl _ _ _, _, hplace, .inr rfl⟩
  · have hnode := node_addDirectory hbefore hnone
    have hdir : ∀ q, t.node q = .directory →
        node { t with directories := t.directories ++ [before ++ [name]] } q = .directory := by
      intro q hq
      rw [hnode]
      split
      · rfl
      · exact hq
    rw [place_eq_ok_iff] at hplace
    have hfollow := follow_mono hdir hplace.2
    have hnew : node { t with directories := t.directories ++ [before ++ [name]] }
        (.inside (before ++ [name])) = .directory := by
      rw [hnode, if_pos rfl]
    refine ⟨⟨rfl, fun q => ?_⟩, _, (place_eq_ok_iff _ p _).2 ⟨hplace.1, hfollow⟩, .inl hnew⟩
    by_cases hq : q = .inside (before ++ [name])
    · subst hq
      exact .inr ⟨hnone, hnew, p.parts, List.prefix_rfl, hfollow⟩
    · exact .inl ((hnode q).trans (if_neg hq))

theorem reaches_of_tolerate {p : Path} {cause : FileCause} (h : t.tolerate p cause = .ok t') :
    t' = t ∧ Reaches t p := by
  unfold tolerate at h
  cases hplace : t.place p with
  | error cause' =>
    rw [hplace] at h
    contradiction
  | ok q =>
    rw [hplace] at h
    cases hq : t.node q with
    | directory =>
      simp only [Except.map, hq] at h
      exact ⟨(Except.ok.inj h).symm, q, hplace, .inl hq⟩
    | _ =>
      simp only [Except.map, hq] at h
      contradiction

theorem grows_of_added {p : Path} (h : (match t.addDirectory p with
    | .ok t => Except.ok t
    | .error cause => t.tolerate p cause) = .ok t') : Grows p.root p.parts t t' ∧ Reaches t' p := by
  split at h
  · rename_i hadd
    obtain rfl := Except.ok.inj h
    exact grows_of_addDirectory hadd
  · obtain ⟨rfl, hreaches⟩ := reaches_of_tolerate h
    exact ⟨.refl _ _ _, hreaches⟩

/-- All that is new lies on the path, and unless the path has no parts it leads to a directory. -/
theorem grows_of_makeWithParents {root : String} {reversed : List String}
    (h : t.makeWithParents root reversed = .ok t') : Grows root reversed.reverse t t' ∧
      (reversed ≠ [] → Reaches t' ⟨root, reversed.reverse⟩) := by
  induction reversed generalizing t' with
  | nil =>
    obtain rfl := Except.ok.inj h
    exact ⟨.refl _ _ _, fun hne => absurd rfl hne⟩
  | cons last before ih =>
    rw [makeWithParents] at h
    split at h
    · rename_i hadd
      obtain rfl := Except.ok.inj h
      exact (grows_of_addDirectory hadd).imp_right fun hreaches _ => hreaches
    · cases hbefore : t.makeWithParents root before with
      | error fault =>
        rw [hbefore] at h
        contradiction
      | ok t₁ =>
        rw [hbefore] at h
        obtain ⟨hgrows, hreaches⟩ := grows_of_added h
        have hprefix : before.reverse <+: (last :: before).reverse := by
          rw [List.reverse_cons]
          exact List.prefix_append _ _
        exact ⟨(ih hbefore).1.trans hprefix hgrows, fun _ => hreaches⟩
    · obtain ⟨rfl, hreaches⟩ := reaches_of_tolerate h
      exact ⟨.refl _ _ _, fun _ => hreaches⟩

theorem makeDirectory_of_place {p : Path} {q : TreePlace} (hplace : t.place p = .ok q)
    (hq : t.node q = .directory) : t.makeDirectory p = .ok t := by
  have htolerate : ∀ cause, t.tolerate p cause = .ok t := by
    intro cause
    rw [tolerate, hplace]
    simp [Except.map, hq, pure, Except.pure]
  have hadd : t.addDirectory p = .error .present := by
    rw [addDirectory, hplace]
    simp [bind, Except.bind, hq, throw, throwThe, MonadExceptOf.throw]
  unfold makeDirectory
  cases hparts : p.parts.reverse with
  | nil => rfl
  | cons last before =>
    have hp : (⟨p.root, (last :: before).reverse⟩ : Path) = p := by rw [← hparts, List.reverse_reverse]
    rw [makeWithParents, hp, hadd]
    exact htolerate .present

theorem shown_root_le (root : List Char) : (Path.mk (Path.rootOf root) []).shown.utf8ByteSize ≤ pathLimit := by
  unfold Path.rootOf
  split <;> decide

theorem node_start (hroot : t.node (.inside []) = .directory) (root : String) :
    t.node (start root) = .directory := by
  unfold start
  split
  · exact hroot
  · rfl

theorem grows_of_makeDirectory (hroot : t.node (.inside []) = .directory) {text : String}
    (h : t.makeDirectory (Path.ofText text) = .ok t') :
    Grows (Path.ofText text).root (Path.ofText text).parts t t' ∧ Reaches t' (Path.ofText text) := by
  obtain ⟨hgrows, hreaches⟩ := grows_of_makeWithParents h
  rw [List.reverse_reverse] at hgrows hreaches
  refine ⟨hgrows, ?_⟩
  by_cases hparts : (Path.ofText text).parts = []
  · have hstart := hgrows.node_directory (node_start hroot (Path.ofText text).root)
    refine ⟨_, (place_eq_ok_iff _ _ _).2 ⟨?_, by rw [hparts]; rfl⟩, .inl hstart⟩
    have hsize := shown_root_le text.toList
    rwa [← hparts] at hsize
  · exact hreaches (by simpa using hparts)

theorem look_ne_file_of_makeDirectory (hroot : t.node (.inside []) = .directory) {path : String}
    (h : t.makeDirectory (Path.ofText path) = .ok t') (text : String) : t.look path ≠ .file text := by
  intro hfile
  obtain ⟨hgrows, q, hplace, hq⟩ := grows_of_makeDirectory hroot h
  unfold look at hfile
  split at hfile
  · contradiction
  · split at hfile
    · rename_i r hr
      -- the path leads on to where it led before directories were made
      have hfollow := follow_mono (fun _ => hgrows.node_directory) (follow_filter hr)
      obtain rfl := Except.ok.inj (hfollow.symm.trans ((place_eq_ok_iff _ _ _).1 hplace).2)
      rcases hq with hdir | rfl
      · rcases hgrows.node r with hsame | ⟨hnone, -, -⟩
        · rw [hsame, hfile] at hdir
          contradiction
        · rw [hfile] at hnone
          contradiction
      · contradiction
    · contradiction

end Growth

section Writes

/-- A text has been put where a path leads to, and nothing else has changed. What lies elsewhere is not in
the tree. -/
def Puts (p : Path) (text : String) (t t' : FileTree) : Prop :=
  ∃ q, t.place p = .ok q ∧ t.node q ≠ .directory ∧
    ∀ r, t'.node r = if r = q ∧ q ≠ .elsewhere then .file text else t.node r

theorem node_putFile {names : List String} {old : String} (hfile : t.node (.inside names) = .file old)
    (text : String) (r : TreePlace) :
    node { t with files := t.files.map fun f => if f.1 = names then (names, text) else f } r =
      if r = .inside names then .file text else t.node r := by
  cases r with
  | above => rfl
  | elsewhere => rfl
  | inside names' =>
    have hkeep : ∀ f : List String × String, (if f.1 = names then (names, text) else f).1 = f.1 := by
      intro f
      split
      · exact Eq.symm ‹_›
      · rfl
    have hdir : isDirectory { t with files := t.files.map fun f => if f.1 = names then (names, text) else f }
        names' = t.isDirectory names' := by
      simp only [isDirectory, List.any_map, Function.comp_def, hkeep]
    rw [node_inside] at hfile
    rw [node_inside, node_inside, hdir, List.find?_map]
    simp only [Function.comp_def, hkeep]
    cases hfind : t.files.find? (·.1 = names') with
    | none =>
      by_cases hnames : names' = names
      · subst hnames
        rw [hfind] at hfile
        dsimp only at hfile
        split at hfile <;> contradiction
      · rw [if_neg (fun h => hnames (TreePlace.inside.inj h))]
        rfl
    | some f =>
      have hf : f.1 = names' := by simpa using List.find?_some hfind
      rw [Option.map_some]
      by_cases hnames : names' = names
      · rw [if_pos (hf.trans hnames), if_pos (congrArg _ hnames)]
      · rw [if_neg (fun h => hnames (hf.symm.trans h)), if_neg (fun h => hnames (TreePlace.inside.inj h))]

theorem node_newFile {before : List String} {name : String} (hbefore : t.isDirectory before = true)
    (hnone : t.node (.inside (before ++ [name])) = .missing) (text : String) (r : TreePlace) :
    node { t with files := t.files ++ [(before ++ [name], text)] } r =
      if r = .inside (before ++ [name]) then .file text else t.node r := by
  cases r with
  | above => rfl
  | elsewhere => rfl
  | inside names =>
    have hdir : isDirectory { t with files := t.files ++ [(before ++ [name], text)] } names =
        t.isDirectory names := by
      cases hp : names.isPrefixOf (before ++ [name]) && names.length < (before ++ [name]).length with
      | false => simp only [isDirectory, List.any_append, List.any_cons, List.any_nil, hp, Bool.or_false]
      | true =>
        -- the new file implies directories that are there anyway
        rw [Bool.and_eq_true, List.isPrefixOf_iff_prefix, List.prefix_concat_iff, decide_eq_true_eq] at hp
        have hshort : names <+: before := by
          rcases hp with ⟨rfl | hprefix, hlength⟩
          · exact absurd hlength (Nat.lt_irrefl _)
          · exact hprefix
        have hthere := isDirectory_of_longer hbefore hshort
        rw [hthere]
        simp only [isDirectory, List.any_append, Bool.or_eq_true] at hthere ⊢
        tauto
    rw [node_inside, node_inside, hdir, List.find?_append, List.find?_singleton]
    by_cases hnames : names = before ++ [name]
    · subst hnames
      rw [((node_eq_missing_iff t _).1 hnone).1]
      simp
    · have hne : before ++ [name] ≠ names := fun h => hnames h.symm
      have hne' : TreePlace.inside names ≠ .inside (before ++ [name]) := fun h => hnames (TreePlace.inside.inj h)
      rw [if_neg hne', if_neg (by simpa using hne), Option.or_none]

theorem puts_of_place {p : Path} {q : TreePlace} (hplace : t.place p = .ok q) (hq : t.node q ≠ .directory)
    (text : String) : ∃ t', t.writeFile p text = .ok t' ∧ Puts p text t t' := by
  have hfollow := ((place_eq_ok_iff t p q).1 hplace).2
  unfold writeFile
  rw [hplace]
  dsimp only
  cases q with
  | above => exact absurd rfl hq
  | elsewhere => exact ⟨t, rfl, .elsewhere, hplace, hq, by simp⟩
  | inside names =>
    cases hnode : t.node (.inside names) with
    | directory => exact absurd hnode hq
    | file old =>
      refine ⟨_, rfl, .inside names, hplace, hq, ?_⟩
      intro r
      rw [node_putFile hnode]
      simp
    | missing =>
      obtain ⟨before, name, rfl, hbefore⟩ := exists_parent hfollow hnode
      refine ⟨_, rfl, .inside (before ++ [name]), hplace, hq, ?_⟩
      intro r
      rw [node_newFile hbefore hnode]
      simp

theorem writeFile_of_long {t : FileTree} {p : Path} (h : pathLimit < p.shown.utf8ByteSize) (text : String) :
    t.writeFile p text = .error ⟨.nameTooLong, p⟩ := by
  have hplace : t.place p = .error .nameTooLong := if_pos h
  rw [writeFile, hplace]
  rfl

theorem Puts.node_directory_iff {p : Path} {text : String} (h : Puts p text t t') (q : TreePlace) :
    t'.node q = .directory ↔ t.node q = .directory := by
  obtain ⟨r, -, hr, hnode⟩ := h
  rw [hnode]
  split
  · rename_i hq
    rw [hq.1]
    simp [hr]
  · rfl

theorem exists_place_child {p : Path} (h : Reaches t p) {name : String} (hname : name.utf8ByteSize ≤ nameLimit)
    (hsize : (p.child name).shown.utf8ByteSize ≤ pathLimit) : ∃ q, t.place (p.child name) = .ok q := by
  obtain ⟨d, hplace, hd⟩ := h
  have hfollow := ((place_eq_ok_iff t p d).1 hplace).2
  have hlast : ∃ q, t.follow d [name] = .ok q := by
    rcases hd with hdir | rfl
    · exact ⟨d.step name, (follow_cons_eq_ok_iff _ _ _ _ _).2 (.inr ⟨hdir, hname, rfl⟩)⟩
    · exact ⟨.elsewhere, follow_elsewhere t _⟩
  obtain ⟨q, hq⟩ := hlast
  exact ⟨q, (place_eq_ok_iff _ _ _).2 ⟨hsize, (follow_append_eq_ok_iff _ _ _ _ _).2 ⟨d, hfollow, hq⟩⟩⟩

/-- No directory is where a path leads. -/
def Free (t : FileTree) (p : Path) : Prop := ∀ q, t.place p = .ok q → t.node q ≠ .directory

theorem exists_puts_puts {p : Path} (h : Reaches t p) {name name' : String}
    (hname : name.utf8ByteSize ≤ nameLimit) (hname' : name'.utf8ByteSize ≤ nameLimit)
    (hsize : (p.child name).shown.utf8ByteSize ≤ pathLimit)
    (hsize' : (p.child name').shown.utf8ByteSize ≤ pathLimit)
    (hfree : Free t (p.child name)) (hfree' : Free t (p.child name')) (text text' : String) :
    ∃ t₁ t₂, t.writeFile (p.child name) text = .ok t₁ ∧ t₁.writeFile (p.child name') text' = .ok t₂ ∧
      Puts (p.child name) text t t₁ ∧ Puts (p.child name') text' t₁ t₂ := by
  obtain ⟨q, hq⟩ := exists_place_child h hname hsize
  obtain ⟨q', hq'⟩ := exists_place_child h hname' hsize'
  obtain ⟨t₁, hwrite, hputs⟩ := puts_of_place hq (hfree q hq) text
  have hdir := hputs.node_directory_iff
  have hplace := place_mono (fun r => (hdir r).2) hq'
  obtain ⟨t₂, hwrite', hputs'⟩ := puts_of_place hplace ((hdir q').not.2 (hfree' q' hq')) text'
  exact ⟨t₁, t₂, hwrite, hwrite', hputs, hputs'⟩

end Writes

end SchemaAccess.FileTree
