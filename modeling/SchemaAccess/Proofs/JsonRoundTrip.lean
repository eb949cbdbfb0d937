import SchemaAccess.Proofs.WrittenStrings

namespace SchemaAccess

/-- A value made of texts, lists and objects, in which no object repeats a key. -/
inductive Value.Textual : Value → Prop
  | string (s : String) : Textual (.string s)
  | list {items : List Value} (h : ∀ v ∈ items, Textual v) : Textual (.list items)
  | object {fields : List (String × Value)} (hkeys : (Entries.keys fields).Nodup)
      (h : ∀ f ∈ fields, Textual f.2) : Textual (.object fields)

@[simp] theorem Value.textual_string (s : String) : (Value.string s).Textual := .string s

@[simp] theorem Value.textual_list_iff (items : List Value) :
    (Value.list items).Textual ↔ ∀ v ∈ items, v.Textual := by
  constructor
  · rintro ⟨⟩
    assumption
  · exact .list

@[simp] theorem Value.textual_object_iff (fields : List (String × Value)) :
    (Value.object fields).Textual ↔ (Entries.keys fields).Nodup ∧ ∀ f ∈ fields, f.2.Textual := by
  constructor
  · rintro ⟨⟩
    exact ⟨‹_›, ‹_›⟩
  · rintro ⟨hkeys, h⟩
    exact .object hkeys h

namespace Json

/-- Characters with which a text, list or object starts. -/
def Opening (cs : List Char) : Prop := ∃ c tail, cs = c :: tail ∧ (c = '\x22' ∨ c = '[' ∨ c = '\x7b')

theorem Opening.append {cs : List Char} (h : Opening cs) (rest : List Char) : Opening (cs ++ rest) := by
  obtain ⟨c, tail, rfl, hc⟩ := h
  exact ⟨c, tail ++ rest, rfl, hc⟩

theorem Opening.skipSpace_eq {cs : List Char} (h : Opening cs) : skipSpace cs = cs := by
  obtain ⟨c, tail, rfl, rfl | rfl | rfl⟩ := h <;> rfl

/-- What may stand between the parts of a text without being read. -/
abbrev Gap (cs : List Char) : Prop := ∀ c ∈ cs, isSpace c = true

theorem Gap.skipSpace_append {gap : List Char} (h : Gap gap) (rest : List Char) :
    skipSpace (gap ++ rest) = skipSpace rest := List.dropWhile_append_of_pos h

theorem gap_nil : Gap "".toList := List.forall_mem_nil _

theorem gap_lineBreak (depth : Nat) : Gap (lineBreak depth).toList := by
  intro c hc
  rw [lineBreak, String.toList_append] at hc
  rcases List.mem_append.1 hc with hfeed | hspaces
  · rw [List.mem_singleton.1 hfeed]
    rfl
  · rw [String.toList_ofList] at hspaces
    rw [List.eq_of_mem_replicate hspaces]
    rfl

theorem opening_writtenString (s : String) : Opening (writtenString s).toList :=
  ⟨_, _, toList_writtenString s, .inl rfl⟩

/-- The text of members with commas between them, and a gap behind each comma. -/
abbrev joined (gap : String) (members : List String) : List Char := (("," ++ gap).intercalate members).toList

theorem joined_cons_cons (gap s t : String) (members : List String) :
    joined gap (s :: t :: members) = s.toList ++ (',' :: (gap.toList ++ joined gap (t :: members))) := by
  rw [joined, String.intercalate_cons_cons, String.toList_append, String.toList_append, String.toList_append]
  simp

theorem joined_singleton (gap s : String) : joined gap [s] = s.toList := by
  rw [joined, String.intercalate_singleton]

theorem opening_joined (gap : String) {s : String} (h : Opening s.toList) (members : List String) :
    Opening (joined gap (s :: members)) := by
  cases members with
  | nil => rwa [joined_singleton]
  | cons t members =>
    rw [joined_cons_cons]
    exact h.append _

theorem items_end {n : Nat} {cs mid rest : List Char} {v : Value} (hvalue : value n cs = .ok (v, mid))
    (hend : skipSpace mid = ']' :: rest) : items (n + 1) cs = .ok ([v], rest) := by
  rw [items, hvalue]
  simp only [bind, Except.bind, hend]
  rfl

theorem items_more {n : Nat} {cs mid next rest : List Char} {v : Value} {vs : List Value}
    (hvalue : value n cs = .ok (v, mid)) (hcomma : skipSpace mid = ',' :: next)
    (hmore : items n (skipSpace next) = .ok (vs, rest)) : items (n + 1) cs = .ok (v :: vs, rest) := by
  rw [items, hvalue]
  simp only [bind, Except.bind, hcomma, hmore]
  rfl

/-- A key, a colon and a value are read, up to what is left. -/
def FieldAt (n : Nat) (cs : List Char) (f : String × Value) (rest : List Char) : Prop :=
  ∃ tail glyphs after next, cs = '\x22' :: tail ∧ string cs cs.length tail [] = .ok (glyphs, after) ∧
    Text.Glyph.replaced glyphs = f.1 ∧ skipSpace after = ':' :: next ∧
    value n (skipSpace next) = .ok (f.2, rest)

theorem fields_end {n : Nat} {cs mid rest : List Char} {f : String × Value} (h : FieldAt n cs f mid)
    (hend : skipSpace mid = '\x7d' :: rest) : fields (n + 1) cs = .ok ([f], rest) := by
  obtain ⟨tail, glyphs, after, next, rfl, hstring, hkey, hcolon, hvalue⟩ := h
  rw [fields, hstring]
  simp only [bind, Except.bind, hcolon, hvalue, hend, hkey]
  rfl

theorem fields_more {n : Nat} {cs mid next rest : List Char} {f : String × Value}
    {more : List (String × Value)} (h : FieldAt n cs f mid) (hcomma : skipSpace mid = ',' :: next)
    (hmore : fields n (skipSpace next) = .ok (more, rest)) : fields (n + 1) cs = .ok (f :: more, rest) := by
  obtain ⟨tail, glyphs, after, next, rfl, hstring, hkey, hcolon, hvalue⟩ := h
  rw [fields, hstring]
  simp only [bind, Except.bind, hcolon, hvalue, hcomma, hmore, hkey]
  rfl

theorem value_list {n : Nat} {gap cs rest : List Char} {vs : List Value} (hgap : Gap gap) (hcs : Opening cs)
    (h : items n cs = .ok (vs, rest)) : value (n + 1) ('[' :: (gap ++ cs)) = .ok (.list vs, rest) := by
  obtain ⟨c, tail, rfl, rfl | rfl | rfl⟩ := hcs
  all_goals
    rw [value, hgap.skipSpace_append]
    simp [skipSpace, isSpace, h, bind, Except.bind, pure, Except.pure]

theorem value_object {n : Nat} {gap cs rest : List Char} {writes : List (String × Value)} (hgap : Gap gap)
    (hcs : Opening cs) (h : fields n cs = .ok (writes, rest)) :
    value (n + 1) ('\x7b' :: (gap ++ cs)) = .ok (.object (Entries.ofWrites writes), rest) := by
  obtain ⟨c, tail, rfl, rfl | rfl | rfl⟩ := hcs
  all_goals
    rw [value, hgap.skipSpace_append]
    simp [skipSpace, isSpace, h, bind, Except.bind, pure, Except.pure]

section Written

variable {write : Value → String}

/-- The text of a value is read as the value, whatever follows it. The number of steps is that of the characters. -/
structure ReadBack (write : Value → String) (v : Value) : Prop where
  opening : Opening (write v).toList
  reads : ∀ fuel rest, (write v).toList.length ≤ fuel → value fuel ((write v).toList ++ rest) = .ok (v, rest)

theorem items_joined {first : Value} {more : List Value} (h : ∀ v ∈ first :: more, ReadBack write v)
    {gap closing : String} (hgap : Gap gap.toList) (hclosing : Gap closing.toList) (fuel : Nat) (rest : List Char)
    (hfuel : (joined gap ((first :: more).map write)).length < fuel) :
    items fuel (joined gap ((first :: more).map write) ++ (closing.toList ++ ']' :: rest)) =
      .ok (first :: more, rest) := by
  induction more generalizing first fuel with
  | nil =>
    obtain ⟨fuel, rfl⟩ : ∃ m, fuel = m + 1 := ⟨fuel - 1, by omega⟩
    rw [List.map_singleton, joined_singleton] at hfuel ⊢
    have hfirst := (h first List.mem_cons_self).reads fuel (closing.toList ++ ']' :: rest) (by omega)
    exact items_end hfirst (hclosing.skipSpace_append _)
  | cons second more ih =>
    obtain ⟨fuel, rfl⟩ : ∃ m, fuel = m + 1 := ⟨fuel - 1, by omega⟩
    rw [List.map_cons, List.map_cons, joined_cons_cons] at hfuel ⊢
    rw [List.forall_mem_cons] at h
    have hopening := (opening_joined gap (h.2 second List.mem_cons_self).opening (more.map write)).append
      (closing.toList ++ ']' :: rest)
    have hmore := ih h.2 fuel (by simp at hfuel ⊢; omega)
    rw [List.map_cons] at hmore
    rw [List.append_assoc, List.cons_append, List.append_assoc]
    -- behind the comma stand a gap and the next item, which does not start with a space
    refine items_more (h.1.reads fuel _ (by simp at hfuel; omega)) rfl ?_
    rw [hgap.skipSpace_append, hopening.skipSpace_eq, hmore]

abbrev fieldText (write : Value → String) (f : String × Value) : String := writtenString f.1 ++ ": " ++ write f.2

theorem toList_fieldText (f : String × Value) : (fieldText write f).toList =
    (writtenString f.1).toList ++ (':' :: ' ' :: (write f.2).toList) := by
  rw [fieldText, String.toList_append, String.toList_append, List.append_assoc]
  rfl

theorem opening_fieldText (write : Value → String) (f : String × Value) : Opening (fieldText write f).toList := by
  rw [toList_fieldText]
  exact (opening_writtenString f.1).append _

theorem fieldAt_fieldText {f : String × Value} (h : ReadBack write f.2) (fuel : Nat) (rest : List Char)
    (hfuel : (fieldText write f).toList.length ≤ fuel) :
    FieldAt fuel ((fieldText write f).toList ++ rest) f rest := by
  have hvalue := h.reads fuel rest (by rw [toList_fieldText] at hfuel; simp at hfuel; omega)
  have hskip := (h.opening.append rest).skipSpace_eq
  obtain ⟨tail, htail, hread⟩ := string_writtenString f.1 (':' :: ' ' :: ((write f.2).toList ++ rest))
  rw [toList_fieldText, List.append_assoc, List.cons_append, List.cons_append]
  refine ⟨tail, _, _, _, htail, htail ▸ hread, replaced_char _, rfl, ?_⟩
  change value fuel (skipSpace ((write f.2).toList ++ rest)) = _
  rw [hskip, hvalue]

theorem fields_joined {first : String × Value} {more : List (String × Value)}
    (h : ∀ f ∈ first :: more, ReadBack write f.2) {gap closing : String} (hgap : Gap gap.toList)
    (hclosing : Gap closing.toList) (fuel : Nat) (rest : List Char)
    (hfuel : (joined gap ((first :: more).map (fieldText write))).length < fuel) :
    fields fuel (joined gap ((first :: more).map (fieldText write)) ++ (closing.toList ++ '\x7d' :: rest)) =
      .ok (first :: more, rest) := by
  induction more generalizing first fuel with
  | nil =>
    obtain ⟨fuel, rfl⟩ : ∃ m, fuel = m + 1 := ⟨fuel - 1, by omega⟩
    rw [List.map_singleton, joined_singleton] at hfuel ⊢
    exact fields_end (fieldAt_fieldText (h first List.mem_cons_self) fuel _ (by omega))
      (hclosing.skipSpace_append _)
  | cons second more ih =>
    obtain ⟨fuel, rfl⟩ : ∃ m, fuel = m + 1 := ⟨fuel - 1, by omega⟩
    rw [List.map_cons, List.map_cons, joined_cons_cons] at hfuel ⊢
    rw [List.forall_mem_cons] at h
    have hopening := (opening_joined gap (opening_fieldText write second)
      (more.map (fieldText write))).append (closing.toList ++ '\x7d' :: rest)
    have hmore := ih h.2 fuel (by simp at hfuel ⊢; omega)
    rw [List.map_cons] at hmore
    rw [List.append_assoc, List.cons_append, List.append_assoc]
    refine fields_more (fieldAt_fieldText h.1 fuel _ (by simp at hfuel ⊢; omega)) rfl ?_
    rw [hgap.skipSpace_append, hopening.skipSpace_eq, hmore]

theorem readBack_list {outer : Value → String} {first : Value} {more : List Value}
    (h : ∀ v ∈ first :: more, ReadBack write v) {start gap closing : String} (hstart : Gap start.toList)
    (hgap : Gap gap.toList) (hclosing : Gap closing.toList)
    (htext : (outer (.list (first :: more))).toList =
      '[' :: (start.toList ++ (joined gap ((first :: more).map write) ++ (closing.toList ++ [']'])))) :
    ReadBack outer (.list (first :: more)) := by
  constructor
  case opening =>
    rw [htext]
    exact ⟨'[', _, rfl, by decide⟩
  case reads =>
    intro fuel rest hfuel
    rw [htext] at hfuel ⊢
    obtain ⟨fuel, rfl⟩ : ∃ m, fuel = m + 1 := ⟨fuel - 1, by simp at hfuel; omega⟩
    have hopening := opening_joined gap (h first List.mem_cons_self).opening (more.map write)
    have hitems := items_joined h hgap hclosing fuel rest (by simp at hfuel ⊢; omega)
    have hvalue := value_list hstart (hopening.append _) hitems
    simpa using hvalue

theorem readBack_object {outer : Value → String} {first : String × Value} {more : List (String × Value)}
    (hkeys : (Entries.keys (first :: more)).Nodup) (h : ∀ f ∈ first :: more, ReadBack write f.2)
    {start gap closing : String} (hstart : Gap start.toList) (hgap : Gap gap.toList) (hclosing : Gap closing.toList)
    (htext : (outer (.object (first :: more))).toList = '\x7b' :: (start.toList ++
      (joined gap ((first :: more).map (fieldText write)) ++ (closing.toList ++ ['\x7d'])))) :
    ReadBack outer (.object (first :: more)) := by
  constructor
  case opening =>
    rw [htext]
    exact ⟨'\x7b', _, rfl, by decide⟩
  case reads =>
    intro fuel rest hfuel
    rw [htext] at hfuel ⊢
    obtain ⟨fuel, rfl⟩ : ∃ m, fuel = m + 1 := ⟨fuel - 1, by simp at hfuel; omega⟩
    have hopening := opening_joined gap (opening_fieldText write first) (more.map (fieldText write))
    have hfields := fields_joined h hgap hclosing fuel rest (by simp at hfuel ⊢; omega)
    have hvalue := value_object hstart (hopening.append _) hfields
    rw [Entries.ofWrites_of_nodup hkeys] at hvalue
    simpa using hvalue

theorem readBack_empty {v : Value} {c d : Char} (hwrite : write v = String.ofList [c, d])
    (hv : (c, d, v) = ('[', ']', .list []) ∨ (c, d, v) = ('\x7b', '\x7d', .object [])) : ReadBack write v := by
  have hlist : (write v).toList = [c, d] := hwrite ▸ String.toList_ofList
  constructor
  case opening =>
    rw [hlist]
    rcases hv with hv | hv <;> cases hv <;> exact ⟨_, _, rfl, by decide⟩
  case reads =>
    intro fuel rest hfuel
    rw [hlist] at hfuel ⊢
    obtain ⟨fuel, rfl⟩ : ∃ m, fuel = m + 1 := ⟨fuel - 1, by simp at hfuel; omega⟩
    rcases hv with hv | hv <;> cases hv <;> rfl

theorem readBack_string {s : String} (h : write (.string s) = writtenString s) : ReadBack write (.string s) := by
  constructor
  case opening =>
    rw [h]
    exact opening_writtenString s
  case reads =>
    intro fuel rest hfuel
    obtain ⟨tail, htail, hread⟩ := string_writtenString s rest
    rw [h] at hfuel ⊢
    rw [toList_writtenString, List.length_cons] at hfuel
    obtain ⟨fuel, rfl⟩ : ∃ m, fuel = m + 1 := ⟨fuel - 1, by omega⟩
    rw [htail, value, hread]
    simp only [bind, Except.bind, ofGlyphs_char]
    rfl

theorem read_of_readBack {v : Value} (h : ReadBack write v) {gap : String} (hgap : Gap gap.toList) :
    read (write v ++ gap) = .ok v := by
  have hopening := h.opening.append gap.toList
  have hvalue := h.reads ((write v).toList ++ gap.toList).length.succ gap.toList
    (by rw [List.length_append]; omega)
  have hmark : ((write v).toList ++ gap.toList).head? ≠ some '\ufeff' := by
    obtain ⟨c, tail, hcs, hc⟩ := hopening
    rw [hcs, List.head?_cons]
    rintro ⟨rfl⟩
    revert hc
    decide
  have hend : skipSpace gap.toList = [] := by
    have hall := hgap.skipSpace_append []
    rwa [List.append_nil] at hall
  have hdocument : document ((write v).toList ++ gap.toList) = .ok v := by
    rw [document, if_neg hmark, hopening.skipSpace_eq, hvalue]
    simp only [bind, Except.bind, hend]
    rfl
  rw [read, String.toList_append]
  dsimp only
  rw [hdocument]

end Written

theorem indentedItems_eq_map (depth : Nat) (items : List Value) :
    indentedItems depth items = items.map (indented depth) := by
  induction items with
  | nil => rfl
  | cons v items ih => rw [indentedItems, ih, List.map_cons]

theorem indentedFields_eq_map (depth : Nat) (fields : List (String × Value)) :
    indentedFields depth fields = fields.map (fieldText (indented depth)) := by
  induction fields with
  | nil => rfl
  | cons f fields ih => rw [indentedFields, ih, List.map_cons]

theorem compactItems_eq_map (items : List Value) : compactItems items = items.map compact := by
  induction items with
  | nil => rfl
  | cons v items ih => rw [compactItems, ih, List.map_cons]

theorem compactFields_eq_map (fields : List (String × Value)) :
    compactFields fields = fields.map (fieldText compact) := by
  induction fields with
  | nil => rfl
  | cons f fields ih => rw [compactFields, ih, List.map_cons]

theorem toList_block (depth : Nat) (opening closing : String) {members : List String} (h : members ≠ []) :
    (block depth opening closing members).toList = opening.toList ++ ((lineBreak (depth + 1)).toList ++
      (joined (lineBreak (depth + 1)) members ++ ((lineBreak depth).toList ++ closing.toList))) := by
  rw [block, if_neg (by simpa using h)]
  simp only [String.toList_append, List.append_assoc]

theorem readBack_indented {v : Value} (h : v.Textual) (depth : Nat) : ReadBack (indented depth) v := by
  induction h generalizing depth with
  | string s => exact readBack_string rfl
  | @list items h ih =>
    cases items with
    | nil => exact readBack_empty rfl (.inl rfl)
    | cons first more =>
      refine readBack_list (fun v hv => ih v hv (depth + 1)) (gap_lineBreak (depth + 1))
        (gap_lineBreak (depth + 1)) (gap_lineBreak depth) ?_
      rw [indented, indentedItems_eq_map, toList_block _ _ _ (by simp)]
      rfl
  | @object fields hkeys h ih =>
    cases fields with
    | nil => exact readBack_empty rfl (.inr rfl)
    | cons first more =>
      refine readBack_object hkeys (fun f hf => ih f hf (depth + 1)) (gap_lineBreak (depth + 1))
        (gap_lineBreak (depth + 1)) (gap_lineBreak depth) ?_
      rw [indented, indentedFields_eq_map, toList_block _ _ _ (by simp)]
      rfl

theorem readBack_compact {v : Value} (h : v.Textual) : ReadBack compact v := by
  have hspace : Gap " ".toList := List.forall_mem_singleton.2 rfl
  induction h with
  | string s => exact readBack_string rfl
  | @list items h ih =>
    cases items with
    | nil => exact readBack_empty rfl (.inl rfl)
    | cons first more =>
      refine readBack_list ih gap_nil hspace gap_nil ?_
      rw [compact, compactItems_eq_map, String.toList_append, String.toList_append]
      rfl
  | @object fields hkeys h ih =>
    cases fields with
    | nil => exact readBack_empty rfl (.inr rfl)
    | cons first more =>
      refine readBack_object hkeys ih gap_nil hspace gap_nil ?_
      rw [compact, compactFields_eq_map, String.toList_append, String.toList_append]
      rfl

theorem read_indented {v : Value} (h : v.Textual) : read (indented 0 v ++ "\n") = .ok v :=
  read_of_readBack (readBack_indented h 0) (List.forall_mem_singleton.2 rfl)

theorem read_compact {v : Value} (h : v.Textual) : read (compact v) = .ok v := by
  have hread := read_of_readBack (readBack_compact h) gap_nil
  rwa [String.append_empty] at hread

end Json

end SchemaAccess
