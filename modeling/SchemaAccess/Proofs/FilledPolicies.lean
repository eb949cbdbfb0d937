import Mathlib.Data.List.Find
import SchemaAccess.GraphQL.Scan
import SchemaAccess.Policy.Rendering

namespace SchemaAccess

theorem append_cons_inj_of_notMem {α : Type} {mark : α} {before before' rest rest' : List α}
    (h : mark ∉ before) (h' : mark ∉ before') :
    before ++ mark :: rest = before' ++ mark :: rest' ↔ before = before' ∧ rest = rest' := by
  constructor
  · intro heq
    obtain ⟨more, hmore, hrest⟩ | ⟨more, hmore, hrest⟩ := List.append_eq_append_iff.1 heq
    all_goals
      cases more with
      | nil => simpa [eq_comm] using And.intro hmore hrest
      | cons c more =>
        obtain rfl := (List.cons.inj hrest).1
        simp [hmore] at h h'
  · rintro ⟨rfl, rfl⟩
    rfl

theorem eq_of_map_eq_map {α β : Type} {f : α → β} {xs ys : List α}
    (hf : ∀ x ∈ xs, ∀ y ∈ ys, f x = f y → x = y) (h : xs.map f = ys.map f) : xs = ys := by
  induction xs generalizing ys with
  | nil => exact (List.map_eq_nil_iff.1 h.symm).symm
  | cons x xs ih =>
    cases ys with
    | nil => contradiction
    | cons y ys =>
      obtain ⟨hxy, hrest⟩ := List.cons.inj h
      rw [hf x List.mem_cons_self y List.mem_cons_self hxy,
        ih (fun a ha b hb => hf a (List.mem_cons_of_mem x ha) b (List.mem_cons_of_mem y hb)) hrest]

namespace GraphQL

/-- A text that the language takes for one name. -/
def isName (s : String) : Bool :=
  match s.toList with
  | [] => false
  | c :: cs => Scan.isNameStart c && cs.all Scan.isNameRest

theorem isNameRest_of_isNameStart {c : Char} (h : Scan.isNameStart c = true) : Scan.isNameRest c = true := by
  simp only [Scan.isNameStart, Scan.isNameRest, Char.isAlphanum, Bool.or_eq_true] at h ⊢
  exact h.imp_left .inl

theorem isNameRest_of_mem {s : String} {c : Char} (hs : isName s = true) (hc : c ∈ s.toList) :
    Scan.isNameRest c = true := by
  unfold isName at hs
  split at hs
  next h => simp at hs
  next first rest h =>
    rw [Bool.and_eq_true, List.all_eq_true] at hs
    rw [h, List.mem_cons] at hc
    obtain rfl | hc := hc
    · exact isNameRest_of_isNameStart hs.1
    · exact hs.2 c hc

theorem notMem_of_isName {s : String} {c : Char} (hs : isName s = true) (hc : Scan.isNameRest c = false) :
    c ∉ s.toList := by
  intro h
  rw [isNameRest_of_mem hs h] at hc
  contradiction

end GraphQL

namespace Policy

/-! ### Texts with variables -/

/-- How a text stands for the value of a variable. -/
def mention (name : String) : List Char := '$' :: '\x7b' :: (name.toList ++ ['\x7d'])

/-- The text with values in place of the variables that it mentions. It is read once, from its beginning: what
is put in is not read again. -/
def filledIn (values : Entries String) : List Char → List Char
  | [] => []
  | c :: rest =>
    match List.find? (fun v => (mention v.1).isPrefixOf (c :: rest)) values with
    | some (name, value) => value.toList ++ filledIn values ((c :: rest).drop (mention name).length)
    | none => c :: filledIn values rest
termination_by cs => cs.length
decreasing_by all_goals simp only [List.length_drop, List.length_cons, mention]; omega

theorem filledIn_cons {values : Entries String} {c : Char} (hc : c ≠ '$') (rest : List Char) :
    filledIn values (c :: rest) = c :: filledIn values rest := by
  have hnone : List.find? (fun v => (mention v.1).isPrefixOf (c :: rest)) values = none := by
    rw [List.find?_eq_none]
    simp [mention, hc.symm]
  rw [filledIn, hnone]

theorem filledIn_append {values : Entries String} {plain : List Char} (h : '$' ∉ plain) (rest : List Char) :
    filledIn values (plain ++ rest) = plain ++ filledIn values rest := by
  induction plain with
  | nil => rfl
  | cons c cs ih =>
    rw [List.mem_cons, not_or] at h
    rw [List.cons_append, filledIn_cons (Ne.symm h.1), ih h.2, List.cons_append]

theorem filledIn_of_notMem {values : Entries String} {plain : List Char} (h : '$' ∉ plain) :
    filledIn values plain = plain := by
  have happend : filledIn values (plain ++ []) = plain ++ filledIn values [] := filledIn_append h []
  simpa [filledIn] using happend

theorem mention_isPrefixOf_iff {a b : String} (ha : '\x7d' ∉ a.toList) (hb : '\x7d' ∉ b.toList)
    (rest : List Char) : (mention a).isPrefixOf (mention b ++ rest) = true ↔ a = b := by
  rw [List.isPrefixOf_iff_prefix]
  constructor
  · rintro ⟨more, h⟩
    simp only [mention, List.cons_append, List.append_assoc, List.nil_append, List.cons.injEq, true_and] at h
    exact String.toList_inj.1 ((append_cons_inj_of_notMem ha hb).1 h).1
  · rintro rfl
    exact List.prefix_append ..

theorem filledIn_mention {values : Entries String} (hv : ∀ name ∈ values.keys, '\x7d' ∉ name.toList)
    {name value : String} (h : values.find? name = some value) (rest : List Char) :
    filledIn values (mention name ++ rest) = value.toList ++ filledIn values rest := by
  rw [Entries.find?_eq_map, Option.map_eq_some_iff] at h
  obtain ⟨v, hfind, rfl⟩ := h
  obtain rfl : v.1 = name := by simpa using List.find?_some hfind
  have hmention : List.find? (fun w => (mention w.1).isPrefixOf (mention v.1 ++ rest)) values = some v := by
    rw [← hfind]
    refine List.find?_congr fun w hw => ?_
    have hbrace : ∀ {u}, u ∈ values → '\x7d' ∉ u.1.toList := fun hu => hv _ (List.mem_map_of_mem hu)
    rw [Bool.eq_iff_iff, mention_isPrefixOf_iff (hbrace hw) (hbrace (List.mem_of_find?_eq_some hfind)),
      decide_eq_true_iff]
  have hcons : mention v.1 ++ rest = '$' :: ('\x7b' :: (v.1.toList ++ ['\x7d']) ++ rest) := rfl
  rw [hcons, filledIn, ← hcons, hmention]
  simp only [List.drop_left]

/-- Values are put in at once: a mention inside of a value stays. -/
example : filledIn [("a", "$\x7bb\x7d"), ("b", "1")] "$\x7ba\x7d-$\x7bb\x7d".toList = "$\x7bb\x7d-1".toList := by cbv

/-! ### Templates -/

/-- What a template is filled in with where it is deployed. -/
structure Stack where
  region : String
  account : String
  /-- The attribute of a resource of the template, by the name of the resource. -/
  getAtt : String → String → String

namespace Stack

/-- The value of a variable that comes with the text that mentions it. -/
def value? (stack : Stack) : Value → Option String
  | .string s => some s
  | .object [("Fn::GetAtt", .list [.string resource, .string name])] => some (stack.getAtt resource name)
  | _ => none

/-- The variables of a text: those of every template, and its own. -/
def values (stack : Stack) (own : Entries Value) : Entries String :=
  ("AWS::Region", stack.region) :: ("AWS::AccountId", stack.account) ::
    own.filterMap fun v => (stack.value? v.2).map fun value => (v.1, value)

/-- The text that an object with the single key `Fn::Sub` stands for. -/
def text? (stack : Stack) : Entries Value → Option String
  | [("Fn::Sub", .list [.string text, .object own])] =>
    some (String.ofList (filledIn (stack.values own) text.toList))
  | _ => none

mutual

def fill (stack : Stack) : Value → Value
  | .list items => .list (stack.fillItems items)
  | .object fields =>
    match stack.text? fields with
    | some text => .string text
    | none => .object (stack.fillFields fields)
  | v => v

def fillItems (stack : Stack) : List Value → List Value
  | [] => []
  | v :: rest => stack.fill v :: stack.fillItems rest

def fillFields (stack : Stack) : List (String × Value) → List (String × Value)
  | [] => []
  | (key, v) :: rest => (key, stack.fill v) :: stack.fillFields rest

end

/-- The ARN of the API that the template declares under the name `apiId`. -/
def apiArn (stack : Stack) (apiId : String) : String :=
  "arn:aws:appsync:" ++ stack.region ++ ":" ++ stack.account ++ ":apis/" ++ stack.getAtt apiId "ApiId"

@[simp] theorem fillItems_eq_map (stack : Stack) (items : List Value) :
    stack.fillItems items = items.map stack.fill := by
  induction items with
  | nil => rfl
  | cons v rest ih => rw [fillItems, ih, List.map_cons]

theorem fill_sub (stack : Stack) (text : String) (own : Entries Value) :
    stack.fill (.object [("Fn::Sub", .list [.string text, .object own])]) =
      .string (String.ofList (filledIn (stack.values own) text.toList)) := by
  rw [fill, text?]

theorem fill_object (stack : Stack) (first second : String × Value) (more : Entries Value) :
    stack.fill (.object (first :: second :: more)) = .object (stack.fillFields (first :: second :: more)) := by
  have h : stack.text? (first :: second :: more) = none := by
    unfold text?
    split
    next heq => simp at heq
    next => rfl
  rw [fill, h]

end Stack

/-! ### Names of fields -/

/-- Whether type and field have names that a document can give them. -/
def Resource.isNamed (r : Resource) : Bool := GraphQL.isName r.typeName && GraphQL.isName r.fieldName

namespace Resource

theorem toList_path (r : Resource) :
    r.path.toList = "types/".toList ++ r.typeName.toList ++ '/' :: ("fields/".toList ++ r.fieldName.toList) := by
  have h : "/fields/".toList = '/' :: "fields/".toList := by decide
  change ("types/" ++ r.typeName ++ "/fields/" ++ r.fieldName).toList = _
  simp only [String.toList_append, h, List.append_assoc, List.cons_append]

theorem dollar_notMem_path {r : Resource} (h : r.isNamed = true) : '$' ∉ r.path.toList := by
  rw [isNamed, Bool.and_eq_true] at h
  have htype := GraphQL.notMem_of_isName (c := '$') h.1 (by decide)
  have hfield := GraphQL.notMem_of_isName (c := '$') h.2 (by decide)
  simp [toList_path, htype, hfield]

theorem path_injective {r r' : Resource} (h : r.isNamed = true) (h' : r'.isNamed = true)
    (hpath : r.path = r'.path) : r = r' := by
  rw [isNamed, Bool.and_eq_true] at h h'
  have hslash := GraphQL.notMem_of_isName (c := '/') h.1 (by decide)
  have hslash' := GraphQL.notMem_of_isName (c := '/') h'.1 (by decide)
  have hlist := congrArg String.toList hpath
  rw [toList_path, toList_path, List.append_assoc, List.append_assoc, List.append_cancel_left_eq,
    append_cons_inj_of_notMem hslash hslash', List.append_cancel_left_eq] at hlist
  cases r
  cases r'
  simpa [String.toList_inj] using hlist

theorem arn_injective {apiArn : String} {r r' : Resource} (h : r.isNamed = true) (h' : r'.isNamed = true)
    (harn : r.arn apiArn = r'.arn apiArn) : r = r' := by
  have hlist := congrArg String.toList harn
  simp only [arn, String.toList_append, List.append_assoc, List.append_cancel_left_eq] at hlist
  exact path_injective h h' (String.toList_inj.1 hlist)

theorem filledIn_reference {r : Resource} (h : r.isNamed = true) (region account api : String) :
    String.ofList (filledIn [("AWS::Region", region), ("AWS::AccountId", account), ("apiId", api)]
      ("arn:aws:appsync:$\x7bAWS::Region\x7d:$\x7bAWS::AccountId\x7d:apis/$\x7bapiId\x7d/" ++ r.path).toList) =
    r.arn ("arn:aws:appsync:" ++ region ++ ":" ++ account ++ ":apis/" ++ api) := by
  have htext : ("arn:aws:appsync:$\x7bAWS::Region\x7d:$\x7bAWS::AccountId\x7d:apis/$\x7bapiId\x7d/" ++ r.path).toList =
      "arn:aws:appsync:".toList ++ (mention "AWS::Region" ++ (":".toList ++ (mention "AWS::AccountId" ++
        (":apis/".toList ++ (mention "apiId" ++ ("/".toList ++ r.path.toList)))))) := by
    rw [String.toList_append]
    rfl
  have hbrace : ∀ name ∈ ["AWS::Region", "AWS::AccountId", "apiId"], '\x7d' ∉ name.toList := by decide
  obtain ⟨values, hvalues⟩ : ∃ values : Entries String,
      values = [("AWS::Region", region), ("AWS::AccountId", account), ("apiId", api)] := ⟨_, rfl⟩
  have hkeys : ∀ name ∈ values.keys, '\x7d' ∉ name.toList := by
    rw [hvalues]
    exact hbrace
  have hregion : values.find? "AWS::Region" = some region := by simp [hvalues, Entries.find?]
  have haccount : values.find? "AWS::AccountId" = some account := by simp [hvalues, Entries.find?]
  have hapi : values.find? "apiId" = some api := by simp [hvalues, Entries.find?]
  rw [← hvalues, htext, filledIn_append (by decide), filledIn_mention hkeys hregion, filledIn_append (by decide),
    filledIn_mention hkeys haccount, filledIn_append (by decide), filledIn_mention hkeys hapi,
    filledIn_append (by decide), filledIn_of_notMem (dollar_notMem_path h), ← String.toList_inj]
  simp [arn]

theorem fill_reference {r : Resource} (h : r.isNamed = true) (stack : Stack) (apiId : String) :
    stack.fill (r.reference apiId) = .string (r.arn (stack.apiArn apiId)) := by
  have hvalues : stack.values [("apiId", .object [("Fn::GetAtt", .list [.string apiId, .string "ApiId"])])] =
      [("AWS::Region", stack.region), ("AWS::AccountId", stack.account), ("apiId", stack.getAtt apiId "ApiId")] := rfl
  have hfilled := filledIn_reference h stack.region stack.account (stack.getAtt apiId "ApiId")
  rw [reference, Stack.fill_sub, hvalues, hfilled]
  rfl

theorem fill_reference_injective {stack : Stack} {apiId : String} {r r' : Resource} (h : r.isNamed = true)
    (h' : r'.isNamed = true) (hfill : stack.fill (r.reference apiId) = stack.fill (r'.reference apiId)) : r = r' := by
  rw [fill_reference h, fill_reference h', Value.string.injEq] at hfill
  exact arn_injective h h' hfill

end Resource

/-! ### Documents -/

namespace Stack

theorem fill_rendered (stack : Stack) {name name' : Resource → Value} {s : Statement}
    (h : ∀ r ∈ s.resources, stack.fill (name r) = name' r) : stack.fill (s.rendered name) = s.rendered name' := by
  have hresources : (s.resources.map name).map stack.fill = s.resources.map name' := by
    rw [List.map_map]
    exact List.map_congr_left h
  have hactions : (s.actions.map Value.string).map stack.fill = s.actions.map .string := by
    rw [List.map_map]
    rfl
  simp only [Statement.rendered, fill_object, fillFields, fill, fillItems_eq_map, hresources, hactions]

theorem fill_body (stack : Stack) {name name' : Resource → Value} {d : Document}
    (h : ∀ r ∈ d.resources, stack.fill (name r) = name' r) : stack.fill (d.body name) = d.body name' := by
  have hstatements : (d.statements.map (·.rendered name)).map stack.fill = d.statements.map (·.rendered name') := by
    rw [List.map_map]
    refine List.map_congr_left fun s hs => stack.fill_rendered fun r hr => h r ?_
    exact List.mem_flatMap.2 ⟨s, hs, hr⟩
  simp only [Document.body, fill_object, fillFields, fill, fillItems_eq_map, hstatements]

end Stack

def policy? (resource : Value) : Option Value := do
  let properties ← (← resource.object?).find? "Properties"
  (← properties.object?).find? "PolicyDocument"

namespace Document

theorem policy?_templateResource (d : Document) (apiId : String) :
    policy? (d.templateResource apiId) = some (d.body (·.reference apiId)) := by
  simp [policy?, templateResource, Value.object?, Entries.find?]

theorem rendered_injective {name : Resource → Value} {s s' : Statement}
    (hname : ∀ r ∈ s.resources, ∀ r' ∈ s'.resources, name r = name r' → r = r')
    (h : s.rendered name = s'.rendered name) : s = s' := by
  simp only [Statement.rendered, Value.object.injEq, Value.list.injEq, List.cons.injEq, Prod.mk.injEq, true_and,
    and_true] at h
  have hactions : s.actions = s'.actions := by
    refine eq_of_map_eq_map ?_ h.1
    intro _ _ _ _ haction
    exact Value.string.inj haction
  have hresources : s.resources = s'.resources := eq_of_map_eq_map hname h.2
  cases s
  cases s'
  simp_all

theorem statements_eq_of_forApi_eq {d d' : Document} (hd : ∀ r ∈ d.resources, r.isNamed = true)
    (hd' : ∀ r ∈ d'.resources, r.isNamed = true) {apiArn : String} (h : d.forApi apiArn = d'.forApi apiArn) :
    d.statements = d'.statements := by
  simp only [forApi, body, Value.object.injEq, Value.list.injEq, List.cons.injEq, Prod.mk.injEq, true_and,
    and_true] at h
  refine eq_of_map_eq_map (fun s hs s' hs' hrendered => rendered_injective ?_ hrendered) h
  intro r hr r' hr' harn
  have hmem : r ∈ d.resources := List.mem_flatMap.2 ⟨s, hs, hr⟩
  have hmem' : r' ∈ d'.resources := List.mem_flatMap.2 ⟨s', hs', hr'⟩
  exact Resource.arn_injective (hd r hmem) (hd' r' hmem') (Value.string.inj harn)

/-- What a document says in a template, and for an API that exists. -/
structure SaysTheSame (d : Document) : Prop where
  /-- Filled in, the policy in the template is the policy for the API that the template declares. -/
  filled (stack : Stack) (apiId : String) :
    (policy? (d.templateResource apiId)).map stack.fill = some (d.forApi (stack.apiArn apiId))
  /-- The policy for an API that exists allows the actions of each statement on the ARNs of its fields. -/
  forApi_eq (apiArn : String) : d.forApi apiArn = .object [("Version", .string "2012-10-17"),
    ("Statement", .list (d.statements.map fun s => .object [("Effect", .string "Allow"),
      ("Action", .list (s.actions.map .string)),
      ("Resource", .list (s.resources.map fun r =>
        .string (apiArn ++ "/" ++ ("types/" ++ r.typeName ++ "/fields/" ++ r.fieldName))))]))]
  /-- Another document says the same only in the same statements. -/
  statements_inj {d' : Document} (hd' : ∀ r ∈ d'.resources, r.isNamed = true) {apiArn : String}
    (h : d.forApi apiArn = d'.forApi apiArn) : d.statements = d'.statements
  /-- A field shares its name with no other, in this or another document. -/
  arn_inj {r r' : Resource} (hr : r ∈ d.resources) (hr' : r'.isNamed = true) {apiArn : String}
    (h : r.arn apiArn = r'.arn apiArn) : r = r'
  /-- Nor does it in a template, before that is filled in or after. -/
  reference_inj {r r' : Resource} (hr : r ∈ d.resources) (hr' : r'.isNamed = true) {apiId : String}
    (h : r.reference apiId = r'.reference apiId) : r = r'
  fill_reference_inj {r r' : Resource} (hr : r ∈ d.resources) (hr' : r'.isNamed = true) {stack : Stack}
    {apiId : String} (h : stack.fill (r.reference apiId) = stack.fill (r'.reference apiId)) : r = r'

/-- A document says the same in a template and for an API that exists, if its types and fields have names that
the language allows. -/
theorem saysTheSame {d : Document} (hd : ∀ r ∈ d.resources, r.isNamed = true) : d.SaysTheSame where
  filled stack apiId := by
    rw [policy?_templateResource, Option.map_some, forApi]
    exact congrArg some (stack.fill_body fun r hr => r.fill_reference (hd r hr) stack apiId)
  forApi_eq _ := rfl
  statements_inj hd' _ h := statements_eq_of_forApi_eq hd hd' h
  arn_inj hr hr' _ h := Resource.arn_injective (hd _ hr) hr' h
  reference_inj hr hr' _ h :=
    Resource.fill_reference_injective (hd _ hr) hr' (congrArg (Stack.fill ⟨"", "", fun _ _ => ""⟩) h)
  fill_reference_inj hr hr' _ _ h := Resource.fill_reference_injective (hd _ hr) hr' h

/-- A document of two statements, with a field name that two types share. -/
theorem saysTheSame_sharedFieldName :
    let d : Document := ⟨.auth, 1,
      [⟨[callAction], [⟨"Query", "post"⟩, ⟨"Mutation", "post"⟩]⟩, ⟨[], [⟨"Query", "_a1"⟩]⟩]⟩
    (∀ r ∈ d.resources, r.isNamed = true) ∧ d.SaysTheSame :=
  ⟨by decide +kernel, saysTheSame (by decide +kernel)⟩

end Document

end Policy

end SchemaAccess
