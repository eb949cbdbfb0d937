import SchemaAccess.Expression.Reader
import SchemaAccess.Text.Emoji
import SchemaAccess.Text.Quoted
import SchemaAccess.Text.Screen
import SchemaAccess.Text.Style

namespace SchemaAccess.Text.Markup

/-- A tag closes nothing that is open, or cannot be read. -/
inductive Fault where
  | unmatched (tag : String) (position : Nat)
  | nothingOpen (position : Nat)
  | badColor (fault : ColorFault)
  /-- What an action is called with is no literal. `setting` is all that the tag is set to. -/
  | badArguments (fault : Expression.Fault) (arguments setting : String)
deriving Repr, DecidableEq

def Fault.message : Fault → String
  | .unmatched tag position =>
    s!"closing tag '[{tag}]' at position {position} doesn't match any open tag"
  | .nothingOpen position => s!"closing tag '[/]' at position {position} has nothing to close"
  | .badColor fault => fault.message
  | .badArguments fault arguments setting =>
    let read := if fault.isOfForm then s!"{quoted arguments} in {quoted setting}" else quoted setting
    s!"error parsing {read}; {fault.message}"

def startsTag (c : Char) : Bool := ('a' ≤ c && c ≤ 'z') || c == '#' || c == '/' || c == '@'

/-- A tag at the start of a text: what stands between its brackets, and what follows it. -/
def tag? : List Char → Option (List Char × List Char)
  | '[' :: c :: rest =>
    if startsTag c then
      let inner := rest.takeWhile fun d => d != '[' && d != ']'
      match rest.drop inner.length with
      | ']' :: after => some (c :: inner, after)
      | _ => none
    else none
  | _ => none

structure Match where
  slashes : Nat
  tag : List Char
  after : List Char

def match? (cs : List Char) : Option Match :=
  let slashes := (cs.takeWhile (· == '\\')).length
  (tag? (cs.drop slashes)).map fun (tag, after) => ⟨slashes, tag, after⟩

inductive Part where
  | plain (text : List Char)
  | tag (text : List Char) (position : Nat)

/-- A pair of backslashes stands for one. A single one makes text of the tag. -/
def Match.parts (m : Match) (position : Nat) : List Part :=
  let kept := Part.plain (List.replicate (m.slashes / 2) '\\')
  if m.slashes % 2 = 1 then [kept, .plain ('[' :: m.tag ++ [']'])]
  else [kept, .tag m.tag (position + m.slashes)]

/-- The parts of a text. `plain` is what has been passed since the last tag, backwards. -/
def partsFrom : Nat → Nat → List Char → List Char → List Part
  | 0, _, plain, _ => [.plain plain.reverse]
  | n + 1, position, plain, cs =>
    match match? cs with
    | some m => .plain plain.reverse :: m.parts position ++
        partsFrom n (position + m.slashes + m.tag.length + 2) [] m.after
    | none =>
      match cs with
      | [] => [.plain plain.reverse]
      | c :: rest => partsFrom n (position + 1) (c :: plain) rest

def unescape : List Char → List Char
  | '\\' :: '[' :: rest => '[' :: unescape rest
  | c :: rest => c :: unescape rest
  | [] => []

def isControl (c : Char) : Bool :=
  c == '\x07' || c == '\x08' || c == '\x0b' || c == '\x0c' || c == '\r'

def tagName (tag : List Char) : Except Fault String :=
  (Style.normalForm (tag.takeWhile (· != '='))).mapError .badColor

structure OpenTag where
  name : String
  setting : List Char
deriving Repr, DecidableEq

def openTag (tag : List Char) : Except Fault OpenTag := do
  return ⟨← tagName tag, (tag.dropWhile (· != '=')).drop 1⟩

/-- What an action is called with: what stands in round brackets behind its name. An action of which
nothing but its name is told has no arguments. -/
def argumentsOf (setting : List Char) : List Char :=
  let cs := trimBlank setting
  match cs.dropWhile fun c => isWordChar c || c == '.' with
  | [] => ['(', ')']
  | '(' :: rest => if rest.getLast? == some ')' && !rest.contains '\n' then '(' :: rest else cs
  | _ => cs

/-- A tag whose name starts with `@` is an action. Its arguments are read when it is closed. -/
def OpenTag.fault? (t : OpenTag) : Option Fault :=
  if t.name.startsWith "@" && !t.setting.isEmpty then
    let arguments := argumentsOf t.setting
    (Expression.literalFault? arguments).map fun fault =>
      .badArguments fault (String.ofList arguments) (String.ofList t.setting)
  else none

/-- The tag that is closed: the one opened last under a name, or whichever was opened last. -/
def closed (openTags : List OpenTag) (tag : List Char) (position : Nat) : Except Fault OpenTag :=
  if isBlank (String.ofList ((tag.drop 1).takeWhile (· != '='))) then
    match openTags with
    | [] => .error (.nothingOpen position)
    | t :: _ => .ok t
  else do
    let name ← tagName (trimBlank (tag.drop 1))
    match openTags.find? (·.name == name) with
    | some t => return t
    | none => throw (.unmatched (String.ofList tag) position)

def close (openTags : List OpenTag) (tag : List Char) (position : Nat) : Except Fault (List OpenTag) := do
  let t ← closed openTags tag position
  match t.fault? with
  | some fault => throw fault
  | none => return openTags.eraseP (·.name == t.name)

def render (openTags : List OpenTag) : List Part → Except Fault (List Char)
  | [] => .ok []
  | .plain text :: rest => do
    return (withEmoji (unescape text)).filter (!isControl ·) ++ (← render openTags rest)
  | .tag tag position :: rest => do
    if tag.head? = some '/' then render (← close openTags tag position) rest
    else render ((← openTag tag) :: openTags) rest

def unstyled (text : String) : Except Fault String := do
  let cs := text.toList
  return String.ofList (laidOut (← render [] (partsFrom (cs.length + 1) 0 [] cs)))

end SchemaAccess.Text.Markup
