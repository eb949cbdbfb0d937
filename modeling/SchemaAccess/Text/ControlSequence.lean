namespace SchemaAccess.Text

def isParameter (c : Char) : Bool := '0' ≤ c && c ≤ '?'

def isIntermediate (c : Char) : Bool := ' ' ≤ c && c ≤ '/'

def isFinal (c : Char) : Bool := '@' ≤ c && c ≤ '~'

/-- What follows the control sequence at the start of a text, if there is one: an escape character and
a bracket, parameters, intermediates, and one final character. -/
def behindSequence? : List Char → Option (List Char)
  | '\x1b' :: '[' :: rest =>
    match (rest.dropWhile isParameter).dropWhile isIntermediate with
    | c :: after => if isFinal c then some after else none
    | [] => none
  | _ => none

/-- Each step passes a character at least, so that the length of the text is fuel enough. -/
def passSequences : Nat → List Char → List Char
  | 0, cs => cs
  | _ + 1, [] => []
  | n + 1, c :: rest =>
    match behindSequence? (c :: rest) with
    | some after => passSequences n after
    | none => c :: passSequences n rest

def withoutSequences (text : String) : String :=
  String.ofList (passSequences text.toList.length text.toList)

end SchemaAccess.Text
