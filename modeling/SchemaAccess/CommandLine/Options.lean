import SchemaAccess.Text.Similar

namespace SchemaAccess.CommandLine

/-- An option by its long name, with the dashes. Only options without a value have a letter too. -/
structure OptionSpec where
  long : String
  letter : Option Char
  takesValue : Bool
deriving Repr, DecidableEq

inductive OptionFault where
  | unknown (name : String) (similar : List String)
  | valueMissing (name : String)
  | valueRefused (name : String)
deriving Repr, DecidableEq

/-- The options given, by their long names and in order, and the other arguments. -/
structure Given where
  options : List (String × Option String)
  others : List String
deriving Repr, DecidableEq

namespace Given

def withOption (name : String) (value : Option String) (g : Given) : Given :=
  { g with options := (name, value) :: g.options }

def withOther (arg : String) (g : Given) : Given := { g with others := arg :: g.others }

def has (g : Given) (name : String) : Bool := g.options.any (·.1 = name)

def count (g : Given) (name : String) : Nat := g.options.countP (·.1 = name)

/-- Of an option given repeatedly the last value counts. -/
def value? (g : Given) (name : String) : Option String :=
  (g.options.reverse.find? (·.1 = name)).bind Prod.snd

end Given

def splitValue (arg : String) : String × Option String :=
  let name := arg.toList.takeWhile (· != '=')
  match arg.toList.drop name.length with
  | [] => (arg, none)
  | _ :: value => (String.ofList name, some (String.ofList value))

/-- A single dash is no option. -/
def isOption (arg : String) : Bool := arg.toList.head? = some '-' && arg != "-"

def letterOptions (specs : List OptionSpec) : List Char → Except OptionFault (List String)
  | [] => return []
  | c :: rest =>
    match specs.find? (·.letter = some c) with
    | none => throw (.unknown ("-" ++ String.singleton c) [])
    | some spec => do return spec.long :: (← letterOptions specs rest)

/-- Read arguments up to two dashes. Other arguments may stand between options, or else end them. -/
def readOptions (specs : List OptionSpec) (mixed : Bool) : List String → Except OptionFault Given
  | [] => return ⟨[], []⟩
  | arg :: rest =>
    if arg = "--" then return ⟨[], rest⟩
    else if isOption arg then
      let (name, value) := splitValue arg
      match specs.find? (·.long = name), value with
      | some spec, some v =>
        if spec.takesValue then do return (← readOptions specs mixed rest).withOption name (some v)
        else throw (.valueRefused name)
      | some spec, none =>
        if spec.takesValue then
          match rest with
          | [] => throw (.valueMissing name)
          | v :: rest => do return (← readOptions specs mixed rest).withOption name (some v)
        else do return (← readOptions specs mixed rest).withOption name none
      | none, _ =>
        if arg.toList.take 2 = ['-', '-'] then
          throw (.unknown name (Text.closeMatches name (specs.map (·.long))))
        else do
          let names ← letterOptions specs (arg.toList.drop 1)
          let given ← readOptions specs mixed rest
          return names.foldr (fun name g => g.withOption name none) given
    else if mixed then do return (← readOptions specs mixed rest).withOther arg
    else return ⟨[], arg :: rest⟩

end SchemaAccess.CommandLine
