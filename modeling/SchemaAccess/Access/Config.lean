import SchemaAccess.Failure

namespace SchemaAccess.Access

/-- An authentication mode and the settings that come with it. -/
structure Mode where
  type : AuthenticationType
  userPool : Option (Entries Value)
  openIdConnect : Option (Entries Value)
deriving Repr

/-- The mode of nodes that say nothing else, and the further modes, in order. -/
structure Config where
  main : Mode
  additional : List Mode
  distinct : (main.type :: additional.map (·.type)).Nodup

namespace Mode

def bare (type : AuthenticationType) : Mode := ⟨type, none, none⟩

def requireObject (key : String) (v : Value) : Except Failure (Entries Value) :=
  match v with
  | .object fields => return fields
  | other => throw (.shape (.notAnObject key other))

def settings (key : String) (fields : Entries Value) (name : String) :
    Except Failure (Option (Entries Value)) :=
  match Value.field fields name with
  | .null => return none
  | v => some <$> requireObject (key ++ "." ++ name) v

/-- The mode found under `key`. The kinds of its parts are looked at before its type. -/
def ofValue (key : String) (v : Value) : Except Failure Mode := do
  let fields ← requireObject key v
  let userPool ← settings key fields "userPoolConfig"
  let openIdConnect ← settings key fields "openIDConnectConfig"
  let given := Value.field fields "authenticationType"
  match Vocabulary.ofValue? given with
  | some type => return ⟨type, userPool, openIdConnect⟩
  | none => throw (.value (.unknownAuthenticationType given))

end Mode

namespace Config

def firstRepeated (seen : List AuthenticationType) : List AuthenticationType → Option AuthenticationType
  | [] => none
  | t :: rest => if t ∈ seen then some t else firstRepeated (t :: seen) rest

theorem nodup_of_firstRepeated_eq_none {seen types : List AuthenticationType} (hs : seen.Nodup)
    (h : firstRepeated seen types = none) : (seen ++ types).Nodup := by
  induction types generalizing seen with
  | nil => simpa using hs
  | cons t rest ih =>
    simp only [firstRepeated] at h
    split at h
    · exact absurd h (by simp)
    · rename_i ht
      have := ih (show (t :: seen).Nodup by simp [ht, hs]) h
      exact (List.perm_middle.nodup_iff).2 this

def ofModes (main : Mode) (additional : List Mode) : Except Failure Config :=
  match h : firstRepeated [main.type] (additional.map (·.type)) with
  | some type => .error (.value (.configuredTwice type))
  | none =>
    .ok ⟨main, additional, by
      simpa using nodup_of_firstRepeated_eq_none (show [main.type].Nodup by simp) h⟩

def additionalKey (i : Nat) : String := s!"additionalAuthenticationProviders[{i}]"

def additionalOfValues (items : List Value) : Except Failure (List Mode) :=
  items.zipIdx.mapM fun (v, i) => Mode.ofValue (additionalKey i) v

/-- A configuration as it is stored: a default mode and a list of further ones. -/
def ofValue (v : Value) : Except Failure Config := do
  let fields ← Mode.requireObject "auth config" v
  match fields.find? "defaultAuthentication" with
  | none => throw (.value .defaultMissing)
  | some main =>
    let items ← match (Value.field fields "additionalAuthenticationProviders").orElse (.list []) with
      | .list items => pure items
      | other => throw (.shape (.providersNotAList other))
    ofModes (← Mode.ofValue "defaultAuthentication" main) (← additionalOfValues items)

def typeOfValue (v : Value) : Except Failure AuthenticationType :=
  match Vocabulary.ofValue? v with
  | some type => return type
  | none => throw (.shape (.notAnAuthenticationType v))

def ofTypes (main : Value) (additional : List Value) : Except Failure Config := do
  let main ← typeOfValue main
  let additional ← additional.mapM typeOfValue
  ofModes (.bare main) (additional.map .bare)

def modes (c : Config) : List Mode := c.main :: c.additional

def defaultProvider (c : Config) : Provider := c.main.type.provider

def providers (c : Config) : List Provider := c.modes.map (·.type.provider)

def isConfigured (c : Config) (p : Provider) : Bool := p ∈ c.providers

end Config

/-- A configuration that is handed over: one that has been read, or plain data. -/
inductive Supply where
  | config (c : Config)
  | data (v : Value)

namespace Supply

def read : Supply → Except Failure Config
  | .config c => return c
  | .data v => Config.ofValue v

/-- The configuration. Plain data will not do. -/
def require : Supply → Except Failure Config
  | .config c => return c
  | .data v => throw (.shape (.notAConfiguration v))

end Supply

end SchemaAccess.Access
