import SchemaAccess.Access.Vocabulary
import SchemaAccess.FileTree
import SchemaAccess.GraphQL.Fault
import SchemaAccess.Value.Text

namespace SchemaAccess

open Access

/-- A directive stands or says what it may not. -/
inductive PlacementFault where
  | typeWithoutModel
  | operationsOnRootField
  | operationsOnPlainField
  | providerForbidden (strategy : Strategy) (provider : Provider)
  | unsupportedOnType (directive typeName : String)
  | unsupportedOnField (directive location : String)
  | functionUnnamed (location : String)
  | alreadyBound (typeName fieldName functionName : String)

/-- An access rule is malformed, or at odds with the configuration. -/
inductive RuleFault where
  | repeatedAuth (location : String)
  | rulesMissing
  | notAnObject (location : String) (found : Value)
  | allowMissing (location : String)
  | unknownWord (argument location : String) (found : Value) (known : List String)
  | operationsEmpty (location : String)
  | providerNotConfigured (provider : Provider)
  | groupsMissing
  | markerPresent (marker location : String)

/-- A value is of the right kind and not one of those allowed. -/
inductive ValueFault where
  | notAMember (label : String) (found : Value)
  | operationsEmpty
  | capBelowOne
  | configuredTwice (type : AuthenticationType)
  | unknownAuthenticationType (found : Value)
  | defaultMissing
  | resourceExists (id : String)
  | noHandlers
  | repeatedHandlers (directives : List String)
  | noRoomForName (before after : String) (reserved limit : Int)
  | blankName
  | noRoomForHash (room : Int)
  | repeatedComponent (name : String)
  | schemaEmpty
  | expiryNotPositive
  | userPoolMissing
  | issuerMissing
  | settingMissing (name : String)
  | roleMissing (role : Role) (document : String)
  | nullInPath

/-- A value is of the wrong kind. -/
inductive ShapeFault where
  | notAnObject (key : String) (found : Value)
  | providersNotAList (found : Value)
  | noMembers (found : Value)
  | notAnAuthenticationType (found : Value)
  | notAConfiguration (found : Value)

/-- Something is done too early, or once too often. -/
inductive StateFault where
  | policiesGenerated
  | contextPresent
  | contextMissing

inductive RangeFault where
  | tooManyDays (days : Int)
  | beyondWord
  | pastLastYear

inductive Failure where
  | unreadable (fault : GraphQL.Fault)
  | placement (fault : PlacementFault)
  | rule (fault : RuleFault)
  | value (fault : ValueFault)
  | shape (fault : ShapeFault)
  | state (fault : StateFault)
  | range (fault : RangeFault)
  | file (fault : FileFault)

def PlacementFault.message : PlacementFault → String
  | .typeWithoutModel => "Types annotated with @auth must also be annotated with @model."
  | .operationsOnRootField =>
    "@auth rules on fields within Query, Mutation, Subscription cannot specify 'operations' " ++
      "argument as these rules are already on an operation already."
  | .operationsOnPlainField =>
    "@auth rules on fields within types that does not have @model directive cannot specify " ++
      "'operations' argument as there are operations will be generated by the CLI."
  | .providerForbidden strategy provider =>
    let allowed := " and ".intercalate (strategy.providers.map fun p => s!"'{Vocabulary.word p}'")
    s!"@auth directive with '{Vocabulary.word strategy}' strategy only supports {allowed} " ++
      s!"providers, but found '{Vocabulary.word provider}' assigned."
  | .unsupportedOnType directive typeName =>
    s!"Directive @{directive} is not supported on types ('{typeName}')."
  | .unsupportedOnField directive location =>
    s!"Directive @{directive} is not supported on fields ('{location}')."
  | .functionUnnamed location => s!"@function on '{location}' requires a non-empty 'name' argument."
  | .alreadyBound typeName fieldName functionName =>
    s!"Field '{typeName}.{fieldName}' is already bound to function '{functionName}'."

def RuleFault.message : RuleFault → String
  | .repeatedAuth location =>
    s!"Duplicate @auth directive on '{location}'. Combine all rules into one @auth."
  | .rulesMissing => "@auth directive requires a non-empty 'rules' argument."
  | .notAnObject location found => s!"@auth rules on '{location}' must be objects, got: {found.shown}"
  | .allowMissing location => s!"@auth rule on '{location}' is missing the required 'allow' argument."
  | .unknownWord argument location found known =>
    let expected := ", ".intercalate known
    s!"Invalid value '{found.plainText}' for '{argument}' in @auth rule on '{location}'. " ++
      s!"Expected one of: {expected}."
  | .operationsEmpty location => s!"@auth rule on '{location}' specifies an empty 'operations' list."
  | .providerNotConfigured provider =>
    s!"@auth directive with '{Vocabulary.word provider}' provider found, but the project " ++
      s!"has no {provider.displayName} authentication provider configured."
  | .groupsMissing => "@auth rules with 'groups' strategy must specify 'groups' or 'groupsField'."
  | .markerPresent marker location =>
    s!"Duplicate @{marker} directive on '{location}'. Provider directives are " ++
      "generated from @auth rules and must not be declared in the input schema."

def ValueFault.message : ValueFault → String
  | .notAMember label found => s!"{found.shown} is not a valid {label}"
  | .operationsEmpty => "Rule operations cannot be empty when specified"
  | .capBelowOne => "max_resources_per_policy must be at least 1"
  | .configuredTwice type => s!"Authentication type {Vocabulary.word type} is configured more than once"
  | .unknownAuthenticationType found => s!"Unknown authentication type: {found.plainText}"
  | .defaultMissing => "Auth config requires 'defaultAuthentication'"
  | .resourceExists id => s!"Resource '{id}' already exists in the template"
  | .noHandlers => "At least one transformer is required"
  | .repeatedHandlers directives =>
    let names := (Value.list (directives.map Value.string)).shown
    s!"Multiple transformers handle directive(s): {names}"
  | .noRoomForName before after reserved limit =>
    s!"Cannot create safe name: prefix '{before}' ({before.length} chars), " ++
      s!"suffix '{after}' ({after.length} chars), and Pulumi suffix ({reserved} chars) " ++
      s!"exceed max_length ({limit})"
  | .blankName => "Name cannot be empty or whitespace-only"
  | .noRoomForHash room =>
    s!"Not enough space for name truncation: available={room}, need at least 8 chars for hash"
  | .repeatedComponent name =>
    s!"Duplicate component name detected: '{name}'. " ++
      "Component names must be unique across all component types."
  | .schemaEmpty => "Schema cannot be empty"
  | .expiryNotPositive => "api_key_expires must be positive"
  | .userPoolMissing => "Cognito auth requires 'userPoolConfig.userPoolId'"
  | .issuerMissing => "OIDC auth requires 'openIDConnectConfig.issuerUrl'"
  | .settingMissing name => Text.quoted name
  | .roleMissing role document =>
    let word := Vocabulary.word role
    s!"Schema grants IAM access to the {word} role ({document}) but no '{word}_role' was given"
  | .nullInPath => "embedded null byte"

def ShapeFault.message : ShapeFault → String
  | .notAnObject key found => s!"'{key}' must be an object, got {found.kindName}: {found.shown}"
  | .providersNotAList found =>
    s!"'additionalAuthenticationProviders' must be a list, got {found.kindName}"
  | .noMembers found => s!"'{found.kindName}' object is not iterable"
  | .notAnAuthenticationType found =>
    s!"authentication_type must be an AuthenticationType, got {found.kindName}"
  | .notAConfiguration found => s!"auth_config must be an AuthConfig, got {found.kindName}"

def StateFault.message : StateFault → String
  | .policiesGenerated => "Policy documents have already been generated for this transform"
  | .contextPresent => "Context has already been initialized"
  | .contextMissing =>
    "authsync context not initialized. Call init_context() in your Pulumi program " ++
      "before creating components."

def RangeFault.message : RangeFault → String
  | .tooManyDays days => s!"days={days}; must have magnitude <= 999999999"
  | .beyondWord => "Python int too large to convert to C int"
  | .pastLastYear => "date value out of range"

def Failure.message : Failure → String
  | .unreadable fault => fault.message
  | .placement fault => fault.message
  | .rule fault => fault.message
  | .value fault => fault.message
  | .shape fault => fault.message
  | .state fault => fault.message
  | .range fault => fault.message
  | .file fault => fault.message

/-- The failures that tell of a schema at odds with its rules; they abort a whole pass. -/
def Failure.isRejection : Failure → Bool
  | .placement _ | .rule _ => true
  | _ => false

end SchemaAccess
