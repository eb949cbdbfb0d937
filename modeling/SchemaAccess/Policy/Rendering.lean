import SchemaAccess.Policy.Document

namespace SchemaAccess.Policy

def languageVersion : String := "2012-10-17"

def defaultApiId : String := "GraphQLAPI"

def Resource.arn (apiArn : String) (r : Resource) : String := apiArn ++ "/" ++ r.path

/-- The name of a field of an API in the same template, with region, account and API left to be
filled in. -/
def Resource.reference (apiId : String) (r : Resource) : Value :=
  .object [("Fn::Sub", .list [
    .string ("arn:aws:appsync:$\x7bAWS::Region\x7d:$\x7bAWS::AccountId\x7d:apis/$\x7bapiId\x7d/" ++ r.path),
    .object [("apiId", .object [("Fn::GetAtt", .list [.string apiId, .string "ApiId"])])]])]

def Statement.rendered (name : Resource → Value) (s : Statement) : Value :=
  .object [("Effect", .string "Allow"), ("Action", .list (s.actions.map .string)),
    ("Resource", .list (s.resources.map name))]

namespace Document

def body (name : Resource → Value) (d : Document) : Value :=
  .object [("Version", .string languageVersion), ("Statement", .list (d.statements.map (·.rendered name)))]

def forApi (apiArn : String) (d : Document) : Value := d.body fun r => .string (r.arn apiArn)

def templateResource (apiId : String) (d : Document) : Value :=
  .object [("Type", .string "AWS::IAM::ManagedPolicy"),
    ("Properties", .object [
      ("Roles", .list [.object [("Ref", .string d.role.parameter)]]),
      ("PolicyDocument", d.body (·.reference apiId))])]

end Document

end SchemaAccess.Policy
