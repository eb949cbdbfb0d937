import SchemaAccess.Failure
import SchemaAccess.Sha256
import SchemaAccess.Text.Blank

namespace SchemaAccess.Deploy

/-- What goes around a name: text before and after it, the greatest length of all that, and how many
characters of it are kept for a random ending. -/
structure NameFrame where
  before : String
  after : String
  limit : Int
  reserved : Int
deriving Repr, DecidableEq

def defaultReserved : Int := 8

def hashLength : Nat := 7

def hashSpace : Nat := hashLength + 1

def shortHash (name : String) : String := String.ofList ((Sha256.hex name).toList.take hashLength)

namespace NameFrame

def room (f : NameFrame) : Int := f.limit - (f.before.length + f.after.length + f.reserved)

def shortened (name : String) (length : Nat) : String :=
  String.ofList (name.toList.take (length - hashSpace)) ++ "-" ++ shortHash name

def around (f : NameFrame) (name : String) : String := f.before ++ name ++ f.after

/-- The name as it is if there is room for it, otherwise shortened. -/
def name (f : NameFrame) (name : String) : Except Failure String :=
  if f.room ≤ 0 then throw (.value (.noRoomForName f.before f.after f.reserved f.limit))
  else if Text.isBlank name then throw (.value .blankName)
  else if name.length ≤ f.room then return f.around name
  else if f.room ≤ hashSpace then throw (.value (.noRoomForHash f.room))
  else return f.around (shortened name f.room.toNat)

end NameFrame

end SchemaAccess.Deploy
