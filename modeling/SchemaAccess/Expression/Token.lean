import SchemaAccess.Expression.Fault

namespace SchemaAccess.Expression

inductive TextForm where
  | plain
  | bytes
  | formatted
deriving Repr, DecidableEq

inductive Piece where
  | name (s : String)
  | number (imaginary : Bool)
  | text (form : TextForm) (ascii : Bool)
  | mark (s : String)
  /-- A further line outside of brackets, which may hold something behind white space. -/
  | line (indented : Bool)
  | halt (fault : Fault)
deriving Repr, DecidableEq

/-- A piece, and how many brackets are open behind it. -/
structure Token where
  piece : Piece
  depth : Nat
deriving Repr, DecidableEq

end SchemaAccess.Expression
