import MarkupCensus.Grammar.Token

namespace MarkupCensus.Grammar

/-- The parts of a program that contain each other, and so are read by recursion. -/
inductive Goal where
  | statement
  | block
  /-- Expressions set apart by commas. -/
  | sequence
  /-- One expression. A plain one holds no arrow function that declares what it returns. -/
  | expression (plain : Bool)
  /-- Operands joined by operators of at least the given level. -/
  | binary (level : Nat) (plain : Bool)
  | operand (plain : Bool)
  | element
  | binding
  | parameters
  | typeExpr
deriving DecidableEq, Repr

abbrev Parts := Goal → Reader Node

end MarkupCensus.Grammar
