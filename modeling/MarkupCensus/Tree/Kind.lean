import MarkupCensus.Text.Case
import MarkupCensus.Text.Split
import MarkupCensus.Tree.Literal

namespace MarkupCensus.Node

/-- Strips parentheses around a single expression. -/
def unwrap (n : Node) : Node :=
  if n.kind == "parenthesized_expression" then
    match h : n.significant with
    | [inner] =>
      have : inner.size < n.size := size_lt_of_mem (mem_of_mem_significant (by simp [h]))
      inner.unwrap
    | _ => n
  else n
termination_by n.size

def isLink (n : Node) : Bool :=
  n.kind == "member_expression" || n.kind == "subscript_expression" || n.kind == "call_expression"

/-- The role through which a chain goes on to its left. -/
def spineRole (n : Node) : String := if n.kind == "call_expression" then "function" else "object"

/-- Whether a link of a chain, from its right end along objects and callees, is optional. -/
def hasOptionalLink (n : Node) : Bool :=
  if n.isLink then
    if (n.child? "optional_chain").isSome then true
    else match h : n.child? n.spineRole with
      | some left =>
        have : left.size < n.size := size_lt_of_child? h
        left.hasOptionalLink
      | none => false
  else false
termination_by n.size

def fixedKind? : String → Option String
  | "identifier" => some "Identifier"
  | "undefined" => some "Identifier"
  | "this" => some "ThisExpression"
  | "super" => some "Super"
  | "new_expression" => some "NewExpression"
  | "template_string" => some "TemplateLiteral"
  | "object" => some "ObjectExpression"
  | "array" => some "ArrayExpression"
  | "function" => some "FunctionExpression"
  | "function_expression" => some "FunctionExpression"
  | "generator_function" => some "FunctionExpression"
  | "arrow_function" => some "ArrowFunctionExpression"
  | "class" => some "ClassExpression"
  | "meta_property" => some "MetaProperty"
  | "assignment_expression" => some "AssignmentExpression"
  | "augmented_assignment_expression" => some "AssignmentExpression"
  | "await_expression" => some "AwaitExpression"
  | "unary_expression" => some "UnaryExpression"
  | "update_expression" => some "UpdateExpression"
  | "ternary_expression" => some "ConditionalExpression"
  | "yield_expression" => some "YieldExpression"
  | "sequence_expression" => some "SequenceExpression"
  | "jsx_self_closing_element" => some "JSXElement"
  | "jsx_fragment" => some "JSXFragment"
  | "as_expression" => some "TSAsExpression"
  | "satisfies_expression" => some "TSSatisfiesExpression"
  | "non_null_expression" => some "TSNonNullExpression"
  | "instantiation_expression" => some "TSInstantiationExpression"
  | "type_assertion" => some "TSTypeAssertion"
  | _ => none

/-- A kind without an entry of its own is written with capitals for its low lines. -/
def spelledKind (kind : String) : String :=
  String.ofList ((Split.split '_' kind.toList).flatMap Case.capitalize)

def plainLinkKind (n : Node) : String :=
  if n.kind != "call_expression" then "MemberExpression"
  else if (n.child? "function").any (·.kind == "import") then "ImportExpression"
  else if (n.child? "arguments").any (·.kind == "template_string") then "TaggedTemplateExpression"
  else "CallExpression"

def bareKind (n : Node) : String :=
  if n.isLiteral then "Literal"
  else if n.isLink then if n.hasOptionalLink then "ChainExpression" else n.plainLinkKind
  else if n.kind == "binary_expression" then
    if (n.child? "operator").any fun o => o.kind == "&&" || o.kind == "||" || o.kind == "??" then
      "LogicalExpression"
    else "BinaryExpression"
  else if n.kind == "jsx_element" then
    if (n.child? "open_tag").any fun t => (t.child? "name").isNone then "JSXFragment"
    else "JSXElement"
  else (fixedKind? n.kind).getD (spelledKind n.kind)

/-- The kind of an expression, parentheses aside. -/
def expressionKind (n : Node) : String := n.unwrap.bareKind

end MarkupCensus.Node
