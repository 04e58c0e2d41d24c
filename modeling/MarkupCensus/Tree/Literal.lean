import MarkupCensus.Literal.CharRef
import MarkupCensus.Literal.Escape
import MarkupCensus.Report.Value
import MarkupCensus.Tree.Fault

namespace MarkupCensus.Node

def isLiteral (n : Node) : Bool :=
  n.kind == "string" || n.kind == "number" || n.kind == "true" || n.kind == "false"
    || n.kind == "null" || n.kind == "regex"

/-- What a part of a string literal stands for; the quotes stand for nothing. -/
def stringPart (src : Source) (n : Node) : Except LiteralFault Text :=
  if n.kind == "escape_sequence" then Escape.decode (n.text src)
  else if n.kind == "string_fragment" || n.kind == "html_character_reference" then
    .ok ((n.text src).map CodePoint.ofChar)
  else .ok []

def stringValue (src : Source) (n : Node) : Except LiteralFault Text := do
  return (← n.children.mapM (stringPart src)).flatten

/-- The value of an attribute string: its text between the quotes, character references replaced. -/
def attributeString (src : Source) (n : Node) : Except LiteralFault Text :=
  (CharRef.unescape ((n.text src).drop 1).dropLast).map (·.map CodePoint.ofChar)

/-- The value of a literal. A string of the markup itself has character references for escapes; a regular
expression stands for its source text. -/
def literalValue (src : Source) (markup : Bool) (n : Node) : Except Fault Value :=
  if n.kind == "string" then
    ((if markup then n.attributeString src else n.stringValue src).map Value.text).mapError .literal
  else if n.kind == "number" then ((Numeral.value (n.text src)).map Value.number).mapError .literal
  else if n.kind == "true" then .ok (.bool true)
  else if n.kind == "false" then .ok (.bool false)
  else if n.kind == "null" then .ok .null
  else if n.kind == "regex" then .ok (.text ((n.text src).map CodePoint.ofChar))
  else n.unknown src .literal

end MarkupCensus.Node
