import MarkView.Style.Element
/-!
# Style rules

A `StyleRule` says how a node is dressed: the CSS class of its own element, an
element wrapped around that, and whether its children are written as nodes or as
the literal text that they hold. `styleFor` is the table of rules; it answers for
every type of node. The classes are those of the Tailwind style sheet.
-/

namespace MarkView

/-- An element wrapped around a node's own element. -/
structure Container where
  element : Element
  cssClass : String
  deriving DecidableEq, Repr, Inhabited

/-- How the children of a node are written: in order as nodes, or as the literal
text that they hold. -/
inductive ChildPolicy
  | passThrough
  | verbatim
  deriving DecidableEq, Repr, Inhabited

/-- How a node is dressed. -/
structure StyleRule where
  cssClass : Option String := none
  container : Option Container := none
  children : ChildPolicy := .passThrough
  deriving DecidableEq, Repr, Inhabited

namespace StyleRule

/-- No class, no container, children as nodes. -/
def identity : StyleRule := {}

/-- A rule that only adds a class. -/
def styled (cssClass : String) : StyleRule := { cssClass := some cssClass }

/-- Whether a rule changes nothing. -/
def isIdentity (rule : StyleRule) : Bool := rule == identity

end StyleRule

/-- What a look-up needs to know beyond the type of a node: how code is
displayed. -/
structure StyleContext where
  code : Option CodeDisplay := none
  deriving DecidableEq, Repr, Inhabited

/-- The context of a node's own look-up. -/
def NodeKind.styleContext : NodeKind → StyleContext
  | .code display _ => { code := some display }
  | _ => {}

/-- The rule of inline code: its text is kept as it is. -/
def inlineCodeRule : StyleRule :=
  { cssClass := some "bg-gray-100 rounded px-1", children := .verbatim }

/-- The rule of a code block: its text is kept as it is, inside a `pre`. -/
def codeBlockRule : StyleRule :=
  { container := some ⟨.pre, "bg-gray-100 rounded p-4 mb-4"⟩, children := .verbatim }

/-- The rule that the table holds for a type of node. Code looked up without its
display counts as a block. -/
def lookupStyle? (type : NodeType) (context : StyleContext) : Option StyleRule :=
  match type with
  | .heading 1 => some (.styled "text-4xl font-bold mb-4")
  | .heading 2 => some (.styled "text-3xl font-bold mb-3")
  | .heading 3 => some (.styled "text-2xl font-bold mb-2")
  | .heading 4 => some (.styled "text-xl font-bold mb-2")
  | .heading 5 => some (.styled "text-lg font-bold mb-1")
  | .heading 6 => some (.styled "text-base font-bold mb-1")
  | .paragraph => some (.styled "mb-4")
  | .unorderedList => some (.styled "list-disc list-inside mb-4")
  | .orderedList => some (.styled "list-decimal list-inside mb-4")
  | .listItem => some (.styled "mb-1")
  | .link => some (.styled "text-blue-500 hover:underline")
  | .blockQuote => some (.styled "border-l-4 border-gray-300 pl-4 italic mb-4")
  | .code =>
    match context.code.getD .block with
    | .inline => some inlineCodeRule
    | .block => some codeBlockRule
  | _ => none

/-- The rule of a type of node: the table's, or else the one that changes
nothing. -/
def styleFor (type : NodeType) (context : StyleContext) : StyleRule :=
  (lookupStyle? type context).getD .identity

/-- The rule of a node of the given kind. -/
def NodeKind.rule (kind : NodeKind) : StyleRule := styleFor kind.type kind.styleContext

end MarkView
