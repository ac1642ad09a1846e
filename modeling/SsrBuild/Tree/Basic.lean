import SsrBuild.Text.Span

/-!
Trees of program text. A node has a label, which says what it is, the span of text it covers, and
its children in the order in which they are visited. The queries tell thirteen kinds of node
apart; the labels tell more, for the rules of the grammar that look back at what they have read.
-/

set_option autoImplicit false

namespace SsrBuild

open Text (Span)

/-- The kinds of node that a query can ask for. -/
inductive Kind
  | program | exportDefault | function | arrowFunction | formalParameters | newExpression
  | callExpression | identifier | objectExpression | importDeclaration | classDefinition
  | parenthesized | other
  deriving DecidableEq, Repr, Inhabited

/-- What a node is. Labels without a kind of their own are there for the grammar. -/
inductive Label
  | program | exportDefault | function | arrowFunction | formalParameters
  /-- The last children, as many as the number says, are the arguments. -/
  | newExpression (arguments : Nat)
  | callExpression (arguments : Nat)
  | identifier (name : String)
  /-- The flag tells that a comma stands before the closing mark. -/
  | objectExpression (endsInComma : Bool)
  | importDeclaration | classDefinition | parenthesized
  | arrayExpression (endsInComma : Bool)
  | hole | spread | stringLiteral
  /-- A property that only names a variable, alone or with a default. -/
  | shorthand | shorthandDefault
  | property
  /-- The flag tells that the operator is the plain one. -/
  | assignment (plain : Bool)
  | member | importCall | unary | await
  | coalescing | disjunction | conjunction
  /-- A change of type written after its operand, and one written before. -/
  | cast | assertion | nonNull | instantiation
  | arrayPattern | objectPattern | patternProperty | patternDefault | rest
  | declaration | declarator | functionBody | expressionStatement
  | arrayType | tupleType | optionalType
  | other
  deriving DecidableEq, Repr, Inhabited

/-- The kind of a label. -/
def Label.kind : Label → Kind
  | program => .program
  | exportDefault => .exportDefault
  | function => .function
  | arrowFunction => .arrowFunction
  | formalParameters => .formalParameters
  | newExpression _ => .newExpression
  | callExpression _ => .callExpression
  | identifier _ => .identifier
  | objectExpression _ => .objectExpression
  | importDeclaration => .importDeclaration
  | classDefinition => .classDefinition
  | parenthesized => .parenthesized
  | _ => .other

/-- A node with its children. -/
inductive Tree
  | node (label : Label) (span : Span) (children : List Tree)
  deriving Inhabited

namespace Tree

def label : Tree → Label
  | node label _ _ => label

def span : Tree → Span
  | node _ span _ => span

def children : Tree → List Tree
  | node _ _ children => children

def kind (tree : Tree) : Kind := tree.label.kind

/-- The name of a node that is an identifier. -/
def identifierName? (tree : Tree) : Option String :=
  match tree.label with
  | .identifier name => some name
  | _ => none

/-- The name of an identifier, or of the identifier that is called or constructed. -/
def name? (tree : Tree) : Option String :=
  match tree.label with
  | .identifier name => some name
  | .newExpression _ | .callExpression _ => tree.children.head?.bind identifierName?
  | _ => none

/-- The arguments of a call or a construction. -/
def arguments (tree : Tree) : List Tree :=
  match tree.label with
  | .newExpression count | .callExpression count =>
    tree.children.drop (tree.children.length - count)
  | _ => []

/-- Gives a node another label and other children in place. -/
def relabel (tree : Tree) (label : Label) (children : List Tree) : Tree :=
  node label tree.span children

mutual

/-- The number of nodes. -/
def size : Tree → Nat
  | node _ _ children => sizeAll children + 1

/-- The number of nodes of several trees. -/
def sizeAll : List Tree → Nat
  | [] => 0
  | tree :: rest => size tree + sizeAll rest

end

mutual

/-- The nodes in pre-order: a node, then what is below its children, one after the other. -/
def preorder : Tree → List Tree
  | node label span children => node label span children :: preorderAll children

/-- The nodes of several trees in pre-order. -/
def preorderAll : List Tree → List Tree
  | [] => []
  | tree :: rest => preorder tree ++ preorderAll rest

end

mutual

/-- The tree with every span changed. -/
def mapSpans (change : Span → Span) : Tree → Tree
  | node label span children => node label (change span) (mapSpansAll change children)

/-- Several trees with every span changed. -/
def mapSpansAll (change : Span → Span) : List Tree → List Tree
  | [] => []
  | tree :: rest => mapSpans change tree :: mapSpansAll change rest

end

mutual

/-- Is the label found in the tree? -/
def hasLabel (wanted : Label) : Tree → Bool
  | node label _ children => label == wanted || anyHasLabel wanted children

/-- Is the label found in one of the trees? -/
def anyHasLabel (wanted : Label) : List Tree → Bool
  | [] => false
  | tree :: rest => hasLabel wanted tree || anyHasLabel wanted rest

end

mutual

/-- The names that a binding pattern or a declaration binds, in the order of the text. -/
def boundNames : Tree → List String
  | node (.identifier name) _ _ => [name]
  | node .patternDefault _ (target :: _) => boundNames target
  | node .patternProperty _ children => boundNamesOfLast children
  | node .declarator _ (target :: _) => boundNames target
  | node .function _ children | node .classDefinition _ children => boundNamesOfDeclared children
  | node .arrayPattern _ children | node .objectPattern _ children | node .rest _ children
  | node .declaration _ children => boundNamesAll children
  | node _ _ _ => []

/-- The names bound by several patterns. -/
def boundNamesAll : List Tree → List String
  | [] => []
  | tree :: rest => boundNames tree ++ boundNamesAll rest

/-- The names bound by the last of several nodes. -/
def boundNamesOfLast : List Tree → List String
  | [] => []
  | [tree] => boundNames tree
  | _ :: rest => boundNamesOfLast rest

/-- The name of the first identifier among several nodes. -/
def boundNamesOfDeclared : List Tree → List String
  | [] => []
  | node (.identifier name) _ _ :: _ => [name]
  | _ :: rest => boundNamesOfDeclared rest

end

@[simp] theorem label_node (label : Label) (span : Span) (children : List Tree) :
    (node label span children).label = label := rfl

@[simp] theorem span_node (label : Label) (span : Span) (children : List Tree) :
    (node label span children).span = span := rfl

@[simp] theorem children_node (label : Label) (span : Span) (children : List Tree) :
    (node label span children).children = children := rfl

mutual

/-- Pre-order visits every node once. -/
theorem length_preorder : (tree : Tree) → tree.preorder.length = tree.size
  | node label span children => by
    simp [preorder, size, length_preorderAll children]

theorem length_preorderAll : (trees : List Tree) → (preorderAll trees).length = sizeAll trees
  | [] => rfl
  | tree :: rest => by
    simp [preorderAll, sizeAll, length_preorder tree, length_preorderAll rest]

end

end Tree

end SsrBuild
