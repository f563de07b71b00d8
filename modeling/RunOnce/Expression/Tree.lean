import RunOnce.Expression.Token

/-!
# Trees of expressions

The grammar builds a tree of what it reads. A tree keeps what later questions
are about: what kind of expression it is, what it may be assigned to, and what
value it has if it is a literal.
-/

namespace RunOnce.Expression

/-- A value that is written as it is. -/
inductive Literal
  | integer (value : Nat)
  | real
  | imaginary
  | text
  | bytes
  | none
  | truth (value : Bool)
  | ellipsis
deriving DecidableEq, Repr

/-- What the grammar makes of tokens. -/
inductive Tree
  /-- Nothing, where something may stand. -/
  | absent
  | token (token : Token)
  | list (members : List Tree)
  | name (written : List Char)
  | literal (value : Literal)
  /-- A text that expressions are filled into. -/
  | filledText
  | tuple (members : List Tree)
  | set (members : List Tree)
  | dict (entries : List Tree)
  /-- An entry of a dictionary; one that unpacks another has no key. -/
  | entry (key? : Option Tree) (value : Tree)
  | starred (inner : Tree)
  | attributeOf (owner : Tree)
  /-- A call, with the arguments that have no name, stars included, and for each
  other argument whether it has a name. -/
  | call (callee : Tree) (positional : List Tree) (named : List Bool)
  | keyword (isNamed : Bool)
  /-- A sign before an expression. -/
  | signed (sign : List Char) (operand : Tree)
  /-- Two expressions with a sign between them. -/
  | joined (sign : List Char) (left right : Tree)
  | negated (operand : Tree)
  /-- Expressions with words between them. -/
  | connected (members : List Tree)
  /-- A comparison, of which the first part is kept, and whether that asks for
  membership. -/
  | comparison (left : Tree) (asksMembership : Bool)
  /-- An expression for each case, and the condition between them. -/
  | conditional (met condition otherwise : Tree)
  | function (body : Tree)
  | generator
  | setComprehension
  | dictComprehension
  | yielded
  | awaited
  | assignment
deriving Repr

namespace Literal

/-- What a literal is called. -/
def kindName : Literal → String
  | none => "None"
  | truth true => "True"
  | truth false => "False"
  | ellipsis => "ellipsis"
  | _ => "literal"

end Literal

namespace Tree

/-- What an expression is called. -/
def kindName : Tree → String
  | name _ => "name"
  | literal value => value.kindName
  | filledText => "f-string expression"
  | tuple _ => "tuple"
  | set _ => "set display"
  | dict _ => "dict literal"
  | starred _ => "starred"
  | attributeOf _ => "attribute"
  | call _ _ _ => "function call"
  | signed _ _ | joined _ _ _ | negated _ | connected _ => "expression"
  | comparison _ _ => "comparison"
  | conditional _ _ _ => "conditional expression"
  | function _ => "lambda"
  | generator => "generator expression"
  | setComprehension => "set comprehension"
  | dictComprehension => "dict comprehension"
  | yielded => "yield expression"
  | awaited => "await expression"
  | assignment => "named expression"
  | absent | token _ | list _ | entry _ _ | keyword _ => ""

mutual

/-- The first part of an expression that cannot be the target of a loop. Of a
test for membership only the left side is one. -/
def badTarget? : Tree → Option Tree
  | name _ | attributeOf _ => none
  | tuple members => badTargetIn? members
  | starred inner => badTarget? inner
  | comparison left asksMembership => if asksMembership then badTarget? left else none
  | other => some other

/-- The first part of several expressions that cannot be a target. -/
def badTargetIn? : List Tree → Option Tree
  | [] => none
  | first :: others =>
    match badTarget? first with
    | some bad => some bad
    | none => badTargetIn? others

end

mutual

/-- How deep an expression is nested. -/
def depth : Tree → Nat
  | tuple members | set members | dict members | connected members => depthIn members + 1
  | entry (some key) value => max key.depth value.depth
  | entry none value => value.depth
  | starred inner | attributeOf inner | signed _ inner | negated inner | function inner
  | comparison inner _ => inner.depth + 1
  | call callee positional _ => max callee.depth (depthIn positional) + 1
  | joined _ left right => max left.depth right.depth + 1
  | conditional met condition otherwise =>
    max met.depth (max condition.depth otherwise.depth) + 1
  | _ => 1

/-- How deep the deepest of several expressions is nested. -/
def depthIn : List Tree → Nat
  | [] => 0
  | first :: others => max first.depth (depthIn others)

end

/-- The members of a list. -/
def members : Tree → List Tree
  | list members => members
  | _ => []

end Tree

end RunOnce.Expression
