import RunOnce.Expression.Complaint
import RunOnce.Expression.Tree

/-!
# Grammars with ordered choice

A rule of the grammar has alternatives, which are tried in their order; the
first one whose items are all read is taken. An item may be a token, a rule,
a choice of its own, a repetition, or a condition on what follows. What an
alternative makes of its items is a tree, or a complaint.
-/

namespace RunOnce.Expression

/-- The rules of the grammar. Those whose names start with `complain` only look
for known mistakes. -/
inductive Rule
  | whole
  | filled
  | expressions
  | expression
  | expressionQuietly
  | yieldExpression
  | starExpressions
  | starExpression
  | starNamedExpressions
  | starNamedExpression
  | assignmentExpression
  | namedExpression
  | disjunction
  | conjunction
  | inversion
  | comparison
  | comparisonStep
  | equal
  | unequal
  | atMost
  | below
  | atLeast
  | above
  | notMember
  | member
  | notIdentical
  | identical
  | bitOr
  | bitXor
  | bitAnd
  | shift
  | sum
  | term
  | factor
  | power
  | awaitPrimary
  | primary
  | atom
  | group
  | lambda
  | lambdaParams
  | lambdaParameters
  | lambdaSlash
  | lambdaSlashDefault
  | lambdaStar
  | lambdaDoubleStar
  | lambdaPlain
  | lambdaDefault
  | lambdaMaybeDefault
  | lambdaName
  | defaultValue
  | texts
  | tuple
  | set
  | dict
  | entries
  | entry
  | pair
  | forClauses
  | forClause
  | setComprehension
  | generator
  | dictComprehension
  | arguments
  | argumentList
  | keywordList
  | starredExpression
  | keywordOrStarred
  | keywordOrDoubleStarred
  | targets
  | tupleTargets
  | target
  | targetAtom
  | simpleTarget
  | targetPrimary
  | targetAhead
  | complainArguments
  | complainKeyword
  | complainCall
  | complainExpression
  | complainNamed
  | complainComprehension
  | complainDictComprehension
  | complainLambda
  | complainLambdaDefaults
  | complainLambdaStar
  | complainLambdaDoubleStar
  | complainDefault
  | complainTarget
  | complainGroup
  | complainEntries
  | complainEntry
deriving DecidableEq, Repr, Hashable

namespace Rule

/-- Whether a rule only looks for mistakes. An alternative that is such a rule
alone is left out until a mistake is known to be there. -/
def isComplaint : Rule → Bool
  | complainArguments | complainKeyword | complainCall | complainExpression | complainNamed
  | complainComprehension | complainDictComprehension | complainLambda | complainLambdaDefaults
  | complainLambdaStar | complainLambdaDoubleStar | complainDefault | complainTarget
  | complainGroup | complainEntries | complainEntry => true
  | _ => false

/-- Whether a rule starts with itself. It is read in steps, each of which takes
the step before it for its own start. -/
def isLeftRecursive : Rule → Bool
  | bitOr | bitXor | bitAnd | shift | sum | term | primary | targetPrimary => true
  | _ => false

/-- Whether it is remembered what was read by a rule at a place. -/
def isRemembered : Rule → Bool
  | expression | starExpression | disjunction | conjunction | inversion | factor | awaitPrimary
  | texts | arguments | target | targetAtom | complainNamed => true
  | rule => rule.isLeftRecursive

end Rule

/-- A token that is asked for. -/
inductive Wanted
  | sign (written : List Char)
  | word (written : List Char)
  | name
  | softWord
  | number
  | text
  | newline
  | ending
deriving DecidableEq, Repr

/-- Whether a token is one that is asked for. -/
def Wanted.isMet (wanted : Wanted) (token : Token) : Bool :=
  match wanted with
  | sign written => token.is .sign written
  | word written => token.is .word written
  | name => token.kind = .name
  | softWord => token.kind = .name && softWords.contains (String.ofList token.written)
  | number => token.kind = .number
  | text => token.kind = .text
  | newline => token.kind = .newline
  | ending => token.kind = .ending

/-- What an alternative makes of what it has read. -/
inductive Outcome
  | built (tree : Tree)
  /-- Nothing: the rule fails, and no other alternative is tried. -/
  | refused
  | complaint (complaint : Complaint)
  /-- A complaint that is made only if the last token is inside brackets. -/
  | complaintInBrackets (complaint : Complaint)
  /-- A number, which may have too many digits. -/
  | number (token : Token)
  /-- Quoted texts that stand next to each other. -/
  | texts (tokens : List Token)
deriving Repr

/-- What is made of the trees of an alternative's items. -/
abbrev Build := List Tree → Outcome

mutual

/-- An item of an alternative. -/
inductive Pattern
  | token (wanted : Wanted)
  | rule (rule : Rule)
  | choice (branches : List Branch)
  | optional (item : Pattern)
  /-- An item any number of times, or at least once. -/
  | repeated (item : Pattern) (isNeeded : Bool)
  /-- An item at least once, with another one between each two. -/
  | separated (separator item : Pattern)
  /-- Whether an item follows or not, without reading it. -/
  | ahead (item : Pattern) (isExpected : Bool)
  /-- No other alternative is tried after this place. -/
  | commit

/-- An alternative of a rule: its items, and what is made of them. -/
inductive Branch
  | mk (items : List Pattern) (build : Build)

end

end RunOnce.Expression
