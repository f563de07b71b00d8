import RunOnce.Expression.Parser
import RunOnce.Number.Binary64

/-!
# Values of expressions

An expression that is written as it is has a value: a number with or without a
sign, a text, a tuple, a set or a dictionary of such. The members of sets and
the keys of dictionaries must not be sets or dictionaries, nor tuples that hold
such. This file says why an expression has no value.
-/

namespace RunOnce.Expression

open RunOnce.Number

/-- Why an expression has no value. -/
inductive ValueFault
  /-- It is not written as it is. -/
  | notLiteral
  /-- An entry of a dictionary unpacks another one. -/
  | keyMissing
  /-- A member or a key of a kind that cannot be one. -/
  | unhashable (kind : String)
  /-- An integer that is too large to be added to a number that is none. -/
  | tooLarge
deriving DecidableEq, Repr

/-- What later questions about a value are about. -/
inductive Value
  | integer (negative : Bool) (magnitude : Nat)
  | real
  | imaginary
  /-- Any other value that may be a member or a key. -/
  | other
  /-- A value that may not, and what it is called. -/
  | unhashable (kind : String)
deriving DecidableEq, Repr

namespace Value

/-- Check that a value may be a member or a key. -/
def hash : Value → Except ValueFault Unit
  | unhashable kind => .error (.unhashable kind)
  | _ => .ok ()

/-- A tuple of values may be a member if each of them may. -/
def tuple (members : List Value) : Value :=
  let isUnhashable : Value → Bool
    | unhashable _ => true
    | _ => false
  (members.find? isUnhashable).getD other

/-- The value of a number. -/
def ofNumber? : Tree → Option Value
  | .literal (.integer value) => some (integer false value)
  | .literal .real => some real
  | .literal .imaginary => some imaginary
  | _ => none

/-- The value of a number that may have one sign. -/
def ofSigned? : Tree → Option Value
  | .signed sign operand =>
    if sign = ['+'] then ofNumber? operand
    else if sign = ['-'] then
      (ofNumber? operand).map fun
        | integer negative magnitude => integer (!negative) magnitude
        | value => value
    else none
  | tree => ofNumber? tree

/-- The sum or difference of a number and an imaginary one. -/
def ofSum (left right : Tree) : Except ValueFault Value :=
  match ofSigned? left, ofNumber? right with
  | some (integer _ magnitude), some imaginary =>
    if (Binary64.ofNat magnitude).isFinite then .ok imaginary else .error .tooLarge
  | some real, some imaginary => .ok imaginary
  | _, _ => .error .notLiteral

mutual

/-- The value of a tree. -/
def ofTree : Tree → Except ValueFault Value
  | .literal (.integer value) => .ok (integer false value)
  | .literal .real => .ok real
  | .literal .imaginary => .ok imaginary
  | .literal _ => .ok other
  | .tuple members => do return tuple (← ofTrees members)
  | .set members => do
    checkMembers members
    return unhashable "set"
  | .call (.name written) [] [] =>
    if written = "set".toList then .ok (unhashable "set") else .error .notLiteral
  | .dict entries => do
    checkEntries entries
    return unhashable "dict"
  | .joined sign left right =>
    if sign = ['+'] ∨ sign = ['-'] then ofSum left right else .error .notLiteral
  | .signed sign operand =>
    match ofSigned? (.signed sign operand) with
    | some value => .ok value
    | none => .error .notLiteral
  | _ => .error .notLiteral

/-- The values of several trees. -/
def ofTrees : List Tree → Except ValueFault (List Value)
  | [] => .ok []
  | first :: others => do
    let value ← ofTree first
    return value :: (← ofTrees others)

/-- Check the members of a set one by one. -/
def checkMembers : List Tree → Except ValueFault Unit
  | [] => .ok ()
  | member :: others => do
    (← ofTree member).hash
    checkMembers others

/-- Check the entries of a dictionary: of each the key, then the value, and then
whether the key may be one. -/
def checkEntries : List Tree → Except ValueFault Unit
  | [] => .ok ()
  | .entry (some key) value :: others => do
    let found ← ofTree key
    let _ ← ofTree value
    found.hash
    checkEntries others
  | _ :: _ => .error .keyMissing

end

end Value

/-- Why a text is refused as a value. -/
inductive Refusal
  /-- It holds a NUL. -/
  | nul
  /-- It is not well written. -/
  | faulty (fault : Fault)
  /-- It cannot be read for its depth. -/
  | tooDeep
  /-- It can be read, but its depth is too much for a value. -/
  | tooNested
  | noValue (fault : ValueFault)
deriving DecidableEq, Repr

/-- The text of a refusal. -/
def Refusal.text : Refusal → String
  | nul => "source code string cannot contain null bytes"
  | faulty fault => fault.text
  | tooDeep => ""
  | tooNested => "maximum recursion depth exceeded during ast construction"
  | noValue .notLiteral => "malformed node or string"
  | noValue .keyMissing => "malformed node or string: None"
  | noValue (.unhashable kind) => "unhashable type: '" ++ kind ++ "'"
  | noValue .tooLarge => "int too large to convert to float"

/-- The depth to which an expression that is read may be nested. -/
def maxDepth : Nat := 2930

/-- Read a text and find its value. -/
def evaluate (cs : List Char) : Except Refusal Value := do
  if cs.contains '\x00' then throw .nul
  match parse cs with
  | .error (.fault fault) => throw (.faulty fault)
  | .error .tooDeep => throw .tooDeep
  | .ok tree =>
    if maxDepth < tree.depth then throw .tooNested
    match Value.ofTree tree with
    | .ok value => pure value
    | .error fault => throw (.noValue fault)

end RunOnce.Expression
