import RunOnce.Expression.Value
import RunOnce.Text.Quoted

/-!
# Values of actions

A tag may name an action and give it a value, which is an expression. Where the
value is the name of a handler with values in brackets after it, only these are
an expression, and of a name alone nothing is.
-/

namespace RunOnce.Command.ActionValue

open RunOnce.Text

/-- The part of a value that is an expression. Between the brackets after the
name of a handler there is no line feed. -/
def expression (cs : List Char) : List Char :=
  match cs.dropWhile fun c => isWordCharacter c || c == '.' with
  | [] => "()".toList
  | '(' :: rest =>
    if rest.getLast? = some ')' ∧ !rest.contains '\n' then '(' :: rest else cs
  | _ => cs

/-- The message about a value that is refused. Where it is not well written, the
expression in it is told too. -/
def message (value : List Char) : Expression.Refusal → String
  | .faulty fault =>
    "error parsing " ++ Quoted.encode (String.ofList (expression (trim value))) ++ " in " ++
      Quoted.encode (String.ofList value) ++ "; " ++ fault.text
  | refusal => "error parsing " ++ Quoted.encode (String.ofList value) ++ "; " ++ refusal.text

/-- Why a value is refused. An expression that is well written but has no value
is let through. -/
def refusal? (value : List Char) : Option Expression.Refusal :=
  match Expression.evaluate (expression (trim value)) with
  | .ok _ | .error (.noValue .notLiteral) => none
  | .error refusal => some refusal

end RunOnce.Command.ActionValue
