import RunOnce.Expression.Grammar

/-!
# The grammar of expressions

The rules that well written expressions follow. The value of an action stands in
a tag, so it holds no square bracket, and the grammar has no expressions with
these. The rules that look for mistakes come after the others.
-/

namespace RunOnce.Expression

namespace Pattern

/-- A sign. -/
def sign (written : String) : Pattern := .token (.sign written.toList)

/-- A word of the grammar. -/
def word (written : String) : Pattern := .token (.word written.toList)

/-- A name. -/
def name : Pattern := .token .name

/-- An item any number of times. -/
def many (item : Pattern) : Pattern := .repeated item false

/-- An item at least once. -/
def several (item : Pattern) : Pattern := .repeated item true

/-- An item at least once, with commas between. -/
def listed (item : Pattern) : Pattern := .separated (sign ",") item

/-- An item must follow. -/
def before (item : Pattern) : Pattern := .ahead item true

/-- An item must not follow. -/
def notBefore (item : Pattern) : Pattern := .ahead item false

end Pattern

namespace Build

/-- The tree of one of the items, counted from zero. -/
def item (index : Nat) (trees : List Tree) : Outcome :=
  match trees.drop index with
  | tree :: _ => .built tree
  | [] => .refused

/-- Always the same tree. -/
def always (tree : Tree) (_ : List Tree) : Outcome := .built tree

/-- Always the same complaint. -/
def complain (complaint : Complaint) (_ : List Tree) : Outcome := .complaint complaint

/-- A sign before an operand. -/
def signed : List Tree → Outcome
  | [.token sign, operand] => .built (.signed sign.written operand)
  | _ => .refused

/-- Two operands with a sign between them. -/
def joined : List Tree → Outcome
  | [left, .token sign, right] => .built (.joined sign.written left right)
  | _ => .refused

/-- A tuple of a first member and more. -/
def tuple : List Tree → Outcome
  | first :: .list more :: _ => .built (.tuple (first :: more))
  | first :: _ => .built (.tuple [first])
  | [] => .refused

/-- A member with a star. -/
def starred : List Tree → Outcome
  | [_, inner] => .built (.starred inner)
  | _ => .refused

/-- A comparison, given its first part and its steps. -/
def comparison : List Tree → Outcome
  | [left, .list (.token sign :: _)] => .built (.comparison left (sign.written == "in".toList))
  | _ => .refused

/-- A call of a function with arguments that were read, if any. -/
def call : List Tree → Outcome
  | callee :: _ :: .call _ positional named :: _ => .built (.call callee positional named)
  | callee :: _ => .built (.call callee [] [])
  | [] => .refused

/-- A call of a function with a generator. -/
def callWithGenerator : List Tree → Outcome
  | callee :: argument :: _ => .built (.call callee [argument] [])
  | _ => .refused

/-- Expressions of which the later ones stand after a word. -/
def connected : List Tree → Outcome
  | [first, .list others] => .built (.connected (first :: others))
  | _ => .refused

/-- An expression after a word that negates it. -/
def negated : List Tree → Outcome
  | [_, operand] => .built (.negated operand)
  | _ => .refused

/-- Expressions for the two cases of a condition. -/
def conditional : List Tree → Outcome
  | [met, _, condition, _, otherwise] => .built (.conditional met condition otherwise)
  | _ => .refused

/-- A function, of which the expression comes last. -/
def function : List Tree → Outcome
  | [_, _, _, body] => .built (.function body)
  | _ => .refused

/-- An attribute of something. -/
def attributeOf : List Tree → Outcome
  | owner :: _ => .built (.attributeOf owner)
  | [] => .refused

/-- The members with a star among arguments. -/
def starredOf (arguments : List Tree) : List Tree :=
  arguments.filter fun
    | .starred _ => true
    | _ => false

/-- Whether the other arguments have names. -/
def namedOf (arguments : List Tree) : List Bool :=
  arguments.filterMap fun
    | .keyword isNamed => some isNamed
    | _ => none

/-- Arguments without names, and others after them. -/
def arguments : List Tree → Outcome
  | [.list positional, others] =>
    .built (.call .absent (positional ++ starredOf others.members) (namedOf others.members))
  | _ => .refused

/-- Arguments that have names or stars. -/
def keywords : List Tree → Outcome
  | [.list others] => .built (.call .absent (starredOf others) (namedOf others))
  | _ => .refused

/-- The members of two lists. -/
def append : List Tree → Outcome
  | [.list first, _, .list second] => .built (.list (first ++ second))
  | _ => .refused

end Build

open Pattern (sign word name many several listed before notBefore)

/-- An alternative that is one item. -/
def one (item : Pattern) : Branch := ⟨[item], Build.item 0⟩

/-- Items that stand next to each other, of which one gives the tree. -/
def run (items : List Pattern) (index : Nat) : Pattern :=
  .choice [⟨items, Build.item index⟩]

/-- One of several items. -/
def oneOf (items : List Pattern) : Pattern :=
  .choice (items.map one)

/-- Operands of a rule with one of several signs between them. -/
def joins (rule operand : Rule) (signs : List String) : List Branch :=
  signs.map (fun written => ⟨[.rule rule, sign written, .rule operand], Build.joined⟩) ++
    [one (.rule operand)]

/-- A step of a comparison. -/
def step (signs : List Pattern) : List Branch :=
  [⟨signs ++ [.rule .bitOr], Build.item 0⟩]

/-- One or more items of which the later ones stand after commas; or one with a
comma after it; or one alone, which makes no tuple. -/
def tuples (rule : Rule) : List Branch := [
  ⟨[.rule rule, several (run [sign ",", .rule rule] 1), .optional (sign ",")],
    Build.tuple⟩,
  ⟨[.rule rule, sign ","], fun trees => Build.tuple (trees.take 1)⟩,
  one (.rule rule)]

/-- Two spellings of one thing: with a comma after it, or before a colon. -/
def beforeColon (items : List Pattern) : List Branch := [
  ⟨items ++ [sign ","], Build.item 0⟩,
  ⟨items ++ [before (sign ":")], Build.item 0⟩]

/-- An argument without a name and without a star. -/
def plainArgument : Pattern :=
  .choice [one (.rule .assignmentExpression),
    ⟨[.rule .expression, notBefore (sign ":=")], Build.item 0⟩]

/-- The arguments that come first. -/
def positionalArgument : Pattern :=
  .choice [one (.rule .starredExpression),
    ⟨[plainArgument, notBefore (sign "=")], Build.item 0⟩]

/-- A loop of a comprehension. -/
def loop (words : List Pattern) : Branch :=
  ⟨words ++ [.rule .targets, word "in", .commit, .rule .disjunction,
    many (run [word "if", .rule .disjunction] 1)], Build.always .absent⟩

/-- Whether a tree is the name of a function that is often called without
brackets. -/
def forgottenCall? : Tree → Option String
  | .name written =>
    if ["print", "exec"].contains (String.ofList written) then some (String.ofList written)
    else none
  | _ => none

/-- Parameters before a slash. -/
def beforeSlash : Pattern :=
  oneOf [.rule .lambdaSlash, .rule .lambdaSlashDefault]

/-- The alternatives of the rules that look for mistakes. -/
def complaints : Rule → List Branch
  | .complainArguments => [
      ⟨[.rule .argumentList, sign ",", sign "*"], Build.complain .lateUnpacking⟩,
      ⟨[.rule .expression, .rule .forClauses, sign ",",
        .optional (.choice [one (.rule .argumentList),
          ⟨[.rule .expression, .rule .forClauses], Build.item 0⟩])], Build.complain .bareGenerator⟩,
      ⟨[name, sign "=", .rule .expression, .rule .forClauses], Build.complain .nameAssigned⟩,
      ⟨[.rule .argumentList, .rule .forClauses], fun
        | .call _ positional _ :: _ =>
          if positional.length ≤ 1 then .refused else .complaint .bareGenerator
        | _ => .refused⟩,
      ⟨[.rule .argumentList, sign ",", .rule .expression, .rule .forClauses],
        Build.complain .bareGenerator⟩,
      ⟨[.rule .argumentList, sign ",", .rule .argumentList], fun
        | .call _ _ named :: _ =>
          .complaint (if named.contains false then .positionalAfterUnpacking
            else .positionalAfterKeyword)
        | _ => .refused⟩]
  | .complainKeyword => [
      ⟨[oneOf [word "True", word "False", word "None"], sign "="], fun
        | .token token :: _ => .complaint (.badTarget (String.ofList token.written))
        | _ => .refused⟩,
      ⟨[name, sign "=", .rule .expression, .rule .forClauses], Build.complain .nameAssigned⟩,
      ⟨[notBefore (run [name, sign "="] 0), .rule .expression, sign "="], Build.complain .argumentAssigned⟩]
  | .complainCall => [
      ⟨[name, notBefore (sign "("), .rule .starExpressions], fun trees =>
        match trees.head?.bind forgottenCall? with
        | some called => .complaint (.callMissing called)
        | none => .refused⟩]
  | .complainExpression => [
      ⟨[notBefore (.choice [⟨[name, .token .text], Build.item 0⟩, one (.token .softWord)]),
        .rule .disjunction, .rule .expressionQuietly], fun trees =>
        match (trees.drop 1).head?.bind forgottenCall? with
        | some _ => .refused
        | none => .complaintInBrackets .commaMissing⟩,
      ⟨[.rule .disjunction, word "if", .rule .disjunction,
        notBefore (oneOf [word "else", sign ":"])], Build.complain .elseMissing⟩]
  | .complainNamed => [
      ⟨[.rule .expression, sign ":=", .rule .expression], fun
        | tree :: _ => .complaint (.unnamed tree.kindName)
        | [] => .refused⟩,
      ⟨[name, sign "=", .rule .bitOr, notBefore (oneOf [sign "=", sign ":="])],
        Build.complain .nameAssigned⟩,
      ⟨[notBefore (oneOf [.rule .tuple, .rule .generator, word "True", word "None", word "False"]),
        .rule .bitOr, sign "=", .rule .bitOr, notBefore (oneOf [sign "=", sign ":="])], fun
        | _ :: tree :: _ => .complaint (.assigned tree.kindName)
        | _ => .refused⟩]
  | .complainComprehension => [
      ⟨[oneOf [sign "(", sign "\x7b"], .rule .starredExpression, .rule .forClauses],
        Build.complain .starredMember⟩,
      ⟨[sign "\x7b", .rule .starNamedExpression, sign ",", .rule .starNamedExpressions,
        .rule .forClauses], Build.complain .bareTargets⟩,
      ⟨[sign "\x7b", .rule .starNamedExpression, sign ",", .rule .forClauses],
        Build.complain .bareTargets⟩]
  | .complainDictComprehension => [
      ⟨[sign "\x7b", sign "**", .rule .bitOr, .rule .forClauses, sign "\x7d"],
        Build.complain .unpackedMember⟩]
  | .complainLambda => [
      ⟨[many (.rule .lambdaPlain), .rule .complainLambdaDefaults, .rule .lambdaPlain],
        Build.complain .defaultOrder⟩,
      ⟨[many (.rule .lambdaPlain), sign "(", listed (.rule .lambdaName), .optional (sign ","),
        sign ")"], Build.complain .parenthesizedParameters⟩,
      ⟨[sign "/", sign ","], Build.complain .nothingBeforeSlash⟩,
      ⟨[beforeSlash, many (.rule .lambdaMaybeDefault), sign "/"], Build.complain .repeatedSlash⟩,
      ⟨[.optional beforeSlash, many (.rule .lambdaMaybeDefault), sign "*",
        oneOf [sign ",", .rule .lambdaPlain], many (.rule .lambdaMaybeDefault), sign "/"],
        Build.complain .slashAfterStar⟩,
      ⟨[several (.rule .lambdaMaybeDefault), sign "/", sign "*"], Build.complain .commaAfterSlash⟩]
  | .complainLambdaDefaults => [
      one (.rule .lambdaSlashDefault),
      one (several (.rule .lambdaDefault))]
  | .complainLambdaStar => [
      ⟨[sign "*", .choice [one (sign ":"),
        ⟨[sign ",", oneOf [sign ":", sign "**"]], Build.item 0⟩]], Build.complain .bareStar⟩,
      ⟨[sign "*", .rule .lambdaName, sign "="], Build.complain .starDefault⟩,
      ⟨[sign "*", oneOf [.rule .lambdaPlain, sign ","], many (.rule .lambdaMaybeDefault), sign "*",
        oneOf [.rule .lambdaPlain, sign ","]], Build.complain .repeatedStar⟩]
  | .complainLambdaDoubleStar => [
      ⟨[sign "**", .rule .lambdaName, sign "="], Build.complain .doubleStarDefault⟩,
      ⟨[sign "**", .rule .lambdaName, sign ",", .rule .lambdaName], Build.complain .afterDoubleStar⟩,
      ⟨[sign "**", .rule .lambdaName, sign ",", oneOf [sign "*", sign "**", sign "/"]],
        Build.complain .afterDoubleStar⟩]
  | .complainDefault => [
      ⟨[sign "=", before (oneOf [sign ")", sign ","])], Build.complain .defaultMissing⟩]
  | .complainTarget => [
      ⟨[.optional (word "async"), word "for", .rule .starExpressions], fun
        | [_, _, tree] =>
          match tree.badTarget? with
          | some bad => .complaint (.badTarget bad.kindName)
          | none => .refused
        | _ => .refused⟩]
  | .complainGroup => [
      ⟨[sign "(", .rule .starredExpression, sign ")"], Build.complain .starredGroup⟩,
      ⟨[sign "(", sign "**", .rule .expression, sign ")"], Build.complain .doubleStarredGroup⟩]
  | .complainEntries => [
      ⟨[listed (.rule .entry), sign ",", .rule .complainEntry], Build.item 0⟩,
      ⟨[.rule .expression, sign ":", sign "*", .rule .bitOr], Build.complain .starredValue⟩,
      ⟨[.rule .expression, sign ":", before (oneOf [sign "\x7d", sign ","])],
        Build.complain .valueMissing⟩]
  | .complainEntry => [
      ⟨[.rule .expression, notBefore (sign ":")], Build.complain .colonMissing⟩,
      ⟨[.rule .expression, sign ":", sign "*", .rule .bitOr], Build.complain .starredValue⟩,
      ⟨[.rule .expression, sign ":", before (oneOf [sign "\x7d", sign ","])],
        Build.complain .valueMissing⟩]
  | _ => []

/-- The alternatives of a rule. -/
def Rule.branches : Rule → List Branch
  | .whole => [
      ⟨[.rule .expressions, many (.token .newline), .token .ending], Build.item 0⟩]
  | .filled => [one (.rule .starExpressions)]
  | .expressions => tuples .expression
  | .expression => [
      one (.rule .complainExpression),
      one (.rule .complainCall),
      ⟨[.rule .disjunction, word "if", .rule .disjunction, word "else", .rule .expression],
        Build.conditional⟩,
      one (.rule .disjunction),
      one (.rule .lambda)]
  | .expressionQuietly => [
      ⟨[.rule .disjunction, word "if", .rule .disjunction, word "else", .rule .expression],
        Build.conditional⟩,
      one (.rule .disjunction),
      one (.rule .lambda)]
  | .yieldExpression => [
      ⟨[word "yield", word "from", .rule .expression], Build.always .yielded⟩,
      ⟨[word "yield", .optional (.rule .starExpressions)], Build.always .yielded⟩]
  | .starExpressions => tuples .starExpression
  | .starExpression => [
      ⟨[sign "*", .rule .bitOr], Build.starred⟩,
      one (.rule .expression)]
  | .starNamedExpressions => [
      ⟨[listed (.rule .starNamedExpression), .optional (sign ",")], Build.item 0⟩]
  | .starNamedExpression => [
      ⟨[sign "*", .rule .bitOr], Build.starred⟩,
      one (.rule .namedExpression)]
  | .assignmentExpression => [
      ⟨[name, sign ":=", .commit, .rule .expression], Build.always .assignment⟩]
  | .namedExpression => [
      one (.rule .assignmentExpression),
      one (.rule .complainNamed),
      ⟨[.rule .expression, notBefore (sign ":=")], Build.item 0⟩]
  | .disjunction => [
      ⟨[.rule .conjunction, several (run [word "or", .rule .conjunction] 1)], Build.connected⟩,
      one (.rule .conjunction)]
  | .conjunction => [
      ⟨[.rule .inversion, several (run [word "and", .rule .inversion] 1)], Build.connected⟩,
      one (.rule .inversion)]
  | .inversion => [
      ⟨[word "not", .rule .inversion], Build.negated⟩,
      one (.rule .comparison)]
  | .comparison => [
      ⟨[.rule .bitOr, several (.rule .comparisonStep)], Build.comparison⟩,
      one (.rule .bitOr)]
  | .comparisonStep =>
    [Rule.equal, .unequal, .atMost, .below, .atLeast, .above, .notMember, .member, .notIdentical,
      .identical].map fun rule => one (.rule rule)
  | .equal => step [sign "=="]
  | .unequal => step [run [sign "!="] 0]
  | .atMost => step [sign "<="]
  | .below => step [sign "<"]
  | .atLeast => step [sign ">="]
  | .above => step [sign ">"]
  | .notMember => step [word "not", word "in"]
  | .member => step [word "in"]
  | .notIdentical => step [word "is", word "not"]
  | .identical => step [word "is"]
  | .bitOr => joins .bitOr .bitXor ["|"]
  | .bitXor => joins .bitXor .bitAnd ["^"]
  | .bitAnd => joins .bitAnd .shift ["&"]
  | .shift => joins .shift .sum ["<<", ">>"]
  | .sum => joins .sum .term ["+", "-"]
  | .term => joins .term .factor ["*", "/", "//", "%", "@"]
  | .factor => [
      ⟨[sign "+", .rule .factor], Build.signed⟩,
      ⟨[sign "-", .rule .factor], Build.signed⟩,
      ⟨[sign "~", .rule .factor], Build.signed⟩,
      one (.rule .power)]
  | .power => [
      ⟨[.rule .awaitPrimary, sign "**", .rule .factor], Build.joined⟩,
      one (.rule .awaitPrimary)]
  | .awaitPrimary => [
      ⟨[word "await", .rule .primary], Build.always .awaited⟩,
      one (.rule .primary)]
  | .primary => [
      ⟨[.rule .primary, sign ".", name], Build.attributeOf⟩,
      ⟨[.rule .primary, .rule .generator], Build.callWithGenerator⟩,
      ⟨[.rule .primary, sign "(", .optional (.rule .arguments), sign ")"], Build.call⟩,
      one (.rule .atom)]
  | .atom => [
      one name,
      ⟨[word "True"], Build.always (.literal (.truth true))⟩,
      ⟨[word "False"], Build.always (.literal (.truth false))⟩,
      ⟨[word "None"], Build.always (.literal .none)⟩,
      ⟨[before (.token .text), .rule .texts], Build.item 1⟩,
      ⟨[.token .number], fun
        | [.token token] => .number token
        | _ => .refused⟩,
      ⟨[before (sign "("), oneOf [.rule .tuple, .rule .group, .rule .generator]], Build.item 1⟩,
      ⟨[before (sign "\x7b"),
        oneOf [.rule .dict, .rule .set, .rule .dictComprehension, .rule .setComprehension]],
        Build.item 1⟩,
      ⟨[sign "..."], Build.always (.literal .ellipsis)⟩]
  | .group => [
      ⟨[sign "(", oneOf [.rule .yieldExpression, .rule .namedExpression], sign ")"],
        Build.item 1⟩,
      one (.rule .complainGroup)]
  | .lambda => [
      ⟨[word "lambda", .optional (.rule .lambdaParams), sign ":", .rule .expression],
        Build.function⟩]
  | .lambdaParams => [
      one (.rule .complainLambda),
      one (.rule .lambdaParameters)]
  | .lambdaParameters => [
      ⟨[.rule .lambdaSlash, many (.rule .lambdaPlain), many (.rule .lambdaDefault),
        .optional (.rule .lambdaStar)], Build.item 0⟩,
      ⟨[.rule .lambdaSlashDefault, many (.rule .lambdaDefault), .optional (.rule .lambdaStar)],
        Build.item 0⟩,
      ⟨[several (.rule .lambdaPlain), many (.rule .lambdaDefault), .optional (.rule .lambdaStar)],
        Build.item 0⟩,
      ⟨[several (.rule .lambdaDefault), .optional (.rule .lambdaStar)], Build.item 0⟩,
      one (.rule .lambdaStar)]
  | .lambdaSlash => beforeColon [several (.rule .lambdaPlain), sign "/"]
  | .lambdaSlashDefault =>
    beforeColon [many (.rule .lambdaPlain), several (.rule .lambdaDefault), sign "/"]
  | .lambdaStar => [
      one (.rule .complainLambdaStar),
      ⟨[sign "*", .rule .lambdaPlain, many (.rule .lambdaMaybeDefault),
        .optional (.rule .lambdaDoubleStar)], Build.item 0⟩,
      ⟨[sign "*", sign ",", several (.rule .lambdaMaybeDefault),
        .optional (.rule .lambdaDoubleStar)], Build.item 0⟩,
      one (.rule .lambdaDoubleStar)]
  | .lambdaDoubleStar => [
      one (.rule .complainLambdaDoubleStar),
      ⟨[sign "**", .rule .lambdaPlain], Build.item 1⟩]
  | .lambdaPlain => beforeColon [.rule .lambdaName]
  | .lambdaDefault => beforeColon [.rule .lambdaName, .rule .defaultValue]
  | .lambdaMaybeDefault => beforeColon [.rule .lambdaName, .optional (.rule .defaultValue)]
  | .lambdaName => [one name]
  | .defaultValue => [
      ⟨[sign "=", .rule .expression], Build.item 1⟩,
      one (.rule .complainDefault)]
  | .texts => [
      ⟨[several (.token .text)], fun trees =>
        .texts ((trees.flatMap Tree.members).filterMap fun
          | .token token => some token
          | _ => none)⟩]
  | .tuple => [
      ⟨[sign "(", .optional (.choice [⟨[.rule .starNamedExpression, sign ",",
        .optional (.rule .starNamedExpressions)], fun
          | [first, _, others] => .built (.list (first :: others.members))
          | _ => .refused⟩]), sign ")"], fun
        | _ :: members :: _ => .built (.tuple members.members)
        | _ => .refused⟩]
  | .set => [
      ⟨[sign "\x7b", .rule .starNamedExpressions, sign "\x7d"], fun
        | _ :: members :: _ => .built (.set members.members)
        | _ => .refused⟩]
  | .dict => [
      ⟨[sign "\x7b", .optional (.rule .entries), sign "\x7d"], fun
        | _ :: found :: _ => .built (.dict found.members)
        | _ => .refused⟩,
      ⟨[sign "\x7b", .rule .complainEntries, sign "\x7d"], Build.item 0⟩]
  | .entries => [⟨[listed (.rule .entry), .optional (sign ",")], Build.item 0⟩]
  | .entry => [
      ⟨[sign "**", .rule .bitOr], fun
        | [_, value] => .built (.entry none value)
        | _ => .refused⟩,
      one (.rule .pair)]
  | .pair => [
      ⟨[.rule .expression, sign ":", .rule .expression], fun
        | [key, _, value] => .built (.entry (some key) value)
        | _ => .refused⟩]
  | .forClauses => [one (several (.rule .forClause))]
  | .forClause => [
      loop [word "async", word "for"],
      loop [word "for"],
      one (.rule .complainTarget)]
  | .setComprehension => [
      ⟨[sign "\x7b", .rule .namedExpression, .rule .forClauses, sign "\x7d"],
        Build.always .setComprehension⟩,
      one (.rule .complainComprehension)]
  | .generator => [
      ⟨[sign "(", plainArgument, .rule .forClauses, sign ")"], Build.always .generator⟩,
      one (.rule .complainComprehension)]
  | .dictComprehension => [
      ⟨[sign "\x7b", .rule .pair, .rule .forClauses, sign "\x7d"], Build.always .dictComprehension⟩,
      one (.rule .complainDictComprehension)]
  | .arguments => [
      ⟨[.rule .argumentList, .optional (sign ","), before (sign ")")], Build.item 0⟩,
      one (.rule .complainArguments)]
  | .argumentList => [
      ⟨[listed positionalArgument, .optional (run [sign ",", .rule .keywordList] 1)],
        Build.arguments⟩,
      ⟨[.rule .keywordList], Build.keywords⟩]
  | .keywordList => [
      ⟨[listed (.rule .keywordOrStarred), sign ",", listed (.rule .keywordOrDoubleStarred)],
        Build.append⟩,
      one (listed (.rule .keywordOrStarred)),
      one (listed (.rule .keywordOrDoubleStarred))]
  | .starredExpression => [⟨[sign "*", .rule .expression], Build.starred⟩]
  | .keywordOrStarred => [
      one (.rule .complainKeyword),
      ⟨[name, sign "=", .rule .expression], Build.always (.keyword true)⟩,
      one (.rule .starredExpression)]
  | .keywordOrDoubleStarred => [
      one (.rule .complainKeyword),
      ⟨[name, sign "=", .rule .expression], Build.always (.keyword true)⟩,
      ⟨[sign "**", .rule .expression], Build.always (.keyword false)⟩]
  | .targets => [
      ⟨[.rule .target, notBefore (sign ",")], Build.item 0⟩,
      ⟨[.rule .target, many (run [sign ",", .rule .target] 1), .optional (sign ",")],
        Build.tuple⟩]
  | .tupleTargets => [
      ⟨[.rule .target, several (run [sign ",", .rule .target] 1), .optional (sign ",")],
        Build.item 0⟩,
      ⟨[.rule .target, sign ","], Build.item 0⟩]
  | .target => [
      ⟨[sign "*", run [notBefore (sign "*"), .rule .target] 1], Build.starred⟩,
      one (.rule .targetAtom)]
  | .targetAtom => [
      ⟨[.rule .targetPrimary, sign ".", name, notBefore (.rule .targetAhead)], Build.attributeOf⟩,
      one (.rule .simpleTarget)]
  | .simpleTarget => [
      one name,
      ⟨[sign "(", .rule .targetAtom, sign ")"], Build.item 1⟩,
      ⟨[sign "(", .optional (.rule .tupleTargets), sign ")"], Build.always (.tuple [])⟩]
  | .targetPrimary => [
      ⟨[.rule .targetPrimary, sign ".", name, before (.rule .targetAhead)], Build.attributeOf⟩,
      ⟨[.rule .targetPrimary, .rule .generator, before (.rule .targetAhead)], Build.callWithGenerator⟩,
      ⟨[.rule .targetPrimary, sign "(", .optional (.rule .arguments), sign ")",
        before (.rule .targetAhead)], Build.call⟩,
      ⟨[.rule .atom, before (.rule .targetAhead)], Build.item 0⟩]
  | .targetAhead => [one (sign "("), one (sign ".")]
  | rule => complaints rule

end RunOnce.Expression
