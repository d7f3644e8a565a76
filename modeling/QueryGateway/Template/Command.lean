import QueryGateway.Template.Failure
import QueryGateway.Text.Split

/-!
# Reading commands

A command is a literal, a parenthesized pipeline or a helper with its
arguments, and a pipeline passes the value of a command as the last argument
of the helper after each bar. The readers take tokens and give an expression
with the tokens that are left.
-/

namespace QueryGateway.Template

/-- The helper that a name in an action stands for. A leading dot does not count. -/
def helperNamed (name : String) : Except Failure Helper :=
  let bare := (Text.dropPrefix? ['.'] name.toList).getD name.toList
  match Helper.named? (String.ofList bare) with
  | some helper => .ok helper
  | none => .error (.notDefined name)

/-- The call of a helper with arguments. -/
def callWith (helper : Helper) (arguments : List Expression) : Except Failure Expression :=
  match helper.call? arguments with
  | some e => .ok e
  | none => .error (.argumentCount helper arguments.length)

mutual

/-- A pipeline. The fuel bounds the number of calls here and below. -/
def readPipeline : Nat → List Token → Except Failure (Expression × List Token)
  | 0, _ => .error .missingValue
  | fuel + 1, tokens => do
    let (e, rest) ← readCommand fuel tokens
    readBars fuel e rest

/-- The helpers after the bars of a pipeline, with the value so far. -/
def readBars : Nat → Expression → List Token → Except Failure (Expression × List Token)
  | 0, _, _ => .error .missingValue
  | fuel + 1, e, .bar :: tokens =>
    match tokens with
    | .name name :: rest => do
      let helper ← helperNamed name
      let (arguments, rest) ← readArguments fuel rest
      readBars fuel (← callWith helper (arguments ++ [e])) rest
    | rest => .error (.noFunction rest.head?)
  | _ + 1, e, tokens => .ok (e, tokens)

/-- A command. -/
def readCommand : Nat → List Token → Except Failure (Expression × List Token)
  | 0, _ => .error .missingValue
  | _ + 1, .literal s :: rest => .ok (.text s, rest)
  | fuel + 1, .opening :: rest => readGroup fuel rest
  | fuel + 1, .name name :: rest => do
    let helper ← helperNamed name
    let (arguments, rest) ← readArguments fuel rest
    .ok (← callWith helper arguments, rest)
  | _ + 1, tokens => .error (.noCommand tokens.head?)

/-- A pipeline and the parenthesis that closes it. -/
def readGroup : Nat → List Token → Except Failure (Expression × List Token)
  | 0, _ => .error .missingValue
  | fuel + 1, tokens => do
    let (e, rest) ← readPipeline fuel tokens
    match rest with
    | .closing :: rest => .ok (e, rest)
    | rest => .error (.noClosing rest.head?)

/-- The arguments of a helper: literals and parenthesized pipelines. -/
def readArguments : Nat → List Token → Except Failure (List Expression × List Token)
  | 0, _ => .error .missingValue
  | fuel + 1, .literal s :: rest => do
    let (others, rest) ← readArguments fuel rest
    .ok (.text s :: others, rest)
  | fuel + 1, .opening :: rest => do
    let (e, rest) ← readGroup fuel rest
    let (others, rest) ← readArguments fuel rest
    .ok (e :: others, rest)
  | _ + 1, .name name :: _ => .error (.bareArgument name)
  | _ + 1, tokens => .ok ([], tokens)

end

/-- A number of calls that is enough for some tokens. -/
def enoughFuel (tokens : List Token) : Nat := 3 * tokens.length + 3

/-- The expression of a sequence of tokens. -/
def readExpression (tokens : List Token) : Except Failure Expression :=
  if tokens.isEmpty then .error .missingValue
  else
    match readPipeline (enoughFuel tokens) tokens with
    | .error e => .error e
    | .ok (e, []) => .ok e
    | .ok (_, token :: _) => .error (.leftover token)

end QueryGateway.Template
