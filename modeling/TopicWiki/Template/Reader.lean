import TopicWiki.Template.Lexer
import TopicWiki.Template.Node

namespace TopicWiki.Template

/-- A reader of tokens. It fails where the source is broken or holds a token that does not belong
    there, whichever comes first. -/
abbrev Reader := StateT (List Token) (Except Malformed)

namespace Reader

def refuse : Reader α :=
  throw .grammar

def peek? : Reader (Option Token) := do
  match (← get).head? with
  | some (.broken error) => throw error
  | next? => return next?

def take : Reader Token := do
  match ← peek? with
  | some token =>
    modify List.tail
    return token
  | none => refuse

def skip (token : Token) : Reader Bool := do
  if (← peek?) == some token then
    modify List.tail
    return true
  else return false

def skipSign (sign : String) : Reader Bool :=
  skip (.symbol sign)

def skipName (name : String) : Reader Bool :=
  skip (.name name)

def expect (token : Token) : Reader Unit := do
  if !(← skip token) then refuse

def expectSign (sign : String) : Reader Unit :=
  expect (.symbol sign)

def anyName : Reader String := do
  match ← take with
  | .name name => return name
  | _ => refuse

def reservedNames : List String :=
  ["true", "True", "false", "False", "none", "None", "loop", "self"]

def target : Reader String := do
  let name ← anyName
  if reservedNames.contains name then refuse
  return name

def named (name : String) : Expr :=
  if name = "true" ∨ name = "True" then .literal (.bool true)
  else if name = "false" ∨ name = "False" then .literal (.bool false)
  else if name = "none" ∨ name = "None" then .literal .none
  else .name name

def Number.value : Number → Value
  | .int n => .int n
  | .float x => .float x

def adjoined : Nat → String → Reader String
  | 0, value => return value
  | fuel + 1, value => do
    match ← peek? with
    | some (.string more) =>
      modify List.tail
      adjoined fuel (value ++ more)
    | _ => return value

def startsArgument : Token → Bool
  | .name name => !(["and", "or", "else", "is"].contains name)
  | .string _ | .number _ => true
  | .symbol sign => ["+", "-", "[", "\x7b"].contains sign
  | _ => false

def maxLevels : Nat := 150

mutual
/-- An expression, with its conditions, that may hold others nested `levels` deep; `fuel` bounds the
    reader's own calls. -/
def expr (fuel levels : Nat) : Reader Expr :=
  match fuel, levels with
  | 0, _ | _, 0 => refuse
  | fuel + 1, levels + 1 => do
    let first ← orExpr fuel levels
    choice fuel levels first

def choice (fuel levels : Nat) (then_ : Expr) : Reader Expr :=
  match fuel with
  | 0 => refuse
  | fuel + 1 => do
    if ← skipName "if" then
      let condition ← orExpr fuel levels
      if ← skipName "else" then
        let first ← orExpr fuel levels
        let else_ ← choice fuel levels first
        choice fuel levels (.choose condition then_ (some else_))
      else choice fuel levels (.choose condition then_ none)
    else return then_

def orExpr (fuel levels : Nat) : Reader Expr :=
  match fuel with
  | 0 => refuse
  | fuel + 1 => do
    let left ← andExpr fuel levels
    orTail fuel levels left

def orTail (fuel levels : Nat) (left : Expr) : Reader Expr :=
  match fuel with
  | 0 => refuse
  | fuel + 1 => do
    if ← skipName "or" then
      let right ← andExpr fuel levels
      orTail fuel levels (.or left right)
    else return left

def andExpr (fuel levels : Nat) : Reader Expr :=
  match fuel with
  | 0 => refuse
  | fuel + 1 => do
    let left ← notExpr fuel levels
    andTail fuel levels left

def andTail (fuel levels : Nat) (left : Expr) : Reader Expr :=
  match fuel with
  | 0 => refuse
  | fuel + 1 => do
    if ← skipName "and" then
      let right ← notExpr fuel levels
      andTail fuel levels (.and left right)
    else return left

def notExpr (fuel levels : Nat) : Reader Expr :=
  match fuel with
  | 0 => refuse
  | fuel + 1 => do
    if ← skipName "not" then return .not (← notExpr fuel levels)
    else
      let first ← unary fuel levels
      match ← links fuel levels with
      | [] => return first
      | links => return .compare first links

def links (fuel levels : Nat) : Reader (List (Bool × Expr)) :=
  match fuel with
  | 0 => refuse
  | fuel + 1 => do
    let equal ← skipSign "=="
    let negated ← if equal then pure false else skipSign "!="
    if equal || negated then
      let operand ← unary fuel levels
      return (negated, operand) :: (← links fuel levels)
    else return []

def unary (fuel levels : Nat) : Reader Expr :=
  match fuel with
  | 0 => refuse
  | fuel + 1 => do
    let first ← signed fuel levels
    let whole ← trailers fuel levels first
    filters fuel levels whole

def signed (fuel levels : Nat) : Reader Expr :=
  match fuel with
  | 0 => refuse
  | fuel + 1 => do
    if ← skipSign "-" then return .negate (← signed fuel levels)
    else primary fuel levels

def trailers (fuel levels : Nat) (target : Expr) : Reader Expr :=
  match fuel with
  | 0 => refuse
  | fuel + 1 => do
    if ← skipSign "." then
      match ← take with
      | .name name => trailers fuel levels (.attribute target name)
      | .number (.int n) => trailers fuel levels (.item target (.literal (.int n)))
      | _ => refuse
    else if ← skipSign "[" then
      let key ← expr fuel levels
      expectSign "]"
      trailers fuel levels (.item target key)
    else if ← skipSign "(" then
      let arguments ← exprs fuel levels ")"
      trailers fuel levels (.call target arguments)
    else return target

def filters (fuel levels : Nat) (input : Expr) : Reader Expr :=
  match fuel with
  | 0 => refuse
  | fuel + 1 => do
    if ← skipSign "|" then
      let name ← anyName
      let arguments ← if ← skipSign "(" then exprs fuel levels ")" else pure []
      filters fuel levels (.filter input name arguments)
    else if ← skipName "is" then
      let negated ← skipName "not"
      let name ← anyName
      let arguments ←
        if ← skipSign "(" then exprs fuel levels ")"
        else if (← peek?).any startsArgument then
          let first ← signed fuel levels
          let argument ← trailers fuel levels first
          pure [argument]
        else pure []
      filters fuel levels (.test input name arguments negated)
    else return input

def exprs (fuel levels : Nat) (close : String) : Reader (List Expr) :=
  match fuel with
  | 0 => refuse
  | fuel + 1 => do
    if ← skipSign close then return []
    let first ← expr fuel levels
    if ← skipSign "," then
      let rest ← exprs fuel levels close
      return first :: rest
    expectSign close
    return [first]

def entries (fuel levels : Nat) : Reader (List (Expr × Expr)) :=
  match fuel with
  | 0 => refuse
  | fuel + 1 => do
    if ← skipSign "\x7d" then return []
    let key ← expr fuel levels
    expectSign ":"
    let value ← expr fuel levels
    if ← skipSign "," then
      let rest ← entries fuel levels
      return (key, value) :: rest
    expectSign "\x7d"
    return [(key, value)]

def primary (fuel levels : Nat) : Reader Expr :=
  match fuel, levels with
  | 0, _ | _, 0 => refuse
  | fuel + 1, levels + 1 => do
    match ← take with
    | .name name => return named name
    | .string s => return .literal (.plain (← adjoined fuel s))
    | .number n => return .literal (Number.value n)
    | .symbol "[" => return .list (← exprs fuel levels "]")
    | .symbol "\x7b" => return .map (← entries fuel levels)
    | .symbol "(" =>
      if ← skipSign ")" then return .list []
      let first ← expr fuel levels
      if ← skipSign "," then
        let rest ← exprs fuel levels ")"
        return .list (first :: rest)
      expectSign ")"
      return first
    | _ => refuse
end

def callBound : Reader Nat := do
  return 16 * ((← get).length + 1)

def expression (levels : Nat) : Reader Expr := do
  expr (← callBound) levels

def unconditional (levels : Nat) : Reader Expr := do
  orExpr (← callBound) levels

def bindings (levels : Nat) : Nat → Reader (List (String × Expr))
  | 0 => refuse
  | fuel + 1 => do
    let name ← target
    expectSign "="
    let value ← expression levels
    if (← peek?) == some .closeBlock then return [(name, value)]
    expectSign ","
    return (name, value) :: (← bindings levels fuel)

/-- The words about the variables that an included template sees: it sees them all in any case. -/
def contextWords : Reader Unit := do
  if (← skipName "with") || (← skipName "without") then expect (.name "context")

mutual
def statement (levels steps : Nat) : Reader Node :=
  match levels, steps with
  | 0, _ | _, 0 => refuse
  | levels + 1, steps + 1 => do
    match ← anyName with
    | "if" => conditional levels steps
    | "for" => do
      let name ← target
      expect (.name "in")
      let items ← unconditional levels
      expect .closeBlock
      let body ← nodes levels steps ["endfor", "else"]
      let else_ ←
        if ← skipName "else" then
          expect .closeBlock
          nodes levels steps ["endfor"]
        else pure []
      expect (.name "endfor")
      return .forIn name items body else_
    | "set" => do
      let name ← target
      expectSign "="
      return .assign name (← expression levels)
    | "with" => do
      let bound ←
        if (← peek?) == some .closeBlock then pure []
        else bindings levels ((← get).length + 1)
      expect .closeBlock
      let body ← nodes levels steps ["endwith"]
      expect (.name "endwith")
      return .withNames bound body
    | "include" => do
      let template ← expression levels
      contextWords
      -- No template is ever missing: what cannot be resolved is an error of its own.
      if ← skipName "ignore" then
        expect (.name "missing")
        contextWords
      return .insert template
    | "extends" => return .extend (← expression levels)
    | "block" => do
      let name ← anyName
      expect .closeBlock
      let body ← nodes levels steps ["endblock"]
      expect (.name "endblock")
      match ← peek? with
      | some (.name other) => if other = name then modify List.tail else refuse
      | _ => pure ()
      return .block name body
    | _ => refuse

def conditional (levels steps : Nat) : Reader Node :=
  match steps with
  | 0 => refuse
  | steps + 1 => do
    let condition ← unconditional levels
    expect .closeBlock
    let then_ ← nodes levels steps ["endif", "else", "elif"]
    if ← skipName "elif" then
      let next ← conditional levels steps
      return .ifElse condition then_ [next]
    else if ← skipName "else" then
      expect .closeBlock
      let else_ ← nodes levels steps ["endif"]
      expect (.name "endif")
      return .ifElse condition then_ else_
    else
      expect (.name "endif")
      return .ifElse condition then_ []

def nodes (levels steps : Nat) (stops : List String) : Reader (List Node) :=
  match steps with
  | 0 => refuse
  | steps + 1 => do
    match ← peek? with
    | none => if stops.isEmpty then return [] else refuse
    | some (.text source) =>
      modify List.tail
      return .text source :: (← nodes levels steps stops)
    | some .openPrint =>
      modify List.tail
      let value ← expression levels
      expect .closePrint
      return .print value :: (← nodes levels steps stops)
    | some .openBlock =>
      modify List.tail
      let stopped := match ← peek? with
        | some (.name keyword) => stops.contains keyword
        | _ => false
      if stopped then return []
      let node ← statement levels steps
      expect .closeBlock
      return node :: (← nodes levels steps stops)
    | some _ => refuse
end

end Reader

def distinctBlocks (nodes : List Node) : Bool :=
  let names := (blocksOf nodes).map Prod.fst
  names.eraseDups.length == names.length

/-- Reads a template source. This is the part of the language of the engine that wiki texts are
    written in: texts, prints, `if`, `for`, `set`, `with`, `include`, `extends` and `block`, with
    expressions of literals, names, members, calls, filters, tests, `not`, `and`, `or`, `if` and
    equality. A source is refused for anything that the engine has besides: `macro`, `call`, `import`
    and `from`; `filter`, `autoescape` and `do`; `set` with a body; targets of several names; a `for`
    with a condition or a recursive one; arithmetic, joining by a tilde, order and membership
    comparisons, slices, and arguments by name. A loop has no variable `loop`. -/
def read (source : String) : Except Malformed (List Node) := do
  let tokens := lex source
  let (nodes, _) ← (Reader.nodes Reader.maxLevels (2 * tokens.length + 2) []).run tokens
  if distinctBlocks nodes then return nodes else throw .grammar

end TopicWiki.Template
