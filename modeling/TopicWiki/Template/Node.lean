import TopicWiki.Value

namespace TopicWiki.Template

inductive Expr where
  | literal (value : Value)
  | name (name : String)
  | attribute (target : Expr) (name : String)
  | item (target key : Expr)
  | call (callee : Expr) (arguments : List Expr)
  | filter (input : Expr) (name : String) (arguments : List Expr)
  | test (input : Expr) (name : String) (arguments : List Expr) (negated : Bool)
  | choose (condition then_ : Expr) (else_ : Option Expr)
  /-- Each operand is compared with the one before it, for equality or, if the link is negated, for
      difference. -/
  | compare (first : Expr) (links : List (Bool × Expr))
  | or (left right : Expr)
  | and (left right : Expr)
  | not (operand : Expr)
  | negate (operand : Expr)
  | list (items : List Expr)
  | map (entries : List (Expr × Expr))

inductive Node where
  | text (source : String)
  | print (value : Expr)
  | ifElse (condition : Expr) (then_ else_ : List Node)
  | forIn (target : String) (items : Expr) (body else_ : List Node)
  | assign (target : String) (value : Expr)
  | withNames (bindings : List (String × Expr)) (body : List Node)
  | insert (template : Expr)
  | extend (template : Expr)
  | block (name : String) (body : List Node)

mutual
def Node.blocks : Node → List (String × List Node)
  | .ifElse _ then_ else_ => blocksOf then_ ++ blocksOf else_
  | .forIn _ _ body else_ => blocksOf body ++ blocksOf else_
  | .withNames _ body => blocksOf body
  | .block name body => (name, body) :: blocksOf body
  | _ => []

def blocksOf : List Node → List (String × List Node)
  | [] => []
  | node :: rest => node.blocks ++ blocksOf rest
end

end TopicWiki.Template
