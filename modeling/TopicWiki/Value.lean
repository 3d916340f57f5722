import TopicWiki.Decimal.Shortest

namespace TopicWiki

structure CategoryId where
  index : Nat
  deriving DecidableEq, Repr

structure TopicId where
  index : Nat
  deriving DecidableEq, Repr

structure ElementId where
  index : Nat
  deriving DecidableEq, Repr

/-- The topic and the category of one render, and the names of the documents that are being rendered
    around it, the outermost first. -/
structure RenderScope where
  topic : TopicId
  category : CategoryId
  stack : List String := []
  deriving DecidableEq, Repr

def RenderScope.entered (scope : RenderScope) (name : String) : RenderScope :=
  { scope with stack := scope.stack ++ [name] }

inductive View where
  | topic (id : TopicId)
  | category (id : CategoryId)
  | renderer
  | scope (scope : RenderScope)
  | element (id : ElementId)
  | function (name : String)
  deriving DecidableEq, Repr

/-- The renderer and functions are no data: they differ from all other views. -/
def View.shape : View → Nat
  | .renderer => 1
  | .function _ => 2
  | _ => 0

/-- A value of the template language. Text marked safe is not escaped when it is printed. -/
inductive Value where
  | undefined
  | none
  | bool (value : Bool)
  | int (value : Int)
  | float (value : Float)
  | text (value : String) (safe : Bool)
  | list (items : List Value)
  | map (entries : List (Value × Value))
  | view (view : View)
  deriving Repr

namespace Value

instance : Inhabited Value := ⟨.undefined⟩

def plain (s : String) : Value := .text s false

def safe (s : String) : Value := .text s true

def ofOption (f : α → Value) : Option α → Value
  | some a => f a
  | Option.none => .none

def string? : Value → Option String
  | .text s _ => some s
  | _ => Option.none

def isSafe : Value → Bool
  | .text _ safe => safe
  | _ => false

def markSafe : Value → Value
  | .text s _ => .text s true
  | v => v

def isUndefined : Value → Bool
  | .undefined => true
  | _ => false

def isNone : Value → Bool
  | .none => true
  | _ => false

def isAbsent (v : Value) : Bool :=
  v.isUndefined || v.isNone

def isTrue : Value → Bool
  | .undefined | .none => false
  | .bool b => b
  | .int n => n != 0
  | .float x => x != 0.0
  | .text s _ => !s.isEmpty
  | .list items => !items.isEmpty
  | .map entries => !entries.isEmpty
  | .view _ => true

def kind : Value → String
  | .undefined => "undefined"
  | .none => "none"
  | .bool _ => "bool"
  | .int _ | .float _ => "number"
  | .text _ _ => "string"
  | .list _ => "sequence"
  | .map _ => "map"
  | .view _ => "plain object"

def int? : Value → Option Int
  | .bool b => some b.toNat
  | .int n => some n
  | .float x => Decimal.wholeValue? x
  | _ => Option.none

def number? : Value → Option Float
  | .bool b => some (if b then 1.0 else 0.0)
  | .int n => some (Float.ofInt n)
  | .float x => some x
  | _ => Option.none

def rank : Value → Nat
  | .undefined => 0
  | .none => 1
  | .bool _ => 2
  | .int _ | .float _ => 3
  | .text _ _ => 4
  | .list _ => 5
  | .map _ => 6
  | .view _ => 7

section

-- An order of views, by which templates also take two of them for the same.
variable (order : View → View → Ordering)

def compareLeaf (a b : Value) : Ordering :=
  match a, b with
  | .bool b, .bool c => compare b c
  | .int m, .int n => compare m n
  | .text s _, .text t _ => compare s t
  | .view v, .view w => order v w
  | _, _ =>
    match a.number?, b.number? with
    | some x, some y => compare (Decimal.totalRank x) (Decimal.totalRank y)
    | _, _ => .eq

mutual
/-- The order of values, by which a map keeps its keys: first by kind, then numbers by size, text by
    its characters, lists item by item. -/
def compareKeys : Value → Value → Ordering
  | .list xs, .list ys => compareItems xs ys
  | .map xs, .map ys => compareEntries xs ys
  | a, b => (compare a.rank b.rank).then (compareLeaf order a b)

def compareItems : List Value → List Value → Ordering
  | [], [] => .eq
  | [], _ :: _ => .lt
  | _ :: _, [] => .gt
  | x :: xs, y :: ys => (compareKeys x y).then (compareItems xs ys)

def compareEntries : List (Value × Value) → List (Value × Value) → Ordering
  | [], [] => .eq
  | [], _ :: _ => .lt
  | _ :: _, [] => .gt
  | (j, x) :: xs, (k, y) :: ys =>
    ((compareKeys j k).then (compareKeys x y)).then (compareEntries xs ys)
end

def entry? (key : Value) (entries : List (Value × Value)) : Option Value :=
  (entries.find? fun entry => compareKeys order key entry.1 == .eq).map Prod.snd

def putEntry (key value : Value) : List (Value × Value) → List (Value × Value)
  | [] => [(key, value)]
  | (k, v) :: rest =>
    match compareKeys order key k with
    | .lt => (key, value) :: (k, v) :: rest
    | .eq => (k, value) :: rest
    | .gt => (k, v) :: putEntry key value rest

def ofEntries (entries : List (Value × Value)) : Value :=
  .map (entries.foldl (fun sorted entry => putEntry order entry.1 entry.2 sorted) [])

/-- Whether a whole number and a double are the same. The greatest unsigned numbers of 64 and of 128
    bits are taken for the power of two above them. -/
def sameNumber (n : Int) (x : Float) : Bool :=
  match Decimal.wholeValue? x with
  | some m => m == n || (m == n + 1 && (m == Nat.pow 2 64 || m == Nat.pow 2 128))
  | Option.none => false

def sameLeaf (a b : Value) : Bool :=
  match a, b with
  | .undefined, .undefined | .none, .none => true
  | .text s _, .text t _ => s == t
  | .view v, .view w => order v w == .eq
  | .float x, .float y => x == y
  | .float x, b => (b.int?.map (sameNumber · x)).getD false
  | a, .float y => (a.int?.map (sameNumber · y)).getD false
  | _, _ =>
    match a.int?, b.int? with
    | some m, some n => m == n
    | _, _ => false

mutual
/-- Equality in the template language: text by its characters, numbers by their value, truth values
    as numbers. Two maps are the same if they are of one size and each value is the same as the other
    map's value of its key. -/
def same : Value → Value → Bool
  | .list xs, .list ys => sameItems xs ys
  | .map xs, .map ys => xs.length == ys.length && sameEntries xs ys
  | a, b => sameLeaf order a b

def sameItems : List Value → List Value → Bool
  | [], [] => true
  | x :: xs, y :: ys => same x y && sameItems xs ys
  | _, _ => false

def sameEntries : List (Value × Value) → List (Value × Value) → Bool
  | [], _ => true
  | (key, x) :: xs, others =>
    match entry? order key others with
    | some y => same x y && sameEntries xs others
    | Option.none => false
end

end

/-- An item; a negative index counts from the end. -/
def itemAt? (items : List α) (index : Int) : Option α :=
  if 0 ≤ index then items[index.toNat]?
  else if index.natAbs ≤ items.length then items[items.length - index.natAbs]?
  else Option.none

def length? : Value → Option Nat
  | .text s _ => some s.length
  | .list items => some items.length
  | .map entries => some entries.length
  | _ => Option.none

def items? : Value → Option (List Value)
  | .undefined | .none => some []
  | .text s _ => some (s.toList.map fun c => .plain (String.singleton c))
  | .list items => some items
  | .map entries => some (entries.map Prod.fst)
  | _ => Option.none

end Value

end TopicWiki
