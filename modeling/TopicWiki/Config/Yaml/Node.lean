import TopicWiki.Config.Yaml.Token

namespace TopicWiki.Yaml

/-- The content of a document. A reference stands for the node that bears its number. -/
inductive Node where
  | reference (number : Nat)
  | scalar (tag? : Option String) (style : Style) (text : String)
  | list (tag? : Option String) (items : List Node)
  | map (tag? : Option String) (entries : List (Node × Node))
  deriving Inhabited

namespace Node

def omitted : Node :=
  .scalar none .plain ""

mutual
def size : Node → Nat
  | .reference _ | .scalar _ _ _ => 1
  | .list _ items => 2 + sizeAll items
  | .map _ entries => 2 + sizeEntries entries

def sizeAll : List Node → Nat
  | [] => 0
  | node :: rest => size node + sizeAll rest

def sizeEntries : List (Node × Node) → Nat
  | [] => 0
  | (key, value) :: rest => size key + size value + sizeEntries rest
end

end Node

structure Reading where
  tokens : List Token
  handles : List (List Char × List Char)
  numbers : List (List Char × Nat) := []
  targets : List (Nat × Node) := []

abbrev Reader :=
  StateT Reading Option

namespace Reader

def peek? : Reader (Option Token) := do
  return (← get).tokens.head?

def drop : Reader Unit :=
  modify fun r => { r with tokens := r.tokens.tail }

def fail : Reader α :=
  fun _ => none

def expect (token : Token) : Reader Unit := do
  if (← peek?) = some token then drop else fail

def atAny (tokens : List Token) : Reader Bool := do
  return (← peek?).any tokens.contains

/-- The number of a new anchor: how many names have one. A name that gets another number keeps the
    old one from counting twice. -/
def number (name : List Char) : Reader Nat := do
  let r ← get
  let others := r.numbers.filter fun entry => entry.1 != name
  let number := r.numbers.length
  set { r with numbers := (name, number) :: others }
  return number

/-- Notes the node of an anchor, unless one of the anchors in it has the same number. The anchors
    before it are `known`. -/
def bind (number known : Nat) (node : Node) : Reader Unit :=
  modify fun r =>
    let inner := r.targets.take (r.targets.length - known)
    if inner.any fun entry => entry.1 = number then r
    else { r with targets := (number, node) :: r.targets }

def readAnchor? : Reader (Option (List Char)) := do
  match ← peek? with
  | some (.anchor name) =>
    drop
    return some name
  | _ => return none

def readTag? : Reader (Option String) := do
  match ← peek? with
  | some (.tag handle suffix) =>
    drop
    let r ← get
    if handle.isEmpty then return some (String.ofList suffix)
    match r.handles.lookup handle with
    | some expansion => return some (String.ofList (expansion ++ suffix))
    | none => fail
  | _ => return none

def readProperties : Reader (Option (List Char) × Option String) := do
  let anchor? ← readAnchor?
  let tag? ← readTag?
  let anchor? ← if anchor?.isNone && tag?.isSome then readAnchor? else pure anchor?
  return (anchor?, tag?)

def afterEntry : List Token :=
  [.key, .value, .blockEnd]

mutual
/-- Reads a node, in at most `most` nested steps. Blocks may be `allowed`, and lists whose dashes
    are not indented further than the keys around them may be `flat`. -/
def readNode : (most : Nat) → (allowed flat : Bool) → Reader Node
  | 0, _, _ => fail
  | most + 1, allowed, flat => do
    match ← peek? with
    | some (.alias name) =>
      drop
      match (← get).numbers.lookup name with
      | some number => return .reference number
      | none => fail
    | _ =>
      let (anchor?, tag?) ← readProperties
      let number? ← anchor?.mapM number
      let known := (← get).targets.length
      let node ← readContent most allowed flat (anchor?.isSome || tag?.isSome) tag?
      match number? with
      | some number => bind number known node
      | none => pure ()
      return node

def readContent : (most : Nat) → (allowed flat hasProperties : Bool) → Option String → Reader Node
  | 0, _, _, _, _ => fail
  | most + 1, allowed, flat, hasProperties, tag? => do
    match ← peek? with
    | some (.scalar style text) =>
      drop
      return .scalar tag? style (String.ofList text)
    | some .openBracket =>
      drop
      return .list tag? (← readFlowItems most true)
    | some .openBrace =>
      drop
      return .map tag? (← readFlowEntries most true)
    | token? =>
      if flat && token? = some .dash then return .list tag? (← readFlatItems most)
      else if allowed && token? = some .blockList then
        drop
        return .list tag? (← readItems most)
      else if allowed && token? = some .blockMap then
        drop
        return .map tag? (← readEntries most)
      else if hasProperties then return .scalar tag? .plain ""
      else fail

def readNodeBefore : (most : Nat) → (allowed flat : Bool) → List Token → Reader Node
  | 0, _, _, _ => fail
  | most + 1, allowed, flat, tokens => do
    if ← atAny tokens then return .omitted else readNode most allowed flat

def readItems : (most : Nat) → Reader (List Node)
  | 0 => fail
  | most + 1 => do
    match ← peek? with
    | some .dash =>
      drop
      let item ← readNodeBefore most true false [.dash, .blockEnd]
      return item :: (← readItems most)
    | some .blockEnd =>
      drop
      return []
    | _ => fail

def readFlatItems : (most : Nat) → Reader (List Node)
  | 0 => fail
  | most + 1 => do
    match ← peek? with
    | some .dash =>
      drop
      let item ← readNodeBefore most true false (.dash :: afterEntry)
      return item :: (← readFlatItems most)
    | _ => return []

def readEntries : (most : Nat) → Reader (List (Node × Node))
  | 0 => fail
  | most + 1 => do
    match ← peek? with
    | some .key =>
      drop
      let key ← readNodeBefore most true true afterEntry
      let value ←
        if (← peek?) = some .value then
          drop
          readNodeBefore most true true afterEntry
        else pure .omitted
      return (key, value) :: (← readEntries most)
    | some .blockEnd =>
      drop
      return []
    | _ => fail

def readFlowItems : (most : Nat) → (isFirst : Bool) → Reader (List Node)
  | 0, _ => fail
  | most + 1, isFirst => do
    if (← peek?) = some .closeBracket then
      drop
      return []
    if !isFirst then expect .comma
    match ← peek? with
    | some .closeBracket =>
      drop
      return []
    | some .key =>
      drop
      let item ← readFlowPair most
      return item :: (← readFlowItems most false)
    | _ =>
      let item ← readNode most false false
      return item :: (← readFlowItems most false)

/-- Reads a pair among the items of a list. If the key is left out, the token behind it is too. -/
def readFlowPair : (most : Nat) → Reader Node
  | 0 => fail
  | most + 1 => do
    let key ←
      if ← atAny [.value, .comma, .closeBracket] then
        drop
        pure .omitted
      else readNode most false false
    let value ←
      if (← peek?) = some .value then
        drop
        readNodeBefore most false false [.comma, .closeBracket]
      else pure .omitted
    return .map none [(key, value)]

def readFlowEntries : (most : Nat) → (isFirst : Bool) → Reader (List (Node × Node))
  | 0, _ => fail
  | most + 1, isFirst => do
    if (← peek?) = some .closeBrace then
      drop
      return []
    if !isFirst then expect .comma
    match ← peek? with
    | some .closeBrace =>
      drop
      return []
    | some .key =>
      drop
      let key ← readNodeBefore most false false [.value, .comma, .closeBrace]
      let value ←
        if (← peek?) = some .value then
          drop
          readNodeBefore most false false [.comma, .closeBrace]
        else pure .omitted
      return (key, value) :: (← readFlowEntries most false)
    | _ =>
      let key ← readNode most false false
      return (key, .omitted) :: (← readFlowEntries most false)
end

def readDirectives : (most : Nat) → (versioned : Bool) → Reader Unit
  | 0, _ => fail
  | most + 1, versioned => do
    match ← peek? with
    | some (.version major minor) =>
      if versioned || major != 1 || (minor != 1 && minor != 2) then fail
      drop
      readDirectives most true
    | some (.handle name expansion) =>
      let r ← get
      if (r.handles.lookup name).isSome then fail
      set { r with handles := (name, expansion) :: r.handles }
      drop
      readDirectives most versioned
    | _ => return ()

def standardHandles : List (List Char × List Char) :=
  [(['!'], ['!']), (['!', '!'], "tag:yaml.org,2002:".toList)]

def startsDocument : Token → Bool
  | .version _ _ | .handle _ _ | .documentStart => true
  | _ => false

def readDocument (most : Nat) : Reader (Option Node) := do
  match ← peek? with
  | none => return none
  | some token =>
    if startsDocument token then
      readDirectives most false
      expect .documentStart
    modify fun r => { r with handles := r.handles ++ standardHandles }
    match ← peek? with
    | none => return some .omitted
    | some next =>
      if startsDocument token && (startsDocument next || next = .documentEnd) then
        return some .omitted
      else return some (← readNode most true false)

end Reader

structure Document where
  root? : Option Node
  targets : List (Nat × Node)

def Document.ofTokens? (tokens : List Token) : Option Document := do
  let (root?, r) ← (Reader.readDocument (4 * tokens.length + 8)).run { tokens, handles := [] }
  guard (r.tokens.all (· = .documentEnd))
  return ⟨root?, r.targets⟩

end TopicWiki.Yaml
