import TopicWiki.Config.Yaml.Layout
import TopicWiki.Config.Yaml.Node
import TopicWiki.Config.Yaml.Scalar

namespace TopicWiki.Yaml

def maxDepth : Nat := 128

/-- The setting that a node stands for, given how deep it may be. A reference is replaced by its
    node; only so many may be, and what is beyond that or too deep cannot be read. -/
def settingOf (targets : List (Nat × Node)) : (depth : Nat) → Node → StateM Nat Setting
  | depth, node => do
    let node? ← match node with
      | .reference number =>
        let left ← get
        set (left - 1)
        pure (if left = 0 then none else targets.lookup number)
      | node => pure (some node)
    match node?, depth with
    | some (.scalar tag? style text), _ => return .scalar (readScalar tag? style text)
    | some (.list tag? items), depth + 1 =>
      return .list (variant? tag?).isNone (← items.mapM (settingOf targets depth))
    | some (.map tag? entries), depth + 1 => do
      let entries ← entries.mapM fun (key, value) => do
        let key ← settingOf targets depth key
        return (key.string?, ← settingOf targets depth value)
      return .map (variant? tag?).isNone entries
    | _, _ => return .unreadable

def Document.toSetting (d : Document) : Setting :=
  match d.root? with
  | none => .scalar (readScalar none .plain "")
  | some root => ((settingOf d.targets maxDepth root).run (100 * root.size)).1

def read? (text : String) : Option Setting := do
  let tokens ← tokens? text.toList
  let document ← Document.ofTokens? tokens
  return document.toSetting

end TopicWiki.Yaml
