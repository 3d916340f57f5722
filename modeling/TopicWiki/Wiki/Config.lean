import TopicWiki.Config.Setting
import TopicWiki.Config.Yaml.Document
import TopicWiki.Dictionary
import TopicWiki.Error
import TopicWiki.Json.Reader
import TopicWiki.Markdown.Flavor
import TopicWiki.Wiki.Context
import TopicWiki.Wiki.Site

namespace TopicWiki

structure RendererConfig where
  format : Markup.Settings := {}
  flavor : Markdown.Flavor := .extra
  globals : Dictionary Json := {}
  context : ContextReferences := {}
  setExtensions? : Option (List Json) := none
  addExtensions? : Option (List Json) := none
  routes : LinkRoutes := {}
  outputCache : OutputCaching := .store
  autoescape : Bool := false

namespace ContextReferences

def reference? (s : Setting) : Option SelfReference :=
  s.toJson?.map .ofJson

def fields : List (Setting.Field ContextReferences) :=
  [⟨"this", fun s o => (reference? s).map fun this => { o with this }⟩,
    ⟨"parser", fun s o => (reference? s).map fun parser => { o with parser }⟩,
    ⟨"category", fun s o => (reference? s).map fun category => { o with category }⟩,
    ⟨"topic", fun s o => (reference? s).map fun topic => { o with topic }⟩]

end ContextReferences

namespace LinkRoutes

def fields : List (Setting.Field LinkRoutes) :=
  [⟨"category", fun s r => s.string?.map fun name => { r with category := name }⟩,
    ⟨"topic", fun s r => s.string?.map fun name => { r with topic := name }⟩,
    ⟨"category_placeholder",
      fun s r => s.string?.map fun name => { r with categoryPlaceholder := name }⟩,
    ⟨"topic_placeholder",
      fun s r => s.string?.map fun name => { r with topicPlaceholder := name }⟩]

end LinkRoutes

namespace RendererConfig

def primaryFormat? (s : Setting) : Option Markup.DocumentFormat :=
  s.choice? [("none", .none), ("markdown", .markdown), ("textile", .textile)]

def flavor? (s : Setting) : Option Markdown.Flavor :=
  s.choice? [("basic", .basic), ("extra", .extra), ("extended", .extended)]

def outputCache? (s : Setting) : Option OutputCaching :=
  s.choice? [("store", .store), ("external", .external)]

def globals? (s : Setting) : Option (Dictionary Json) :=
  do
    let members ← (← s.entries?).mapM fun (name, value) => value.toJson?.map fun json => (name, json)
    return .ofList members

def extensions? (s : Setting) : Option (Option (List Json)) :=
  s.optional? fun s => s.items?.bind Setting.toItems?

def fields : List (Setting.Field RendererConfig) :=
  [⟨"primary_format", fun s c => (primaryFormat? s).map fun primary =>
      { c with format := { c.format with primary } }⟩,
    ⟨"markdown_flavor", fun s c => (flavor? s).map fun flavor => { c with flavor }⟩,
    ⟨"markdown_tag", fun s c => (s.optional? Setting.string?).map fun markdownTag =>
      { c with format := { c.format with markdownTag } }⟩,
    ⟨"textile_tag", fun s c => (s.optional? Setting.string?).map fun textileTag =>
      { c with format := { c.format with textileTag } }⟩,
    ⟨"strip_blanks", fun s c => s.bool?.map fun stripBlanks =>
      { c with format := { c.format with stripBlanks } }⟩,
    ⟨"globals", fun s c => (globals? s).map fun globals => { c with globals }⟩,
    ⟨"context", fun s c => (s.record? ContextReferences.fields {}).map fun context =>
      { c with context }⟩,
    ⟨"set_extensions", fun s c => (extensions? s).map fun setExtensions? =>
      { c with setExtensions? }⟩,
    ⟨"add_extensions", fun s c => (extensions? s).map fun addExtensions? =>
      { c with addExtensions? }⟩,
    ⟨"routes", fun s c => (s.record? LinkRoutes.fields {}).map fun routes => { c with routes }⟩,
    ⟨"output_cache", fun s c => (outputCache? s).map fun outputCache => { c with outputCache }⟩,
    ⟨"autoescape", fun s c => s.bool?.map fun autoescape => { c with autoescape }⟩]

def ofSetting? (s : Setting) : Option RendererConfig :=
  s.record? fields {}

def ofJson? (json : Json) : Option RendererConfig :=
  ofSetting? (.ofJson json)

def readJson (text : String) : Except ConfigError RendererConfig :=
  match (Json.read? text).bind ofJson? with
  | some config => .ok config
  | none => .error .badJson

def readYaml (text : String) : Except ConfigError RendererConfig :=
  match (Yaml.read? text).bind ofSetting? with
  | some config => .ok config
  | none => .error .badYaml

def fileExtension? (path : String) : Option String :=
  let stem := path.toList.reverse.dropWhile (· != '.')
  if stem.length ≤ 1 then none
  else some (String.ofList (path.toList.drop stem.length)).toLower

def ofFile (path : String) (content? : Option String) : Except ConfigError RendererConfig :=
  let readWith (read : String → Except ConfigError RendererConfig) :=
    match content? with
    | some content => read content
    | none => .error (.unreadable path)
  match fileExtension? path with
  | some "yaml" | some "yml" => readWith readYaml
  | some "json" => readWith readJson
  | _ => .error (.unknownFormat path)

end RendererConfig

end TopicWiki
