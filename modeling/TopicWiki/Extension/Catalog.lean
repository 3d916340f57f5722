import TopicWiki.Extension.Filters
import TopicWiki.Extension.Links
import TopicWiki.Json.Writer
import TopicWiki.Template.Switch

namespace TopicWiki

structure ExtensionDefinition where
  name : String
  options : List (String × Json) := []

namespace ExtensionDefinition

/-- A definition is a name that is not blank, or an object with one member, from a name to an object
    of options or null. -/
def ofJson (json : Json) : Except ConfigError ExtensionDefinition :=
  let invalid : Except ConfigError ExtensionDefinition := .error (.invalidExtension json.compact)
  match json with
  | .string name =>
    match name.nonBlank? with
    | some name => .ok { name }
    | none => invalid
  | .object members =>
    match Json.sortMembers members with
    | [(name, .object options)] => .ok { name, options := Json.sortMembers options }
    | [(name, .null)] => .ok { name }
    | _ => invalid
  | _ => invalid

end ExtensionDefinition

abbrev ExtensionFactory := List (String × Json) → Building Extension

abbrev ExtensionCatalog := Dictionary ExtensionFactory

namespace ExtensionCatalog

def withoutOptions (name : String) (extension : Building Extension) : ExtensionFactory
  | [] => extension
  | (key, _) :: _ => throw (.invalidOptions name ("unknown option '" ++ key ++ "'"))

def setLinkOption (options : LinkSettings) (entry : String × Json) :
    Except ConfigError LinkSettings :=
  match entry with
  | ("icon_prefix", .string s) => .ok { options with iconPrefix := s }
  | ("icon_char", .string s) => .ok { options with iconChar := s }
  | ("icon_desc", .string s) => .ok { options with iconDescription := s }
  | ("icon_class", .string s) => .ok { options with iconClass := s }
  | ("todo_href", .string s) => .ok { options with todoHref := s }
  | ("todo_class", .string s) => .ok { options with todoClass := s }
  | (key, _) => .error (.invalidOptions "wiki" ("bad option '" ++ key ++ "'"))

def wiki : ExtensionFactory := fun options => do
  let options ← (options.foldlM setLinkOption {} : Except ConfigError LinkSettings)
  LinkHelpers.extension options

def switch : Building Extension :=
  Extension.build "switch" [.tag Template.Switch.tag]

def standard : ExtensionCatalog :=
  .ofList [("wiki", wiki), ("formatting", withoutOptions "formatting" MarkupFilters.extension),
    ("switch", withoutOptions "switch" switch)]

def build (catalog : ExtensionCatalog) (d : ExtensionDefinition) : Building Extension :=
  match catalog.find? d.name with
  | some factory => factory d.options
  | none => throw (.unknownExtension d.name)

end ExtensionCatalog

def defaultExtensions : List ExtensionDefinition :=
  [{ name := "wiki" }, { name := "formatting" }, { name := "switch" }]

end TopicWiki
