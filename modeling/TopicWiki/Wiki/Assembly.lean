import TopicWiki.Extension.Catalog
import TopicWiki.Markdown.Document
import TopicWiki.Textile.Document
import TopicWiki.Value.Json
import TopicWiki.Wiki.Config
import TopicWiki.Wiki.Renderer

namespace TopicWiki

/-- What a renderer is built from. Without an engine or converters, the configuration decides. -/
structure RendererParts where
  config : RendererConfig := {}
  controller? : Option Controller := none
  store? : Option Store := none
  engine? : Option Engine := none
  converters? : Option (Markup.Converters Id) := none
  catalog : ExtensionCatalog := .standard
  extensions? : Option (List Extension) := none
  extra : List Extension := []
  stackRoom : Nat := 512

namespace RendererConfig

def extensionDefinitions (c : RendererConfig) : Except ConfigError (List ExtensionDefinition) := do
  let first ← match c.setExtensions? with
    | some values => values.mapM ExtensionDefinition.ofJson
    | none => pure defaultExtensions
  let added ← (c.addExtensions?.getD []).mapM ExtensionDefinition.ofJson
  return first ++ added

def converters (c : RendererConfig) : Markup.Converters Id where
  markdown := ⟨"markdown", Markdown.toHtml c.flavor⟩
  textile := ⟨"textile", Textile.toHtml {}⟩

end RendererConfig

namespace RendererParts

/-- Puts an extension behind the others, or in the place of the one of its name. -/
def addExtension (table : List Extension) (extension : Extension) : List Extension :=
  if table.any fun e => e.name = extension.name then
    table.map fun e => if e.name = extension.name then extension else e
  else table ++ [extension]

def chosenExtensions (parts : RendererParts) : Building (List Extension) := do
  let definitions ← parts.config.extensionDefinitions
  let chosen ← match parts.extensions? with
    | some extensions => pure extensions
    | none => definitions.mapM parts.catalog.build
  return chosen ++ parts.extra

def buildNotice (c : RendererConfig) (table : List Extension) : String :=
  "built parser: format=" ++ c.format.primary.label ++ ", extensions=[" ++
    ", ".intercalate (table.map Extension.name) ++ "]"

/-- Builds a renderer, with the state that it starts in. All extensions are installed, also those that
    others of the same name replace in the table. -/
def build (parts : RendererParts) : Building (Renderer × State) := do
  let controller ← (parts.controller?.getDM (throw .missingController) : Except ConfigError Controller)
  let store ← (parts.store?.getDM (throw .missingCategories) : Except ConfigError Store)
  let extensions ← parts.chosenExtensions
  let bare := (parts.engine?.getD { autoescape := parts.config.autoescape }).attachLoader
  let engine ← (extensions.foldlM Engine.install bare : Except ConfigError Engine)
  let table := extensions.foldl addExtension []
  modify fun log => ⟨.debug, buildNotice parts.config table⟩ :: log
  let renderer : Renderer :=
    { site :=
        { controller
          routes := parts.config.routes
          converters := parts.converters?.getD parts.config.converters }
      engine
      extensions := table
      globals := parts.config.globals.map Value.ofJson
      context := parts.config.context
      outputCache := parts.config.outputCache
      defaults := parts.config.format
      stackRoom := parts.stackRoom }
  return (renderer, { store, format := parts.config.format })

end RendererParts

end TopicWiki
