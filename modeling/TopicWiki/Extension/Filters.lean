import TopicWiki.Extension.Basic

namespace TopicWiki.MarkupFilters

def filterWith (converter : Site → Markup.Converter Id) : Handler := fun site arguments => do
  let render ← site.requireRender
  let text ← Value.requiredText (← get) arguments 0 "text"
  return .safe ((converter render.site).convert text)

def registrations : List Registration :=
  let inRender : CallRules := { safety := .all, needsContext := true }
  [.callable .filter "markdown" inRender (some (filterWith fun site => site.converters.markdown)),
    .callable .filter "textile" inRender (some (filterWith fun site => site.converters.textile))]

def extension : Building Extension :=
  Extension.build "formatting" registrations

end TopicWiki.MarkupFilters
