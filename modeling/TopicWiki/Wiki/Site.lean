import TopicWiki.Markup.Stages
import TopicWiki.Wiki.Controller

namespace TopicWiki

structure LinkRoutes where
  category : String := "wiki_get_category"
  topic : String := "wiki_get_topic"
  categoryPlaceholder : String := "category"
  topicPlaceholder : String := "topic"
  deriving DecidableEq, Repr

/-- Who writes rendered documents into the cache: the renderer, or the application around it. -/
inductive OutputCaching where
  | store
  | external
  deriving DecidableEq, Repr

structure Site where
  controller : Controller
  routes : LinkRoutes
  converters : Markup.Converters Id

end TopicWiki
