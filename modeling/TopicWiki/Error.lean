import TopicWiki.Content.Policy
import TopicWiki.Name
import TopicWiki.Template.Tag

namespace TopicWiki

inductive LoaderError where
  | unknownCategory (name : String)
  | malformedName (name : String)
  | unreadable (name reason : String)
  deriving DecidableEq, Repr

def LoaderError.message : LoaderError → String
  | .unknownCategory name => "Invalid category specified in path: " ++ name
  | .malformedName name => "Malformed document name: " ++ name
  | .unreadable name reason => "Failed to load include '" ++ name ++ "': " ++ reason

inductive ConfigError where
  | missingController
  | missingCategories
  | unknownExtension (name : String)
  | invalidExtension (definition : String)
  | invalidOptions (extension reason : String)
  | missingHandler (kind name : String)
  | unsupported (feature name : String)
  | noLoader
  | unreadable (path : String)
  | badYaml
  | badJson
  | unknownFormat (path : String)
  deriving DecidableEq, Repr

def ConfigError.message : ConfigError → String
  | .missingController => "No controller provided to the parser"
  | .missingCategories => "No categories model provided to the parser"
  | .unknownExtension name => "Unknown extension '" ++ name ++ "'"
  | .invalidExtension definition => "Invalid extension definition: " ++ definition
  | .invalidOptions extension reason =>
    "Invalid options for extension '" ++ extension ++ "': " ++ reason
  | .missingHandler kind name => "No handler set for " ++ kind ++ " '" ++ name ++ "'"
  | .unsupported feature name =>
    "Template engine does not support " ++ feature ++ " ('" ++ name ++ "')"
  | .noLoader => "Template engine has no loader attached"
  | .unreadable path => "Failed to read config '" ++ path ++ "'"
  | .badYaml => "Invalid YAML config"
  | .badJson => "Invalid JSON config"
  | .unknownFormat path =>
    "Unsupported config format for '" ++ path ++ "' (expected .yaml, .yml or .json)"

inductive EngineErrorKind where
  | missingArgument
  | tooManyArguments
  | unknownMethod
  | unknownFunction
  | unknownFilter
  | unknownTest
  | invalidOperation
  | undefinedError
  | syntaxError
  | badEscape
  | badInclude
  deriving DecidableEq, Repr

mutual
inductive EngineError where
  | mk (kind : EngineErrorKind) (detail? : Option String) (cause? : Option Cause)

inductive Cause where
  | loader (error : LoaderError)
  | tag (error : Template.TagError)
  | engine (error : EngineError)
  | render (error : RenderError)

inductive RenderError where
  | config (error : ConfigError)
  | identity (error : IdentityError)
  | loader (error : LoaderError)
  | content (error : ContentError)
  | missingCategory (topic : String)
  | template (error : EngineError)
  | tag (error : Template.TagError)
  | cycle (name : String)
  | depth (name : String) (limit : Nat)
  /-- Renders nested without end, or deeper than the stack has room for. -/
  | endless
end

namespace EngineError

def kind : EngineError → EngineErrorKind
  | .mk kind _ _ => kind

def detail? : EngineError → Option String
  | .mk _ detail? _ => detail?

def cause? : EngineError → Option Cause
  | .mk _ _ cause? => cause?

def plain (kind : EngineErrorKind) (detail : String) : EngineError :=
  .mk kind (some detail) none

def invalid (detail : String) : EngineError :=
  .plain .invalidOperation detail

end EngineError

mutual
/-- The error that surfaces from inside an engine error: the first loader error, cycle, depth error
    or tag error of its chain of causes. -/
def EngineError.inner? : EngineError → Option RenderError
  | .mk _ _ none => none
  | .mk _ _ (some cause) => cause.inner?

def Cause.inner? : Cause → Option RenderError
  | .loader e => some (.loader e)
  | .tag e => some (.tag e)
  | .engine e => e.inner?
  | .render (.loader e) => some (.loader e)
  | .render (.cycle name) => some (.cycle name)
  | .render (.depth name limit) => some (.depth name limit)
  | .render (.template e) => e.inner?
  | .render _ => none
end

def RenderError.message : RenderError → String
  | .config e => e.message
  | .identity e => e.message
  | .loader e => e.message
  | .content e => e.message
  | .missingCategory topic => "Topic '" ++ topic ++ "' has no category"
  | .template _ => "Template error"
  | .tag e => e.message
  | .cycle name => "Render cycle: '" ++ name ++ "' is already being rendered"
  | .depth name limit =>
    "Render of '" ++ name ++ "' exceeds the nesting limit of " ++ toString limit
  | .endless => "Renders are nested without end"

def RenderError.ofEngine (e : EngineError) : RenderError :=
  e.inner?.getD (.template e)

end TopicWiki
