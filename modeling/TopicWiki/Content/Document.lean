import TopicWiki.Content.Policy
import TopicWiki.Dictionary

namespace TopicWiki

structure Document where
  ident : String
  name : String
  published : Bool := true
  text? : Option String := none
  file? : Option String := none
  includes : Dictionary String := {}
  deriving Repr

namespace Document

def text (d : Document) (fatal logged : ErrorClasses) :
    Except ContentError String × Option String :=
  match d.text? with
  | some text => (.ok text, none)
  | none => (ContentError.mk .missing d.ident "no text has been set").degrade fatal logged

def included (d : Document) (name : String) (fatal logged : ErrorClasses) :
    Except ContentError String × Option String :=
  match d.includes.find? name with
  | some text => (.ok text, none)
  | none =>
    (ContentError.mk .missing d.ident ("no include named '" ++ name ++ "'")).degrade fatal logged

/-- Replaces the text. The file stays unless a new one is given. -/
def setText (d : Document) (text : String) (file? : Option String) : Document :=
  { d with text? := some text, file? := file?.or d.file? }

end Document

end TopicWiki
