import TopicWiki.Json.Token

namespace TopicWiki.Json

inductive Frame where
  | array (done : List Json)
  | object (done : List (String × Json)) (key : String)
  deriving Repr

inductive Expect where
  | value
  | valueOrClose
  | key
  | keyOrClose
  | colon
  | separator
  deriving DecidableEq, Repr

structure Reading where
  frames : List Frame
  expect : Expect
  result? : Option Json
  deriving Repr

def maxDepth : Nat := 127

def Reading.close (json : Json) (r : Reading) : Reading :=
  match r.frames with
  | [] => { r with result? := some json, expect := .separator }
  | .array done :: rest => { r with frames := .array (json :: done) :: rest, expect := .separator }
  | .object done key :: rest =>
    { r with frames := .object ((key, json) :: done) "" :: rest, expect := .separator }

def Reading.openFrame (frame : Frame) (expect : Expect) (r : Reading) : Option Reading :=
  if r.frames.length < maxDepth then
    some { r with frames := frame :: r.frames, expect := expect }
  else none

def Reading.step (r : Reading) (token : Token) : Option Reading :=
  if r.result?.isSome then none
  else
    match token, r.expect, r.frames with
    | .value json, .value, _ | .value json, .valueOrClose, _ => some (r.close json)
    | .openArray, .value, _ | .openArray, .valueOrClose, _ =>
      r.openFrame (.array []) .valueOrClose
    | .openObject, .value, _ | .openObject, .valueOrClose, _ =>
      r.openFrame (.object [] "") .keyOrClose
    | .value (.string key), .key, .object done _ :: rest
    | .value (.string key), .keyOrClose, .object done _ :: rest =>
      some { r with frames := .object done key :: rest, expect := .colon }
    | .colon, .colon, _ => some { r with expect := .value }
    | .comma, .separator, .array _ :: _ => some { r with expect := .value }
    | .comma, .separator, .object _ _ :: _ => some { r with expect := .key }
    | .closeArray, .separator, .array done :: rest
    | .closeArray, .valueOrClose, .array done :: rest =>
      some ({ r with frames := rest }.close (.array done.reverse))
    | .closeObject, .separator, .object done _ :: rest
    | .closeObject, .keyOrClose, .object done _ :: rest =>
      some ({ r with frames := rest }.close (.object done.reverse))
    | _, _, _ => none

def read? (text : String) : Option Json := do
  let tokens ← tokens? text.toList
  let reading ← tokens.foldlM Reading.step ⟨[], .value, none⟩
  reading.result?

end TopicWiki.Json
