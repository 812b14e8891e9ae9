import CloudProvider.Json.Document
import CloudProvider.Json.Token

/-!
# Reading JSON

The document of a sequence of tokens. The containers that are open at a token are
kept as a stack of frames, innermost first, so that the tokens are taken in one
after the other however deep they nest (`Document.State.step`). A container with
more than `Document.maxDepth` containers around and including it is unreadable.

* `Document.parse?`: the document of a text that is one JSON value and nothing
  else.
-/

namespace CloudProvider.Document

/-- A container that is still open, its parts last first. -/
inductive Frame where
  /-- An array with the items read so far. -/
  | items (done : List Document)
  /-- An object with the members read so far, and whether all names are readable. -/
  | members (done : List (String × Document)) (readable : Bool)
  /-- An object that waits for the value of a name. -/
  | member (done : List (String × Document)) (readable : Bool) (name : Option String)

/-- What may come next. -/
inductive Place where
  | value
  /-- A value, or the end of an array. -/
  | firstItem
  | name
  /-- A name, or the end of an object. -/
  | firstName
  | colon (name : Option String)
  /-- A comma, or the end of a container. -/
  | after

/-- How far a sequence of tokens has been taken in. -/
inductive State where
  | within (place : Place) (stack : List Frame)
  | complete (document : Document)

/-- The number of containers that may stand around a value that is looked into. -/
def maxDepth : Nat := 127

/-- Whether a container with these around it is nested too deep. -/
def isTooDeep (stack : List Frame) : Bool := ! (stack.drop (maxDepth - 1)).isEmpty

/-- The end of a value. -/
def State.put (d : Document) : List Frame → Option State
  | [] => some (.complete d)
  | .items done :: stack => some (.within .after (.items (d :: done) :: stack))
  | .member done readable (some name) :: stack =>
    some (.within .after (.members ((name, d) :: done) readable :: stack))
  | .member done _ none :: stack => some (.within .after (.members done false :: stack))
  | .members _ _ :: _ => none

/-- The end of an array. -/
def State.closeArray : List Frame → Option State
  | .items done :: stack =>
    State.put (if isTooDeep stack then .unreadable else .array done.reverse) stack
  | _ => none

/-- The end of an object. -/
def State.closeObject : List Frame → Option State
  | .members done readable :: stack =>
    State.put (if isTooDeep stack || ! readable then .unreadable else .object done.reverse)
      stack
  | _ => none

/-- A token where a value must come. -/
def State.beginValue (stack : List Frame) : Token → Option State
  | .openArray => some (.within .firstItem (.items [] :: stack))
  | .openObject => some (.within .firstName (.members [] true :: stack))
  | .null => State.put .null stack
  | .bool b => State.put (.bool b) stack
  | .number n => State.put (n.elim .unreadable .number) stack
  | .text s => State.put (s.elim .unreadable .string) stack
  | _ => none

/-- Take in the next token. -/
def State.step : State → Token → Option State
  | .within .value stack, t => State.beginValue stack t
  | .within .firstItem stack, .closeArray => State.closeArray stack
  | .within .firstItem stack, t => State.beginValue stack t
  | .within .name stack, .text s => some (.within (.colon s) stack)
  | .within .firstName stack, .text s => some (.within (.colon s) stack)
  | .within .firstName stack, .closeObject => State.closeObject stack
  | .within (.colon name) (.members done readable :: stack), .colon =>
    some (.within .value (.member done readable name :: stack))
  | .within .after (.items done :: stack), .comma =>
    some (.within .value (.items done :: stack))
  | .within .after (.members done readable :: stack), .comma =>
    some (.within .name (.members done readable :: stack))
  | .within .after stack, .closeArray => State.closeArray stack
  | .within .after stack, .closeObject => State.closeObject stack
  | _, _ => none

/-- The document of a sequence of tokens. -/
def ofTokens? (tokens : List Token) : Option Document :=
  match tokens.foldlM State.step (.within .value []) with
  | some (.complete d) => some d
  | _ => none

/-- The document of a text. -/
def parse? (s : String) : Option Document := (Token.scan? s).bind ofTokens?

end CloudProvider.Document
