import CloudInventory.Json.Lexeme

/-!
# Reading JSON text

A value is assembled from the lexemes of a text, one at a time, over a stack of
the containers that are still open. Reading refuses a text that nests more than
`maxDepth` containers, and a text with anything after its value.
-/

namespace CloudInventory

namespace Json

/-- The greatest number of containers inside one another. -/
def maxDepth : Nat := 127

/-- A container that is not closed yet. -/
inductive Frame where
  /-- An array with its items so far, the last one first. -/
  | items (reversed : List Json)
  /-- An object with its members so far. -/
  | members (members : List (String × Json))
  /-- An object whose member `key` has no value yet. -/
  | value (members : List (String × Json)) (key : String)

/-- What may come next. -/
inductive Expected where
  /-- A value. -/
  | value
  /-- A value, or the end of the array just opened. -/
  | firstItem
  /-- A key. -/
  | key
  /-- A key, or the end of the object just opened. -/
  | firstKey
  /-- The colon after a key. -/
  | colon
  /-- A comma, or the end of the innermost container. -/
  | separator
  /-- Nothing: the value is complete. -/
  | nothing (result : Json)

/-- The state of reading: the open containers, innermost first, and what may
come next. -/
structure Assembly where
  frames : List Frame
  expected : Expected

namespace Assembly

/-- Before the first lexeme. -/
def start : Assembly :=
  ⟨[], .value⟩

/-- A complete value goes into the innermost container, or is the result. -/
def put (value : Json) : List Frame → Option Assembly
  | [] => some ⟨[], .nothing value⟩
  | .items reversed :: frames => some ⟨.items (value :: reversed) :: frames, .separator⟩
  | .value members key :: frames =>
    some ⟨.members (insertMember key value members) :: frames, .separator⟩
  | .members _ :: _ => none

/-- The start of a value: a word, or the opening of a container. -/
def beginValue (frames : List Frame) : Lexeme → Option Assembly
  | .atom value => put value frames
  | .text s => put (.string s) frames
  | .openArray =>
    if frames.length < maxDepth then some ⟨.items [] :: frames, .firstItem⟩ else none
  | .openObject =>
    if frames.length < maxDepth then some ⟨.members [] :: frames, .firstKey⟩ else none
  | _ => none

/-- The end of the innermost container, which must be of the kind that is closed. -/
def close : List Frame → Lexeme → Option Assembly
  | .items reversed :: frames, .closeArray => put (.array reversed.reverse) frames
  | .members members :: frames, .closeObject => put (.object members) frames
  | _, _ => none

/-- A key of the innermost object. -/
def beginMember : List Frame → Lexeme → Option Assembly
  | .members members :: frames, .text key => some ⟨.value members key :: frames, .colon⟩
  | _, _ => none

/-- What a comma leads to. -/
def afterComma : List Frame → Option Assembly
  | .items reversed :: frames => some ⟨.items reversed :: frames, .value⟩
  | .members members :: frames => some ⟨.members members :: frames, .key⟩
  | _ => none

/-- One lexeme; `none` where it may not stand. -/
def step (assembly : Assembly) (lexeme : Lexeme) : Option Assembly :=
  match assembly.expected, lexeme with
  | .value, lexeme => beginValue assembly.frames lexeme
  | .firstItem, .closeArray => close assembly.frames .closeArray
  | .firstItem, lexeme => beginValue assembly.frames lexeme
  | .key, lexeme => beginMember assembly.frames lexeme
  | .firstKey, .closeObject => close assembly.frames .closeObject
  | .firstKey, lexeme => beginMember assembly.frames lexeme
  | .colon, .colon => some ⟨assembly.frames, .value⟩
  | .colon, _ => none
  | .separator, .comma => afterComma assembly.frames
  | .separator, lexeme => close assembly.frames lexeme
  | .nothing _, _ => none

/-- All lexemes, one after the other. -/
def run (assembly : Assembly) : List Lexeme → Option Assembly
  | [] => some assembly
  | lexeme :: lexemes =>
    match assembly.step lexeme with
    | some next => run next lexemes
    | none => none

/-- The complete value, if there is one. -/
def result? (assembly : Assembly) : Option Json :=
  match assembly.expected with
  | .nothing value => some value
  | _ => none

end Assembly

/-- The value that a JSON text denotes; `none` for a text that is no JSON. -/
def parse? (text : String) : Option Json := do
  let lexemes ← Lexeme.all? text.toList
  let assembly ← Assembly.start.run lexemes
  assembly.result?

end Json

end CloudInventory
