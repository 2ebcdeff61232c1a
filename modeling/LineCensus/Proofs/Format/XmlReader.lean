import LineCensus.Proofs.Format.JsonReader

/-!
# Reading XML

A reader of XML documents that hold elements and attributes and nothing else: instructions in front
of the root, white space between tags, references and white space in the values of attributes as
XML has them.  It does not ask which characters a document may hold.  It reads one character after
the other and is used for statements on reports only.
-/

namespace LineCensus

/-- An element with its attributes and the elements in it, in their order. -/
structure XmlElement where
  name : String
  attributes : List (String × String) := []
  children : List XmlElement := []

namespace XmlReader

open JsonReader (isSpace digits?)

/-! ## References -/

def named : List (List Char × Char) :=
  [(['a', 'm', 'p'], '&'), (['l', 't'], '<'), (['g', 't'], '>'), (['q', 'u', 'o', 't'], '"'),
   (['a', 'p', 'o', 's'], '\x27')]

def char? (code : Nat) : Option Char :=
  if code.isValidChar then some (Char.ofNat code) else none

def reference? : List Char → Option Char
  | ['#', 'x'] => none
  | '#' :: 'x' :: digits => (Yaml.hexNumber? digits).bind char?
  | '#' :: digits => (digits? digits).bind char?
  | name => named.lookup name

def lineEnds : List Char → List Char
  | [] => []
  | '\r' :: '\n' :: rest => '\n' :: lineEnds rest
  | '\r' :: rest => '\n' :: lineEnds rest
  | c :: rest => c :: lineEnds rest

/-! ## Elements in one another -/

inductive Token where
  | instruction
  | opening (name : String) (attributes : List (String × String))
  | closing (name : String)

/-- What has been read.  The children of elements that are not closed yet are in reverse. -/
inductive State where
  | before
  | within (e : XmlElement) (outer : List XmlElement)
  | finished (root : XmlElement)

def put (e : XmlElement) : List XmlElement → State
  | [] => .finished e
  | parent :: outer => .within { parent with children := e :: parent.children } outer

def take : State → Token → Option State
  | .before, .instruction => some .before
  | .before, .opening name attributes => some (.within { name, attributes } [])
  | .within e outer, .opening name attributes => some (.within { name, attributes } (e :: outer))
  | .within e outer, .closing name =>
    if name = e.name then some (put { e with children := e.children.reverse } outer) else none
  | _, _ => none

/-! ## Characters -/

def startsName (c : Char) : Bool :=
  c.isAlpha || c == '_' || c == ':'

def isNameChar (c : Char) : Bool :=
  startsName c || c.isDigit || c == '-' || c == '.'

structure Tag where
  name : String
  attributes : List (String × String) := []

def Tag.add? (t : Tag) (name value : String) : Option Tag :=
  if name ∈ t.attributes.map Prod.fst then none
  else some { t with attributes := (name, value) :: t.attributes }

def Tag.token (t : Tag) : Token :=
  .opening t.name t.attributes.reverse

/-- Which part of a tag is read, with the characters read of a name, a value or a reference in
reverse. -/
inductive Lexing where
  | outside
  | markup
  /-- Behind `<?`; whether the character before was a question mark. -/
  | instruction (mark : Bool)
  | openingName (chars : List Char)
  /-- Behind a name or a value, where white space has to come before a further attribute. -/
  | tag (t : Tag)
  | spaced (t : Tag)
  | attribute (t : Tag) (chars : List Char)
  | named (t : Tag) (name : String)
  | equals (t : Tag) (name : String)
  | value (t : Tag) (name : String) (quote : Char) (chars : List Char)
  | reference (t : Tag) (name : String) (quote : Char) (chars inner : List Char)
  /-- Behind the `/` of an element without content. -/
  | empty (t : Tag)
  | closingName (chars : List Char)
  | closed (name : String)

structure Reader where
  lexing : Lexing
  state : State

def accept (state : State) (token : Token) : Option Reader :=
  (take state token).map (⟨.outside, ·⟩)

def inTag (t : Tag) (state : State) (c : Char) : Option Reader :=
  if isSpace c then some ⟨.spaced t, state⟩
  else if c = '/' then some ⟨.empty t, state⟩
  else if c = '>' then accept state t.token
  else none

def behindName (t : Tag) (name : String) (state : State) (c : Char) : Option Reader :=
  if isSpace c then some ⟨.named t name, state⟩
  else if c = '=' then some ⟨.equals t name, state⟩
  else none

def behindClosing (name : String) (state : State) (c : Char) : Option Reader :=
  if isSpace c then some ⟨.closed name, state⟩
  else if c = '>' then accept state (.closing name)
  else none

def step : Reader → Char → Option Reader
  | ⟨.outside, state⟩, c =>
    if isSpace c then some ⟨.outside, state⟩
    else if c = '<' then some ⟨.markup, state⟩
    else none
  | ⟨.markup, state⟩, c =>
    if c = '?' then some ⟨.instruction false, state⟩
    else if c = '/' then some ⟨.closingName [], state⟩
    else if startsName c then some ⟨.openingName [c], state⟩
    else none
  | ⟨.instruction mark, state⟩, c =>
    if mark ∧ c = '>' then accept state .instruction else some ⟨.instruction (c == '?'), state⟩
  | ⟨.openingName chars, state⟩, c =>
    if isNameChar c then some ⟨.openingName (c :: chars), state⟩
    else inTag { name := String.ofList chars.reverse } state c
  | ⟨.tag t, state⟩, c => inTag t state c
  | ⟨.spaced t, state⟩, c =>
    if startsName c then some ⟨.attribute t [c], state⟩ else inTag t state c
  | ⟨.attribute t chars, state⟩, c =>
    if isNameChar c then some ⟨.attribute t (c :: chars), state⟩
    else behindName t (String.ofList chars.reverse) state c
  | ⟨.named t name, state⟩, c => behindName t name state c
  | ⟨.equals t name, state⟩, c =>
    if isSpace c then some ⟨.equals t name, state⟩
    else if c = '"' ∨ c = '\x27' then some ⟨.value t name c [], state⟩
    else none
  | ⟨.value t name quote chars, state⟩, c =>
    if c = quote then
      (t.add? name (String.ofList chars.reverse)).map fun t => ⟨.tag t, state⟩
    else if c = '<' then none
    else if c = '&' then some ⟨.reference t name quote chars [], state⟩
    else some ⟨.value t name quote ((if isSpace c then ' ' else c) :: chars), state⟩
  | ⟨.reference t name quote chars inner, state⟩, c =>
    if c = ';' then
      (reference? inner.reverse).map fun read => ⟨.value t name quote (read :: chars), state⟩
    else some ⟨.reference t name quote chars (c :: inner), state⟩
  | ⟨.empty t, state⟩, c =>
    if c = '>' then (take state t.token).bind (accept · (.closing t.name)) else none
  | ⟨.closingName chars, state⟩, c =>
    if isNameChar c then some ⟨.closingName (c :: chars), state⟩
    else behindClosing (String.ofList chars.reverse) state c
  | ⟨.closed name, state⟩, c => behindClosing name state c

def run (r : Reader) (chars : List Char) : Option Reader :=
  chars.foldlM step r

def read? (document : String) : Option XmlElement :=
  match run ⟨.outside, .before⟩ (lineEnds document.toList) with
  | some ⟨.outside, .finished root⟩ => some root
  | _ => none

example : read? "<?xml version=\"1.0\"?>\n<a b = \"&#x41;&lt;\r\n&#10;\"><c/>\n<d ></d ></a>\n" =
    some ⟨"a", [("b", "A< \n")], [⟨"c", [], []⟩, ⟨"d", [], []⟩]⟩ := by cbv

example : (read? "<a b=\"1\" b=\"2\"/>").isNone := by cbv

end XmlReader

end LineCensus
