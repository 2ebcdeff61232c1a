import LineCensus.Table
import LineCensus.Yaml.Fault
import LineCensus.Yaml.Token

/-!
# From tokens to nodes

A document is a tree of scalars, sequences and mappings.  Anchors give names to nodes; an alias
stands for the node that was named.
-/

namespace LineCensus.Yaml

/-- A node of a document.  Without a tag, a plain scalar gets its type from its text. -/
inductive Node where
  | scalar (tag : Option String) (plain : Bool) (text : String)
  | sequence (tag : Option String) (items : List Node)
  | mapping (tag : Option String) (entries : List (Node × Node))

/-- What the parser has in hand: the tokens to come, the nodes that have names, and what the
handles of tags stand for. -/
structure Parser where
  tokens : List Token
  anchors : Table Node := []
  handles : Table String

def standardHandles : Table String :=
  [("!", "!"), ("!!", "tag:yaml.org,2002:")]

namespace Parser

def peek (p : Parser) : Token :=
  p.tokens.headD .streamEnd

def next (p : Parser) : Parser :=
  { p with tokens := p.tokens.tail }

def emptyNode : Node :=
  .scalar none true ""

/-- A tag in full; the tag `!` leaves the type to the text. -/
def fullTag (p : Parser) (handle : Option String) (rest : String) :
    Except Error (Option String) :=
  match handle with
  | none => .ok (if rest = "!" then none else some rest)
  | some handle =>
    match p.handles.find? handle with
    | some full => .ok (some (full ++ rest))
    | none => .error (.malformed .undefinedTagHandle)

structure Properties where
  anchor : Option String := none
  tag : Option (Option String × String) := none

def takeProperties (p : Parser) : Properties × Parser :=
  match p.tokens with
  | .anchor name :: .tag handle rest :: _ => (⟨some name, some (handle, rest)⟩, p.next.next)
  | .tag handle rest :: .anchor name :: _ => (⟨some name, some (handle, rest)⟩, p.next.next)
  | .anchor name :: _ => (⟨some name, none⟩, p.next)
  | .tag handle rest :: _ => (⟨none, some (handle, rest)⟩, p.next)
  | _ => ({}, p)

def remember (p : Parser) (anchor : Option String) (node : Node) : Parser :=
  match anchor with
  | some name => { p with anchors := p.anchors.set name node }
  | none => p

/-- Where a node stands: in a block, in a block that may be a sequence without indentation of its
own, or between brackets or braces. -/
inductive Place where
  | block
  | blockValue
  | flow
  deriving DecidableEq

/-- Whether the value or key that ought to come is left out. -/
def isLeftOut (place : Place) (t : Token) : Bool :=
  match place, t with
  | .flow, .value | .flow, .flowEntry | .flow, .flowSequenceEnd | .flow, .flowMappingEnd => true
  | .block, .blockEntry | .block, .blockEnd => true
  | .blockValue, .key | .blockValue, .value | .blockValue, .blockEnd => true
  | _, _ => false

mutual

def node (fuel : Nat) (place : Place) (p : Parser) : Except Error (Node × Parser) :=
  match fuel with
  | 0 => .error (.malformed .missingNode)
  | fuel + 1 =>
    match p.peek with
    | .alias name =>
      match p.anchors.find? name with
      | some found => .ok (found, p.next)
      | none => .error (.malformed .undefinedAlias)
    | _ => do
      let (properties, p) := p.takeProperties
      let marked := properties.anchor.isSome || properties.tag.isSome
      let untyped := match properties.tag with
        | none => true
        | some (none, "!") => true
        | _ => false
      let tag ← match properties.tag with
        | none => Except.ok none
        | some (handle, rest) => p.fullTag handle rest
      if properties.anchor.any p.anchors.has then .error (.malformed .duplicateAnchor)
      else
        let (found, p) ← (match p.peek with
          | .scalar text plain =>
            let plain := untyped && (plain || properties.tag.isSome)
            .ok (.scalar tag plain text, p.next)
          | .flowSequence => do
            let (items, p) ← flowItems fuel true p.next []
            .ok (.sequence tag items, p)
          | .flowMapping => do
            let (entries, p) ← flowEntries fuel true p.next []
            .ok (.mapping tag entries, p)
          | .blockEntry =>
            if place = .blockValue then do
              let (items, p) ← looseItems fuel p []
              .ok (.sequence tag items, p)
            else if marked then .ok (.scalar tag untyped "", p)
            else .error (.malformed .missingNode)
          | .blockSequence =>
            if place = .flow then .error (.malformed .missingNode)
            else do
              let (items, p) ← blockItems fuel p.next []
              .ok (.sequence tag items, p)
          | .blockMapping =>
            if place = .flow then .error (.malformed .missingNode)
            else do
              let (entries, p) ← blockEntries fuel p.next []
              .ok (.mapping tag entries, p)
          | _ => if marked then .ok (.scalar tag untyped "", p) else .error (.malformed .missingNode))
        .ok (found, p.remember properties.anchor found)

def nodeOrEmpty (fuel : Nat) (place : Place) (p : Parser) : Except Error (Node × Parser) :=
  match fuel with
  | 0 => .error (.malformed .missingNode)
  | fuel + 1 => if isLeftOut place p.peek then .ok (emptyNode, p) else node fuel place p

def blockItems (fuel : Nat) (p : Parser) (found : List Node) :
    Except Error (List Node × Parser) :=
  match fuel with
  | 0 => .error (.malformed .missingBlockEnd)
  | fuel + 1 =>
    match p.peek with
    | .blockEntry => do
      let (item, p) ← nodeOrEmpty fuel .block p.next
      blockItems fuel p (item :: found)
    | .blockEnd => .ok (found.reverse, p.next)
    | _ => .error (.malformed .missingBlockEnd)

def looseItems (fuel : Nat) (p : Parser) (found : List Node) :
    Except Error (List Node × Parser) :=
  match fuel with
  | 0 => .error (.malformed .missingNode)
  | fuel + 1 =>
    match p.peek with
    | .blockEntry =>
      match p.next.peek with
      | .key | .value => looseItems fuel p.next (emptyNode :: found)
      | _ => do
        let (item, p) ← nodeOrEmpty fuel .block p.next
        looseItems fuel p (item :: found)
    | _ => .ok (found.reverse, p)

def valueAfter (fuel : Nat) (place : Place) (p : Parser) : Except Error (Node × Parser) :=
  match fuel with
  | 0 => .error (.malformed .missingNode)
  | fuel + 1 =>
    match p.peek with
    | .value => nodeOrEmpty fuel place p.next
    | _ => .ok (emptyNode, p)

def blockEntries (fuel : Nat) (p : Parser) (found : List (Node × Node)) :
    Except Error (List (Node × Node) × Parser) :=
  match fuel with
  | 0 => .error (.malformed .missingBlockEnd)
  | fuel + 1 =>
    match p.peek with
    | .key => do
      let (key, p) ← nodeOrEmpty fuel .blockValue p.next
      let (value, p) ← valueAfter fuel .blockValue p
      blockEntries fuel p ((key, value) :: found)
    | .blockEnd => .ok (found.reverse, p.next)
    | _ => .error (.malformed .missingBlockEnd)

/-- Takes the items between brackets.  A key there makes a mapping of one entry. -/
def flowItems (fuel : Nat) (first : Bool) (p : Parser) (found : List Node) :
    Except Error (List Node × Parser) :=
  match fuel with
  | 0 => .error (.malformed .missingSeparator)
  | fuel + 1 =>
    match p.peek, first with
    | .flowSequenceEnd, _ => .ok (found.reverse, p.next)
    | .flowEntry, false => flowItem fuel p.next found
    | _, true => flowItem fuel p found
    | _, false => .error (.malformed .missingSeparator)

def flowItem (fuel : Nat) (p : Parser) (found : List Node) :
    Except Error (List Node × Parser) :=
  match fuel with
  | 0 => .error (.malformed .missingSeparator)
  | fuel + 1 =>
    match p.peek with
    | .flowSequenceEnd => .ok (found.reverse, p.next)
    | .key => do
      let (key, p) ← nodeOrEmpty fuel .flow p.next
      let (value, p) ← valueAfter fuel .flow p
      flowItems fuel false p (.mapping none [(key, value)] :: found)
    | _ => do
      let (item, p) ← node fuel .flow p
      flowItems fuel false p (item :: found)

def flowEntries (fuel : Nat) (first : Bool) (p : Parser) (found : List (Node × Node)) :
    Except Error (List (Node × Node) × Parser) :=
  match fuel with
  | 0 => .error (.malformed .missingSeparator)
  | fuel + 1 =>
    match p.peek, first with
    | .flowMappingEnd, _ => .ok (found.reverse, p.next)
    | .flowEntry, false => flowEntry fuel p.next found
    | _, true => flowEntry fuel p found
    | _, false => .error (.malformed .missingSeparator)

def flowEntry (fuel : Nat) (p : Parser) (found : List (Node × Node)) :
    Except Error (List (Node × Node) × Parser) :=
  match fuel with
  | 0 => .error (.malformed .missingSeparator)
  | fuel + 1 =>
    match p.peek with
    | .flowMappingEnd => .ok (found.reverse, p.next)
    | .key => do
      let (key, p) ← nodeOrEmpty fuel .flow p.next
      let (value, p) ← valueAfter fuel .flow p
      flowEntries fuel false p ((key, value) :: found)
    | _ => do
      let (key, p) ← node fuel .flow p
      flowEntries fuel false p ((key, emptyNode) :: found)

end

def directives (p : Parser) (versionSeen : Bool) (handles : Table String) :
    (tokens : List Token) → Except Error Parser
  | .directive (.version major _) :: rest =>
    if versionSeen || major ≠ 1 then .error (.malformed .badDirective)
    else directives p true handles rest
  | .directive (.tag handle uri) :: rest =>
    if handles.has handle then .error (.malformed .badDirective)
    else directives p versionSeen (handles.set handle uri) rest
  | .directive .other :: rest => directives p versionSeen handles rest
  | tokens => .ok { p with tokens, handles := standardHandles.update handles }

def content (fuel : Nat) (p : Parser) : Except Error (Node × Parser) :=
  match p.peek with
  | .directive _ | .documentStart | .documentEnd | .streamEnd => .ok (emptyNode, p)
  | _ => node fuel .block p

def finish (found : Node) (p : Parser) : Except Error (Option Node) :=
  match p.tokens.dropWhile (· == .documentEnd) with
  | [.streamEnd] => .ok (some found)
  | [] => .ok (some found)
  | _ => .error (.malformed .severalDocuments)

end Parser

def Node.ofTokens (tokens : List Token) : Except Error (Option Node) :=
  let fuel := 4 * tokens.length + 4
  let start : Parser := { tokens, handles := standardHandles }
  match tokens with
  | .streamEnd :: _ => .ok none
  | .directive _ :: _ | .documentStart :: _ => do
    let p ← start.directives false [] tokens
    match p.peek with
    | .documentStart =>
      let (found, p) ← p.next.content fuel
      p.finish found
    | _ => .error (.malformed .missingDocumentStart)
  | _ => do
    let (found, p) ← start.node fuel .block
    p.finish found

end LineCensus.Yaml
