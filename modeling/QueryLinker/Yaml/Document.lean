import QueryLinker.Yaml.Lexer
import QueryLinker.Yaml.Node
import QueryLinker.Yaml.Scalar

/-!
This module contains the grammar of YAML texts: how nodes are made of tokens. A text holds one
document, whose nodes may have names by which they stand at other places as well.
-/

namespace QueryLinker.Yaml

structure Document where
  nodes : Nodes
  root? : Option NodeId
deriving Repr

structure Reader where
  cursor : Cursor
  handles : List (String × String) := []
  nodes : Nodes := #[]
  anchors : List (String × NodeId) := []

abbrev Read := StateT Reader (Except Flaw)

namespace Reader

/-! Tokens. -/

def scan {α : Type} (step : Scan α) : Read α := do
  let r ← get
  let (a, cursor) ← step.run r.cursor
  set { r with cursor }
  return a

def peek : Read PlacedToken :=
  scan Cursor.peekToken

def take : Read PlacedToken :=
  scan Cursor.takeToken

def isNext (t : Token) : Read Bool :=
  return (← peek).token == t

def isNextIn (ts : List Token) : Read Bool :=
  return ts.contains (← peek).token

def takeIf (t : Token) : Read (Option PlacedToken) := do
  if ← isNext t then return some (← take)
  return none

def fail {α : Type} (place : Text.Position) (problem : Problem) : Read α :=
  throw (.report { problem, place })

def failSince {α : Type} (activity : Activity) (start place : Text.Position) (problem : Problem) :
    Read α :=
  throw (.report { activity? := activity, start? := start, problem, place })

def failNext {α : Type} (activity : Activity) (start : Text.Position) (problem : Token → Problem) :
    Read α := do
  let t ← peek
  failSince activity start t.start (problem t.token)

/-! Nodes. -/

def add (n : Node) : Read NodeId := do
  let r ← get
  set { r with nodes := r.nodes.push n }
  return r.nodes.size

def addEmpty (place : Text.Position) : Read NodeId :=
  add ⟨.null, .scalar "", place⟩

structure Properties where
  anchor? : Option String := none
  tag? : Option (WrittenTag × Text.Position) := none
  start? : Option Text.Position := none

def properties : Nat → Properties → Read Properties
  | 0, p => return p
  | n + 1, p => do
    let t ← peek
    let start? := p.start?.or (some t.start)
    match t.token, p.anchor?, p.tag? with
    | .anchor name, none, _ =>
      let _ ← take
      properties n { p with anchor? := some name, start? }
    | .tag tag, _, none =>
      let _ ← take
      properties n { p with tag? := some (tag, t.start), start? }
    | _, _, _ => return p

def openTag : String := "!"

def tagName? (p : Properties) : Read (Option String) := do
  match p.tag? with
  | none => return none
  | some (tag, place) =>
    match tag.handle? with
    | none => return if tag.rest == openTag then none else some tag.rest
    | some handle =>
      match (← get).handles.lookup handle with
      | some meaning =>
        let name := meaning ++ tag.rest
        return if name == openTag then none else some name
      | none => failSince .node (p.start?.getD place) place (.unknownHandle handle)

def addNamed (anchor? : Option String) (n : Node) : Read NodeId := do
  match anchor? with
  | none => add n
  | some name =>
    match (← get).anchors.lookup name with
    | some first =>
      failSince (.firstAnchor name) ((← get).nodes.node first).place n.place .secondAnchor
    | none =>
      let id ← add n
      modify fun r => { r with anchors := (name, id) :: r.anchors }
      return id

structure Heading where
  anchor? : Option String
  tagName? : Option String
  place : Text.Position

def Heading.tag (h : Heading) (usual : Tag) : Tag :=
  (h.tagName?.map Tag.ofName).getD usual

def addCollection {α : Type} (h : Heading) (usual : Tag) (parts : Read α)
    (content : α → NodeContent) (empty : α) : Read NodeId := do
  let id ← addNamed h.anchor? ⟨h.tag usual, content empty, h.place⟩
  let found ← parts
  modify fun r => { r with nodes := r.nodes.change id fun n => { n with content := content found } }
  return id

def addSequence (h : Heading) (items : Read (List NodeId)) : Read NodeId :=
  addCollection h .sequence items .sequence []

def addMapping (h : Heading) (entries : Read (List (NodeId × NodeId))) : Read NodeId :=
  addCollection h .mapping entries .mapping []

def addScalar (h : Heading) (hasTag : Bool) (text : LooseText) (plain : Bool) :
    Read NodeId :=
  addNamed h.anchor? ⟨h.tag (if plain || hasTag then Scalar.tag text.text else .text),
    .scalar text, h.place⟩

mutual

def node (fuel : Nat) (block indentless : Bool) : Read NodeId := do
  match fuel with
  | 0 => throw .endless
  | fuel + 1 =>
    let t ← peek
    match t.token with
    | .alias name =>
      let _ ← take
      match (← get).anchors.lookup name with
      | some id => return id
      | none => fail t.start (.unknownAlias name)
    | _ =>
      let p ← properties 2 {}
      let name? ← tagName? p
      let next ← peek
      content fuel block indentless p ⟨p.anchor?, name?, p.start?.getD next.start⟩

def content (fuel : Nat) (block indentless : Bool) (p : Properties) (h : Heading) :
    Read NodeId := do
  match fuel with
  | 0 => throw .endless
  | fuel + 1 =>
    let t ← peek
    match t.token with
    | .scalar text plain =>
      let _ ← take
      addScalar h p.tag?.isSome text plain
    | .flowSequenceStart => addSequence h (do let t ← take; flowSequence fuel t.start true)
    | .flowMappingStart => addMapping h (do let t ← take; flowMapping fuel t.start true)
    | .blockEntry =>
      if indentless then addSequence h (indentlessSequence fuel) else emptyContent block p h
    | .blockSequenceStart =>
      if block then addSequence h (do let t ← take; blockSequence fuel t.start)
      else emptyContent block p h
    | .blockMappingStart =>
      if block then addMapping h (do let t ← take; blockMapping fuel t.start)
      else emptyContent block p h
    | _ => emptyContent block p h

def emptyContent (block : Bool) (p : Properties) (h : Heading) : Read NodeId := do
  if p.start?.isSome then addNamed h.anchor? ⟨h.tag .null, .scalar "", h.place⟩
  else failNext (if block then .blockNode else .flowNode) h.place .noContent

def nodeUnless (fuel : Nat) (block indentless : Bool) (ends : List Token)
    (place : Text.Position) : Read NodeId := do
  match fuel with
  | 0 => throw .endless
  | fuel + 1 => if ← isNextIn ends then addEmpty place else node fuel block indentless

def valueUnless (fuel : Nat) (block : Bool) (ends : List Token) : Read NodeId := do
  match fuel with
  | 0 => throw .endless
  | fuel + 1 =>
    match ← takeIf .value with
    | some t => nodeUnless fuel block block ends t.stop
    | none => addEmpty (← peek).start

def blockSequence (fuel : Nat) (start : Text.Position) : Read (List NodeId) := do
  match fuel with
  | 0 => throw .endless
  | fuel + 1 =>
    match ← takeIf .blockEntry with
    | some t =>
      let item ← nodeUnless fuel true false [.blockEntry, .blockEnd] t.stop
      return item :: (← blockSequence fuel start)
    | none =>
      if (← takeIf .blockEnd).isSome then return []
      failNext .blockSequence start .noBlockEnd

def indentlessSequence (fuel : Nat) : Read (List NodeId) := do
  match fuel with
  | 0 => throw .endless
  | fuel + 1 =>
    match ← takeIf .blockEntry with
    | some t =>
      let item ← nodeUnless fuel true false [.blockEntry, .key, .value, .blockEnd] t.stop
      return item :: (← indentlessSequence fuel)
    | none => return []

def blockMapping (fuel : Nat) (start : Text.Position) : Read (List (NodeId × NodeId)) := do
  match fuel with
  | 0 => throw .endless
  | fuel + 1 =>
    match ← takeIf .key with
    | some t =>
      let ends := [Token.key, .value, .blockEnd]
      let key ← nodeUnless fuel true true ends t.stop
      let value ← valueUnless fuel true ends
      return (key, value) :: (← blockMapping fuel start)
    | none =>
      if (← takeIf .blockEnd).isSome then return []
      failNext .blockMapping start .noBlockEnd

def separator (activity : Activity) (start : Text.Position) (close : Token) (first : Bool) :
    Read Unit := do
  if !first then
    if (← takeIf .flowEntry).isNone then failNext activity start (.noFlowEnd close)

def flowSequence (fuel : Nat) (start : Text.Position) (first : Bool) : Read (List NodeId) := do
  match fuel with
  | 0 => throw .endless
  | fuel + 1 =>
    if (← takeIf .flowSequenceEnd).isSome then return []
    separator .flowSequence start .flowSequenceEnd first
    let t ← peek
    match t.token with
    | .key =>
      let item ← addMapping ⟨none, none, t.start⟩ (flowPair fuel)
      return item :: (← flowSequence fuel start false)
    | .flowSequenceEnd =>
      let _ ← take
      return []
    | _ =>
      let item ← node fuel false false
      return item :: (← flowSequence fuel start false)

def flowPair (fuel : Nat) : Read (List (NodeId × NodeId)) := do
  match fuel with
  | 0 => throw .endless
  | fuel + 1 =>
    let t ← take
    let ends := [Token.flowEntry, .flowSequenceEnd]
    let key ← nodeUnless fuel false false (.value :: ends) t.stop
    let value ← valueUnless fuel false ends
    return [(key, value)]

def flowMapping (fuel : Nat) (start : Text.Position) (first : Bool) :
    Read (List (NodeId × NodeId)) := do
  match fuel with
  | 0 => throw .endless
  | fuel + 1 =>
    if (← takeIf .flowMappingEnd).isSome then return []
    separator .flowMapping start .flowMappingEnd first
    let t ← peek
    let ends := [Token.flowEntry, .flowMappingEnd]
    match t.token with
    | .key =>
      let t ← take
      let key ← nodeUnless fuel false false (.value :: ends) t.stop
      let value ← valueUnless fuel false ends
      return (key, value) :: (← flowMapping fuel start false)
    | .flowMappingEnd =>
      let _ ← take
      return []
    | _ =>
      let key ← node fuel false false
      let value ← addEmpty (← peek).start
      return (key, value) :: (← flowMapping fuel start false)

end

/-! Documents. -/

def usualHandles : List (String × String) :=
  [("!", "!"), ("!!", Tag.standardStart)]

def knownMajor : Int := 1

def directives (versioned : Bool) : Nat → Read Unit
  | 0 => return
  | n + 1 => do
    let t ← peek
    match t.token with
    | .directive d =>
      let _ ← take
      match d with
      | .version major _ =>
        if versioned then fail t.start .secondVersion
        if major != knownMajor then fail t.start .otherVersion
        directives true n
      | .handle name meaning =>
        let r ← get
        if (r.handles.lookup name).isSome then fail t.start (.secondHandle name)
        set { r with handles := (name, meaning) :: r.handles }
        directives versioned n
      | .other _ => directives versioned n
    | _ => return

def documentEnds : Nat → Read Unit
  | 0 => return
  | n + 1 => do if (← takeIf .documentEnd).isSome then documentEnds n

def documentStart (fuel : Nat) : Read (Option Text.Position) := do
  documentEnds fuel
  let t ← peek
  if t.token == .streamEnd then return none
  modify fun r => { r with handles := [] }
  directives false fuel
  modify fun r => { r with handles := r.handles ++ usualHandles }
  if (← takeIf .documentStart).isNone then
    let t ← peek
    fail t.start (.noDocumentStart t.token)
  return some t.start

def isDirective : Token → Bool
  | .directive _ => true
  | _ => false

def firstDocument (fuel : Nat) : Read (Option NodeId) := do
  let t ← peek
  if isDirective t.token || [Token.documentStart, .streamEnd].contains t.token then
    if (← documentStart fuel).isNone then return none
    let next ← peek
    if isDirective next.token ||
        [Token.documentStart, .documentEnd, .streamEnd].contains next.token then
      return some (← addEmpty next.start)
    return some (← node fuel true false)
  else
    modify fun r => { r with handles := usualHandles }
    return some (← node fuel true false)

def document (fuel : Nat) : Read (Option NodeId) := do
  match ← firstDocument fuel with
  | none => return none
  | some root =>
    let _ ← takeIf .documentEnd
    match ← documentStart fuel with
    | none => return some root
    | some place =>
      failSince .onlyDocument ((← get).nodes.node root).place place .secondDocument

end Reader

namespace Document

def stepsPerCharacter : Nat := 16

def ofSource (s : Source) : Except Flaw Document := do
  let fuel := stepsPerCharacter * (s.text.length + 2)
  let (root?, r) ← (Reader.document fuel).run { cursor := .ofSource s }
  return { nodes := r.nodes, root? }

end Document

end QueryLinker.Yaml
