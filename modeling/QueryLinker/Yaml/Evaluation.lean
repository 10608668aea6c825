import QueryLinker.Yaml.Document
import QueryLinker.Yaml.ScalarValue

/-!
This module contains the evaluation of nodes. The parts of collections are looked at level by level,
the outermost collection first, so that of several flaws the one on the lowest level counts. At last
the values are put together.
-/

namespace QueryLinker.Yaml

inductive Meaning where
  | value (v : Value)
  | list (items : List NodeId)
  | pairs (items : List (NodeId × NodeId))
  | set (items : List Value)
  | map (members : List (Value × NodeId))

structure Evaluation where
  nodes : Nodes
  meanings : Array (Option Meaning)
  waiting : List NodeId := []

abbrev Evaluate := StateT Evaluation (Except Flaw)

namespace Evaluation

def node (id : NodeId) : Evaluate Node :=
  return (← get).nodes.node id

def setEntries (id : NodeId) (entries : List (NodeId × NodeId)) : Evaluate Unit :=
  modify fun e =>
    { e with nodes := e.nodes.change id fun n => { n with content := .mapping entries } }

def setMeaning (id : NodeId) (m : Meaning) : Evaluate Unit :=
  modify fun e => { e with meanings := e.meanings.setIfInBounds id (some m) }

def wait (id : NodeId) (m : Meaning) : Evaluate Unit := do
  setMeaning id m
  modify fun e => { e with waiting := e.waiting ++ [id] }

def fail {α : Type} (n : Node) (problem : Problem) : Evaluate α :=
  throw (.report { problem, place := n.place })

def failIn {α : Type} (activity : Activity) (around n : Node) (problem : Problem) : Evaluate α :=
  throw (.report
    { activity? := activity, start? := around.place, problem, place := n.place })

def settle {α : Type} (r : Except ScalarFlaw α) : Evaluate α :=
  match r with
  | .ok a => return a
  | .error flaw => throw (.scalar flaw)

/-! Scalars. -/

def scalarText (fuel : Nat) (id : NodeId) : Evaluate LooseText := do
  match fuel with
  | 0 => throw .endless
  | fuel + 1 =>
    let n ← node id
    let nodes := (← get).nodes
    let isDefault (entry : NodeId × NodeId) : Bool := (nodes.node entry.1).tag == .standIn
    match n.content, n.entries.find? isDefault with
    | .scalar text, _ => return text
    | _, some (_, v) => scalarText fuel v
    | _, none => fail n (.wrongSort .scalar n.sort)

def scalarValue (n : Node) (text : LooseText) : Evaluate Value := do
  match n.tag with
  | .null => return .null
  | .bool => return .bool (← settle (Scalar.truth text.text))
  | .int => return .int (← settle (Scalar.int text.text))
  | .real => return .real (← settle (Scalar.real text.text))
  | .bytes =>
    match Scalar.bytes text with
    | .ok bs => return .bytes bs
    | .error flaw => fail n (.noBytes flaw)
  | .time =>
    match n.content with
    | .scalar text => settle (Scalar.time text.text)
    | _ => throw (.scalar .timeOfMapping)
  | _ => return .text text

def meet (id : NodeId) : Evaluate Unit := do
  let e ← get
  if ((e.meanings.getD id none)).isSome then return
  let n := e.nodes.node id
  match n.tag with
  | .sequence => wait id (.list [])
  | .ordered => wait id (.pairs [])
  | .pairs => wait id (.pairs [])
  | .set => wait id (.set [])
  | .mapping => wait id (.map [])
  | .merge => fail n (.unknownTag n.tag.name)
  | .standIn => fail n (.unknownTag n.tag.name)
  | .other name => fail n (.unknownTag name)
  | _ => setMeaning id (.value (← scalarValue n (← scalarText (e.nodes.size + 1) id)))

/-! Mappings. -/

def settleDefaults (entries : List (NodeId × NodeId)) : Evaluate Unit :=
  modify fun e =>
    let settled (n : Node) : Node := if n.tag == .standIn then { n with tag := .text } else n
    { e with nodes := entries.foldl (fun nodes (key, _) => nodes.change key settled) e.nodes }

mutual

def merged (fuel : Nat) (around : Node) (id : NodeId) : Evaluate (List (NodeId × NodeId)) := do
  match fuel with
  | 0 => throw .endless
  | fuel + 1 =>
    let n ← node id
    match n.content with
    | .mapping _ =>
      flatten fuel id
      return (← node id).entries
    | .sequence items =>
      let found ← items.mapM fun item => do
        let part ← node item
        if part.sort != .mapping then
          failIn .mappingValue around part (.unmergeableItem part.sort)
        flatten fuel item
        return (← node item).entries
      return found.reverse.flatten
    | .scalar _ => failIn .mappingValue around n (.unmergeable n.sort)

def takeMerges (fuel : Nat) (id : NodeId) (index : Nat) : Evaluate (List (NodeId × NodeId)) := do
  match fuel with
  | 0 => throw .endless
  | fuel + 1 =>
    let n ← node id
    let nodes := (← get).nodes
    let own := (n.entries.drop index).takeWhile fun (key, _) => (nodes.node key).tag != .merge
    settleDefaults own
    let index := index + own.length
    match n.entries[index]? with
    | none => return []
    | some (_, value) =>
      setEntries id (n.entries.eraseIdx index)
      let found ← merged fuel n value
      return found ++ (← takeMerges fuel id index)

def flatten (fuel : Nat) (id : NodeId) : Evaluate Unit := do
  match fuel with
  | 0 => throw .endless
  | fuel + 1 =>
    let found ← takeMerges fuel id 0
    if !found.isEmpty then setEntries id (found ++ (← node id).entries)

end

def mergeFuel (nodes : Nodes) : Nat :=
  3 * (nodes.foldl (fun n node => n + node.entries.length) 0 + 2)

def keyValue (around : Node) (id : NodeId) : Evaluate Value := do
  meet id
  match (← get).meanings.getD id none with
  | some (.value v) => return v
  | _ => failIn .mappingValue around (← node id) .unusableKey

def members (id : NodeId) : Evaluate (List (Value × NodeId)) := do
  let n ← node id
  if n.sort != .mapping then fail n (.wrongSort .mapping n.sort)
  flatten (mergeFuel (← get).nodes) id
  (← node id).entries.foldlM
    (fun found (key, value) => do
      let k ← keyValue n key
      meet value
      return Value.putMember k value found)
    []

/-! Collections. -/

def pairOf (activity : Activity) (around : Node) (id : NodeId) :
    Evaluate (NodeId × NodeId) := do
  let n ← node id
  match n.content with
  | .mapping [(first, second)] =>
    meet first
    meet second
    return (first, second)
  | .mapping entries => failIn activity around n (.wrongPairSize entries.length)
  | _ => failIn activity around n (.noPair n.sort)

def pairsOf (activity : Activity) (n : Node) : Evaluate (List (NodeId × NodeId)) := do
  if n.sort != .sequence then failIn activity n n (.noSequence n.sort)
  n.items.mapM (pairOf activity n)

def meetParts (id : NodeId) : Evaluate Unit := do
  let n ← node id
  match n.tag with
  | .sequence =>
    if n.sort != .sequence then fail n (.wrongSort .sequence n.sort)
    n.items.forM meet
    setMeaning id (.list n.items)
  | .ordered => setMeaning id (.pairs (← pairsOf .orderedValue n))
  | .pairs => setMeaning id (.pairs (← pairsOf .pairsValue n))
  | .set => setMeaning id (.set ((← members id).map (·.1)))
  | _ => setMeaning id (.map (← members id))

def meetAll : Nat → Evaluate Unit
  | 0 => return
  | n + 1 => do
    let ids := (← get).waiting
    modify fun e => { e with waiting := [] }
    ids.forM meetParts
    if !(← get).waiting.isEmpty then meetAll n

/-! Values. -/

abbrev Assemble := StateM (Array (Option Value))

structure Assembled where
  value : Value
  around : List NodeId

def isList : Meaning → Bool
  | .list _ => true
  | .pairs _ => true
  | _ => false

mutual

def assemble (meanings : Array (Option Meaning)) (fuel : Nat) (around : List NodeId)
    (id : NodeId) : Assemble Assembled := do
  match fuel with
  | 0 => return ⟨.null, []⟩
  | fuel + 1 =>
    match meanings.getD id none, (← get).getD id none with
    | none, _ => return ⟨.null, []⟩
    | some (.value v), _ => return ⟨v, []⟩
    | some (.set items), _ => return ⟨.set items, []⟩
    | _, some v => return ⟨v, []⟩
    | some m, none =>
      if around.contains id then return ⟨.enclosing (isList m), [id]⟩
      let (v, found) ← collection meanings fuel (id :: around) m
      let outer := found.filter (· != id)
      if outer.isEmpty then modify fun done => done.setIfInBounds id (some v)
      return ⟨v, outer⟩

def collection (meanings : Array (Option Meaning)) (fuel : Nat) (around : List NodeId)
    (m : Meaning) : Assemble (Value × List NodeId) := do
  match fuel with
  | 0 => return (.null, [])
  | fuel + 1 =>
    let part := assemble meanings fuel around
    match m with
    | .value v => return (v, [])
    | .set items => return (.set items, [])
    | .list items =>
      let found ← items.mapM part
      return (.list (found.map (·.value)), found.flatMap (·.around))
    | .pairs items =>
      let found ← items.mapM fun (first, second) => do return (← part first, ← part second)
      return (.list (found.map fun (a, b) => .pair a.value b.value),
        found.flatMap fun (a, b) => a.around ++ b.around)
    | .map members =>
      let found ← members.mapM fun (key, value) => do return (key, ← part value)
      return (.map (found.map fun (key, a) => (key, a.value)), found.flatMap fun (_, a) => a.around)

end

def run (nodes : Nodes) (root : NodeId) : Except Flaw Value := do
  let work : Evaluate Unit := do
    meet root
    meetAll (nodes.size + 1)
  let unknown : Array (Option Meaning) := Array.replicate nodes.size none
  let ((), e) ← work.run { nodes, meanings := unknown }
  let (found, _) :=
    (assemble e.meanings (2 * (nodes.size + 1)) [] root).run (Array.replicate nodes.size none)
  return found.value

end Evaluation

def read (s : Source) : Except Flaw Value := do
  let d ← Document.ofSource s
  match d.root? with
  | none => return .null
  | some root => Evaluation.run d.nodes root

end QueryLinker.Yaml
