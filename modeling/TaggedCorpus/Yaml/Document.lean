import TaggedCorpus.Settings
import TaggedCorpus.Yaml.Node
import TaggedCorpus.Yaml.ScalarValue

/-!
YAML documents as what their nodes stand for.

Lists and mappings are worked out one level after the other, so that one may stand within itself.
Keys of a mapping are scalars, the last entry of a key counts, and the entries of merged mappings
come before a mapping's own. A mapping may stand for a scalar, which is its default.
-/

namespace TaggedCorpus.Yaml

/-- What a node stands for: a scalar, or a list, list of pairs, mapping or set of what other
nodes stand for. -/
inductive Part
  | scalar (v : Value)
  | list (items : List NodeId)
  | pairs (items : List (NodeId × NodeId))
  | map (entries : List (Value × NodeId))
  | set (items : List Value)

/-- What the nodes of a document stand for, and the node that is the document. -/
structure Document where
  parts : Array Part
  root : NodeId

namespace Document

/-- A document that is being worked out: its nodes, what is known of them, and the lists and
mappings that wait for their parts. -/
structure Draft where
  nodes : Array Node
  parts : Array (Option Part)
  waiting : List NodeId := []

/-- A step of working out. -/
abbrev Work := StateT Draft (Except Fault)

def fail {α : Type} : Work α := throw .malformed

def node (id : NodeId) : Work Node := do
  match (← get).nodes[id]? with
  | some n => return n
  | none => fail

def setPart (id : NodeId) (p : Part) : Work Unit :=
  modify fun d => { d with parts := d.parts.setIfInBounds id (some p) }

def setEntries (id : NodeId) (entries : List (NodeId × NodeId)) : Work Unit :=
  modify fun d =>
    { d with nodes := d.nodes.modify id fun n => { n with content := .map entries } }

/-! ### Single nodes -/

/-- The text of a node. A mapping has the text of the node that it gives as its default. -/
def textOf : (fuel : Nat) → NodeId → Work Text
  | 0, _ => throw .endless
  | fuel + 1, id => do
    match (← node id).content with
    | .scalar t => return t
    | .list _ => fail
    | .map entries =>
      match ← entries.findM? fun e => return (← node e.1).tag == .default with
      | some (_, v) => textOf fuel v
      | none => fail

/-- The scalar that a node stands for. -/
def scalarOf (id : NodeId) (n : Node) : Work Value := do
  let t ← textOf ((← get).nodes.size + 1) id
  match n.tag, n.content with
  | .moment, .map _ => throw (.scalar .momentOfList)
  | tag, _ => liftM (tag.valueOf t)

/-- What a node of a type stands for before its parts are known, unless it is a scalar. -/
def unfilled? : Tag → Option Part
  | .list => some (.list [])
  | .pairs => some (.pairs [])
  | .map => some (.map [])
  | .set => some (.set [])
  | _ => none

/-- Whether a type stands for something. -/
def isMeaningful : Tag → Bool
  | .merge | .default | .other => false
  | _ => true

/-- What a node stands for. A list or mapping that is met for the first time has to wait for its
parts. -/
def enter (id : NodeId) : Work Part := do
  if let some (some p) := (← get).parts[id]? then return p
  let n ← node id
  if !isMeaningful n.tag then fail
  let p ← match unfilled? n.tag with
    | some p =>
      modify fun d => { d with waiting := d.waiting ++ [id] }
      pure p
    | none => Part.scalar <$> scalarOf id n
  setPart id p
  return p

/-! ### Mappings -/

/-- The entries of a mapping. -/
def entriesOf (id : NodeId) : Work (List (NodeId × NodeId)) := do
  match (← node id).content with
  | .map entries => return entries
  | _ => fail

/-- Takes the first entry with a merge key out of a mapping. -/
def takeMerge? (id : NodeId) : Work (Option NodeId) := do
  let entries ← entriesOf id
  let isMerge ← entries.mapM fun e => return (← node e.1).tag == .merge
  let i := isMerge.findIdx (· == true)
  match entries[i]? with
  | none => return none
  | some (_, v) =>
    setEntries id (entries.eraseIdx i)
    return some v

/-- A key that marks a default is a text from now on. -/
def settleDefault (key : NodeId) : Work Unit :=
  modify fun d => { d with nodes := d.nodes.modify key fun n =>
    if n.tag == .default then { n with tag := .text } else n }

/-- Puts the entries of merged mappings before those of a mapping. Of a list of mappings the last
one comes first. -/
def flatten : (fuel : Nat) → NodeId → Work Unit
  | 0, _ => fail
  | fuel + 1, id => do
    match ← takeMerge? id with
    | none => (← entriesOf id).forM fun e => settleDefault e.1
    | some source =>
      let merged ← match (← node source).content with
        | .map _ => do
          flatten fuel source
          entriesOf source
        | .list items => do
          let maps ← items.mapM fun item => do
            discard (entriesOf item)
            flatten fuel item
            entriesOf item
          pure maps.reverse.flatten
        | .scalar _ => fail
      flatten fuel id
      setEntries id (merged ++ (← entriesOf id))

/-- The entries of a mapping with their keys worked out. -/
def mapping (id : NodeId) : Work (List (Value × NodeId)) := do
  let size := (← get).nodes.foldl (fun n node => n + match node.content with
    | .map entries => entries.length
    | _ => 0) 0
  flatten (size + 1) id
  (← entriesOf id).foldlM (fun entries (k, v) => do
    match ← enter k with
    | .scalar key =>
      discard (enter v)
      return Value.insert entries key v
    | _ => fail) []

/-- The only entry of a mapping. -/
def onlyEntry (id : NodeId) : Work (NodeId × NodeId) := do
  match ← entriesOf id with
  | [(k, v)] =>
    discard (enter k)
    discard (enter v)
    return (k, v)
  | _ => fail

/-- Works out the parts of a list or mapping. -/
def fill (id : NodeId) : Work Unit := do
  let n ← node id
  match n.tag, n.content with
  | .list, .list items =>
    items.forM fun item => discard (enter item)
    setPart id (.list items)
  | .pairs, .list items => setPart id (.pairs (← items.mapM onlyEntry))
  | .map, .map _ => setPart id (.map (← mapping id))
  | .set, .map _ => setPart id (.set ((← mapping id).map (·.1)))
  | _, _ => fail

/-- Works out all that waits. -/
def fillAll : (fuel : Nat) → Work Unit
  | 0 => return
  | fuel + 1 => do
    match (← get).waiting with
    | [] => return
    | id :: rest =>
      modify fun d => { d with waiting := rest }
      fill id
      fillAll fuel

/-! ### Documents -/

/-- What a graph of nodes stands for. -/
def ofGraph (g : Graph) : Except Fault Document := do
  let size := g.nodes.size
  let work : Work Unit := do
    discard (enter g.root)
    fillAll size
  let (_, d) ← work.run { nodes := g.nodes, parts := Array.replicate size none }
  return { parts := d.parts.map fun p => p.getD (.scalar .null), root := g.root }

/-- The document in a text, unless the text is empty. -/
def parse? (t : Text) : Except Fault (Option Document) := do
  match ← Graph.parse? t with
  | none => return none
  | some g => some <$> ofGraph g

variable (d : Document)

/-- What a node stands for. -/
def part (id : NodeId) : Part := (d.parts[id]?).getD (.scalar .null)

/-- The value of a node below others. One of those stands there only as itself. -/
def valueFrom : (fuel : Nat) → (above : List NodeId) → NodeId → Value
  | 0, _, _ => .null
  | fuel + 1, above, id =>
    let below := valueFrom fuel (id :: above)
    let isAgain := above.contains id
    match d.part id with
    | .scalar v => v
    | .set items => .set items
    | .list items => if isAgain then .again false else .list (items.map below)
    | .pairs items =>
      if isAgain then .again false
      else .list (items.map fun (a, b) => .pair (below a) (below b))
    | .map entries =>
      if isAgain then .again true else .map (entries.map fun (k, v) => (k, below v))

/-- The nodes of a document as things that settings are read from. -/
def view : View NodeId where
  kind id := match d.part id with
    | .scalar v => v.kind
    | .list _ | .pairs _ => (Value.list []).kind
    | .map _ => (Value.map []).kind
    | .set _ => (Value.set []).kind
  isPresent id := match d.part id with
    | .scalar v => v.isPresent
    | .list items => !items.isEmpty
    | .pairs items => !items.isEmpty
    | .map entries => !entries.isEmpty
    | .set items => !items.isEmpty
  entries? id := match d.part id with
    | .map entries => some entries
    | _ => none
  value id := d.valueFrom (d.parts.size + 1) [] id

end Document

end TaggedCorpus.Yaml
