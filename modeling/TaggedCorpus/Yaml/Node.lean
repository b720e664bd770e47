import TaggedCorpus.Yaml.Tag
import TaggedCorpus.Yaml.Token

/-!
YAML documents as graphs of nodes.

Nodes refer to others by number, so that a list or mapping can stand within itself: an anchor can
be referred to as soon as its node has begun. No two nodes may have the same anchor, and a text
holds one document at most.
-/

namespace TaggedCorpus.Yaml

/-- The number of a node of a document. -/
abbrev NodeId := Nat

/-- What a node is written as: a text, or other nodes. -/
inductive Content
  | scalar (t : Text)
  | list (items : List NodeId)
  | map (entries : List (NodeId × NodeId))

structure Node where
  tag : Tag
  content : Content

/-- The nodes of a document, and the one that is the document. -/
structure Graph where
  nodes : Array Node
  root : NodeId

namespace Graph

/-- What is left to read, what goes wrong after that, what handles stand for, the nodes so far
and those that have an anchor. -/
structure Reading where
  tokens : List Token
  fault : Option Fault := none
  handles : List (Text × Text) := []
  nodes : Array Node := #[]
  anchors : List (Text × NodeId) := []

/-- A step of reading. -/
abbrev Read := StateT Reading (Except Fault)

def fail {α : Type} : Read α := throw .malformed

/-- The next token, or nothing at the end of the text. -/
def peek : Read (Option Token) := do
  let r ← get
  match r.tokens, r.fault with
  | [], some f => throw f
  | tokens, _ => return tokens.head?

def drop : Read Unit := modify fun r => { r with tokens := r.tokens.drop 1 }

/-! ### Making nodes -/

/-- Adds a node. Lists and mappings get their parts later. -/
def add (tag : Tag) (content : Content) (anchor : Option Text) : Read NodeId := do
  let r ← get
  let id := r.nodes.size
  let anchors ← match anchor with
    | none => pure r.anchors
    | some name =>
      if (r.anchors.lookup name).isSome then fail else pure ((name, id) :: r.anchors)
  set { r with nodes := r.nodes.push ⟨tag, content⟩, anchors }
  return id

/-- Gives a node its parts. -/
def fill (id : NodeId) (content : Content) : Read NodeId := do
  modify fun r => { r with nodes := r.nodes.modify id fun n => { n with content } }
  return id

/-- The type of a node with a full name or none, if it has some type without a name. -/
def tagOf (name : Option Text) (unnamed : Tag) : Tag :=
  match name with
  | none => unnamed
  | some name => if name == TypeName.unspecific then unnamed else .ofName name

/-- The type of a scalar. Only if it is plain or its type is left open, its text tells the
type. -/
def scalarTag (name : Option Text) (plain : Bool) (t : Text) : Tag :=
  tagOf name (if plain || name.isSome then .ofPlain t else .text)

/-- A node of which nothing is written. -/
def emptyNode : Read NodeId := add .null (.scalar []) none

/-- The full name of a type. -/
def fullName (name : TypeName) : Read Text := do
  match name.handle with
  | none => return name.rest
  | some handle => match (← get).handles.lookup handle with
    | some stem => return stem ++ name.rest
    | none => fail

/-- The anchor and type before a node, in either order. -/
def properties : Read (Option Text × Option TypeName) := do
  match ← peek with
  | some (.anchor anchor) =>
    drop
    match ← peek with
    | some (.typed name) => drop; return (some anchor, some name)
    | _ => return (some anchor, none)
  | some (.typed name) =>
    drop
    match ← peek with
    | some (.anchor anchor) => drop; return (some anchor, some name)
    | _ => return (none, some name)
  | _ => return (none, none)

/-! ### Reading nodes -/

/-- Whether nothing stands between a key or item and this token. -/
def endsEntry : Option Token → Bool
  | some .key | some .value | some .blockEnd => true
  | _ => false

def endsFlowEntry (close : Option Token → Bool) : Option Token → Bool
  | some .comma => true
  | t => close t

def isCloseList : Option Token → Bool
  | some .closeList => true
  | _ => false

def isCloseMap : Option Token → Bool
  | some .closeMap => true
  | _ => false

mutual

/-- The next node. `inBlock` tells whether it may be a block, `flush` whether it may be a list
whose items are as far to the left as the key before it. -/
def node (fuel : Nat) (inBlock flush : Bool) : Read NodeId := do
  match fuel with
  | 0 => fail
  | fuel + 1 =>
    if let some (.alias name) ← peek then
      drop
      match (← get).anchors.lookup name with
      | some id => return id
      | none => fail
    else
      let (anchor, typed) ← properties
      let name ← typed.mapM fullName
      let list (items : Read (List NodeId)) : Read NodeId := do
        let id ← add (tagOf name .list) (.list []) anchor
        fill id (.list (← items))
      let map (entries : Read (List (NodeId × NodeId))) : Read NodeId := do
        let id ← add (tagOf name .map) (.map []) anchor
        fill id (.map (← entries))
      let bare : Read NodeId :=
        if anchor.isNone && name.isNone then fail
        else add (scalarTag name true []) (.scalar []) anchor
      match ← peek with
      | some (.scalar t plain) => drop; add (scalarTag name plain t) (.scalar t) anchor
      | some .openList => drop; list (flowItems fuel true)
      | some .openMap => drop; map (flowEntries fuel true)
      | some .item => if flush then list (flushItems fuel) else bare
      | some .listStart => if inBlock then drop; list (blockItems fuel) else bare
      | some .mapStart => if inBlock then drop; map (blockEntries fuel) else bare
      | _ => bare

/-- The items of a block list, up to its end. -/
def blockItems (fuel : Nat) : Read (List NodeId) := do
  match fuel with
  | 0 => fail
  | fuel + 1 =>
    match ← peek with
    | some .item =>
      drop
      let id ← match ← peek with
        | some .item | some .blockEnd => emptyNode
        | _ => node fuel true false
      return id :: (← blockItems fuel)
    | some .blockEnd => drop; return []
    | _ => fail

/-- The items of a list that is as far to the left as its key. -/
def flushItems (fuel : Nat) : Read (List NodeId) := do
  match fuel with
  | 0 => fail
  | fuel + 1 =>
    match ← peek with
    | some .item =>
      drop
      let t ← peek
      let id ← match t with
        | some .item => emptyNode
        | _ => if endsEntry t then emptyNode else node fuel true false
      return id :: (← flushItems fuel)
    | _ => return []

/-- The entries of a block mapping, up to its end. -/
def blockEntries (fuel : Nat) : Read (List (NodeId × NodeId)) := do
  match fuel with
  | 0 => fail
  | fuel + 1 =>
    match ← peek with
    | some .key =>
      drop
      let k ← if endsEntry (← peek) then emptyNode else node fuel true true
      let v ← blockValue fuel
      return (k, v) :: (← blockEntries fuel)
    | some .blockEnd => drop; return []
    | _ => fail

/-- The value after a key of a block mapping. -/
def blockValue (fuel : Nat) : Read NodeId := do
  match fuel with
  | 0 => fail
  | fuel + 1 =>
    match ← peek with
    | some .value =>
      drop
      if endsEntry (← peek) then emptyNode else node fuel true true
    | _ => emptyNode

/-- The items of a list in brackets, up to its end. An entry of a mapping may stand there as an
item. -/
def flowItems (fuel : Nat) (first : Bool) : Read (List NodeId) := do
  match fuel with
  | 0 => fail
  | fuel + 1 =>
    match ← peek with
    | some .closeList => drop; return []
    | t =>
      if !first then
        match t with
        | some .comma => drop
        | _ => fail
      match ← peek with
      | some .closeList => drop; return []
      | some .key =>
        drop
        let id ← add .map (.map []) none
        let k ← flowPart fuel isCloseList
        let v ← flowValue fuel isCloseList
        return (← fill id (.map [(k, v)])) :: (← flowItems fuel false)
      | _ =>
        let id ← node fuel false false
        return id :: (← flowItems fuel false)

/-- The entries of a mapping in brackets, up to its end. -/
def flowEntries (fuel : Nat) (first : Bool) : Read (List (NodeId × NodeId)) := do
  match fuel with
  | 0 => fail
  | fuel + 1 =>
    match ← peek with
    | some .closeMap => drop; return []
    | t =>
      if !first then
        match t with
        | some .comma => drop
        | _ => fail
      match ← peek with
      | some .closeMap => drop; return []
      | some .key =>
        drop
        let k ← flowPart fuel isCloseMap
        let v ← flowValue fuel isCloseMap
        return (k, v) :: (← flowEntries fuel false)
      | _ =>
        let k ← node fuel false false
        let v ← emptyNode
        return (k, v) :: (← flowEntries fuel false)

/-- A key in brackets, which may be missing. -/
def flowPart (fuel : Nat) (close : Option Token → Bool) : Read NodeId := do
  match fuel with
  | 0 => fail
  | fuel + 1 =>
    match ← peek with
    | some .value => emptyNode
    | t => if endsFlowEntry close t then emptyNode else node fuel false false

/-- The value after a key in brackets, which may be missing. -/
def flowValue (fuel : Nat) (close : Option Token → Bool) : Read NodeId := do
  match fuel with
  | 0 => fail
  | fuel + 1 =>
    match ← peek with
    | some .value =>
      drop
      if endsFlowEntry close (← peek) then emptyNode else node fuel false false
    | _ => emptyNode

end

/-! ### Reading documents -/

/-- What handles stand for unless a directive tells otherwise. -/
def commonHandles : List (Text × Text) := [(['!'], ['!']), (['!', '!'], Tag.stem)]

/-- The directives that come next. -/
def directives : List Token → List Directive
  | .directive d :: rest => d :: directives rest
  | _ => []

/-- What the handles of directives stand for. No handle may be explained twice, and the version
may be told once. -/
def handlesOf : List Directive → (versionTold : Bool) → List (Text × Text) →
    Read (List (Text × Text))
  | [], _, handles => return handles
  | .other :: rest, told, handles => handlesOf rest told handles
  | .version major :: rest, told, handles =>
    if told || major != 1 then fail else handlesOf rest true handles
  | .handle h stem :: rest, told, handles =>
    if (handles.lookup h).isSome then fail else handlesOf rest told ((h, stem) :: handles)

/-- Reads the directives before a document. -/
def readDirectives : Read Unit := do
  let ds := directives (← get).tokens
  let handles ← handlesOf ds false []
  modify fun r => { r with tokens := r.tokens.drop ds.length, handles := handles ++ commonHandles }

/-- Whether a document that starts with a separator is empty before this token. -/
def endsDocument : Option Token → Bool
  | none | some (.directive _) | some .documentStart | some .documentEnd => true
  | _ => false

/-- The root of a document that begins with directives or a separator. -/
def markedRoot (fuel : Nat) : Read NodeId := do
  readDirectives
  match ← peek with
  | some .documentStart =>
    drop
    if endsDocument (← peek) then emptyNode else node fuel true false
  | _ => fail

def isDocumentEnd : Token → Bool
  | .documentEnd => true
  | _ => false

/-- The root of the document in these tokens, if there is one. No second document may follow. -/
def root? : Read (Option NodeId) := do
  let fuel := 4 * (← get).tokens.length + 4
  match ← peek with
  | none => return none
  | some t =>
    let root ← match t with
      | .directive _ | .documentStart => markedRoot fuel
      | _ =>
        readDirectives
        node fuel true false
    modify fun r => { r with tokens := r.tokens.dropWhile isDocumentEnd }
    match ← peek with
    | none => return some root
    | some _ =>
      readDirectives
      discard peek
      fail

/-- The document in a text, unless the text is empty. -/
def parse? (t : Text) : Except Fault (Option Graph) := do
  let (tokens, fault) := Yaml.tokens t
  let (root?, r) ← root?.run { tokens, fault }
  return root?.map fun root => { nodes := r.nodes, root }

end Graph

end TaggedCorpus.Yaml
