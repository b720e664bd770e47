import TaggedCorpus.Stream.Storage

/-!
Files in directories, and how a path leads to them.

A path is walked name by name, from the root if it begins with a slash and else from the directory
one is in. Two points lead up, and the root has nothing above it.
-/

namespace TaggedCorpus

/-- What a name leads to. -/
inductive Entry
  | file (bytes : List UInt8)
  | directory (entries : List (Text × Entry))

namespace Entry

/-- The longest name and the longest path, in bytes. -/
def maxName : Nat := 255
def maxPath : Nat := 4095

def byteLength (t : Text) : Nat := t.foldl (fun n c => n + c.utf8Size) 0

/-- The entry that a name leads to from a place, whose entries are listed with those above it. -/
def step (path : Text) (above : List Entry) (name : Text) : Except OpenFault (List Entry) :=
  match above with
  | [] | .file _ :: _ => .error (.notDirectory path)
  | .directory entries :: up =>
    if name.isEmpty || name == ['.'] then .ok above
    else if name == ['.', '.'] then .ok (if up.isEmpty then above else up)
    else match entries.lookup name with
      | some e => .ok (e :: above)
      | none =>
        .error (if maxName < byteLength name then .nameTooLong path else .notFound path)

/-- The entry that a path leads to, with those above it. -/
def walk (root : Entry) (here : List Text) (path : Text) : Except OpenFault (List Entry) := do
  if maxPath < byteLength path then throw (.nameTooLong path)
  if path.isEmpty then throw (.notFound path)
  let start ← if path.head? == some '/' then pure [root] else here.foldlM (step path) [root]
  (path.splitOn '/').foldlM (step path) start

end Entry

/-- The files below a root, for one who is in the directory with these names. -/
def Storage.ofRoot (root : Entry) (here : List Text) : Storage where
  read path := do
    match ← Entry.walk root here path with
    | .file bytes :: _ => return bytes
    | _ => throw (.isDirectory path)

end TaggedCorpus
