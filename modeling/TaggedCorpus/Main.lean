import TaggedCorpus.Walkthrough

/-!
The command line: reads the files that the walk needs and prints what it prints.
-/

open TaggedCorpus

/-- What reading a file comes to. -/
def readFile (path : String) : IO (Text × Except OpenFault (List UInt8)) := do
  let text := path.toList
  try
    let bytes ← IO.FS.readBinFile path
    return (text, .ok bytes.toList)
  catch
    | .noFileOrDirectory .. => return (text, .error (.notFound text))
    | _ => return (text, .error (.isDirectory text))

def main (args : List String) : IO UInt32 := do
  let files ← (String.ofList Settings.path :: args.take 1).mapM readFile
  let storage : Storage := ⟨fun path => (files.lookup path).getD (.error (.notFound path))⟩
  let transcript := Walkthrough.run storage (args.map String.toList)
  IO.print transcript.output
  match transcript.fault with
  | none => return 0
  | some f =>
    IO.eprintln f.message
    return 1
