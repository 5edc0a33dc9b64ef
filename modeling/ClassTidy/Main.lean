/-
  ClassTidy.Main — the command line.

  The files a run reads are taken into a tree, the run is a function of that tree, and
  what it wrote is put back. What cannot be read or gone through is in the tree as a
  trouble; what turns out not to be writable becomes one, and the run is made again with it,
  which changes nothing of what was put back before. Nothing is decided here.
-/
import ClassTidy.Command.Run

namespace ClassTidy.Command

/-- What the system says of something it does not do. -/
def troubleOf : IO.Error → Trouble
  | .permissionDenied _ code words => ⟨code.toNat, words.toList, none⟩
  | .hardwareFault code words => ⟨code.toNat, words.toList, none⟩
  | .resourceExhausted _ code words => ⟨code.toNat, words.toList, none⟩
  | e => ⟨5, (toString e).toList, none⟩

/-- Takes what stands on the way of an absolute path into a tree. -/
def snapshot (tree : FileTree) (path : Path) : IO FileTree := do
  let mut tree := tree
  for n in List.range path.names.length do
    let names := Path.climb (path.names.take (n + 1))
    let place := (← IO.currentDir) / String.ofList (Path.write ⟨.root, names⟩)
    match ← place.metadata.toBaseIO with
    | .error e@(.permissionDenied _ _ _) => tree := tree.hinder names.dropLast .search (troubleOf e)
    | .error _ => pure ()
    | .ok info =>
      if info.type == .dir then
        tree := tree.put names .directory
      else
        match ← (IO.FS.readBinFile place).toBaseIO with
        | .ok octets => tree := tree.put names (.file octets.toList)
        | .error e => tree := (tree.put names (.file [])).hinder names .read (troubleOf e)
  return tree

/-- Takes paths into a tree. -/
def snapshots (tree : FileTree) (current : Path) (paths : List Path) : IO FileTree :=
  paths.foldlM (fun t p => snapshot t (current.under p)) tree

/-- Runs the command and puts back what it wrote. -/
def perform (tree : FileTree) (current : Path) (a : Arguments) : IO Ending := do
  let mut tree := tree
  let mut ending := run tree current a
  let mut done := 0
  -- every turn puts a file back or finds one that stays out
  for _ in List.range (2 * a.files.length) do
    if let some (path, octets) := ending.written[done]? then
      let place := (← IO.currentDir) / String.ofList path.write
      match ← (IO.FS.writeBinFile place ⟨octets.toArray⟩).toBaseIO with
      | .ok _ => done := done + 1
      | .error e =>
        if let .ok names := tree.locate current path then
          tree := tree.hinder names .write (troubleOf e)
        ending := run tree current a
  return ending

/-- How the command is called. -/
def usage : String :=
  "usage: class-tidy [-h] [--config CONFIG] [--workspace WORKSPACE] [--language LANGUAGE]\n" ++
  "                  [--range START END | --at OFFSET] [--check | --write]\n" ++
  "                  [--strict-rules] [--verbose] files [files ...]\n"

end ClassTidy.Command

open ClassTidy in
/-- Runs the command in the current directory. -/
def main (args : List String) : IO UInt32 := do
  match Command.Arguments.read (args.map String.toList) with
  | .error .help =>
    IO.print Command.usage
    return 0
  | .error (.misuse m) =>
    IO.eprint (Command.usage ++ "error: " ++ String.ofList m.message ++ "\n")
    return 2
  | .ok a =>
    let current := Path.read (toString (← IO.currentDir)).toList
    let known ← Command.snapshots .empty current (Command.reads .empty current a)
    let tree ← Command.snapshots known current (Command.reads known current a)
    let ending ← Command.perform tree current a
    IO.eprint (String.ofList (Command.Told.write a.verbose ending.told))
    IO.print (String.ofList ending.output)
    if let some b := ending.breakdown then
      IO.eprint ("error: " ++ String.ofList b.message ++ "\n")
    return UInt32.ofNat ending.status
