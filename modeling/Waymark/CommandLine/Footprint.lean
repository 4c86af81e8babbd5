import Waymark.CommandLine.Command
import Waymark.Generation

/-! # Footprints

    Before a command is carried out, it is known from its words alone where it will look:
    at the directories that are searched, at the files in them that may hold the modules of
    its roots, at the output directory and at the files that it would write there. Only
    those, and the directories above them, need to be known of all files. Afterwards, `Tree.added` lists what is new.
-/

namespace Waymark

open Waymark.Files (Path Place Tree Node Workspace)

namespace CommandLine

/-- A place, after those above it. -/
def withThoseAbove (place : Place) : List Place :=
  (List.range (place.length + 1)).map place.take

/-- The places where the modules of some roots may be, and those above them. -/
def modulePlaces (bases : List Place) (roots : List String) : List Place :=
  (roots.filterMap RootLabel.parse?).flatMap fun label => bases.flatMap fun base =>
    (Workspace.candidates base label.module (Text.dottedParts label.module)).flatMap fun s =>
      withThoseAbove s.place

/-- The places where the clients of some roots are written, and those above them. -/
def outputPlaces (out : Place) (roots : List String) : List Place :=
  withThoseAbove out ++ (roots.filterMap RootLabel.parse?).map fun label =>
    out ++ [Client.moduleName label.name ++ ".py"]

/-- The places that some paths lead to, as far as they lead anywhere. -/
def placesOf (w : Workspace) (paths : List String) : List Place :=
  paths.filterMap fun p => (w.resolve (.ofText p)).toOption

/-- The places where modules are looked for, with the directories searched. -/
def searchPlaces (w : Workspace) (settings : Settings) (roots sources : List String) :
    List Place :=
  let bases := placesOf w (if sources.isEmpty then settings.sourceRoots else sources)
  bases.flatMap withThoseAbove ++ modulePlaces bases roots

/-- The places that a command looks at. -/
def Command.footprint (w : Workspace) (settings : Settings) : Command → List Place
  | .generate roots out sources _ =>
    searchPlaces w settings roots sources
      ++ (placesOf w [out]).flatMap fun place => outputPlaces place roots
  | .check roots sources => searchPlaces w settings roots sources
  | .tree root sources _ => searchPlaces w settings [root] sources

/-- The places that a command line looks at. -/
def footprint (w : Workspace) (settings : Settings) (words : List String) : List Place :=
  match (Invocation.ofWords? words).bind fun i => i.read i.words with
  | some command => command.footprint w settings
  | none => []

end CommandLine

namespace Files.Tree

/-- Is the same thing at the place? -/
def sameAt (t : Tree) (place : Place) : Node → Bool
  | .directory => t.isDirectoryAt place
  | .file octets => t.octetsAt? place == some octets

/-- What stands in a tree, but not in an earlier one; what is higher up comes first. -/
def added (before after : Tree) : List (Place × Node) :=
  (after.nodes.filter fun (place, node) => !before.sameAt place node).mergeSort
    fun a b => a.1.length ≤ b.1.length

end Files.Tree

end Waymark
