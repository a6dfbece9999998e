import FunctionSearch.Decompiler.Error
import FunctionSearch.Export.Template
import FunctionSearch.Files.Tree
import FunctionSearch.Json.Printer
import FunctionSearch.Text.Search

/-!
# Rendered export scripts

* `directoryLiteral`: a directory as a quoted unicode literal, out of which no character can break;
* `script`: the script for an output directory, which must be text;
* `putScript`: the attempt to put the script into a directory, with the tree after it;
* `writeScript`: the script written into a directory.
-/

namespace FunctionSearch.Export

/-- The name of the file that holds the script. -/
def scriptName : String := "decom_script.py"

/-- A directory as a unicode literal. -/
def directoryLiteral (directory : String) : List Char :=
  'u' :: Json.quote directory.toList

/-- The script with a literal in the place of its placeholder. -/
def scriptFor (directory : String) : String :=
  String.ofList (Text.replaceFirst placeholder (directoryLiteral directory) template)

/-- The script for an output directory. -/
def script (outputDirectory : Path) : Except DecompileError String :=
  match outputDirectory.text? with
  | some directory => .ok (scriptFor directory)
  | none => .error (.notUtf8 outputDirectory)

/-- Put the script for an output directory into `scriptDirectory`: where it stands, or why it does
not, and the tree after the attempt. -/
def putScript (tree : FileTree) (scriptDirectory outputDirectory : Path) :
    Except DecompileError Path × FileTree :=
  match script outputDirectory with
  | .error error => (.error error, tree)
  | .ok text =>
    let path := scriptDirectory.sub scriptName
    match tree.write path (Text.bytes text) with
    | .ok tree => (.ok path, tree)
    | .error cause => (.error (.io path cause), tree)

/-- The tree with the script for an output directory in `scriptDirectory`, and where it stands. -/
def writeScript (tree : FileTree) (scriptDirectory outputDirectory : Path) :
    Except DecompileError (Path × FileTree) :=
  match putScript tree scriptDirectory outputDirectory with
  | (.ok path, tree) => .ok (path, tree)
  | (.error error, _) => .error error

end FunctionSearch.Export
