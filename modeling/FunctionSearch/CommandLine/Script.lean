import FunctionSearch.CommandLine.Basic

/-!
# The script command

`script` prints the export script for an output directory, which is given to the script as it is
seen from the root, since the script runs elsewhere.
-/

namespace FunctionSearch.CommandLine

/-- Print the export script for an output directory. -/
def script (tree : FileTree) (output : Path) : Printed Unit :=
  let output := tree.absolute output
  match Export.script output with
  | .ok text => ⟨text, [], .ok ()⟩
  | .error error => .failure (.script output error)

end FunctionSearch.CommandLine
