import ModuleParts.Decompose
import ModuleParts.Source.Read

/-! # Decomposing texts

Reading and decomposition in one step. A text that cannot be read fails with the reason why.
-/
namespace ModuleParts

/-- Reads a text and decomposes what was read. -/
def decomposeSource (reading : ReadOptions) (options : Options) (source : String) :
    Except DecomposeError Decomposition :=
  match CompilationUnit.ofSource reading source with
  | .error error => .error (.code error)
  | .ok unit => (Root.unit unit).decompose options

end ModuleParts
