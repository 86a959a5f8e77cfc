import KernelForge.Digest.Sha256
import KernelForge.Text.Blank
import KernelForge.Text.Find

/-!
# Header text

A header declares the functions of a kernel to C and to C++. Its guard is made from the file name;
its declarations are the lines of a listing that mention the source.
-/

namespace KernelForge.Header

/-- The guard of the header with a file name. -/
def guard (fileName : String) : String :=
  "TILEJIT_" ++ Bytes.hexUpper ((Sha256.digest (utf8 fileName)).take 8) ++ "_H"

/-- What stands before the declarations. -/
def opening (guard : String) : String :=
  "#ifndef " ++ guard ++ "\n#define " ++ guard ++
    "\n\n#include <riscv_vector.h>\n#include <stddef.h>\n\n" ++
    "#ifdef __cplusplus\nextern \"C\" \x7b\n#endif\n\n"

/-- What stands after the declarations. -/
def closing (guard : String) : String :=
  "\n#ifdef __cplusplus\n\x7d\n#endif\n\n#endif // " ++ guard ++ "\n"

/-- The lines of the declarations, without white space at their ends. -/
def body (decls : List String) : String :=
  String.join (decls.map fun decl ↦ Text.trimEnd decl ++ "\n")

/-- The header with the given declarations. -/
def render (guard : String) (decls : List String) : String :=
  opening guard ++ body decls ++ closing guard

/-- The lines of a listing that mention the source. -/
def declarations (listing source : String) : List String :=
  ((Text.lines listing.toList).filter (Text.occursIn source.toList)).map String.ofList

end KernelForge.Header
