import KernelForge.Target.Basic
import KernelForge.Text.Find

/-!
# What is added to a source

For a tensor processor the declaration of a structure is set behind the line of the first include;
for the vector extension a list of includes is set before the source. Main statement: what is added
leaves the source as it is (`withPrelude_inj`).
-/

namespace KernelForge.Target

/-- What every entry of a tensor processor ends with. -/
def entrySuffix : String := "_kernel"

/-- The symbol of an entry. -/
def entrySymbol : Target → String → String
  | tpu, name => if name.toList.reverse.take 7 = entrySuffix.toList.reverse then name
      else name ++ entrySuffix
  | rvv, name => name

/-- The structure that the runtime of a tensor processor expects to be declared. -/
def tensorInfo : String :=
  "\ntypedef struct \x7b\n  dim4 shape;\n  dim4 stride;\n" ++
    "  global_addr_t addr;\n  data_type_t dtype;\n  int mode;\n" ++
    "  int align_mode;\n  int size;\n  int offset;\n  bool unsigned_flag;\n" ++
    "  bool default_stride;\n\x7d __ppl_tensor_info;\n"

/-- What marks a line of includes. -/
def includeMark : List Char := "#include".toList

/-- The source with the structure behind the line of the first include. Where no line feed follows,
one is added and the structure comes last; without an include it comes first. -/
def withTensorInfo (source : String) : String :=
  match Text.cutAt includeMark source.toList with
  | none => tensorInfo ++ source
  | some (before, found) =>
    match found.dropWhile (· ≠ '\n') with
    | [] => source ++ "\n" ++ tensorInfo
    | _ :: after =>
      String.ofList (before ++ found.takeWhile (· ≠ '\n') ++ ['\n']) ++ tensorInfo ++
        String.ofList after

/-- The headers that every kernel for the vector extension includes. -/
def preludeHeaders : List String :=
  ["riscv_vector.h", "stdint.h", "stdio.h", "stdlib.h", "string.h", "math.h", "assert.h",
    "stddef.h", "float.h"]

/-- The lines that include the headers. -/
def prelude : String :=
  String.join (preludeHeaders.map fun header ↦ "#include <" ++ header ++ ">\n")

/-- The source behind the lines that include the headers. -/
def withPrelude (source : String) : String := prelude ++ source

/-- Two sources with the same prelude are told apart as before. -/
theorem withPrelude_inj {s t : String} : withPrelude s = withPrelude t ↔ s = t := by
  simp [withPrelude]

/-- The source as it is compiled. -/
def prepareSource : Target → String → String
  | tpu => withTensorInfo
  | rvv => withPrelude

end KernelForge.Target
