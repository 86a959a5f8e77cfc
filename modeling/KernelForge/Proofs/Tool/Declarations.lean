import KernelForge.Proofs.Text.Occurrences
import KernelForge.Tool.Header
import Mathlib.Data.List.TakeWhile

/-!
# The declarations in a header

A header is made of whole lines: those that open it, one for each declaration, and those that close
it. So the declarations are read back from the lines of its block, provided that none of them has a
line feed and that each has a slash, as every line that mentions an absolute path does. Main
statement: `declared_declarations`.
-/

namespace KernelForge

namespace Text

/-! ### Whole lines -/

/-- The text of lines that all end in a line feed. -/
def unlines (lines : List String) : List Char := lines.flatMap (·.toList ++ ['\n'])

theorem unlines_append (lines more : List String) :
    unlines (lines ++ more) = unlines lines ++ unlines more := List.flatMap_append

/-- Whole lines are parted from each other and from what follows. -/
theorem splitLines_unlines {lines : List String} (h : ∀ line ∈ lines, '\n' ∉ line.toList)
    (more : List Char) :
    splitLines (unlines lines ++ more) = lines.map String.toList ++ splitLines more := by
  induction lines with
  | nil => rfl
  | cons line rest ih =>
    have hline : '\n' ∉ line.toList := h line (by simp)
    have hrest := ih fun other hother ↦ h other (by simp [hother])
    have hcut : unlines (line :: rest) ++ more = line.toList ++ '\n' :: (unlines rest ++ more) := by
      simp [unlines]
    rw [hcut, splitLines_append, splitLines_of_not_mem hline, hrest]
    rfl

theorem not_mem_of_mem_splitLines {text piece : List Char} (h : piece ∈ splitLines text) :
    '\n' ∉ piece := by
  induction text generalizing piece with
  | nil => simp_all [splitLines]
  | cons c rest ih =>
    obtain ⟨first, others, hrest⟩ := List.exists_cons_of_ne_nil (splitLines_ne_nil rest)
    rw [hrest] at ih
    rw [splitLines, hrest] at h
    split at h
    · rcases List.mem_cons.mp h with rfl | h
      · exact List.not_mem_nil
      · exact ih h
    · next hc =>
      rcases List.mem_cons.mp h with rfl | h
      · rw [List.mem_cons, not_or]
        exact ⟨Ne.symm hc, ih List.mem_cons_self⟩
      · exact ih (List.mem_cons_of_mem _ h)

theorem not_mem_of_mem_lines {text line : List Char} (h : line ∈ lines text) : '\n' ∉ line := by
  simp only [lines, List.mem_append, List.mem_map, List.mem_filter, Option.mem_toList] at h
  rcases h with ⟨piece, hpiece, rfl⟩ | ⟨hlast, -⟩
  · have hfeed := not_mem_of_mem_splitLines (List.mem_of_mem_dropLast hpiece)
    unfold dropReturn
    split
    · exact fun hmem ↦ hfeed (List.mem_of_mem_dropLast hmem)
    · exact hfeed
  · exact not_mem_of_mem_splitLines (List.mem_of_getLast? hlast)

/-! ### White space at the end -/

theorem dropBlankEnd_subset (cs : List Char) : dropBlankEnd cs ⊆ cs := by
  intro c hc
  rw [dropBlankEnd, List.mem_reverse] at hc
  exact List.mem_reverse.mp ((List.dropWhile_suffix _).subset hc)

/-- What is not white space is kept. -/
theorem mem_dropBlankEnd {c : Char} {cs : List Char} (h : c ∈ cs) (hc : isBlank c = false) :
    c ∈ dropBlankEnd cs := by
  have hsplit := List.takeWhile_append_dropWhile (p := isBlank) (l := cs.reverse)
  rw [← List.mem_reverse, ← hsplit, List.mem_append] at h
  rcases h with hblank | hrest
  · rw [List.mem_takeWhile_imp hblank] at hc
    cases hc
  · exact List.mem_reverse.mpr hrest

end Text

namespace Header

open Text

/-! ### The lines of a header -/

/-- The line that opens the block of declarations. -/
def blockOpening : String := "extern \"C\" \x7b"

/-- The line behind the block of declarations, whose closing is for C++ only. -/
def blockClosing : String := "#ifdef __cplusplus"

/-- The lines before the declarations, up to the block. -/
def openingLines (guard : String) : List String :=
  ["#ifndef " ++ guard, "#define " ++ guard, "", "#include <riscv_vector.h>",
    "#include <stddef.h>", "", "#ifdef __cplusplus"]

/-- The lines after the block of declarations. -/
def closingLines (guard : String) : List String :=
  ["\x7d", "#endif", "", "#endif // " ++ guard]

theorem opening_eq (guard : String) : (opening guard).toList =
    unlines (openingLines guard ++ [blockOpening, "#endif", ""]) := by
  have hdefine : "\n#define ".toList = '\n' :: "#define ".toList := rfl
  have hrest : "\n\n#include <riscv_vector.h>\n#include <stddef.h>\n\n".toList ++
      "#ifdef __cplusplus\nextern \"C\" \x7b\n#endif\n\n".toList =
      '\n' :: unlines ((openingLines guard).drop 2 ++ [blockOpening, "#endif", ""]) := rfl
  simp only [opening, String.toList_append, List.append_assoc, hdefine, hrest]
  simp only [openingLines, unlines, String.toList_append, List.flatMap_cons, List.append_assoc,
    List.cons_append, List.nil_append, List.drop_succ_cons, List.drop_zero]

theorem closing_eq (guard : String) : (closing guard).toList =
    unlines (["", blockClosing] ++ closingLines guard) := by
  have hfirst : "\n#ifdef __cplusplus\n\x7d\n#endif\n\n#endif // ".toList =
      unlines ["", blockClosing, "\x7d", "#endif", ""] ++ "#endif // ".toList := rfl
  unfold closing
  simp only [String.toList_append, hfirst]
  simp only [closingLines, unlines, String.toList_append, List.flatMap_cons, List.flatMap_nil,
    List.append_assoc, List.cons_append, List.nil_append, List.append_nil]
  rfl

theorem body_eq (decls : List String) : (body decls).toList = unlines (decls.map trimEnd) := by
  simp [body, unlines, List.flatMap_map]

/-- The lines of a header are those of which it is made. -/
theorem splitLines_render {guard : String} {decls : List String} (hguard : '\n' ∉ guard.toList)
    (hdecls : ∀ decl ∈ decls, '\n' ∉ decl.toList) :
    splitLines (render guard decls).toList =
      (openingLines guard ++ [blockOpening, "#endif", ""] ++ decls.map trimEnd ++
        ["", blockClosing] ++ closingLines guard).map String.toList ++ [[]] := by
  have htext : (render guard decls).toList = unlines (openingLines guard ++
      [blockOpening, "#endif", ""] ++ decls.map trimEnd ++ ["", blockClosing] ++
        closingLines guard) ++ [] := by
    simp only [render, String.toList_append, opening_eq, body_eq, closing_eq, unlines_append,
      List.append_assoc, List.append_nil]
  have hprefixed {before : String} (hbefore : '\n' ∉ before.toList) :
      '\n' ∉ (before ++ guard).toList := by
    rw [String.toList_append, List.mem_append, not_or]
    exact ⟨hbefore, hguard⟩
  have hopening : ∀ line ∈ openingLines guard, '\n' ∉ line.toList := by
    simp only [openingLines, List.forall_mem_cons]
    exact ⟨hprefixed (by decide), hprefixed (by decide), by decide⟩
  have hbody : ∀ line ∈ decls.map trimEnd, '\n' ∉ line.toList := by
    intro line hline
    obtain ⟨decl, hdecl, rfl⟩ := List.mem_map.mp hline
    rw [trimEnd, String.toList_ofList]
    exact fun hmem ↦ hdecls decl hdecl (dropBlankEnd_subset _ hmem)
  have hclosing : ∀ line ∈ closingLines guard, '\n' ∉ line.toList := by
    simp only [closingLines, List.forall_mem_cons]
    exact ⟨by decide, by decide, by decide, hprefixed (by decide), by simp⟩
  rw [htext, splitLines_unlines]
  · rfl
  · simp only [List.forall_mem_append]
    exact ⟨⟨⟨⟨hopening, by decide⟩, hbody⟩, by decide⟩, hclosing⟩

/-- The digits in a guard are no line feeds. -/
theorem not_mem_guard (fileName : String) : '\n' ∉ (guard fileName).toList := by
  have hdigit : ∀ n < 16, (Bytes.hexDigit n).toUpper ≠ '\n' := by decide
  simp only [guard, Bytes.hexUpper, Bytes.hexDigits, String.toList_append, String.toList_ofList,
    List.mem_append, List.mem_map, List.mem_flatMap, not_or, not_exists, not_and]
  refine ⟨⟨by decide, ?_⟩, by decide⟩
  rintro c ⟨b, -, hc⟩
  simp only [List.mem_cons, List.not_mem_nil, or_false] at hc
  have hb := b.toNat_lt
  rcases hc with rfl | rfl
  · exact hdigit _ (by omega)
  · exact hdigit _ (by omega)

/-! ### Reading the declarations back -/

/-- The lines of the block of declarations, without the blank ones around it. -/
def declared (header : String) : List String :=
  let block := ((splitLines header.toList).dropWhile (· ≠ blockOpening.toList)).drop 3
  (block.takeWhile (· ≠ blockClosing.toList)).dropLast.map String.ofList

/-- The declarations of a header are read back from its block. -/
theorem declared_render {guard : String} {decls : List String} (hguard : '\n' ∉ guard.toList)
    (hdecls : ∀ decl ∈ decls, '\n' ∉ decl.toList ∧ '/' ∈ decl.toList) :
    declared (render guard decls) = decls.map trimEnd := by
  -- no line before the block is the one that opens it
  have hopening : ∀ line ∈ (openingLines guard).map String.toList,
      decide (line ≠ blockOpening.toList) := by
    have hprefixed {before : String} (hbefore : before.toList.head? = some '#') :
        decide ((before ++ guard).toList ≠ blockOpening.toList) := by
      rw [decide_eq_true_eq, String.toList_append]
      intro heq
      have hhead := congrArg List.head? heq
      rw [List.head?_append, hbefore, Option.some_or] at hhead
      revert hhead
      decide
    simp only [openingLines, List.map_cons, List.map_nil, List.forall_mem_cons]
    exact ⟨hprefixed (by decide), hprefixed (by decide), by decide⟩
  -- a line with a slash is not the one behind the block
  have hbody : ∀ line ∈ (decls.map trimEnd).map String.toList,
      decide (line ≠ blockClosing.toList) := by
    intro line hline
    simp only [List.mem_map, exists_exists_and_eq_and] at hline
    obtain ⟨decl, hdecl, rfl⟩ := hline
    have hslash : '/' ∈ (trimEnd decl).toList := by
      rw [trimEnd, String.toList_ofList]
      exact mem_dropBlankEnd (hdecls decl hdecl).2 (by decide)
    have hplain : '/' ∉ blockClosing.toList := by decide
    rw [decide_eq_true_eq]
    exact fun heq ↦ hplain (heq ▸ hslash)
  have hblock : ((splitLines (render guard decls).toList).dropWhile
      (· ≠ blockOpening.toList)).drop 3 = (decls.map trimEnd).map String.toList ++
        ([] :: blockClosing.toList :: ((closingLines guard).map String.toList ++ [[]])) := by
    rw [splitLines_render hguard fun decl hdecl ↦ (hdecls decl hdecl).1]
    simp only [List.map_append, List.append_assoc]
    rw [List.dropWhile_append_of_pos hopening]
    simp
  have hblank : ([] : List Char) ≠ blockClosing.toList := by decide
  rw [declared, hblock, List.takeWhile_append_of_pos hbody]
  simp [hblank, Function.comp_def]

/-- The declarations are the lines of the listing in which the source occurs. -/
theorem declarations_eq (listing source : String) :
    declarations listing source = ((lines listing.toList).map String.ofList).filter fun line ↦
      source.toList <:+: line.toList := by
  rw [declarations, List.filter_map]
  congr 1
  refine List.filter_congr fun line _ ↦ ?_
  rw [Bool.eq_iff_iff, occursIn_iff, Function.comp_apply, decide_eq_true_eq, String.toList_ofList]

/-- The declarations of a source with a slash in its path are read back from its header. -/
theorem declared_declarations {source : String} (hsource : '/' ∈ source.toList)
    (fileName listing : String) :
    declared (render (guard fileName) (declarations listing source)) =
      (declarations listing source).map trimEnd := by
  refine declared_render (not_mem_guard fileName) fun decl hdecl ↦ ?_
  rw [declarations_eq, List.mem_filter, decide_eq_true_eq] at hdecl
  obtain ⟨hline, hoccurs⟩ := hdecl
  obtain ⟨line, hmem, rfl⟩ := List.mem_map.mp hline
  rw [String.toList_ofList] at hoccurs ⊢
  exact ⟨not_mem_of_mem_lines hmem, hoccurs.subset hsource⟩

end Header

/-- An absolute path shows its first slash. -/
theorem Path.slash_mem_text {p : Path} (h : p.isAbsolute) : '/' ∈ p.text.toList := by
  rw [isAbsolute, beq_iff_eq, List.head?_eq_some_iff] at h
  obtain ⟨rest, hbytes⟩ := h
  have hlead : Utf8.lead? slash.toNat = some ⟨0, 0, 0, 0x2F⟩ := rfl
  rw [text, Utf8.text, hbytes, String.toList_ofList, Utf8.decodeLossy, hlead]
  exact List.mem_cons_self

end KernelForge
