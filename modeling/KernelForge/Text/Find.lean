/-!
# Looking for a text, and lines

The first occurrence of a text is found from the left. Main statements: the two parts of a text cut
at the first occurrence give the text back, and the second part starts with what was looked for
(`cutAt_eq_some`); there is no cut exactly where there is no occurrence (`cutAt_eq_none_iff`).
-/

namespace KernelForge.Text

/-- Cuts `text` before the first occurrence of `needle`. -/
def cutAt (needle : List Char) (text : List Char) : Option (List Char × List Char) :=
  if needle.isPrefixOf text then some ([], text)
  else
    match text with
    | [] => none
    | c :: rest => (cutAt needle rest).map fun (before, found) ↦ (c :: before, found)

/-- The two parts of a cut give the text back, and the second starts with what was looked for. -/
theorem cutAt_eq_some {needle text before found : List Char}
    (h : cutAt needle text = some (before, found)) : before ++ found = text ∧ needle <+: found := by
  induction text generalizing before with
  | nil =>
    unfold cutAt at h
    split at h
    · next hp =>
      obtain ⟨rfl, rfl⟩ := Prod.mk.inj (Option.some.inj h)
      exact ⟨rfl, List.isPrefixOf_iff_prefix.1 hp⟩
    · simp at h
  | cons c rest ih =>
    unfold cutAt at h
    split at h
    · next hp =>
      obtain ⟨rfl, rfl⟩ := Prod.mk.inj (Option.some.inj h)
      exact ⟨rfl, List.isPrefixOf_iff_prefix.1 hp⟩
    · obtain ⟨⟨b, f⟩, hcut, heq⟩ := Option.map_eq_some_iff.1 h
      obtain ⟨rfl, rfl⟩ := Prod.mk.inj heq
      obtain ⟨hjoin, hp⟩ := ih hcut
      exact ⟨by simp [hjoin], hp⟩

/-- There is no cut exactly where `needle` does not occur. -/
theorem cutAt_eq_none_iff {needle text : List Char} :
    cutAt needle text = none ↔ ¬ needle <:+: text := by
  induction text with
  | nil => cases needle <;> simp [cutAt]
  | cons c rest ih =>
    rw [cutAt, List.infix_cons_iff, ← List.isPrefixOf_iff_prefix]
    by_cases hp : needle.isPrefixOf (c :: rest) <;> simp [hp, ih]

/-- Whether `needle` occurs in `text`. -/
def occursIn (needle text : List Char) : Bool := (cutAt needle text).isSome

/-- The pieces of `text` between line feeds; after the last line feed comes the last piece, which
may be empty. -/
def splitLines : List Char → List (List Char)
  | [] => [[]]
  | c :: rest =>
    if c = '\n' then [] :: splitLines rest
    else
      match splitLines rest with
      | [] => [[c]]
      | piece :: pieces => (c :: piece) :: pieces

/-- `line` without a carriage return at its end. -/
def dropReturn (line : List Char) : List Char :=
  if line.getLast? = some '\r' then line.dropLast else line

/-- The lines of `text`: a line feed ends a line, a carriage return before it belongs to the end,
and what follows the last line feed is a line unless it is empty. -/
def lines (text : List Char) : List (List Char) :=
  let pieces := splitLines text
  pieces.dropLast.map dropReturn ++ pieces.getLast?.toList.filter (· ≠ [])

end KernelForge.Text
