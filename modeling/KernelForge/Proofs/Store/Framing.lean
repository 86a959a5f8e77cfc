import KernelForge.Proofs.Store.Separation

/-!
# What the bytes under a digest tell

The entry and the source are set on either side of a zero byte. These bytes tell both, unless an
entry has a zero character of its own: then that one can be taken for the byte between the two, and
what stands behind it for a part of the source. Main statements: `framed_eq_iff` and `of_eq_iff`.
-/

namespace KernelForge.StoreKey

/-- The character whose byte parts the entry from the source. -/
def separator : Char := '\x00'

/-- The first entry goes on where the second one ends, with a separator of its own and a text that
the second source has in front of its rest, the first source. -/
def Slides (entry source entry' source' : String) : Prop :=
  ∃ moved, entry = entry' ++ String.singleton separator ++ moved ∧
    source' = moved ++ String.singleton separator ++ source

variable {entry entry' source source' : String}

/-- Two lists that each have a separator somewhere are equal if the same stands before and behind
it, or if the separator of the one stands inside the other, before or behind the other separator. -/
private theorem append_cons_eq_iff {α : Type} {x : α} {a b a' b' : List α} :
    a ++ x :: b = a' ++ x :: b' ↔ (a = a' ∧ b = b') ∨
      (∃ m, a = a' ++ x :: m ∧ b' = m ++ x :: b) ∨ ∃ m, a' = a ++ x :: m ∧ b = m ++ x :: b' := by
  rw [List.append_eq_append_iff]
  constructor
  · rintro (⟨m, rfl, h⟩ | ⟨m, rfl, h⟩)
    · cases m with
      | nil => simp_all
      | cons y m =>
        rw [List.cons_append, List.cons.injEq] at h
        obtain ⟨rfl, hb⟩ := h
        exact Or.inr (Or.inr ⟨m, rfl, hb⟩)
    · cases m with
      | nil => simp_all
      | cons y m =>
        rw [List.cons_append, List.cons.injEq] at h
        obtain ⟨rfl, hb⟩ := h
        exact Or.inr (Or.inl ⟨m, rfl, hb⟩)
  · rintro (⟨rfl, rfl⟩ | ⟨m, rfl, rfl⟩ | ⟨m, rfl, rfl⟩)
    · exact Or.inl ⟨[], by simp⟩
    · exact Or.inr ⟨x :: m, by simp⟩
    · exact Or.inl ⟨x :: m, by simp⟩

/-- A text slides if its characters do. -/
private theorem slides_iff_toList : Slides entry source entry' source' ↔
    ∃ moved, entry.toList = entry'.toList ++ separator :: moved ∧
      source'.toList = moved ++ separator :: source.toList := by
  constructor
  · rintro ⟨moved, rfl, rfl⟩
    exact ⟨moved.toList, by simp, by simp⟩
  · rintro ⟨moved, hentry, hsource⟩
    refine ⟨String.ofList moved, String.toList_inj.mp ?_, String.toList_inj.mp ?_⟩
    · simp [hentry]
    · simp [hsource]

/-- An entry without a separator does not slide. -/
theorem not_slides (h : separator ∉ entry.toList) : ¬ Slides entry source entry' source' := by
  rintro ⟨moved, rfl, -⟩
  simp at h

/-- The bytes under a digest are those of one text. -/
theorem framed_eq (entry source : String) :
    framed entry source = utf8 (entry ++ String.singleton separator ++ source) := by
  have hzero : utf8 (String.singleton separator) = [0] := by decide
  rw [framed, utf8_append, utf8_append, hzero, List.append_assoc, List.singleton_append]

/-- The bytes under two digests are the same exactly if entry and source are, or one entry slides
into the other source. -/
theorem framed_eq_iff : framed entry source = framed entry' source' ↔
    (entry = entry' ∧ source = source') ∨ Slides entry source entry' source' ∨
      Slides entry' source' entry source := by
  rw [framed_eq, framed_eq, utf8_inj, ← String.toList_inj]
  simp only [String.toList_append, String.toList_singleton, List.append_assoc,
    List.singleton_append]
  rw [append_cons_eq_iff, String.toList_inj, String.toList_inj, slides_iff_toList,
    slides_iff_toList]

/-- Two keys are the same exactly if the bytes under the digests are, or collide. -/
theorem of_eq_iff : of entry source = of entry' source' ↔
    framed entry source = framed entry' source' ∨
      Sha256.Collision (framed entry source) (framed entry' source') := by
  constructor
  · exact framed_eq_or_collision
  · rintro (h | ⟨-, h⟩)
    · rw [of, h, ← of]
    · rw [of, h, ← of]

/-- What two entries with their sources have in common if the bytes under the digests, or the keys,
are the same. Entries without a zero character are told with their sources by these bytes, and
unless two different byte strings collide, by the keys; the same holds of all entries that do not
slide, and of no others. -/
theorem pairs_told (entry source entry' source' : String) :
    (framed entry source = framed entry' source' ↔
      (entry = entry' ∧ source = source') ∨ Slides entry source entry' source' ∨
        Slides entry' source' entry source) ∧
    (separator ∉ entry.toList → separator ∉ entry'.toList →
      (framed entry source = framed entry' source' ↔ entry = entry' ∧ source = source') ∧
      (of entry source = of entry' source' ↔ (entry = entry' ∧ source = source') ∨
        Sha256.Collision (framed entry source) (framed entry' source'))) := by
  refine ⟨framed_eq_iff, fun hentry hentry' ↦ ?_⟩
  have hframed : framed entry source = framed entry' source' ↔
      entry = entry' ∧ source = source' := by
    rw [framed_eq_iff]
    have hslides : ¬ Slides entry source entry' source' := not_slides hentry
    have hslides' : ¬ Slides entry' source' entry source := not_slides hentry'
    tauto
  exact ⟨hframed, by rw [of_eq_iff, hframed]⟩

/-- A letter that is set in front of the source instead of behind the entry is told. -/
theorem pairs_told_letter : separator ∉ "ab".toList ∧ separator ∉ "a".toList ∧
    framed "ab" "c" ≠ framed "a" "bc" := by
  have h : separator ∉ "ab".toList := by decide
  have h' : separator ∉ "a".toList := by decide
  refine ⟨h, h', fun hframed ↦ ?_⟩
  have := (((pairs_told "ab" "c" "a" "bc").2 h h').1.mp hframed).1
  exact absurd this (by decide)

/-- A zero character in the entry is taken for the separator, and the key is the same. -/
theorem pairs_told_separator : framed "a\x00b" "c" = framed "a" "b\x00c" ∧
    of "a\x00b" "c" = of "a" "b\x00c" ∧ ¬ ("a\x00b" = "a" ∧ "c" = "b\x00c") := by
  have h : framed "a\x00b" "c" = framed "a" "b\x00c" := by decide
  exact ⟨h, of_eq_iff.mpr (Or.inl h), by decide⟩

end KernelForge.StoreKey
