import KernelForge.Proofs.Disk.Scratch

/-!
# Artifacts that are there for good

A path is settled once a regular file stands under its name, or a file is in the way that leads to
it. Neither is undone while directories and files stay, nor by others who spare the path.
Main statements: `Settled.evolves` and `Settled.spares`.
-/

namespace KernelForge.Files

variable {f f' f'' : Files} {p : Path}

/-- From `f` to `f'`, what stood stays, though a file may be another one. -/
structure Evolves (f f' : Files) : Prop where
  /-- The tree can arise. -/
  wellFormed : f'.WellFormed
  /-- The current directory is the same. -/
  here : f'.here = f.here
  /-- What stood stays. -/
  keeps : f.disk.Keeps f'.disk

namespace Evolves

theorem refl (hf : f.WellFormed) : f.Evolves f := ⟨hf, rfl, .refl _⟩

theorem trans (h : f.Evolves f') (h' : f'.Evolves f'') : f.Evolves f'' :=
  ⟨h'.wellFormed, h'.here.trans h.here, h.keeps.trans h'.keeps⟩

end Evolves

theorem Grows.evolves {paths : List Path} (h : f.Grows f' paths) : f.Evolves f' :=
  ⟨h.wellFormed, h.here, h.keeps⟩

/-- From `f` to `f'`, what stands under the names of some `paths` is spared. -/
structure Spares (paths : Path → Prop) (f f' : Files) : Prop where
  /-- The tree can arise. -/
  wellFormed : f'.WellFormed
  /-- The name of a path is located where it was. -/
  locates : ∀ p, paths p → ∀ place last, f.Locates p place last → f'.Locates p place last
  /-- What stands under it is the same. -/
  shows : ∀ p, paths p → ∀ place last, f.Locates p place last →
    f'.disk.node? (place ++ [last]) = f.disk.node? (place ++ [last])
  /-- A file that is in the way goes on to be so. -/
  blocked : ∀ p, paths p → f.Blocked p → f'.Blocked p

namespace Spares

variable {paths : Path → Prop}

theorem refl (hf : f.WellFormed) : f.Spares paths f where
  wellFormed := hf
  locates _ _ _ _ hl := hl
  shows _ _ _ _ _ := rfl
  blocked _ _ hb := hb

theorem trans (h : f.Spares paths f') (h' : f'.Spares paths f'') : f.Spares paths f'' where
  wellFormed := h'.wellFormed
  locates p hp _ _ hl := h'.locates p hp _ _ (h.locates p hp _ _ hl)
  shows p hp _ _ hl :=
    (h'.shows p hp _ _ (h.locates p hp _ _ hl)).trans (h.shows p hp _ _ hl)
  blocked p hp hb := h'.blocked p hp (h.blocked p hp hb)

end Spares

/-- A regular file stands under the name of `p`, or a file is in the way. -/
inductive Settled (f : Files) (p : Path) : Prop where
  /-- A regular file stands there. -/
  | stands {place : Place} {last : Bytes} {n : Node} (locates : f.Locates p place last)
      (short : ¬ nameLimit < last.length) (node : f.disk.node? (place ++ [last]) = some n)
      (isFile : n.isFile)
  /-- A file is in the way. -/
  | blocked (blocked : f.Blocked p)

namespace Settled

theorem evolves (h : f.Settled p) (hf : f.WellFormed) (he : f.Evolves f') : f'.Settled p := by
  cases h with
  | stands locates short node isFile =>
    obtain ⟨n', hn', hfile'⟩ := he.keeps.file _ _ node isFile
    rcases locates.keeps hf he.wellFormed he.here he.keeps with hl | hb
    · exact .stands hl short hn' hfile'
    · exact .blocked hb
  | blocked hb => exact .blocked (hb.keeps hf he.wellFormed he.here he.keeps)

theorem spares {paths : Path → Prop} (h : f.Settled p) (hs : f.Spares paths f') (hp : paths p) :
    f'.Settled p := by
  cases h with
  | stands locates short node isFile =>
    exact .stands (hs.locates p hp _ _ locates) short ((hs.shows p hp _ _ locates).trans node)
      isFile
  | blocked hb => exact .blocked (hs.blocked p hp hb)

/-- What is settled is found, unless a file is in the way. -/
theorem isFile_or_blocked (h : f.Settled p) (hslash : p.isSlashed = false) :
    f.isFile p ∨ f.Blocked p := by
  cases h with
  | @stands _ _ n locates short node hfile =>
    left
    have hlink : ∀ t, n ≠ .link t := by
      rintro t rfl
      cases hfile
    rw [Files.isFile, locates.node_eq short node hlink (Or.inl hslash)]
    exact hfile
  | blocked hb => exact Or.inr hb

end Settled

end KernelForge.Files
