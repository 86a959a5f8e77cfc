import KernelForge.Proofs.Disk.Scratch
import KernelForge.Store.Basic

/-!
# Writing a prepared source

A prepared source is written under a scratch name and renamed. Either it stands complete under its
own name, in place of what stood there, or the tree shows what it showed before. Main statement:
`writeSource_cases`.
-/

namespace KernelForge.Store

open Files

/-- Work on the files leaves the rest of the host alone. -/
theorem onFile_run {α : Type} (p : Path) (act : Act Files Cause α) (h : Host) :
    (onFile p act).runFrom h = ((act.runFrom h.files).1.mapError (.storeWrite p),
      { h with files := (act.runFrom h.files).2 }) := rfl

section Settle

variable {f f' : Files} {scratch p : Path} {place : Place} {last : Bytes} {n : Node}

/-- A scratch file that is settled stands under its own name, or is gone. -/
theorem settle_cases (hf : f.WellFormed) (hscratch : f.Locates scratch place last)
    (hslash : scratch.isSlashed = false) (hn : f.disk.node? (place ++ [last]) = some n)
    (hfile : ∀ s, n ≠ .directory s) :
    (∃ cause f', (settle scratch p).runFrom f = (.error cause, f') ∧ f.Reaches f' fun q ↦
        if q = place ++ [last] then none else f.disk.node? q) ∨
      ∃ place' last' f', (settle scratch p).runFrom f = (.ok (), f') ∧
        f.ending p = .ok (.entry place' last') ∧ ¬ nameLimit < last'.length ∧
        (∀ s, f.disk.node? (place' ++ [last']) ≠ some (.directory s)) ∧ f.Reaches f' fun q ↦
          if q = place' ++ [last'] then some n
          else if q = place ++ [last] then none else f.disk.node? q := by
  obtain ⟨f₁, hremove, hreaches⟩ := removeFile_run hf hscratch.ending hslash hn hfile
  rw [settle]
  split
  · -- a name with a zero byte
    refine Or.inl ⟨.invalid, f₁, ?_, hreaches⟩
    simp [Act.runFrom_bind, hremove]
  · rcases hr : (rename scratch p).runFrom f with ⟨cause | _, f₂⟩
    · have := edit_error hr
      subst this
      refine Or.inl ⟨cause, f₁, ?_, hreaches⟩
      simp [Act.runFrom_bind, hr, hremove]
    · obtain ⟨place', last', hend, hshort, hgone, hmoved⟩ :=
        rename_ok hf hscratch.ending hn hfile hr
      refine Or.inr ⟨place', last', f₂, ?_, hend, hshort, hgone, hmoved⟩
      simp [Act.runFrom_bind, hr]

/-- A text is written to a file that was just made; besides that, the tree shows what it showed. -/
private theorem write_made {serial : Nat} (hf : f.WellFormed)
    (hscratch : f.Locates scratch place last) (hslash : scratch.isSlashed = false)
    (hshort : ¬ nameLimit < last.length) (hnone : f.disk.node? (place ++ [last]) = none)
    (h : f.Reaches f' fun q ↦
      if q = place ++ [last] then some (.file serial [] false) else f.disk.node? q)
    (content : Bytes) :
    ∃ f'', (write scratch content).runFrom f' = (.ok (), f'') ∧ f.Reaches f'' fun q ↦
      if q = place ++ [last] then some (.file serial content false) else f.disk.node? q := by
  have hlocates := hscratch.extends hf h.wellFormed h.here fun q n hn _ ↦ h.stays_of_free hnone hn
  have hn := h.shows (place ++ [last])
  rw [if_pos rfl] at hn
  obtain ⟨f'', hwrite, hreaches⟩ := hlocates.write_run h.wellFormed hslash hshort hn content
  refine ⟨f'', hwrite, hreaches.wellFormed, hreaches.here.trans h.here, fun q ↦ ?_⟩
  rw [hreaches.shows]
  split
  · rfl
  · next hq => rw [h.shows, if_neg hq]

/-- Writing remembers the removed directories. -/
private theorem removed_write (scratch : Path) (content : Bytes) (f : Files) :
    ((write scratch content).runFrom f).2.disk.removed = f.disk.removed := by
  rw [write, alter, fill_run]
  split
  · simp only [filled]
    split
    · rfl
    · split <;> rfl
  · rfl

private theorem removed_createFile (p : Path) (f : Files) :
    ((createFile p).runFrom f).2.disk.removed = f.disk.removed := by
  rcases hr : (createFile p).runFrom f with ⟨cause | _, f'⟩
  · rw [edit_error hr]
  · obtain ⟨place, last, -, -, -, rfl⟩ := make_ok hr
    rfl

private theorem removed_createScratch (style : ScratchStyle) (directory : Path) (f : Files) :
    ((createScratch style directory createFile).runFrom f).2.disk.removed = f.disk.removed := by
  rw [createScratch_run]
  split
  · next base _ =>
    obtain ⟨drawn, ⟨cause, hrun⟩ | ⟨n, f', hcreated, hrun⟩⟩ :=
      tryNames_run creates_createFile style base UInt16.size f
    · rw [hrun]
    · rw [hrun]
      have := removed_createFile (base.joinText (style.name n)) { f with drawn }
      rwa [hcreated] at this
  · rfl

end Settle

theorem isPlain_tmp : ScratchStyle.IsPlain ⟨".tmp", ""⟩ := by
  constructor <;> decide

section WriteSource

variable {h : Host} (s : Store) (paths : ArtifactPaths) (source : String)

/-- A prepared source stands complete under the name that its path ends in, in place of what stood
there, or nothing shows that it was tried to be written. A relative directory of the store is one
below the current directory, which is there. -/
theorem writeSource_ends (hf : h.files.WellFormed) :
    (∃ error f', (s.writeSource paths source).runFrom h = (.error error, { h with files := f' }) ∧
        h.files.Reaches f' h.files.disk.node?) ∨
      ∃ place last serial f',
        (s.writeSource paths source).runFrom h = (.ok (), { h with files := f' }) ∧
        h.files.ending paths.source = .ok (.entry place last) ∧ ¬ nameLimit < last.length ∧
        (∀ s, h.files.disk.node? (place ++ [last]) ≠ some (.directory s)) ∧
        (s.directory.isAbsolute ∨ ∃ here, h.files.disk.spotOf h.files.here = .place here) ∧
        h.files.Reaches f' fun q ↦ if q = place ++ [last] then
          some (.file serial (utf8 source) false) else h.files.disk.node? q := by
  rw [writeSource, onFile_run]
  generalize h.files = f at hf ⊢
  rcases hr : (createScratch ⟨".tmp", ""⟩ s.directory createFile).runFrom f with
    ⟨cause | scratch, f₁⟩
  · obtain ⟨drawn, rfl⟩ := createScratch_error creates_createFile hr
    rw [Act.runFrom_bind_error hr]
    exact Or.inl ⟨_, _, rfl, ⟨hf.disk, hf.here⟩, rfl, fun _ ↦ rfl⟩
  obtain ⟨T, name, -, hslash, hstart, hscratch, hshort, hnone, h₁⟩ :=
    createScratch_ok hf isPlain_tmp creates_createFile hr
  obtain ⟨f₂, hwrite, h₂⟩ :=
    write_made hf hscratch hslash hshort hnone h₁ (utf8 source)
  have hremoved : f₂.disk.removed = f.disk.removed := by
    have hmade := removed_createScratch ⟨".tmp", ""⟩ s.directory f
    have hwritten := removed_write scratch (utf8 source) f₁
    rw [hr] at hmade
    rw [hwrite] at hwritten
    exact hwritten.trans hmade
  rw [Act.runFrom_bind_ok hr, Act.runFrom_bind_ok hwrite]
  have hn₂ := h₂.shows (T ++ [name])
  rw [if_pos rfl] at hn₂
  -- a file is new, which no lookup passes, so each tree extends the other one
  have hext : f.disk.Extends f₂.disk := fun q n hn _ ↦ h₂.stays_of_free hnone hn
  have hback : f₂.disk.Extends f.disk := by
    intro q n hn hway
    rw [h₂.shows] at hn
    split at hn
    · rw [Option.some.injEq] at hn
      subst hn
      cases hway
    · exact hn
  have hscratch₂ := hscratch.extends hf h₂.wellFormed h₂.here hext
  rcases settle_cases h₂.wellFormed hscratch₂ hslash hn₂ (by simp) with
    ⟨cause, f₃, hsettle, h₃⟩ | ⟨P, last, f₃, hsettle, hend, hshort', hgone, h₃⟩
  · refine Or.inl ⟨_, f₃, by rw [hsettle]; rfl, h₃.wellFormed, h₃.here.trans h₂.here, fun q ↦ ?_⟩
    rw [h₃.shows]
    split
    · next hq => rw [hq, hnone]
    · next hq => rw [h₂.shows, if_neg hq]
  · refine Or.inr ⟨P, last, f.disk.next, f₃, by rw [hsettle]; rfl,
      ending_same h₂.wellFormed hf h₂.here.symm hremoved.symm hback hext hend, hshort', ?_, hstart,
      h₃.wellFormed, h₃.here.trans h₂.here, fun q ↦ ?_⟩
    · exact fun s hs ↦ hgone s (hext _ _ hs rfl)
    · rw [h₃.shows]
      split
      · rfl
      · split
        · next hq => rw [hq, hnone]
        · next hq => rw [h₂.shows, if_neg hq]

/-- A prepared source stands complete under its own name afterwards, in place of what stood there,
or nothing shows that it was tried to be written. -/
theorem writeSource_cases (hf : h.files.WellFormed)
    (habsolute : s.directory.isAbsolute → paths.source.isAbsolute) :
    (∃ error f', (s.writeSource paths source).runFrom h = (.error error, { h with files := f' }) ∧
        h.files.Reaches f' h.files.disk.node?) ∨
      ∃ place last serial f',
        (s.writeSource paths source).runFrom h = (.ok (), { h with files := f' }) ∧
        h.files.Locates paths.source place last ∧ ¬ nameLimit < last.length ∧
        (∀ s, h.files.disk.node? (place ++ [last]) ≠ some (.directory s)) ∧
        h.files.Reaches f' fun q ↦ if q = place ++ [last] then
          some (.file serial (utf8 source) false) else h.files.disk.node? q := by
  rcases writeSource_ends s paths source hf with
    hfailed | ⟨place, last, serial, f', hrun, hend, hshort, hgone, hstart, hreaches⟩
  · exact Or.inl hfailed
  · exact Or.inr ⟨place, last, serial, f', hrun,
      locates_of_spotOf (hstart.imp_left habsolute) hend, hshort, hgone, hreaches⟩

end WriteSource

end KernelForge.Store
