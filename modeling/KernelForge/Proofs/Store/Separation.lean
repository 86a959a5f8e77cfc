import KernelForge.Proofs.Act
import KernelForge.Proofs.Store.Names
import KernelForge.Store.Basic

/-!
# Paths that differ

The path of a file in the store is a text that tells the role of the file, the entry and the source,
whatever these are, unless two different byte strings with one digest are known. An entry may even
be an absolute path, which leads away from the store: it is told by the bytes under the digest.
Main statement: `resolve_separates`.
-/

namespace KernelForge

/-! ### What a key tells -/

namespace Bytes

private theorem hexDigit_inj : ∀ m n : Fin 16, hexDigit m = hexDigit n → m = n := by
  decide

/-- A byte is known by its two digits. -/
private theorem byte_inj {a b : UInt8} (hhigh : hexDigit (a.toNat / 16) = hexDigit (b.toNat / 16))
    (hlow : hexDigit (a.toNat % 16) = hexDigit (b.toNat % 16)) : a = b := by
  have ha := a.toNat_lt
  have hb := b.toNat_lt
  have hhigh' := hexDigit_inj ⟨a.toNat / 16, by omega⟩ ⟨b.toNat / 16, by omega⟩ hhigh
  have hlow' := hexDigit_inj ⟨a.toNat % 16, by omega⟩ ⟨b.toNat % 16, by omega⟩ hlow
  rw [Fin.mk.injEq] at hhigh' hlow'
  apply UInt8.toNat_inj.mp
  omega

/-- Bytes are known by their digits. -/
theorem hex_inj {bytes bytes' : Bytes} (h : hex bytes = hex bytes') : bytes = bytes' := by
  rw [hex, hex, String.ofList_inj] at h
  induction bytes generalizing bytes' with
  | nil =>
    cases bytes' with
    | nil => rfl
    | cons b rest => simp [hexDigits] at h
  | cons a rest ih =>
    cases bytes' with
    | nil => simp [hexDigits] at h
    | cons b rest' =>
      simp only [hexDigits, List.flatMap_cons, List.cons_append, List.nil_append,
        List.cons.injEq] at h
      obtain ⟨hhigh, hlow, hrest⟩ := h
      rw [byte_inj hhigh hlow, ih hrest]

end Bytes

/-- Two different byte strings with one digest. -/
def Sha256.Collision (bytes bytes' : Bytes) : Prop := bytes ≠ bytes' ∧ digest bytes = digest bytes'

namespace StoreKey

/-- Two entries with their sources that have one key are the same bytes, or these collide. -/
theorem framed_eq_or_collision {entry entry' source source' : String}
    (h : of entry source = of entry' source') : framed entry source = framed entry' source' ∨
      Sha256.Collision (framed entry source) (framed entry' source') := by
  have hdigest := Bytes.hex_inj (StoreKey.mk.inj h)
  by_cases hframed : framed entry source = framed entry' source'
  · exact Or.inl hframed
  · exact Or.inr ⟨hframed, hdigest⟩

end StoreKey

namespace ArtifactPaths

variable {directory : Path} {entry entry' source source' : String} {t t' : Bytes}

/-! ### What a path tells -/

/-- Whether an entry is an absolute path is seen from the bytes under the digest. -/
theorem isAbsolute_eq_framed (entry source : String) :
    (Path.ofString (entry ++ "_")).isAbsolute =
      ((StoreKey.framed entry source).head? == some Path.slash) := by
  rw [Path.isAbsolute, Path.ofString, utf8_append, StoreKey.framed]
  cases utf8 entry with
  | nil => rfl
  | cons b rest => rfl

/-- A path is a directory, or nothing, and then the entry, the key and the end. -/
theorem withEnd_stem (directory : Path) (entry source : String) (t : Bytes) :
    ((stem directory entry source).withEnd t).bytes =
      (directory.joinText (entry ++ "_")).bytes ++ utf8 (StoreKey.of entry source).text ++ t := by
  have hne : entry ++ "_" ≠ "" := by
    intro h
    have := congrArg String.toList h
    simp at this
  rw [stem, directory.joinText_append hne]
  rfl

/-- A path tells the text that was joined to the directory, among texts that are all absolute paths
or all relative ones. -/
theorem joinText_inj (h : (directory.joinText entry).bytes = (directory.joinText entry').bytes)
    (habsolute : (Path.ofString entry).isAbsolute = (Path.ofString entry').isAbsolute) :
    entry = entry' := by
  have hbytes : (Path.ofString entry).bytes = (Path.ofString entry').bytes := by
    rw [Path.joinText, Path.joinText, Path.join, Path.join, habsolute] at h
    split at h
    · exact h
    · split at h
      · exact List.append_cancel_left h
      · exact (List.cons.inj (List.append_cancel_left h)).2
  exact utf8_inj.mp hbytes

/-- A path tells its end, and it tells the entry and the source unless two byte strings collide. -/
theorem withEnd_inj (ht : IsEnd t) (ht' : IsEnd t')
    (h : (stem directory entry source).withEnd t = (stem directory entry' source').withEnd t') :
    t = t' ∧ (entry = entry' ∧ source = source' ∨
      Sha256.Collision (StoreKey.framed entry source) (StoreKey.framed entry' source')) := by
  have hbytes := congrArg Path.bytes h
  rw [withEnd_stem, withEnd_stem] at hbytes
  obtain ⟨hend, hname, hkey⟩ := keyed_inj ht ht' hbytes
  refine ⟨hend, ?_⟩
  rcases StoreKey.framed_eq_or_collision hkey with hframed | hcollision
  · left
    -- a name that leads away from the directory has a slash in front under the digest as well
    have habsolute : (Path.ofString (entry ++ "_")).isAbsolute =
        (Path.ofString (entry' ++ "_")).isAbsolute := by
      rw [isAbsolute_eq_framed entry source, isAbsolute_eq_framed entry' source', hframed]
    have hentry : entry = entry' :=
      (String.append_left_inj "_").mp (joinText_inj hname habsolute)
    subst hentry
    rw [StoreKey.framed, StoreKey.framed] at hframed
    exact ⟨rfl, utf8_inj.mp (List.cons.inj (List.append_cancel_left hframed)).2⟩
  · exact Or.inr hcollision

/-- A kind is known by the end of the name. -/
theorem ending_inj {kind kind' : ArtifactKind} (h : utf8 kind.ending = utf8 kind'.ending) :
    kind = kind' := by
  cases kind <;> cases kind' <;> first | rfl | exact absurd h (by decide)

/-- Paths of different roles differ. -/
theorem roles_differ (directory : Path) (entry entry' source source' : String)
    (kind kind' : ArtifactKind) :
    let paths := of directory entry (StoreKey.of entry source) kind
    let paths' := of directory entry' (StoreKey.of entry' source') kind'
    paths.artifact ≠ paths'.source ∧ paths.artifact ≠ paths'.header ∧
      paths.source ≠ paths'.header := by
  simp only [artifact_eq, source_eq, header_eq]
  refine ⟨fun h ↦ ?_, fun h ↦ ?_, fun h ↦ ?_⟩
  · exact ending_ne_c _ (withEnd_inj (isEnd_ending _) isEnd_c h).1
  · exact ending_ne_h _ (withEnd_inj (isEnd_ending _) isEnd_h h).1
  · exact absurd (withEnd_inj isEnd_c isEnd_h h).1 (by decide)

/-- Without a collision, paths of one role are equal when the entry, the source and, for the
artifact, the kind are. -/
theorem of_inj (directory : Path) (kind kind' : ArtifactKind)
    (hcollision : ¬ Sha256.Collision (StoreKey.framed entry source)
      (StoreKey.framed entry' source')) :
    let paths := of directory entry (StoreKey.of entry source) kind
    let paths' := of directory entry' (StoreKey.of entry' source') kind'
    (paths.artifact = paths'.artifact ↔ entry = entry' ∧ source = source' ∧ kind = kind') ∧
      (paths.source = paths'.source ↔ entry = entry' ∧ source = source') ∧
      (paths.header = paths'.header ↔ entry = entry' ∧ source = source') := by
  simp only [artifact_eq, source_eq, header_eq]
  refine ⟨⟨fun h ↦ ?_, ?_⟩, ⟨fun h ↦ ?_, ?_⟩, ⟨fun h ↦ ?_, ?_⟩⟩
  · obtain ⟨hend, hsame⟩ := withEnd_inj (isEnd_ending kind) (isEnd_ending kind') h
    obtain ⟨hentry, hsource⟩ := hsame.resolve_right hcollision
    exact ⟨hentry, hsource, ending_inj hend⟩
  · rintro ⟨rfl, rfl, rfl⟩
    rfl
  · exact (withEnd_inj isEnd_c isEnd_c h).2.resolve_right hcollision
  · rintro ⟨rfl, rfl⟩
    rfl
  · exact (withEnd_inj isEnd_h isEnd_h h).2.resolve_right hcollision
  · rintro ⟨rfl, rfl⟩
    rfl

end ArtifactPaths

/-- Two resolutions in one store, of whatever entries and sources, on whatever hosts. Their paths
never coincide across the roles of artifact, source and header; and unless the bytes under the two
digests collide, the artifacts have one path just when entry, source and kind are the same, and the
sources, like the headers, just when entry and source are. -/
theorem Store.resolve_separates (s : Store) (entry₁ source₁ : String) (kind₁ : ArtifactKind)
    (entry₂ source₂ : String) (kind₂ : ArtifactKind) (h₁ h₂ : Host) :
    ∃ r₁ r₂ : Resolution,
      ((s.resolve (ε := KernelError) entry₁ source₁ kind₁).runFrom h₁).1 = .ok r₁ ∧
      ((s.resolve (ε := KernelError) entry₂ source₂ kind₂).runFrom h₂).1 = .ok r₂ ∧
      (∀ a ∈ [r₁.paths, r₂.paths], ∀ b ∈ [r₁.paths, r₂.paths],
        a.artifact ≠ b.source ∧ a.artifact ≠ b.header ∧ a.source ≠ b.header) ∧
      (Sha256.Collision (StoreKey.framed entry₁ source₁) (StoreKey.framed entry₂ source₂) ∨
        (r₁.paths.artifact = r₂.paths.artifact ↔
          entry₁ = entry₂ ∧ source₁ = source₂ ∧ kind₁ = kind₂) ∧
        (r₁.paths.source = r₂.paths.source ↔ entry₁ = entry₂ ∧ source₁ = source₂) ∧
        (r₁.paths.header = r₂.paths.header ↔ entry₁ = entry₂ ∧ source₁ = source₂)) := by
  refine ⟨_, _, rfl, rfl, ?_, ?_⟩
  · intro a ha b hb
    simp only [List.mem_cons, List.not_mem_nil, or_false] at ha hb
    rcases ha with rfl | rfl <;> rcases hb with rfl | rfl <;>
      exact ArtifactPaths.roles_differ s.directory _ _ _ _ _ _
  · by_cases hcollision : Sha256.Collision (StoreKey.framed entry₁ source₁)
        (StoreKey.framed entry₂ source₂)
    · exact Or.inl hcollision
    · exact Or.inr (ArtifactPaths.of_inj s.directory kind₁ kind₂ hcollision)

end KernelForge
