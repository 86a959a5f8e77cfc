import KernelForge.Proofs.Disk.Locations
import KernelForge.Proofs.Disk.Segments
import KernelForge.Store.Key

/-!
# The names of an artifact

The source, the artifact and the header of a key have one stem and differ in their ends, so that
they are looked up in one directory; the names tell keys and roles apart. Main statements:
`Locates.withEnd`, `source_eq`, `artifact_eq`, `header_eq`, `keyed_inj` and `lastPiece_inj`.
-/

namespace KernelForge

/-! ### Paths with one stem -/

section Stem

variable {f : Files} {stem : Path} {t t' : Bytes} {place : Place} {last : Bytes}

/-- A stem whose last piece is no dots, whatever is set behind it. -/
def Path.IsStem (stem : Path) : Prop := 2 < (lastPiece stem.bytes).length

namespace Path.IsStem

theorem lastPiece_ne_nil (h : stem.IsStem) : lastPiece stem.bytes ≠ [] := by
  intro hnil
  rw [IsStem, hnil] at h
  simp at h

theorem ne_dot (h : stem.IsStem) (t : Bytes) : lastPiece stem.bytes ++ t ≠ dot := by
  intro he
  have := congrArg List.length he
  rw [List.length_append, dot, List.length_singleton] at this
  rw [IsStem] at h
  omega

theorem ne_dotDot (h : stem.IsStem) (t : Bytes) : lastPiece stem.bytes ++ t ≠ dotDot := by
  intro he
  have := congrArg List.length he
  rw [List.length_append, dotDot, List.length_cons, List.length_singleton] at this
  rw [IsStem] at h
  omega

theorem getLast?_segments (h : stem.IsStem) (ht : slash ∉ t) :
    (stem.withEnd t).segments.getLast? = some (lastPiece stem.bytes ++ t) := by
  rw [segments_withEnd ht h.lastPiece_ne_nil, List.getLast?_concat]

theorem dropLast_segments (h : stem.IsStem) (ht : slash ∉ t) (ht' : slash ∉ t') :
    (stem.withEnd t').segments.dropLast = (stem.withEnd t).segments.dropLast := by
  rw [segments_withEnd ht h.lastPiece_ne_nil, segments_withEnd ht' h.lastPiece_ne_nil,
    List.dropLast_concat, List.dropLast_concat]

theorem isAbsolute_eq (h : stem.IsStem) (t t' : Bytes) :
    (stem.withEnd t').isAbsolute = (stem.withEnd t).isAbsolute := by
  rw [isAbsolute_withEnd h.lastPiece_ne_nil, isAbsolute_withEnd h.lastPiece_ne_nil]

theorem isSlashed_eq (h : stem.IsStem) (ht : slash ∉ t) : (stem.withEnd t).isSlashed = false :=
  isSlashed_withEnd ht h.lastPiece_ne_nil

theorem fileName? (h : stem.IsStem) (ht : slash ∉ t) :
    (stem.withEnd t).fileName? = some (lastPiece stem.bytes ++ t) := by
  have hsegments := segments_withEnd ht h.lastPiece_ne_nil
  have hrest : (((stem.withEnd t).segments.filter (· ≠ dot)).map Component.ofSegment).getLast? =
      some (.name (lastPiece stem.bytes ++ t)) := by
    rw [hsegments, List.filter_append, List.map_append]
    simp [h.ne_dot t, h.ne_dotDot t, Component.ofSegment]
  have hcomponents : (stem.withEnd t).components.getLast? =
      some (.name (lastPiece stem.bytes ++ t)) := by
    unfold components
    simp only
    split
    · rw [List.getLast?_cons, hrest]
      rfl
    · split
      · rw [List.getLast?_cons, hrest]
        rfl
      · exact hrest
  rw [Path.fileName?, hcomponents]

end Path.IsStem

/-- The last step of a located path with a stem is what the stem and the end say. -/
theorem Files.Locates.last_withEnd (h : f.Locates (stem.withEnd t) place last) (hs : stem.IsStem)
    (ht : Path.slash ∉ t) : last = Path.lastPiece stem.bytes ++ t := by
  rw [h.last_eq, hs.getLast?_segments ht]
  rfl

/-- Two paths with one stem are looked up in one directory. -/
theorem Files.Locates.withEnd (h : f.Locates (stem.withEnd t) place last) (hs : stem.IsStem)
    (ht : Path.slash ∉ t) (ht' : Path.slash ∉ t') {spot : Spot}
    (hstart : f.start (stem.withEnd t') = .ok spot) :
    f.Locates (stem.withEnd t') place (Path.lastPiece stem.bytes ++ t') :=
  h.sibling (hs.isAbsolute_eq t t') (hs.dropLast_segments ht ht') (hs.getLast?_segments ht')
    (hs.ne_dot t') (hs.ne_dotDot t') hstart

/-- Of two paths with one stem, neither is found where a file is in the way of the other. -/
theorem Files.Blocked.withEnd (h : f.Blocked (stem.withEnd t)) (hs : stem.IsStem)
    (ht : Path.slash ∉ t) (ht' : Path.slash ∉ t') {spot : Spot}
    (hstart : f.start (stem.withEnd t') = .ok spot) : f.Blocked (stem.withEnd t') :=
  h.sibling (hs.isAbsolute_eq t t') (hs.dropLast_segments ht ht') hstart

end Stem

/-! ### The stem of an artifact -/

/-- The byte that stands before the ending of a name. -/
def Path.period : UInt8 := 0x2E

private theorem utf8EncodeChar_hexDigit : ∀ n : Fin 16,
    (String.utf8EncodeChar (Bytes.hexDigit n)).length = 1 ∧
      Path.slash ∉ String.utf8EncodeChar (Bytes.hexDigit n) ∧
      Path.period ∉ String.utf8EncodeChar (Bytes.hexDigit n) := by
  decide

private theorem utf8_hex (bytes : Bytes) : (utf8 (Bytes.hex bytes)).length = 2 * bytes.length ∧
    Path.slash ∉ utf8 (Bytes.hex bytes) ∧ Path.period ∉ utf8 (Bytes.hex bytes) := by
  rw [utf8_eq_flatMap, Bytes.hex, String.toList_ofList]
  induction bytes with
  | nil => simp [Bytes.hexDigits]
  | cons b rest ih =>
    have hhigh := utf8EncodeChar_hexDigit ⟨b.toNat / 16, by have := b.toNat_lt; omega⟩
    have hlow := utf8EncodeChar_hexDigit ⟨b.toNat % 16, by omega⟩
    simp only [Bytes.hexDigits, List.flatMap_cons, List.flatMap_append, List.flatMap_nil,
      List.append_nil, List.length_append, List.length_cons, List.mem_append, not_or]
      at ih hhigh hlow ⊢
    refine ⟨by omega, ⟨⟨hhigh.2.1, hlow.2.1⟩, ih.2.1⟩, ⟨hhigh.2.2, hlow.2.2⟩, ih.2.2⟩

namespace StoreKey

/-- A key is sixty-four bytes long. -/
theorem length_utf8_of (entry source : String) : (utf8 (of entry source).text).length = 64 := by
  rw [of, (utf8_hex _).1, Sha256.length_digest]

theorem slash_not_mem_of (entry source : String) : Path.slash ∉ utf8 (of entry source).text :=
  (utf8_hex _).2.1

theorem period_not_mem_of (entry source : String) : Path.period ∉ utf8 (of entry source).text :=
  (utf8_hex _).2.2

end StoreKey

/-- The end of the name of an artifact. -/
def ArtifactKind.ending : ArtifactKind → String
  | .sharedLibrary => ".so"
  | .executable => ""

/-- What is common to the paths of the files of an artifact. -/
def ArtifactPaths.stem (directory : Path) (entry source : String) : Path :=
  directory.joinText (entry ++ "_" ++ (StoreKey.of entry source).text)

namespace ArtifactPaths

section Of

variable (directory : Path) (entry source : String) (kind : ArtifactKind)

private theorem stem_ne (t : String) : entry ++ "_" ++ t ≠ "" := by
  intro h
  have := congrArg String.toList h
  simp at this

theorem source_eq : (of directory entry (StoreKey.of entry source) kind).source =
    (stem directory entry source).withEnd (utf8 ".c") :=
  directory.joinText_append (stem_ne entry _) ".c"

theorem header_eq : (of directory entry (StoreKey.of entry source) kind).header =
    (stem directory entry source).withEnd (utf8 ".h") :=
  directory.joinText_append (stem_ne entry _) ".h"

theorem artifact_eq : (of directory entry (StoreKey.of entry source) kind).artifact =
    (stem directory entry source).withEnd (utf8 kind.ending) := by
  cases kind with
  | sharedLibrary =>
    rw [stem, ArtifactKind.ending, ← directory.joinText_append (stem_ne entry _)]
    simp [of, ArtifactKind.extension?, String.append_assoc]
  | executable =>
    rw [stem, ArtifactKind.ending, ← directory.joinText_append (stem_ne entry _)]
    simp [of, ArtifactKind.extension?]

/-- The last piece of a stem ends in the key. -/
theorem lastPiece_stem : Path.lastPiece (stem directory entry source).bytes =
    Path.lastPiece (directory.joinText (entry ++ "_")).bytes ++
      utf8 (StoreKey.of entry source).text := by
  have hne : entry ++ "_" ≠ "" := by
    intro h
    have := congrArg String.toList h
    simp at this
  rw [stem, directory.joinText_append hne, Path.withEnd,
    Path.lastPiece_append (StoreKey.slash_not_mem_of entry source)]

theorem isStem : (stem directory entry source).IsStem := by
  have := StoreKey.length_utf8_of entry source
  rw [Path.IsStem, lastPiece_stem, List.length_append]
  omega

/-- Where the entry has no slash, the last piece of a stem is the entry and the key. -/
theorem lastPiece_stem_of_not_mem (h : '/' ∉ entry.toList) :
    Path.lastPiece (stem directory entry source).bytes =
      utf8 (entry ++ "_" ++ (StoreKey.of entry source).text) := by
  have hslash : Path.slash ∉ utf8 (entry ++ "_" ++ (StoreKey.of entry source).text) := by
    rw [utf8_append, utf8_append, List.mem_append, List.mem_append, not_or, not_or]
    refine ⟨⟨fun hm ↦ h (slash_mem_utf8 hm), ?_⟩, StoreKey.slash_not_mem_of entry source⟩
    decide
  rw [stem, Path.joinText, Path.ofString, Path.lastPiece_join hslash]

end Of

/-! ### Names that differ -/

/-- The end of a name: nothing, or a period and not much more. -/
def IsEnd (t : Bytes) : Prop := t.length ≤ 64 ∧ ∀ b, t.head? = some b → b = Path.period

theorem isEnd_c : IsEnd (utf8 ".c") := by
  refine ⟨by decide, fun b hb ↦ ?_⟩
  cases hb
  rfl

theorem isEnd_h : IsEnd (utf8 ".h") := by
  refine ⟨by decide, fun b hb ↦ ?_⟩
  cases hb
  rfl

theorem isEnd_ending (kind : ArtifactKind) : IsEnd (utf8 kind.ending) := by
  cases kind with
  | sharedLibrary =>
    refine ⟨by decide, fun b hb ↦ ?_⟩
    cases hb
    rfl
  | executable =>
    refine ⟨by decide, fun b hb ↦ ?_⟩
    cases hb

/-- What stands before the end of a name and behind all but a key is nothing. -/
private theorem eq_nil_of_isEnd {entry source : String} {x z y t : Bytes} (ht : IsEnd (y ++ t))
    (h : z ++ y = x ++ utf8 (StoreKey.of entry source).text) : y = [] := by
  cases y with
  | nil => rfl
  | cons b rest =>
    have hb : b = Path.period := ht.2 b rfl
    have hlength : (b :: rest).length ≤ (utf8 (StoreKey.of entry source).text).length := by
      have := ht.1
      rw [List.length_append] at this
      rw [StoreKey.length_utf8_of]
      omega
    have hsuffix : b :: rest <:+ utf8 (StoreKey.of entry source).text :=
      List.suffix_of_suffix_length_le ⟨z, h⟩ ⟨x, rfl⟩ hlength
    exact absurd (hsuffix.subset (by simp [hb])) (StoreKey.period_not_mem_of entry source)

/-- What ends in a key and the end of a name tells both, and what stands before them. -/
theorem keyed_inj {entry entry' source source' : String} {x x' t t' : Bytes} (ht : IsEnd t)
    (ht' : IsEnd t') (h : x ++ utf8 (StoreKey.of entry source).text ++ t =
      x' ++ utf8 (StoreKey.of entry' source').text ++ t') :
    t = t' ∧ x = x' ∧ StoreKey.of entry source = StoreKey.of entry' source' := by
  obtain rfl : t = t' := by
    rcases List.append_eq_append_iff.mp h with ⟨y, hy, rfl⟩ | ⟨y, hy, rfl⟩
    · rw [eq_nil_of_isEnd ht hy.symm, List.nil_append]
    · rw [eq_nil_of_isEnd ht' hy.symm, List.nil_append]
  obtain ⟨hname, hkey⟩ := List.append_inj' (List.append_cancel_right h)
    (by rw [StoreKey.length_utf8_of, StoreKey.length_utf8_of])
  exact ⟨rfl, hname, congrArg StoreKey.mk (utf8_inj.mp hkey)⟩

/-- A name tells its end, the entry and the key, if the entry has no slash. -/
theorem lastPiece_inj {directory directory' : Path} {entry entry' source source' : String}
    {t t' : Bytes} (hentry : '/' ∉ entry.toList) (hentry' : '/' ∉ entry'.toList) (ht : IsEnd t)
    (ht' : IsEnd t') (h : Path.lastPiece (stem directory entry source).bytes ++ t =
      Path.lastPiece (stem directory' entry' source').bytes ++ t') :
    t = t' ∧ entry = entry' ∧ StoreKey.of entry source = StoreKey.of entry' source' := by
  rw [lastPiece_stem_of_not_mem _ _ _ hentry, lastPiece_stem_of_not_mem _ _ _ hentry',
    utf8_append (entry ++ "_"), utf8_append (entry' ++ "_")] at h
  obtain ⟨hend, hname, hkey⟩ := keyed_inj ht ht' h
  exact ⟨hend, (String.append_left_inj "_").mp (utf8_inj.mp hname), hkey⟩

theorem slash_not_mem_c : Path.slash ∉ utf8 ".c" := by decide

theorem slash_not_mem_h : Path.slash ∉ utf8 ".h" := by decide

theorem slash_not_mem_ending (kind : ArtifactKind) : Path.slash ∉ utf8 kind.ending := by
  cases kind <;> decide

theorem ending_ne_c (kind : ArtifactKind) : utf8 kind.ending ≠ utf8 ".c" := by
  cases kind <;> decide

theorem ending_ne_h (kind : ArtifactKind) : utf8 kind.ending ≠ utf8 ".h" := by
  cases kind <;> decide

end ArtifactPaths

end KernelForge
