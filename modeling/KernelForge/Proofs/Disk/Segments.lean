import KernelForge.Disk.Path

/-!
# Paths that differ in their ends

Bytes without a slash that are set behind a path change its last piece and nothing else, so that two
paths which differ in such an end are looked up in the same directory. Main statements:
`segments_withEnd`, `segments_join`, `segments_prefix_of_mem_stems`, and, for paths made from texts,
`joinText_append`.
-/

namespace KernelForge

/-! ### The bytes of a text -/

theorem utf8_append (s t : String) : utf8 (s ++ t) = utf8 s ++ utf8 t := by
  simp [utf8, String.toByteArray_append]

theorem utf8_eq_flatMap (s : String) : utf8 s = s.toList.flatMap String.utf8EncodeChar := by
  rw [utf8, ← String.utf8Encode_toList]
  simp [List.utf8Encode]

/-- A byte below the others stands for a character of its own. -/
theorem mem_utf8EncodeChar {b : UInt8} {c : Char} (hb : b.toNat < 0x80)
    (h : b ∈ String.utf8EncodeChar c) : c.toNat = b.toNat := by
  have hc : c.toNat = c.val.toNat := rfl
  unfold String.utf8EncodeChar at h
  simp only at h
  split at h
  · rw [List.mem_singleton] at h
    subst h
    rw [UInt8.toNat_ofNat'] at hb ⊢
    omega
  -- the bytes of every other character are 0x80 or more
  · split at h
    · simp only [List.mem_cons, List.not_mem_nil, or_false] at h
      rcases h with rfl | rfl <;> (rw [UInt8.toNat_ofNat'] at hb; omega)
    · split at h
      · simp only [List.mem_cons, List.not_mem_nil, or_false] at h
        rcases h with rfl | rfl | rfl <;> (rw [UInt8.toNat_ofNat'] at hb; omega)
      · simp only [List.mem_cons, List.not_mem_nil, or_false] at h
        rcases h with rfl | rfl | rfl | rfl <;> (rw [UInt8.toNat_ofNat'] at hb; omega)

/-- Only a text with a slash has the byte of one. -/
theorem slash_mem_utf8 {s : String} (h : Path.slash ∈ utf8 s) : '/' ∈ s.toList := by
  rw [utf8_eq_flatMap, List.mem_flatMap] at h
  obtain ⟨c, hc, hb⟩ := h
  have hnat := mem_utf8EncodeChar (by decide) hb
  have : c = '/' := Char.toNat_inj.mp (by rw [hnat]; rfl)
  exact this ▸ hc

/-- The bytes of a text read back as the text. -/
theorem text?_utf8 (s : String) : Utf8.text? (utf8 s) = some s := by
  have hdata : (⟨(utf8 s).toArray⟩ : ByteArray) = s.toByteArray := by
    simp [utf8]
  rw [Utf8.text?, hdata]
  exact dif_pos s.isValidUTF8

namespace Path

/-! ### Pieces -/

theorem pieces_ne_nil (xs : Bytes) : pieces xs ≠ [] := by
  cases xs with
  | nil => simp [pieces]
  | cons b rest =>
    rw [pieces]
    split
    · simp
    · split <;> simp

/-- The pieces before the last one. -/
def firstPieces (xs : Bytes) : List Bytes := (pieces xs).dropLast

/-- The piece behind the last slash. -/
def lastPiece (xs : Bytes) : Bytes := (pieces xs).getLast (pieces_ne_nil xs)

theorem pieces_eq (xs : Bytes) : pieces xs = firstPieces xs ++ [lastPiece xs] :=
  (List.dropLast_concat_getLast (pieces_ne_nil xs)).symm

/-- Bytes without a slash are one piece. -/
theorem pieces_of_not_mem {xs : Bytes} (h : slash ∉ xs) : pieces xs = [xs] := by
  induction xs with
  | nil => rfl
  | cons b rest ih =>
    rw [List.mem_cons, not_or] at h
    rw [pieces, if_neg (Ne.symm h.1), ih h.2]

/-- No piece has a slash. -/
theorem slash_not_mem_of_mem_pieces {xs piece : Bytes} (h : piece ∈ pieces xs) : slash ∉ piece := by
  induction xs generalizing piece with
  | nil =>
    rw [pieces, List.mem_singleton] at h
    simp [h]
  | cons b rest ih =>
    rw [pieces] at h
    split at h
    · rcases List.mem_cons.mp h with rfl | h
      · simp
      · exact ih h
    · next hb =>
      cases hrest : pieces rest with
      | nil => exact absurd hrest (pieces_ne_nil rest)
      | cons first more =>
        simp only [hrest] at h
        rcases List.mem_cons.mp h with rfl | h
        · rw [List.mem_cons, not_or]
          exact ⟨Ne.symm hb, ih (by simp [hrest])⟩
        · exact ih (by simp [hrest, h])

theorem slash_not_mem_lastPiece (xs : Bytes) : slash ∉ lastPiece xs :=
  slash_not_mem_of_mem_pieces (List.getLast_mem _)

/-- A slash parts what stands before it from what stands behind it. -/
theorem pieces_append_slash (xs ys : Bytes) :
    pieces (xs ++ slash :: ys) = pieces xs ++ pieces ys := by
  induction xs with
  | nil => simp [pieces]
  | cons b rest ih =>
    rw [List.cons_append, pieces, pieces, ih]
    split
    · rfl
    · cases h : pieces rest with
      | nil => exact absurd h (pieces_ne_nil rest)
      | cons piece more => rfl

private theorem pieces_append_of_eq {xs ys : Bytes} (h : slash ∉ ys) {first : List Bytes}
    {last : Bytes} (hxs : pieces xs = first ++ [last]) :
    pieces (xs ++ ys) = first ++ [last ++ ys] := by
  induction xs generalizing first last with
  | nil =>
    cases first with
    | nil =>
      simp only [pieces, List.nil_append, List.cons.injEq, and_true] at hxs
      simp [← hxs, pieces_of_not_mem h]
    | cons piece more => simp [pieces] at hxs
  | cons b rest ih =>
    obtain ⟨first', last', hrest⟩ : ∃ first' last', pieces rest = first' ++ [last'] :=
      ⟨_, _, (List.dropLast_concat_getLast (pieces_ne_nil rest)).symm⟩
    rw [List.cons_append, pieces, ih hrest]
    rw [pieces, hrest] at hxs
    split at hxs
    · next hb =>
      rw [← List.cons_append] at hxs
      obtain ⟨rfl, hlast⟩ := List.append_inj' hxs rfl
      simp_all
    · next hb =>
      rw [if_neg hb]
      cases first' with
      | nil =>
        cases first with
        | nil =>
          simp only [List.nil_append, List.cons.injEq, and_true] at hxs
          simp [← hxs]
        | cons piece more => simp at hxs
      | cons piece' more' =>
        rw [List.cons_append] at hxs
        simp only at hxs
        rw [← List.cons_append] at hxs
        obtain ⟨rfl, hlast⟩ := List.append_inj' hxs rfl
        simp_all

/-- Bytes without a slash go to the last piece. -/
theorem pieces_append {xs ys : Bytes} (h : slash ∉ ys) :
    pieces (xs ++ ys) = firstPieces xs ++ [lastPiece xs ++ ys] :=
  pieces_append_of_eq h (pieces_eq xs)

theorem firstPieces_append {xs ys : Bytes} (h : slash ∉ ys) :
    firstPieces (xs ++ ys) = firstPieces xs := by
  rw [firstPieces, pieces_append h, List.dropLast_concat]

theorem lastPiece_append {xs ys : Bytes} (h : slash ∉ ys) :
    lastPiece (xs ++ ys) = lastPiece xs ++ ys := by
  simp [lastPiece, pieces_append h]

/-- Behind a slash at the end nothing is left. -/
theorem not_isSlashed_of_lastPiece {p : Path} (h : lastPiece p.bytes ≠ []) :
    p.isSlashed = false := by
  rw [isSlashed, beq_eq_false_iff_ne]
  intro hlast
  obtain ⟨xs, hxs⟩ := List.getLast?_eq_some_iff.mp hlast
  have : pieces p.bytes = pieces xs ++ [[]] := by
    rw [hxs, pieces_append_slash]
    rfl
  exact h (by simp [lastPiece, this])

/-- The segments of a path that does not end in a slash. -/
theorem segments_eq {p : Path} (h : lastPiece p.bytes ≠ []) :
    p.segments = (firstPieces p.bytes).filter (· ≠ []) ++ [lastPiece p.bytes] := by
  rw [segments, pieces_eq, List.filter_append]
  simp [h]

/-! ### Ends -/

/-- The path with further bytes at its end. -/
def withEnd (p : Path) (ys : Bytes) : Path := ⟨p.bytes ++ ys⟩

section End

variable {p : Path} {ys : Bytes}

/-- An end without a slash goes to the last segment. -/
theorem segments_withEnd (h : slash ∉ ys) (hp : lastPiece p.bytes ≠ []) :
    (p.withEnd ys).segments =
      (firstPieces p.bytes).filter (· ≠ []) ++ [lastPiece p.bytes ++ ys] := by
  have hlast : lastPiece (p.bytes ++ ys) = lastPiece p.bytes ++ ys := lastPiece_append h
  rw [segments_eq (by simp [withEnd, hlast, hp])]
  simp only [withEnd, hlast, firstPieces_append h]

theorem isSlashed_withEnd (h : slash ∉ ys) (hp : lastPiece p.bytes ≠ []) :
    (p.withEnd ys).isSlashed = false := by
  apply not_isSlashed_of_lastPiece
  simp [withEnd, lastPiece_append h, hp]

theorem isAbsolute_withEnd (hp : lastPiece p.bytes ≠ []) :
    (p.withEnd ys).isAbsolute = p.isAbsolute := by
  cases hb : p.bytes with
  | nil => exact absurd (by simp [lastPiece, hb, pieces]) hp
  | cons b rest => simp [isAbsolute, withEnd, hb]

end End

/-! ### Names behind a path -/

section Join

variable {p : Path} {name : Bytes}

theorem not_isAbsolute_of_not_mem (h : slash ∉ name) : (Path.mk name).isAbsolute = false := by
  cases name with
  | nil => rfl
  | cons b rest =>
    rw [List.mem_cons, not_or] at h
    simpa [isAbsolute] using Ne.symm h.1

/-- A slash parts the segments before it from those behind it. -/
theorem segments_append_slash (xs ys : Bytes) :
    (Path.mk (xs ++ slash :: ys)).segments = (Path.mk xs).segments ++ (Path.mk ys).segments := by
  simp [segments, pieces_append_slash]

theorem segments_of_not_mem (h : slash ∉ name) (hname : name ≠ []) :
    (Path.mk name).segments = [name] := by
  simp [segments, pieces_of_not_mem h, hname]

/-- A name behind a path is its last segment. -/
theorem segments_join (h : slash ∉ name) (hname : name ≠ []) :
    (p.join ⟨name⟩).segments = p.segments ++ [name] := by
  unfold join
  rw [if_neg (by simp [not_isAbsolute_of_not_mem h])]
  split
  · next hp =>
    rcases hp with hp | hp
    · obtain ⟨bytes⟩ := p
      obtain rfl : bytes = [] := hp
      exact segments_of_not_mem h hname
    · rw [isSlashed, beq_iff_eq] at hp
      obtain ⟨xs, hxs⟩ := List.getLast?_eq_some_iff.mp hp
      obtain ⟨bytes⟩ := p
      obtain rfl : bytes = xs ++ [slash] := hxs
      rw [List.append_assoc, List.singleton_append, segments_append_slash, segments_append_slash,
        segments_of_not_mem h hname, segments, List.append_assoc]
      rfl
  · rw [segments_append_slash, segments_of_not_mem h hname]

/-- The last piece of a path with a name behind it. -/
theorem lastPiece_join (h : slash ∉ name) : lastPiece (p.join ⟨name⟩).bytes = name := by
  unfold join
  rw [if_neg (by simp [not_isAbsolute_of_not_mem h])]
  split
  · next hp =>
    rw [lastPiece_append h]
    rcases hp with hp | hp
    · simp [hp, lastPiece, pieces]
    · rw [isSlashed, beq_iff_eq] at hp
      obtain ⟨xs, hxs⟩ := List.getLast?_eq_some_iff.mp hp
      have : pieces p.bytes = pieces xs ++ [[]] := by
        rw [hxs, pieces_append_slash]
        rfl
      simp [lastPiece, this]
  · simp [lastPiece, pieces_append_slash, pieces_of_not_mem h]

theorem isAbsolute_join (h : slash ∉ name) (hnil : p.bytes ≠ []) :
    (p.join ⟨name⟩).isAbsolute = p.isAbsolute := by
  obtain ⟨b, rest, hb⟩ := List.exists_cons_of_ne_nil hnil
  unfold join
  rw [if_neg (by simp [not_isAbsolute_of_not_mem h])]
  split <;> simp [isAbsolute, hb]

end Join

/-- A file name is one segment and no dots. -/
theorem isName_of_fileName? {p : Path} {name : Bytes} (h : p.fileName? = some name) :
    slash ∉ name ∧ name ≠ [] ∧ name ≠ dot ∧ name ≠ dotDot := by
  have hlast : p.components.getLast? = some (.name name) := by
    unfold fileName? at h
    split at h
    · next bytes hbytes =>
      rw [Option.some.injEq] at h
      rw [hbytes, h]
    · cases h
  have hmem : Component.name name ∈ (p.segments.filter (· ≠ dot)).map Component.ofSegment := by
    have := List.mem_of_getLast? hlast
    unfold components at this
    split at this
    · simpa using this
    · split at this
      · simpa using this
      · exact this
  obtain ⟨segment, hsegment, hname⟩ := List.mem_map.mp hmem
  obtain ⟨hsegment, hdot⟩ := List.mem_filter.mp hsegment
  obtain ⟨hpiece, hnil⟩ := List.mem_filter.mp hsegment
  unfold Component.ofSegment at hname
  split at hname
  · cases hname
  · next hdotDot =>
    rw [Component.name.injEq] at hname
    subst hname
    exact ⟨slash_not_mem_of_mem_pieces hpiece, by simpa using hnil, by simpa using hdot, hdotDot⟩

theorem isAbsolute_join_of_isAbsolute {p : Path} (h : p.isAbsolute) (q : Path) :
    (p.join q).isAbsolute := by
  cases hb : p.bytes with
  | nil => simp [isAbsolute, hb] at h
  | cons b rest =>
    unfold join
    split
    · next hq => exact hq
    · split <;> simpa [isAbsolute, hb] using h

/-- A text behind a path may be set there in two parts. -/
theorem joinText_append (p : Path) {s : String} (hs : s ≠ "") (t : String) :
    p.joinText (s ++ t) = (p.joinText s).withEnd (utf8 t) := by
  have hnil : utf8 s ≠ [] := fun h ↦ hs (utf8_inj.mp (h.trans (by rfl)))
  obtain ⟨b, rest, hb⟩ := List.exists_cons_of_ne_nil hnil
  have habsolute : (ofString (s ++ t)).isAbsolute = (ofString s).isAbsolute := by
    simp [isAbsolute, ofString, utf8_append, hb]
  have hbytes : (ofString (s ++ t)).bytes = (ofString s).bytes ++ utf8 t := utf8_append s t
  simp only [joinText, join, habsolute, withEnd]
  by_cases habs : (ofString s).isAbsolute
  · simp [habs, ← hbytes]
  · by_cases hp : p.bytes = [] ∨ p.isSlashed
    · simp [habs, hp, hbytes]
    · simp [habs, hp, hbytes]

/-! ### Stems -/

private theorem prefix_of_mem_growing {q start : Bytes} {parts : List Bytes}
    (h : q ∈ growing start parts) : start <+: q := by
  induction parts generalizing start with
  | nil => simp [growing] at h
  | cons piece more ih =>
    have hrest : q ∈ growing (start ++ piece ++ [slash]) more → start <+: q := by
      intro hq
      refine List.IsPrefix.trans ?_ (ih hq)
      rw [List.append_assoc]
      exact List.prefix_append _ _
    rw [growing] at h
    split at h
    · exact hrest h
    · rcases List.mem_cons.mp h with rfl | h
      · exact List.prefix_append _ _
      · exact hrest h

private theorem not_isAbsolute_of_prefix {b : UInt8} {rest : Bytes} {q : Path} (hb : b ≠ slash)
    (h : b :: rest <+: q.bytes) : q.isAbsolute = false := by
  obtain ⟨more, hq⟩ := h
  simp [isAbsolute, ← hq, hb]

private theorem segments_prefix_of_mem_growing {q start : Bytes} {parts : List Bytes}
    (hparts : ∀ piece ∈ parts, slash ∉ piece) (hstart : start = [] ∨ (Path.mk start).isSlashed)
    (h : q ∈ growing start parts) :
    (Path.mk q).segments <+: (Path.mk start).segments ++ parts.filter (· ≠ []) := by
  induction parts generalizing start with
  | nil => simp [growing] at h
  | cons piece more ih =>
    have hpiece : slash ∉ piece := hparts piece (by simp)
    have hadd : ∀ hne : piece ≠ [], (Path.mk (start ++ piece)).segments =
        (Path.mk start).segments ++ [piece] := by
      intro hne
      rw [← segments_join hpiece hne, join, if_neg (by simp [not_isAbsolute_of_not_mem hpiece]),
        if_pos hstart]
    have hgrown : (Path.mk (start ++ piece ++ [slash])).segments =
        (Path.mk start).segments ++ [piece].filter (· ≠ []) := by
      rw [segments_append_slash, show (Path.mk []).segments = [] from rfl, List.append_nil]
      by_cases hne : piece = []
      · simp [hne]
      · simp [hadd hne, hne]
    have hrest : q ∈ growing (start ++ piece ++ [slash]) more →
        (Path.mk q).segments <+: (Path.mk start).segments ++ (piece :: more).filter (· ≠ []) := by
      intro hq
      have := ih (fun other hm ↦ hparts other (List.mem_cons_of_mem piece hm))
        (Or.inr (by simp [isSlashed])) hq
      rw [hgrown, List.append_assoc, ← List.filter_append] at this
      exact this
    rw [growing] at h
    split at h
    · exact hrest h
    · next hne =>
      rw [not_or] at hne
      rcases List.mem_cons.mp h with rfl | h
      · rw [hadd hne.1, List.filter_cons_of_pos (by simpa using hne.1)]
        exact ⟨more.filter (· ≠ []), by simp⟩
      · exact hrest h

/-- What is above an absolute path is absolute, and a part of the way. -/
theorem segments_prefix_of_mem_stems {p q : Path} (hp : p.isAbsolute) (h : q ∈ p.stems) :
    q.isAbsolute ∧ q.segments <+: p.segments := by
  obtain ⟨bytes⟩ := p
  obtain ⟨rest, rfl⟩ : ∃ rest, bytes = slash :: rest := by
    cases bytes with
    | nil => cases hp
    | cons b rest => exact ⟨rest, by simpa [isAbsolute] using hp⟩
  have hsegments : (Path.mk (slash :: rest)).segments = (Path.mk rest).segments :=
    segments_append_slash [] rest
  rw [stems, if_pos hp] at h
  obtain ⟨bytes, hmem, rfl⟩ := List.mem_map.mp h
  rcases List.mem_cons.mp (List.mem_reverse.mp hmem) with rfl | hmem
  · exact ⟨rfl, List.nil_prefix⟩
  · refine ⟨?_, ?_⟩
    · obtain ⟨more, rfl⟩ := prefix_of_mem_growing hmem
      rfl
    · rw [hsegments]
      exact segments_prefix_of_mem_growing (fun _ ↦ slash_not_mem_of_mem_pieces) (Or.inr rfl) hmem

private theorem pieces_cons_of_ne_slash {b : UInt8} (hb : b ≠ slash) (rest : Bytes) :
    ∃ first more, pieces (b :: rest) = (b :: first) :: more := by
  rw [pieces, if_neg hb]
  cases pieces rest with
  | nil => exact ⟨[], [], rfl⟩
  | cons piece more => exact ⟨piece, more, rfl⟩

/-- What grows of a relative path begins as that does, also where its first piece is a dot. -/
private theorem not_isAbsolute_of_mem_growing {b : UInt8} {q rest : Bytes} (hb : b ≠ slash)
    (h : q ∈ growing [] (pieces (b :: rest))) : (Path.mk q).isAbsolute = false := by
  obtain ⟨first, more, hpieces⟩ := pieces_cons_of_ne_slash hb rest
  rw [hpieces, growing] at h
  have hrest : q ∈ growing ([] ++ b :: first ++ [slash]) more → (Path.mk q).isAbsolute = false :=
    fun hmem ↦ not_isAbsolute_of_prefix hb (prefix_of_mem_growing hmem)
  split at h
  · exact hrest h
  · rcases List.mem_cons.mp h with rfl | h
    · exact not_isAbsolute_of_prefix hb (List.prefix_refl _)
    · exact hrest h

/-- What is above a relative path is relative. -/
theorem isAbsolute_of_mem_stems {p q : Path} (h : q ∈ p.stems) (hq : q.isAbsolute) :
    p.isAbsolute := by
  rw [← Bool.not_eq_false]
  intro hp
  rw [stems] at h
  simp only [hp, Bool.false_eq_true, if_false, List.mem_map, List.mem_reverse] at h
  obtain ⟨bytes, hmem, rfl⟩ := h
  suffices hrelative : (Path.mk bytes).isAbsolute = false by
    rw [hrelative] at hq
    cases hq
  split at hmem
  · simp only [List.mem_cons] at hmem
    rcases hmem with rfl | rfl | hmem
    · rfl
    · rfl
    · exact not_isAbsolute_of_prefix (by decide) (prefix_of_mem_growing hmem)
  · rcases List.mem_cons.mp hmem with rfl | hmem
    · rfl
    · cases hbytes : p.bytes with
      | nil => simp [hbytes, pieces, growing] at hmem
      | cons b rest =>
        rw [hbytes] at hmem
        refine not_isAbsolute_of_mem_growing (fun hb ↦ ?_) hmem
        simp [isAbsolute, hbytes, hb] at hp

end Path

end KernelForge
