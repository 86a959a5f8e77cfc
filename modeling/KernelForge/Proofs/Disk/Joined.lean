import KernelForge.Proofs.Disk.Leading

/-!
# Paths joined to a directory

A relative path that is joined to a directory is set behind it, and is looked up from where the
directory leads. A name is joined to a directory as a child of it, and what has a slash is not.
Main statements: `bytes_join`, `not_isChild` and `Locates.place_directory`.
-/

namespace KernelForge

/-- A text has the byte of a slash exactly if it has a slash. -/
theorem slash_mem_utf8_iff {s : String} : Path.slash ∈ utf8 s ↔ '/' ∈ s.toList := by
  refine ⟨slash_mem_utf8, fun h ↦ ?_⟩
  rw [utf8_eq_flatMap]
  exact List.mem_flatMap.mpr ⟨'/', h, by decide⟩

namespace Path

/-- What stands between a path and what is joined to it. -/
def separator (p : Path) : Bytes := if p.bytes = [] ∨ p.isSlashed then [] else [slash]

theorem bytes_join (p : Path) {q : Path} (h : q.isAbsolute = false) :
    (p.join q).bytes = p.bytes ++ p.separator ++ q.bytes := by
  rw [join, if_neg (by simp [h]), separator]
  split <;> simp

/-- Whether a joined path is absolute does not depend on the relative path behind. -/
theorem isAbsolute_join_congr (p : Path) {q q' : Path} (h : q.isAbsolute = false)
    (h' : q'.isAbsolute = false) : (p.join q).isAbsolute = (p.join q').isAbsolute := by
  rw [isAbsolute, isAbsolute, bytes_join p h, bytes_join p h']
  cases hp : p.bytes with
  | nil => simpa [separator, hp, isAbsolute] using h.trans h'.symm
  | cons b rest => rfl

/-- The path `p` is a name in `directory`. -/
def IsChild (directory p : Path) : Prop :=
  ∃ name, slash ∉ name ∧ name ≠ [] ∧ name ≠ dot ∧ name ≠ dotDot ∧ p = directory.join ⟨name⟩

/-- What has a slash and is set behind a directory is no name in it. -/
theorem not_isChild {directory q : Path} (hq : q.isAbsolute = false) (hslash : slash ∈ q.bytes) :
    ¬ IsChild directory (directory.join q) := by
  rintro ⟨name, hname, -, -, -, heq⟩
  have hbytes := congrArg bytes heq
  rw [bytes_join _ hq, bytes_join _ (not_isAbsolute_of_not_mem hname)] at hbytes
  exact hname (by rwa [List.append_cancel_left hbytes] at hslash)

end Path

namespace Files

variable {f : Files} {p : Path} {place : Place} {last name : Bytes}

/-- A lookup starts for every path that is not empty, not too long and without a zero byte. -/
theorem start_eq_ok_iff {spot : Spot} : f.start p = .ok spot ↔
    0 ∉ p.bytes ∧ p.bytes ≠ [] ∧ p.bytes.length < pathLimit ∧
      spot = if p.isAbsolute then .place [] else f.disk.spotOf f.here := by
  rw [start]
  by_cases hzero : 0 ∈ p.bytes
  · simp [hzero]
  by_cases hnil : p.bytes = []
  · simp [hnil]
  by_cases hlong : pathLimit ≤ p.bytes.length
  · simp [hzero, hnil, hlong, Nat.not_lt.mpr hlong]
  · by_cases ha : p.isAbsolute <;> simp [hzero, hnil, hlong, Nat.not_le.mp hlong, ha, eq_comm]

/-- The directory in which a name behind a path is located is the one that the path leads to. The
path is seen through a dot, for the empty one leads nowhere by itself. -/
theorem Locates.place_directory (h : f.Locates (p.join ⟨name⟩) place last)
    (hslash : Path.slash ∉ name) (hnil : name ≠ []) :
    f.place (p.join ⟨Path.dot⟩) = .ok place := by
  have hdot : Path.slash ∉ Path.dot := by decide
  have hname := Path.not_isAbsolute_of_not_mem hslash
  have hdotName := Path.not_isAbsolute_of_not_mem hdot
  obtain ⟨here, left, hs, he⟩ := h
  obtain ⟨q, hw, ⟨s, hdir⟩, hend⟩ := Disk.ending_eq_ok he
  obtain ⟨rfl, -⟩ := Disk.endingAt_eq_entry hend
  rw [Path.segments_join hslash hnil, List.dropLast_concat] at hw
  have hstart : f.start (p.join ⟨Path.dot⟩) = .ok (.place here) := by
    have hlength : Path.dot.length ≤ name.length := List.length_pos_iff.mpr hnil
    obtain ⟨hzero, -, hshort, hspot⟩ := start_eq_ok_iff.mp hs
    rw [Path.isAbsolute_join_congr p hname hdotName] at hspot
    simp only [Path.bytes_join p hname, List.mem_append, not_or, List.length_append] at hzero hshort
    rw [start_eq_ok_iff, Path.bytes_join p hdotName]
    simp only [List.mem_append, not_or, List.length_append]
    exact ⟨⟨hzero.1, by decide⟩, by simp [Path.dot], by omega, hspot⟩
  have hslashed : (p.join ⟨Path.dot⟩).isSlashed = false := by
    apply Path.not_isSlashed_of_lastPiece
    rw [Path.lastPiece_join hdot]
    decide
  refine (place_eq_ok hstart).mpr ⟨left, ?_⟩
  rw [Path.steps, hslashed, Path.segments_join hdot (by decide), if_neg (by simp), List.append_nil,
    Disk.walk_append, hw]
  simp only
  rw [Disk.walk_dot hdir, Disk.walk_nil]

end Files

end KernelForge
