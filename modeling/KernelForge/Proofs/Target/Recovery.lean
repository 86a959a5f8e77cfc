import KernelForge.Proofs.Target.Placement

/-!
# What a prepared source tells

A prepared source tells the source that it was prepared from, and a symbol tells the name of the
entry. For a tensor processor there is one exception each: a line feed behind the line of the first
include, and the suffix of the symbol, are added where they are missing. Main statements:
`prepareSource_eq_iff` and `entrySymbol_eq_iff`.
-/

namespace KernelForge

namespace Text

section Parts

variable {α : Type} {mark source source' front front' back back' more more' : List α} {feed : α}

/-- A line is known by the feed behind it. -/
theorem line_inj {line line' : List α} (h : feed ∉ line) (h' : feed ∉ line')
    (heq : line ++ feed :: more = line' ++ feed :: more') : line = line' ∧ more = more' := by
  induction line generalizing line' with
  | nil =>
    cases line' with
    | nil => exact ⟨rfl, (List.cons.inj heq).2⟩
    | cons c rest => exact absurd (List.cons.inj heq).1 fun hc ↦ h' (hc ▸ List.mem_cons_self)
  | cons c rest ih =>
    cases line' with
    | nil => exact absurd (List.cons.inj heq).1 fun hc ↦ h (hc ▸ List.mem_cons_self)
    | cons c' rest' =>
      obtain ⟨rfl, hrest⟩ := List.cons.inj heq
      obtain ⟨rfl, hmore⟩ :=
        ih (mt (List.mem_cons_of_mem c) h) (mt (List.mem_cons_of_mem c) h') hrest
      exact ⟨rfl, hmore⟩

/-- The line of the first mark is the last line, and no feed ends it. -/
def Unended (mark : List α) (feed : α) (source : List α) : Prop :=
  ∃ before line, source = before ++ line ∧ FirstAt mark source before.length ∧ feed ∉ line

/-- A feed behind a line that was not ended leaves the parts as they are. -/
theorem Unended.placed (h : Unended mark feed source) :
    Placed mark feed source (source ++ [feed]) [] ∧
      Placed mark feed (source ++ [feed]) (source ++ [feed]) [] := by
  obtain ⟨before, line, rfl, hfirst, hline⟩ := h
  have hwhole : mark <+: line := by
    have hstands := hfirst.stands
    rwa [List.drop_left] at hstands
  exact ⟨.last before line hfirst hwhole hline rfl rfl rfl,
    .within before line (hfirst.append [feed]) hwhole hline rfl (List.append_nil _).symm⟩

namespace Placed

/-- Together the parts are the source, unless the line of its first mark was not ended. -/
theorem join_or_unended (h : Placed mark feed source front back) :
    front ++ back = source ∨ front ++ back = source ++ [feed] ∧ Unended mark feed source := by
  cases h with
  | first absent front_eq back_eq => simp [front_eq, back_eq]
  | within before line marked whole feedless front_eq source_eq => exact Or.inl source_eq.symm
  | last before line marked whole feedless source_eq front_eq back_eq =>
    exact Or.inr ⟨by simp [front_eq, back_eq], before, line, source_eq, marked, feedless⟩

/-- Sources with the same parts differ in a feed at most, behind a line that was not ended. -/
theorem source_eq (h : Placed mark feed source front back)
    (h' : Placed mark feed source' front back) :
    source = source' ∨ source' = source ++ [feed] ∧ Unended mark feed source ∨
      source = source' ++ [feed] ∧ Unended mark feed source' := by
  rcases h.join_or_unended with hjoin | ⟨hjoin, hopen⟩ <;>
    rcases h'.join_or_unended with hjoin' | ⟨hjoin', hopen'⟩
  · exact Or.inl (hjoin.symm.trans hjoin')
  · exact Or.inr (Or.inr ⟨hjoin.symm.trans hjoin', hopen'⟩)
  · exact Or.inr (Or.inl ⟨hjoin'.symm.trans hjoin, hopen⟩)
  · exact Or.inl (List.append_cancel_right (hjoin.symm.trans hjoin'))

/-- Whatever comes behind it, a front is known by its marked line. -/
theorem front_inj (h : Placed mark feed source front back)
    (h' : Placed mark feed source' front' back') (hmark : mark <:+: source)
    (hmark' : mark <:+: source') (heq : front ++ more = front' ++ more') :
    front = front' ∧ more = more' := by
  obtain ⟨before, line, -, hfirst, -, hline, rfl⟩ := h.front_of_marked hmark
  obtain ⟨before', line', -, hfirst', -, hline', rfl⟩ := h'.front_of_marked hmark'
  have hlength : before.length = before'.length :=
    (hfirst.append more).unique (heq ▸ hfirst'.append more')
  simp only [List.append_assoc, List.singleton_append] at heq
  obtain ⟨rfl, hlines⟩ := List.append_inj heq hlength
  obtain ⟨rfl, rfl⟩ := line_inj hline hline' hlines
  exact ⟨rfl, rfl⟩

/-- A source is parted in one way. -/
theorem unique (h : Placed mark feed source front back)
    (h' : Placed mark feed source front' back') : front = front' ∧ back = back' := by
  by_cases hmark : mark <:+: source
  · have hinj : ∀ {more more' : List α}, front ++ more = front' ++ more' →
        front = front' ∧ more = more' := h.front_inj h' hmark hmark
    rcases h.join with hjoin | ⟨hjoin, rfl⟩ <;> rcases h'.join with hjoin' | ⟨hjoin', rfl⟩
    · exact hinj (hjoin.trans hjoin'.symm)
    · -- only one of the two would have added a feed
      have hsame : front ++ (back ++ [feed]) = front' ++ [] := by
        rw [← List.append_assoc, hjoin, hjoin']
      have hfeed := (hinj hsame).2
      simp at hfeed
    · have hsame : front ++ [] = front' ++ (back' ++ [feed]) := by
        rw [hjoin, ← List.append_assoc, hjoin']
      have hfeed := (hinj hsame).2
      simp at hfeed
    · exact hinj (hjoin.trans hjoin'.symm)
  · obtain ⟨rfl, rfl⟩ := h.of_not_marked hmark
    obtain ⟨rfl, rfl⟩ := h'.of_not_marked hmark
    exact ⟨rfl, rfl⟩

end Placed

end Parts

end Text

namespace Target

open Text

/-! ### Sources -/

/-- With the same lines set between the parts of two sources, equal texts have equal parts. -/
theorem parts_inj {lines source source' front front' back back' : List Char}
    (h : Placed includeMark '\n' source front back)
    (h' : Placed includeMark '\n' source' front' back') (hlines : lines.getLast? = some '\n')
    (hnone : ¬ includeMark <:+: lines)
    (heq : front ++ (lines ++ back) = front' ++ (lines ++ back')) :
    front = front' ∧ back = back' := by
  have hmarked : includeMark <:+: source ↔ includeMark <:+: source' := by
    obtain ⟨-, -, hne⟩ := includeMark_plain
    rw [← not_iff_not, ← occurrences_eq_nil_iff hne, ← occurrences_eq_nil_iff hne,
      ← List.map_eq_nil_iff, ← occurrences_set h hlines hnone, heq,
      occurrences_set h' hlines hnone, List.map_eq_nil_iff]
  by_cases hmark : includeMark <:+: source
  · obtain ⟨hfront, hmore⟩ := h.front_inj h' hmark (hmarked.mp hmark) heq
    exact ⟨hfront, List.append_cancel_left hmore⟩
  · obtain ⟨rfl, rfl⟩ := h.of_not_marked hmark
    obtain ⟨rfl, rfl⟩ := h'.of_not_marked (mt hmarked.mpr hmark)
    exact ⟨rfl, List.append_cancel_left heq⟩

/-- The line of the first include is the last line of the source, and no line feed ends it. -/
def IncludeUnended (source : String) : Prop := Unended includeMark '\n' source.toList

/-- The structure stands between the parts of a source, however these are found. -/
theorem withTensorInfo_of_placed {source front back : String}
    (h : Placed includeMark '\n' source.toList front.toList back.toList) :
    withTensorInfo source = front ++ tensorInfo ++ back := by
  obtain ⟨front', back', heq, hplaced⟩ := exists_placed source
  obtain ⟨hfront, hback⟩ := hplaced.unique h
  rw [heq, String.toList_inj.mp hfront, String.toList_inj.mp hback]

/-- The line feed that is added to the line of the first include may as well be there. -/
theorem withTensorInfo_feed {source : String} (h : IncludeUnended source) :
    withTensorInfo (source ++ "\n") = withTensorInfo source := by
  obtain ⟨hplaced, hplaced'⟩ := h.placed
  have hfeed : (source ++ "\n").toList = source.toList ++ ['\n'] := String.toList_append
  have hnil : "".toList = [] := rfl
  rw [← hfeed, ← hnil] at hplaced hplaced'
  rw [withTensorInfo_of_placed hplaced, withTensorInfo_of_placed hplaced']

/-- Two sources with the structure are equal just when the sources are, up to a line feed that ends
the line of the first include. -/
theorem withTensorInfo_eq_iff {s t : String} : withTensorInfo s = withTensorInfo t ↔
    s = t ∨ t = s ++ "\n" ∧ IncludeUnended s ∨ s = t ++ "\n" ∧ IncludeUnended t := by
  obtain ⟨front, back, heq, hplaced⟩ := exists_placed s
  obtain ⟨front', back', heq', hplaced'⟩ := exists_placed t
  obtain ⟨hlines, hnone⟩ := tensorInfo_plain
  constructor
  · intro h
    rw [heq, heq', ← String.toList_inj] at h
    simp only [String.toList_append, List.append_assoc] at h
    obtain ⟨hfront, hback⟩ := parts_inj hplaced hplaced' hlines hnone h
    rw [← hfront, ← hback] at hplaced'
    simpa [IncludeUnended, ← String.toList_inj] using hplaced.source_eq hplaced'
  · rintro (rfl | ⟨rfl, hopen⟩ | ⟨rfl, hopen⟩)
    · rfl
    · exact (withTensorInfo_feed hopen).symm
    · exact withTensorInfo_feed hopen

/-- Sources that a target prepares alike: for a tensor processor they may differ in the line feed
that ends the line of the first include. -/
def SourcesAlike : Target → String → String → Prop
  | tpu, s, t => s = t ∨ t = s ++ "\n" ∧ IncludeUnended s ∨ s = t ++ "\n" ∧ IncludeUnended t
  | rvv, s, t => s = t

theorem prepareSource_eq_iff (target : Target) {s t : String} :
    target.prepareSource s = target.prepareSource t ↔ target.SourcesAlike s t := by
  cases target with
  | tpu => exact withTensorInfo_eq_iff
  | rvv => exact withPrelude_inj

/-! ### Names -/

/-- Whether a name ends as every entry of a tensor processor does. -/
def IsSuffixed (name : String) : Prop := entrySuffix.toList <:+ name.toList

/-- Names that become one symbol: for a tensor processor they may differ in the suffix. -/
def NamesAlike : Target → String → String → Prop
  | tpu, m, n =>
    m = n ∨ n = m ++ entrySuffix ∧ ¬ IsSuffixed m ∨ m = n ++ entrySuffix ∧ ¬ IsSuffixed n
  | rvv, m, n => m = n

theorem entrySymbol_of_isSuffixed {name : String} (h : IsSuffixed name) :
    tpu.entrySymbol name = name := by
  have htake := List.prefix_iff_eq_take.mp (List.reverse_prefix.mpr h)
  exact if_pos htake.symm

theorem entrySymbol_of_not_isSuffixed {name : String} (h : ¬ IsSuffixed name) :
    tpu.entrySymbol name = name ++ entrySuffix := by
  refine if_neg fun htake ↦ h ?_
  exact List.reverse_prefix.mp (List.prefix_iff_eq_take.mpr htake.symm)

theorem isSuffixed_append (name : String) : IsSuffixed (name ++ entrySuffix) := by
  rw [IsSuffixed, String.toList_append]
  exact List.suffix_append _ _

theorem entrySymbol_eq_iff (target : Target) {m n : String} :
    target.entrySymbol m = target.entrySymbol n ↔ target.NamesAlike m n := by
  cases target with
  | tpu =>
    constructor
    · intro h
      by_cases hm : IsSuffixed m <;> by_cases hn : IsSuffixed n
      · rw [entrySymbol_of_isSuffixed hm, entrySymbol_of_isSuffixed hn] at h
        exact Or.inl h
      · rw [entrySymbol_of_isSuffixed hm, entrySymbol_of_not_isSuffixed hn] at h
        exact Or.inr (Or.inr ⟨h, hn⟩)
      · rw [entrySymbol_of_not_isSuffixed hm, entrySymbol_of_isSuffixed hn] at h
        exact Or.inr (Or.inl ⟨h.symm, hm⟩)
      · rw [entrySymbol_of_not_isSuffixed hm, entrySymbol_of_not_isSuffixed hn] at h
        exact Or.inl ((String.append_left_inj entrySuffix).mp h)
    · rintro (rfl | ⟨rfl, hm⟩ | ⟨rfl, hn⟩)
      · rfl
      · rw [entrySymbol_of_not_isSuffixed hm, entrySymbol_of_isSuffixed (isSuffixed_append m)]
      · rw [entrySymbol_of_not_isSuffixed hn, entrySymbol_of_isSuffixed (isSuffixed_append n)]
  | rvv => exact Iff.rfl

end Target

end KernelForge
