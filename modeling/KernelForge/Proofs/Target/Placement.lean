import KernelForge.Proofs.Text.Occurrences
import KernelForge.Target.Source
import Mathlib.Data.List.TakeWhile

/-!
# Where the structure is set

The structure that a tensor processor needs is set between two parts of the source, a front of whole
lines and a back. The front ends with the line of the first include; a source without an include has
no front, and one whose first include is in an unfinished line has no back. Main statement:
`withTensorInfo_placed`.
-/

namespace KernelForge

namespace Text

/-- How a source falls into two parts behind the line of the first `mark`, where `feed` ends
lines. -/
inductive Placed {α : Type} (mark : List α) (feed : α) (source front back : List α) : Prop
  /-- There is no mark, and all of the source is in the back. -/
  | first (absent : ¬ mark <:+: source) (front_eq : front = []) (back_eq : back = source)
  /-- The front ends with the line of the first mark. -/
  | within (before line : List α) (marked : FirstAt mark source before.length)
      (whole : mark <+: line) (feedless : feed ∉ line) (front_eq : front = before ++ line ++ [feed])
      (source_eq : source = front ++ back)
  /-- The line of the first mark is not ended. It is ended in the front, and the back is empty. -/
  | last (before line : List α) (marked : FirstAt mark source before.length)
      (whole : mark <+: line) (feedless : feed ∉ line) (source_eq : source = before ++ line)
      (front_eq : front = source ++ [feed]) (back_eq : back = [])

namespace Placed

variable {α : Type} {mark source front back : List α} {feed : α}

/-- Together the parts are the source, up to the feed that ends it. -/
theorem join (h : Placed mark feed source front back) :
    front ++ back = source ∨ front ++ back = source ++ [feed] ∧ back = [] := by
  cases h with
  | first absent front_eq back_eq => simp [front_eq, back_eq]
  | within before line marked whole feedless front_eq source_eq => exact Or.inl source_eq.symm
  | last before line marked whole feedless source_eq front_eq back_eq =>
    simp [front_eq, back_eq]

/-- In the front, the first mark stands where it stands in the source, and its line comes last. -/
theorem front_of_marked (h : Placed mark feed source front back) (hmark : mark <:+: source) :
    ∃ before line, FirstAt mark source before.length ∧ FirstAt mark front before.length ∧
      mark <+: line ∧ feed ∉ line ∧ front = before ++ line ++ [feed] := by
  have hfirst {before line more : List α} (whole : mark <+: line)
      (marked : FirstAt mark (before ++ line ++ more) before.length) :
      FirstAt mark (before ++ line ++ [feed]) before.length := by
    refine (marked.of_append ?_).append _
    have hlength := whole.length_le
    rw [List.length_append]
    omega
  cases h with
  | first absent front_eq back_eq => exact absurd hmark absent
  | within before line marked whole feedless front_eq source_eq =>
    subst front_eq
    refine ⟨before, line, marked, ?_, whole, feedless, rfl⟩
    rw [source_eq, List.append_assoc] at marked
    exact hfirst whole marked
  | last before line marked whole feedless source_eq front_eq back_eq =>
    subst source_eq
    refine ⟨before, line, marked, ?_, whole, feedless, front_eq⟩
    rw [front_eq]
    exact marked.append _

/-- Without a mark there is no front. -/
theorem of_not_marked (h : Placed mark feed source front back) (hmark : ¬ mark <:+: source) :
    front = [] ∧ back = source := by
  cases h with
  | first absent front_eq back_eq => exact ⟨front_eq, back_eq⟩
  | within before line marked whole feedless front_eq source_eq => exact absurd marked.isInfix hmark
  | last before line marked whole feedless source_eq front_eq back_eq =>
    exact absurd marked.isInfix hmark

/-- The front consists of whole lines. -/
theorem front_lines (h : Placed mark feed source front back) :
    front = [] ∨ front.getLast? = some feed := by
  by_cases hmark : mark <:+: source
  · obtain ⟨before, line, -, -, -, -, hfront⟩ := h.front_of_marked hmark
    right
    rw [hfront, List.getLast?_append]
    rfl
  · exact Or.inl (h.of_not_marked hmark).1

end Placed

variable {mark source front back : List Char}

private theorem feed_not_mem_encoded {line : List Char} (h : '\n' ∉ line) :
    0x0A ∉ encoded line := by
  intro hmem
  obtain ⟨c, hc, hb⟩ := List.mem_flatMap.mp hmem
  have hfeed : c = '\n' := Char.toNat_inj.mp (mem_utf8EncodeChar (by decide) hb)
  exact h (hfeed ▸ hc)

/-- The bytes of a text fall into the bytes of its parts: parting the bytes behind the line of the
first mark parts the text between two characters. -/
theorem Placed.bytes (hascii : IsAscii mark) (hne : mark ≠ [])
    (h : Placed mark '\n' source front back) :
    Placed (encoded mark) 0x0A (encoded source) (encoded front) (encoded back) := by
  have hfeed : encoded ['\n'] = [0x0A] := by decide
  have hwhole {line : List Char} (whole : mark <+: line) : encoded mark <+: encoded line := by
    obtain ⟨more, rfl⟩ := whole
    rw [encoded_append]
    exact List.prefix_append _ _
  cases h with
  | first absent front_eq back_eq =>
    subst front_eq back_eq
    exact .first (not_infix_encoded hascii hne absent) rfl rfl
  | within before line marked whole feedless front_eq source_eq =>
    refine .within (encoded before) (encoded line) ?_ (hwhole whole)
      (feed_not_mem_encoded feedless) ?_ ?_
    · rw [source_eq, front_eq, List.append_assoc, List.append_assoc] at marked ⊢
      exact firstAt_encoded hascii hne marked
    · rw [front_eq, encoded_append, encoded_append, hfeed]
    · rw [source_eq, encoded_append]
  | last before line marked whole feedless source_eq front_eq back_eq =>
    refine .last (encoded before) (encoded line) ?_ (hwhole whole)
      (feed_not_mem_encoded feedless) ?_ ?_ ?_
    · rw [source_eq] at marked ⊢
      exact firstAt_encoded hascii hne marked
    · rw [source_eq, encoded_append]
    · rw [front_eq, encoded_append, hfeed]
    · rw [back_eq]
      rfl

end Text

namespace Target

open Text

/-- An include is marked without line feeds, and in ASCII. -/
theorem includeMark_plain : '\n' ∉ includeMark ∧ IsAscii includeMark ∧ includeMark ≠ [] := by
  refine ⟨by decide, ?_, by decide⟩
  intro c hc
  have hall : includeMark.all (·.toNat < 0x80) = true := by decide +kernel
  exact of_decide_eq_true (List.all_eq_true.mp hall c hc)

/-- The structure is made of whole lines without an include. -/
theorem tensorInfo_plain : tensorInfo.toList.getLast? = some '\n' ∧
    ¬ includeMark <:+: tensorInfo.toList := by
  rw [← cutAt_eq_none_iff]
  decide +kernel

/-- The structure stands between the two parts of the source. -/
theorem exists_placed (source : String) :
    ∃ front back : String, withTensorInfo source = front ++ tensorInfo ++ back ∧
      Placed includeMark '\n' source.toList front.toList back.toList := by
  obtain ⟨hfeedless, -, -⟩ := includeMark_plain
  unfold withTensorInfo
  split
  · next hcut => exact ⟨"", source, by simp, .first (cutAt_eq_none_iff.mp hcut) rfl rfl⟩
  · next before found hcut =>
    obtain ⟨hjoin, hfound⟩ := cutAt_eq_some hcut
    have hmarked := firstAt_of_cutAt hcut
    split
    · next hrest =>
      have hnone : '\n' ∉ found := fun hmem ↦
        of_decide_eq_true (List.dropWhile_eq_nil_iff.mp hrest _ hmem) rfl
      exact ⟨source ++ "\n", "", by simp, .last before found hmarked hfound hnone hjoin.symm
        (by simp) rfl⟩
    · next c after hrest =>
      have hc : c = '\n' := by
        have hhead := List.head?_dropWhile_not (· ≠ '\n') found
        rw [hrest] at hhead
        exact not_not.mp (of_decide_eq_false hhead)
      subst hc
      have hsplit : found = found.takeWhile (· ≠ '\n') ++ ['\n'] ++ after := by
        rw [List.append_assoc, List.singleton_append, ← hrest, List.takeWhile_append_dropWhile]
      generalize hline : found.takeWhile (· ≠ '\n') = line at hsplit ⊢
      have hnone : '\n' ∉ line := by
        intro hmem
        have hmem' : '\n' ∈ found.takeWhile (· ≠ '\n') := hline ▸ hmem
        have hne := List.mem_takeWhile_imp hmem'
        simp at hne
      have hwhole : includeMark <+: line := by
        have hbegins := prefix_of_prefix_append hfeedless (by simp) (hsplit ▸ hfound)
        rcases List.prefix_concat_iff.mp hbegins with heq | hbegins
        · exact absurd (heq ▸ List.mem_append_right _ (List.mem_singleton_self _)) hfeedless
        · exact hbegins
      refine ⟨String.ofList (before ++ line ++ ['\n']), String.ofList after, rfl,
        .within before line hmarked hwhole hnone (by simp) ?_⟩
      rw [← hjoin, hsplit]
      simp

/-- Includes stand between the parts of a source where they stand in the source. -/
theorem occurrences_placed {source front back : List Char}
    (h : Placed includeMark '\n' source front back) : occurrences includeMark source =
      occurrences includeMark front ++ (occurrences includeMark back).map (front.length + ·) := by
  obtain ⟨hfeedless, -, hne⟩ := includeMark_plain
  rw [← occurrences_append hfeedless h.front_lines]
  rcases h.join with hjoin | ⟨hjoin, -⟩
  · rw [hjoin]
  · rw [hjoin, occurrences_concat hfeedless hne]

/-- Whole lines without an include that are set between the parts of a source add no include. Those
behind them move. -/
theorem occurrences_set {source front back lines : List Char}
    (h : Placed includeMark '\n' source front back) (hlines : lines.getLast? = some '\n')
    (hnone : ¬ includeMark <:+: lines) :
    occurrences includeMark (front ++ (lines ++ back)) =
      (occurrences includeMark source).map fun i ↦
        if i < front.length then i else i + lines.length := by
  obtain ⟨hfeedless, -, hne⟩ := includeMark_plain
  have hfront : ∀ i ∈ occurrences includeMark front, i < front.length :=
    fun i hi ↦ List.mem_range.mp (List.mem_of_mem_filter hi)
  rw [occurrences_append hfeedless h.front_lines, occurrences_append hfeedless (Or.inr hlines),
    (occurrences_eq_nil_iff hne).mpr hnone, List.nil_append, occurrences_placed h, List.map_append,
    List.map_map, List.map_map]
  congr 1
  · exact (List.map_id' _).symm.trans (List.map_congr_left fun i hi ↦ (if_pos (hfront i hi)).symm)
  · refine List.map_congr_left fun i _ ↦ ?_
    simp only [Function.comp_apply]
    rw [if_neg (by omega)]
    omega

/-- Of the lines of the front, one has an include if the source has any. -/
theorem countP_front {source front back : List Char}
    (h : Placed includeMark '\n' source front back) :
    (splitLines front).countP (occursIn includeMark) =
      if occursIn includeMark source then 1 else 0 := by
  obtain ⟨-, -, hne⟩ := includeMark_plain
  split
  · next hmark =>
    obtain ⟨before, line, -, hmarked, hwhole, hnofeed, hfront⟩ :=
      h.front_of_marked (occursIn_iff.mp hmark)
    rw [hfront, List.append_assoc] at hmarked
    rw [hfront]
    exact countP_splitLines_eq_one (hmarked.absent_before hne) hwhole.isInfix hnofeed
  · next hmark =>
    rw [(h.of_not_marked (mt occursIn_iff.mpr hmark)).1]
    exact countP_splitLines_eq_zero (mt List.infix_nil.mp hne)

/-- The source is parted in a front and a back, and the structure is set between them. For every
source:

* the front is empty, or it ends with the line of the first include, which stands there as it stands
  in the source; a line feed is added to this line if the source has none behind it;
* the bytes of the source in UTF-8 are parted likewise, hence between two characters;
* without the structure there is the source, up to the line feed that was added;
* the includes of the outcome are those of the source: none goes across the structure, and those
  behind it have moved by its length;
* if the source has an include, exactly one line before the structure has one, otherwise none. -/
theorem withTensorInfo_placed (source : String) :
    ∃ front back : String, withTensorInfo source = front ++ tensorInfo ++ back ∧
      Placed includeMark '\n' source.toList front.toList back.toList ∧
      Placed (utf8 "#include") 0x0A (utf8 source) (utf8 front) (utf8 back) ∧
      (front ++ back = source ∨ front ++ back = source ++ "\n" ∧ back = "") ∧
      occurrences includeMark (withTensorInfo source).toList =
        (occurrences includeMark source.toList).map (fun i ↦
          if i < front.toList.length then i else i + tensorInfo.toList.length) ∧
      (splitLines front.toList).countP (occursIn includeMark) =
        if occursIn includeMark source.toList then 1 else 0 := by
  obtain ⟨-, hascii, hne⟩ := includeMark_plain
  obtain ⟨hfeed, hnone⟩ := tensorInfo_plain
  obtain ⟨front, back, heq, hplaced⟩ := exists_placed source
  refine ⟨front, back, heq, hplaced, ?_, ?_, ?_, countP_front hplaced⟩
  · simp only [utf8_eq_encoded]
    exact hplaced.bytes hascii hne
  · refine hplaced.join.imp (fun hjoin ↦ ?_) fun ⟨hjoin, hback⟩ ↦ ⟨?_, ?_⟩
    · exact String.toList_inj.mp (by rw [String.toList_append, hjoin])
    · exact String.toList_inj.mp (by rw [String.toList_append, hjoin, String.toList_append]; rfl)
    · exact String.toList_inj.mp (by rw [hback]; rfl)
  · rw [heq, String.toList_append, String.toList_append, List.append_assoc]
    exact occurrences_set hplaced hfeed hnone
end Target

end KernelForge
