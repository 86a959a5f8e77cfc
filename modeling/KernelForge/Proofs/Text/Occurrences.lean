import KernelForge.Proofs.Disk.Segments
import KernelForge.Text.Find
import Mathlib.Data.List.Infix

/-!
# Where a text occurs

The places where a text occurs in another one, and the first of them. Behind a line feed nothing
that has none goes on, so the places in two parts are those in each part (`occurrences_append`).
Texts in ASCII stand in the UTF-8 bytes of a text where they stand among its characters
(`firstAt_encoded`).
-/

namespace KernelForge.Text

/-! ### The first place -/

section FirstAt

variable {α : Type} {needle text more : List α} {i j : Nat}

/-- `needle` stands at the place `i` of `text`, and at no place before. -/
structure FirstAt (needle text : List α) (i : Nat) : Prop where
  /-- It stands there. -/
  stands : needle <+: text.drop i
  /-- It does not stand earlier. -/
  earlier : ∀ j < i, ¬ needle <+: text.drop j

namespace FirstAt

theorem unique (h : FirstAt needle text i) (h' : FirstAt needle text j) : i = j := by
  rcases Nat.lt_trichotomy i j with hlt | heq | hlt
  · exact absurd h.stands (h'.earlier i hlt)
  · exact heq
  · exact absurd h'.stands (h.earlier j hlt)

theorem isInfix (h : FirstAt needle text i) : needle <:+: text :=
  h.stands.isInfix.trans (List.drop_suffix i text).isInfix

/-- What is set behind a text does not come first. -/
theorem append (h : FirstAt needle text i) (more : List α) : FirstAt needle (text ++ more) i := by
  have hbegins (j : Nat) : text.drop j <+: (text ++ more).drop j := by
    rw [List.drop_append]
    exact List.prefix_append _ _
  refine ⟨h.stands.trans (hbegins i), fun j hj hstands ↦ h.earlier j hj ?_⟩
  refine List.prefix_of_prefix_length_le hstands (hbegins j) ?_
  have hlength := h.stands.length_le
  simp only [List.length_drop] at hlength ⊢
  omega

/-- What stands first in a text stands first in the part that it lies in. -/
theorem of_append (h : FirstAt needle (text ++ more) i) (hi : i + needle.length ≤ text.length) :
    FirstAt needle text i := by
  have hbegins (j : Nat) : text.drop j <+: (text ++ more).drop j := by
    rw [List.drop_append]
    exact List.prefix_append _ _
  refine ⟨List.prefix_of_prefix_length_le h.stands (hbegins i) ?_, fun j hj hstands ↦
    h.earlier j hj (hstands.trans (hbegins j))⟩
  rw [List.length_drop]
  omega

/-- What stands first behind a text does not occur in the text. -/
theorem absent_before (h : FirstAt needle (text ++ more) text.length) (hne : needle ≠ []) :
    ¬ needle <:+: text := by
  rintro ⟨before, after, rfl⟩
  refine h.earlier before.length ?_ ?_
  · have hlength := List.length_pos_iff.mpr hne
    simp only [List.length_append]
    omega
  · simp [List.append_assoc]

end FirstAt

theorem exists_stands (h : needle <:+: text) : ∃ i, needle <+: text.drop i := by
  obtain ⟨before, after, rfl⟩ := h
  exact ⟨before.length, by simp⟩

end FirstAt

/-- A text is cut before the first place of what is looked for. -/
theorem firstAt_of_cutAt {needle text before found : List Char}
    (h : cutAt needle text = some (before, found)) : FirstAt needle text before.length := by
  induction text generalizing before with
  | nil =>
    unfold cutAt at h
    split at h
    · next hp =>
      cases h
      exact ⟨List.isPrefixOf_iff_prefix.1 hp, by simp⟩
    · cases h
  | cons c rest ih =>
    unfold cutAt at h
    split at h
    · next hp =>
      cases h
      exact ⟨List.isPrefixOf_iff_prefix.1 hp, by simp⟩
    · next hp =>
      obtain ⟨⟨b, f⟩, hcut, heq⟩ := Option.map_eq_some_iff.1 h
      cases heq
      have hrest := ih hcut
      refine ⟨hrest.stands, fun j hj ↦ ?_⟩
      cases j with
      | zero => rwa [← List.isPrefixOf_iff_prefix]
      | succ j => exact hrest.earlier j (by simpa using hj)

/-! ### All places -/

/-- The places of `text` at which `needle` stands, in order. -/
def occurrences (needle text : List Char) : List Nat :=
  (List.range text.length).filter fun i ↦ needle.isPrefixOf (text.drop i)

theorem occurrences_eq_nil_iff {needle text : List Char} (hne : needle ≠ []) :
    occurrences needle text = [] ↔ ¬ needle <:+: text := by
  rw [occurrences, List.filter_eq_nil_iff]
  constructor
  · intro h hoccurs
    obtain ⟨i, hi⟩ := exists_stands hoccurs
    refine h i (List.mem_range.mpr ?_) (List.isPrefixOf_iff_prefix.mpr hi)
    have hlength := hi.length_le
    have hpos := List.length_pos_iff.mpr hne
    rw [List.length_drop] at hlength
    omega
  · intro h i _ hi
    exact h ((List.isPrefixOf_iff_prefix.mp hi).isInfix.trans (List.drop_suffix i text).isInfix)

/-- What has no line feed and begins in a text that ends in one does not go on behind it. -/
theorem prefix_of_prefix_append {needle lines more : List Char} (hneedle : '\n' ∉ needle)
    (hlines : lines.getLast? = some '\n') (h : needle <+: lines ++ more) : needle <+: lines := by
  rcases List.prefix_or_prefix_of_prefix h (List.prefix_append lines more) with hbegins | hbegins
  · exact hbegins
  · exact absurd (hbegins.subset (List.mem_of_getLast? hlines)) hneedle

/-- What has no line feed stands in a text behind whole lines where it stands in the lines or in
the text. -/
theorem occurrences_append {needle lines text : List Char} (hneedle : '\n' ∉ needle)
    (hlines : lines = [] ∨ lines.getLast? = some '\n') :
    occurrences needle (lines ++ text) =
      occurrences needle lines ++ (occurrences needle text).map (lines.length + ·) := by
  rw [occurrences, List.length_append, List.range_add, List.filter_append, List.filter_map]
  congr 1
  · refine List.filter_congr fun i hi ↦ ?_
    have hlt : i < lines.length := List.mem_range.mp hi
    have hend : lines.getLast? = some '\n' := by
      rcases hlines with rfl | hend
      · simp at hlt
      · exact hend
    rw [List.drop_append_of_le_length hlt.le, Bool.eq_iff_iff, List.isPrefixOf_iff_prefix,
      List.isPrefixOf_iff_prefix]
    refine ⟨prefix_of_prefix_append hneedle ?_, fun h ↦ h.trans (List.prefix_append _ _)⟩
    rw [List.getLast?_drop, if_neg (by omega), hend]
  · simp [occurrences, Function.comp_def]

/-- A line feed at the end adds no place. -/
theorem occurrences_concat {needle text : List Char} (hneedle : '\n' ∉ needle)
    (hne : needle ≠ []) : occurrences needle (text ++ ['\n']) = occurrences needle text := by
  have hconcat {line : List Char} : needle <+: line ++ ['\n'] ↔ needle <+: line := by
    rw [List.prefix_concat_iff, or_iff_right]
    rintro rfl
    simp at hneedle
  have hend : ¬ needle <+: ['\n'] := by
    intro hbegins
    have hnil : needle <+: [] := hconcat.mp hbegins
    exact hne (List.prefix_nil.mp hnil)
  have hlast : ([text.length].filter fun i ↦ needle.isPrefixOf ((text ++ ['\n']).drop i)) = [] := by
    simpa [List.filter_cons, ← List.isPrefixOf_iff_prefix] using hend
  rw [occurrences, List.length_append, List.length_singleton, List.range_succ, List.filter_append,
    hlast, List.append_nil]
  refine List.filter_congr fun i hi ↦ ?_
  rw [List.drop_append_of_le_length (List.mem_range.mp hi).le, Bool.eq_iff_iff,
    List.isPrefixOf_iff_prefix, List.isPrefixOf_iff_prefix, hconcat]

/-! ### Lines -/

theorem splitLines_ne_nil (text : List Char) : splitLines text ≠ [] := by
  cases text with
  | nil => simp [splitLines]
  | cons c rest =>
    rw [splitLines]
    split
    · simp
    · split <;> simp

/-- A line feed parts the lines before it from those behind it. -/
theorem splitLines_append (text more : List Char) :
    splitLines (text ++ '\n' :: more) = splitLines text ++ splitLines more := by
  induction text with
  | nil => simp [splitLines]
  | cons c rest ih =>
    rw [List.cons_append, splitLines, splitLines, ih]
    split
    · rfl
    · cases hrest : splitLines rest with
      | nil => exact absurd hrest (splitLines_ne_nil rest)
      | cons piece pieces => rfl

theorem splitLines_of_not_mem {line : List Char} (h : '\n' ∉ line) : splitLines line = [line] := by
  induction line with
  | nil => rfl
  | cons c rest ih =>
    rw [List.mem_cons, not_or] at h
    rw [splitLines, if_neg (Ne.symm h.1), ih h.2]

/-- The first line begins the text, and the others lie in it. -/
theorem splitLines_parts {text piece : List Char} {pieces : List (List Char)}
    (h : splitLines text = piece :: pieces) : piece <+: text ∧ ∀ p ∈ pieces, p <:+: text := by
  induction text generalizing piece pieces with
  | nil =>
    cases h
    simp
  | cons c rest ih =>
    obtain ⟨first, others, hrest⟩ := List.exists_cons_of_ne_nil (splitLines_ne_nil rest)
    obtain ⟨hfirst, hothers⟩ := ih hrest
    rw [splitLines, hrest] at h
    split at h
    · cases h
      refine ⟨List.nil_prefix, fun p hp ↦ ?_⟩
      rcases List.mem_cons.mp hp with rfl | hp
      · exact List.infix_cons hfirst.isInfix
      · exact List.infix_cons (hothers p hp)
    · cases h
      exact ⟨List.cons_prefix_cons.mpr ⟨rfl, hfirst⟩, fun p hp ↦ List.infix_cons (hothers p hp)⟩

theorem occursIn_iff {needle text : List Char} :
    occursIn needle text = true ↔ needle <:+: text := by
  rw [occursIn, Option.isSome_iff_ne_none, Ne, cutAt_eq_none_iff, not_not]

/-- No line of a text holds what does not occur in the text. -/
theorem countP_splitLines_eq_zero {needle text : List Char} (h : ¬ needle <:+: text) :
    (splitLines text).countP (occursIn needle) = 0 := by
  have hnone {p : List Char} (hp : p <:+: text) : ¬ occursIn needle p = true :=
    fun hoccurs ↦ h ((occursIn_iff.mp hoccurs).trans hp)
  obtain ⟨first, others, hpieces⟩ := List.exists_cons_of_ne_nil (splitLines_ne_nil text)
  obtain ⟨hfirst, hothers⟩ := splitLines_parts hpieces
  rw [hpieces, List.countP_eq_zero]
  intro p hp
  rcases List.mem_cons.mp hp with rfl | hp
  · exact hnone hfirst.isInfix
  · exact hnone (hothers p hp)

/-- Of the lines up to the end of the line of a first occurrence, one holds what occurs. -/
theorem countP_splitLines_eq_one {needle before line : List Char} (hbefore : ¬ needle <:+: before)
    (hline : needle <:+: line) (hfeed : '\n' ∉ line) :
    (splitLines (before ++ line ++ ['\n'])).countP (occursIn needle) = 1 := by
  have hoccurs {text : List Char} (h : line <:+: text) : occursIn needle text = true :=
    occursIn_iff.mpr (hline.trans h)
  have hend : (splitLines []).countP (occursIn needle) = 0 :=
    countP_splitLines_eq_zero fun h ↦ hbefore (h.trans List.nil_infix)
  rw [splitLines_append, List.countP_append, hend, Nat.add_zero]
  by_cases hmem : '\n' ∈ before
  · obtain ⟨back, front, hsplit, hback⟩ := List.eq_append_cons_of_mem (List.mem_reverse.mpr hmem)
    have hsplit' : before = front.reverse ++ '\n' :: back.reverse := by
      rw [← List.reverse_reverse before, hsplit]
      simp
    have hfront : ¬ needle <:+: front.reverse := fun h ↦
      hbefore (h.trans (hsplit' ▸ (List.prefix_append _ _).isInfix))
    have hlast : '\n' ∉ back.reverse ++ line := by simp [hback, hfeed]
    rw [hsplit', List.append_assoc, List.cons_append, splitLines_append, List.countP_append,
      countP_splitLines_eq_zero hfront, splitLines_of_not_mem hlast, List.countP_singleton,
      if_pos (hoccurs (List.suffix_append _ _).isInfix)]
  · have hlast : '\n' ∉ before ++ line := by simp [hmem, hfeed]
    rw [splitLines_of_not_mem hlast, List.countP_singleton,
      if_pos (hoccurs (List.suffix_append _ _).isInfix)]

/-! ### Bytes -/

/-- The bytes of a text in UTF-8. -/
def encoded (text : List Char) : Bytes := text.flatMap String.utf8EncodeChar

theorem utf8_eq_encoded (s : String) : utf8 s = encoded s.toList := utf8_eq_flatMap s

theorem encoded_append (text more : List Char) :
    encoded (text ++ more) = encoded text ++ encoded more := List.flatMap_append

/-- The characters of ASCII have one byte each. -/
def IsAscii (text : List Char) : Prop := ∀ c ∈ text, c.toNat < 0x80

theorem utf8EncodeChar_of_lt {c : Char} (hc : c.toNat < 0x80) :
    String.utf8EncodeChar c = [UInt8.ofNat c.toNat] := by
  have hle : c.toNat ≤ 127 := Nat.le_of_lt_succ hc
  simp [String.utf8EncodeChar, hle]

/-- A byte of ASCII among the bytes of a text begins a character. -/
theorem exists_take_of_getElem? {text : List Char} {b : UInt8} {j : Nat} (hb : b.toNat < 0x80)
    (h : (encoded text)[j]? = some b) : ∃ i, (encoded (text.take i)).length = j := by
  induction text generalizing j with
  | nil => simp [encoded] at h
  | cons c rest ih =>
    rw [encoded, List.flatMap_cons] at h
    by_cases hj : j < (String.utf8EncodeChar c).length
    · rw [List.getElem?_append_left hj] at h
      have hc : c.toNat < 0x80 := by
        rw [mem_utf8EncodeChar hb (List.mem_of_getElem? h)]
        exact hb
      rw [utf8EncodeChar_of_lt hc, List.length_singleton] at hj
      exact ⟨0, by simp [encoded]; omega⟩
    · rw [List.getElem?_append_right (by omega)] at h
      obtain ⟨i, hi⟩ := ih h
      refine ⟨i + 1, ?_⟩
      rw [encoded] at hi
      rw [List.take_succ_cons, encoded, List.flatMap_cons, List.length_append, hi]
      omega

variable {needle text : List Char}

/-- Where the bytes of a text in ASCII begin a text, its characters do. -/
theorem begins_of_encoded (hascii : IsAscii needle) (h : encoded needle <+: encoded text) :
    needle <+: text := by
  induction needle generalizing text with
  | nil => exact List.nil_prefix
  | cons c rest ih =>
    have hc : c.toNat < 0x80 := hascii c (by simp)
    have hbyte : (UInt8.ofNat c.toNat).toNat = c.toNat := by
      rw [UInt8.toNat_ofNat']
      omega
    rw [encoded, List.flatMap_cons, utf8EncodeChar_of_lt hc] at h
    cases text with
    | nil => simp [encoded] at h
    | cons d others =>
      have hd : d = c := by
        obtain ⟨first, bytes, hbytes⟩ : ∃ first bytes, String.utf8EncodeChar d = first :: bytes :=
          List.exists_cons_of_ne_nil String.utf8EncodeChar_ne_nil
        have hfirst : UInt8.ofNat c.toNat = first := by
          rw [encoded, List.flatMap_cons, hbytes] at h
          exact (List.cons_prefix_cons.mp h).1
        refine Char.toNat_inj.mp ?_
        rw [mem_utf8EncodeChar (b := first) (by rw [← hfirst, hbyte]; exact hc) (by simp [hbytes]),
          ← hfirst, hbyte]
      subst hd
      rw [encoded, List.flatMap_cons, utf8EncodeChar_of_lt hc] at h
      have hrest := ih (fun e he ↦ hascii e (by simp [he]))
        ((List.cons_prefix_cons.mp h).2)
      exact List.cons_prefix_cons.mpr ⟨rfl, hrest⟩

/-- The bytes of a text in ASCII stand between characters. -/
theorem exists_drop_of_encoded (hascii : IsAscii needle) (hne : needle ≠ []) {j : Nat}
    (h : encoded needle <+: (encoded text).drop j) :
    ∃ i, (encoded (text.take i)).length = j ∧ needle <+: text.drop i := by
  obtain ⟨c, rest, rfl⟩ := List.exists_cons_of_ne_nil hne
  have hc : c.toNat < 0x80 := hascii c (by simp)
  have hbyte : (encoded text)[j]? = some (UInt8.ofNat c.toNat) := by
    obtain ⟨more, hmore⟩ := h
    have hhead := congrArg List.head? hmore
    rw [encoded, List.flatMap_cons, utf8EncodeChar_of_lt hc, List.head?_drop] at hhead
    exact hhead.symm
  obtain ⟨i, hi⟩ := exists_take_of_getElem? (by rw [UInt8.toNat_ofNat']; omega) hbyte
  refine ⟨i, hi, begins_of_encoded hascii ?_⟩
  have hsplit : encoded text = encoded (text.take i) ++ encoded (text.drop i) := by
    rw [← encoded_append, List.take_append_drop]
  rwa [hsplit, ← hi, List.drop_left] at h

/-- A text in ASCII that does not occur among characters does not occur among their bytes. -/
theorem not_infix_encoded (hascii : IsAscii needle) (hne : needle ≠ []) (h : ¬ needle <:+: text) :
    ¬ encoded needle <:+: encoded text := by
  intro hoccurs
  obtain ⟨j, hj⟩ := exists_stands hoccurs
  obtain ⟨i, -, hi⟩ := exists_drop_of_encoded hascii hne hj
  exact h (hi.isInfix.trans (List.drop_suffix i text).isInfix)

/-- A text in ASCII stands first among the bytes where it stands first among the characters. -/
theorem firstAt_encoded {before after : List Char} (hascii : IsAscii needle) (hne : needle ≠ [])
    (h : FirstAt needle (before ++ after) before.length) :
    FirstAt (encoded needle) (encoded (before ++ after)) (encoded before).length := by
  constructor
  · obtain ⟨more, hmore⟩ := h.stands
    rw [List.drop_left] at hmore
    rw [encoded_append, List.drop_left, ← hmore, encoded_append]
    exact List.prefix_append _ _
  · intro j hj hstands
    obtain ⟨i, hi, hearlier⟩ := exists_drop_of_encoded hascii hne hstands
    refine h.earlier i ?_ hearlier
    by_contra hle
    -- what begins later has more bytes before it
    have htake : (before ++ after).take i = before ++ after.take (i - before.length) := by
      rw [List.take_append, List.take_of_length_le (by omega)]
    rw [htake, encoded_append, List.length_append] at hi
    omega

end KernelForge.Text
