import KernelForge.DType
import KernelForge.Target.Basic
import Mathlib.Data.List.Forall2
import Mathlib.Data.List.TakeWhile

/-!
# How a name is spelt

A name is read without regard to white space around it and to the case of ASCII letters, and to
nothing else: white space around a text does not show once it is trimmed, trimming and lowering
commute, and two texts have one lower case exactly if they differ in the case of ASCII letters.
Main statements: `lower_trim_eq_iff` and, for the element types and the targets, `names_read`.
-/

namespace KernelForge

namespace Text

/-! ### The case of letters -/

/-- Two characters that are one, or an ASCII letter in either case. -/
def SameLetter (c d : Char) : Prop :=
  c = d ∨ (('A' ≤ c ∧ c ≤ 'Z') ∧ d.toNat = c.toNat + 32) ∨
    (('A' ≤ d ∧ d ≤ 'Z') ∧ c.toNat = d.toNat + 32)

/-- Two texts that differ in the case of ASCII letters at most. -/
def SameLetters (s t : String) : Prop := List.Forall₂ SameLetter s.toList t.toList

private theorem capital_iff (c : Char) : ('A' ≤ c ∧ c ≤ 'Z') ↔ 65 ≤ c.toNat ∧ c.toNat ≤ 90 :=
  Iff.rfl

private theorem toNat_toLower (c : Char) :
    c.toLower.toNat = if 65 ≤ c.toNat ∧ c.toNat ≤ 90 then c.toNat + 32 else c.toNat := by
  by_cases h : 65 ≤ c.toNat ∧ c.toNat ≤ 90
  · have hcapital : c.val ≥ 'A'.val ∧ c.val ≤ 'Z'.val := h
    have hsmall : c.val.toNat ≤ 90 := h.2
    have hlower : c.toLower = ⟨c.val + 32, _⟩ := dif_pos hcapital
    rw [if_pos h, hlower]
    show (c.val + 32).toNat = c.val.toNat + 32
    rw [UInt32.toNat_add]
    simp only [UInt32.reduceToNat]
    omega
  · have hcapital : ¬ (c.val ≥ 'A'.val ∧ c.val ≤ 'Z'.val) := h
    have hlower : c.toLower = c := dif_neg hcapital
    rw [if_neg h, hlower]

/-- Two characters have one lower case exactly if they are one, or one letter in either case. -/
theorem toLower_eq_iff {c d : Char} : c.toLower = d.toLower ↔ SameLetter c d := by
  rw [SameLetter, capital_iff, capital_iff, ← Char.toNat_inj, ← Char.toNat_inj, toNat_toLower,
    toNat_toLower]
  split <;> split <;> omega

/-- Two texts have one lower case exactly if they differ in the case of letters at most. -/
theorem lower_eq_iff {s t : String} : lower s = lower t ↔ SameLetters s t := by
  rw [lower, lower, String.ofList_inj, SameLetters, ← List.forall₂_eq_eq_eq,
    List.forall₂_map_left_iff, List.forall₂_map_right_iff]
  simp only [toLower_eq_iff]

/-- White space has no case. -/
theorem isBlank_toLower (c : Char) : isBlank c.toLower = isBlank c := by
  have hletter : ∀ n : Nat, 65 ≤ n → n ≤ 122 → ∀ d : Char, d.toNat = n → isBlank d = false := by
    intro n hn hn' d hd
    simp only [isBlank, hd]
    simp
    omega
  by_cases h : 65 ≤ c.toNat ∧ c.toNat ≤ 90
  · have hc := toNat_toLower c
    rw [if_pos h] at hc
    rw [hletter _ (by omega) (by omega) _ hc, hletter _ h.1 (by omega) c rfl]
  · have hc := toNat_toLower c
    rw [if_neg h, Char.toNat_inj] at hc
    rw [hc]

/-! ### White space around a text -/

/-- Nothing but white space. -/
def AllBlank (s : String) : Prop := ∀ c ∈ s.toList, isBlank c

section Trim

variable {before core after cs : List Char}

/-- White space at the end does not show. -/
private theorem dropBlankEnd_append (hafter : ∀ c ∈ after, isBlank c) :
    dropBlankEnd (cs ++ after) = dropBlankEnd cs := by
  rw [dropBlankEnd, dropBlankEnd, List.reverse_append, List.dropWhile_append_of_pos]
  exact fun c hc ↦ hafter c (List.mem_reverse.mp hc)

/-- White space on either side does not show. -/
theorem trimBlank_append (hbefore : ∀ c ∈ before, isBlank c) (hafter : ∀ c ∈ after, isBlank c) :
    trimBlank (before ++ core ++ after) = trimBlank core := by
  rw [trimBlank, trimBlank, List.append_assoc, List.dropWhile_append_of_pos hbefore,
    List.dropWhile_append]
  split
  · next hempty =>
    -- nothing but white space is left
    rw [List.isEmpty_iff] at hempty
    rw [hempty, List.dropWhile_eq_nil_iff.mpr hafter]
  · exact dropBlankEnd_append hafter

/-- A text is what is left of it, with white space on either side. -/
theorem exists_trimBlank (cs : List Char) : ∃ before after, cs = before ++ trimBlank cs ++ after ∧
    (∀ c ∈ before, isBlank c) ∧ ∀ c ∈ after, isBlank c := by
  have hstart := List.takeWhile_append_dropWhile (p := isBlank) (l := cs)
  have hend := List.takeWhile_append_dropWhile (p := isBlank) (l := (cs.dropWhile isBlank).reverse)
  refine ⟨cs.takeWhile isBlank, ((cs.dropWhile isBlank).reverse.takeWhile isBlank).reverse, ?_,
    fun c hc ↦ List.mem_takeWhile_imp hc,
    fun c hc ↦ List.mem_takeWhile_imp (List.mem_reverse.mp hc)⟩
  rw [trimBlank, dropBlankEnd, List.append_assoc, ← List.reverse_append, hend, List.reverse_reverse,
    hstart]

/-- What has no white space is left as it is. -/
theorem trimBlank_eq_self (h : ∀ c ∈ cs, isBlank c = false) : trimBlank cs = cs := by
  have hdrop : ∀ {cs : List Char}, (∀ c ∈ cs, isBlank c = false) → cs.dropWhile isBlank = cs := by
    intro cs h
    cases cs with
    | nil => rfl
    | cons c rest => rw [List.dropWhile_cons_of_neg (by simp [h c])]
  rw [trimBlank, dropBlankEnd, hdrop h, hdrop fun c hc ↦ h c (List.mem_reverse.mp hc),
    List.reverse_reverse]

private theorem dropWhile_toLower (cs : List Char) :
    (cs.map Char.toLower).dropWhile isBlank = (cs.dropWhile isBlank).map Char.toLower := by
  have hblank : isBlank ∘ Char.toLower = isBlank := funext isBlank_toLower
  rw [List.dropWhile_map, hblank]

/-- It is one whether a text is trimmed first or lowered first. -/
theorem lower_trim (s : String) : lower (trim s) = trim (lower s) := by
  simp only [lower, trim, String.toList_ofList, trimBlank, dropBlankEnd, dropWhile_toLower,
    ← List.map_reverse]

end Trim

/-- White space around a text does not show, nor does the case of letters. -/
theorem lower_trim_restyled {s t before after : String} (hletters : SameLetters t s)
    (hbefore : AllBlank before) (hafter : AllBlank after) :
    lower (trim (before ++ t ++ after)) = lower (trim s) := by
  have htrim : trim (before ++ t ++ after) = trim t := by
    rw [trim, trim, String.toList_append, String.toList_append, trimBlank_append hbefore hafter]
  rw [htrim, lower_trim, lower_eq_iff.mpr hletters, lower_trim]

/-! ### Spellings -/

/-- White space around it and the case of letters aside, `s` is `name`. -/
def Spells (s name : String) : Prop :=
  ∃ before core after, s = before ++ core ++ after ∧ AllBlank before ∧ AllBlank after ∧
    SameLetters core name

/-- A name without white space, capitals and characters beyond ASCII. -/
def IsPlain (name : String) : Prop :=
  ∀ c ∈ name.toList, isBlank c = false ∧ c.toLower = c ∧ c.toNat ≤ 127

-- a text is checked through its own characters, not through all there are
instance (name : String) : Decidable (IsPlain name) := List.decidableBAll _ name.toList

/-- What is left of a text once it is trimmed and lowered is a plain name exactly if the text spells
that name. -/
theorem lower_trim_eq_iff {s name : String} (hname : IsPlain name) :
    lower (trim s) = name ↔ Spells s name := by
  have hlower : lower name = name := by
    rw [lower, List.map_congr_left fun c hc ↦ (hname c hc).2.1, List.map_id', String.ofList_toList]
  constructor
  · intro h
    obtain ⟨before, after, hs, hbefore, hafter⟩ := exists_trimBlank s.toList
    refine ⟨String.ofList before, trim s, String.ofList after, ?_, ?_, ?_, ?_⟩
    · rw [trim, ← String.ofList_append, ← String.ofList_append, ← hs, String.ofList_toList]
    · rwa [AllBlank, String.toList_ofList]
    · rwa [AllBlank, String.toList_ofList]
    · rw [← lower_eq_iff, h, hlower]
  · rintro ⟨before, core, after, rfl, hbefore, hafter, hletters⟩
    have htrim : trim name = name := by
      rw [trim, trimBlank_eq_self fun c hc ↦ (hname c hc).1, String.ofList_toList]
    rw [lower_trim_restyled hletters hbefore hafter, htrim, hlower]

/-- A plain name is no text with white space left inside, or with a character beyond ASCII. -/
theorem lower_trim_ne {s name : String} (hname : IsPlain name) {c : Char}
    (hc : c ∈ (trim s).toList) (hodd : isBlank c ∨ 127 < c.toNat) : lower (trim s) ≠ name := by
  rintro rfl
  have hmem : c.toLower ∈ (lower (trim s)).toList := by
    rw [lower, String.toList_ofList]
    exact List.mem_map_of_mem hc
  obtain ⟨hblank, -, hascii⟩ := hname _ hmem
  rcases hodd with h | h
  · rw [isBlank_toLower, h] at hblank
    cases hblank
  · rw [toNat_toLower, if_neg (by omega)] at hascii
    omega

/-! ### Vocabularies -/

/-- `parse` reads exactly the given spellings of each meaning, `name` among them, up to white space
around a text and the case of its letters; every other text is refused with its own error. -/
structure Reads {α ε : Type} (spellings : α → List String) (name : α → String)
    (unknown : String → ε) (parse : String → Except ε α) : Prop where
  /-- A text is read if it is a spelling once it is trimmed and lowered. -/
  accepts : ∀ s x, parse s = .ok x ↔ lower (trim s) ∈ spellings x
  /-- That is, if white space around it and the case of letters aside, it is a spelling. -/
  spelt : ∀ s x, parse s = .ok x ↔ ∃ n ∈ spellings x, Spells s n
  /-- Every other text is refused, and the error tells the text as it was given. -/
  refuses : ∀ s e, parse s = .error e ↔ (∀ x, lower (trim s) ∉ spellings x) ∧ e = unknown s
  /-- A spelling belongs to one meaning alone. -/
  unique : ∀ n x y, n ∈ spellings x → n ∈ spellings y → x = y
  /-- White space on either side and the case of letters do not change what is read. -/
  restyled : ∀ s t before after, SameLetters t s → AllBlank before → AllBlank after →
    (parse (before ++ t ++ after)).toOption = (parse s).toOption
  /-- A name is read in every such style. -/
  ownName : ∀ s x, Spells s (name x) → parse s = .ok x
  /-- White space inside is refused. -/
  inner : ∀ s, (∃ c ∈ (trim s).toList, isBlank c) → parse s = .error (unknown s)
  /-- Characters beyond ASCII are refused, white space on either side apart. -/
  foreign : ∀ s, (∃ c ∈ (trim s).toList, 127 < c.toNat) → parse s = .error (unknown s)

section Reads

variable {α ε : Type} {spellings : α → List String} {name : α → String} {unknown : String → ε}
  {parse : String → Except ε α} {all : List α}

/-- A text is read by searching the meanings for one with its spelling, if these are plain and no
two meanings share one. -/
theorem Reads.of_find?
    (hparse : ∀ s, parse s = (all.find? fun x ↦ (spellings x).contains (lower (trim s))).elim
      (.error (unknown s)) .ok)
    (hall : ∀ x, x ∈ all) (hplain : ∀ x ∈ all, ∀ n ∈ spellings x, IsPlain n)
    (hunique : ∀ x ∈ all, ∀ y ∈ all, ∀ n ∈ spellings x, n ∈ spellings y → x = y)
    (hname : ∀ x ∈ all, name x ∈ spellings x) : Reads spellings name unknown parse := by
  have hok : ∀ s x, parse s = .ok x ↔ lower (trim s) ∈ spellings x := by
    intro s x
    rw [hparse]
    cases hfind : all.find? fun x ↦ (spellings x).contains (lower (trim s)) with
    | some y =>
      have hy : lower (trim s) ∈ spellings y := by simpa using List.find?_some hfind
      rw [Option.elim_some, Except.ok.injEq]
      exact ⟨fun h ↦ h ▸ hy, hunique y (hall y) x (hall x) _ hy⟩
    | none =>
      simp only [Option.elim_none, reduceCtorEq, false_iff]
      simpa using List.find?_eq_none.mp hfind x (hall x)
  have herror : ∀ s e,
      parse s = .error e ↔ (∀ x, lower (trim s) ∉ spellings x) ∧ e = unknown s := by
    intro s e
    simp only [← hok]
    rw [hparse]
    cases all.find? fun x ↦ (spellings x).contains (lower (trim s)) with
    | some y => simp
    | none => simp [eq_comm]
  have hspelt : ∀ s x, parse s = .ok x ↔ ∃ n ∈ spellings x, Spells s n := by
    intro s x
    rw [hok]
    constructor
    · exact fun h ↦ ⟨_, h, (lower_trim_eq_iff (hplain x (hall x) _ h)).mp rfl⟩
    · rintro ⟨n, hn, hs⟩
      exact (lower_trim_eq_iff (hplain x (hall x) n hn)).mpr hs ▸ hn
  have hodd : ∀ s, (∃ c ∈ (trim s).toList, isBlank c ∨ 127 < c.toNat) →
      parse s = .error (unknown s) := by
    rintro s ⟨c, hc, hcodd⟩
    exact (herror s _).mpr
      ⟨fun x hx ↦ lower_trim_ne (hplain x (hall x) _ hx) hc hcodd rfl, rfl⟩
  refine ⟨hok, hspelt, herror, fun n x y hx ↦ hunique x (hall x) y (hall y) n hx, ?_,
    fun s x hs ↦ (hspelt s x).mpr ⟨_, hname x (hall x), hs⟩,
    fun s ⟨c, hc, hblank⟩ ↦ hodd s ⟨c, hc, .inl hblank⟩,
    fun s ⟨c, hc, hfar⟩ ↦ hodd s ⟨c, hc, .inr hfar⟩⟩
  intro s t before after hletters hbefore hafter
  rw [hparse, hparse, lower_trim_restyled hletters hbefore hafter]
  cases all.find? fun x ↦ (spellings x).contains (lower (trim s)) <;> rfl

end Reads

end Text

/-! ### Element types and targets -/

private theorem DType.parse_eq (s : String) : parse s = (parse? s).elim (.error ⟨s⟩) .ok := by
  rw [parse]
  cases parse? s <;> rfl

private theorem Target.parse_eq (s : String) :
    parse s = (parse? s).elim (.error (.unknownTarget s)) .ok := by
  rw [parse]
  cases parse? s <;> rfl

/-- Every target is listed. -/
theorem Target.mem_all (t : Target) : t ∈ all := by cases t <;> decide

/-- The names of the element types and those of the targets are read as vocabularies: up to white
space around a text and the case of its ASCII letters, exactly the spellings are read, each as one
thing, and every other text is refused with an error that tells it as it was given. -/
theorem names_read :
    Text.Reads DType.spellings DType.name DType.Unknown.mk DType.parse ∧
      Text.Reads Target.spellings Target.name KernelError.unknownTarget Target.parse := by
  constructor
  · exact .of_find? DType.parse_eq DType.mem_all (by decide +kernel) (by decide +kernel)
      (by decide +kernel)
  · exact .of_find? Target.parse_eq Target.mem_all (by decide +kernel) (by decide +kernel)
      (by decide +kernel)

/-- White space on either side counts as little as a change of case, also beyond ASCII. -/
example : (DType.parse "\u00a0Float8_E4M3FN\n").toOption = some .float8e4m3 := by decide +kernel

end KernelForge
