import KernelForge.Proofs.Disk.Absolute
import Mathlib.Data.List.Infix

/-!
# The directories above a place

The path of a place goes through the names from the root down, so what is above it are the paths of
the shorter names, the longest first. Main statements: `ancestors_ofNames`, what a search in that
order finds (`find?_inits_reverse`), and, where no link is in the way, which of the paths lead to a
directory (`isDirectory_ofNames_iff`).
-/

namespace KernelForge

/-- A search through the beginnings of a list, the longest first, finds the longest one. -/
theorem find?_inits_reverse {α : Type} {P : List α → Bool} {xs q : List α} :
    xs.inits.reverse.find? P = some q ↔
      q <+: xs ∧ P q ∧ ∀ q', q' <+: xs → q.length < q'.length → ¬ P q' := by
  induction xs using List.reverseRecOn with
  | nil =>
    simp only [List.inits, List.reverse_singleton, List.find?_singleton,
      Option.ite_none_right_eq_some, Option.some.injEq, List.prefix_nil]
    constructor
    · rintro ⟨hq, rfl⟩
      exact ⟨rfl, hq, by rintro q' rfl hlt; simp at hlt⟩
    · rintro ⟨rfl, hq, -⟩
      exact ⟨hq, rfl⟩
  | append_singleton xs x ih =>
    have hinits : (xs ++ [x]).inits.reverse = (xs ++ [x]) :: xs.inits.reverse := by
      simp [List.inits_append]
    rw [hinits, List.find?_cons]
    split
    · next hall =>
      rw [Option.some.injEq]
      constructor
      · rintro rfl
        exact ⟨List.prefix_refl _, hall, fun q' hq' hlt ↦ absurd hq'.length_le (Nat.not_le.mpr hlt)⟩
      · rintro ⟨hq, -, hlonger⟩
        by_contra hne
        have hlt : q.length < (xs ++ [x]).length :=
          hq.length_le.lt_of_ne fun h ↦ hne (hq.eq_of_length h).symm
        exact hlonger _ (List.prefix_refl _) hlt hall
    · next hall =>
      rw [ih]
      simp only [List.prefix_concat_iff]
      constructor
      · rintro ⟨hq, hP, hlonger⟩
        refine ⟨.inr hq, hP, ?_⟩
        rintro q' (rfl | hq') hlt
        · simpa using hall
        · exact hlonger q' hq' hlt
      · rintro ⟨rfl | hq, hP, hlonger⟩
        · rw [hall] at hP
          cases hP
        · exact ⟨hq, hP, fun q' hq' ↦ hlonger q' (.inr hq')⟩

namespace Path

variable {names : List Bytes}

/-- Names between slashes are the pieces. -/
theorem pieces_intersperse (h : ∀ name ∈ names, slash ∉ name) (hnil : names ≠ []) :
    pieces (names.intersperse [slash]).flatten = names := by
  induction names with
  | nil => exact absurd rfl hnil
  | cons name rest ih =>
    have hname := pieces_of_not_mem (h name List.mem_cons_self)
    cases rest with
    | nil => simpa using hname
    | cons next more =>
      have hrest : pieces ((next :: more).intersperse [slash]).flatten = next :: more :=
        ih (fun n hn ↦ h n (List.mem_cons_of_mem name hn)) (by simp)
      have hflat : ((name :: next :: more).intersperse [slash]).flatten =
          name ++ slash :: ((next :: more).intersperse [slash]).flatten := by
        rw [List.intersperse_cons_cons]
        rfl
      rw [hflat, pieces_append_slash, hname, hrest, List.singleton_append]

/-- The bytes of the path of a place, from its last name. -/
theorem bytes_ofNames_concat (init : List Bytes) (name : Bytes) :
    (ofNames (init ++ [name])).bytes = slash :: init.flatMap (· ++ [slash]) ++ name := by
  have hflat : ((init ++ [name]).intersperse [slash]).flatten =
      init.flatMap (· ++ [slash]) ++ name := by
    induction init with
    | nil => simp
    | cons first rest ih =>
      obtain ⟨second, more, hmore⟩ : ∃ second more, rest ++ [name] = second :: more :=
        List.exists_cons_of_ne_nil (by simp)
      rw [List.cons_append, hmore, List.intersperse_cons_cons, ← hmore]
      simp [ih]
  rw [ofNames, hflat]
  rfl

/-- Behind the names of `init`, a path grows by one name after the other. -/
theorem growing_eq (init : List Bytes) (h : ∀ name ∈ names, name ≠ [] ∧ name ≠ dot) :
    (ofNames init).bytes :: growing (slash :: init.flatMap (· ++ [slash])) names =
      names.inits.map fun q ↦ (ofNames (init ++ q)).bytes := by
  induction names generalizing init with
  | nil => simp [growing]
  | cons name rest ih =>
    obtain ⟨hnil, hdot⟩ := h name List.mem_cons_self
    have hnext : slash :: init.flatMap (· ++ [slash]) ++ name ++ [slash] =
        slash :: (init ++ [name]).flatMap (· ++ [slash]) := by simp
    rw [growing, if_neg (by simp [hnil, hdot]), hnext, ← bytes_ofNames_concat,
      ih _ fun n hn ↦ h n (List.mem_cons_of_mem name hn), List.inits_cons]
    simp

/-- What is above the path of a place, the path itself first. -/
theorem ancestors_ofNames (h : ∀ name ∈ names, IsName name) :
    (ofNames names).ancestors = names.inits.reverse.map ofNames := by
  have hgrowing : [slash] :: growing [slash] (pieces (ofNames names).bytes.tail) =
      names.inits.map fun q ↦ (ofNames q).bytes := by
    by_cases hnil : names = []
    · subst hnil
      decide
    · have hpieces : pieces (ofNames names).bytes.tail = names :=
        pieces_intersperse (fun n hn ↦ (h n hn).slash) hnil
      rw [hpieces]
      exact growing_eq [] fun n hn ↦ ⟨(h n hn).ne_nil, (h n hn).ne_dot⟩
  have hstems : (ofNames names).stems = names.inits.reverse.map ofNames := by
    have habsolute : (ofNames names).isAbsolute = true := rfl
    rw [stems]
    simp only [habsolute, if_true, hgrowing, ← List.map_reverse, List.map_map]
    rfl
  have hhead : names.inits.reverse = names :: names.inits.reverse.tail := by
    induction names using List.reverseRecOn with
    | nil => rfl
    | append_singleton names name => simp [List.inits_append]
  rw [ancestors, hstems, hhead, List.map_cons, List.tail_cons]

/-- The segments of the path of a place are its names. -/
theorem segments_ofNames (h : ∀ name ∈ names, IsName name) : (ofNames names).segments = names := by
  rw [ofNames_eq_behind h, segments_behind fun n hn ↦ ⟨(h n hn).slash, (h n hn).ne_nil⟩]
  rfl

/-- Two names are joined to a path one after the other. -/
theorem join_join (p : Path) {a b : Bytes} (ha : slash ∉ a) (hnil : a ≠ []) (hb : slash ∉ b) :
    (p.join ⟨a⟩).join ⟨b⟩ = p.join ⟨a ++ slash :: b⟩ := by
  have hone := bytes_join p (not_isAbsolute_of_not_mem ha)
  have hslashed : (p.join ⟨a⟩).isSlashed = false :=
    not_isSlashed_of_lastPiece (by rwa [lastPiece_join ha])
  have hseparator : (p.join ⟨a⟩).separator = [slash] := by
    rw [separator, if_neg (by simp [hslashed, hone, hnil])]
  have hrelative : (Path.mk (a ++ slash :: b)).isAbsolute = false := by
    obtain ⟨x, rest, rfl⟩ := List.exists_cons_of_ne_nil hnil
    have hfirst : (Path.mk (x :: rest)).isAbsolute = false := not_isAbsolute_of_not_mem ha
    exact hfirst
  have hbytes : ((p.join ⟨a⟩).join ⟨b⟩).bytes = (p.join ⟨a ++ slash :: b⟩).bytes := by
    rw [bytes_join _ (not_isAbsolute_of_not_mem hb), hone, hseparator, bytes_join p hrelative]
    simp
  exact congrArg Path.mk hbytes

end Path

namespace Disk

variable {d : Disk} {p q base : Place} {names : List Bytes}

/-- What is above a directory is a directory. -/
theorem IsDirectory.above (hd : d.WellFormed) (h : d.IsDirectory p) (hq : q <+: p) :
    d.IsDirectory q := by
  obtain ⟨rest, rfl⟩ := hq
  obtain ⟨s, hs⟩ := h
  by_contra hno
  by_cases hrest : rest = []
  · rw [hrest, List.append_nil] at hs
    exact hno ⟨s, hs⟩
  · rw [hd.node?_below (not_exists.mp hno) rest hrest] at hs
    cases hs

theorem isDirectory_iff : d.IsDirectory q ↔ (d.serialAt? q).isSome := by
  constructor
  · rintro ⟨s, hs⟩
    simp [serialAt?_eq_some hs]
  · intro hsome
    by_contra hno
    simp [serialAt?_eq_none (not_exists.mp hno)] at hsome

instance (d : Disk) (q : Place) : Decidable (d.IsDirectory q) :=
  decidable_of_iff' _ isDirectory_iff

theorem unlinked_iff : d.Unlinked base names ↔
    ∀ q ∈ names.inits, ∀ n ∈ d.node? (base ++ q), n.isSolid ∨ n.isDirectory := by
  have hnode : ∀ n : Node, (n.isSolid ∨ n.isDirectory) ↔ ∀ t, n ≠ .link t := by
    rintro (_ | _ | _ | _ | _) <;> simp [Node.isSolid, Node.isDirectory]
  simp only [Unlinked, List.mem_inits, Option.mem_def, hnode]
  constructor
  · rintro h q hq n hn t rfl
    exact h q hq t hn
  · exact fun h q hq t ht ↦ h q hq _ ht t rfl

instance (d : Disk) (base : Place) (names : List Bytes) : Decidable (d.Unlinked base names) :=
  decidable_of_iff' _ unlinked_iff

end Disk

namespace Files

variable {f f' : Files} {p : Path} {here place base rest : Place}

/-- A path leads to a directory if one stands at its place. -/
theorem isDirectory_iff (hs : f.start p = .ok (.place here)) :
    f.isDirectory p ↔ ∃ place, f.place p = .ok place ∧ f.disk.IsDirectory place := by
  simp only [isDirectory, node, place_eq_ok hs, spot, hs, Disk.reach, bind, Except.bind, pure,
    Except.pure]
  cases f.disk.walk linkLimit here p.steps with
  | error cause => simp
  | ok r =>
    obtain ⟨q, left⟩ := r
    simp only [Except.ok.injEq, Prod.mk.injEq, exists_and_left, exists_eq', and_true,
      exists_eq_left', Disk.IsDirectory]
    cases f.disk.node? q with
    | none => simp
    | some n => cases n <;> simp [Node.isDirectory]

/-- Where directories and links stay, what leads to a directory from a current directory that is
there still does. -/
theorem isDirectory_extends (hf : f.WellFormed) (hf' : f'.WellFormed) (hhere : f'.here = f.here)
    (he : f.disk.Extends f'.disk) (hplace : f.disk.placeOf? f.here = some place)
    (h : f.isDirectory p) : f'.isDirectory p := by
  cases hs : f.start p with
  | error cause => simp [isDirectory, node, spot, hs, bind, Except.bind] at h
  | ok spot =>
    obtain ⟨start, rfl⟩ : ∃ start, spot = .place start := by
      rw [start_eq_ok hs, Disk.spotOf, hplace]
      split <;> exact ⟨_, rfl⟩
    obtain ⟨q, hq, s, hdir⟩ := (isDirectory_iff hs).mp h
    have hs' := start_keeps hf hf' hhere (fun s hs ↦ he _ _ hs rfl) hs
    exact (isDirectory_iff hs').mpr
      ⟨q, place_extends hf hf' hhere he hs hq ⟨s, hdir⟩, s, he _ _ hdir rfl⟩

/-- The lookup of the path of a place starts at the root, unless the path is too long. -/
theorem start_ofNames {names : List Bytes} (hnames : ∀ name ∈ names, Path.IsName name) :
    f.start (.ofNames names) =
      if pathLimit ≤ (Path.ofNames names).bytes.length then .error .tooLong
      else .ok (.place []) := by
  have hzero : 0 ∉ (Path.ofNames names).bytes := by
    rw [Path.ofNames_eq_behind hnames]
    exact Path.zero_not_mem_behind (by decide) fun n hn ↦ ⟨(hnames n hn).slash, (hnames n hn).zero⟩
  rw [start, if_neg hzero, if_neg (by simp [Path.ofNames])]
  rfl

/-- Below a directory, where no link is in the way, the path of a place leads to a directory exactly
if one stands there and the path is not too long. -/
theorem isDirectory_ofNames_iff (hf : f.WellFormed) (hbase : f.disk.IsDirectory base)
    (hnames : ∀ name ∈ base ++ rest, Path.IsName name) (hlink : f.disk.Unlinked base rest) :
    f.isDirectory (.ofNames (base ++ rest)) ↔
      ¬ pathLimit ≤ (Path.ofNames (base ++ rest)).bytes.length ∧
        f.disk.IsDirectory (base ++ rest) := by
  have hstart := start_ofNames (f := f) hnames
  by_cases hlong : pathLimit ≤ (Path.ofNames (base ++ rest)).bytes.length
  · rw [if_pos hlong] at hstart
    simp [isDirectory, node, spot, hstart, hlong, bind, Except.bind]
  rw [if_neg hlong] at hstart
  simp only [isDirectory_iff hstart, place_eq_ok hstart, hlong, not_false_eq_true, true_and]
  constructor
  · rintro ⟨q, ⟨left, hwalk⟩, hdir⟩
    have hway := Disk.walk_segments hwalk
    rw [Path.segments_ofNames hnames, Disk.walk_append, Disk.walk_place hf.disk hbase
      fun n hn ↦ hnames n (List.mem_append_left _ hn)] at hway
    have hq : q = base ++ rest := Disk.walk_unlinked
      (fun hdot ↦ (hnames _ (List.mem_append_right _ hdot)).ne_dot rfl)
      (fun hdotDot ↦ (hnames _ (List.mem_append_right _ hdotDot)).ne_dotDot rfl) hlink hway
    rwa [← hq]
  · rintro ⟨s, hs⟩
    refine ⟨base ++ rest, ⟨linkLimit, ?_⟩, s, hs⟩
    rw [Path.steps, Path.segments_ofNames hnames, Disk.walk_append,
      Disk.walk_place hf.disk ⟨s, hs⟩ hnames]
    simp only
    split
    · rw [Disk.walk_dot hs, Disk.walk_nil]
    · rw [Disk.walk_nil]

end Files

end KernelForge
