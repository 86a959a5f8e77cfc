import KernelForge.Proofs.Disk.Joined

/-!
# Paths that are made absolute

A path that is made absolute is the path of the current directory with the segments of the path
behind it, dots left out. What the path leads to, the absolute one leads to as well, unless it is
too long; and an absolute path leads to the same from every directory. Main statement:
`spot_absolute`.
-/

namespace KernelForge

namespace Path

/-! ### Segments set behind a path -/

/-- A name that can stand in a directory. -/
structure IsName (name : Bytes) : Prop where
  /-- It has no slash. -/
  slash : slash ∉ name
  /-- It has no zero byte. -/
  zero : 0 ∉ name
  /-- It is not empty. -/
  ne_nil : name ≠ []
  /-- It is no dot. -/
  ne_dot : name ≠ dot
  /-- It is not two dots. -/
  ne_dotDot : name ≠ dotDot
  /-- It is not too long. -/
  short : ¬ nameLimit < name.length

/-- The path with segments behind it. -/
def behind (base : Path) (segments : List Bytes) : Path :=
  segments.foldl (fun q segment ↦ q.join ⟨segment⟩) base

section Behind

variable {base : Path} {names : List Bytes}

theorem segments_behind (h : ∀ s ∈ names, slash ∉ s ∧ s ≠ []) :
    (base.behind names).segments = base.segments ++ names := by
  induction names generalizing base with
  | nil => simp [behind]
  | cons s rest ih =>
    obtain ⟨hslash, hnil⟩ := h s List.mem_cons_self
    have hrest : ((base.join ⟨s⟩).behind rest).segments = (base.join ⟨s⟩).segments ++ rest :=
      ih fun t ht ↦ h t (List.mem_cons_of_mem s ht)
    rw [segments_join hslash hnil, List.append_assoc, List.singleton_append] at hrest
    exact hrest

theorem isAbsolute_behind (h : base.isAbsolute) : (base.behind names).isAbsolute := by
  induction names generalizing base with
  | nil => exact h
  | cons s rest ih => exact ih (isAbsolute_join_of_isAbsolute h _)

theorem zero_not_mem_behind (hbase : 0 ∉ base.bytes) (h : ∀ s ∈ names, slash ∉ s ∧ 0 ∉ s) :
    0 ∉ (base.behind names).bytes := by
  induction names generalizing base with
  | nil => exact hbase
  | cons s rest ih =>
    obtain ⟨hslash, hzero⟩ := h s List.mem_cons_self
    refine ih ?_ fun t ht ↦ h t (List.mem_cons_of_mem s ht)
    rw [bytes_join base (not_isAbsolute_of_not_mem hslash), separator]
    split <;> simp [hbase, hzero, Path.slash]

/-- A segment behind a path is not closed by a slash. -/
theorem isSlashed_behind (hnames : names ≠ []) (h : ∀ s ∈ names, slash ∉ s ∧ s ≠ []) :
    (base.behind names).isSlashed = false := by
  obtain ⟨init, last, rfl⟩ := List.eq_nil_or_concat names |>.resolve_left hnames
  obtain ⟨hslash, hnil⟩ := h last (by simp)
  rw [behind, List.concat_eq_append, List.foldl_append, List.foldl_cons, List.foldl_nil]
  apply not_isSlashed_of_lastPiece
  rwa [lastPiece_join hslash]

end Behind

theorem path_ofSegment (s : Bytes) : (Component.ofSegment s).path = ⟨s⟩ := by
  unfold Component.ofSegment
  split
  · next h => rw [h]; rfl
  · rfl

/-- Where an absolute path begins: with one slash, or with two. -/
def rootPath (p : Path) : Path :=
  if p.bytes.take 2 = [slash, slash] ∧ p.bytes[2]? ≠ some slash then ⟨[slash, slash]⟩ else ⟨[slash]⟩

theorem isAbsolute_rootPath (p : Path) : p.rootPath.isAbsolute := by
  rw [rootPath]
  split <;> rfl

theorem segments_rootPath (p : Path) : p.rootPath.segments = [] := by
  rw [rootPath]
  split <;> rfl

theorem zero_not_mem_rootPath (p : Path) : 0 ∉ p.rootPath.bytes := by
  rw [rootPath]
  split <;> decide

/-- The segments of `p` behind a path, dots left out; a slash at the end stays. -/
def settledBehind (p base : Path) : Path :=
  let q := base.behind (p.segments.filter (· ≠ dot))
  if p.isSlashed then q.join ⟨[]⟩ else q

/-- The components of a path that are no dot. -/
theorem components_filter (p : Path) : p.components.filter (· ≠ .here) =
    (if p.isAbsolute then [.root] else []) ++
      (p.segments.filter (· ≠ dot)).map Component.ofSegment := by
  have hhere : ∀ s, Component.ofSegment s ≠ .here := by
    intro s
    unfold Component.ofSegment
    split <;> simp
  have hrest : ((p.segments.filter (· ≠ dot)).map Component.ofSegment).filter (· ≠ .here) =
      (p.segments.filter (· ≠ dot)).map Component.ofSegment := by
    rw [List.filter_eq_self]
    intro c hc
    obtain ⟨s, -, rfl⟩ := List.mem_map.mp hc
    simpa using hhere s
  rw [components]
  split
  · rw [List.filter_cons_of_pos (by simp), hrest, List.singleton_append]
  split
  · rw [List.filter_cons_of_neg (by simp), hrest, List.nil_append]
  · rw [hrest, List.nil_append]

/-- Joining components to a path sets their segments behind it. -/
theorem foldl_components (base : Path) (names : List Bytes) :
    (names.map Component.ofSegment).foldl (fun q c ↦ q.join c.path) base = base.behind names := by
  simp only [List.foldl_map, path_ofSegment, behind]

/-- A path seen from a directory is its segments behind the directory. -/
theorem absoluteFrom_eq (p directory : Path) : p.absoluteFrom directory =
    p.settledBehind (if p.isAbsolute then p.rootPath else directory) := by
  have hroot : (Path.mk []).join Component.root.path = ⟨[slash]⟩ := by decide
  rw [absoluteFrom, settledBehind, components_filter]
  by_cases ha : p.isAbsolute
  · by_cases htwice : p.bytes.take 2 = [slash, slash] ∧ p.bytes[2]? ≠ some slash
    · simp only [ha, if_true, rootPath, if_pos htwice, List.singleton_append, List.drop_succ_cons,
        List.drop_zero, foldl_components]
    · simp only [ha, if_true, rootPath, if_neg htwice, List.singleton_append, List.foldl_cons,
        hroot, foldl_components]
  · simp only [ha, Bool.false_eq_true, if_false, List.nil_append, foldl_components]

/-- A part of a byte string has bytes of it. -/
theorem mem_of_mem_pieces {xs piece : Bytes} {b : UInt8} (h : piece ∈ pieces xs) (hb : b ∈ piece) :
    b ∈ xs := by
  induction xs generalizing piece with
  | nil =>
    rw [pieces, List.mem_singleton] at h
    simp [h] at hb
  | cons x rest ih =>
    rw [pieces] at h
    split at h
    · rcases List.mem_cons.mp h with rfl | h
      · cases hb
      · exact List.mem_cons_of_mem x (ih h hb)
    · cases hrest : pieces rest with
      | nil => exact absurd hrest (pieces_ne_nil rest)
      | cons first more =>
        simp only [hrest] at h
        rcases List.mem_cons.mp h with rfl | h
        · rcases List.mem_cons.mp hb with rfl | hb
          · exact List.mem_cons_self
          · exact List.mem_cons_of_mem x (ih (by simp [hrest]) hb)
        · exact List.mem_cons_of_mem x (ih (by simp [hrest, h]) hb)

theorem of_mem_segments {p : Path} {s : Bytes} (h : s ∈ p.segments) :
    slash ∉ s ∧ s ≠ [] ∧ ∀ b ∈ s, b ∈ p.bytes := by
  obtain ⟨hpiece, hnil⟩ := List.mem_filter.mp h
  exact ⟨slash_not_mem_of_mem_pieces hpiece, by simpa using hnil,
    fun b hb ↦ mem_of_mem_pieces hpiece hb⟩

section SettledBehind

variable {p base : Path}

private theorem segments_join_nil (q : Path) : (q.join ⟨[]⟩).segments = q.segments := by
  rw [join, if_neg (by simp [isAbsolute])]
  split
  · rw [List.append_nil]
  · rw [segments_append_slash]
    exact List.append_nil _

private theorem zero_not_mem_join_nil {q : Path} (h : 0 ∉ q.bytes) : 0 ∉ (q.join ⟨[]⟩).bytes := by
  rw [bytes_join q rfl, separator]
  split <;> simp [h, slash]

theorem isAbsolute_settledBehind (h : base.isAbsolute) : (p.settledBehind base).isAbsolute := by
  rw [settledBehind]
  split
  · exact isAbsolute_join_of_isAbsolute (isAbsolute_behind h) _
  · exact isAbsolute_behind h

private theorem of_mem_filter {s : Bytes} (h : s ∈ p.segments.filter (· ≠ dot)) :
    slash ∉ s ∧ s ≠ [] ∧ ∀ b ∈ s, b ∈ p.bytes :=
  of_mem_segments (List.mem_of_mem_filter h)

theorem segments_settledBehind :
    (p.settledBehind base).segments = base.segments ++ p.segments.filter (· ≠ dot) := by
  have hbehind : (base.behind (p.segments.filter (· ≠ dot))).segments =
      base.segments ++ p.segments.filter (· ≠ dot) :=
    segments_behind fun s hs ↦ ⟨(of_mem_filter hs).1, (of_mem_filter hs).2.1⟩
  rw [settledBehind]
  split
  · rw [segments_join_nil, hbehind]
  · exact hbehind

theorem zero_not_mem_settledBehind (hbase : 0 ∉ base.bytes) (hp : 0 ∉ p.bytes) :
    0 ∉ (p.settledBehind base).bytes := by
  have hbehind : 0 ∉ (base.behind (p.segments.filter (· ≠ dot))).bytes :=
    zero_not_mem_behind hbase fun s hs ↦
      ⟨(of_mem_filter hs).1, fun hzero ↦ hp ((of_mem_filter hs).2.2 0 hzero)⟩
  rw [settledBehind]
  split
  · exact zero_not_mem_join_nil hbehind
  · exact hbehind

/-- It ends in a slash only if `p` does or nothing was set behind. -/
theorem isSlashed_settledBehind (h : (p.settledBehind base).isSlashed) :
    p.isSlashed ∨ p.segments.filter (· ≠ dot) = [] := by
  rw [or_iff_not_imp_left]
  intro hp
  by_contra hnames
  rw [settledBehind, if_neg hp,
    isSlashed_behind hnames fun s hs ↦ ⟨(of_mem_filter hs).1, (of_mem_filter hs).2.1⟩] at h
  cases h

end SettledBehind

/-! ### The path of a place -/

/-- Behind a path that does not end in a slash, every segment has a slash before it. -/
private theorem bytes_behind {base : Path} {names : List Bytes} (hbase : base.bytes ≠ [])
    (hslashed : base.isSlashed = false) (h : ∀ name ∈ names, IsName name) :
    (base.behind names).bytes = base.bytes ++ names.flatMap (slash :: ·) := by
  induction names generalizing base with
  | nil => simp [behind]
  | cons name rest ih =>
    have hname := h name List.mem_cons_self
    have hjoin : (base.join ⟨name⟩).bytes = base.bytes ++ slash :: name := by
      rw [bytes_join base (not_isAbsolute_of_not_mem hname.slash), separator,
        if_neg (by simp [hbase, hslashed])]
      simp
    have hslashed' : (base.join ⟨name⟩).isSlashed = false := by
      apply not_isSlashed_of_lastPiece
      rw [lastPiece_join hname.slash]
      exact hname.ne_nil
    have hrest : ((base.join ⟨name⟩).behind rest).bytes =
        (base.join ⟨name⟩).bytes ++ rest.flatMap (slash :: ·) :=
      ih (by simp [hjoin]) hslashed' fun n hn ↦ h n (List.mem_cons_of_mem name hn)
    rw [hjoin] at hrest
    simpa [behind] using hrest

private theorem flatten_intersperse (name : Bytes) (rest : List Bytes) :
    ((name :: rest).intersperse [slash]).flatten = name ++ rest.flatMap (slash :: ·) := by
  induction rest generalizing name with
  | nil => simp
  | cons next more ih =>
    rw [List.intersperse_cons_cons]
    simp [ih]

/-- The path of a place is its names behind the root. -/
theorem ofNames_eq_behind {names : List Bytes} (h : ∀ name ∈ names, IsName name) :
    ofNames names = (Path.mk [slash]).behind names := by
  cases names with
  | nil => rfl
  | cons name rest =>
    have hname := h name List.mem_cons_self
    have hjoin : (Path.mk [slash]).join ⟨name⟩ = ⟨slash :: name⟩ := by
      rw [join, if_neg (by simp [not_isAbsolute_of_not_mem hname.slash]),
        if_pos (Or.inr (by decide))]
      rfl
    have hslashed : (Path.mk (slash :: name)).isSlashed = false := by
      rw [← hjoin]
      apply not_isSlashed_of_lastPiece
      rw [lastPiece_join hname.slash]
      exact hname.ne_nil
    have hrest : ((Path.mk (slash :: name)).behind rest).bytes =
        slash :: name ++ rest.flatMap (slash :: ·) :=
      bytes_behind (by simp) hslashed fun n hn ↦ h n (List.mem_cons_of_mem name hn)
    rw [ofNames, flatten_intersperse, behind, List.foldl_cons, hjoin]
    exact congrArg Path.mk hrest.symm

end Path

namespace Disk

variable {d : Disk} {links : Nat} {here place : Place} {todo : List Bytes}

/-- The names of a directory lead to it from the root. -/
theorem walk_place (hd : d.WellFormed) (hdir : d.IsDirectory place)
    (h : ∀ name ∈ place, Path.IsName name) (links : Nat) :
    d.walk links [] place = .ok (place, links) := by
  induction place using List.reverseRecOn with
  | nil => rw [walk_nil]
  | append_singleton init name ih =>
    obtain ⟨s, hs⟩ := hdir
    obtain ⟨s', hs'⟩ := hd.parent _ _ (by simp) hs
    rw [List.dropLast_concat] at hs'
    have hname := h name (by simp)
    rw [walk_append, ih ⟨s', hs'⟩ fun n hn ↦ h n (List.mem_append_left _ hn)]
    simp only
    rw [walk_name hs' hname.ne_dot hname.ne_dotDot hname.short hs (by simp), walk_nil]

/-- A step by a dot stays in a directory. -/
theorem walk_dot_eq_ok {r : Place × Nat} (h : d.walk links here [Path.dot] = .ok r) :
    d.IsDirectory here ∧ r = (here, links) := by
  obtain ⟨s, hs⟩ := isDirectory_of_walk h
  rw [walk_dot hs, walk_nil, Except.ok.injEq] at h
  exact ⟨⟨s, hs⟩, h.symm⟩

/-- A lookup that succeeds does so without its dots. -/
theorem walk_filter_dot {r : Place × Nat} (h : d.walk links here todo = .ok r) :
    d.walk links here (todo.filter (· ≠ Path.dot)) = .ok r := by
  induction todo generalizing links here with
  | nil => exact h
  | cons segment rest ih =>
    rw [← List.singleton_append, walk_append] at h
    split at h
    · next place links' hstep =>
      by_cases hdot : segment = Path.dot
      · subst hdot
        obtain ⟨-, heq⟩ := walk_dot_eq_ok hstep
        cases heq
        rw [List.filter_cons_of_neg (by simp)]
        exact ih h
      · rw [List.filter_cons_of_pos (by simpa using hdot), ← List.singleton_append, walk_append,
          hstep]
        exact ih h
    · cases h

end Disk

namespace Files

variable {f g : Files} {p q : Path} {here place : Place} {s : Spot}

/-- The current directory stands under names. -/
def Named (f : Files) : Prop :=
  ∀ place, f.disk.placeOf? f.here = some place → ∀ name ∈ place, Path.IsName name

/-- The spot that a path leads to is found by its steps. -/
theorem spot_eq_ok (hs : f.start p = .ok (.place here)) : f.spot p = .ok s ↔
    ∃ place left, s = .place place ∧ f.disk.walk linkLimit here p.steps = .ok (place, left) := by
  simp only [spot, hs, Disk.reach, bind, Except.bind, pure, Except.pure]
  cases f.disk.walk linkLimit here p.steps with
  | error cause => simp
  | ok r => simp [Prod.ext_iff, eq_comm]

/-- An absolute path is looked up in the tree alone. -/
theorem start_of_isAbsolute (hp : p.isAbsolute) : g.start p = f.start p := by
  simp only [start, hp, if_true]

/-- A path is made absolute behind the root or behind the path of the current directory. -/
theorem absolute_eq_ok (h : f.absolute p = .ok q) : ∃ base : Path, base.isAbsolute ∧
    q = p.settledBehind base ∧ (p.isAbsolute ∧ base = p.rootPath ∨
      p.isAbsolute = false ∧ ∃ place, f.disk.placeOf? f.here = some place ∧
        base = .ofNames place) := by
  unfold absolute at h
  split at h
  · cases h
  split at h
  · next ha =>
    rw [Except.ok.injEq, Path.absoluteFrom_eq, if_pos ha] at h
    exact ⟨p.rootPath, p.isAbsolute_rootPath, h.symm, Or.inl ⟨ha, rfl⟩⟩
  · next ha =>
    simp only [current] at h
    cases hplace : f.disk.placeOf? f.here with
    | none =>
      rw [hplace] at h
      cases h
    | some place =>
      rw [hplace] at h
      simp only [Except.ok.injEq] at h
      rw [Path.absoluteFrom_eq, if_neg ha] at h
      exact ⟨_, rfl, h.symm, Or.inr ⟨by simpa using ha, place, rfl, rfl⟩⟩

/-- A path that was made absolute is absolute. -/
theorem isAbsolute_of_absolute (h : f.absolute p = .ok q) : q.isAbsolute := by
  obtain ⟨base, hbase, rfl, -⟩ := absolute_eq_ok h
  exact Path.isAbsolute_settledBehind hbase

/-- A path is made absolute behind one that leads to where its lookup starts. -/
theorem base_of_absolute (hf : f.WellFormed) (hnamed : f.Named) (h : f.absolute p = .ok q)
    {spot : Spot} (hstart : f.start p = .ok spot) : ∃ base here, q = p.settledBehind base ∧
      spot = .place here ∧ 0 ∉ base.bytes ∧
        f.disk.walk linkLimit [] base.segments = .ok (here, linkLimit) := by
  obtain ⟨-, -, -, hspot⟩ := start_eq_ok_iff.mp hstart
  obtain ⟨base, -, rfl, ⟨ha, rfl⟩ | ⟨ha, place, hplace, rfl⟩⟩ := absolute_eq_ok h
  · rw [if_pos ha] at hspot
    exact ⟨_, [], rfl, hspot, p.zero_not_mem_rootPath, by rw [p.segments_rootPath, Disk.walk_nil]⟩
  · have hnames := hnamed place hplace
    rw [if_neg (by simp [ha]), Disk.spotOf, hplace] at hspot
    rw [hf.disk.placeOf?_eq_some_iff] at hplace
    refine ⟨_, place, rfl, hspot, ?_, ?_⟩
    · rw [Path.ofNames_eq_behind hnames]
      exact Path.zero_not_mem_behind (by decide)
        fun n hn ↦ ⟨(hnames n hn).slash, (hnames n hn).zero⟩
    · rw [Path.ofNames_eq_behind hnames, Path.segments_behind
        fun n hn ↦ ⟨(hnames n hn).slash, (hnames n hn).ne_nil⟩]
      exact Disk.walk_place hf.disk ⟨_, hplace⟩ hnames _

/-- Behind a path that leads to a directory, a path leads where it does from that directory. -/
theorem walk_settledBehind {base : Path} {left : Nat} (hdir : f.disk.IsDirectory here)
    (hway : f.disk.walk linkLimit [] base.segments = .ok (here, linkLimit))
    (hwalk : f.disk.walk linkLimit here p.steps = .ok (place, left)) :
    f.disk.walk linkLimit [] (p.settledBehind base).steps = .ok (place, left) := by
  have hall := Disk.walk_segments hwalk
  have hsegments := Disk.walk_filter_dot hall
  rw [Path.steps, Path.segments_settledBehind, List.append_assoc, Disk.walk_append, hway]
  simp only
  rw [Disk.walk_append, hsegments]
  simp only
  split
  · next hslashed =>
    -- the path ends in a slash, or nothing but dots is behind the directory
    have hdirectory : f.disk.IsDirectory place := by
      rcases Path.isSlashed_settledBehind hslashed with hp | hnone
      · rw [Path.steps, if_pos hp, Disk.walk_append, hall] at hwalk
        exact (Disk.walk_dot_eq_ok hwalk).1
      · rw [hnone, Disk.walk_nil, Except.ok.injEq, Prod.mk.injEq] at hsegments
        exact hsegments.1 ▸ hdir
    obtain ⟨serial, hserial⟩ := hdirectory
    rw [Disk.walk_dot hserial, Disk.walk_nil]
  · rw [Disk.walk_nil]

/-- What a path leads to, the absolute one leads to as well, unless it is too long. -/
theorem spot_absolute (hf : f.WellFormed) (hnamed : f.Named) (h : f.absolute p = .ok q)
    (hshort : q.bytes.length < pathLimit) (hspot : f.spot p = .ok s) : f.spot q = .ok s := by
  obtain ⟨spot, hstart⟩ : ∃ spot, f.start p = .ok spot := by
    cases hstart : f.start p with
    | ok spot => exact ⟨spot, rfl⟩
    | error cause => simp [Files.spot, hstart, bind, Except.bind] at hspot
  have habsolute := isAbsolute_of_absolute h
  obtain ⟨base, here, rfl, rfl, hbaseZero, hway⟩ := base_of_absolute hf hnamed h hstart
  obtain ⟨place, left, rfl, hwalk⟩ := (spot_eq_ok hstart).mp hspot
  have hnil : (p.settledBehind base).bytes ≠ [] := by
    intro hnil
    rw [Path.isAbsolute, hnil] at habsolute
    cases habsolute
  have hzero := (start_eq_ok_iff.mp hstart).1
  have hstart' : f.start (p.settledBehind base) = .ok (.place []) :=
    start_eq_ok_iff.mpr ⟨Path.zero_not_mem_settledBehind hbaseZero hzero, hnil, hshort,
      by rw [if_pos habsolute]⟩
  exact (spot_eq_ok hstart').mpr
    ⟨place, left, rfl, walk_settledBehind (isDirectory_of_start hf hstart) hway hwalk⟩

end Files

end KernelForge
