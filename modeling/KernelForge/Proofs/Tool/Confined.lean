import KernelForge.Proofs.Disk.Operations
import KernelForge.Tool.Toolchain

/-!
# Toolchains that write where they are asked to

A confined toolchain writes at the output and at the header it is handed and nowhere else. At a
header it leaves a regular file; a compilation that succeeds leaves a regular file or nothing, while
one that fails may leave anything at the output and below.
-/

namespace KernelForge

/-- Telling an event changes the events alone. -/
theorem Host.tell_run {ε : Type} (level : Level) (message : String)
    (fields : List (String × String)) (h : Host) :
    ∃ events, (Host.tell level message fields : Act Host ε Unit).runFrom h =
      (.ok (), { h with events }) := ⟨_, rfl⟩

/-- From `f` the files came to `f'`, and a place that is not `touched` shows what it showed. -/
structure Files.ChangesAt (f f' : Files) (touched : Place → Prop) : Prop where
  /-- The tree can arise. -/
  wellFormed : f'.WellFormed
  /-- The current directory is the same. -/
  here : f'.here = f.here
  /-- What is not touched stays. -/
  stays : ∀ q, ¬ touched q → f'.disk.node? q = f.disk.node? q

namespace Files.ChangesAt

variable {f f' f'' : Files} {touched touched' : Place → Prop}

theorem refl (hf : f.WellFormed) (touched : Place → Prop) : f.ChangesAt f touched :=
  ⟨hf, rfl, fun _ _ ↦ rfl⟩

theorem trans (h : f.ChangesAt f' touched) (h' : f'.ChangesAt f'' touched) :
    f.ChangesAt f'' touched :=
  ⟨h'.wellFormed, h'.here.trans h.here, fun q hq ↦ (h'.stays q hq).trans (h.stays q hq)⟩

theorem mono (h : f.ChangesAt f' touched) (hsub : ∀ q, touched q → touched' q) :
    f.ChangesAt f' touched' :=
  ⟨h.wellFormed, h.here, fun q hq ↦ h.stays q fun ht ↦ hq (hsub q ht)⟩

theorem symm (hf : f.WellFormed) (h : f.ChangesAt f' touched) : f'.ChangesAt f touched :=
  ⟨hf, h.here.symm, fun q hq ↦ (h.stays q hq).symm⟩

/-- Where files are touched at most, directories and links stay. -/
theorem «extends» (h : f.ChangesAt f' touched)
    (hsolid : ∀ q, touched q → ∀ n, f.disk.node? q = some n → n.isSolid) :
    f.disk.Extends f'.disk := by
  intro q n hn hway
  rw [h.stays q, hn]
  intro hq
  rw [hsolid q hq n hn] at hway
  cases hway

/-- Where regular files take the place of files at most, what stood stays. -/
theorem keeps (h : f.ChangesAt f' touched)
    (hsolid : ∀ q, touched q → ∀ n, f.disk.node? q = some n → n.isSolid)
    (hfile : ∀ q, touched q → f'.disk.node? q = f.disk.node? q ∨
      ∃ n, f'.disk.node? q = some n ∧ n.isFile) : f.disk.Keeps f'.disk := by
  apply Disk.Keeps.of_files
  intro q n hn
  by_cases hq : touched q
  · rcases hfile q hq with hsame | hfile
    · exact Or.inl (hsame.trans hn)
    · exact Or.inr ⟨hsolid q hq n hn, hfile⟩
  · exact Or.inl ((h.stays q hq).trans hn)

end Files.ChangesAt

/-- A write changes the place that its path names for writing, where it leaves a regular file or
what stood there. -/
theorem Files.write_changes {f : Files} (hf : f.WellFormed) (p : Path) (content : Bytes) :
    f.ChangesAt ((write p content).runFrom f).2 (f.target p = .ok ·) ∧
      ∀ q, f.target p = .ok q →
        ((write p content).runFrom f).2.disk.node? q = f.disk.node? q ∨
          ∃ n, ((write p content).runFrom f).2.disk.node? q = some n ∧ n.isFile := by
  rw [write, alter, fill_run]
  cases htarget : f.target p with
  | error cause => exact ⟨ChangesAt.refl hf _, fun q hq ↦ by cases hq⟩
  | ok place =>
    have hchange : ∀ (s : Nat) (_ : Bytes) (r : Bool), (Node.file s content r).isFile :=
      fun _ _ _ ↦ rfl
    obtain ⟨n, hn, hreaches⟩ := filled_reaches hf hchange htarget
    refine ⟨⟨hreaches.wellFormed, hreaches.here, fun q hq ↦ ?_⟩, fun q hq ↦ ?_⟩
    · rw [hreaches.shows, if_neg]
      rintro rfl
      exact hq rfl
    · rw [Except.ok.injEq] at hq
      subst hq
      simp only [hreaches.shows, if_true]
      rcases hn with hn | hn
      · exact Or.inl hn.symm
      · exact Or.inr ⟨n, rfl, hn⟩

/-- The places that a compilation may touch: its output, and what is below. -/
def Files.AtOutput (f : Files) (output : Path) (q : Place) : Prop :=
  ∃ place, f.target output = .ok place ∧ place <+: q

/-- A regular file stands here if anything does. -/
def Files.HoldsFile (f : Files) (q : Place) : Prop := ∀ n, f.disk.node? q = some n → n.isFile

/-- A toolchain builds at the paths it is handed and writes nowhere else. -/
structure Toolchain.Confined (t : Toolchain) : Prop where
  /-- A compilation touches its output, and what is below if that is a directory. -/
  compile : ∀ r (h : Host), r.output.isAbsolute → h.files.WellFormed →
    h.files.ChangesAt ((t.compile r).runFrom h).2.files (h.files.AtOutput r.output)
  /-- What a successful compilation leaves at its output is a regular file, if nothing else stood
  there. -/
  compiled : ∀ r (h : Host), r.output.isAbsolute → h.files.WellFormed →
    ((t.compile r).runFrom h).1 = .ok () → ∀ place, h.files.target r.output = .ok place →
      h.files.HoldsFile place → ((t.compile r).runFrom h).2.files.HoldsFile place
  /-- A header extraction touches the header. -/
  extractHeader : ∀ r (h : Host), h.files.WellFormed →
    h.files.ChangesAt ((t.extractHeader r).runFrom h).2.files fun q ↦
      h.files.target r.header = .ok q
  /-- What a header extraction leaves there is a regular file, or what was there. -/
  header : ∀ r (h : Host), h.files.WellFormed → ∀ q, h.files.target r.header = .ok q →
    ((t.extractHeader r).runFrom h).2.files.disk.node? q = h.files.disk.node? q ∨
      ∃ n, ((t.extractHeader r).runFrom h).2.files.disk.node? q = some n ∧ n.isFile

/-- A toolchain is confined if it changes nothing or writes a file, a compilation at its output and
a header extraction at its header. -/
theorem Toolchain.confined_of_writes {t : Toolchain}
    (hcompile : ∀ r (h : Host), ((t.compile r).runFrom h).2.files = h.files ∨
      ∃ content, ((t.compile r).runFrom h).2.files =
        ((Files.write r.output content).runFrom h.files).2)
    (hheader : ∀ r (h : Host), ∃ content, ((t.extractHeader r).runFrom h).2.files =
      ((Files.write r.header content).runFrom h.files).2) : t.Confined where
  compile r h _ hf := by
    rcases hcompile r h with hsame | ⟨content, hwrite⟩
    · rw [hsame]
      exact Files.ChangesAt.refl hf _
    · rw [hwrite]
      exact (Files.write_changes hf _ _).1.mono fun q hq ↦ ⟨q, hq, List.prefix_refl _⟩
  compiled r h _ hf _ place hplace hholds n hn := by
    rcases hcompile r h with hsame | ⟨content, hwrite⟩
    · exact hholds n (hsame ▸ hn)
    · rw [hwrite] at hn
      rcases (Files.write_changes hf _ _).2 place hplace with hsame | ⟨m, hm, hfile⟩
      · exact hholds n (hsame ▸ hn)
      · rw [hm, Option.some.injEq] at hn
        exact hn ▸ hfile
  extractHeader r h hf := by
    obtain ⟨content, hwrite⟩ := hheader r h
    rw [hwrite]
    exact (Files.write_changes hf _ _).1
  header r h hf q hq := by
    obtain ⟨content, hwrite⟩ := hheader r h
    rw [hwrite]
    exact (Files.write_changes hf _ _).2 q hq

/-- The toolchain that writes the same bytes at whatever output and header it is handed, and then
fails to compile if there is a fault. -/
def Toolchain.leaving (artifact header : Bytes) (fault : Option DeviceError) : Toolchain where
  compile r := do
    Host.onFile r.output (Files.write r.output artifact)
    Act.ofExcept (fault.elim (.ok ()) .error)
  extractHeader r := do
    Host.onFile r.header (Files.write r.header header)
    pure 0
  simulate _ := throw (.simulatorMissing [])

/-- Writing at the paths that are handed over is being confined to them. -/
theorem Toolchain.confined_leaving (artifact header : Bytes) (fault : Option DeviceError) :
    (leaving artifact header fault).Confined := by
  refine confined_of_writes (fun r h ↦ Or.inr ⟨artifact, ?_⟩) (fun r h ↦ ⟨header, ?_⟩)
  · simp only [leaving, Host.onFile, Host.onFiles, Act.runFrom_bind, Act.runFrom_mapError,
      Act.run_within]
    rcases (Files.write r.output artifact).runFrom h.files with ⟨cause | _, f'⟩ <;> rfl
  · simp only [leaving, Host.onFile, Host.onFiles, Act.runFrom_bind, Act.runFrom_mapError,
      Act.run_within]
    rcases (Files.write r.header header).runFrom h.files with ⟨cause | _, f'⟩ <;> rfl

end KernelForge
