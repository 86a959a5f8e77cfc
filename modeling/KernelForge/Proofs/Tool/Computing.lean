import KernelForge.Proofs.Tool.Ledger

/-!
# Compilers whose output is computed

The output of such a compiler is a function of the source and of what it is asked for, wherever the
files lie. Main statements: `Computes.booked` and, for a toolchain with a given function,
`computes_computing`.
-/

namespace KernelForge

/-- What a compiler is asked for, apart from where the files lie. -/
structure CompileSettings where
  /-- The compiler that is needed. -/
  driver : Driver
  /-- The architecture, where one is chosen. -/
  arch : Option String
  /-- Flags and search paths. -/
  options : ToolOptions
  deriving DecidableEq

/-- The settings of a request. -/
def CompileRequest.settings (r : CompileRequest) : CompileSettings := ⟨r.driver, r.arch, r.options⟩

namespace Toolchain

/-- A compilation that succeeds has read its source, and the regular file that is at the output then
is what `out` makes of the settings and of the source. -/
def Computes (t : Toolchain) (out : CompileSettings → Bytes → RehearsedOutput) : Prop :=
  ∀ r (h : Host) n, ((t.compile r).runFrom h).1 = .ok () →
    ((t.compile r).runFrom h).2.files.node r.output = .ok n → n.isFile →
      ∃ text, h.files.read r.source = .ok text ∧ n.left = out r.settings text

/-- Booking its calls changes nothing of what a compiler computes. -/
theorem Computes.booked {t : Toolchain} {out : CompileSettings → Bytes → RehearsedOutput}
    (ht : t.Computes out) : t.booked.Computes out :=
  fun r h ↦ ht r (h.withLedger [])

/-- The toolchain that computes `out`, and finds fault with an output that it cannot write. -/
def computing (out : CompileSettings → Bytes → Bytes) (header : Bytes) : Toolchain where
  compile r := do
    let text ← Host.onFile r.source (Act.ofRun fun f ↦ (f.read r.source, f))
    Host.onFile r.output (Files.write r.output (out r.settings text))
    match ← Host.ask (Files.node · r.output) with
    | .ok (.file _ content _) =>
      if content = out r.settings text then pure () else throw (.toolMissing "" [])
    | _ => throw (.toolMissing "" [])
  extractHeader r := do
    Host.onFile r.header (Files.write r.header header)
    pure 0
  simulate _ := throw (.simulatorMissing [])

variable (out : CompileSettings → Bytes → Bytes) (header : Bytes)

/-- How a compilation ends: the source could not be read, or the output was written, and then it is
what is computed if the compilation succeeds. -/
private theorem computing_compile (r : CompileRequest) (h : Host) :
    (∃ error, ((computing out header).compile r).runFrom h = (.error error, h)) ∨
      ∃ text result, h.files.read r.source = .ok text ∧
        ((computing out header).compile r).runFrom h = (result, { h with
          files := ((Files.write r.output (out r.settings text)).runFrom h.files).2 }) ∧
        (result = .ok () → ∀ n,
          ((Files.write r.output (out r.settings text)).runFrom h.files).2.node r.output = .ok n →
            n.left = .file (out r.settings text)) := by
  simp only [computing, Host.onFile, Host.onFiles, Host.ask, Act.runFrom_bind, Act.runFrom_mapError,
    Act.run_within, Act.runFrom_ofRun, Act.runFrom_reads]
  cases h.files.read r.source with
  | error cause => exact Or.inl ⟨_, rfl⟩
  | ok text =>
    right
    refine ⟨text, ?_⟩
    simp only [Except.mapError]
    rcases (Files.write r.output (out r.settings text)).runFrom h.files with ⟨cause | _, f'⟩
    · exact ⟨_, trivial, rfl, fun hok ↦ by cases hok⟩
    simp only
    split
    · next serial content runnable hn =>
      by_cases hcontent : content = out r.settings text
      · rw [if_pos hcontent]
        refine ⟨_, trivial, rfl, fun _ n hn' ↦ ?_⟩
        rw [hn, Except.ok.injEq] at hn'
        rw [← hn', Node.left, hcontent]
      · rw [if_neg hcontent]
        exact ⟨_, trivial, rfl, fun hok ↦ by cases hok⟩
    · exact ⟨_, trivial, rfl, fun hok ↦ by cases hok⟩

theorem confined_computing : (computing out header).Confined := by
  refine confined_of_writes (fun r h ↦ ?_) (fun r h ↦ ⟨header, ?_⟩)
  · rcases computing_compile out header r h with ⟨error, hrun⟩ | ⟨text, result, -, hrun, -⟩
    · exact Or.inl (by rw [hrun])
    · exact Or.inr ⟨_, by rw [hrun]⟩
  · simp only [computing, Host.onFile, Host.onFiles, Act.runFrom_bind, Act.runFrom_mapError,
      Act.run_within]
    rcases (Files.write r.header header).runFrom h.files with ⟨cause | _, f'⟩ <;> rfl

theorem computes_computing :
    (computing out header).Computes fun settings text ↦ .file (out settings text) := by
  intro r h n hok hn _
  rcases computing_compile out header r h with ⟨error, hrun⟩ | ⟨text, result, hread, hrun, hleft⟩
  · rw [hrun] at hok
    cases hok
  · rw [hrun] at hok hn
    exact ⟨text, hread, hleft hok n hn⟩

end Toolchain

end KernelForge
