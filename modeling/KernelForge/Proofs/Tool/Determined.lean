import KernelForge.Proofs.Disk.Alike
import KernelForge.Proofs.Tool.Confined

/-!
# Compilers that are functions

What such a compiler answers, and what it leaves at an output that is free, is determined by the
request and by what reading the source gives: neither a header nor anything else on the host
matters. Main statement: for the toolchain that leaves given bytes, `compilesBy_leaving`.
-/

namespace KernelForge

/-- Nothing stands where `p` is written; or `p` is no path that can be looked up. -/
def Files.IsFree (f : Files) (p : Path) : Prop :=
  (∃ place, f.target p = .ok place ∧ f.disk.node? place = none) ∨
    ∃ cause, ∀ g : Files, g.start p = .error cause

namespace Toolchain

/-- Compiling for a free output is the function `out` of the request and of what reading the source
gives: that is the answer, and where it is none of a failure, what is at the output then, but for
its serial number. -/
def CompilesBy (t : Toolchain)
    (out : CompileRequest → Except Cause Bytes → Except DeviceError (Option Node)) : Prop :=
  ∀ r (h : Host), r.output.isAbsolute → h.files.WellFormed → h.files.IsFree r.output →
    ((t.compile r).runFrom h).1 = (out r (h.files.read r.source)).map (fun _ ↦ ()) ∧
      ∀ left place, out r (h.files.read r.source) = .ok left →
        h.files.target r.output = .ok place →
          ((t.compile r).runFrom h).2.files.disk.shown? place = left

/-- What leaving given bytes is as a function: it fails where the output is no path, or at the
fault. -/
def leavingOut (artifact : Bytes) (fault : Option DeviceError) (r : CompileRequest)
    (_ : Except Cause Bytes) : Except DeviceError (Option Node) :=
  match Files.start ⟨.empty, 0, 0⟩ r.output with
  | .error cause => .error (.file r.output cause)
  | .ok _ => fault.elim (.ok (some (.file 0 artifact false))) .error

theorem compilesBy_leaving (artifact header : Bytes) (fault : Option DeviceError) :
    (leaving artifact header fault).CompilesBy (leavingOut artifact fault) := by
  intro r h _ _ hfree
  simp only [leaving, Host.onFile, Host.onFiles, Act.runFrom_bind, Act.runFrom_mapError,
    Act.run_within, Files.write, Files.alter, Files.fill_run, leavingOut]
  rcases hfree with ⟨place, htarget, hnone⟩ | ⟨cause, hcause⟩
  · have hstart : ∃ spot, Files.start ⟨.empty, 0, 0⟩ r.output = .ok spot := by
      cases hs : h.files.start r.output with
      | error cause => simp [Files.target, hs, bind, Except.bind] at htarget
      | ok spot => exact ⟨_, Files.start_isOk hs _⟩
    obtain ⟨spot, hspot⟩ := hstart
    obtain ⟨parent, last, rfl, -, -⟩ := Files.target_ok htarget
    simp only [htarget, hspot, Except.mapError, Act.runFrom_ofExcept]
    cases fault with
    | some error => exact ⟨rfl, fun left place hleft ↦ by cases hleft⟩
    | none =>
      refine ⟨rfl, fun left place hleft hplace ↦ ?_⟩
      obtain rfl := Except.ok.inj hplace
      obtain rfl := Except.ok.inj hleft
      simp only [Disk.shown?, Files.filled, hnone]
      rw [Disk.node?_put _ (by simp), if_pos rfl]
      rfl
  · have htarget : h.files.target r.output = .error cause := by
      simp [Files.target, hcause, bind, Except.bind]
    simp only [htarget, hcause, Except.mapError]
    exact ⟨rfl, fun left place hleft ↦ by cases hleft⟩

end Toolchain

end KernelForge
