import KernelForge.Proofs.Target.Building
import KernelForge.Proofs.Tool.Determined

/-!
# Two builds

Two toolchains that compile by the same function may differ in the headers they write and in whether
they can: for the vector extension, builds from one host end alike and leave the same file at the
output. Main statement: `build_alike`.
-/

namespace KernelForge

open Files

variable {f f' : Files} {source output header : Path} {place parent : Place} {last name : Bytes}

/-- Files in which `source` can be compiled: it was written under a name, and the output is free. -/
structure Files.Compilable (f : Files) (source output : Path) (place : Place) (last : Bytes)
    (parent : Place) (name : Bytes) : Prop where
  /-- The tree can arise. -/
  wellFormed : f.WellFormed
  /-- The path of the source leads to the name, or into a file. -/
  locates : f.Locates source place last ∨ f.Blocked source
  /-- The name is not too long. -/
  short : ¬ nameLimit < last.length
  /-- The path of the source does not ask for a directory. -/
  slashed : source.isSlashed = false
  /-- Something stands under the name, and it is no link. -/
  node : ∃ n, f.disk.node? (place ++ [last]) = some n ∧ ∀ t, n ≠ .link t
  /-- The path of the output is absolute. -/
  absolute : output.isAbsolute
  /-- The output has a name, or no lookup of its path can start. -/
  leads : f.Locates output parent name ∨ ∃ cause, ∀ g : Files, g.start output = .error cause
  /-- The name is not too long. -/
  outputShort : ¬ nameLimit < name.length
  /-- The path of the output does not ask for a directory. -/
  outputSlashed : output.isSlashed = false
  /-- Nothing stands under the name. -/
  free : f.disk.node? (parent ++ [name]) = none

namespace Files.Compilable

section Changes

variable (h : f.Compilable source output place last parent name) {touched : Place → Prop}
  (hchanges : f.ChangesAt f' touched) (he : f.disk.Extends f'.disk) (hk : f.disk.Keeps f'.disk)
  (hsource : ¬ touched (place ++ [last])) (houtput : ¬ touched (parent ++ [name]))

include h hchanges he hk hsource

/-- A change elsewhere does not matter to what reading the source gives. -/
theorem read_eq : f'.read source = f.read source := by
  obtain ⟨n, hn, hlink⟩ := h.node
  have hn' := (hchanges.stays _ hsource).trans hn
  rcases h.locates with hl | hb
  · have hl' := hl.extends h.wellFormed hchanges.wellFormed hchanges.here he
    simp [Files.read, hl.node_eq h.short hn hlink (Or.inl h.slashed),
      hl'.node_eq h.short hn' hlink (Or.inl h.slashed)]
  · have hb' := hb.keeps h.wellFormed hchanges.wellFormed hchanges.here hk
    simp [Files.read, hb.node_eq h.wellFormed, hb'.node_eq hchanges.wellFormed]

include houtput

/-- After a change elsewhere, a source can still be compiled. -/
theorem of_changes : f'.Compilable source output place last parent name where
  wellFormed := hchanges.wellFormed
  locates := h.locates.imp (·.extends h.wellFormed hchanges.wellFormed hchanges.here he)
    (·.keeps h.wellFormed hchanges.wellFormed hchanges.here hk)
  short := h.short
  slashed := h.slashed
  node := by
    obtain ⟨n, hn, hlink⟩ := h.node
    exact ⟨n, (hchanges.stays _ hsource).trans hn, hlink⟩
  absolute := h.absolute
  leads := h.leads.imp_left (·.extends h.wellFormed hchanges.wellFormed hchanges.here he)
  outputShort := h.outputShort
  outputSlashed := h.outputSlashed
  free := (hchanges.stays _ houtput).trans h.free

end Changes

variable (h : f.Compilable source output place last parent name)

include h

/-- The output is written under its name, if a lookup of its path can start. -/
theorem target : f.target output = .ok (parent ++ [name]) ∨
    ∃ cause, ∀ g : Files, g.start output = .error cause :=
  h.leads.imp_left fun hl ↦ hl.target_eq h.outputSlashed h.outputShort (Or.inl h.free)

theorem isFree : f.IsFree output := h.target.imp_left fun htarget ↦ ⟨_, htarget, h.free⟩

end Files.Compilable

namespace Adapter

variable {t t' : Toolchain}
  {out : CompileRequest → Except Cause Bytes → Except DeviceError (Option Node)} {h : Host}
  {config : ToolConfig}

section Build

variable (hc : h.files.Compilable source output place last parent name)
  (hheader : ∀ q,
    (rvv config).AtHeader header h.files q → q ≠ place ++ [last] ∧ q ≠ parent ++ [name])

include hc hheader

/-- How a build ends if the compiler is a function: as that says, and where it succeeds, with what
the function gives at the output, if that can be written. -/
private theorem build_determined (ht : t.Confined) (hout : t.CompilesBy out) :
    (((rvv config).build t source output header).runFrom h).1 =
        ((out (rvvRequest config source output) (h.files.read source)).map
          fun _ ↦ ()).mapError .device ∧
      ∀ left, out (rvvRequest config source output) (h.files.read source) = .ok left →
        (((rvv config).build t source output header).runFrom h).2.files.disk.shown?
          (parent ++ [name]) = if (h.files.start output).isOk then left else none := by
  obtain ⟨h₁, htried, hrun⟩ := build_rvv config t source output header h
  obtain ⟨hchanges, hwritten⟩ := htried.changes ht hc.wellFormed
  have hsolid : ∀ q, (rvv config).AtHeader header h.files q → ∀ n,
      h.files.disk.node? q = some n → n.isSolid := fun _ hq _ hn ↦ isSolid_of_target hq.2 hn
  have he := hchanges.extends hsolid
  have hk := hchanges.keeps hsolid hwritten
  have hsource : ¬ (rvv config).AtHeader header h.files (place ++ [last]) :=
    fun hq ↦ (hheader _ hq).1 rfl
  have hc₁ := hc.of_changes hchanges he hk hsource fun hq ↦ (hheader _ hq).2 rfl
  obtain ⟨hanswer, hleft⟩ := hout (rvvRequest config source output) h₁ hc₁.absolute hc₁.wellFormed
    hc₁.isFree
  have hread : h₁.files.read (rvvRequest config source output).source = h.files.read source :=
    hc.read_eq hchanges he hk hsource
  rw [hread] at hanswer hleft
  rw [hrun]
  refine ⟨congrArg (Except.mapError _) hanswer, fun left hok ↦ ?_⟩
  rcases hc₁.target with htarget | ⟨cause, hcause⟩
  · have hstart : (h.files.start output).isOk = true := by
      cases hs : h.files.start output with
      | ok spot => rfl
      | error cause => simp [Files.target, start_eq_error hs, bind, Except.bind] at htarget
    rw [hstart, if_pos rfl]
    exact hleft left _ hok htarget
  · -- without a place for its output, a compilation touches nothing
    have huntouched : ¬ h₁.files.AtOutput output (parent ++ [name]) := by
      rintro ⟨q, hq, -⟩
      simp [Files.target, hcause, bind, Except.bind] at hq
    have hstays := (ht.compile (rvvRequest config source output) h₁ hc₁.absolute
      hc₁.wellFormed).stays _ huntouched
    rw [hcause, Disk.shown?, hstays, hc₁.free]
    rfl

/-- Builds by one function from one host end alike, and where they succeed, the output shows the
same after both. -/
theorem build_alike (ht : t.Confined) (ht' : t'.Confined) (hout : t.CompilesBy out)
    (hout' : t'.CompilesBy out) :
    (((rvv config).build t' source output header).runFrom h).1 =
        (((rvv config).build t source output header).runFrom h).1 ∧
      ((((rvv config).build t source output header).runFrom h).1 = .ok () →
        (((rvv config).build t' source output header).runFrom h).2.files.disk.shown?
            (parent ++ [name]) =
          (((rvv config).build t source output header).runFrom h).2.files.disk.shown?
            (parent ++ [name])) := by
  obtain ⟨hanswer, hleft⟩ := build_determined hc hheader ht hout
  obtain ⟨hanswer', hleft'⟩ := build_determined hc hheader ht' hout'
  refine ⟨hanswer'.trans hanswer.symm, fun hok ↦ ?_⟩
  cases hvalue : out (rvvRequest config source output) (h.files.read source) with
  | error error =>
    rw [hanswer, hvalue] at hok
    cases hok
  | ok left => rw [hleft left hvalue, hleft' left hvalue]

end Build

end Adapter

end KernelForge
