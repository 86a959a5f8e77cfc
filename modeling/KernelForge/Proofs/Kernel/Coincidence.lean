import KernelForge.Proofs.Kernel.Calls
import KernelForge.Proofs.Kernel.Operating
import KernelForge.Proofs.Kernel.Settling
import KernelForge.Proofs.Store.Separation
import KernelForge.Proofs.Target.Recovery

/-!
# Kernels with one artifact

Kernels that were created for one store have one artifact where their targets are the same and their
names and sources are alike for it, and nowhere else. Main statement: `artifacts_coincide`.
-/

namespace KernelForge

namespace Kernel

variable {k k₁ k₂ : Kernel} {l : Lifecycle}

/-! ### Kernels as they are created -/

/-- The kernel is what its creation answered, on some host. -/
def Created (k : Kernel) : Prop :=
  ∃ source adapter toolchain store requested indices h,
    ((create source adapter toolchain store requested indices).runFrom h).1 = .ok k

/-- The target of a kernel that was created settles its symbol. -/
theorem Created.symbol_eq (hk : k.Created) : k.symbol = k.adapter.target.entrySymbol k.entry := by
  obtain ⟨source, adapter, toolchain, store, requested, indices, h, hcreate⟩ := hk
  rw [create, Act.runFrom_bind, Act.runFrom_ofExcept] at hcreate
  cases hresults : resultIndices source.params.length indices with
  | error error =>
    rw [hresults] at hcreate
    cases hcreate
  | ok results =>
    rw [hresults] at hcreate
    cases hcreate
    rfl

/-- The kind of an artifact tells the target. -/
theorem artifactKind_inj {target target' : Target} :
    target.artifactKind = target'.artifactKind ↔ target = target' := by
  cases target <;> cases target' <;> decide

/-- Kernels of one store have one path for their artifacts where their targets are the same and
their names and sources are alike, unless the bytes under their keys collide. -/
theorem Created.artifact_eq_iff (hk₁ : k₁.Created) (hk₂ : k₂.Created) (hstore : k₁.store = k₂.store)
    (hcollision : ¬ Sha256.Collision (StoreKey.framed k₁.symbol k₁.preparedSource)
      (StoreKey.framed k₂.symbol k₂.preparedSource)) :
    k₁.paths.artifact = k₂.paths.artifact ↔ k₁.adapter.target = k₂.adapter.target ∧
      k₁.adapter.target.NamesAlike k₁.entry k₂.entry ∧
      k₁.adapter.target.SourcesAlike k₁.source.text k₂.source.text := by
  rw [paths, paths, ← hstore, key, key, (ArtifactPaths.of_inj _ _ _ hcollision).1, artifactKind_inj,
    hk₁.symbol_eq, hk₂.symbol_eq, preparedSource, preparedSource]
  constructor
  · rintro ⟨hsymbol, hsource, htarget⟩
    rw [← htarget] at hsymbol hsource
    exact ⟨htarget, (Target.entrySymbol_eq_iff _).mp hsymbol,
      (Target.prepareSource_eq_iff _).mp hsource⟩
  · rintro ⟨htarget, hname, hsource⟩
    rw [← htarget]
    exact ⟨(Target.entrySymbol_eq_iff _).mpr hname, (Target.prepareSource_eq_iff _).mpr hsource,
      rfl⟩

/-! ### What they are asked for -/

/-- The lives that a kernel comes to, whatever it is asked for, and whatever becomes of the world
between two operations. -/
inductive Lived (k : Kernel) : Lifecycle → Prop where
  /-- Nothing was asked yet. -/
  | fresh : Lived k {}
  /-- A further operation. -/
  | operate {l : Lifecycle} (op : Operation) (w : World) (lived : Lived k l) :
      Lived k (op.after k (l, w)).1

/-- A kernel keeps no other artifact in mind than its own. -/
theorem Lived.remembers (hl : k.Lived l) : k.Remembers l := by
  induction hl with
  | fresh => exact fun p hp ↦ by cases hp
  | @operate l op w _ ih =>
    cases hop : op.preparesOn k w with
    | none =>
      rw [(Operation.after_of_not_prepares k.abides_true hop).1]
      exact ih
    | some h =>
      rw [(Operation.after_of_prepares k.abides_true hop).2.1]
      exact (prepare_record ih).1

/-- Prepared sources are equal just when the sources are alike for the target, and symbols are when
the names are. Hence two kernels that were created for one store have one path for their artifacts
just when their targets are the same and their names and sources are alike for it, unless the bytes
under their keys collide; and whatever a kernel is asked for, the artifact that it has prepared is
the one at this path. -/
theorem artifacts_coincide :
    (∀ (target : Target) (s t : String),
      target.prepareSource s = target.prepareSource t ↔ target.SourcesAlike s t) ∧
    (∀ (target : Target) (m n : String),
      target.entrySymbol m = target.entrySymbol n ↔ target.NamesAlike m n) ∧
    (∀ k₁ k₂ : Kernel, k₁.Created → k₂.Created → k₁.store = k₂.store →
      ¬ Sha256.Collision (StoreKey.framed k₁.symbol k₁.preparedSource)
        (StoreKey.framed k₂.symbol k₂.preparedSource) →
      (k₁.paths.artifact = k₂.paths.artifact ↔ k₁.adapter.target = k₂.adapter.target ∧
        k₁.adapter.target.NamesAlike k₁.entry k₂.entry ∧
        k₁.adapter.target.SourcesAlike k₁.source.text k₂.source.text)) ∧
    ∀ (k : Kernel) (l : Lifecycle), k.Lived l →
      ∀ p, l.prepared = some p → p.record.path = k.paths.artifact := by
  refine ⟨fun target s t ↦ Target.prepareSource_eq_iff target,
    fun target m n ↦ Target.entrySymbol_eq_iff target,
    fun k₁ k₂ hk₁ hk₂ hstore hcollision ↦ hk₁.artifact_eq_iff hk₂ hstore hcollision, ?_⟩
  intro k l hl p hp
  rw [hl.remembers p hp]
  rfl

/-! ### Two names for one artifact -/

section Twins

/-- A kernel for a tensor processor, as it is created. -/
def twin (entry text : String) : Kernel where
  source := { text := text }
  adapter := .tpu {} ⟨"native", fun _ ↦ pure ()⟩
  toolchain := sampleTools
  store := .ofString "/c"
  entry := entry
  symbol := Target.tpu.entrySymbol entry
  results := []

theorem created_twin (entry text : String) : (twin entry text).Created :=
  ⟨{ text := text }, _, _, _, some entry, [], sampleHost [], rfl⟩

theorem framed_twin (entry text : String) :
    StoreKey.framed (twin entry text).symbol (twin entry text).preparedSource =
      StoreKey.framed (Target.tpu.entrySymbol entry) (Target.tpu.prepareSource text) := rfl

/-- A name without the suffix and a source without the line feed share an artifact with the name and
the source that have them. The sample is compiled, and its artifact is the one at its path. -/
theorem artifacts_coincide_twins :
    (twin "add" "#include <a.h>").paths.artifact =
        (twin "add_kernel" "#include <a.h>\n").paths.artifact ∧
      ∃ p, ((sample "k" sampleTools).prepare.runFrom ({}, sampleHost [])).1 = .ok p ∧
        p.record.path = (sample "k" sampleTools).paths.artifact := by
  obtain ⟨hsources, hnames, hpaths, hkept⟩ := artifacts_coincide
  have hname : Target.tpu.NamesAlike "add" "add_kernel" :=
    Or.inr (Or.inl ⟨by decide +kernel, by
      rw [Target.IsSuffixed]
      decide +kernel⟩)
  have hsource : Target.tpu.SourcesAlike "#include <a.h>" "#include <a.h>\n" :=
    Or.inr (Or.inl ⟨by decide +kernel, [], "#include <a.h>".toList, rfl,
      ⟨by decide +kernel, by simp⟩, by decide +kernel⟩)
  constructor
  · have hpath := hpaths _ _ (created_twin "add" "#include <a.h>")
      (created_twin "add_kernel" "#include <a.h>\n") rfl
    rw [framed_twin, framed_twin, (hnames _ _ _).mpr hname, (hsources _ _ _).mpr hsource] at hpath
    exact (hpath fun hcollision ↦ hcollision.1 rfl).mpr ⟨rfl, hname, hsource⟩
  · obtain ⟨p, hp⟩ := Act.exists_ok_of_isOk (prepare_sampleTools "k").1
    exact ⟨p, hp, hkept _ _ (.operate .prepare ⟨sampleHost [], {}, [], [], []⟩ .fresh) p
      (prepared_of_ok hp)⟩

end Twins

end Kernel

end KernelForge
