import KernelForge.Native.Entry
import KernelForge.Proofs.Act
import KernelForge.Proofs.Disk.Locations
import KernelForge.Proofs.Native.Blame
import KernelForge.Proofs.Native.Locks
import Mathlib.Data.Option.Basic
import Mathlib.Order.Basic

/-!
# What a loader remembers

A loading entry makes calls, one after the other, while files, events and tensors may be replaced in
between. It brings the library of a path into memory at the first call that finds one there, and
uses that image from then on, whatever has become of the file. Main statement: `loaded_once`, which
says of every run of calls what has been loaded, and of every call after it how it ends.
-/

namespace KernelForge.World

variable {loader : Nat} {w w' w'' : World} {p : Path} {i : Nat}

/-! ### Bringing a library into memory -/

/-- A path without a zero byte at its end. -/
def sought (p : Path) : Path := if p.bytes.getLast? = some 0 then ⟨p.bytes.dropLast⟩ else p

/-- The library in the file that a path leads to at this moment. -/
def heldLibrary? (w : World) (p : Path) : Option Library :=
  match w.host.files.node (filePath (sought p)) with
  | .ok (.machine _ name) => Library.named? name
  | _ => none

/-- The library of an image. -/
def library? (w : World) (i : Nat) : Option Library := (w.images[i]?).map Image.library

/-- From `w` to `w'` no kernel has run: the storages are as they were, and so are the library and
the counter of every image that was in memory. -/
structure Idle (w w' : World) : Prop where
  /-- The storages are the same. -/
  heap : w'.heap = w.heap
  /-- The images have the same libraries. -/
  libraries : w.images.map Image.library <+: w'.images.map Image.library
  /-- Their kernels have counted as many calls. -/
  counters : w.images.map Image.counter <+: w'.images.map Image.counter

theorem Idle.refl (w : World) : Idle w w := ⟨rfl, List.prefix_rfl, List.prefix_rfl⟩

/-- What bringing the library at `p` into memory as the image `i` has done. -/
structure Brought (p : Path) (w : World) (i : Nat) (w' : World) : Prop where
  /-- No kernel has run. -/
  idle : Idle w w'
  /-- The host is the same. -/
  host : w'.host = w.host
  /-- The loaders remember the same. -/
  loaders : w'.loaders = w.loaders
  /-- The image is in memory. -/
  lt : i < w'.images.length
  /-- A new image is that of the file at the path. What is found without a slash, the program itself
  and the libraries of the system, has no kernels. -/
  fresh : w.images.length ≤ i → w'.library? i = w.heldLibrary? p ∨
    Path.slash ∉ p.bytes ∧ w'.library? i = some ⟨[]⟩

private theorem slash_notMem_systemLibraries {q : Path} (h : q ∈ systemLibraries) :
    Path.slash ∉ q.bytes := by
  have hall : ∀ q ∈ systemLibraries, Path.slash ∉ q.bytes := by decide +kernel
  exact hall q h

private theorem mem_sought_bytes {b : UInt8} (hb : b ≠ 0) :
    b ∈ (sought p).bytes ↔ b ∈ p.bytes := by
  unfold sought
  split
  · next hlast =>
    obtain ⟨front, hfront⟩ := List.getLast?_eq_some_iff.mp hlast
    simp [hfront, hb]
  · rfl

/-- Changing elements in what `g` does not look at. -/
private theorem map_modify {α β : Type} (xs : List α) (i : Nat) {f : α → α} {g : α → β}
    (h : ∀ x, g (f x) = g x) : (xs.modify i f).map g = xs.map g := by
  refine List.ext_getElem? fun j ↦ ?_
  simp only [List.getElem?_map, List.getElem?_modify]
  cases xs[j]? with
  | none => rfl
  | some x => by_cases hij : i = j <;> simp [hij, h]

private theorem idle_append (w : World) (image : Image) :
    Idle w { w with images := w.images ++ [image] } :=
  ⟨rfl, by simp, by simp⟩

/-- Bringing a library into memory only adds to the images. -/
theorem bring_brought (h : bring p w = some (i, w')) : Brought p w i w' := by
  unfold bring at h
  extract_lets q add at h
  have hq : q = sought p := rfl
  clear_value q
  split at h
  · -- in memory under this name
    next hname =>
    cases h
    obtain ⟨hlt, -⟩ := List.findIdx?_eq_some_iff_findIdx_eq.mp hname
    exact ⟨.refl w, rfl, rfl, hlt, fun hle ↦ absurd hlt (by omega)⟩
  split at h
  · -- the program itself or a library of the system
    next hsystem =>
    cases h
    refine ⟨idle_append w _, rfl, rfl, by simp, fun _ ↦ Or.inr ⟨?_, by simp [library?]⟩⟩
    rw [← mem_sought_bytes (by decide), ← hq]
    rcases Bool.or_eq_true_iff.mp hsystem with hempty | hsystem
    · simp [of_decide_eq_true hempty]
    · exact slash_notMem_systemLibraries (List.contains_iff_mem.mp hsystem)
  split at h
  · cases h
  split at h
  · next serial name hnode =>
    split at h
    · -- an image of the same file
      next i hserial =>
      cases h
      obtain ⟨hlt, -⟩ := List.findIdx?_eq_some_iff_findIdx_eq.mp hserial
      exact ⟨⟨rfl, by simp [map_modify], by simp [map_modify]⟩, rfl, rfl, by simpa using hlt,
        fun hle ↦ absurd hlt (by omega)⟩
    · -- a new image of the file
      obtain ⟨library, hlibrary, heq⟩ := Option.map_eq_some_iff.mp h
      cases heq
      refine ⟨idle_append w _, rfl, rfl, by simp, fun _ ↦ Or.inl ?_⟩
      simp [library?, heldLibrary?, ← hq, hnode, hlibrary]
  · cases h

/-! ### What a loader remembers -/

/-- The world in which an event was told as well. -/
def told (w : World) (e : Event) : World :=
  { w with host := { w.host with events := e :: w.host.events } }

/-- The world in which a loader remembers an image for a path as well, which is told. -/
def enrol (loader : Nat) (p : Path) (i : Nat) (w : World) : World :=
  told { w with loaders := w.loaders.modify loader (· ++ [(p, i)]) }
    ⟨.debug, "loaded kernel library", [("library", p.text)]⟩

/-- An image that was brought into memory comes last in what a loader remembers. -/
theorem Brought.remembered (h : Brought p w i w') (hloader : loader < w.loaders.length) :
    (enrol loader p i w').remembered loader = w.remembered loader ++ [(p, i)] := by
  simp [World.remembered, enrol, told, h.loaders, hloader]

/-- From `w`, a loader has the image `i` for a path, and `w'` is the world then. -/
inductive Loaded (loader : Nat) (p : Path) (w : World) : Nat → World → Prop where
  /-- The image is remembered, and nothing happens. -/
  | remembered {i : Nat} (known : w.known? loader p = some i) : Loaded loader p w i w
  /-- No image is remembered, and one is brought into memory and remembered. -/
  | brought {i : Nat} {w' : World} (unknown : w.known? loader p = none)
      (bring : bring p w = some (i, w')) (brought : Brought p w i w') :
      Loaded loader p w i (enrol loader p i w')

/-- No kernel runs when a library is loaded. -/
theorem Loaded.idle (h : Loaded loader p w i w') : Idle w w' := by
  cases h with
  | remembered _ => exact .refl w
  | brought _ _ brought => exact ⟨brought.idle.heap, brought.idle.libraries, brought.idle.counters⟩

/-- A loader answers what it remembers, or else what can be brought into memory. -/
theorem load_run (loader : Nat) (p : Path) (w : World) :
    (∃ i w', (load loader p).runFrom w = (.ok i, w') ∧ Loaded loader p w i w') ∨
      (load loader p).runFrom w = (.error (.libraryNotLoaded p), w) ∧
        w.known? loader p = none ∧ bring p w = none := by
  rw [load, Act.runFrom_bind, Act.runFrom_reads]
  cases hknown : w.known? loader p with
  | some i => exact Or.inl ⟨i, w, rfl, .remembered hknown⟩
  | none =>
    simp only [Act.runFrom_bind, Act.runFrom_ofRun]
    cases hbring : bring p w with
    | none => exact Or.inr ⟨rfl, trivial, rfl⟩
    | some brought =>
      obtain ⟨i, w'⟩ := brought
      exact Or.inl ⟨i, enrol loader p i w', rfl, .brought hknown hbring (bring_brought hbring)⟩

/-- How a call ends, and the world then: the library comes first, then the symbol, then the argument
block, and a kernel runs only where all three are there. -/
inductive Calling (loader : Nat) (c : NativeCall) (w : World) :
    Except DeviceError Unit × World → Prop where
  /-- No image is remembered for the path, and none can be brought into memory. -/
  | unloaded (unknown : w.known? loader c.library = none) (missing : bring c.library w = none) :
      Calling loader c w (.error (.libraryNotLoaded c.library), w)
  /-- The library lacks the symbol. -/
  | symbolless {i : Nat} {w' : World} (loaded : Loaded loader c.library w i w')
      (missing : w'.symbol? i c.symbol = none) :
      Calling loader c w (.error (.symbolMissing c.symbol c.library), w')
  /-- There is no argument block. -/
  | refused {i : Nat} {w' : World} {code : KernelCode} {position : Int64}
      (loaded : Loaded loader c.library w i w') (found : w'.symbol? i c.symbol = some code)
      (refused : c.argumentBlock (Locks.ofTensors w'.heap c.tensors).addresses =
        .error (.layout position c.arity)) :
      Calling loader c w (.error (.layout position c.arity), w')
  /-- The kernel runs on the argument block. -/
  | called {i : Nat} {w' : World} {code : KernelCode} {block : List UInt64} (event : Event)
      (loaded : Loaded loader c.library w i w') (found : w'.symbol? i c.symbol = some code)
      (built : c.argumentBlock (Locks.ofTensors w'.heap c.tensors).addresses = .ok block) :
      Calling loader c w ((runKernel i code block).runFrom (told w' event))

/-- Every call ends in one of these ways. It works with locks once its kernel is there, and all its
steps are those of `NativeCall.lockSteps` then. -/
theorem traceCall_calling (loader : Nat) (c : NativeCall) (w : World) :
    let run := (traceCall loader c).runFrom (w, [])
    Calling loader c w (run.1, run.2.1) ∧
      (run.2.2 = [] ∧ run.1 ≠ .ok () ∨
        run.2.2 = c.lockSteps (Locks.ofTensors w.heap c.tensors) ∧ (run.1 = .ok () →
          ∃ block, c.argumentBlock (Locks.ofTensors w.heap c.tensors).addresses = .ok block)) := by
  rw [traceCall, Act.runFrom_bind, unlocked, Act.run_within]
  rcases load_run loader c.library w with ⟨i, w', hload, hloaded⟩ | ⟨hload, hunknown, hmissing⟩
  · rw [hload, ← hloaded.idle.heap]
    simp only [Act.runFrom_bind, Act.runFrom_reads]
    cases hsymbol : w'.symbol? i c.symbol with
    | none => exact ⟨.symbolless hloaded hsymbol, Or.inl ⟨rfl, by simp⟩⟩
    | some code =>
      simp only [Act.runFrom_bind, Act.runFrom_reads, Act.runFrom_andFinally, Act.runFrom_ofExcept]
      cases hblock : c.argumentBlock (Locks.ofTensors w'.heap c.tensors).addresses with
      | error error =>
        obtain ⟨position, -, rfl⟩ := NativeCall.argumentBlock_error hblock
        refine ⟨.refused hloaded hsymbol hblock, Or.inr ⟨?_, by simp [note]⟩⟩
        simp [NativeCall.lockSteps, hblock, note]
      | ok block =>
        refine ⟨.called _ hloaded hsymbol hblock, Or.inr ⟨?_, fun _ ↦ ⟨block, rfl⟩⟩⟩
        simp [NativeCall.lockSteps, hblock, note, unlocked, onHost, Host.tell, runKernel,
          Act.run_within]
  · rw [hload]
    exact ⟨.unloaded hunknown hmissing, Or.inl ⟨rfl, by simp⟩⟩

/-- What is noted of the locks aside, it is the call that ends so. -/
theorem callLibrary_calling (loader : Nat) (c : NativeCall) (w : World) :
    Calling loader c w ((callLibrary loader c).runFrom w) :=
  (traceCall_calling loader c w).1

/-- No two paths have the same components. -/
def Distinct (entries : List (Path × Nat)) : Prop :=
  entries.Pairwise fun x y ↦ x.1.components ≠ y.1.components

theorem known?_eq_none_iff :
    w.known? loader p = none ↔ ∀ x ∈ w.remembered loader, x.1.components ≠ p.components := by
  simp [known?]

/-- Of different paths, each is known with its image. -/
theorem known?_of_mem (h : Distinct (w.remembered loader)) {x : Path × Nat}
    (hx : x ∈ w.remembered loader) (hp : x.1.components = p.components) :
    w.known? loader p = some x.2 := by
  obtain ⟨before, after, hsplit⟩ := List.append_of_mem hx
  rw [Distinct, hsplit, List.pairwise_append] at h
  have hbefore : before.find? (·.1.components = p.components) = none := by
    simpa [← hp] using fun a i hy ↦ h.2.2 (a, i) hy x List.mem_cons_self
  rw [known?, hsplit, List.find?_append, hbefore]
  simp [hp]

/-- The paths with their images that a loader remembers anew when it is asked for the image of a
path. -/
def newLoads (loader : Nat) (p : Path) (w : World) : List (Path × Nat) :=
  match w.known? loader p with
  | some _ => []
  | none => ((bring p w).map fun (i, _) ↦ (p, i)).toList

theorem symbol?_eq (w : World) (i : Nat) (name : String) :
    w.symbol? i name = (w.library? i).bind (·.find? name) := by
  simp [symbol?, library?, Option.bind_map]

/-- From `w` to `w'`, a loader has come to remember `loaded` as well, and the images in memory have
kept their libraries. -/
structure Grows (loader : Nat) (w : World) (loaded : List (Path × Nat)) (w' : World) : Prop where
  /-- There are as many loaders. -/
  loaders : w'.loaders.length = w.loaders.length
  /-- What is new comes after what was remembered. -/
  remembered : w'.remembered loader = w.remembered loader ++ loaded
  /-- The paths are different if they were before. -/
  distinct : Distinct (w.remembered loader) → Distinct (w'.remembered loader)
  /-- The images have the same libraries. -/
  libraries : w.images.map Image.library <+: w'.images.map Image.library
  /-- The new images are in memory. -/
  lt : ∀ x ∈ loaded, x.2 < w'.images.length

namespace Grows

/-- What no loader and no image sees changes nothing. -/
theorem of_eq (hloaders : w'.loaders = w.loaders)
    (hlibraries : w'.images.map Image.library = w.images.map Image.library) :
    Grows loader w [] w' where
  loaders := by rw [hloaders]
  remembered := by rw [World.remembered, hloaders, List.append_nil, World.remembered]
  distinct := by
    rw [World.remembered, World.remembered, hloaders]
    exact id
  libraries := hlibraries ▸ List.prefix_rfl
  lt := by simp

theorem trans {first second : List (Path × Nat)} (h₁ : Grows loader w first w')
    (h₂ : Grows loader w' second w'') : Grows loader w (first ++ second) w'' where
  loaders := h₂.loaders.trans h₁.loaders
  remembered := by rw [h₂.remembered, h₁.remembered, List.append_assoc]
  distinct := h₂.distinct ∘ h₁.distinct
  libraries := h₁.libraries.trans h₂.libraries
  lt := by
    intro x hx
    rcases List.mem_append.mp hx with hx | hx
    · have hle := h₂.libraries.length_le
      simp only [List.length_map] at hle
      exact (h₁.lt x hx).trans_le hle
    · exact h₂.lt x hx

/-- What was known stays known. -/
theorem known {loaded : List (Path × Nat)} (h : Grows loader w loaded w')
    (hknown : w.known? loader p = some i) : w'.known? loader p = some i := by
  obtain ⟨x, hx, rfl⟩ := Option.map_eq_some_iff.mp hknown
  rw [known?, h.remembered, List.find?_append, hx]
  rfl

/-- An image keeps its library, and with it its symbols. -/
theorem symbol {loaded : List (Path × Nat)} (h : Grows loader w loaded w')
    (hi : i < w.images.length) (name : String) : w'.symbol? i name = w.symbol? i name := by
  obtain ⟨more, hmore⟩ := h.libraries
  have hlibrary : (w'.images.map Image.library)[i]? = (w.images.map Image.library)[i]? := by
    rw [← hmore, List.getElem?_append_left (by simpa using hi)]
  simp only [List.getElem?_map] at hlibrary
  rw [symbol?_eq, symbol?_eq, library?, library?, hlibrary]

end Grows

namespace Loaded

/-- What a loader remembers of a path from now on that it did not know before. -/
theorem grows (h : Loaded loader p w i w') (hloader : loader < w.loaders.length) :
    Grows loader w (newLoads loader p w) w' := by
  cases h with
  | remembered known =>
    rw [newLoads, known]
    exact .of_eq rfl rfl
  | @brought w' unknown bring brought =>
    have hnew : newLoads loader p w = [(p, i)] := by simp [newLoads, unknown, bring]
    rw [hnew]
    refine ⟨by simp [enrol, told, brought.loaders], brought.remembered hloader,
      fun hdistinct ↦ ?_, brought.idle.libraries, by simpa [enrol, told] using brought.lt⟩
    rw [brought.remembered hloader, Distinct, List.pairwise_append]
    refine ⟨hdistinct, List.pairwise_singleton _ _, fun x hx y hy ↦ ?_⟩
    rw [List.mem_singleton.mp hy]
    exact known?_eq_none_iff.mp unknown x hx

/-- The path is known with the image from now on, and the others are known or not as before. -/
theorem known (h : Loaded loader p w i w') (hloader : loader < w.loaders.length) (q : Path) :
    w'.known? loader q = if q.components = p.components then some i else w.known? loader q := by
  cases h with
  | remembered known =>
    split
    · next hq => rw [known?, hq]; exact known
    · rfl
  | @brought w' unknown bring brought =>
    rw [known?, brought.remembered hloader, List.find?_append]
    split
    · next hq =>
      have hnone : (w.remembered loader).find? (·.1.components = p.components) = none := by
        simpa [known?] using unknown
      simp [hq, hnone]
    · next hq =>
      simp [known?, Ne.symm hq]

end Loaded

/-- A call leaves its loader with what it has loaded. -/
theorem Calling.grows {c : NativeCall} {result : Except DeviceError Unit × World}
    (h : Calling loader c w result) (hloader : loader < w.loaders.length) :
    Grows loader w (newLoads loader c.library w) result.2 := by
  cases h with
  | unloaded unknown missing =>
    have hnew : newLoads loader c.library w = [] := by simp [newLoads, unknown, missing]
    rw [hnew]
    exact .of_eq rfl rfl
  | symbolless loaded missing => exact loaded.grows hloader
  | refused loaded found refused => exact loaded.grows hloader
  | @called i w' code block event loaded found built =>
    have hrun : Grows loader w' [] ((runKernel i code block).runFrom (told w' event)).2 := by
      refine .of_eq rfl ?_
      simp [runKernel, told, map_modify]
    simpa using (loaded.grows hloader).trans hrun

/-- What a call that failed has changed: nothing but what its loader remembers, and of that only the
image of its own path, which is known then unless there was no library. -/
theorem Calling.failed {c : NativeCall} {error : DeviceError}
    (h : Calling loader c w (.error error, w')) (hloader : loader < w.loaders.length) :
    Idle w w' ∧
      (∀ p, p.components ≠ c.library.components → w'.known? loader p = w.known? loader p) ∧
      (w'.known? loader c.library = none ↔ error = .libraryNotLoaded c.library) := by
  have hloaded : ∀ {i}, Loaded loader c.library w i w' →
      Idle w w' ∧ (∀ p, p.components ≠ c.library.components →
        w'.known? loader p = w.known? loader p) ∧ w'.known? loader c.library ≠ none :=
    fun loaded ↦ ⟨loaded.idle, fun p hp ↦ by rw [loaded.known hloader, if_neg hp],
      by simp [loaded.known hloader]⟩
  cases h with
  | unloaded unknown missing => exact ⟨.refl w, fun _ _ ↦ rfl, by simp [unknown]⟩
  | symbolless loaded missing =>
    obtain ⟨hidle, hothers, hknown⟩ := hloaded loaded
    exact ⟨hidle, hothers, by simp [hknown]⟩
  | refused loaded found refused =>
    obtain ⟨hidle, hothers, hknown⟩ := hloaded loaded
    exact ⟨hidle, hothers, by simp [hknown]⟩

/-! ### Runs of calls -/

/-- What happens to a world while a loading entry is used. -/
inductive LoaderStep where
  /-- A call to the entry. -/
  | call (c : NativeCall)
  /-- Files are written, moved and removed, and so are tensors. -/
  | elsewhere (host : Host) (heap : Heap)

namespace LoaderStep

/-- The world after a step. -/
def after (loader : Nat) (w : World) : LoaderStep → World
  | call c => (((loadingEntry loader).execute c).runFrom w).2
  | elsewhere host heap => { w with host, heap }

/-- What a step has loaded. -/
def loads (loader : Nat) (w : World) : LoaderStep → List (Path × Nat)
  | call c => newLoads loader c.library w
  | elsewhere .. => []

/-- Every step leaves the loader with what it has loaded. -/
theorem after_grows (step : LoaderStep) (hloader : loader < w.loaders.length) :
    Grows loader w (step.loads loader w) (step.after loader w) := by
  cases step with
  | call c => exact (callLibrary_calling loader c w).grows hloader
  | elsewhere host heap => exact .of_eq rfl rfl

end LoaderStep

/-- The world after some steps. -/
def after (loader : Nat) (w : World) (steps : List LoaderStep) : World :=
  steps.foldl (LoaderStep.after loader) w

/-- What some steps have loaded, by path: the successful loads in their order. -/
def loads (loader : Nat) : World → List LoaderStep → List (Path × Nat)
  | _, [] => []
  | w, step :: rest => step.loads loader w ++ loads loader (step.after loader w) rest

theorem after_append (w : World) (earlier later : List LoaderStep) :
    w.after loader (earlier ++ later) = (w.after loader earlier).after loader later :=
  List.foldl_append

theorem after_grows (steps : List LoaderStep) (hloader : loader < w.loaders.length) :
    Grows loader w (w.loads loader steps) (w.after loader steps) := by
  induction steps generalizing w with
  | nil => exact .of_eq rfl rfl
  | cons step rest ih =>
    have hstep := step.after_grows hloader
    exact hstep.trans (ih (hstep.loaders ▸ hloader))

/-- Everything that a fresh loader remembers was loaded by its steps. -/
theorem after_addLoader (w : World) (steps : List LoaderStep) :
    let loader := w.addLoader.1
    let w := w.addLoader.2
    loader < (w.after loader steps).loaders.length ∧
      (w.after loader steps).remembered loader = w.loads loader steps ∧
      Distinct (w.loads loader steps) := by
  intro loader w₀
  have hloader : loader < w₀.loaders.length := by simp [loader, w₀, addLoader]
  have hfresh : w₀.remembered loader = [] := by simp [loader, w₀, addLoader, remembered]
  have hgrows := after_grows steps hloader
  have hremembered := hgrows.remembered
  rw [hfresh, List.nil_append] at hremembered
  refine ⟨hgrows.loaders ▸ hloader, hremembered, hremembered ▸ hgrows.distinct ?_⟩
  rw [hfresh]
  exact List.Pairwise.nil

/-- Libraries are loaded once per path. For every run of calls to a fresh loading entry, with any
changes to the host and the tensors in between:

* the paths that were loaded are different;
* from its load on, a path has the same image, which keeps its symbols, and a path that was not
  loaded has none, so that a call that did not find its library leaves nothing behind;
* every call after it ends in one of the ways of `Calling`, which ask for the library first, then
  for the symbol and then for the argument block;
* a call that fails runs no kernel and changes no tensor; the other paths keep what they have, and
  its own path has an image unless it is the library that was not found. -/
theorem loaded_once (w₀ : World) (steps : List LoaderStep) :
    let loader := w₀.addLoader.1
    let w := w₀.addLoader.2
    ((w.loads loader steps).Pairwise fun x y ↦ x.1.components ≠ y.1.components) ∧
      (∀ earlier later, steps = earlier ++ later → ∀ x ∈ w.loads loader earlier, ∀ p : Path,
        p.components = x.1.components → (w.after loader steps).known? loader p = some x.2 ∧
          ∀ name, (w.after loader steps).symbol? x.2 name =
            (w.after loader earlier).symbol? x.2 name) ∧
      (∀ p : Path, (w.after loader steps).known? loader p = none ↔
        ∀ x ∈ w.loads loader steps, x.1.components ≠ p.components) ∧
      (∀ c : NativeCall, Calling loader c (w.after loader steps)
        (((loadingEntry loader).execute c).runFrom (w.after loader steps))) ∧
      ∀ (c : NativeCall) error w',
        ((loadingEntry loader).execute c).runFrom (w.after loader steps) = (.error error, w') →
        Idle (w.after loader steps) w' ∧
          (∀ p, p.components ≠ c.library.components →
            w'.known? loader p = (w.after loader steps).known? loader p) ∧
          (w'.known? loader c.library = none ↔ error = .libraryNotLoaded c.library) := by
  intro loader w
  obtain ⟨hloader, hremembered, hdistinct⟩ := w₀.after_addLoader steps
  refine ⟨hdistinct, ?_, fun p ↦ ?_, fun c ↦ callLibrary_calling loader c _, ?_⟩
  · rintro earlier later rfl x hx p hp
    obtain ⟨hloader', hremembered', hdistinct'⟩ := w₀.after_addLoader earlier
    have hgrows := after_grows later hloader'
    rw [← after_append] at hgrows
    have hknown := known?_of_mem (hremembered' ▸ hdistinct') (hremembered' ▸ hx) hp.symm
    refine ⟨hgrows.known hknown, fun name ↦ hgrows.symbol ?_ name⟩
    exact (after_grows earlier (by simp [addLoader])).lt x hx
  · rw [known?_eq_none_iff, hremembered]
  · intro c error w' hrun
    have hcalling := callLibrary_calling loader c (w.after loader steps)
    rw [show callLibrary loader c = (loadingEntry loader).execute c from rfl, hrun] at hcalling
    exact hcalling.failed hloader

/-- A world with nothing but a library file of the given name. -/
def shelf (serial : Nat) (name : String) : World where
  host := { files := { disk := ⟨[([utf8 "k.so"], .machine serial name)], serial + 1, []⟩
                       here := Disk.rootSerial } }

/-- A call for a symbol that its library lacks. -/
def stumble : LoaderStep := .call { library := .ofString "/k.so", symbol := "none" }

/-- The library is replaced by one without `nop_kernel`, which is called then. -/
def replacement : List LoaderStep :=
  [.elsewhere (shelf 2 "b").host {}, .call { library := .ofString "/k.so", symbol := "nop_kernel" }]

private theorem bring_shelf : bring (.ofString "/k.so") (shelf 1 "a").addLoader.2 =
    some (0, { (shelf 1 "a").addLoader.2 with
      images := [⟨[.ofString "/k.so", .ofString "/k.so"], 1, .plain, 0⟩] }) := by
  have hlocates : (shelf 1 "a").host.files.Locates (.ofString "/k.so") [] (utf8 "k.so") :=
    ⟨[], linkLimit, rfl, Disk.ending_of_walk (Disk.walk_nil ..) rfl⟩
  have hnode : (shelf 1 "a").host.files.node (.ofString "/k.so") = .ok (.machine 1 "a") :=
    hlocates.node_eq (by decide) rfl (by simp) (.inl (by decide))
  have hfile : filePath (.ofString "/k.so") = .ofString "/k.so" := by decide +kernel
  have hlast : (Path.ofString "/k.so").bytes.getLast? ≠ some 0 := by decide +kernel
  have hempty : (Path.ofString "/k.so").bytes ≠ [] := by decide +kernel
  have hsystem : Path.ofString "/k.so" ∉ systemLibraries := by decide +kernel
  have hslash : Path.slash ∈ (Path.ofString "/k.so").bytes := by decide +kernel
  have hnamed : Library.named? "a" = some .plain := by decide
  have himages : (shelf 1 "a").addLoader.2.images = [] := rfl
  have hhost : (shelf 1 "a").addLoader.2.host = (shelf 1 "a").host := rfl
  simp [bring, hlast, hempty, hsystem, hslash, hfile, hnode, hnamed, himages, hhost]

private theorem symbol?_stumble :
    (stumble.after 0 (shelf 1 "a").addLoader.2).symbol? 0 "nop_kernel" = some .idle := by
  have hknown : (shelf 1 "a").addLoader.2.known? 0 (.ofString "/k.so") = none := rfl
  have hmissing : Library.plain.find? "none" = none := by decide
  have hfound : Library.plain.find? "nop_kernel" = some .idle := by decide
  have hload : (load 0 (.ofString "/k.so")).runFrom (shelf 1 "a").addLoader.2 =
      (.ok 0, enrol 0 (.ofString "/k.so") 0 { (shelf 1 "a").addLoader.2 with
        images := [⟨[.ofString "/k.so", .ofString "/k.so"], 1, .plain, 0⟩] }) := by
    rw [load, Act.runFrom_bind, Act.runFrom_reads, hknown]
    simp only
    rw [Act.runFrom_bind, Act.runFrom_ofRun, bring_shelf]
    rfl
  simp [LoaderStep.after, stumble, loadingEntry, callLibrary, traceCall, unlocked,
    Act.runFrom_bind, Act.run_within, hload, symbol?, enrol, told, hmissing, hfound]

/-- A library whose symbol was not found is loaded, and its kernels are called when the file holds
others. -/
theorem loaded_once_replaced :
    let w := (shelf 1 "a").addLoader.2
    w.loads 0 [stumble] = [(.ofString "/k.so", 0)] ∧
      (w.after 0 (stumble :: replacement)).known? 0 (.ofString "//k.so") = some 0 ∧
      (w.after 0 (stumble :: replacement)).symbol? 0 "nop_kernel" = some .idle := by
  intro w
  have hloads : w.loads 0 [stumble] = [(.ofString "/k.so", 0)] := by
    have hknown : w.known? 0 (.ofString "/k.so") = none := rfl
    simp [loads, LoaderStep.loads, stumble, newLoads, hknown, w, bring_shelf]
  obtain ⟨-, hfirst, -⟩ := loaded_once (shelf 1 "a") (stumble :: replacement)
  obtain ⟨hknown, hkept⟩ := hfirst [stumble] replacement rfl (.ofString "/k.so", 0)
    (hloads ▸ List.mem_singleton_self _) (.ofString "//k.so") (by decide +kernel)
  exact ⟨hloads, hknown, (hkept "nop_kernel").trans symbol?_stumble⟩

end KernelForge.World
