import KernelForge.Proofs.Act
import KernelForge.Proofs.Tool.Confined

/-!
# Toolchains that keep a ledger

A ledger lists what was asked of the toolchains of a host and what came of it. A booked toolchain
does what the toolchain it is made from does on a host without a ledger, and adds its compilations
and header extractions to the ledger; so the ledger tells what was asked in a whole run, and neither
the files nor what the toolchain answers depends on it. Main statements: `ledger_compile`,
`ledger_extractHeader` and `Confined.booked`.
-/

namespace KernelForge

/-- What was asked of a toolchain and what came of it. -/
structure ToolCall where
  /-- What was asked. -/
  asked : RehearsalStep
  /-- Whether it went well. -/
  succeeded : Bool
  /-- What is at the output afterwards. -/
  left : RehearsedOutput

namespace ToolCall

/-- Whether a compilation was asked for. -/
def isCompilation (c : ToolCall) : Bool :=
  match c.asked with
  | .compile .. => true
  | _ => false

/-- A call as a rehearsal with one step. -/
def rehearsal (c : ToolCall) : Rehearsal where
  plan := { compileFault := if c.succeeded then none else some ("", ""), output := c.left }
  log := [c.asked]

/-- The call that a rehearsal with one step stands for. -/
def ofRehearsal? (r : Rehearsal) : Option ToolCall :=
  match r.log with
  | [asked] => some ⟨asked, r.plan.compileFault.isNone, r.plan.output⟩
  | _ => none

theorem ofRehearsal?_rehearsal (c : ToolCall) : ofRehearsal? c.rehearsal = some c := by
  obtain ⟨asked, succeeded, left⟩ := c
  cases succeeded <;> rfl

end ToolCall

namespace Host

/-- The name under which a host keeps the ledger. -/
def ledgerName : String := "ledger"

/-- The calls of toolchains so far, the newest first. -/
def ledger (h : Host) : List ToolCall :=
  (h.rehearsals.filter (·.1 = ledgerName)).filterMap fun r ↦ ToolCall.ofRehearsal? r.2

/-- The host with the given calls in its ledger. -/
def withLedger (calls : List ToolCall) (h : Host) : Host :=
  { h with rehearsals := calls.map (fun c ↦ (ledgerName, c.rehearsal)) ++
      h.rehearsals.filter (·.1 ≠ ledgerName) }

@[simp] theorem ledger_withLedger (calls : List ToolCall) (h : Host) :
    (h.withLedger calls).ledger = calls := by
  have hcalls : (calls.map fun c ↦ (ledgerName, c.rehearsal)).filter (·.1 = ledgerName) =
      calls.map fun c ↦ (ledgerName, c.rehearsal) := by
    rw [List.filter_eq_self]
    simp
  have hrest : (h.rehearsals.filter (·.1 ≠ ledgerName)).filter (·.1 = ledgerName) = [] := by
    rw [List.filter_filter, List.filter_eq_nil_iff]
    simp
  rw [ledger, withLedger, List.filter_append, hcalls, hrest, List.append_nil, List.filterMap_map]
  simp [ToolCall.ofRehearsal?_rehearsal]

/-- The compilations that the ledger lists. -/
def compilations (h : Host) : Nat := h.ledger.countP ToolCall.isCompilation

end Host

/-- What stands at a place, as a rehearsed compilation might leave it there. -/
def Node.left : Node → RehearsedOutput
  | .file _ content _ => .file content
  | .machine _ name => .machine name
  | .directory _ => .directory
  | _ => .nothing

/-- What is at a path, as a rehearsed compilation might leave it there. -/
def Files.leftAt (f : Files) (p : Path) : RehearsedOutput :=
  match f.node p with
  | .ok n => n.left
  | .error _ => .nothing

namespace Toolchain

/-- Does what `act` does on a host without a ledger, and adds a call to the ledger. -/
def book {α : Type} (act : Act Host DeviceError α)
    (call : Host → Except DeviceError α → Host → Option ToolCall) : Act Host DeviceError α :=
  Act.ofRun fun h ↦
    let (r, h') := act.runFrom (h.withLedger [])
    (r, h'.withLedger ((call h r h').toList ++ h.ledger))

/-- The toolchain with its compilations and header extractions booked. -/
def booked (t : Toolchain) : Toolchain where
  compile r := book (t.compile r) fun h result h' ↦
    some ⟨.compile r (h.files.readText r.source).toOption, result.isOk, h'.files.leftAt r.output⟩
  extractHeader r := book (t.extractHeader r) fun _ result _ ↦
    some ⟨.header r, result.isOk, .nothing⟩
  simulate r := book (t.simulate r) fun _ _ _ ↦ none

section Booked

variable (t : Toolchain) (h : Host)

theorem ledger_compile (r : CompileRequest) : ((t.booked.compile r).runFrom h).2.ledger =
    ⟨.compile r (h.files.readText r.source).toOption, ((t.booked.compile r).runFrom h).1.isOk,
      ((t.booked.compile r).runFrom h).2.files.leftAt r.output⟩ :: h.ledger :=
  Host.ledger_withLedger _ _

theorem ledger_extractHeader (r : HeaderRequest) : ((t.booked.extractHeader r).runFrom h).2.ledger =
    ⟨.header r, ((t.booked.extractHeader r).runFrom h).1.isOk, .nothing⟩ :: h.ledger :=
  Host.ledger_withLedger _ _

theorem ledger_simulate (r : SimulationRequest) :
    ((t.booked.simulate r).runFrom h).2.ledger = h.ledger :=
  Host.ledger_withLedger _ _

/-- Booking the calls of a confined toolchain leaves it confined. -/
theorem Confined.booked {t : Toolchain} (ht : t.Confined) : t.booked.Confined where
  compile r h := ht.compile r (h.withLedger [])
  compiled r h := ht.compiled r (h.withLedger [])
  extractHeader r h := ht.extractHeader r (h.withLedger [])
  header r h := ht.header r (h.withLedger [])

end Booked

end Toolchain

end KernelForge
