import KernelForge.Shell.Expansion

/-!
# Redirections

The targets of all redirections of a command are expanded first, then they are opened from left to
right. Afterwards these streams lead where they led before.
-/

namespace KernelForge.Shell

/-- Where a redirection leads, when its target is expanded. -/
inductive Target where
  /-- To a file. -/
  | file (kind : RedirectKind) (name : List Char)
  /-- Where another stream leads. -/
  | stream (stream : Nat)
  /-- Nowhere. -/
  | nowhere
  /-- From a text of the script, which is expanded when it is opened. -/
  | document (w : Word)

/-- The target of a redirection. -/
def targetOf (capture : Capture) (r : Redirect Word) : Work Target := do
  match r.kind with
  | .duplicate =>
    match ← expandText capture {} r.target with
    | ['-'] => pure .nowhere
    | [c] => if c.isDigit then pure (.stream (decimalValue [c])) else noStream
    | _ => noStream
  | .document number => return .document (((← get).documents.lookup number).getD [])
  | kind => return .file kind (← expandText capture {} r.target)
where
  /-- The target is no stream. -/
  noStream : Work Target := do
    modify fun s ↦ { s with line := s.ahead }
    Work.fail "Syntax error: Bad fd number".toList

/-- Why a file could not be opened, in the words of a shell. -/
def openingFault (create : Bool) (cause : Cause) : List Char :=
  match cause with
  | .missing | .notDirectory => (if create then "Directory nonexistent" else "No such file").toList
  | cause => cause.describe.1.toList

/-- Fails because a file could not be opened. -/
def failOpening {α : Type} (create : Bool) (name : List Char) (cause : Cause) : Work α :=
  Work.fail ((if create then "cannot create " else "cannot open ").toList ++ name ++ ": ".toList ++
    openingFault create cause)

/-- Opens a file. -/
def openFile (kind : RedirectKind) (name : List Char) : Work Opening := do
  let p := Session.pathOf name
  if kind = .input then
    match (← get).files.node p with
    | .error cause => failOpening false name cause
    | .ok .sink => return .sink
    | .ok node =>
      match node.file? with
      | some (serial, content, _) => return .file serial content 0 true false false
      | none => return .supply []
  else
    let s ← get
    if kind = .output && s.has .noclobber && s.files.isFile p then failOpening true name .taken
    let keeps := kind = .append || kind = .update
    match ← Work.onFiles (Files.alter p fun content ↦ if keeps then content else []) with
    | .error cause => failOpening true name cause
    | .ok () =>
      match (← get).files.node p with
      | .ok (.file serial content _) =>
        return .file serial content 0 (kind = .update) true (kind = .append)
      | _ => return .sink

/-- Leads a stream to a target. A stream that is kept for later (`keeps`) is closed before it is led
to another one, so that nobody hears if the stream of complaints cannot be. -/
def redirectTo (capture : Capture) (keeps : Bool) (stream : Nat) (target : Target) : Work Unit := do
  let attach (o : Opening) : Work Unit := modify fun s ↦
    { s with streams := s.streams.attach stream o }
  match target with
  | .file kind name => attach (← openFile kind name)
  | .document w => attach (.supply (← expandText capture { verbatim := true } w))
  | .nowhere => modify fun s ↦ { s with streams := s.streams.close stream }
  | .stream n =>
    match (← get).streams.position? n with
    | some position => modify fun s ↦ { s with streams := s.streams.lead stream position }
    | none =>
      if n ≠ stream then
        if keeps then modify fun s ↦ { s with streams := s.streams.close stream }
        Work.fail ((toString n).toList ++ ": Bad file descriptor".toList)

/-- Leads streams back where they led in `before`; all others lead where they lead. -/
def restoreStreams (streams : List Nat) (before : Session) (s : Session) : Session :=
  { s with streams := streams.foldl restore s.streams }
where
  /-- Leads one stream back. -/
  restore (now : Streams) (stream : Nat) : Streams :=
    match before.streams.position? stream with
    | some position => now.lead stream position
    | none => now.close stream

/-- The streams that redirections lead elsewhere, with their targets. -/
def expandTargets (capture : Capture) (redirects : List (Redirect Word)) :
    Work (List (Nat × Target)) :=
  redirects.mapM fun r ↦ do return (r.stream, ← targetOf capture r)

/-- Runs `act` while streams are led to targets; whether that was possible. These streams are led
back unless `act` answers that they stay. -/
def redirecting (capture : Capture) (targets : List (Nat × Target)) (act : Work Bool) :
    Work Bool := do
  let before ← get
  let restore (s : Session) : Session := restoreStreams (targets.map (·.1)) before s
  let opened : Except Leave Unit ←
    Act.attempt (targets.forM fun (stream, t) ↦ redirectTo capture true stream t)
  match opened with
  | .error _ =>
    modify restore
    pure false
  | .ok () =>
    let done : Except Leave Bool ← Act.attempt act
    match done with
    | .ok stays =>
      if !stays then modify restore
      pure true
    | .error leave =>
      modify restore
      throw leave

end KernelForge.Shell
