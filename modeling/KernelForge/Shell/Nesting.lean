import KernelForge.Shell.Script

/-!
# Where inner words end

The braces of a parameter hold a word of their own, which ends at the closing brace. A parameter
whose value is taken by a colon alone has no such word: what follows the colon belongs to the word
around it, and the brace ends that one. A word is therefore read in steps, which open and close
inner words, and put together again by them. Main statement: a word in which no colon stands alone
stays as it is.
-/

namespace KernelForge.Shell

/-- A step through a word. -/
inductive WordStep where
  /-- A part. -/
  | part (p : Part)
  /-- The beginning of an inner word, which the part is made of. -/
  | opening (around : Word → Part)
  /-- The end of an inner word. -/
  | closing

mutual

/-- The steps through a part of a word. -/
def Part.steps : Part → List WordStep
  | .text chars quoted => [.part (.text chars quoted)]
  | .output command quoted => [.part (.output command quoted)]
  | .number expression quoted =>
    .opening (.number · quoted) :: (wordSteps expression ++ [.closing])
  | .parameter name use quoted => use.steps name quoted

/-- The steps through what is taken of a parameter. -/
def Use.steps (name : String) (quoted : Bool) : Use → List WordStep
  | .value => [.part (.parameter name .value quoted)]
  | .length => [.part (.parameter name .length quoted)]
  | .unknown => [.part (.parameter name .unknown quoted)]
  | .leading word => .part (.parameter name (.leading []) quoted) :: (wordSteps word ++ [.closing])
  | .orElse empty word =>
    .opening (fun w ↦ .parameter name (.orElse empty w) quoted) :: (wordSteps word ++ [.closing])
  | .instead empty word =>
    .opening (fun w ↦ .parameter name (.instead empty w) quoted) :: (wordSteps word ++ [.closing])
  | .orAssign empty word =>
    .opening (fun w ↦ .parameter name (.orAssign empty w) quoted) :: (wordSteps word ++ [.closing])
  | .orFail empty word =>
    .opening (fun w ↦ .parameter name (.orFail empty w) quoted) :: (wordSteps word ++ [.closing])
  | .trim atEnd longest word =>
    .opening (fun w ↦ .parameter name (.trim atEnd longest w) quoted) ::
      (wordSteps word ++ [.closing])

/-- The steps through a word. -/
def wordSteps : List Part → List WordStep
  | [] => []
  | p :: rest => p.steps ++ wordSteps rest

end

/-- The word that steps make behind its beginning `before`; around it are words that have begun,
each with what the next inner word becomes in it. What is behind the end of the whole is left
out. -/
def joinSteps (before : Word) (around : List (Word × (Word → Part))) : List WordStep → Word
  | [] => before
  | .part p :: rest => joinSteps (before ++ [p]) around rest
  | .opening become :: rest => joinSteps [] ((before, become) :: around) rest
  | .closing :: rest =>
    match around with
    | [] => before
    | (outer, become) :: around => joinSteps (outer ++ [become before]) around rest

/-- A word whose inner words end where they do. -/
def Word.nested (w : Word) : Word := joinSteps [] [] (wordSteps w)

mutual

/-- Whether no colon stands alone in a part of a word. -/
def Part.isClosed : Part → Bool
  | .text .. => true
  | .output .. => true
  | .number expression _ => wordIsClosed expression
  | .parameter _ use _ => use.isClosed

/-- Whether what is taken of a parameter is not asked for by a colon alone, at any depth. -/
def Use.isClosed : Use → Bool
  | .value => true
  | .length => true
  | .unknown => true
  | .leading _ => false
  | .orElse _ word => wordIsClosed word
  | .instead _ word => wordIsClosed word
  | .orAssign _ word => wordIsClosed word
  | .orFail _ word => wordIsClosed word
  | .trim _ _ word => wordIsClosed word

/-- Whether no colon stands alone in a word. -/
def wordIsClosed : List Part → Bool
  | [] => true
  | p :: rest => p.isClosed && wordIsClosed rest

end

mutual

theorem joinSteps_part (p : Part) (h : p.isClosed = true) (before : Word)
    (around : List (Word × (Word → Part))) (more : List WordStep) :
    joinSteps before around (p.steps ++ more) = joinSteps (before ++ [p]) around more := by
  match p with
  | .text _ _ => rfl
  | .output _ _ => rfl
  | .number expression quoted =>
    have h : wordIsClosed expression = true := h
    simp [Part.steps, joinSteps, joinSteps_word expression h]
  | .parameter name use quoted => exact joinSteps_use name quoted use h before around more

theorem joinSteps_use (name : String) (quoted : Bool) (use : Use) (h : use.isClosed = true)
    (before : Word) (around : List (Word × (Word → Part))) (more : List WordStep) :
    joinSteps before around (use.steps name quoted ++ more) =
      joinSteps (before ++ [.parameter name use quoted]) around more := by
  match use with
  | .value => rfl
  | .length => rfl
  | .unknown => rfl
  | .leading _ => simp [Use.isClosed] at h
  | .orElse _ word | .instead _ word | .orAssign _ word | .orFail _ word | .trim _ _ word =>
    have h : wordIsClosed word = true := h
    simp [Use.steps, joinSteps, joinSteps_word word h]

theorem joinSteps_word (w : List Part) (h : wordIsClosed w = true) (before : Word)
    (around : List (Word × (Word → Part))) (more : List WordStep) :
    joinSteps before around (wordSteps w ++ more) = joinSteps (before ++ w) around more := by
  match w with
  | [] => simp [wordSteps]
  | p :: rest =>
    simp only [wordIsClosed, Bool.and_eq_true] at h
    simp [wordSteps, joinSteps_part p h.1, joinSteps_word rest h.2]

end

/-- A word in which no colon stands alone stays as it is. -/
theorem nested_of_closed (w : Word) (h : wordIsClosed w = true) : w.nested = w := by
  have := joinSteps_word w h [] [] []
  simpa [Word.nested, joinSteps] using this

end KernelForge.Shell
