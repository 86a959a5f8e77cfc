import KernelForge.Disk.Path

/-!
# Why a file operation failed

The causes a file system gives, with the number it gives them, and those that stop an operation
before it reaches the file system.
-/

namespace KernelForge

/-- Why a file operation or the start of a process failed. -/
inductive Cause where
  /-- Nothing has this name. -/
  | missing
  /-- The program file is in no format that can run. -/
  | notRunnable
  /-- The file may not be used this way. -/
  | denied
  /-- The directory is in use. -/
  | busy
  /-- The name is taken. -/
  | taken
  /-- A directory is wanted here. -/
  | notDirectory
  /-- A directory is not wanted here. -/
  | isDirectory
  /-- The request makes no sense. -/
  | invalid
  /-- A name or the path is too long. -/
  | tooLong
  /-- The directory holds something. -/
  | notEmpty
  /-- Too many links on the way. -/
  | tooManyLinks
  /-- The content is not text. -/
  | notText
  /-- The empty path names no place. -/
  | emptyPath
  /-- A path holds a zero byte. -/
  | zeroInPath
  /-- A word of a command holds a zero byte. -/
  | zeroInWord
  /-- The operation failed on a file of its own choosing. -/
  | onFile (path : Path) (cause : Cause)
  deriving DecidableEq

/-- A cause in words, with the number that the system gives it. -/
def Cause.describe : Cause → String × Option Nat
  | missing => ("No such file or directory", some 2)
  | notRunnable => ("Exec format error", some 8)
  | denied => ("Permission denied", some 13)
  | busy => ("Device or resource busy", some 16)
  | taken => ("File exists", some 17)
  | notDirectory => ("Not a directory", some 20)
  | isDirectory => ("Is a directory", some 21)
  | invalid => ("Invalid argument", some 22)
  | tooLong => ("File name too long", some 36)
  | notEmpty => ("Directory not empty", some 39)
  | tooManyLinks => ("Too many levels of symbolic links", some 40)
  | notText => ("stream did not contain valid UTF-8", none)
  | emptyPath => ("cannot make an empty path absolute", none)
  | zeroInPath => ("file name contained an unexpected NUL byte", none)
  | zeroInWord => ("nul byte found in provided data", none)
  | onFile _ cause => cause.describe

/-- The text of a cause: its words and its number, and the path if the operation chose it. -/
def Cause.message : Cause → String
  | onFile path cause => cause.message ++ " at path " ++ path.quoted
  | cause =>
    match cause.describe with
    | (words, some n) => words ++ " (os error " ++ toString n ++ ")"
    | (words, none) => words

end KernelForge
