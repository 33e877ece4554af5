import SessionAuthority.Bytes

/-!
# Files

The files that settings name: what each path holds, and why the others cannot be read.
-/
set_option autoImplicit false

namespace SessionAuthority

inductive FileError where
  | notFound
  | isDirectory
  | nulInPath
  deriving DecidableEq, Repr

def FileError.message : FileError → String
  | notFound => "No such file or directory (os error 2)"
  | isDirectory => "Is a directory (os error 21)"
  | nulInPath => "file name contained an unexpected NUL byte"

/-- What each readable path holds. -/
structure Files where
  contents : List (String × Bytes)
  deriving DecidableEq, Repr

/-- Whether a path has no component but those that stand for the same directory or one above. -/
def isDirectoryPath (path : String) : Bool :=
  path != "" && (path.toList.splitOnP (· == '/')).all fun part =>
    part == [] || part == ['.'] || part == ['.', '.']

def Files.read (files : Files) (path : String) : Except FileError Bytes :=
  if path.toList.contains '\x00' then .error .nulInPath
  else
    match files.contents.lookup path with
    | some content => .ok content
    | none => .error (if isDirectoryPath path then .isDirectory else .notFound)

end SessionAuthority
