import GtpControl.Octets

/-! # Trees of files, held in memory

A tree has the directories that its files need. Reasons for failures are those of the operating
system. -/
namespace GtpControl.CommandLine

/-- Contents by the parts of their paths. -/
structure FileTree where
  files : List (List String × Octets) := []
deriving Repr, Inhabited

namespace FileTree

def missing : String := "No such file or directory (os error 2)"

def isADirectory : String := "Is a directory (os error 21)"

def notADirectory : String := "Not a directory (os error 20)"

/-- The parts of a path below the root of the tree. -/
def parts (path : String) : List String :=
  ((path.splitOn "/").filter fun part => part ≠ "" && part ≠ ".").foldl
    (fun parts part => if part = ".." then parts.dropLast else parts ++ [part]) []

/-- Whether the parts lead to a directory. -/
def isDirectory (parts : List String) (tree : FileTree) : Bool :=
  parts.isEmpty || tree.files.any fun file => parts.isPrefixOf file.1 && parts ≠ file.1

/-- A file, or none where there may be a new one. -/
def find (path : String) (tree : FileTree) : Except String (Option Octets) :=
  let parts := parts path
  if path.isEmpty || path.startsWith "/" then throw missing
  else if tree.isDirectory parts then throw isADirectory
  else
    match tree.files.lookup parts with
    | some content => pure (some content)
    | none =>
      if tree.isDirectory parts.dropLast then pure none
      else if tree.files.any (·.1.isPrefixOf parts) then throw notADirectory
      else throw missing

/-- Whether there is a file or a directory. -/
def holds (path : String) (tree : FileTree) : Bool :=
  match tree.find path with
  | .ok file => file.isSome
  | .error reason => reason = isADirectory

def read (path : String) (tree : FileTree) : Except String Octets := do
  (← tree.find path).elim (throw missing) pure

/-- Puts into a file what is made of its old content. -/
def update (path : String) (content : Option Octets → Octets) (tree : FileTree) :
    Except String FileTree := do
  let old ← tree.find path
  return ⟨(parts path, content old) :: tree.files.filter (·.1 ≠ parts path)⟩

end FileTree
end GtpControl.CommandLine
