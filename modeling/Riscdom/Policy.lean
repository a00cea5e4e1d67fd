import Riscdom.AgentLoop

/-!
The policy of a workspace: a path is resolved in its text alone, against the
root of the workspace, and refused where it climbs, leaves the root, or is
written with an extension that is not allowed. Paths are POSIX ones: '/' stands
between names, nothing before the root, and names are told apart by their characters.
-/
namespace Riscdom.Agent
open Riscdom.Text

/-! ### Paths -/

inductive Component
  | RootDir
  | CurDir
  | ParentDir
  | Normal (part : String)
deriving DecidableEq

/-- What stands between two separators; nothing, and a dot after the start, are no components. -/
def Component.of_part (part : List Char) : Option Component :=
  if part = [] ∨ part = ['.'] then none
  else if part = ['.', '.'] then some .ParentDir
  else some (.Normal (.ofList part))

def is_absolute (path : String) : Bool := path.toList.head? == some '/'

def components (path : String) : List Component :=
  let parts := path.toList.splitOn '/'
  let start := if is_absolute path then [.RootDir] else if parts.head? = some ['.'] then [.CurDir] else []
  start ++ parts.filterMap Component.of_part

/-- The path without its last part, where it has one. -/
def pop (out : List Component) : List Component :=
  match out.getLast? with
  | some (.Normal _) => out.dropLast
  | _ => out

def push (out : List Component) : Component → List Component
  | .RootDir => [.RootDir]
  | .CurDir => out
  | .ParentDir => pop out
  | .Normal part => out ++ [.Normal part]

/-- A path in its text alone, nothing looked up on the disk. -/
def normalize (path : List Component) : List Component := path.foldl push []

def Component.display : Component → String
  | .RootDir => ""
  | .CurDir => "."
  | .ParentDir => ".."
  | .Normal part => part

/-- A path as it is written into a text. -/
def display (path : List Component) : String :=
  if path = [.RootDir] then "/" else "/".intercalate (path.map Component.display)

/-- What follows the last dot of the last part, the dot at its start apart. -/
def extension (path : List Component) : Option String :=
  match path.getLast? with
  | some (.Normal part) =>
    match rsplit_once '.' part.toList with
    | some (before, after) => if before = [] then none else some (.ofList after)
    | none => none
  | _ => none

def eq_ignore_ascii_case (a b : String) : Bool := a.toList.map Char.toLower == b.toList.map Char.toLower

/-! ### The policy -/

/-- The rules for the files a run may read and write. -/
structure WorkspacePolicy where
  root : List Component
  allowed_extensions : List String
deriving DecidableEq

namespace WorkspacePolicy

def new (root : String) : WorkspacePolicy :=
  { root := normalize (components root), allowed_extensions := [".c", ".h", ".S", ".s", ".zig", ".rs"] }

variable (policy : WorkspacePolicy)

/-- A path against the root: refused where it climbs, and where it does not stay inside. -/
def resolve (path : String) : Except AgentError (List Component) :=
  if .ParentDir ∈ components path then .error (.PolicyDenied ("path traversal not allowed: " ++ path))
  else
    let abs := if is_absolute path then normalize (components path) else normalize (policy.root ++ components path)
    if policy.root.isPrefixOf abs then .ok abs else .error (.PolicyDenied ("path outside workspace: " ++ display abs))

def check_read (path : String) : Except AgentError (List Component) := policy.resolve path

def check_write (path : String) : Except AgentError (List Component) :=
  match policy.resolve path with
  | .error error => .error error
  | .ok abs =>
    let ext := ((extension abs).map fun e => "." ++ e).getD ""
    if policy.allowed_extensions.any fun allowed => eq_ignore_ascii_case allowed ext then .ok abs
    else .error (.PolicyDenied ("extension not allowed: " ++ if ext = "" then "(none)" else ext))

/-! ### What the policy lets through -/

variable {policy} {path : String} {abs : List Component}

end WorkspacePolicy
end Riscdom.Agent
