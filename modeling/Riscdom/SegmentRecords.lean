import Riscdom.AuditEvent

/-!
What the segment table holds, the words it is written in, and the details of the
rows that record a segment's life on the main chain. A segment's file is named
by its id, read as a POSIX path or as a Windows one.
-/
namespace Riscdom.Audit
open Riscdom.Json

def ACTION_SEGMENT_OPENED : String := "host.audit.segment_opened"
def ACTION_SEGMENT_CLOSED : String := "host.audit.segment_closed"
def ACTION_SEGMENT_MERGED : String := "host.audit.segment_merged"
def ACTION_SEGMENT_FORKED : String := "host.audit.segment_forked"

/-- How the note of a merge that failed part way begins. -/
def PARTIAL_MERGE_PREFIX : String := "merge failed after "

def partial_merge_recorded (note : String) : Bool := PARTIAL_MERGE_PREFIX.toList.isPrefixOf note.toList

/-- The member that marks an event as written under a stand-in. -/
def PROVISIONAL : String := "provisional"

/-- The detail as it is transcribed, its mark cleared. -/
def cleared_detail (detail : Value) : Value := detail.without PROVISIONAL

inductive SegmentKind
  | Main
  | Temporary
deriving DecidableEq

def SegmentKind.as_str : SegmentKind → String
  | .Main => "main"
  | .Temporary => "temporary"

inductive SegmentState
  | Open
  | Closed
  | Folded
  | Forked
deriving DecidableEq

def SegmentState.as_str : SegmentState → String
  | .Open => "open"
  | .Closed => "closed"
  | .Folded => "folded"
  | .Forked => "forked"

structure Segment where
  segment_id : String
  kind : SegmentKind
  head_hash : Option String
  head_prev_chain : Option String
  head_prev_length : Option Int
  opened_at_ms : Option Int
  closed_at_ms : Option Int
  state : SegmentState
  note : Option String
deriving DecidableEq

/-- What a merge did. -/
inductive MergeOutcome
  | Folded (merged : Nat)
  | Forked (reason : String)
deriving DecidableEq

/-! ### Details of the life rows -/

def segment_opened_detail (segment : Segment) : Value :=
  json [("segment_id", .string segment.segment_id), ("kind", .string segment.kind.as_str),
    ("head_prev_chain", .ofOption segment.head_prev_chain)]

def segment_closed_detail (segment_id : String) (closed_at_ms : Int) : Value :=
  json [("segment_id", .string segment_id), ("closed_at_ms", .integer closed_at_ms)]

def segment_forked_detail (segment_id : String) (kind : SegmentKind) (forked_at_ms : Int) (reason : String)
    (conflicting_event_id : Option Int) : Value :=
  json [("segment_id", .string segment_id), ("kind", .string kind.as_str), ("forked_at_ms", .integer forked_at_ms),
    ("reason", .string reason), ("conflicting_event_id", (conflicting_event_id.map Value.integer).getD .null)]

def segment_merged_detail (segment_id : String) (kind : SegmentKind) (merged_at_ms : Int) (event_count : Nat) : Value :=
  json [("segment_id", .string segment_id), ("kind", .string kind.as_str), ("merged_at_ms", .integer merged_at_ms),
    ("event_count", .integer event_count)]

/-! ### Names -/

/-- How much of an owner's name a segment id keeps. -/
def OWNER_MAX_CHARS : Nat := 48

/-- An owner's name made safe for a file name: other characters replaced, capped, and no dots at its end. -/
def safe_owner (owner : String) : String :=
  let kept (c : Char) : Bool := c.isAlphanum || c == '-' || c == '_' || c == '.'
  let out := (owner.toList.map fun c => if kept c then c else '_').take OWNER_MAX_CHARS
  let out := (out.reverse.dropWhile (· == '.')).reverse
  if out = [] then "node" else String.ofList out

/-- How a platform reads the text of a path. -/
inductive Platform
  | posix
  | windows
deriving DecidableEq

/-- The characters that stand between names. -/
def Platform.separates : Platform → Char → Bool
  | .posix, c => c == '/'
  | .windows, c => c == '/' || c == '\\'

/-- A path resolved to the names below a root: the one root, or that of a drive or of the network shares. Names are compared
    by their characters. -/
@[ext] structure FilePath where
  platform : Platform
  drive : String
  names : List String
deriving DecidableEq

instance : Coe (List String) FilePath := ⟨fun names => ⟨.posix, "", names⟩⟩

namespace FilePath

/-- One step down, or up for two dots. -/
def enter (dir : FilePath) (name : String) : FilePath :=
  if name = "" ∨ name = "." then dir else
  if name = ".." then { dir with names := dir.names.dropLast } else { dir with names := dir.names ++ [name] }

/-- Where a text starts that is joined to a directory, and what of it is walked from there. -/
def start (dir : FilePath) (text : List Char) : FilePath × List Char :=
  match dir.platform, text with
  | .posix, '/' :: rest => ({ dir with names := [] }, rest)
  | .posix, text => (dir, text)
  | .windows, [] => (dir, [])
  | .windows, [c] => (if Platform.windows.separates c then { dir with names := [] } else dir, [c])
  | .windows, c :: d :: rest =>
    -- A drive without a separator behind it stands for the drive's working directory.
    if c.isAlpha && d == ':' then
      ({ dir with drive := String.ofList (if rest.head?.any Platform.windows.separates then [c, d] else [c, d, '.']), names := [] }, rest)
    else if !Platform.windows.separates c then (dir, c :: d :: rest)
    else if Platform.windows.separates d then ({ dir with drive := "\\\\", names := [] }, rest)
    else ({ dir with names := [] }, c :: d :: rest)

end FilePath

/-- A relative path below a directory, or one that starts anew in its stead. -/
def join (dir : FilePath) (path : String) : FilePath :=
  (((dir.start path.toList).2.splitOnP dir.platform.separates).map String.ofList).foldl FilePath.enter (dir.start path.toList).1

/-- The file a temporary segment's own chain lives in. -/
def segment_db_path_in (audit_dir : FilePath) (segment_id : String) : FilePath :=
  join (join audit_dir "audit-segments") (segment_id ++ ".db")

end Riscdom.Audit
