import Mathlib.Data.List.Sort
import Riscdom.KeyedTable
import Riscdom.Local

/-!
The witnesses of the server: what each node last told of each other, and the
judgement that a node is gone, which every witness still able to speak must share.
-/
namespace Riscdom.Net
open Riscdom.KeyedTable

def PROBE_MISSES : Nat := 3
def REPORT_WINDOW_MS : Int64 := 3 * 15000

/-! ### Transitions -/

/-- A node judged gone, the witnesses in order, and how many reports that was. -/
structure Judgement where
  peer : String
  witnesses : List String
  reports : Nat
deriving DecidableEq

inductive RecoverMethod
  | Heartbeat
  | Probe
deriving DecidableEq

inductive Transition
  | Judged (judgement : Judgement)
  | Recovered (peer : String) (method : RecoverMethod)
deriving DecidableEq

def Transition.peer : Transition → String
  | .Judged judgement => judgement.peer
  | .Recovered peer _ => peer

/-! ### Reports -/

/-- The latest view of one witness. -/
structure WitnessReport where
  witness : String
  reachable : Bool
  at_ms : Int64
deriving DecidableEq

abbrev Reports : Type := Table WitnessReport.witness

/-- The reports about each subject; a subject nobody has told of has none. -/
structure WitnessTable where
  subjects : String → Reports

namespace WitnessTable

def new : WitnessTable := ⟨fun _ => .empty⟩

variable (table : WitnessTable) (subject : String) (now : Int64) (witness_online : String → Bool)

/-- One report recorded; a later one of the same witness replaces it. -/
def record (witness : String) (reachable : Bool) : WitnessTable :=
  { subjects := Function.update table.subjects subject ((table.subjects subject).replace ⟨witness, reachable, now⟩) }

/-- The report counts: it is not the subject's own, it is fresh, and its witness is reachable right now. -/
def counts (report : WitnessReport) : Bool :=
  report.witness != subject && !decide (now - report.at_ms > REPORT_WINDOW_MS) && witness_online report.witness

def counted : List WitnessReport := (table.subjects subject).rows.filter (counts subject now witness_online)

/-- The judgement of a subject: one report of life that counts vetoes it, and there must be one that counts. -/
def judge : Option Judgement :=
  let reports := table.counted subject now witness_online
  let witnesses := (reports.map WitnessReport.witness).insertionSort (· ≤ ·)
  if reports.any WitnessReport.reachable ∨ witnesses = [] then none
  else some ⟨subject, witnesses, witnesses.length⟩

variable {table subject now witness_online}

end WitnessTable
end Riscdom.Net
