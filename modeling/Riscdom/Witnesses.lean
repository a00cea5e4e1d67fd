import Riscdom.Online

/-!
The judgement of the witnesses over any history of reports: who has a say is
read off the latest report of each witness, so the verdict is the same however
the reports of different witnesses were interleaved.
-/
namespace Riscdom.Net
open Riscdom.KeyedTable Riscdom.Machine

/-! ### Histories of reports -/

/-- One report, as it comes in. -/
structure Told where
  witness : String
  subject : String
  reachable : Bool
  now : Int64
deriving DecidableEq

namespace WitnessTable

def tell (table : WitnessTable) (told : Told) : WitnessTable :=
  table.record told.subject told.now told.witness told.reachable

/-- The table after a history of reports. -/
def told (history : List Told) : WitnessTable := run tell new history

/-- What a witness told last of a subject. -/
def latest (history : List Told) (subject witness : String) : Option Told :=
  ((history.filter fun told => told.witness = witness).filter fun told => told.subject = subject).getLast?

/-- The witness still has a say: it is online, it is not the subject, and its latest report is fresh. -/
structure Voice (history : List Told) (subject : String) (now : Int64) (witness_online : String → Bool) (witness : String) :
    Prop where
  online : witness_online witness = true
  other : witness ≠ subject
  fresh : ∃ told, latest history subject witness = some told ∧ ¬ now - told.now > REPORT_WINDOW_MS

/-- The last report of a witness was that the subject is unreachable. -/
def Gone (history : List Told) (subject witness : String) : Prop :=
  ∃ told, latest history subject witness = some told ∧ told.reachable = false

variable {history : List Told} {subject witness : String} {now : Int64} {witness_online : String → Bool}

theorem record_find (table : WitnessTable) (about other : String) (moment : Int64) (reachable : Bool) :
    ((table.record about moment other reachable).subjects subject).find witness =
      if subject = about ∧ witness = other then some ⟨other, reachable, moment⟩ else (table.subjects subject).find witness := by
  by_cases here : subject = about
  · subst here
    simp only [record, Function.update_self, Table.find_replace, true_and]
  · simp only [record, Function.update_of_ne here, here, false_and, if_false]

/-- The table holds the latest report of each witness about each subject. -/
theorem told_find (history : List Told) (subject witness : String) :
    ((told history).subjects subject).find witness =
      (latest history subject witness).map fun told => ⟨told.witness, told.reachable, told.now⟩ := by
  induction history using List.reverseRecOn with
  | nil => rfl
  | append_singleton history last ih =>
    have step : told (history ++ [last]) = (told history).tell last := run_append tell new history [last]
    rw [step, tell, record_find, ih, latest, latest, List.filter_append, List.filter_append]
    by_cases own : last.witness = witness
    · by_cases about : last.subject = subject
      · rw [if_pos ⟨about.symm, own.symm⟩]
        simp [own, about]
      · rw [if_neg fun both => about both.1.symm]
        simp [own, about]
    · rw [if_neg fun both => own both.2.symm]
      simp [own]

theorem latest_witness {told : Told} (found : latest history subject witness = some told) : told.witness = witness := by
  have inside := List.mem_of_mem_filter (List.mem_of_getLast? found)
  simpa using (List.mem_filter.mp inside).2

/-! ### The voices -/

theorem voice_iff : Voice history subject now witness_online witness ↔
    ∃ report ∈ (told history).counted subject now witness_online, report.witness = witness := by
  constructor
  · rintro ⟨online, other, last, found, fresh⟩
    have own := latest_witness found
    have held : ((told history).subjects subject).find witness = some ⟨last.witness, last.reachable, last.now⟩ := by
      rw [told_find, found, Option.map_some]
    refine ⟨_, List.mem_filter.mpr ⟨(Table.find_eq_some.mp held).1, ?_⟩, own⟩
    rw [counts, own]
    simpa [other, online] using fresh
  · rintro ⟨report, inside, rfl⟩
    obtain ⟨held, counted⟩ := List.mem_filter.mp inside
    have found := Table.find_eq_some.mpr ⟨held, rfl⟩
    rw [told_find] at found
    obtain ⟨last, found, rfl⟩ := Option.map_eq_some_iff.mp found
    simp only [counts, Bool.and_eq_true, bne_iff_ne, ne_eq, Bool.not_eq_true', decide_eq_false_iff_not] at counted
    exact ⟨counted.2, counted.1.1, last, found, counted.1.2⟩

/-- What a voice said is what its report in the table says. -/
theorem gone_iff {report : WitnessReport} (inside : report ∈ (told history).counted subject now witness_online) :
    Gone history subject report.witness ↔ report.reachable = false := by
  have found := Table.find_eq_some.mpr ⟨(List.mem_filter.mp inside).1, rfl⟩
  rw [told_find] at found
  obtain ⟨last, found, rfl⟩ := Option.map_eq_some_iff.mp found
  constructor
  · rintro ⟨told, last, gone⟩
    cases found.symm.trans last
    exact gone
  · exact fun gone => ⟨_, found, gone⟩

/-! ### The verdict -/

/-- A verdict that all voices share: it names them, each once and in order. -/
structure Unanimous (history : List Told) (subject : String) (now : Int64) (witness_online : String → Bool)
    (verdict : Judgement) : Prop where
  peer : verdict.peer = subject
  sorted : verdict.witnesses.Pairwise (· < ·)
  voices : ∀ witness, witness ∈ verdict.witnesses ↔ Voice history subject now witness_online witness
  reports : verdict.reports = verdict.witnesses.length
  heard : ∃ witness, Voice history subject now witness_online witness
  shared : ∀ witness, Voice history subject now witness_online witness → Gone history subject witness

theorem Unanimous.unique {first second : Judgement} (one : Unanimous history subject now witness_online first)
    (other : Unanimous history subject now witness_online second) : first = second := by
  have witnesses : first.witnesses = second.witnesses :=
    one.sorted.eq_of_mem_iff other.sorted fun witness => (one.voices witness).trans (other.voices witness).symm
  obtain ⟨peer, names, count⟩ := first
  obtain ⟨subject_again, names_again, count_again⟩ := second
  obtain rfl : peer = subject := one.peer
  obtain rfl : subject_again = peer := other.peer
  obtain rfl : names = names_again := witnesses
  obtain rfl : count = names.length := one.reports
  obtain rfl : count_again = names.length := other.reports
  rfl

/-- The names of the reports that count, in order. -/
def names (table : WitnessTable) (subject : String) (now : Int64) (witness_online : String → Bool) : List String :=
  ((table.counted subject now witness_online).map WitnessReport.witness).insertionSort (· ≤ ·)

theorem mem_names : witness ∈ names (told history) subject now witness_online ↔
    Voice history subject now witness_online witness := by
  rw [names, List.mem_insertionSort, List.mem_map, voice_iff]

theorem names_sorted (table : WitnessTable) (subject : String) (now : Int64) (witness_online : String → Bool) :
    (names table subject now witness_online).Pairwise (· < ·) := by
  have distinct : ((table.counted subject now witness_online).map WitnessReport.witness).Nodup :=
    ((List.filter_sublist).map WitnessReport.witness).nodup (table.subjects subject).distinct
  have nodup := (List.perm_insertionSort (· ≤ ·) _).nodup_iff.mpr distinct
  exact ((List.pairwise_insertionSort (· ≤ ·) _).and nodup).imp fun both => lt_of_le_of_ne both.1 both.2

/-- The judgement is the verdict that all voices share, where there is one. -/
theorem judge_eq_some_iff {verdict : Judgement} : (told history).judge subject now witness_online = some verdict ↔
    Unanimous history subject now witness_online verdict := by
  have answer : (told history).judge subject now witness_online =
      if ((told history).counted subject now witness_online).any WitnessReport.reachable ∨
          names (told history) subject now witness_online = [] then none
      else some ⟨subject, names (told history) subject now witness_online,
        (names (told history) subject now witness_online).length⟩ := rfl
  have veto : ((told history).counted subject now witness_online).any WitnessReport.reachable = true ↔
      ∃ witness, Voice history subject now witness_online witness ∧ ¬ Gone history subject witness := by
    rw [List.any_eq_true]
    constructor
    · rintro ⟨report, inside, alive⟩
      refine ⟨report.witness, voice_iff.mpr ⟨report, inside, rfl⟩, ?_⟩
      rw [gone_iff inside, alive]
      exact Bool.noConfusion
    · rintro ⟨witness, voice, alive⟩
      obtain ⟨report, inside, rfl⟩ := voice_iff.mp voice
      rw [gone_iff inside] at alive
      exact ⟨report, inside, by simpa using alive⟩
  have silent : names (told history) subject now witness_online = [] ↔
      ¬ ∃ witness, Voice history subject now witness_online witness := by
    rw [List.eq_nil_iff_forall_not_mem, not_exists]
    exact forall_congr' fun witness => not_congr mem_names
  have shared (quiet : ¬ (((told history).counted subject now witness_online).any WitnessReport.reachable ∨
      names (told history) subject now witness_online = [])) : Unanimous history subject now witness_online
      ⟨subject, names (told history) subject now witness_online, (names (told history) subject now witness_online).length⟩ := by
    rw [not_or, veto, silent, not_not] at quiet
    obtain ⟨vetoed, heard⟩ := quiet
    refine ⟨rfl, names_sorted _ _ _ _, fun witness => mem_names, rfl, heard, fun witness voice => ?_⟩
    by_contra alive
    exact vetoed ⟨witness, voice, alive⟩
  rw [answer]
  constructor
  · intro judged
    split_ifs at judged with quiet
    cases judged
    exact shared quiet
  · intro unanimous
    have quiet : ¬ (((told history).counted subject now witness_online).any WitnessReport.reachable ∨
        names (told history) subject now witness_online = []) := by
      rintro (vetoed | none_heard)
      · obtain ⟨witness, voice, alive⟩ := veto.mp vetoed
        exact alive (unanimous.shared witness voice)
      · exact silent.mp none_heard unanimous.heard
    rw [if_neg quiet, (shared quiet).unique unanimous]

/-- The reports of each witness stand in the same order in both histories. -/
def Reordered (first second : List Told) : Prop :=
  ∀ witness, (first.filter fun told => told.witness = witness) = second.filter fun told => told.witness = witness

theorem unanimous_reordered {first second : List Told} (reordered : Reordered first second) {verdict : Judgement}
    (unanimous : Unanimous first subject now witness_online verdict) : Unanimous second subject now witness_online verdict := by
  have same (witness : String) : latest first subject witness = latest second subject witness := by
    rw [latest, latest, reordered witness]
  have voices (witness : String) : Voice first subject now witness_online witness ↔
      Voice second subject now witness_online witness := by
    constructor
    · rintro ⟨online, other, fresh⟩
      exact ⟨online, other, by rwa [← same]⟩
    · rintro ⟨online, other, fresh⟩
      exact ⟨online, other, by rwa [same]⟩
  have gone (witness : String) : Gone first subject witness ↔ Gone second subject witness := by
    rw [Gone, Gone, same]
  obtain ⟨peer, sorted, names, reports, heard, shared⟩ := unanimous
  simp only [voices, gone] at names heard shared
  exact ⟨peer, sorted, names, reports, heard, shared⟩

/-- For every history of reports, every set of online nodes and every clock: there is a verdict exactly when some witness has a
    say and all who have one last said gone; it names exactly those, in order; and histories in which the reports of
    different witnesses are reordered come to the same. -/
theorem judge_exact (history : List Told) (subject : String) (now : Int64) (witness_online : String → Bool) :
    ((∃ verdict, (told history).judge subject now witness_online = some verdict) ↔
      (∃ witness, Voice history subject now witness_online witness) ∧
        ∀ witness, Voice history subject now witness_online witness → Gone history subject witness) ∧
    (∀ verdict, (told history).judge subject now witness_online = some verdict →
      verdict.peer = subject ∧ verdict.witnesses.Pairwise (· < ·) ∧ verdict.reports = verdict.witnesses.length ∧
        ∀ witness, witness ∈ verdict.witnesses ↔ Voice history subject now witness_online witness) ∧
    ∀ other, Reordered history other →
      (told other).judge subject now witness_online = (told history).judge subject now witness_online := by
  refine ⟨?_, ?_, ?_⟩
  · constructor
    · rintro ⟨verdict, judged⟩
      have unanimous := judge_eq_some_iff.mp judged
      exact ⟨unanimous.heard, unanimous.shared⟩
    · rintro ⟨heard, shared⟩
      refine ⟨⟨subject, names (told history) subject now witness_online,
        (names (told history) subject now witness_online).length⟩, judge_eq_some_iff.mpr ⟨rfl,
          names_sorted _ _ _ _, fun witness => mem_names, rfl, heard, shared⟩⟩
  · intro verdict judged
    have unanimous := judge_eq_some_iff.mp judged
    exact ⟨unanimous.peer, unanimous.sorted, unanimous.reports, unanimous.voices⟩
  · intro other reordered
    have back : Reordered other history := fun witness => (reordered witness).symm
    apply Option.ext
    intro verdict
    rw [judge_eq_some_iff, judge_eq_some_iff]
    exact ⟨unanimous_reordered back, unanimous_reordered reordered⟩

end WitnessTable

/-! ### The reports of a server -/

/-- The reports that a run of the server takes in. -/
def reports (acts : List Roles.Act) : List Told :=
  acts.filterMap fun
    | .answer _ sender (.UnreachableReport node_id) now => some ⟨sender, node_id, false, now⟩
    | .answer _ sender (.ReachableReport node_id) now => some ⟨sender, node_id, true, now⟩
    | _ => none

namespace Roles

theorem judge_witnesses (roles : Roles) (subject : String) (now : Int64) :
    (roles.judge subject now).witnesses = roles.witnesses := by
  rw [judge]
  split
  · rfl
  · split <;> rfl

/-- A step records the report it answers, and no other. -/
theorem step_witnesses (roles : Roles) (act : Act) :
    (roles.step act).witnesses = run WitnessTable.tell roles.witnesses (reports [act]) := by
  cases act with
  | judge subject now => exact judge_witnesses roles subject now
  | answer desk sender action now =>
    cases action with
    | UnreachableReport node_id => exact judge_witnesses _ node_id now
    | ReachableReport node_id =>
      simp only [step, answer_local]
      split <;> rfl
    | Heartbeat =>
      simp only [step, answer_local]
      split
      · split <;> rfl
      · rfl
    | _ => rfl

/-- The witnesses of a server are those of the reports it took in. -/
theorem run_witnesses (roles : Roles) (acts : List Act) :
    (run step roles acts).witnesses = run WitnessTable.tell roles.witnesses (reports acts) := by
  induction acts generalizing roles with
  | nil => rfl
  | cons act acts ih =>
    have split : reports (act :: acts) = reports [act] ++ reports acts := @List.filterMap_append _ _ [act] acts _
    rw [run_cons, ih, step_witnesses, split, run_append]

/-- A server that reads its threshold again marks what all voices among its reports share. -/
theorem judged_unanimous_iff (acts : List Act) (subject : String) (now : Int64) (verdict : Judgement) :
    (run step start acts).witnesses.judge subject now (fun witness => (run step start acts).online.is_online witness now) =
        some verdict ↔
      WitnessTable.Unanimous (reports acts) subject now (fun witness => (run step start acts).online.is_online witness now)
        verdict := by
  rw [run_witnesses]
  exact WitnessTable.judge_eq_some_iff

end Roles
end Riscdom.Net
