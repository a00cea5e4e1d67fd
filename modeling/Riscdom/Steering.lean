import Riscdom.DeliveryRuns
import Riscdom.SegmentStream

/-!
Where a stream's segment id leads. The id becomes a file's name unchecked, so the
file lies in the segments' directory exactly when the id walks back into it.
-/
namespace Riscdom.Core
open Riscdom.Json Riscdom.HashChain Riscdom.Audit Riscdom.Net Riscdom.Machine Fallible.Act

/-! ### The path of an id -/

/-- A text without the separator, put behind another, lengthens the last of its components. -/
theorem splitOnP_append (separates : Char → Bool) (text tail : List Char)
    (whole : ∀ c ∈ tail, separates c = false) :
    ∃ before last, text.splitOnP separates = before ++ [last] ∧
      (text ++ tail).splitOnP separates = before ++ [last ++ tail] := by
  induction text with
  | nil => exact ⟨[], [], by simp, by simp [List.splitOnP_eq_singleton whole]⟩
  | cons c rest ih =>
    obtain ⟨before, last, split, longer⟩ := ih
    rw [List.cons_append, List.splitOnP_cons_eq_if_modifyHead, List.splitOnP_cons_eq_if_modifyHead, split, longer]
    by_cases here : separates c = true
    · rw [if_pos here, if_pos here]
      exact ⟨[] :: before, last, rfl, rfl⟩
    · rw [if_neg here, if_neg here]
      cases before with
      | nil => exact ⟨[], c :: last, rfl, rfl⟩
      | cons first others => exact ⟨(c :: first) :: others, last, rfl, rfl⟩

/-- What is behind a text is walked with it, wherever it starts. -/
theorem start_append (dir : FilePath) (text : List Char) :
    dir.start (text ++ ['.', 'd', 'b']) = ((dir.start text).1, (dir.start text).2 ++ ['.', 'd', 'b']) := by
  obtain ⟨platform, drive, names⟩ := dir
  cases platform with
  | posix =>
    rcases text with _ | ⟨c, rest⟩
    · rfl
    · by_cases slash : c = '/'
      · subst slash
        rfl
      · simp [FilePath.start, slash]
  | windows =>
    have one : ('.' == ':') = false ∧ Platform.windows.separates '.' = false := by decide
    rcases text with _ | ⟨c, _ | ⟨d, rest⟩⟩
    · rfl
    · by_cases separates : Platform.windows.separates c = true
      · simp [FilePath.start, separates, one]
      · simp [FilePath.start, separates, one]
    · have head : (rest ++ ['.', 'd', 'b']).head?.any Platform.windows.separates = rest.head?.any Platform.windows.separates := by
        cases rest <;> rfl
      simp only [List.cons_append, FilePath.start, head]
      split_ifs <;> rfl

/-- A text that is a name goes on from the directory. -/
theorem start_of_name (dir : FilePath) {text : List Char} (name : ∀ c ∈ text, dir.platform.separates c = false ∧ c ≠ ':') :
    dir.start text = (dir, text) := by
  obtain ⟨platform, drive, names⟩ := dir
  cases platform with
  | posix =>
    rcases text with _ | ⟨c, rest⟩
    · rfl
    · have slash : c ≠ '/' := by simpa [Platform.separates] using (name c List.mem_cons_self).1
      simp [FilePath.start, slash]
  | windows =>
    rcases text with _ | ⟨c, _ | ⟨d, rest⟩⟩
    · rfl
    · have first := (name c List.mem_cons_self).1
      simp only at first
      simp [FilePath.start, first]
    · have first := (name c List.mem_cons_self).1
      have drive := (name d (List.mem_cons_of_mem _ List.mem_cons_self)).2
      simp only at first
      simp [FilePath.start, first, drive]

theorem join_name (dir : FilePath) {name : String} (plain : ∀ c ∈ name.toList, dir.platform.separates c = false ∧ c ≠ ':') :
    Audit.join dir name = dir.enter name := by
  rw [Audit.join, start_of_name dir plain, List.splitOnP_eq_singleton fun c inside => (plain c inside).1]
  simp

theorem join_audit_segments (audit_dir : FilePath) :
    Audit.join audit_dir "audit-segments" = { audit_dir with names := audit_dir.names ++ ["audit-segments"] } := by
  have plain : ∀ platform : Platform, ∀ c ∈ "audit-segments".toList, platform.separates c = false ∧ c ≠ ':' := by
    rintro (_ | _) <;> simp [Platform.separates]
  exact join_name audit_dir (plain _)

theorem join_audit_db (audit_dir : FilePath) :
    Audit.join audit_dir "audit.db" = { audit_dir with names := audit_dir.names ++ ["audit.db"] } := by
  have plain : ∀ platform : Platform, ∀ c ∈ "audit.db".toList, platform.separates c = false ∧ c ≠ ':' := by
    rintro (_ | _) <;> simp [Platform.separates]
  exact join_name audit_dir (plain _)

/-- The directory an id leads to: its components but the last, walked down the segments' directory or from where the id
    starts anew. -/
def folder (audit_dir : FilePath) (segment_id : String) : FilePath :=
  let begun := (Audit.join audit_dir "audit-segments").start segment_id.toList
  ((begun.2.splitOnP audit_dir.platform.separates).dropLast.map String.ofList).foldl FilePath.enter begun.1

/-- An id that is a name leads nowhere else. -/
theorem folder_of_name {segment_id : String} {audit_dir : FilePath}
    (name : ∀ c ∈ segment_id.toList, audit_dir.platform.separates c = false ∧ c ≠ ':') :
    folder audit_dir segment_id = Audit.join audit_dir "audit-segments" := by
  have platform : (Audit.join audit_dir "audit-segments").platform = audit_dir.platform := by rw [join_audit_segments]
  rw [folder, start_of_name _ (by rw [platform]; exact name)]
  simp only
  rw [List.splitOnP_eq_singleton fun c inside => (name c inside).1]
  rfl

/-- An id's file lies directly in the directory the id leads to. -/
theorem segment_db_path_folder (audit_dir : FilePath) (segment_id : String) :
    ∃ name, segment_db_path_in audit_dir segment_id =
      { folder audit_dir segment_id with names := (folder audit_dir segment_id).names ++ [name] } := by
  have platform : (Audit.join audit_dir "audit-segments").platform = audit_dir.platform := by rw [join_audit_segments]
  have dot : ∀ c ∈ ['.', 'd', 'b'], audit_dir.platform.separates c = false := by
    cases audit_dir.platform <;> simp [Platform.separates]
  obtain ⟨before, last, split, longer⟩ := splitOnP_append audit_dir.platform.separates
    ((Audit.join audit_dir "audit-segments").start segment_id.toList).2 ['.', 'd', 'b'] dot
  have long (text : String) (short : text.toList.length < 3) : String.ofList (last ++ ['.', 'd', 'b']) ≠ text := by
    rintro rfl
    rw [String.toList_ofList, List.length_append] at short
    exact absurd short (by simp)
  have name (dir : FilePath) : dir.enter (String.ofList (last ++ ['.', 'd', 'b'])) =
      { dir with names := dir.names ++ [String.ofList (last ++ ['.', 'd', 'b'])] } := by
    rw [FilePath.enter, if_neg (not_or.mpr ⟨long "" (by decide), long "." (by decide)⟩), if_neg (long ".." (by decide))]
  have text : (segment_id ++ ".db").toList = segment_id.toList ++ ['.', 'd', 'b'] := by rw [String.toList_append]; rfl
  refine ⟨String.ofList (last ++ ['.', 'd', 'b']), ?_⟩
  rw [segment_db_path_in, Audit.join, text, start_append, platform]
  simp only [longer, folder, split, List.dropLast_concat, List.map_append, List.foldl_append, List.map_singleton, List.foldl_cons,
    List.foldl_nil, name]

/-! ### What a delivery may write -/

/-- A file directly inside the segments' directory. -/
def Inside (audit_dir : FilePath) (file : AuditStore) : Prop :=
  let segments := Audit.join audit_dir "audit-segments"
  ∃ name, file.path = { segments with names := segments.names ++ [name] }

/-- What a merge of a segment appends: the marker, or a row of the segment's own file transcribed. -/
inductive Merges (crates : Crates) (segment_id : String) (kept : List RawRow) : AuditEvent → Prop
  | marker (now merged_at_ms : Int) (count : Nat) :
    Merges crates segment_id kept (.new now "host" ACTION_SEGMENT_MERGED
      (segment_merged_detail segment_id .Temporary merged_at_ms count))
  | transcribed {row : RawRow} {stored : StoredEvent} (inside : row ∈ kept) (read : row.into_stored crates = .ok stored) :
    Merges crates segment_id kept (outgoing stored)

/-- The rows that receiving a delivery may put on the chain: those that tell of it and, where it passes, those of its
    merge. -/
def Receives (sink : SegmentSink) (this_node : String) (d : Delivery) (kept : List RawRow) (event : AuditEvent) : Prop :=
  Told sink d event ∨ Passed sink.crates this_node d ∧ Merges sink.crates d.done.segment_id kept event

/-- A delivery touched no file but the chain's own and one directly inside the segments' directory, which are two, and
    put on the chain what it may. -/
structure Contained (sink : SegmentSink) (this_node : String) (d : Delivery) (v w : World) : Prop where
  apart : segment_file sink.audit_dir d.done.segment_id ≠ sink.store
  elsewhere : ∀ file, file ≠ sink.store → ¬ Inside sink.audit_dir file → w.db file = v.db file
  chain : ∃ rows, w.rows sink.store = v.rows sink.store ++ rows ∧ ∀ row ∈ rows, ∃ event,
    Receives sink this_node d (w.rows (segment_file sink.audit_dir d.done.segment_id)) event ∧ Records sink.crates event row

section Received
variable {sink : SegmentSink} {this_node : String} {d : Delivery}

/-- A merge appends what it may. -/
theorem merge_receives (sink : SegmentSink) (d : Delivery) (w : World) :
    Frame sink.crates (fun event => Told sink d event ∨
      Merges sink.crates d.done.segment_id (w.rows (segment_file sink.audit_dir d.done.segment_id)) event)
      sink.store sink.store w (sink.store.merge_segment sink.crates sink.audit_dir d.done.segment_id w).2 := by
  cases planned : merge_plan sink.crates sink.store sink.audit_dir d.done.segment_id w with
  | error error =>
    obtain ⟨after, run, frame⟩ := merge_refused planned
    rw [run]
    exact frame
  | ok plan =>
    obtain ⟨admitted, decoded, _⟩ := merge_plan_ok sink.crates planned
    obtain ⟨found, kind, _⟩ := mergeable_ok sink.crates admitted
    have id := Riscdom.KeyedTable.Table.key_of_find found
    obtain ⟨segment, events, conflict⟩ := plan
    cases conflict with
    | some conflict =>
      have forked (now forked_at_ms : Int) : Told sink d (.new now "host" ACTION_SEGMENT_FORKED (segment_forked_detail
          segment.segment_id segment.kind forked_at_ms (conflict_reason conflict) (some conflict.id))) := by
        rw [kind, id]
        exact .forked now forked_at_ms conflict
      exact (merge_conflict sink.store planned forked).2.mono fun _ => .inl
    | none =>
      obtain ⟨seen, alike, run⟩ := sink.store.merge_segment_run sink.crates sink.audit_dir d.done.segment_id w
      rw [planned] at run
      rw [run]
      refine .trans (.of_same alike.appends alike.db) (frame_climbed.fold_segment _ _ ?_ ?_ ?_ ?_ seen)
      · intro event inside
        obtain ⟨row, kept, read⟩ := related_left (decoded_iff.mp decoded) inside
        exact append_frame (.inr (.transcribed kept read))
      · exact fun note => execute_frame fun _ => rfl
      · intro now merged_at_ms count
        refine append_frame (.inr ?_)
        rw [kind, id]
        exact .marker now merged_at_ms count
      · exact fun head => execute_frame fun _ => rfl

/-- What receiving a delivery into another file than the chain's own writes. -/
theorem received_receives (c : Centre) (apart : segment_file sink.audit_dir d.done.segment_id ≠ sink.store) :
    EndsIn (sink.received d this_node) c fun _ after =>
      Frame sink.crates (Receives sink this_node d (after.world.rows (segment_file sink.audit_dir d.done.segment_id)))
        sink.store (segment_file sink.audit_dir d.done.segment_id) c.world after.world := by
  have told {kept : List RawRow} {v w : World} (frame : Frame sink.crates (Told sink d) sink.store
      (segment_file sink.audit_dir d.done.segment_id) v w) : Frame sink.crates (Receives sink this_node d kept) sink.store
      (segment_file sink.audit_dir d.done.segment_id) v w := frame.mono fun _ => .inl
  have adopts : Does (Frame sink.crates (Told sink d) sink.store (segment_file sink.audit_dir d.done.segment_id))
      (sink.store.adopt_segment d.done.segment_id d.done.head_prev_chain (stored_length d.done.anchor_length)) :=
    adopt_segment_frame _ _ _
  refine ends_bind _ (ends_of_does (audited_does adopts) c) (fun _ _ frame => told frame) fun _ adopted adopt => ?_
  refine ends_bind _ (ends_of_does (audited_does (rebuild_frame sink d (Told sink d) apart)) adopted)
    (fun _ _ frame => told (adopt.trans frame)) fun rebuild rebuilt rebuilding => ?_
  have before := adopt.trans rebuilding
  cases answer : (verdict sink.crates this_node d.done d.events rebuild).answer with
  | error reason =>
    simp only [answer]
    refine ends_bind _ (ends_of_does (audited_does (record_host_event_frame (Told sink d)
      (segment_file sink.audit_dir d.done.segment_id) fun now => .rejected now _ _ _ _)) rebuilt) ?_ ?_
    · exact fun _ _ frame => told (before.trans frame)
    · exact fun _ _ frame => told (before.trans frame)
  | ok _ =>
    have passed := (verdict_ok_iff.mp answer).1
    simp only [answer]
    refine ends_bind _ (ends_of_does (audited_does (record_host_event_frame (Told sink d)
      (segment_file sink.audit_dir d.done.segment_id) fun now => .verified now _ _ _)) rebuilt) ?_ ?_
    · exact fun _ _ frame => told (before.trans frame)
    · intro _ checked record
      refine ends_mono (fold_ends sink d sink.store checked) fun _ after ends => ?_
      have merge := merge_receives sink d checked.world
      have same : after.world.rows (segment_file sink.audit_dir d.done.segment_id) =
          checked.world.rows (segment_file sink.audit_dir d.done.segment_id) := by
        rw [World.rows, World.rows, ends.1.beside _ apart apart, merge.beside _ apart apart]
      rw [same]
      refine (told (before.trans record)).trans (.trans (merge.mono ?_).widen (told ends.1.widen))
      intro event kinds
      rcases kinds with tells | merges
      · exact .inl tells
      · exact .inr ⟨passed, merges⟩

end Received

/-! ### Every id -/

/-- The id a frame of a stream carries. -/
def stream_id (body : Value) : Option String :=
  match is_segment_event body with
  | some event => some event.segment_id
  | none => (is_segment_done body).map SegmentDone.segment_id

/-- The delivery a reader makes of an end frame. -/
def Reader.delivery (reader : Reader) (arrival : Arrival) (done : SegmentDone) : Delivery :=
  { sender := arrival.sender, done, events := (reader.inbox.take done.segment_id).1, now := arrival.now }

/-- The arrival of a frame leaves the centre as it is, or is the end of a stream, and what is written then is contained. -/
def ArrivalContained (sink : SegmentSink) (node_id : String) (reader : Reader) (arrival : Arrival) : Prop :=
  (reader.arrive sink node_id arrival).centre = reader.centre ∨
    ∃ done, is_segment_done arrival.body = some done ∧
      Contained sink node_id (reader.delivery arrival done) reader.centre.world (reader.arrive sink node_id arrival).centre.world

section Every
variable {sink : SegmentSink} {segment_id : String}

/-- A file directly inside the segments' directory is not the chain's own. -/
theorem inside_apart (beside : sink.store = ⟨Audit.join sink.audit_dir "audit.db"⟩) {file : AuditStore}
    (inside : Inside sink.audit_dir file) : file ≠ sink.store := by
  rintro rfl
  obtain ⟨name, path⟩ := inside
  simp only [beside, join_audit_db, join_audit_segments] at path
  have lengths := congrArg List.length (congrArg FilePath.names path)
  simp only [List.length_append, List.length_singleton] at lengths
  omega

/-- An id leads into the directory exactly when its file lies directly inside. -/
theorem inside_iff {audit_dir : FilePath} : Inside audit_dir (segment_file audit_dir segment_id) ↔
    folder audit_dir segment_id = Audit.join audit_dir "audit-segments" := by
  obtain ⟨name, path⟩ := segment_db_path_folder audit_dir segment_id
  constructor
  · rintro ⟨other, same⟩
    simp only [segment_file, path, FilePath.mk.injEq] at same
    obtain ⟨platform, drive, names⟩ := same
    exact FilePath.ext platform drive (List.append_inj' names rfl).1
  · intro walks
    exact ⟨name, by rw [segment_file, path, walks]⟩

def odd_event (segment_id : String) : SegmentEvent :=
  { segment_id, centre := "A", index := 0, total := 1, ts := 5, actor := "agent", action := "llm.request", agent_id := none,
    detail := json [("n", .integer 1)], hash := none, prev_hash := none }
def odd_end (segment_id : String) : SegmentDone :=
  { segment_id, centre := "A", total := 0, head_prev_chain := none, anchor_length := some 0, anchor_hash := none }

/-- A reader that holds one event of a stream, and the end of the stream, which counts none. -/
def odd_reader (segment_id : String) : Reader := ⟨Function.update (fun _ => []) segment_id [odd_event segment_id], new_centre⟩
def odd_arrival (segment_id : String) : Arrival := ⟨"B", segment_done_body (odd_end segment_id), 0⟩

theorem odd_arrival_read (segment_id : String) :
    is_segment_done (odd_arrival segment_id).body = some (odd_end segment_id) :=
  is_segment_done_body (show 0 < 2 ^ 64 by decide)

theorem odd_delivery (segment_id : String) :
    (odd_reader segment_id).delivery (odd_arrival segment_id) (odd_end segment_id) =
      ⟨"B", odd_end segment_id, [odd_event segment_id], 0⟩ := by
  rw [Reader.delivery, Inbox.take, odd_reader]
  simp only [odd_end, Function.update_self]
  rfl

/-- An event of a stream that is rejected comes into the file that its id names. -/
theorem odd_stream_written (sink : SegmentSink) (segment_id : String) :
    ((odd_reader segment_id).arrive sink "A" (odd_arrival segment_id)).centre.world.rows
      (segment_file sink.audit_dir segment_id) ≠ [] := by
  let d : Delivery := ⟨"B", odd_end segment_id, [odd_event segment_id], 0⟩
  have arrived : ((odd_reader segment_id).arrive sink "A" (odd_arrival segment_id)).centre =
      (sink.received d "A" new_centre).2 := by
    have event : is_segment_event (odd_arrival segment_id).body = none := is_segment_event_done _
    rw [Reader.arrive, event, odd_arrival_read]
    simp only
    rw [if_pos (show (odd_end segment_id).centre = "A" from rfl), ← receive_segment_world]
    exact congrArg (fun d => (sink.receive_segment d "A" new_centre).2) (odd_delivery segment_id)
  obtain ⟨w, adopted, appends, opens, empty⟩ : ∃ w,
      sink.store.adopt_segment segment_id none (some 0) new_centre.world = (.ok (), w) ∧ w.appends = [] ∧ w.opens = [] ∧
        ∀ file, (w.db file).audit_events = EventTable.empty :=
    ⟨_, AuditStore.adopt_segment_absent _ rfl rfl none (some 0), rfl, rfl, fun file => by rw [World.db_put]; split_ifs <;> rfl⟩
  obtain ⟨answer, after, run, intact, _, _, held⟩ := rebuild_completes sink d (w := w) (by rw [appends]; exact unrefused_nil)
    (by rw [opens]; rfl)
  cases intact (by rw [World.rows, empty]; trivial)
  have written : after.rows (segment_file sink.audit_dir segment_id) ≠ [] := by
    have here := (held (segment_file sink.audit_dir segment_id)).trans (if_pos rfl)
    rw [World.rows, here, empty]
    exact List.cons_ne_nil _ _
  have failed : ¬ Passed sink.crates "A" d := by
    rintro ⟨delivered, _⟩
    obtain ⟨counted, _⟩ := delivered (Option.some_ne_none _)
    cases counted
  cases answer : (verdict sink.crates "A" d.done d.events (.ok ())).answer with
  | ok _ => exact absurd (verdict_ok_iff.mp answer).1 failed
  | error reason =>
    obtain ⟨detail, received⟩ := received_rejected sink d adopted run answer
    have records : Does (Frame sink.crates (fun _ => True) sink.store sink.store)
        (sink.record_host_event ACTION_CHAIN_REJECTED detail) := record_host_event_frame _ _ fun _ => trivial
    rw [arrived, received]
    by_cases own : segment_file sink.audit_dir segment_id = sink.store
    · obtain ⟨more, grown, _⟩ := (records after).grows.rows
      rw [own] at written ⊢
      rw [grown]
      exact List.append_ne_nil_of_left_ne_nil written more
    · rw [World.rows, (records after).beside _ own own]
      exact written

theorem odd_stream_id (segment_id : String) : stream_id (odd_arrival segment_id).body = some segment_id := by
  rw [stream_id, odd_arrival_read, odd_arrival, is_segment_event_done]
  rfl

/-- An id whose file lies elsewhere has a stream that is not contained. -/
theorem odd_stream_uncontained (sink : SegmentSink) (outside : ¬ Inside sink.audit_dir (segment_file sink.audit_dir segment_id)) :
    ¬ ArrivalContained sink "A" (odd_reader segment_id) (odd_arrival segment_id) := by
  have written := odd_stream_written sink segment_id
  rintro (still | ⟨done, read, contained⟩)
  · rw [still] at written
    exact absurd rfl written
  · rw [odd_arrival_read] at read
    cases read
    have untouched := contained.elsewhere (segment_file sink.audit_dir segment_id) contained.apart outside
    rw [World.rows, untouched] at written
    exact absurd rfl written

end Every

/-- Receiving any frame of an id's streams is contained exactly when the id walks back into the segments' directory, as the
    platform of the directory reads it. -/
theorem streams_contained_iff (sink : SegmentSink) (beside : sink.store = ⟨Audit.join sink.audit_dir "audit.db"⟩)
    (segment_id : String) :
    (∀ (node_id : String) (reader : Reader) (arrival : Arrival), stream_id arrival.body = some segment_id →
      ArrivalContained sink node_id reader arrival) ↔ folder sink.audit_dir segment_id = Audit.join sink.audit_dir "audit-segments" := by
  rw [← inside_iff]
  constructor
  · intro contained
    by_contra outside
    exact odd_stream_uncontained sink outside (contained "A" _ _ (odd_stream_id segment_id))
  · intro inside node_id reader arrival carried
    have apart := inside_apart beside inside
    rw [ArrivalContained, Reader.arrive]
    cases event : is_segment_event arrival.body with
    | some event =>
      simp only
      split_ifs
      · exact .inl rfl
      · exact .inl rfl
    | none =>
      rw [stream_id, event] at carried
      obtain ⟨done, read, rfl⟩ := Option.map_eq_some_iff.mp carried
      simp only [read]
      by_cases here : done.centre = node_id
      · rw [if_pos here, receive_segment_world]
        refine .inr ⟨done, rfl, apart, fun file elsewhere outside => ?_, ?_⟩
        · exact (received_frame node_id (rebuild_frame sink (reader.delivery arrival done) _ apart) reader.centre).beside file
            elsewhere fun same => outside (same ▸ inside)
        · exact (received_receives (d := reader.delivery arrival done) reader.centre apart).grows.rows
      · rw [if_neg here]
        exact .inl rfl

/-- A name without a separator stays in the segments' directory. -/
theorem streams_contained_of_name :
    ArrivalContained (new_sink provisional_crates) "A" (odd_reader "seg-7") (odd_arrival "seg-7") :=
  (streams_contained_iff (new_sink provisional_crates) rfl "seg-7").mpr (folder_of_name (by simp [new_sink, Platform.separates])) "A" _ _
    (odd_stream_id "seg-7")

/-- An id that names the chain's own file has its stream's events written there. -/
theorem stream_writes_the_chain : ¬ ∀ (sink : SegmentSink), sink.store = ⟨Audit.join sink.audit_dir "audit.db"⟩ →
    ∀ (segment_id node_id : String) (reader : Reader) (arrival : Arrival), stream_id arrival.body = some segment_id →
      ArrivalContained sink node_id reader arrival := by
  intro contained
  have outside : ¬ Inside (new_sink provisional_crates).audit_dir (segment_file (new_sink provisional_crates).audit_dir "../audit") := by
    rw [inside_iff]
    decide
  exact odd_stream_uncontained (new_sink provisional_crates) outside
    (contained (new_sink provisional_crates) rfl "../audit" "A" _ _ (odd_stream_id "../audit"))

end Riscdom.Core
