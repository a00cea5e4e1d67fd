import Riscdom.Machine
import Riscdom.Steering

/-!
Several readers on one session. Each has an inbox of its own, and which of them
gets the next frame is open; what should come of the frames is what a single
inbox for each stream would gather. A sender may break a stream off and send the
segment again: that is another stream.
-/
namespace Riscdom.Core
open Riscdom.Json Riscdom.Audit Riscdom.Net Riscdom.Machine

/-! ### The readers -/

/-- The readers of a session by number, the centre they serve, and what they handed on. -/
structure Readers where
  inboxes : Nat → Inbox
  centre : Centre
  deliveries : List Delivery

/-- A frame of the session read by one of the readers, which may refuse it; or a reader replaced by a new one. A frame of a
    stream is told with the number of the attempt at its segment that it is part of, which no reader sees. -/
inductive ProbeAct
  | read (n : Nat) (arrival : Arrival) (verified : Bool) (attempt : Nat)
  | replace (n : Nat)

/-- What a reader hands on of a frame. -/
def Reader.handed_on (node_id : String) (reader : Reader) (arrival : Arrival) : List Delivery :=
  match is_segment_event arrival.body with
  | some _ => []
  | none =>
    match is_segment_done arrival.body with
    | some done => if done.centre = node_id then [reader.delivery arrival done] else []
    | none => []

def Readers.step (sink : SegmentSink) (node_id : String) (readers : Readers) : ProbeAct → Readers
  | .read n arrival verified _ =>
    if verified then
      let reader : Reader := ⟨readers.inboxes n, readers.centre⟩
      { inboxes := Function.update readers.inboxes n (reader.arrive sink node_id arrival).inbox
        centre := (reader.arrive sink node_id arrival).centre
        deliveries := readers.deliveries ++ reader.handed_on node_id arrival }
    else readers
  | .replace n => { readers with inboxes := Function.update readers.inboxes n fun _ => [] }

def Readers.start (centre : Centre) : Readers := ⟨fun _ _ => [], centre, []⟩

/-! ### The streams -/

/-- A stream: its sender, its segment, and which of the sender's attempts at the segment it is. -/
structure StreamId where
  sender : String
  segment_id : String
  attempt : Nat
deriving DecidableEq

/-- What arrived on a session: the events of each stream that has not ended, by which reader they were read, whether that
    reader was replaced since, and the streams that did end. -/
structure Streams where
  pending : StreamId → List SegmentEvent
  reader : StreamId → Option Nat
  lost : StreamId → Bool
  ended : List Delivery

/-- What a frame of a stream to this node is. -/
inductive StreamFrame
  | Event (event : SegmentEvent)
  | Done (done : SegmentDone)

def StreamFrame.of (node_id : String) (body : Value) : Option StreamFrame :=
  match is_segment_event body with
  | some event => if event.centre = node_id then some (.Event event) else none
  | none => (is_segment_done body).bind fun done => if done.centre = node_id then some (.Done done) else none

def StreamFrame.segment_id : StreamFrame → String
  | .Event event => event.segment_id
  | .Done done => done.segment_id

/-- A stream gathers its own events, whoever reads them, and ends as one delivery of them. -/
def Streams.step (node_id : String) (streams : Streams) : ProbeAct → Streams
  | .read n arrival _ attempt =>
    match StreamFrame.of node_id arrival.body with
    | some (.Event event) =>
      let stream : StreamId := ⟨arrival.sender, event.segment_id, attempt⟩
      { streams with
        pending := Function.update streams.pending stream (streams.pending stream ++ [event])
        reader := Function.update streams.reader stream (some n) }
    | some (.Done done) =>
      let stream : StreamId := ⟨arrival.sender, done.segment_id, attempt⟩
      { streams with
        pending := Function.update streams.pending stream []
        reader := Function.update streams.reader stream none
        ended := streams.ended ++ [{
          sender := arrival.sender
          done
          events := (streams.pending stream).insertionSort fun a b => a.index ≤ b.index
          now := arrival.now }] }
    | none => streams
  | .replace n =>
    { streams with
      reader := fun stream => if streams.reader stream = some n then none else streams.reader stream
      lost := fun stream => streams.lost stream || decide (streams.reader stream = some n) }

def Streams.start : Streams := ⟨fun _ => [], fun _ => none, fun _ => false, []⟩

/-- The readers of a session, and the streams that arrive on it. -/
structure Probed where
  readers : Readers
  streams : Streams

def Probed.step (sink : SegmentSink) (node_id : String) (probed : Probed) (act : ProbeAct) : Probed :=
  ⟨probed.readers.step sink node_id act, probed.streams.step node_id act⟩

def Probed.start (centre : Centre) : Probed := ⟨.start centre, .start⟩

/-- A frame of a stream is accepted, and read by the reader of the stream's frames so far, which was not replaced since, and
    at which no other stream of that segment is under way: none of another sender, and none that its sender broke off. -/
def Undivided (node_id : String) (probed : Probed) : ProbeAct → Prop
  | .read n arrival verified attempt => ∀ frame, StreamFrame.of node_id arrival.body = some frame →
    verified = true ∧ probed.streams.lost ⟨arrival.sender, frame.segment_id, attempt⟩ = false ∧
      (∀ m, probed.streams.reader ⟨arrival.sender, frame.segment_id, attempt⟩ = some m → m = n) ∧
      ∀ stream : StreamId, stream.segment_id = frame.segment_id → stream ≠ ⟨arrival.sender, frame.segment_id, attempt⟩ →
        probed.streams.reader stream ≠ some n
  | .replace _ => True

/-! ### One inbox for each stream -/

/-- Each reader's inbox for a segment holds the one stream of it that is under way there, or nothing. -/
structure Hold (inboxes : Nat → Inbox) (reader : StreamId → Option Nat) (lost : StreamId → Bool)
    (pending : StreamId → List SegmentEvent) : Prop where
  held : ∀ stream n, reader stream = some n → inboxes n stream.segment_id = pending stream
  empty : ∀ segment_id n, (∀ stream : StreamId, stream.segment_id = segment_id → reader stream ≠ some n) →
    inboxes n segment_id = []
  apart : ∀ n one other, one.segment_id = other.segment_id → reader one = some n → reader other = some n → one = other
  unread : ∀ stream, reader stream = none → lost stream = false → pending stream = []

section Hold
variable {inboxes : Nat → Inbox} {reader : StreamId → Option Nat} {lost : StreamId → Bool}
  {pending : StreamId → List SegmentEvent} {stream : StreamId} {n : Nat} (hold : Hold inboxes reader lost pending)
  (kept : lost stream = false) (own : ∀ m, reader stream = some m → m = n)
  (others : ∀ other : StreamId, other.segment_id = stream.segment_id → other ≠ stream → reader other ≠ some n)
include hold own others

include kept in
/-- The reader that gets a frame of a stream holds of its segment what has arrived of the stream. -/
theorem Hold.current : inboxes n stream.segment_id = pending stream := by
  cases under_way : reader stream with
  | some m =>
    cases own m under_way
    exact hold.held _ _ under_way
  | none =>
    rw [hold.unread _ under_way kept]
    refine hold.empty _ n fun other segment here => ?_
    by_cases same : other = stream
    · rw [same, under_way] at here
      cases here
    · exact others other segment same here

/-- That stays so when the stream gets a new content there, or ends. -/
theorem Hold.put (who : Option Nat) (events : List SegmentEvent) (fits : who = some n ∨ who = none ∧ events = []) :
    Hold (Function.update inboxes n (Function.update (inboxes n) stream.segment_id events))
      (Function.update reader stream who) lost (Function.update pending stream events) := by
  have content (m : Nat) (id : String) :
      Function.update inboxes n (Function.update (inboxes n) stream.segment_id events) m id =
        if m = n ∧ id = stream.segment_id then events else inboxes m id := by
    by_cases same : m = n
    · subst same
      simp [Function.update_apply]
    · simp [same]
  have mine (other : StreamId) (segment : other.segment_id = stream.segment_id)
      (here : Function.update reader stream who other = some n) : other = stream ∧ who = some n := by
    rw [Function.update_apply] at here
    split_ifs at here with same
    · exact ⟨same, here⟩
    · exact absurd here (others other segment same)
  refine ⟨fun other m here => ?_, fun id m nobody => ?_, fun m one other segment here there => ?_, fun other unread found => ?_⟩
  · rw [content, Function.update_apply]
    rw [Function.update_apply] at here
    by_cases this : other = stream
    · subst this
      rw [if_pos rfl] at here ⊢
      rcases fits with given | ⟨given, _⟩
      · cases given.symm.trans here
        rw [if_pos ⟨rfl, rfl⟩]
      · cases given.symm.trans here
    · rw [if_neg this] at here ⊢
      have beside : ¬ (m = n ∧ other.segment_id = stream.segment_id) := by
        rintro ⟨rfl, segment⟩
        exact others other segment this here
      rw [if_neg beside]
      exact hold.held other m here
  · rw [content]
    by_cases this : m = n ∧ id = stream.segment_id
    · rw [if_pos this]
      rcases fits with given | ⟨_, nothing⟩
      · refine absurd ?_ (nobody stream this.2.symm)
        rw [Function.update_self, given, this.1]
      · exact nothing
    · rw [if_neg this]
      refine hold.empty id m fun other segment here => ?_
      by_cases same : other = stream
      · subst same
        exact this ⟨own m here, segment.symm⟩
      · refine nobody other segment ?_
        rw [Function.update_of_ne same]
        exact here
  · by_cases this : m = n
    · subst this
      by_cases first : one.segment_id = stream.segment_id
      · exact (mine one first here).1.trans (mine other (segment.symm.trans first) there).1.symm
      · have one_beside : one ≠ stream := fun same => first (congrArg StreamId.segment_id same)
        have other_beside : other ≠ stream := fun same => first (segment.trans (congrArg StreamId.segment_id same))
        rw [Function.update_of_ne one_beside] at here
        rw [Function.update_of_ne other_beside] at there
        exact hold.apart m one other segment here there
    · have elsewhere (found : StreamId) (read : Function.update reader stream who found = some m) : reader found = some m := by
        rw [Function.update_apply] at read
        split_ifs at read with same
        · rcases fits with given | ⟨given, _⟩
          · exact absurd (Option.some.inj (read.symm.trans given)) this
          · cases read.symm.trans given
        · exact read
      exact hold.apart m one other segment (elsewhere one here) (elsewhere other there)
  · rw [Function.update_apply] at unread ⊢
    split_ifs at unread ⊢ with same
    · rcases fits with given | ⟨_, nothing⟩
      · cases given.symm.trans unread
      · exact nothing
    · exact hold.unread other unread found

end Hold

/-- A reader that is replaced holds nothing, and what was under way at it is lost. -/
theorem Hold.replaced {inboxes : Nat → Inbox} {reader : StreamId → Option Nat} {lost : StreamId → Bool}
    {pending : StreamId → List SegmentEvent} (hold : Hold inboxes reader lost pending) (n : Nat) :
    Hold (Function.update inboxes n fun _ => []) (fun stream => if reader stream = some n then none else reader stream)
      (fun stream => lost stream || decide (reader stream = some n)) pending := by
  have still {stream : StreamId} {m : Nat} (here : (if reader stream = some n then none else reader stream) = some m) :
      reader stream = some m ∧ m ≠ n := by
    split_ifs at here with replaced
    exact ⟨here, fun same => replaced (same ▸ here)⟩
  refine ⟨fun stream m here => ?_, fun id m nobody => ?_, fun m one other segment here there => ?_, fun stream unread found => ?_⟩
  · rw [Function.update_of_ne (still here).2]
    exact hold.held stream m (still here).1
  · by_cases same : m = n
    · rw [same, Function.update_self]
    · rw [Function.update_of_ne same]
      refine hold.empty id m fun stream segment here => nobody stream segment ?_
      rw [if_neg fun replaced => same (Option.some.inj (here.symm.trans replaced))]
      exact here
  · exact hold.apart m one other segment (still here).1 (still there).1
  · obtain ⟨kept, elsewhere⟩ := Bool.or_eq_false_iff.mp found
    rw [if_neg (of_decide_eq_false elsewhere)] at unread
    exact hold.unread stream unread kept

/-- What the readers handed on is what the streams came to, and their inboxes hold the streams under way. -/
structure Gathered (probed : Probed) : Prop where
  handed : probed.readers.deliveries = probed.streams.ended
  hold : Hold probed.readers.inboxes probed.streams.reader probed.streams.lost probed.streams.pending

section Gathered
variable (sink : SegmentSink) {node_id : String} {probed : Probed} {n : Nat} {arrival : Arrival}

/-- What a reader does with an event of a stream to its node, with the end of one, and with any other frame. -/
theorem read_event {event : SegmentEvent} (frame : StreamFrame.of node_id arrival.body = some (.Event event)) (reader : Reader) :
    (reader.arrive sink node_id arrival).inbox = reader.inbox.push event ∧ reader.handed_on node_id arrival = [] := by
  rw [StreamFrame.of] at frame
  rw [Reader.arrive, Reader.handed_on]
  cases read : is_segment_event arrival.body with
  | some found =>
    rw [read] at frame
    simp only at frame ⊢
    by_cases addressed : found.centre = node_id
    · rw [if_pos addressed] at frame
      cases frame
      rw [if_pos addressed]
      exact ⟨rfl, trivial⟩
    · rw [if_neg addressed] at frame
      cases frame
  | none =>
    rw [read] at frame
    obtain ⟨done, _, ends⟩ := Option.bind_eq_some_iff.mp frame
    split_ifs at ends
    cases ends

theorem read_done {done : SegmentDone} (frame : StreamFrame.of node_id arrival.body = some (.Done done)) (reader : Reader) :
    (reader.arrive sink node_id arrival).inbox = Function.update reader.inbox done.segment_id [] ∧
      reader.handed_on node_id arrival = [reader.delivery arrival done] := by
  rw [StreamFrame.of] at frame
  rw [Reader.arrive, Reader.handed_on]
  cases read : is_segment_event arrival.body with
  | some found =>
    rw [read] at frame
    simp only at frame
    split_ifs at frame
    cases frame
  | none =>
    rw [read] at frame
    obtain ⟨found, ended, ends⟩ := Option.bind_eq_some_iff.mp frame
    by_cases addressed : found.centre = node_id
    · rw [if_pos addressed] at ends
      cases ends
      simp only [ended, if_pos addressed]
      exact ⟨rfl, trivial⟩
    · rw [if_neg addressed] at ends
      cases ends

theorem read_other (frame : StreamFrame.of node_id arrival.body = none) (reader : Reader) :
    (reader.arrive sink node_id arrival).inbox = reader.inbox ∧ reader.handed_on node_id arrival = [] := by
  rw [StreamFrame.of] at frame
  rw [Reader.arrive, Reader.handed_on]
  cases read : is_segment_event arrival.body with
  | some found =>
    rw [read] at frame
    simp only at frame ⊢
    by_cases addressed : found.centre = node_id
    · rw [if_pos addressed] at frame
      cases frame
    · rw [if_neg addressed]
      exact ⟨rfl, trivial⟩
  | none =>
    rw [read] at frame
    simp only at frame ⊢
    cases ended : is_segment_done arrival.body with
    | none => exact ⟨rfl, rfl⟩
    | some done =>
      by_cases addressed : done.centre = node_id
      · rw [ended, Option.bind_some, if_pos addressed] at frame
        cases frame
      · simp only [if_neg addressed]
        exact ⟨trivial, trivial⟩

/-- Every frame of an undivided stream goes where the stream is gathered. -/
theorem step_gathered (gathered : Gathered probed) {act : ProbeAct} (undivided : Undivided node_id probed act) :
    Gathered (probed.step sink node_id act) := by
  obtain ⟨handed, hold⟩ := gathered
  cases act with
  | read n arrival verified attempt =>
    cases frame : StreamFrame.of node_id arrival.body with
    | none =>
      have streams : probed.streams.step node_id (.read n arrival verified attempt) = probed.streams := by
        rw [Streams.step, frame]
      obtain ⟨kept, nothing⟩ := read_other sink frame ⟨probed.readers.inboxes n, probed.readers.centre⟩
      rw [Probed.step, streams, Readers.step]
      split_ifs
      · simp only [kept, nothing, List.append_nil, Function.update_eq_self]
        exact ⟨handed, hold⟩
      · exact ⟨handed, hold⟩
    | some found =>
      obtain ⟨rfl, kept, own, others⟩ := undivided found frame
      have current := hold.current kept own others
      cases found with
      | Event event =>
        obtain ⟨pushed, nothing⟩ := read_event sink frame ⟨probed.readers.inboxes n, probed.readers.centre⟩
        have put := hold.put own others (some n)
          (probed.streams.pending ⟨arrival.sender, event.segment_id, attempt⟩ ++ [event]) (.inl rfl)
        simp only [Probed.step, Readers.step, Streams.step, frame, if_true, pushed, nothing, List.append_nil]
        refine ⟨handed, ?_⟩
        rw [Inbox.push, show probed.readers.inboxes n event.segment_id = _ from current]
        exact put
      | Done done =>
        obtain ⟨taken, delivered⟩ := read_done sink frame ⟨probed.readers.inboxes n, probed.readers.centre⟩
        simp only [Probed.step, Readers.step, Streams.step, frame, if_true, taken, delivered]
        refine ⟨?_, hold.put own others none [] (.inr ⟨rfl, rfl⟩)⟩
        simp only [handed, Reader.delivery, Inbox.take]
        rw [show probed.readers.inboxes n done.segment_id = _ from current]
        rfl
  | replace n => exact ⟨handed, hold.replaced n⟩

end Gathered

/-- What the readers of a session hand on is each stream that ended on it, whole and unmixed, in every run in which no
    stream is divided between them, or follows at its reader on one that was broken off. -/
theorem streams_handed_on (sink : SegmentSink) (node_id : String) (centre : Centre) (acts : List ProbeAct)
    (undivided : Allowed (Probed.step sink node_id) (Undivided node_id) (.start centre) acts) :
    (run (Probed.step sink node_id) (.start centre) acts).readers.deliveries =
      (run (Probed.step sink node_id) (.start centre) acts).streams.ended := by
  have keeps (probed : Probed) (act : ProbeAct) (gathered : Gathered probed) (allowed : Undivided node_id probed act) :
      Gathered (probed.step sink node_id act) := step_gathered sink gathered allowed
  have start : Gathered (.start centre) := ⟨rfl, nofun, fun _ _ _ => rfl, nofun, fun _ _ _ => rfl⟩
  exact (run_keeps keeps start undivided).handed

/-! ### A stream divided -/

def one_end : SegmentDone := { odd_end "seg-7" with total := 1 }
def event_arrival : Arrival := ⟨"B", segment_event_body (odd_event "seg-7"), 0⟩
def end_arrival : Arrival := ⟨"B", segment_done_body one_end, 0⟩

/-- An event of a stream and the end of it, read by the given readers. -/
def one_event_stream (first last : Nat) : List ProbeAct := [.read first event_arrival true 0, .read last end_arrival true 0]

theorem event_frame : StreamFrame.of "A" event_arrival.body = some (.Event (odd_event "seg-7")) := by
  have read : is_segment_event event_arrival.body = some (odd_event "seg-7") :=
    is_segment_event_body ⟨by decide, by decide, by decide, by decide⟩
  rw [StreamFrame.of, read]
  rfl

theorem end_frame : StreamFrame.of "A" end_arrival.body = some (.Done one_end) := by
  have other : is_segment_event end_arrival.body = none := is_segment_event_done one_end
  have read : is_segment_done end_arrival.body = some one_end := is_segment_done_body (show 1 < 2 ^ 64 by decide)
  rw [StreamFrame.of, other, read]
  rfl

/-- What the stream comes to is one delivery of its event, whoever read the frames. -/
theorem one_event_ended (sink : SegmentSink) (first last : Nat) :
    (run (Probed.step sink "A") (.start new_centre) (one_event_stream first last)).streams.ended =
      [⟨"B", one_end, [odd_event "seg-7"], 0⟩] := by
  simp only [one_event_stream, run_cons, run_nil, Probed.step, Probed.start, Streams.step, Streams.start, event_frame, end_frame]
  simp [odd_event, odd_end, one_end, event_arrival, end_arrival]

theorem one_event_undivided (sink : SegmentSink) :
    Allowed (Probed.step sink "A") (Undivided "A") (.start new_centre) (one_event_stream 0 0) := by
  refine ⟨fun _ _ => ⟨rfl, rfl, nofun, fun _ _ _ => nofun⟩, fun frame read => ⟨rfl, ?_, fun m here => ?_, ?_⟩, trivial⟩
  · simp only [Probed.step, Probed.start, Streams.step, Streams.start, event_frame]
  · cases end_frame.symm.trans read
    simp only [Probed.step, Probed.start, Streams.step, Streams.start, event_frame, StreamFrame.segment_id] at here
    simpa [odd_event, odd_end, one_end, event_arrival, end_arrival] using here.symm
  · cases end_frame.symm.trans read
    intro stream _ other here
    have differs : stream ≠ ⟨event_arrival.sender, (odd_event "seg-7").segment_id, 0⟩ := other
    simp only [Probed.step, Probed.start, Streams.step, Streams.start, event_frame] at here
    rw [Function.update_of_ne differs] at here
    cases here

/-- A stream whose frames one reader gets is handed on whole. -/
theorem one_reader_hands_on :
    (run (Probed.step (new_sink provisional_crates) "A") (.start new_centre) (one_event_stream 0 0)).readers.deliveries =
      [⟨"B", one_end, [odd_event "seg-7"], 0⟩] :=
  (streams_handed_on (new_sink provisional_crates) "A" new_centre (one_event_stream 0 0) (one_event_undivided _)).trans
    (one_event_ended _ 0 0)

/-- The end of a stream that another reader gets than its event is handed on without the event. -/
theorem divided_stream_lost : ¬ ∀ (sink : SegmentSink) (node_id : String) (centre : Centre) (acts : List ProbeAct),
    (run (Probed.step sink node_id) (.start centre) acts).readers.deliveries =
      (run (Probed.step sink node_id) (.start centre) acts).streams.ended := by
  intro law
  have sink := new_sink provisional_crates
  have handed : (run (Probed.step sink "A") (.start new_centre) (one_event_stream 0 1)).readers.deliveries =
      [⟨"B", one_end, [], 0⟩] := by
    simp only [one_event_stream, run_cons, run_nil, Probed.step, Probed.start, Readers.step, Readers.start, if_true,
      (read_event sink event_frame _).2, (read_done sink end_frame _).2, Reader.delivery, Inbox.take]
    rw [Function.update_of_ne (by decide)]
    rfl
  have same := (law sink "A" new_centre (one_event_stream 0 1)).symm.trans handed
  rw [one_event_ended] at same
  cases same

end Riscdom.Core
