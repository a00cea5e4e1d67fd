import Mathlib.Data.List.Chain
import Riscdom.HandOver

/-!
What the two checks of a stream accept, exactly: the envelope by the address and
the number its end frame gives, the hashes by the order the events stand in.
-/
namespace Riscdom.Net
open Riscdom.Audit Riscdom.Core

section
variable (crates : Crates)

/-- An event carries both hashes, and its own is recomputed from its fields and the other. -/
def SegmentEvent.Recomputes (event : SegmentEvent) : Prop :=
  ∃ prev_hash, event.prev_hash = some prev_hash ∧ event.hash = some (compute_hash crates prev_hash
    { timestamp_ms := event.ts, actor := event.actor, action := event.action, detail := .null, agent_id := none }
    (crates.json.to_string event.detail))

/-- An event names the hash of the one before it. -/
def SegmentEvent.Follows (before event : SegmentEvent) : Prop := event.prev_hash = before.hash

variable {crates} {event before : SegmentEvent}

theorem recomputes_iff (own : event.hash ≠ none) (prev : event.prev_hash ≠ none) :
    event.Recomputes crates ↔ event.own_hash = event.recompute crates := by
  obtain ⟨hash, carries⟩ := Option.ne_none_iff_exists'.mp own
  obtain ⟨prev_hash, names⟩ := Option.ne_none_iff_exists'.mp prev
  simp [SegmentEvent.Recomputes, SegmentEvent.own_hash, SegmentEvent.recompute, SegmentEvent.own_prev_hash, carries, names]

theorem recomputes_carries (recomputes : event.Recomputes crates) : event.hash ≠ none ∧ event.prev_hash ≠ none := by
  obtain ⟨prev_hash, names, carries⟩ := recomputes
  rw [names, carries]
  exact ⟨nofun, nofun⟩

theorem follows_iff (own : before.hash ≠ none) (prev : event.prev_hash ≠ none) :
    before.Follows event ↔ event.own_prev_hash = before.own_hash := by
  obtain ⟨hash, carries⟩ := Option.ne_none_iff_exists'.mp own
  obtain ⟨prev_hash, names⟩ := Option.ne_none_iff_exists'.mp prev
  simp [SegmentEvent.Follows, SegmentEvent.own_hash, SegmentEvent.own_prev_hash, carries, names]

/-- A chain from an event on: every event of it is recomputed, and names the one before it. -/
theorem linked_iff_follows (first : SegmentEvent) (rest : List SegmentEvent)
    (carried : ∀ event ∈ first :: rest, event.hash ≠ none ∧ event.prev_hash ≠ none) :
    HashChain.Linked SegmentEvent.own_prev_hash SegmentEvent.own_hash (SegmentEvent.recompute crates) first.own_hash rest ↔
      (∀ event ∈ rest, event.Recomputes crates) ∧ (first :: rest).IsChain SegmentEvent.Follows := by
  induction rest generalizing first with
  | nil => simp
  | cons event rest ih =>
    have first_carries := carried first List.mem_cons_self
    have event_carries := carried event (List.mem_cons_of_mem _ List.mem_cons_self)
    rw [HashChain.linked_cons, ih event fun other among => carried other (List.mem_cons_of_mem _ among),
      List.isChain_cons_cons, follows_iff first_carries.1 event_carries.2, List.forall_mem_cons,
      recomputes_iff event_carries.1 event_carries.2]
    tauto

/-- The hashes of a stream hold together exactly where there are events, each is recomputed, and each names the one
before it in the list. -/
theorem verify_linkage_iff (events : List SegmentEvent) : verify_linkage crates events = .ok () ↔
    events ≠ [] ∧ (∀ event ∈ events, event.Recomputes crates) ∧ events.IsChain SegmentEvent.Follows := by
  rw [verify_linkage_ok_iff]
  cases events with
  | nil => simp
  | cons first rest =>
    constructor
    · rintro ⟨-, carried, start, names, digested, linked⟩
      obtain ⟨recompute, follows⟩ := (linked_iff_follows first rest carried).mp linked
      have first_carries := carried first List.mem_cons_self
      exact ⟨nofun, List.forall_mem_cons.mpr ⟨(recomputes_iff first_carries.1 first_carries.2).mpr digested, recompute⟩, follows⟩
    · rintro ⟨-, recompute, follows⟩
      have carried : ∀ event ∈ first :: rest, event.hash ≠ none ∧ event.prev_hash ≠ none :=
        fun event inside => recomputes_carries (recompute event inside)
      have first_carries := carried first List.mem_cons_self
      have digested := (recomputes_iff first_carries.1 first_carries.2).mp (recompute first List.mem_cons_self)
      refine ⟨nofun, carried, first.own_prev_hash, rfl, digested, ?_⟩
      exact (linked_iff_follows first rest carried).mpr ⟨fun event inside => recompute event (List.mem_cons_of_mem _ inside), follows⟩

end

/-! ### The order of the indices -/

/-- The events as the receiver hands them to the checks. -/
def in_order (events : List SegmentEvent) : List SegmentEvent := events.insertionSort fun a b => a.index ≤ b.index

theorem in_order_perm (events : List SegmentEvent) : (in_order events).Perm events := List.perm_insertionSort _ _

/-- Events that take every place once stand at their places. -/
theorem in_order_places {events : List SegmentEvent} {total : Nat}
    (places : (events.map SegmentEvent.index).Perm (List.range total)) :
    (in_order events).map SegmentEvent.index = List.range total := by
  have sorted : ((in_order events).map SegmentEvent.index).Pairwise (· ≤ ·) :=
    List.pairwise_map.mpr (List.pairwise_insertionSort (fun a b : SegmentEvent => a.index ≤ b.index) events)
  refine List.Perm.eq_of_pairwise' (r := (· ≤ ·)) sorted ?_ (((in_order_perm events).map _).trans places)
  exact List.pairwise_lt_range.imp fun below => Nat.le_of_lt below

/-- In a list whose places are its indices, neighbours are the events of successive indices. -/
theorem isChain_iff_index {Follows : SegmentEvent → SegmentEvent → Prop} {events : List SegmentEvent} {total : Nat}
    (places : events.map SegmentEvent.index = List.range total) :
    events.IsChain Follows ↔ ∀ before ∈ events, ∀ event ∈ events, event.index = before.index + 1 → Follows before event := by
  have length : events.length = total := by simpa using congrArg List.length places
  have at_place (n : Nat) (inside : n < events.length) : (events[n]).index = n := by
    have looked := congrArg (fun indices => indices[n]?) places
    simpa [inside, length ▸ inside] using looked
  rw [List.isChain_iff_getElem]
  constructor
  · intro chain before among event there next
    obtain ⟨i, i_inside, rfl⟩ := List.getElem_of_mem among
    obtain ⟨j, j_inside, rfl⟩ := List.getElem_of_mem there
    rw [at_place i i_inside, at_place j j_inside] at next
    subst next
    exact chain i j_inside
  · intro all i inside
    refine all _ (List.getElem_mem _) _ (List.getElem_mem _) ?_
    rw [at_place, at_place]

/-- The envelope is checked by its end frame and the indices, the hashes in the order of the list; in the order of the
indices, which the receiver makes, neighbours are the events of successive indices. -/
theorem stream_checks_exact (crates : Crates) (this_node : String) (done : SegmentDone) (events : List SegmentEvent) :
    (verify_delivery this_node done events = .ok () ↔ done.centre = this_node ∧ events.length = done.total ∧
      (events.map SegmentEvent.index).Perm (List.range done.total)) ∧
    (verify_linkage crates events = .ok () ↔
      events ≠ [] ∧ (∀ event ∈ events, event.Recomputes crates) ∧ events.IsChain SegmentEvent.Follows) ∧
    (verify_delivery this_node done events = .ok () → (verify_linkage crates (in_order events) = .ok () ↔
      events ≠ [] ∧ (∀ event ∈ events, event.Recomputes crates) ∧
        ∀ before ∈ events, ∀ event ∈ events, event.index = before.index + 1 → before.Follows event)) := by
  refine ⟨?_, verify_linkage_iff events, fun delivered => ?_⟩
  · rw [verify_delivery_ok_iff]
    constructor
    · rintro ⟨centre, perm⟩
      exact ⟨centre, by simpa using perm.length_eq, perm⟩
    · rintro ⟨centre, -, perm⟩
      exact ⟨centre, perm⟩
  · have places := in_order_places (verify_delivery_ok_iff.mp delivered).2
    have perm := in_order_perm events
    have empty : in_order events ≠ [] ↔ events ≠ [] := by
      rw [ne_eq, ne_eq, ← List.length_eq_zero_iff, perm.length_eq, List.length_eq_zero_iff]
    rw [verify_linkage_iff, isChain_iff_index places, empty]
    simp only [perm.mem_iff]

/-- An event of another segment, on its way to another centre. -/
def astray : SegmentEvent :=
  ⟨"seg-8", "dev-x", 0, 1, 1700000000000, "agent", "tool.call", none, .null, none, none⟩

/-- The envelope says nothing of the addresses of the events, and no events are no chain. -/
theorem astray_delivered :
    (¬ ∀ (this_node : String) (done : SegmentDone) (events : List SegmentEvent), verify_delivery this_node done events = .ok () ↔
      (done.centre = this_node ∧ ∀ event ∈ events, event.centre = this_node ∧ event.segment_id = done.segment_id) ∧
        events.length = done.total ∧ (events.map SegmentEvent.index).Perm (List.range done.total)) ∧
    ¬ ∀ (crates : Crates) (events : List SegmentEvent), verify_linkage crates events = .ok () ↔
      (∀ event ∈ events, event.Recomputes crates) ∧
        ∀ before ∈ events, ∀ event ∈ events, event.index = before.index + 1 → before.Follows event := by
  constructor
  · intro exactly
    have delivered : verify_delivery "dev-a" ⟨"seg-7", "dev-a", 1, none, none, none⟩ [astray] = .ok () := rfl
    have addressed := ((exactly _ _ _).mp delivered).1.2 astray List.mem_cons_self
    exact absurd addressed.1 (by decide)
  · intro exactly
    have linked := (exactly provisional_crates []).mpr ⟨nofun, nofun⟩
    cases linked

end Riscdom.Net
