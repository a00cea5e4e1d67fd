import Riscdom.Segments

/-!
What an operation on segments does to the world, from what each of its statements
does: a preorder on worlds that the statements climb is climbed by the operation,
whether it fails or not.
-/
namespace Riscdom.Audit
open Riscdom.KeyedTable Fallible.Act

/-- A preorder on worlds that a reading of the clock and the opening of a file climb. -/
structure Climbed (Rel : World → World → Prop) : Prop where
  refl : ∀ w, Rel w w
  trans : ∀ {u v w}, Rel u v → Rel v w → Rel u w
  tick : Does Rel now_ms
  opens : ∀ path, Does Rel (AuditStore.open_at path)

namespace Climbed
variable {crates : Crates} {Rel : World → World → Prop} (climbed : Climbed Rel) (on : AuditStore)
include climbed

theorem bind {α β : Type} {x : Act α} {f : α → Act β} (first : Does Rel x) (rest : ∀ a, Does Rel (f a)) :
    Does Rel (x >>= f) :=
  @does_bind _ _ _ _ Rel climbed.trans _ _ first rest

theorem insert_segment {segment : Segment}
    (insert : Does Rel (on.execute fun db => { db with segments := db.segments.replace segment })) :
    Does Rel (on.insert_segment segment) := by
  refine climbed.bind (does_get climbed.refl _) fun found => ?_
  split_ifs
  · exact does_fail climbed.refl _
  · exact insert

theorem open_segment (kind : SegmentKind) (owner : Option String)
    (insert : ∀ segment, Does Rel (on.insert_segment segment))
    (append : ∀ now segment, Does Rel (on.append crates (.new now "host" ACTION_SEGMENT_OPENED (segment_opened_detail segment))))
    (delete : ∀ segment_id, Does Rel (on.execute fun db => { db with segments := db.segments.delete segment_id })) :
    Does Rel (on.open_segment_inner crates kind owner) := by
  refine climbed.bind climbed.tick fun now => ?_
  refine climbed.bind (climbed.bind (does_get climbed.refl _) fun _ => does_ofExcept climbed.refl _)
    fun segment_id => ?_
  refine climbed.bind (does_get climbed.refl _) fun head_prev_chain => ?_
  refine climbed.bind (does_get climbed.refl _) fun head_prev_length => ?_
  refine climbed.bind (insert _) fun _ => ?_
  refine climbed.bind climbed.tick fun stamp => ?_
  refine climbed.bind (does_attempt (append _ _)) fun result => ?_
  cases result with
  | ok stored => exact does_pure climbed.refl _
  | error error => exact climbed.bind (delete _) fun _ => does_fail climbed.refl _

theorem close_segment (segment_id : String)
    (update : ∀ state closed_at_ms, state = .Closed ∨ state = .Open →
      Does Rel (on.set_segment_state segment_id state closed_at_ms))
    (append : ∀ now closed_at_ms,
      Does Rel (on.append crates (.new now "host" ACTION_SEGMENT_CLOSED (segment_closed_detail segment_id closed_at_ms)))) :
    Does Rel (on.close_segment crates segment_id) := by
  refine climbed.bind (does_get climbed.refl _) fun found => ?_
  cases found with
  | none => exact does_fail climbed.refl _
  | some segment =>
    refine climbed.bind climbed.tick fun now => ?_
    refine climbed.bind (update _ _ (.inl rfl)) fun _ => ?_
    refine climbed.bind climbed.tick fun stamp => ?_
    refine climbed.bind (does_attempt (append _ _)) fun result => ?_
    cases result with
    | ok stored => exact does_pure climbed.refl _
    | error error => exact climbed.bind (update _ _ (.inr rfl)) fun _ => does_fail climbed.refl _

theorem adopt_segment (segment_id : String) (head_prev_chain : Option String) (head_prev_length : Option Int)
    (insert : ∀ segment, segment.segment_id = segment_id → Does Rel (on.insert_segment segment)) :
    Does Rel (on.adopt_segment segment_id head_prev_chain head_prev_length) := by
  refine climbed.bind (does_get climbed.refl _) fun found => ?_
  split_ifs
  · exact does_pure climbed.refl _
  · exact insert _ rfl

theorem fork_segment (segment : Segment) (conflict : Conflict)
    (append : ∀ now forked_at_ms, Does Rel (on.append crates (.new now "host" ACTION_SEGMENT_FORKED
      (segment_forked_detail segment.segment_id segment.kind forked_at_ms (conflict_reason conflict) (some conflict.id)))))
    (mark : Does Rel (on.mark_segment_forked segment.segment_id (conflict_reason conflict))) :
    Does Rel (on.fork_segment crates segment conflict) := by
  refine climbed.bind climbed.tick fun now => ?_
  refine climbed.bind climbed.tick fun stamp => ?_
  refine climbed.bind (append _ _) fun _ => ?_
  exact climbed.bind mark fun _ => does_pure climbed.refl _

theorem transcribe (segment_id : String) (total : Nat) {events : List StoredEvent} (merged : Nat)
    (append : ∀ event ∈ events, Does Rel (on.append crates (outgoing event)))
    (set_note : ∀ note, Does Rel (on.set_segment_note segment_id note)) :
    Does Rel (on.transcribe crates segment_id total events merged) := by
  induction events generalizing merged with
  | nil => exact does_pure climbed.refl _
  | cons event rest ih =>
    refine climbed.bind (does_attempt (append event List.mem_cons_self)) fun result => ?_
    cases result with
    | ok stored => exact ih (merged + 1) fun other inside => append other (List.mem_cons_of_mem _ inside)
    | error error =>
      exact climbed.bind (does_attempt (set_note _)) fun _ => does_fail climbed.refl _

theorem fold_segment (segment : Segment) {events : List StoredEvent}
    (append : ∀ event ∈ events, Does Rel (on.append crates (outgoing event)))
    (set_note : ∀ note, Does Rel (on.set_segment_note segment.segment_id note))
    (append_merged : ∀ now merged_at_ms count, Does Rel (on.append crates (.new now "host" ACTION_SEGMENT_MERGED
      (segment_merged_detail segment.segment_id segment.kind merged_at_ms count))))
    (mark : ∀ head, Does Rel (on.mark_segment_folded segment.segment_id head)) :
    Does Rel (on.fold_segment crates segment events) := by
  refine climbed.bind (climbed.transcribe on _ _ _ append set_note) fun count => ?_
  refine climbed.bind climbed.tick fun now => ?_
  refine climbed.bind climbed.tick fun stamp => ?_
  refine climbed.bind (append_merged _ _ _) fun _ => ?_
  refine climbed.bind (does_get climbed.refl _) fun head => ?_
  exact climbed.bind (mark _) fun _ => does_pure climbed.refl _

theorem merge_segment (audit_dir : FilePath) (segment_id : String)
    (append : ∀ event, Does Rel (on.append crates event))
    (update : ∀ segment_id rewrite keeps, Does Rel (on.update_segment segment_id rewrite keeps)) :
    Does Rel (on.merge_segment crates audit_dir segment_id) := by
  refine climbed.bind (does_get climbed.refl _) fun db => ?_
  refine climbed.bind (does_ofExcept climbed.refl _) fun segment => ?_
  refine climbed.bind (climbed.opens _) fun segment_store => ?_
  refine climbed.bind (climbed.bind (does_get climbed.refl _) fun _ => does_ofExcept climbed.refl _)
    fun events => ?_
  refine climbed.bind (does_get climbed.refl _) fun rows => ?_
  refine climbed.bind (does_ofExcept climbed.refl _) fun conflict => ?_
  cases conflict with
  | some conflict => exact climbed.fork_segment on segment conflict (fun _ _ => append _) (update _ _ _)
  | none =>
    exact climbed.fold_segment on segment (fun _ _ => append _) (fun _ => update _ _ _) (fun _ _ _ => append _)
      fun _ => update _ _ _

end Climbed
end Riscdom.Audit
