import Mathlib.Algebra.Group.Int.Defs
import Mathlib.Algebra.GroupWithZero.Nat
import Riscdom.FixedWindow
import Riscdom.HandDowns

/-!
The rates of rooms: each member of a room has a budget of messages in a window
that begins with its first message, and a new one when that window is past.
-/
namespace Riscdom.Net
open FixedWindow

def RateRule.allows (rule : RateRule) (used : UInt32) : Bool := used < rule.messages
def RateRule.window_ms (rule : RateRule) : Int64 := .ofInt (rule.window_seconds.toNat * 1000)

/-- The count of one member in one window, for one room. -/
structure Budget where
  used : UInt32
  window_start_ms : Int64
deriving DecidableEq

structure RateError where
  room : String
  member : String
  messages : UInt32
  window_seconds : UInt32
deriving DecidableEq

def RateError.display (error : RateError) : String :=
  error.member ++ " has sent " ++ toString error.messages ++ " messages in " ++ error.room ++ " within " ++
    toString error.window_seconds ++ "s"

/-- The budgets, by room and member. -/
structure RateCounters where
  budgets : String × String → Option Budget

namespace RateCounters

def new : RateCounters := ⟨fun _ => none⟩

variable (counters : RateCounters)

def used (room member : String) : UInt32 := ((counters.budgets (room, member)).map Budget.used).getD 0

def write (key : String × String) (budget : Budget) : RateCounters := ⟨Function.update counters.budgets key (some budget)⟩

/-- The budget a message falls to: that of its member, or a new one where there is none or its window is past. -/
def budget_at (room member : String) (rule : RateRule) (now_ms : Int64) : Budget :=
  let budget := (counters.budgets (room, member)).getD ⟨0, now_ms⟩
  if now_ms - budget.window_start_ms ≥ rule.window_ms then ⟨0, now_ms⟩ else budget

def admit_message (room member : String) (rule : RateRule) (now_ms : Int64) : Except RateError Unit × RateCounters :=
  let budget := counters.budget_at room member rule now_ms
  -- the budget is there from here on, whatever is answered
  if ¬ rule.allows budget.used then
    (.error ⟨room, member, rule.messages, rule.window_seconds⟩, counters.write (room, member) budget)
  else (.ok (), counters.write (room, member) { budget with used := budget.used + 1 })

end RateCounters

/-- One message, and when it came. -/
structure Message where
  room : String
  member : String
  now_ms : Int64
deriving DecidableEq

def Message.key (message : Message) : String × String := (message.room, message.member)

/-! ### One message -/

/-- The window of a rule that began at one time is past at another. -/
def RateRule.Past (rule : RateRule) (start now : Int64) : Prop := now - start ≥ rule.window_ms

instance (rule : RateRule) : DecidableRel rule.Past := fun start now => by
  unfold RateRule.Past
  infer_instance

def Budget.count (budget : Budget) : Count Int64 := ⟨budget.used.toNat, budget.window_start_ms⟩

section
variable (rule : RateRule) (counters : RateCounters) (room member : String) (now : Int64)

/-- The count of a member in a room. -/
def RateCounters.held (key : String × String) : Option (Count Int64) := (counters.budgets key).map Budget.count

theorem held_write (key other : String × String) (budget : Budget) :
    (counters.write key budget).held other = if other = key then some budget.count else counters.held other := by
  simp only [RateCounters.held, RateCounters.write, Function.update_apply]
  split_ifs <;> rfl

theorem budget_at_count :
    (counters.budget_at room member rule now).count = count_at rule.Past (counters.held (room, member)) now := by
  rw [RateCounters.budget_at, RateCounters.held, count_at]
  cases counters.budgets (room, member) with
  | none =>
    have begins : Begins rule.Past (Option.map Budget.count none) now := fun count absent => (by cases absent)
    rw [if_pos begins]
    simp only [Option.getD_none, ite_self]
    rfl
  | some budget =>
    have begins_iff : Begins rule.Past (some budget.count) now ↔ now - budget.window_start_ms ≥ rule.window_ms := by
      constructor
      · exact fun begins => begins budget.count rfl
      · rintro lapsed _ ⟨⟩
        exact lapsed
    simp only [Option.getD_some, Option.map_some, begins_iff]
    split_ifs <;> rfl

/-- A message is a turn of the counter of its member. -/
theorem admit_turn : (counters.admit_message room member rule now).1.toBool =
      (turn rule.Past rule.messages.toNat (counters.held (room, member)) now).1 ∧
    (counters.admit_message room member rule now).2.held (room, member) =
      some (turn rule.Past rule.messages.toNat (counters.held (room, member)) now).2 := by
  have counted := budget_at_count rule counters room member now
  have used : (count_at rule.Past (counters.held (room, member)) now).used =
      (counters.budget_at room member rule now).used.toNat := by rw [← counted, Budget.count]
  rw [RateCounters.admit_message]
  by_cases room_left : (counters.budget_at room member rule now).used < rule.messages
  · have allowed : rule.allows (counters.budget_at room member rule now).used = true := decide_eq_true room_left
    have more : ((counters.budget_at room member rule now).used + 1).toNat =
        (counters.budget_at room member rule now).used.toNat + 1 := by
      have below := UInt32.lt_iff_toNat_lt.mp room_left
      have most := rule.messages.toNat_lt
      rw [UInt32.toNat_add, UInt32.toNat_one]
      omega
    rw [turn_admitted (by rw [used]; exact UInt32.lt_iff_toNat_lt.mp room_left)]
    simp only [allowed, not_true_eq_false, if_false]
    refine ⟨rfl, ?_⟩
    rw [held_write, if_pos rfl, ← counted]
    simp only [Budget.count, more]
  · have refused : rule.allows (counters.budget_at room member rule now).used = false := decide_eq_false room_left
    rw [turn_refused (by rw [used]; exact fun below => room_left (UInt32.lt_iff_toNat_lt.mpr below))]
    simp only [refused, Bool.false_eq_true, not_false_eq_true, if_true]
    refine ⟨rfl, ?_⟩
    rw [held_write, if_pos rfl, counted]

theorem admit_apart {key : String × String} (apart : key ≠ (room, member)) :
    (counters.admit_message room member rule now).2.budgets key = counters.budgets key := by
  simp only [RateCounters.admit_message]
  split <;> exact Function.update_of_ne apart _ _

end

/-! ### Runs -/

/-- The counters along a run, and how many windows each member has had in each room. -/
structure Watch where
  counters : RateCounters
  opened : String × String → Nat

/-- A message, the number of the window of its member it fell into, and whether it was let through. -/
structure Outcome where
  message : Message
  window : Nat
  admitted : Bool

section
variable (rule : String → RateRule)

namespace Watch

def new : Watch := ⟨.new, fun _ => 0⟩

variable (watch : Watch) (message : Message)

def admit_message : Except RateError Unit × RateCounters :=
  watch.counters.admit_message message.room message.member (rule message.room) message.now_ms

def window : Nat :=
  window_at (rule message.room).Past (watch.counters.held message.key) (watch.opened message.key) message.now_ms

def step : Watch := ⟨(watch.admit_message rule message).2, Function.update watch.opened message.key (watch.window rule message)⟩

def outcome : Outcome := ⟨message, watch.window rule message, (watch.admit_message rule message).1.toBool⟩

end Watch

/-- The messages of a run, each under the rule of its room. -/
def outcomes : Watch → List Message → List Outcome
  | _, [] => []
  | watch, message :: messages => watch.outcome rule message :: outcomes (watch.step rule message) messages

def Outcome.mark (outcome : Outcome) : Mark Int64 := ⟨outcome.message.now_ms, outcome.window, outcome.admitted⟩

/-- The messages of one member in one room, as they are counted in a run. -/
def of_key (key : String × String) (messages : List Message) : List Message := messages.filter fun message => message.key == key

def Outcome.is_of (key : String × String) (outcome : Outcome) : Bool := outcome.message.key == key

variable {rule} {watch : Watch} {message : Message}

theorem step_other {key : String × String} (apart : key ≠ message.key) :
    (watch.step rule message).counters.budgets key = watch.counters.budgets key ∧
      (watch.step rule message).opened key = watch.opened key :=
  ⟨admit_apart _ _ _ _ _ apart, Function.update_of_ne apart _ _⟩

variable (rule) in
/-- The outcomes of a run for one member in one room are those of its counter on its own messages. -/
theorem marks_of_key (watch : Watch) (messages : List Message) (key : String × String) :
    ((outcomes rule watch messages).filter (Outcome.is_of key)).map Outcome.mark =
      marks (rule key.1).Past (rule key.1).messages.toNat (watch.counters.held key) (watch.opened key)
        ((of_key key messages).map Message.now_ms) := by
  induction messages generalizing watch with
  | nil => rfl
  | cons message messages ih =>
    rw [outcomes, of_key]
    by_cases its : message.key = key
    · subst its
      obtain ⟨admitted, held⟩ := admit_turn (rule message.room) watch.counters message.room message.member message.now_ms
      rw [List.filter_cons_of_pos (by simp [Outcome.is_of, Watch.outcome]), List.filter_cons_of_pos (by simp), List.map_cons,
        List.map_cons, marks, ih]
      congr 1
      · exact congrArg _ admitted
      · rw [Watch.step]
        simp only [Function.update_self]
        exact congrArg (fun held => marks _ _ held _ _) held
    · have apart := @step_other rule watch message key (Ne.symm its)
      rw [List.filter_cons_of_neg (by simp [Outcome.is_of, Watch.outcome, its]), List.filter_cons_of_neg (by simp [its]), ih,
        RateCounters.held, apart.1, apart.2]
      rfl

end

/-! ### Windows of milliseconds -/

section
variable (rule : RateRule)

theorem window_ms_toInt : rule.window_ms.toInt = rule.window_seconds.toNat * 1000 := by
  have small := rule.window_seconds.toNat_lt
  have size : Int64.size = 2 ^ 64 := rfl
  rw [RateRule.window_ms, Int64.toInt_ofInt, Int.bmod_def, size]
  omega

variable {rule}

/-- A window is past a window's length after its begin; so far apart that the difference wraps around, it never is. -/
theorem past_iff {start now : Int64} (later : start ≤ now) :
    rule.Past start now ↔ start.toInt + rule.window_ms.toInt ≤ now.toInt ∧ now.toInt < start.toInt + 2 ^ 63 := by
  have length := window_ms_toInt rule
  have small := rule.window_seconds.toNat_lt
  have order := Int64.le_iff_toInt_le.mp later
  have low := start.le_toInt
  have high := now.toInt_lt
  rw [RateRule.Past, ge_iff_le, Int64.le_iff_toInt_le, Int64.toInt_sub, Int.bmod_def]
  omega

theorem spaced (lasting : 0 < rule.window_seconds) : Spaced rule.Past (· ≤ ·)
    fun first last => first.toInt + rule.window_ms.toInt < last.toInt := by
  have length := window_ms_toInt rule
  have positive := UInt32.lt_iff_toNat_lt.mp lasting
  constructor
  · exact Int64.le_refl
  · intro now lapsed
    have passed := ((past_iff (Int64.le_refl now)).mp lapsed).1
    rw [UInt32.toNat_zero] at positive
    omega
  · intro start first second third last begun open_ before passed between again behind
    have following := (past_iff (Int64.le_trans begun before)).mp passed
    have after := (past_iff between).mp again
    have inside := fun both => open_ ((past_iff begun).mpr both)
    have order := Int64.le_iff_toInt_le.mp before
    have end_ := Int64.le_iff_toInt_le.mp behind
    have begin := Int64.le_iff_toInt_le.mp begun
    by_cases within : start.toInt + rule.window_ms.toInt ≤ first.toInt
    · exact absurd ⟨within, by omega⟩ inside
    · omega

end

/-! ### What a room lets through -/

/-- How many messages of a member were let through in a room, of those asked for. -/
def let_through (outcomes : List Outcome) (key : String × String) (asked : Outcome → Bool) : Nat :=
  outcomes.countP fun outcome => outcome.is_of key && (outcome.admitted && asked outcome)

/-- A message came at this time or in the milliseconds after it. -/
def Outcome.within (start length : Int) (outcome : Outcome) : Bool :=
  start ≤ outcome.message.now_ms.toInt && outcome.message.now_ms.toInt < start + length

section
variable (rule : String → RateRule) (messages : List Message)

/-- No window of a member lets more through than its room allows, no interval of a window's length more than twice as
many, its last millisecond included where the window lasts, and what comes of the messages of a member depends on these alone. -/
structure Metered : Prop where
  windows : ∀ key window, let_through (outcomes rule .new messages) key (fun outcome => outcome.window == window) ≤
    (rule key.1).messages.toNat
  intervals : ∀ key start, let_through (outcomes rule .new messages) key (Outcome.within start (rule key.1).window_ms.toInt) ≤
    2 * (rule key.1).messages.toNat
  closed : ∀ key start, 0 < (rule key.1).window_seconds →
    let_through (outcomes rule .new messages) key (Outcome.within start ((rule key.1).window_ms.toInt + 1)) ≤
      2 * (rule key.1).messages.toNat
  others : ∀ key, (outcomes rule .new messages).filter (Outcome.is_of key) = outcomes rule .new (of_key key messages)

/-- The counters a message of the run comes to, where it is refused. -/
def RefusedAt (watch : Watch) (message : Message) : Prop :=
  (∃ before after, messages = before ++ message :: after ∧ watch = Machine.run (Watch.step rule) .new before) ∧
    (watch.admit_message rule message).1.toBool = false

/-- A refused message leaves the counters as they were. -/
def Still : Prop := ∀ watch message, RefusedAt rule messages watch message → (watch.step rule message).counters = watch.counters

/-- A refused message is not counted for anybody. -/
def Uncounted : Prop := ∀ watch message, RefusedAt rule messages watch message →
  ∀ room member, (watch.step rule message).counters.used room member = watch.counters.used room member

end

section
variable {rule : String → RateRule}

/-- What comes of a message, and what is held of its member after it, depends on what was held of its member. -/
theorem step_congr {first second : Watch} {message : Message}
    (budget : first.counters.budgets message.key = second.counters.budgets message.key)
    (opened : first.opened message.key = second.opened message.key) :
    first.outcome rule message = second.outcome rule message ∧
      (first.step rule message).counters.budgets message.key = (second.step rule message).counters.budgets message.key ∧
      (first.step rule message).opened message.key = (second.step rule message).opened message.key := by
  have window : first.window rule message = second.window rule message := by
    rw [Watch.window, Watch.window, RateCounters.held, RateCounters.held, budget, opened]
  have falls : first.counters.budget_at message.room message.member (rule message.room) message.now_ms =
      second.counters.budget_at message.room message.member (rule message.room) message.now_ms := by
    rw [Message.key] at budget
    rw [RateCounters.budget_at, RateCounters.budget_at, budget]
  refine ⟨?_, ?_, ?_⟩
  · rw [Watch.outcome, Watch.outcome, window]
    simp only [Watch.admit_message, RateCounters.admit_message, falls]
    split_ifs <;> rfl
  · simp only [Watch.step, Watch.admit_message, RateCounters.admit_message, falls]
    split_ifs <;> simp [RateCounters.write, Message.key]
  · rw [Watch.step, Watch.step, window]
    simp

theorem outcomes_of_key {first second : Watch} {key : String × String}
    (budget : first.counters.budgets key = second.counters.budgets key) (opened : first.opened key = second.opened key)
    (messages : List Message) :
    (outcomes rule first messages).filter (Outcome.is_of key) = outcomes rule second (of_key key messages) := by
  induction messages generalizing first second with
  | nil => rfl
  | cons message messages ih =>
    rw [outcomes, of_key]
    by_cases its : message.key = key
    · subst its
      obtain ⟨outcome, budget, opened⟩ := step_congr budget opened
      rw [List.filter_cons_of_pos (by simp [Outcome.is_of, Watch.outcome]), List.filter_cons_of_pos (by simp), outcomes, outcome,
        ih budget opened, of_key]
    · have apart := @step_other rule first message key (Ne.symm its)
      rw [List.filter_cons_of_neg (by simp [Outcome.is_of, Watch.outcome, its]), List.filter_cons_of_neg (by simp [its])]
      exact ih (apart.1.trans budget) (apart.2.trans opened)

theorem let_through_marks (messages : List Message) (key : String × String) (asked : Outcome → Bool)
    (chosen : Mark Int64 → Bool) (same : ∀ outcome, asked outcome = chosen outcome.mark) :
    let_through (outcomes rule .new messages) key asked =
      (marks (rule key.1).Past (rule key.1).messages.toNat none 0 ((of_key key messages).map Message.now_ms)).countP
        fun mark => mark.admitted && chosen mark := by
  have counted := marks_of_key rule .new messages key
  change _ = marks _ _ none 0 _ at counted
  rw [← counted, List.countP_map, List.countP_filter, let_through]
  refine List.countP_congr fun outcome _ => ?_
  simp only [same, Function.comp_apply, Bool.and_comm (outcome.is_of key)]
  rfl

theorem let_through_mono {outcomes : List Outcome} {key : String × String} {asked more : Outcome → Bool}
    (within : ∀ outcome, asked outcome = true → more outcome = true) :
    let_through outcomes key asked ≤ let_through outcomes key more := by
  refine List.countP_mono_left fun outcome _ counted => ?_
  simp only [Bool.and_eq_true] at counted ⊢
  exact ⟨counted.1, counted.2.1, within outcome counted.2.2⟩

theorem let_through_closed {messages : List Message} (ordered : messages.Pairwise fun first last => first.now_ms ≤ last.now_ms)
    (key : String × String) (start : Int) (lasting : 0 < (rule key.1).window_seconds) :
    let_through (outcomes rule .new messages) key (Outcome.within start ((rule key.1).window_ms.toInt + 1)) ≤
      2 * (rule key.1).messages.toNat := by
  have own : ((of_key key messages).map Message.now_ms).Pairwise (· ≤ ·) :=
    List.pairwise_map.mpr (ordered.sublist List.filter_sublist)
  have marked : let_through (outcomes rule .new messages) key (Outcome.within start ((rule key.1).window_ms.toInt + 1)) = _ :=
    let_through_marks messages key _ (fun mark => decide (start ≤ mark.now.toInt) &&
      decide (mark.now.toInt < start + ((rule key.1).window_ms.toInt + 1))) fun outcome => rfl
  rw [marked]
  refine admitted_in_interval (spaced lasting) own none (fun count none => by cases none) 0
    (fun now => decide (start ≤ now.toInt) && decide (now.toInt < start + ((rule key.1).window_ms.toInt + 1))) ?_
  intro first last from_start until_end far
  simp only [Bool.and_eq_true, decide_eq_true_eq] at from_start until_end
  omega

theorem metered {messages : List Message} (ordered : messages.Pairwise fun first last => first.now_ms ≤ last.now_ms) :
    Metered rule messages := by
  constructor
  · intro key window
    have marked : let_through (outcomes rule .new messages) key (fun outcome => outcome.window == window) = _ :=
      let_through_marks messages key _ (fun mark => mark.window == window) fun outcome => rfl
    rw [marked]
    exact Nat.le_trans (admitted_in_window none 0 _ window) (rest_of_le none 0 window)
  · intro key start
    by_cases lasting : 0 < (rule key.1).window_seconds
    · refine Nat.le_trans (let_through_mono fun outcome inside => ?_) (let_through_closed ordered key start lasting)
      simp only [Outcome.within, Bool.and_eq_true, decide_eq_true_eq] at inside ⊢
      omega
    · have length := window_ms_toInt (rule key.1)
      have none : (rule key.1).window_seconds.toNat = 0 := by
        rw [UInt32.lt_iff_toNat_lt, UInt32.toNat_zero] at lasting
        omega
      have nobody : let_through (outcomes rule .new messages) key (Outcome.within start (rule key.1).window_ms.toInt) = 0 := by
        rw [let_through, List.countP_eq_zero]
        intro outcome _ counted
        simp only [Outcome.within, Bool.and_eq_true, decide_eq_true_eq] at counted
        omega
      omega
  · exact fun key start lasting => let_through_closed ordered key start lasting
  · exact fun key => outcomes_of_key rfl rfl messages

/-! ### A message that is refused -/

/-- Where a room allows any message, what a refused one falls to is the budget that is held. -/
theorem budget_of_refused {counters : RateCounters} {room member : String} {rate : RateRule} {now : Int64}
    (some_room : 0 < rate.messages) (refused : (counters.admit_message room member rate now).1.toBool = false) :
    (counters.admit_message room member rate now).2 = counters := by
  rw [RateCounters.admit_message] at refused ⊢
  by_cases allowed : rate.allows (counters.budget_at room member rate now).used = true
  · simp [allowed, Except.toBool] at refused
  · simp only [allowed, Bool.false_eq_true, not_false_eq_true, if_true]
    have fresh : counters.budget_at room member rate now ≠ ⟨0, now⟩ := by
      intro new
      rw [new] at allowed
      exact allowed (decide_eq_true some_room)
    have held : counters.budgets (room, member) = some (counters.budget_at room member rate now) := by
      rw [RateCounters.budget_at] at fresh ⊢
      cases found : counters.budgets (room, member) with
      | none => simp [found] at fresh
      | some budget =>
        simp only [found, Option.getD_some] at fresh ⊢
        split_ifs at fresh ⊢ with lapsed
        · exact absurd rfl fresh
        · rfl
    rw [RateCounters.write, ← held, Function.update_eq_self]

/-- No budget is used beyond what its room allows. -/
def Within (rule : String → RateRule) (watch : Watch) : Prop :=
  ∀ key budget, watch.counters.budgets key = some budget → budget.used ≤ (rule key.1).messages

theorem step_within (watch : Watch) (message : Message) (within : Within rule watch) : Within rule (watch.step rule message) := by
  intro key budget found
  by_cases its : key = message.key
  · subst its
    have base : (watch.counters.budget_at message.room message.member (rule message.room) message.now_ms).used ≤
        (rule message.room).messages := by
      rw [RateCounters.budget_at]
      split_ifs
      · exact UInt32.zero_le
      · cases held : watch.counters.budgets (message.room, message.member) with
        | none => exact UInt32.zero_le
        | some budget => exact within message.key budget held
    simp only [Watch.step, Watch.admit_message, RateCounters.admit_message] at found
    by_cases allowed : (rule message.room).allows
        (watch.counters.budget_at message.room message.member (rule message.room) message.now_ms).used = true
    · simp only [allowed, not_true_eq_false, if_false, RateCounters.write, Message.key, Function.update_self] at found
      obtain rfl := Option.some.inj found
      have below := UInt32.lt_iff_toNat_lt.mp (of_decide_eq_true allowed)
      have most := (rule message.room).messages.toNat_lt
      rw [UInt32.le_iff_toNat_le, UInt32.toNat_add, UInt32.toNat_one]
      change _ ≤ (rule message.room).messages.toNat
      omega
    · simp only [allowed, Bool.false_eq_true, not_false_eq_true, if_true, RateCounters.write, Message.key,
        Function.update_self] at found
      obtain rfl := Option.some.inj found
      exact base
  · rw [(step_other its).1] at found
    exact within key budget found

theorem run_within (messages : List Message) : Within rule (Machine.run (Watch.step rule) .new messages) := by
  have keeps (watch : Watch) (message : Message) : Within rule watch → Within rule (watch.step rule message) :=
    step_within watch message
  exact Machine.run_invariant keeps (fun _ _ none => by cases none) messages

theorem used_of_none {watch : Watch} (within : Within rule watch) {room : String} (nothing : (rule room).messages = 0)
    (member : String) : watch.counters.used room member = 0 := by
  rw [RateCounters.used]
  cases held : watch.counters.budgets (room, member) with
  | none => rfl
  | some budget =>
    have most := within (room, member) budget held
    rw [nothing] at most
    exact UInt32.le_zero_iff.mp most

theorem uncounted (messages : List Message) : Uncounted rule messages := by
  rintro watch message ⟨⟨before, after, -, rfl⟩, refused⟩ room member
  by_cases some_room : 0 < (rule message.room).messages
  · have same := budget_of_refused some_room refused
    rw [Watch.step, Watch.admit_message, same]
  · have nothing : (rule message.room).messages = 0 := by simpa using some_room
    have within : Within rule (Machine.run (Watch.step rule) .new before) := run_within before
    by_cases its : (room, member) = message.key
    · obtain rfl : room = message.room := congrArg Prod.fst its
      rw [used_of_none (step_within _ _ within) nothing, used_of_none within nothing]
    · rw [RateCounters.used, (step_other its).1, RateCounters.used]

/-- The budgets bound what is let through, of each member for itself; a refused message is not counted, and leaves the
counters as they were where its room allows any message. -/
theorem rates_exact (rule : String → RateRule) (messages : List Message)
    (ordered : messages.Pairwise fun first last => first.now_ms ≤ last.now_ms) :
    Metered rule messages ∧ Uncounted rule messages ∧ ∀ watch message, RefusedAt rule messages watch message →
      0 < (rule message.room).messages → (watch.step rule message).counters = watch.counters :=
  ⟨metered ordered, uncounted messages, fun _ _ refused some_room => budget_of_refused some_room refused.2⟩

/-- Three messages in one minute, where two are allowed. -/
def three_messages : List Message :=
  [⟨"lab", "dev-a", 1700000000000⟩, ⟨"lab", "dev-a", 1700000000000⟩, ⟨"lab", "dev-a", 1700000000002⟩]

theorem third_message_refused :
    Metered (fun _ => ⟨2, 60⟩) three_messages ∧ Uncounted (fun _ => ⟨2, 60⟩) three_messages ∧
      ∀ watch message, RefusedAt (fun _ => ⟨2, 60⟩) three_messages watch message →
        (0 : UInt32) < 2 → (watch.step (fun _ => ⟨2, 60⟩) message).counters = watch.counters :=
  rates_exact (fun _ => ⟨2, 60⟩) three_messages (by decide)

/-- A room that allows no message refuses one, and holds a budget for its sender from then on. -/
theorem refused_is_tracked : ¬ ∀ (rule : String → RateRule) (messages : List Message),
    (messages.Pairwise fun first last => first.now_ms ≤ last.now_ms) → Metered rule messages ∧ Still rule messages := by
  intro law
  have still := (law (fun _ => ⟨0, 60⟩) [⟨"lab", "dev-a", 1700000000000⟩] (List.pairwise_singleton _ _)).2
  have same := still .new ⟨"lab", "dev-a", 1700000000000⟩ ⟨⟨[], [], rfl, rfl⟩, rfl⟩
  have tracked := congrFun (congrArg RateCounters.budgets same) ("lab", "dev-a")
  cases tracked

end

end Riscdom.Net
