import Mathlib.Data.Finset.Card
import Mathlib.Data.List.Nodup
import Mathlib.Tactic.SplitIfs
import Riscdom.Machine

/-!
Loopback ports that a process reserves. The registry of the reserved numbers is
one set; a lease takes its number on being made and gives it back on being
dropped. Any number of threads lease, hand off and drop, a step at a time.
-/
namespace Riscdom.Sandbox
open Machine

inductive SandboxError
  | Spawn (message : String)
  | Io (message : String)
  | Serial (message : String)
  | Qmp (message : String)
  | Timeout (message : String)
  | Config (message : String)
  | NotRunning
  | AlreadyRunning
  | Snapshot (message : String)
  | Relay (message : String)
  | PortLease (message : String)
  | RelayTimeout (message : String)
  | Unsupported (message : String)
  | QemuNotFound (diagnostics : String)
deriving DecidableEq

/-- How many binds one request makes for a port. -/
def MAX_LEASE_ATTEMPTS : Nat := 64

/-! ### Leases -/

/-- Where a lease is: with the call that made it, with whom it was returned to, or being dropped. -/
inductive Place
  | Call (thread : Nat)
  | Caller
  | Drop (thread : Nat)
deriving DecidableEq

structure PortLease where
  port : UInt16
  /-- Whether the listener is still bound. -/
  listener : Bool
  place : Place
deriving DecidableEq

def PortLease.hand_off (lease : PortLease) : PortLease := { lease with listener := false }
def PortLease.put (place : Place) (lease : PortLease) : PortLease := { lease with place }

/-- A call that leases ports: how many are still to be made, the binds allowed for each, those left for the
    present one, and whether it is the bind of a relay. -/
structure LeaseCall where
  count : Nat
  attempts : Nat
  tries : Nat
  relay : Bool

/-- What a thread is at: nothing, before a bind, with a bound listener, or in the drops of a call that failed or of its
    own. -/
inductive Thread
  | Idle
  | Binding (call : LeaseCall)
  | Bound (call : LeaseCall) (port : UInt16)
  | Dropping

/-- The registry, the leases that exist, the threads, and what their calls answered. -/
structure Ports where
  held : Finset UInt16
  leases : List PortLease
  threads : Nat → Thread
  answers : List (Nat × Except SandboxError (List UInt16))

inductive PortAct
  | Lease (thread count attempts : Nat)
  | BindLocal (thread : Nat)
  | Bind (thread : Nat) (answer : Except String UInt16)
  | Reserve (thread : Nat)
  | HandOff (index : Nat)
  | Drop (thread index : Nat)
  | Unbind (thread : Nat)
  | Release (thread : Nat)

namespace Ports
variable (s : Ports)

def start : Ports := ⟨∅, [], fun _ => .Idle, []⟩

def at_work (thread : Nat) (t : Thread) : Ports := { s with threads := Function.update s.threads thread t }

/-- Leases of one place put into another. -/
def move (source target : Place) : Ports :=
  { s with leases := s.leases.map fun lease => if lease.place = source then lease.put target else lease }

def answer (thread : Nat) (result : Except SandboxError (List UInt16)) : Ports :=
  { s with answers := s.answers ++ [(thread, result)] }

/-- The leases that the call of a thread has made so far. -/
def made (thread : Nat) : List PortLease := s.leases.filter fun lease => lease.place = .Call thread

/-- What a call fails with when the system cannot bind. -/
def unbound (call : LeaseCall) (why : String) : SandboxError := if call.relay then .Relay why else .PortLease why

/-- What a call fails with when its binds are used up: a relay tells how many numbers are reserved, a lease how many it had. -/
def exhausted (thread : Nat) (call : LeaseCall) : SandboxError :=
  .PortLease ("no free loopback port after " ++ toString call.attempts ++ " attempts (" ++
    toString (if call.relay then s.held.card else (s.made thread).length) ++ " already reserved by this process)")

/-- A call that fails drops what it made. -/
def failed (thread : Nat) (error : SandboxError) : Ports :=
  ((s.move (.Call thread) (.Drop thread)).answer thread (.error error)).at_work thread .Dropping

/-- The call at the head of its loops: done, out of binds, or before the next one. -/
def enter (thread : Nat) (call : LeaseCall) : Ports :=
  if call.count = 0 then
    ((s.move (.Call thread) .Caller).answer thread (.ok ((s.made thread).map PortLease.port))).at_work thread .Idle
  else if call.tries = 0 then s.failed thread (s.exhausted thread call)
  else s.at_work thread (.Binding call)

/-- The number recorded as held, in one step with the test whether it is. -/
def reserve (thread : Nat) (call : LeaseCall) (port : UInt16) : Ports :=
  -- A lease of this call has the number: the listener is let go, and so it is when the registry has it.
  if (!call.relay && (s.made thread).any fun lease => lease.port == port) || port ∈ s.held then
    s.enter thread { call with tries := call.tries - 1 }
  else
    let lease : PortLease := ⟨port, true, .Call thread⟩
    ({ s with held := insert port s.held, leases := s.leases ++ [lease] } : Ports).enter thread
      { call with count := call.count - 1, tries := call.attempts }

/-- The first lease that a thread is dropping. -/
def dropping (thread : Nat) : Option PortLease := s.leases.find? fun lease => lease.place = .Drop thread

def step (s : Ports) : PortAct → Ports
  | .Lease thread count attempts =>
    match s.threads thread with
    | .Idle => s.enter thread ⟨count, attempts, attempts, false⟩
    | _ => s
  | .BindLocal thread =>
    match s.threads thread with
    | .Idle => s.enter thread ⟨1, MAX_LEASE_ATTEMPTS, MAX_LEASE_ATTEMPTS, true⟩
    | _ => s
  | .Bind thread answer =>
    match s.threads thread, answer with
    | .Binding call, .ok port => s.at_work thread (.Bound call port)
    | .Binding call, .error why => s.failed thread (unbound call why)
    | _, _ => s
  | .Reserve thread =>
    match s.threads thread with
    | .Bound call port => s.reserve thread call port
    | _ => s
  | .HandOff index =>
    match s.leases[index]? with
    | some lease => if lease.place = .Caller then { s with leases := s.leases.modify index PortLease.hand_off } else s
    | none => s
  | .Drop thread index =>
    match s.threads thread, s.leases[index]? with
    | .Idle, some lease =>
      if lease.place = .Caller then
        ({ s with leases := s.leases.modify index (PortLease.put (.Drop thread)) } : Ports).at_work thread .Dropping
      else s
    | _, _ => s
  | .Unbind thread =>
    let first := s.leases.findIdx fun lease => lease.place = .Drop thread
    { s with leases := s.leases.modify first PortLease.hand_off }
  | .Release thread =>
    match s.threads thread with
    | .Dropping =>
      match s.dropping thread with
      | none => s.at_work thread .Idle
      | some lease =>
        if lease.listener then s
        else { s with
          held := s.held.erase lease.port, leases := s.leases.eraseP fun lease => lease.place = .Drop thread }
    | _ => s

/-! ### The invariant -/

/-- A place is one that the threads know of: a call in progress, its caller, or a drop in progress. -/
def Known (threads : Nat → Thread) : Place → Prop
  | .Caller => True
  | .Call thread => ∃ call, threads thread = .Binding call ∨ ∃ port, threads thread = .Bound call port
  | .Drop thread => threads thread = .Dropping

/-- No two leases have one number, the registry holds their numbers and no others, and every lease is somewhere. -/
structure Sound (s : Ports) : Prop where
  distinct : (s.leases.map PortLease.port).Nodup
  registry : ∀ port, port ∈ s.held ↔ port ∈ s.leases.map PortLease.port
  known : ∀ lease ∈ s.leases, Known s.threads lease.place

/-- A lease that is no business of a thread. -/
def Elsewhere (thread : Nat) (place : Place) : Prop := place ≠ .Call thread ∧ place ≠ .Drop thread

theorem known_update {threads : Nat → Thread} {thread : Nat} {t : Thread} {place : Place} (elsewhere : Elsewhere thread place)
    (known : Known threads place) : Known (Function.update threads thread t) place := by
  cases place with
  | Caller => trivial
  | Call other =>
    have apart : other ≠ thread := fun same => elsewhere.1 (same ▸ rfl)
    simp only [Known, Function.update_of_ne apart] at known ⊢
    exact known
  | Drop other =>
    have apart : other ≠ thread := fun same => elsewhere.2 (same ▸ rfl)
    simp only [Known, Function.update_of_ne apart] at known ⊢
    exact known

variable {s}

/-- The numbers of the leases and the registry, without their places. -/
structure Registered (s : Ports) : Prop where
  distinct : (s.leases.map PortLease.port).Nodup
  registry : ∀ port, port ∈ s.held ↔ port ∈ s.leases.map PortLease.port

theorem Registered.of_same {t : Ports} (registered : s.Registered) (held : t.held = s.held)
    (ports : t.leases.map PortLease.port = s.leases.map PortLease.port) : t.Registered := by
  constructor
  · rw [ports]
    exact registered.distinct
  · intro port
    rw [held, ports]
    exact registered.registry port

theorem moved_ports (leases : List PortLease) (change : PortLease → PortLease) (keeps : ∀ lease, (change lease).port = lease.port) :
    (leases.map change).map PortLease.port = leases.map PortLease.port := by
  rw [List.map_map]
  exact List.map_congr_left fun lease _ => keeps lease

theorem modified_ports (leases : List PortLease) (index : Nat) (change : PortLease → PortLease)
    (keeps : ∀ lease, (change lease).port = lease.port) :
    (leases.modify index change).map PortLease.port = leases.map PortLease.port := by
  induction leases generalizing index with
  | nil => simp
  | cons lease rest ih =>
    cases index with
    | zero => simp [keeps]
    | succ index => simp [ih]

/-- What is in a list of which one entry changed was there, or is that entry. -/
theorem mem_modified {leases : List PortLease} {index : Nat} {change : PortLease → PortLease} {lease : PortLease}
    (inside : lease ∈ leases.modify index change) :
    lease ∈ leases ∨ ∃ old, leases[index]? = some old ∧ lease = change old := by
  induction leases generalizing index with
  | nil => simp at inside
  | cons first rest ih =>
    cases index with
    | zero =>
      rcases List.mem_cons.mp (by simpa using inside) with rfl | later
      · exact .inr ⟨first, rfl, rfl⟩
      · exact .inl (List.mem_cons_of_mem _ later)
    | succ index =>
      rcases List.mem_cons.mp (by simpa using inside) with rfl | later
      · exact .inl List.mem_cons_self
      · rcases ih later with there | ⟨old, found, same⟩
        · exact .inl (List.mem_cons_of_mem _ there)
        · exact .inr ⟨old, by simpa using found, same⟩

/-- The leases of a thread that is in a call are the call's. -/
def Ready (s : Ports) (thread : Nat) : Prop :=
  ∀ lease ∈ s.leases, lease.place = .Call thread ∨ Elsewhere thread lease.place ∧ Known s.threads lease.place

/-- The leases of a call put elsewhere, and the thread with them. -/
theorem moved_sound {thread : Nat} {target : Place} {t : Thread} {after : Ports} (registered : s.Registered) (ready : s.Ready thread)
    (held : after.held = s.held) (threads : after.threads = Function.update s.threads thread t)
    (leases : after.leases = (s.move (.Call thread) target).leases) (fits : Known after.threads target) : after.Sound := by
  have ports : after.leases.map PortLease.port = s.leases.map PortLease.port := by
    rw [leases]
    refine moved_ports _ _ fun lease => ?_
    split_ifs <;> rfl
  have same := registered.of_same held ports
  refine ⟨same.distinct, same.registry, fun lease inside => ?_⟩
  rw [leases] at inside
  obtain ⟨old, there, rfl⟩ := List.mem_map.mp inside
  by_cases own : old.place = .Call thread
  · rw [if_pos own]
    exact fits
  · rw [if_neg own, threads]
    obtain ⟨elsewhere, known⟩ := (ready old there).resolve_left own
    exact known_update elsewhere known

theorem failed_sound {thread : Nat} (registered : s.Registered) (ready : s.Ready thread) (error : SandboxError) :
    (s.failed thread error).Sound := by
  refine @moved_sound s thread (.Drop thread) .Dropping _ registered ready rfl rfl rfl ?_
  exact Function.update_self ..

theorem enter_sound {thread : Nat} (registered : s.Registered) (ready : s.Ready thread) (call : LeaseCall) :
    (s.enter thread call).Sound := by
  unfold enter
  split_ifs with done spent
  · exact @moved_sound s thread .Caller .Idle _ registered ready rfl rfl rfl trivial
  · exact failed_sound registered ready _
  · have same : s.leases.map (fun lease => if lease.place = .Call thread then lease.put (.Call thread) else lease) = s.leases := by
      refine (List.map_congr_left fun lease _ => ?_).trans (List.map_id s.leases)
      split_ifs with own
      · rw [PortLease.put, ← own]
        rfl
      · rfl
    refine @moved_sound s thread (.Call thread) (.Binding call) _ registered ready rfl rfl same.symm ?_
    exact ⟨call, .inl (Function.update_self ..)⟩

/-- An idle thread has no leases of its own. -/
theorem Sound.ready_idle (sound : s.Sound) {thread : Nat} (idle : s.threads thread = .Idle) : s.Ready thread := by
  intro lease inside
  have known := sound.known lease inside
  refine .inr ⟨⟨?_, ?_⟩, known⟩
  · intro same
    rw [same] at known
    obtain ⟨call, binding | ⟨port, bound⟩⟩ := known
    · rw [idle] at binding
      cases binding
    · rw [idle] at bound
      cases bound
  · intro same
    rw [same, Known, idle] at known
    cases known

/-- A thread that is in a call drops nothing. -/
theorem Sound.ready_calling (sound : s.Sound) {thread : Nat} (calling : s.threads thread ≠ .Dropping) : s.Ready thread := by
  intro lease inside
  by_cases own : lease.place = .Call thread
  · exact .inl own
  · refine .inr ⟨⟨own, fun same => calling ?_⟩, sound.known lease inside⟩
    have known := sound.known lease inside
    rw [same] at known
    exact known

theorem Sound.registered (sound : s.Sound) : s.Registered := ⟨sound.distinct, sound.registry⟩

/-! ### One step -/

/-- A number that was free is held by one more lease, and by nothing else. -/
theorem reserve_sound (sound : s.Sound) {thread : Nat} {call : LeaseCall} {port : UInt16}
    (bound : s.threads thread = .Bound call port) : (s.reserve thread call port).Sound := by
  have ready : s.Ready thread := sound.ready_calling fun dropping => by
    rw [bound] at dropping
    cases dropping
  unfold reserve
  split_ifs with taken
  · exact enter_sound sound.registered ready _
  · have free : port ∉ s.held := by
      intro held
      simp [held] at taken
    apply enter_sound
    · constructor
      · rw [List.map_append, List.map_singleton]
        refine List.nodup_append.mpr ⟨sound.distinct, List.nodup_singleton _, ?_⟩
        rintro old inside new last rfl
        obtain rfl := List.mem_singleton.mp last
        exact free ((sound.registry _).mpr inside)
      · intro other
        rw [Finset.mem_insert, List.map_append, List.mem_append, sound.registry, List.map_singleton, List.mem_singleton]
        exact or_comm
    · intro lease inside
      rcases List.mem_append.mp inside with old | last
      · exact ready lease old
      · obtain rfl := List.mem_singleton.mp last
        exact .inl rfl

/-- The end of a drop: the number of the lease goes from the registry, and no other. -/
theorem release_sound (sound : s.Sound) {thread : Nat} {lease : PortLease} (found : s.dropping thread = some lease) :
    Sound { s with
      held := s.held.erase lease.port, leases := s.leases.eraseP fun lease => lease.place = .Drop thread } := by
  unfold dropping at found
  have fits : decide (lease.place = .Drop thread) = true := by simpa using List.find?_some found
  obtain ⟨taken, before, behind, apart, first, split, erased⟩ :=
    List.exists_of_eraseP (p := fun other : PortLease => decide (other.place = Place.Drop thread)) (List.mem_of_find?_eq_some found) fits
  have same : taken = lease := by
    rw [split, List.find?_append, List.find?_eq_none.mpr fun other inside => by simpa using apart other inside,
      Option.none_or, List.find?_cons, first] at found
    exact Option.some.inj found
  subst same
  have distinct := sound.distinct
  rw [split, List.map_append, List.map_cons] at distinct
  obtain ⟨new, rest⟩ := List.nodup_cons.mp (List.nodup_middle.mp distinct)
  rw [erased]
  constructor
  · rw [List.map_append]
    exact rest
  · intro port
    have held := sound.registry port
    rw [split, List.map_append, List.map_cons, List.mem_append, List.mem_cons] at held
    rw [Finset.mem_erase, held, List.map_append, List.mem_append]
    constructor
    · rintro ⟨other, earlier | rfl | later⟩
      · exact .inl earlier
      · exact absurd rfl other
      · exact .inr later
    · intro inside
      refine ⟨?_, ?_⟩
      · rintro rfl
        exact new (List.mem_append.mpr inside)
      · rcases inside with earlier | later
        · exact .inl earlier
        · exact .inr (.inr later)
  · intro other inside
    refine sound.known other ?_
    rw [split]
    rcases List.mem_append.mp inside with earlier | later
    · exact List.mem_append_left _ earlier
    · exact List.mem_append_right _ (List.mem_cons_of_mem _ later)

theorem step_sound (sound : s.Sound) (act : PortAct) : (s.step act).Sound := by
  cases act with
  | Lease thread count attempts =>
    simp only [step]
    split
    · next idle => exact enter_sound sound.registered (sound.ready_idle idle) _
    · exact sound
  | BindLocal thread =>
    simp only [step]
    split
    · next idle => exact enter_sound sound.registered (sound.ready_idle idle) _
    · exact sound
  | Bind thread answer =>
    simp only [step]
    split
    · next call port binding =>
      have known {place : Place} (there : Known s.threads place) :
          Known (Function.update s.threads thread (.Bound call port)) place := by
        by_cases own : place = .Call thread
        · subst own
          exact ⟨call, .inr ⟨port, Function.update_self ..⟩⟩
        · refine known_update ⟨own, ?_⟩ there
          rintro rfl
          rw [Known, binding] at there
          cases there
      exact ⟨sound.distinct, sound.registry, fun lease inside => known (sound.known lease inside)⟩
    · next call why binding =>
      refine failed_sound sound.registered (sound.ready_calling ?_) _
      rw [binding]
      nofun
    · exact sound
  | Reserve thread =>
    simp only [step]
    split
    · next call port bound => exact reserve_sound sound bound
    · exact sound
  | HandOff index =>
    simp only [step]
    split
    · next lease found =>
      split_ifs with own
      · have ports := modified_ports s.leases index PortLease.hand_off fun _ => rfl
        have same := sound.registered.of_same
          (show ({ s with leases := s.leases.modify index PortLease.hand_off } : Ports).held = s.held from rfl) ports
        refine ⟨same.distinct, same.registry, fun other inside => ?_⟩
        rcases mem_modified inside with there | ⟨old, was, rfl⟩
        · exact sound.known other there
        · exact sound.known old (List.mem_of_getElem? was)
      · exact sound
    · exact sound
  | Drop thread index =>
    simp only [step]
    split
    · next lease idle found =>
      split_ifs with own
      · have ports := modified_ports s.leases index (PortLease.put (.Drop thread)) fun _ => rfl
        have same := sound.registered.of_same
          (show ({ s with leases := s.leases.modify index (PortLease.put (.Drop thread)) } : Ports).held = s.held from rfl) ports
        refine ⟨same.distinct, same.registry, fun other inside => ?_⟩
        rcases mem_modified inside with there | ⟨old, was, rfl⟩
        · rcases sound.ready_idle idle other there with calling | ⟨elsewhere, known⟩
          · have known := sound.known other there
            rw [calling, Known] at known
            simp [idle] at known
          · exact known_update elsewhere known
        · exact Function.update_self ..
      · exact sound
    · exact sound
  | Unbind thread =>
    have ports := modified_ports s.leases (s.leases.findIdx fun lease => lease.place = .Drop thread) PortLease.hand_off
      fun _ => rfl
    have same := sound.registered.of_same (show (s.step (.Unbind thread)).held = s.held from rfl) ports
    refine ⟨same.distinct, same.registry, fun other inside => ?_⟩
    rcases mem_modified inside with there | ⟨old, was, rfl⟩
    · exact sound.known other there
    · exact sound.known old (List.mem_of_getElem? was)
  | Release thread =>
    simp only [step]
    split
    · next dropping =>
      split
      · next none_left =>
        refine ⟨sound.distinct, sound.registry, fun lease inside => ?_⟩
        refine known_update ⟨fun same => ?_, fun same => ?_⟩ (sound.known lease inside)
        · have known := sound.known lease inside
          rw [same, Known] at known
          simp [dropping] at known
        · exact List.find?_eq_none.mp none_left lease inside (by simpa using same)
      · next lease found =>
        split_ifs with listening
        · exact sound
        · exact release_sound sound found
    · exact sound

end Ports

/-- However the calls, the hand-offs and the drops of the threads come, and whatever the system answers to a bind: live
    leases have distinct numbers, the registry holds exactly these, and a lease that lives is with a call in progress, with
    whom it was returned to, or in a drop in progress. -/
theorem leases_distinct (acts : List PortAct) :
    let s := run Ports.step Ports.start acts
    (s.leases.map PortLease.port).Nodup ∧ (∀ port, port ∈ s.held ↔ ∃ lease ∈ s.leases, lease.port = port) ∧
      ∀ lease ∈ s.leases, Ports.Known s.threads lease.place := by
  intro s
  have sound : s.Sound := by
    have starts : Ports.start.Sound := ⟨List.nodup_nil, by simp [Ports.start], nofun⟩
    have keeps (s : Ports) (act : PortAct) (sound : s.Sound) : (s.step act).Sound := Ports.step_sound sound act
    exact run_invariant keeps starts acts
  refine ⟨sound.distinct, fun port => ?_, sound.known⟩
  rw [sound.registry, List.mem_map]

end Riscdom.Sandbox
