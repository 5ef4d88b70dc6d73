import Mathlib.Data.List.Induction
import VectorReplay.Proofs.Lifetime

/-!
The child of a node over any history. All handles share its slot, so the first stop kills and reaps the
child, whichever handle it comes through, and every later one finds the slot empty.
-/
namespace VectorReplay.NodeProcess

/-! ### Histories -/

/-- What happens to a child after its start. -/
inductive Event
  | stop (handle : Nat)
  | terminate
  /-- The guard of the process goes out of scope. -/
  | drop
  | newHandle
  | ensureRunning
  /-- The child exits on its own. -/
  | exit (status : Int)
deriving DecidableEq

namespace Event

def isStopping : Event → Bool
  | .stop _ | .terminate | .drop => true
  | _ => false

/-- After such an event the child does not run. -/
def isEnding : Event → Bool
  | .exit _ => true
  | e => e.isStopping

end Event

def step (p : NodeProcess) : Event → NodeProcess
  | .stop _ => p.stop.2
  | .terminate | .drop => p.terminate
  | .newHandle => p.newHandle
  | .ensureRunning => p
  | .exit status => p.exit status

/-- The process after these events, in their order. -/
def after (p : NodeProcess) (events : List Event) : NodeProcess :=
  events.foldl step p

variable {p : NodeProcess} {e : Event}

@[simp] theorem after_nil (p : NodeProcess) : p.after [] = p := rfl

@[simp] theorem after_concat (p : NodeProcess) (events : List Event) (e : Event) :
    p.after (events ++ [e]) = (p.after events).step e := by
  simp [after]

theorem step_of_isStopping (h : e.isStopping = true) : p.step e = p.stop.2 := by
  cases e with
  | stop | terminate | drop => rfl
  | newHandle | ensureRunning | exit => cases h

/-- An event that does not stop the child kills nobody and leaves the slot as full as it was. -/
theorem step_of_not_isStopping (h : e.isStopping = false) :
    (p.step e).kills = p.kills ∧ (p.step e).slot.isSome = p.slot.isSome := by
  cases e with
  | stop | terminate | drop => cases h
  | newHandle | ensureRunning => exact ⟨rfl, rfl⟩
  | exit status =>
    simp only [step, exit]
    split
    next hslot => exact ⟨rfl, by rw [hslot]; rfl⟩
    next => exact ⟨rfl, rfl⟩

/-- Nothing but the end of a child changes whether it runs. -/
theorem slot_step_eq_running : (p.step e).slot = some .running ↔
    p.slot = some .running ∧ e.isEnding = false := by
  cases e with
  | stop | terminate | drop => simp [step, NodeProcess.terminate, Event.isEnding, Event.isStopping]
  | newHandle | ensureRunning => simp [step, NodeProcess.newHandle, Event.isEnding, Event.isStopping]
  | exit status =>
    simp only [step, exit, Event.isEnding]
    split <;> simp_all

theorem ensureRunning_eq_ok : p.ensureRunning = .ok () ↔ p.slot = some .running := by
  refine ⟨slot_of_ensureRunning, fun h => ?_⟩
  rw [NodeProcess.ensureRunning, h]

/-! ### Stopped once -/

/-- How a process stands after events that follow its start. -/
structure Stands (p : NodeProcess) (events : List Event) : Prop where
  slot : (p.after events).slot.isSome = !events.any Event.isStopping
  kills : (p.after events).kills = if events.any Event.isStopping then 1 else 0
  running : (p.after events).slot = some .running ↔
    p.slot = some .running ∧ events.any Event.isEnding = false

theorem Kept.stands_nil (h : p.Kept) : p.Stands [] :=
  ⟨h.1, h.2, by simp⟩

theorem Stands.concat {events : List Event} (h : p.Stands events) (e : Event) :
    p.Stands (events ++ [e]) := by
  have hrunning : (p.after (events ++ [e])).slot = some .running ↔
      p.slot = some .running ∧ (events ++ [e]).any Event.isEnding = false := by
    rw [after_concat, slot_step_eq_running, h.running]
    simp [and_assoc]
  cases he : e.isStopping with
  | false =>
    obtain ⟨hkills, hslot⟩ := step_of_not_isStopping (p := p.after events) he
    refine ⟨?_, ?_, hrunning⟩
    · simpa [he, hslot] using h.slot
    · simpa [he, hkills] using h.kills
  | true =>
    refine ⟨?_, ?_, hrunning⟩
    · simp [step_of_isStopping he, he]
    · -- the child is killed by this event or was killed by an earlier one
      rw [after_concat, step_of_isStopping he]
      cases hslot : (p.after events).slot with
      | none =>
        have hstopped : events.any Event.isStopping = true := by simpa [hslot] using h.slot
        simp [stop_of_slot_none hslot, h.kills, hstopped]
      | some child =>
        have hstopped : events.any Event.isStopping = false := by simpa [hslot] using h.slot
        simp [stop_of_slot_some hslot, h.kills, hstopped, he]

theorem Kept.stands (h : p.Kept) (events : List Event) : p.Stands events := by
  -- the last event is the one that happens to the process after the others
  induction events using List.reverseRecOn with
  | nil => exact h.stands_nil
  | append_singleton events e ih => exact ih.concat e

/-- Over every history, the first event that stops the child kills and reaps it, and no other event does;
a stop tells whether it was the first. The child is found running until it ends, and never again once it
was found otherwise. -/
structure StopsOnce (p : NodeProcess) : Prop where
  first : ∀ before e, e.isStopping = true → before.any Event.isStopping = false →
    ((p.after before).step e).kills = (p.after before).kills + 1 ∧
      ((p.after before).step e).slot = none
  later : ∀ before e, e.isStopping = true → before.any Event.isStopping = true →
    (p.after before).step e = p.after before
  others : ∀ before e, e.isStopping = false →
    ((p.after before).step e).kills = (p.after before).kills
  kills : ∀ events, (p.after events).kills = if events.any Event.isStopping then 1 else 0
  answer : ∀ before, (p.after before).stop.1 = !before.any Event.isStopping
  running : ∀ events, (p.after events).ensureRunning = .ok () ↔
    p.slot = some .running ∧ events.any Event.isEnding = false
  failed : ∀ before since, (p.after before).ensureRunning ≠ .ok () →
    (p.after (before ++ since)).ensureRunning ≠ .ok ()

theorem stopsOnce_of_start {programs : Programs} {l : Launch} {arguments : List String}
    (started : start programs l arguments = .ok p) : p.StopsOnce := by
  have h := (kept_of_start started).stands
  refine ⟨?first, ?later, ?others, fun events => (h events).kills, ?answer, ?running, ?failed⟩
  case first =>
    intro before e he hbefore
    have hslot : (p.after before).slot.isSome = true := by rw [(h before).slot, hbefore]; rfl
    obtain ⟨child, hchild⟩ := Option.isSome_iff_exists.mp hslot
    rw [step_of_isStopping he, stop_of_slot_some hchild]
    exact ⟨rfl, rfl⟩
  case later =>
    intro before e he hbefore
    have hslot : (p.after before).slot.isSome = false := by rw [(h before).slot, hbefore]; rfl
    rw [step_of_isStopping he, stop_of_slot_none (Option.not_isSome_iff_eq_none.mp (by simp [hslot]))]
  case others =>
    intro before e he
    exact (step_of_not_isStopping he).1
  case answer =>
    intro before
    rw [← (h before).slot, NodeProcess.stop]
    cases (p.after before).slot <;> rfl
  case running =>
    intro events
    rw [ensureRunning_eq_ok, (h events).running]
  case failed =>
    intro before since hfailed hok
    rw [Ne, ensureRunning_eq_ok, (h before).running] at hfailed
    rw [ensureRunning_eq_ok, (h _).running, List.any_append, Bool.or_eq_false_iff] at hok
    exact hfailed ⟨hok.1, hok.2.1⟩

/-! ### A history -/

def programs : Programs where
  which name := some name
  start _ _ := .ok .running

/-- The child exits on its own, and only then it is stopped, through three handles. -/
def history : List Event :=
  [.newHandle, .ensureRunning, .exit 3, .newHandle, .stop 2, .terminate, .stop 1, .drop]

def child : NodeProcess where
  path := "anvil"
  slot := some .running
  handles := 1
  kills := 0

theorem stopsOnce_history : start programs {} [] = .ok child ∧ child.StopsOnce ∧
    (child.after history).kills = 1 ∧ (child.after history).stop.1 = false := by
  have started : start programs {} [] = .ok child := rfl
  have once : child.StopsOnce := stopsOnce_of_start started
  have hstopped : history.any Event.isStopping = true := by decide
  exact ⟨started, once, by rw [once.kills, if_pos hstopped], by rw [once.answer, hstopped]; rfl⟩

end VectorReplay.NodeProcess
