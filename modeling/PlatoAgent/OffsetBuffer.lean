import Mathlib

/-!
# Bounded buffers with offsets

A buffer numbers every event that is pushed to it and keeps the newest ones.
Its contents are the numbered end of the log of all pushed events, and a page
read from an offset that is still buffered is a page of that log.
-/

namespace PlatoAgent

/-- An event with its place among all events that were pushed. -/
structure Buffered (Event : Type) where
  offset : Nat
  event : Event
  deriving DecidableEq, Repr

/-- Events numbered one after the other. -/
def numbered {Event : Type} (first : Nat) : List Event → List (Buffered Event)
  | [] => []
  | event :: events => ⟨first, event⟩ :: numbered (first + 1) events

section Numbered

variable {Event : Type}

@[simp]
theorem length_numbered (first : Nat) (events : List Event) :
    (numbered first events).length = events.length := by
  induction events generalizing first with
  | nil => rfl
  | cons event events ih => simp [numbered, ih]

theorem numbered_append (first : Nat) (events later : List Event) :
    numbered first (events ++ later) =
      numbered first events ++ numbered (first + events.length) later := by
  induction events generalizing first with
  | nil => simp [numbered]
  | cons event events ih =>
      simp only [List.cons_append, numbered, ih, List.length_cons]
      rw [Nat.add_right_comm, Nat.add_assoc]

theorem drop_numbered (count first : Nat) (events : List Event) :
    (numbered first events).drop count =
      numbered (first + count) (events.drop count) := by
  induction events generalizing first count with
  | nil => simp [numbered]
  | cons event events ih =>
      cases count with
      | zero => rfl
      | succ count =>
          simp only [numbered, List.drop_succ_cons, ih]
          rw [Nat.add_assoc, Nat.add_comm 1 count]

theorem take_numbered (count first : Nat) (events : List Event) :
    (numbered first events).take count =
      numbered first (events.take count) := by
  induction events generalizing first count with
  | nil => simp [numbered]
  | cons event events ih =>
      cases count with
      | zero => rfl
      | succ count => simp [numbered, ih]

@[simp]
theorem map_event_numbered (first : Nat) (events : List Event) :
    (numbered first events).map (·.event) = events := by
  induction events generalizing first with
  | nil => rfl
  | cons event events ih => simp [numbered, ih]

theorem offset_of_getElem?_numbered {first index : Nat} {events : List Event}
    {buffered : Buffered Event}
    (found : (numbered first events)[index]? = some buffered) :
    buffered.offset = first + index := by
  induction events generalizing first index with
  | nil => simp [numbered] at found
  | cons event events ih =>
      cases index with
      | zero =>
          cases found
          rfl
      | succ index =>
          rw [numbered, List.getElem?_cons_succ] at found
          have := ih found
          omega

end Numbered

structure OffsetBuffer (Event : Type) where
  firstOffset : Nat
  nextOffset : Nat
  events : List (Buffered Event)
  deriving DecidableEq, Repr

namespace OffsetBuffer

variable {Event : Type}

def empty : OffsetBuffer Event :=
  ⟨0, 0, []⟩

/-- A full buffer drops its oldest event first. -/
def push (capacity : Nat) (buffer : OffsetBuffer Event) (event : Event) :
    OffsetBuffer Event :=
  let kept : OffsetBuffer Event :=
    if buffer.events.length = capacity then
      { buffer with
        firstOffset := buffer.firstOffset + 1
        events := buffer.events.drop 1 }
    else buffer
  { kept with
    nextOffset := kept.nextOffset + 1
    events := kept.events ++ [⟨kept.nextOffset, event⟩] }

/-- At most `limit` buffered events from an offset on. -/
def page (buffer : OffsetBuffer Event) (fromOffset limit : Nat) :
    List (Buffered Event) :=
  (buffer.events.drop (fromOffset - buffer.firstOffset)).take limit

/-- The buffer holds the end of a log. -/
structure Logs (buffer : OffsetBuffer Event) (log : List Event) : Prop where
  first : buffer.firstOffset ≤ log.length
  next : buffer.nextOffset = log.length
  events : buffer.events =
    numbered buffer.firstOffset (log.drop buffer.firstOffset)

theorem logs_empty : (empty : OffsetBuffer Event).Logs [] :=
  ⟨Nat.le_refl 0, rfl, rfl⟩

theorem Logs.length_events {buffer : OffsetBuffer Event} {log : List Event}
    (logs : buffer.Logs log) :
    buffer.events.length = log.length - buffer.firstOffset := by
  rw [logs.events, length_numbered, List.length_drop]

theorem Logs.nextOffset_eq {buffer : OffsetBuffer Event} {log : List Event}
    (logs : buffer.Logs log) :
    buffer.nextOffset = buffer.firstOffset + buffer.events.length := by
  have := logs.first
  rw [logs.next, logs.length_events]
  omega

theorem Logs.offset_eq {buffer : OffsetBuffer Event} {log : List Event}
    (logs : buffer.Logs log) {index : Nat} {buffered : Buffered Event}
    (found : buffer.events[index]? = some buffered) :
    buffered.offset = buffer.firstOffset + index := by
  rw [logs.events] at found
  exact offset_of_getElem?_numbered found

theorem Logs.push {buffer : OffsetBuffer Event} {log : List Event}
    (logs : buffer.Logs log) {capacity : Nat} (positive : 0 < capacity)
    (event : Event) : (buffer.push capacity event).Logs (log ++ [event]) := by
  have first := logs.first
  have appended : ∀ first, first ≤ log.length →
      numbered first (log.drop first) ++ [⟨log.length, event⟩] =
        numbered first ((log ++ [event]).drop first) := by
    intro first bound
    rw [List.drop_append_of_le_length bound, numbered_append, List.length_drop,
      Nat.add_sub_cancel' bound]
    rfl
  by_cases full : buffer.events.length = capacity
  · -- The buffer is not empty, so its oldest event is in the log.
    have room : buffer.firstOffset + 1 ≤ log.length := by
      rw [logs.length_events] at full
      omega
    refine ⟨?_, ?_, ?_⟩
    · simp only [OffsetBuffer.push, if_pos full, List.length_append]
      omega
    · simp [OffsetBuffer.push, if_pos full, logs.next]
    · simp only [OffsetBuffer.push, if_pos full, logs.next]
      rw [logs.events, drop_numbered, List.drop_drop, appended _ room]
  · refine ⟨?_, ?_, ?_⟩
    · simp only [OffsetBuffer.push, if_neg full, List.length_append]
      omega
    · simp [OffsetBuffer.push, if_neg full, logs.next]
    · simp only [OffsetBuffer.push, if_neg full, logs.next]
      rw [logs.events, appended _ first]

/-- From a buffered offset, a page of the buffer is a page of the log. -/
theorem Logs.page {buffer : OffsetBuffer Event} {log : List Event}
    (logs : buffer.Logs log) {fromOffset : Nat}
    (isBuffered : buffer.firstOffset ≤ fromOffset) (limit : Nat) :
    buffer.page fromOffset limit =
      numbered fromOffset ((log.drop fromOffset).take limit) := by
  rw [OffsetBuffer.page, logs.events, drop_numbered, take_numbered,
    List.drop_drop, Nat.add_sub_cancel' isBuffered]

/-- A buffer that has dropped an event is full. -/
structure Fills (capacity : Nat) (buffer : OffsetBuffer Event) : Prop where
  bound : buffer.events.length ≤ capacity
  full : 0 < buffer.firstOffset → buffer.events.length = capacity

theorem Fills.push {buffer : OffsetBuffer Event} {capacity : Nat}
    (fills : buffer.Fills capacity) (positive : 0 < capacity) (event : Event) :
    (buffer.push capacity event).Fills capacity := by
  have bound := fills.bound
  by_cases full : buffer.events.length = capacity
  · have length : (buffer.push capacity event).events.length = capacity := by
      simp only [OffsetBuffer.push, if_pos full, List.length_append,
        List.length_drop, List.length_singleton]
      omega
    exact ⟨length.le, fun _ => length⟩
  · refine ⟨?_, fun dropped => ?_⟩
    · simp only [OffsetBuffer.push, if_neg full, List.length_append,
        List.length_singleton]
      omega
    · simp only [OffsetBuffer.push, if_neg full] at dropped
      exact absurd (fills.full dropped) full

end OffsetBuffer

/-- What a reader learns of a log: an event, that it fell behind by some events,
or that it has to start again. -/
inductive Observation (Event : Type) where
  | received (event : Event)
  | lagged (count : Nat)
  | restarted
  deriving DecidableEq, Repr

/-- The observations account for exactly these events, in their order. -/
inductive Accounts {Event : Type} :
    List (Observation Event) → List Event → Prop where
  | nil : Accounts [] []
  | received {observations : List (Observation Event)} {events : List Event}
      (earlier : Accounts observations events) (event : Event) :
      Accounts (observations ++ [.received event]) (events ++ [event])
  | lagged {observations : List (Observation Event)} {events : List Event}
      (earlier : Accounts observations events) (missed : List Event) :
      Accounts (observations ++ [.lagged missed.length]) (events ++ missed)
  | restarted {observations : List (Observation Event)} {events : List Event}
      (earlier : Accounts observations events) (missed : List Event) :
      Accounts (observations ++ [.restarted]) (events ++ missed)

theorem Accounts.page {Event : Type} {observations : List (Observation Event)}
    {events : List Event} (earlier : Accounts observations events)
    (page : List Event) :
    Accounts (observations ++ page.map .received) (events ++ page) := by
  induction page generalizing observations events with
  | nil => simpa using earlier
  | cons event page ih =>
      have next := ih (earlier.received event)
      simpa using next

end PlatoAgent
