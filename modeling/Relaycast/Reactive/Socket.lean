import Mathlib.Data.List.Basic

/-!
# Sockets that report events

A socket is created connecting, with handlers attached to it.  It opens at most once, reports
messages while it is open, and closes at most once; an error before it has opened ends it, with or
without a close event to follow.  Its creator may call `close` on it at any time, and may take its
handlers off.  Sockets are numbered in the order in which they were created.
-/

namespace Reactive

/-- How far a socket has come; `failed` is an error before it was open. -/
inductive SocketPhase
  | connecting
  | opened
  | failed
  | closed
  deriving DecidableEq

structure Socket where
  phase : SocketPhase
  /-- Its handlers are attached. -/
  attached : Bool
  /-- `close` was called on it. -/
  closing : Bool
  deriving DecidableEq

inductive SocketEvent
  | opening
  | message
  | error
  | close
  deriving DecidableEq

namespace Socket

/-- A socket that was just created. -/
def created : Socket := ⟨.connecting, true, false⟩

/-- The socket after an event, if the event can happen. -/
def after (k : Socket) : SocketEvent → Option Socket
  | .opening => if k.phase = .connecting then some { k with phase := .opened } else none
  | .message => if k.phase = .opened then some k else none
  | .error =>
    match k.phase with
    | .connecting => some { k with phase := .failed }
    | .opened => some k
    | _ => none
  | .close => if k.phase = .closed then none else some { k with phase := .closed }

/-- `close()`. -/
def close (k : Socket) : Socket := { k with closing := true }

/-- Take the handlers off, then `close()`. -/
def detach (k : Socket) : Socket := { k with attached := false, closing := true }

/-- Neither closed by its creator nor ended by an event of its own. -/
def live (k : Socket) : Bool :=
  !k.closing && (k.phase == .connecting || k.phase == .opened)

/-- It has opened, and nobody has closed it. -/
def isOpen (k : Socket) : Bool := !k.closing && k.phase == .opened

variable {k k' : Socket} {e : SocketEvent}

@[simp] lemma created_live : created.live = true := rfl

@[simp] lemma close_live : k.close.live = false := rfl

@[simp] lemma detach_live : k.detach.live = false := rfl

lemma live_iff : k.live = true ↔
    k.closing = false ∧ (k.phase = .connecting ∨ k.phase = .opened) := by
  simp [live]

lemma isOpen_iff : k.isOpen = true ↔ k.closing = false ∧ k.phase = .opened := by
  simp [isOpen]

lemma live_of_isOpen (h : k.isOpen = true) : k.live = true :=
  live_iff.mpr ⟨(isOpen_iff.mp h).1, .inr (isOpen_iff.mp h).2⟩

/-- What an event leaves alone. -/
lemma after_frame (h : k.after e = some k') :
    k'.attached = k.attached ∧ k'.closing = k.closing := by
  cases e with
  | opening | message | close =>
    simp only [after] at h
    split_ifs at h
    obtain rfl := Option.some.inj h
    exact ⟨rfl, rfl⟩
  | error =>
    cases hphase : k.phase <;> simp only [after, hphase, reduceCtorEq, Option.some.injEq] at h
    all_goals exact h ▸ ⟨rfl, rfl⟩

lemma after_opening (h : k.after .opening = some k') :
    k.phase = .connecting ∧ k' = { k with phase := .opened } := by
  simp only [after] at h
  split_ifs at h with hphase
  exact ⟨hphase, (Option.some.inj h).symm⟩

/-- No event makes a socket connect again. -/
lemma connecting_of_after (h : k.after e = some k') (hphase : k'.phase = .connecting) :
    k.phase = .connecting := by
  cases e with
  | opening => exact (after_opening h).1
  | message =>
    simp only [after] at h
    split_ifs at h
    rwa [Option.some.inj h]
  | error =>
    cases hk : k.phase <;> simp only [after, hk, reduceCtorEq, Option.some.injEq] at h
    · rfl
    · rwa [← h, hk] at hphase
  | close =>
    simp only [after] at h
    split_ifs at h
    rw [← Option.some.inj h] at hphase
    exact SocketPhase.noConfusion hphase

/-- An event brings no socket back to life. -/
lemma live_of_after (h : k.after e = some k') (hlive : k'.live = true) : k.live = true := by
  obtain ⟨-, hclosing⟩ := after_frame h
  obtain ⟨hopen, hphase⟩ := live_iff.mp hlive
  refine live_iff.mpr ⟨hclosing.symm.trans hopen, ?_⟩
  cases e with
  | opening => exact .inl (after_opening h).1
  | message =>
    simp only [after] at h
    split_ifs at h with hopened
    exact .inr hopened
  | error =>
    cases hk : k.phase <;> simp only [after, hk, reduceCtorEq, Option.some.injEq] at h
    · exact .inl rfl
    · exact .inr rfl
  | close =>
    simp only [after] at h
    split_ifs at h
    obtain rfl := Option.some.inj h
    simp at hphase

end Socket

/-! ## Lists of sockets -/

variable {sockets : List Socket} {i j : ℕ} {k k' : Socket}

/-- A new socket is numbered by how many there were. -/
lemma getElem?_created : (sockets ++ [Socket.created])[j]? = some k ↔
    sockets[j]? = some k ∨ j = sockets.length ∧ k = Socket.created := by
  rcases Nat.lt_trichotomy j sockets.length with hlt | rfl | hgt
  · rw [List.getElem?_append_left hlt]
    simp [Nat.ne_of_lt hlt]
  · simp [eq_comm]
  · rw [List.getElem?_eq_none (by simp; omega), List.getElem?_eq_none (Nat.le_of_lt hgt)]
    simp [Nat.ne_of_gt hgt]

lemma getElem?_modified {f : Socket → Socket} : (sockets.modify i f)[j]? = some k ↔
    ∃ k₀, sockets[j]? = some k₀ ∧ k = if i = j then f k₀ else k₀ := by
  rw [List.getElem?_modify, Option.map_eq_map, Option.map_eq_some_iff]
  exact exists_congr fun k₀ => and_congr_right fun _ => eq_comm

/-- The other sockets are as they were. -/
lemma getElem?_updated (hi : sockets[i]? = some k) : (sockets.set i k')[j]? =
    if i = j then some k' else sockets[j]? := by
  have hlt : i < sockets.length := (List.getElem?_eq_some_iff.mp hi).1
  rw [List.getElem?_set]
  simp [hlt]

/-- An event that leaves a socket as it was changes nothing. -/
lemma set_same (hi : sockets[i]? = some k) : sockets.set i k = sockets := by
  obtain ⟨hlt, rfl⟩ := List.getElem?_eq_some_iff.mp hi
  exact List.set_getElem_self hlt

end Reactive
