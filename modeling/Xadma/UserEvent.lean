import Xadma.Router

/-! # Waiting for a user event

`EvtReadUserEvent` clears the event's `KEVENT` and waits on it for at most 3 s, and
`HandleUserEvent` pulses it. `KePulseEvent` wakes the waiters the event has at that instant
and leaves the event not signaled. Below, one reader and any number of pulses, in every order.
-/

namespace Xadma.UserEvent

/-- Where the reader is in `EvtReadUserEvent`. -/
inductive Reader where
  /-- Before `KeClearEvent`. -/
  | start
  /-- Between `KeClearEvent` and `KeWaitForSingleObject`. -/
  | cleared
  /-- Blocked in `KeWaitForSingleObject`. -/
  | waiting
  /-- Back from the wait, with what it returned. -/
  | woken (status : NTSTATUS)
  deriving DecidableEq, Repr

structure St where
  /-- The `KEVENT` is signaled. -/
  signaled : Bool
  reader : Reader
  deriving DecidableEq, Repr

inductive Step where
  /-- `HandleUserEvent`. -/
  | pulse
  | clear
  | wait
  /-- The 3 s timeout of the wait runs out. -/
  | expire
  deriving DecidableEq, Repr

/-- `KePulseEvent`: signal the event, wake its waiters, and reset it. -/
def kePulseEvent (s : St) : St :=
  { signaled := false, reader := if s.reader = .waiting then .woken statusSuccess else s.reader }

/-- One step; `none` when the step cannot happen now. A wait on a signaled event returns at
once. -/
def step (s : St) : Step → Option St
  | .pulse => some (kePulseEvent s)
  | .clear => if s.reader = .start then some ⟨false, .cleared⟩ else none
  | .wait =>
    if s.reader = .cleared then
      some (if s.signaled then { s with reader := .woken statusSuccess }
        else { s with reader := .waiting })
    else none
  | .expire => if s.reader = .waiting then some { s with reader := .woken statusTimeout } else none

def run (s : St) : List Step → Option St
  | [] => some s
  | e :: es => (step s e).bind (run · es)

@[simp] theorem run_nil (s : St) : run s [] = some s := rfl

theorem run_cons (s : St) (e : Step) (es : List Step) :
    run s (e :: es) = (step s e).bind (run · es) := rfl

/-! ## Pulses in a schedule -/

/-- Some pulse comes before any `expire`. -/
def PulseFirst (sched : List Step) : Prop :=
  ∃ mid post, sched = mid ++ .pulse :: post ∧ .expire ∉ mid

/-- A pulse comes after step `x`, with no `expire` between them. -/
def PulseAfter (x : Step) (sched : List Step) : Prop :=
  ∃ pre rest, sched = pre ++ x :: rest ∧ PulseFirst rest

theorem pulseFirst_cons (e : Step) (l : List Step) :
    PulseFirst (e :: l) ↔ e = .pulse ∨ (e ≠ .expire ∧ PulseFirst l) := by
  constructor
  · rintro ⟨_ | ⟨m, mid⟩, post, h, hx⟩
    · simp only [List.nil_append, List.cons.injEq] at h
      exact .inl h.1
    · simp only [List.cons_append, List.cons.injEq] at h
      obtain ⟨rfl, rfl⟩ := h
      simp only [List.mem_cons, not_or] at hx
      exact .inr ⟨Ne.symm hx.1, mid, post, rfl, hx.2⟩
  · rintro (rfl | ⟨he, mid, post, rfl, hx⟩)
    · exact ⟨[], l, rfl, by simp⟩
    · exact ⟨e :: mid, post, rfl, by simp [Ne.symm he, hx]⟩

theorem pulseAfter_cons (x e : Step) (l : List Step) :
    PulseAfter x (e :: l) ↔ (e = x ∧ PulseFirst l) ∨ PulseAfter x l := by
  constructor
  · rintro ⟨_ | ⟨p, pre⟩, rest, h, hp⟩
    · simp only [List.nil_append, List.cons.injEq] at h
      obtain ⟨rfl, rfl⟩ := h
      exact .inl ⟨rfl, hp⟩
    · simp only [List.cons_append, List.cons.injEq] at h
      obtain ⟨rfl, rfl⟩ := h
      exact .inr ⟨pre, rest, rfl, hp⟩
  · rintro (⟨rfl, hp⟩ | ⟨pre, rest, rfl, hp⟩)
    · exact ⟨[], l, rfl, hp⟩
    · exact ⟨e :: pre, rest, rfl, hp⟩

theorem mem_of_pulseAfter {x : Step} {l : List Step} (h : PulseAfter x l) : x ∈ l := by
  obtain ⟨pre, rest, rfl, -⟩ := h
  simp

/-! ## Runs -/

@[simp] theorem statusTimeout_ne_statusSuccess : statusTimeout ≠ statusSuccess := by decide

theorem run_of_woken (st : NTSTATUS) :
    ∀ (l : List Step) (s s' : St), s.reader = .woken st → run s l = some s' →
      s'.reader = .woken st ∧ .wait ∉ l
  | [], s, s', hs, hr => by cases hr; exact ⟨hs, by simp⟩
  | e :: l, s, s', hs, hr => by
    cases e <;> simp [run_cons, step, hs] at hr
    case pulse =>
      obtain ⟨h1, h2⟩ := run_of_woken st l _ s' (by simp [kePulseEvent, hs]) hr
      exact ⟨h1, by simp [h2]⟩

theorem run_of_waiting (s s' : St) (st : NTSTATUS) (l : List Step) (hs : s.reader = .waiting)
    (hr : run s l = some s') (hw : s'.reader = .woken st) :
    (st = statusSuccess ↔ PulseFirst l) ∧ (st = statusSuccess ∨ st = statusTimeout) ∧
      .wait ∉ l := by
  cases l with
  | nil => cases hr; simp [hs] at hw
  | cons e l =>
    cases e <;> simp [run_cons, step, hs] at hr
    case pulse =>
      obtain ⟨h1, h2⟩ := run_of_woken statusSuccess l _ s' (by simp [kePulseEvent, hs]) hr
      rw [hw, Reader.woken.injEq] at h1
      exact ⟨by simp [h1, pulseFirst_cons], .inl h1, by simp [h2]⟩
    case expire =>
      obtain ⟨h1, h2⟩ := run_of_woken statusTimeout l _ s' rfl hr
      rw [hw, Reader.woken.injEq] at h1
      exact ⟨by simp [h1, pulseFirst_cons], .inr h1, by simp [h2]⟩

theorem run_of_start (s s' : St) (st : NTSTATUS) (l : List Step)
    (hs : s.reader = .start ∨ (s.reader = .cleared ∧ s.signaled = false))
    (hr : run s l = some s') (hw : s'.reader = .woken st) :
    (st = statusSuccess ↔ PulseAfter .wait l) ∧ (st = statusSuccess ∨ st = statusTimeout) ∧
      (s.reader = .start → st = statusSuccess → PulseAfter .clear l) ∧
      (s.reader = .cleared → st = statusSuccess → PulseFirst l) := by
  induction l generalizing s with
  | nil => cases hr; rcases hs with hs | ⟨hs, -⟩ <;> simp [hs] at hw
  | cons e l ih =>
    cases e
    case pulse =>
      have hne : s.reader ≠ .waiting := by rcases hs with hs | ⟨hs, -⟩ <;> simp [hs]
      have hp : kePulseEvent s = ⟨false, s.reader⟩ := by simp [kePulseEvent, hne]
      simp only [run_cons, step, Option.some_bind, hp] at hr
      obtain ⟨h1, h2, h3, -⟩ := ih ⟨false, s.reader⟩ (hs.imp id fun h => ⟨h.1, rfl⟩) hr
      refine ⟨by simp [pulseAfter_cons, h1], h2, fun hst hsucc => ?_, fun _ _ => ?_⟩
      · simp [pulseAfter_cons, h3 hst hsucc]
      · simp [pulseFirst_cons]
    case clear =>
      rcases hs with hs | ⟨hs, -⟩
      · simp only [run_cons, step, hs, if_true, Option.some_bind] at hr
        obtain ⟨h1, h2, -, h4⟩ := ih ⟨false, .cleared⟩ (.inr ⟨rfl, rfl⟩) hr
        refine ⟨by simp [pulseAfter_cons, h1], h2, fun _ hsucc => ?_,
          fun hc => by simp [hs] at hc⟩
        simp [pulseAfter_cons, h4 rfl hsucc]
      · simp [run_cons, step, hs] at hr
    case wait =>
      rcases hs with hs | ⟨hs, hsig⟩
      · simp [run_cons, step, hs] at hr
      · simp only [run_cons, step, hs, hsig, if_true, Option.some_bind, Bool.false_eq_true,
          if_false] at hr
        obtain ⟨h1, h2, h3⟩ := run_of_waiting _ s' st l rfl hr hw
        have hno : ¬ PulseAfter .wait l := fun h => h3 (mem_of_pulseAfter h)
        refine ⟨by simp [pulseAfter_cons, h1, hno], h2, fun hst => by simp [hs] at hst,
          fun _ hsucc => ?_⟩
        simpa [pulseFirst_cons] using h1.1 hsucc
    case expire =>
      rcases hs with hs | ⟨hs, -⟩ <;> simp [run_cons, step, hs] at hr

/-! ## What the reader reports -/

/-- Whatever the event held before, and however the pulses fall: the reader writes TRUE exactly
when a pulse landed during its wait, before the timeout, and then after its `KeClearEvent`. -/
theorem reader_reports_pulse_during_wait (signaled : Bool) (sched : List Step) (s : St)
    (st : NTSTATUS) (hr : run ⟨signaled, .start⟩ sched = some s) (hw : s.reader = .woken st)
    (wdf : WdfCalls) (hst : wdf.waitStatus = st) (v : Option Nat) (size : Nat)
    (hv : .copyToRequest v size ∈ (evtReadUserEvent wdf 1).2) :
    (v = some 1 ↔ PulseAfter .wait sched) ∧ (v = some 1 → PulseAfter .clear sched) := by
  obtain ⟨h1, h2, h3, -⟩ := run_of_start _ s st sched (.inl rfl) hr hw
  obtain ⟨rfl, -⟩ := evtReadUserEvent_writes wdf 1 v size hv
  have hv1 : some (eventValue wdf.waitStatus).toNat = some 1 ↔ st = statusSuccess := by
    rcases h2 with h | h <;> simp [hst, h]
  rw [hv1]
  exact ⟨h1, h3 rfl⟩

theorem reader_reports_pulse_during_wait_woken :
    run ⟨false, .start⟩ [.clear, .wait, .pulse] = some ⟨false, .woken statusSuccess⟩ ∧
      (some 1 = some 1 ↔ PulseAfter .wait [.clear, .wait, .pulse]) ∧
      (some 1 = some 1 → PulseAfter .clear [.clear, .wait, .pulse]) :=
  ⟨rfl, reader_reports_pulse_during_wait false [.clear, .wait, .pulse] ⟨false, .woken statusSuccess⟩
    statusSuccess rfl rfl WdfCalls.allSucceed rfl (some 1) 1 (by decide)⟩

theorem run_cleared_pulses (n : Nat) (l : List Step) :
    run ⟨false, .cleared⟩ (List.replicate n .pulse ++ l) = run ⟨false, .cleared⟩ l := by
  induction n with
  | zero => rfl
  | succ n ih => exact ih

end Xadma.UserEvent
