import Xadma.Wdf

/-! # A DMA request and its cancellation

`EvtIoWriteDma` and `EvtIoReadDma` initialize the engine's DMA transaction from the request,
mark the request cancelable with `EvtCancelDma`, and execute the transaction; a failure on the
way goes to `ErrExit`, which releases the transaction and completes the request. In poll mode
`EvtIoWriteDma` then calls `EnginePollTransfer`, which, as the comment at the call says,
cleans up and completes the request itself. From the mark on, the framework may call
`EvtCancelDma`, which stops the engine, releases the transaction and completes the request.
Below, the two routines in every interleaving, with every outcome of the framework calls.
-/

namespace Xadma.Dma

/-- `EvtIoWriteDma` polls the engine in poll mode; `EvtIoReadDma` has that branch compiled
out. -/
structure Routine where
  write : Bool
  poll : Bool
  deriving DecidableEq, Repr

inductive DispatchPc where
  | initTransaction
  | markCancelable
  | execute
  /-- `EnginePollTransfer`, in the engine code. -/
  | poll
  /-- `ErrExit`: `WdfDmaTransactionRelease`. -/
  | errRelease
  /-- `ErrExit`: `WdfRequestComplete`. -/
  | errComplete
  /-- Returned after the transaction started, with no poll. -/
  | returned
  /-- Returned through `ErrExit`. -/
  | failed
  /-- Returned after `EnginePollTransfer`. -/
  | polled
  deriving DecidableEq, Repr

inductive CancelPc where
  | idle
  | engineStop
  /-- `WdfRequestUnmarkCancelable`, which fails: the request is being canceled. -/
  | unmark
  | release
  /-- `WdfRequestComplete(request, STATUS_CANCELLED)`. -/
  | complete
  | returned
  deriving DecidableEq, Repr

structure St where
  dispatch : DispatchPc
  cancel : CancelPc
  status : NTSTATUS
  /-- Marked cancelable, and since then neither unmarked nor completed. -/
  marked : Bool
  completions : Nat
  releases : Nat
  /-- Completions by `ErrExit` while the request was marked. -/
  strayCompletions : Nat
  markSucceeded : Bool
  executeFailed : Bool
  deriving DecidableEq, Repr

/-- A routine called on a request; its `status` starts as `STATUS_INTERNAL_ERROR`. -/
def St.init : St := ⟨.initTransaction, .idle, statusInternalError, false, 0, 0, 0, false, false⟩

inductive Step where
  /-- The routine's next statement; `status` is what its call returns. -/
  | dispatch (status : NTSTATUS)
  /-- The framework calls `EvtCancelDma`. -/
  | cancelRequest
  /-- `EvtCancelDma`'s next statement. -/
  | cancel
  deriving DecidableEq, Repr

/-- The routine's statement at `s.dispatch`, its call returning `st`. -/
def dispatchStep (r : Routine) (s : St) (st : NTSTATUS) : Option St :=
  match s.dispatch with
  | .initTransaction =>
    some { s with status := st, dispatch := if ntSuccess st then .markCancelable else .errRelease }
  | .markCancelable =>
    some { s with
      status := st, marked := ntSuccess st, markSucceeded := ntSuccess st
      dispatch := if ntSuccess st then .execute else .errRelease }
  | .execute =>
    some { s with
      status := st, executeFailed := !ntSuccess st
      dispatch := if ntSuccess st then (if r.write && r.poll then .poll else .returned)
        else .errRelease }
  | .poll =>
    some { s with
      status := st, marked := false, completions := s.completions + 1
      releases := s.releases + 1, dispatch := .polled }
  | .errRelease => some { s with releases := s.releases + 1, dispatch := .errComplete }
  | .errComplete =>
    some { s with
      completions := s.completions + 1
      strayCompletions := s.strayCompletions + if s.marked then 1 else 0
      marked := false, dispatch := .failed }
  | .returned | .failed | .polled => none

def cancelStep (s : St) : Option St :=
  match s.cancel with
  | .engineStop => some { s with cancel := .unmark }
  | .unmark => some { s with cancel := .release }
  | .release => some { s with releases := s.releases + 1, cancel := .complete }
  | .complete =>
    some { s with completions := s.completions + 1, marked := false, cancel := .returned }
  | .idle | .returned => none

/-- One step; `none` when it cannot happen now. The framework cancels a request only while it
is marked, and once. -/
def step (r : Routine) (s : St) : Step → Option St
  | .dispatch st => dispatchStep r s st
  | .cancelRequest =>
    if s.marked = true ∧ s.cancel = .idle then some { s with cancel := .engineStop } else none
  | .cancel => cancelStep s

/-- The calls a step makes into the engine code, and its completions of the request, on the
engine `id`. -/
def stepCalls (id : EngineId) (s : St) : Step → List Action
  | .dispatch _ =>
    match s.dispatch with
    | .poll => [.engine id .pollTransfer]
    | .errComplete => [.complete s.status 0]
    | _ => []
  | .cancelRequest => []
  | .cancel =>
    match s.cancel with
    | .engineStop => [.engine id .stop]
    | .complete => [.complete statusCancelled 0]
    | _ => []

def run (r : Routine) (s : St) : List Step → Option St
  | [] => some s
  | e :: es => (step r s e).bind (run r · es)

inductive Reachable (r : Routine) : St → Prop
  | init : Reachable r St.init
  | step {s s' : St} (e : Step) : Reachable r s → step r s e = some s' → Reachable r s'

theorem reachable_of_run (r : Routine) :
    ∀ (sched : List Step) (s s' : St), Reachable r s → run r s sched = some s' → Reachable r s'
  | [], s, s', hs, h => by cases h; exact hs
  | e :: es, s, s', hs, h => by
    simp only [run, Option.bind_eq_some] at h
    obtain ⟨s₁, h₁, h₂⟩ := h
    exact reachable_of_run r es s₁ s' (.step e hs h₁) h₂

/-! ## What every run keeps -/

/-- Completions the routine has made once it is at `pc`. -/
def DispatchPc.completed : DispatchPc → Nat
  | .failed | .polled => 1
  | _ => 0

def DispatchPc.released : DispatchPc → Nat
  | .errComplete | .failed | .polled => 1
  | _ => 0

/-- The routine has not yet returned from `WdfRequestMarkCancelableEx`. -/
def DispatchPc.beforeMark : DispatchPc → Bool
  | .initTransaction | .markCancelable => true
  | _ => false

def DispatchPc.inErrExit : DispatchPc → Bool
  | .errRelease | .errComplete | .failed => true
  | _ => false

def CancelPc.completed : CancelPc → Nat
  | .returned => 1
  | _ => 0

def CancelPc.released : CancelPc → Nat
  | .complete | .returned => 1
  | _ => 0

theorem DispatchPc.completed_le_released (d : DispatchPc) : d.completed ≤ d.released := by
  cases d <;> decide

theorem DispatchPc.released_le_one (d : DispatchPc) : d.released ≤ 1 := by
  cases d <;> decide

theorem DispatchPc.completed_pos {d : DispatchPc} :
    0 < d.completed → d = .failed ∨ d = .polled := by
  cases d <;> decide

theorem DispatchPc.released_pos {d : DispatchPc} :
    0 < d.released → d.inErrExit = true ∨ d = .polled := by
  cases d <;> decide

theorem CancelPc.completed_le_released (c : CancelPc) : c.completed ≤ c.released := by
  cases c <;> decide

theorem CancelPc.released_le_one (c : CancelPc) : c.released ≤ 1 := by
  cases c <;> decide

theorem CancelPc.completed_pos {c : CancelPc} : 0 < c.completed → c = .returned := by
  cases c <;> decide

theorem CancelPc.ne_idle_of_released {c : CancelPc} : 0 < c.released → c ≠ .idle := by
  cases c <;> decide

/-- The counters follow the routines' progress, and only a request that was marked is ever
canceled. -/
structure Inv (s : St) : Prop where
  completions : s.completions = s.dispatch.completed + s.cancel.completed
  releases : s.releases = s.dispatch.released + s.cancel.released
  canceled : s.cancel ≠ .idle → s.markSucceeded = true
  marked : s.marked = true → s.markSucceeded = true
  errExit : s.markSucceeded = true → s.dispatch.inErrExit = true → s.executeFailed = true
  beforeMark : s.dispatch.beforeMark = true → s.markSucceeded = false ∧ s.cancel = .idle

theorem inv_init : Inv St.init :=
  ⟨rfl, rfl, fun h => absurd rfl h, nofun, nofun, fun _ => ⟨rfl, rfl⟩⟩

theorem inv_dispatchStep {r : Routine} {s s' : St} {st : NTSTATUS} (hi : Inv s)
    (h : dispatchStep r s st = some s') : Inv s' := by
  obtain ⟨d, c, status, m, comp, rel, stray, ms, ef⟩ := s
  obtain ⟨hc, hr, hk, hm, he, hb⟩ := hi
  cases d <;> simp only [dispatchStep, Option.some.injEq, reduceCtorEq] at h <;> subst h
  case initTransaction =>
    obtain ⟨rfl, rfl⟩ := hb rfl
    exact ⟨by split <;> exact hc, by split <;> exact hr, fun h => absurd rfl h, hm, nofun,
      fun _ => ⟨rfl, rfl⟩⟩
  case markCancelable =>
    obtain ⟨rfl, rfl⟩ := hb rfl
    refine ⟨by split <;> exact hc, by split <;> exact hr, fun h => absurd rfl h, id,
      fun hs hx => ?_, fun hx => ?_⟩
    · rw [if_pos hs] at hx; cases hx
    · split at hx <;> cases hx
  case execute =>
    split
    next => split <;> exact ⟨hc, hr, hk, hm, fun _ => nofun, nofun⟩
    next hs => exact ⟨hc, hr, hk, hm, fun _ _ => by simpa using hs, nofun⟩
  -- `EnginePollTransfer` releases the transaction and completes the request.
  case poll =>
    exact ⟨by simp only [DispatchPc.completed] at hc ⊢; omega,
      by simp only [DispatchPc.released] at hr ⊢; omega, hk, nofun, fun _ => nofun, nofun⟩
  case errRelease =>
    exact ⟨hc, by simp only [DispatchPc.released] at hr ⊢; omega, hk, hm, fun hs _ => he hs rfl,
      nofun⟩
  case errComplete =>
    exact ⟨by simp only [DispatchPc.completed] at hc ⊢; omega, hr, hk, nofun,
      fun hs _ => he hs rfl, nofun⟩

theorem inv_cancelStep {s s' : St} (hi : Inv s) (h : cancelStep s = some s') : Inv s' := by
  obtain ⟨d, c, status, m, comp, rel, stray, ms, ef⟩ := s
  obtain ⟨hc, hr, hk, hm, he, hb⟩ := hi
  cases c <;> simp only [cancelStep, Option.some.injEq, reduceCtorEq] at h <;> subst h
  case engineStop | unmark =>
    exact ⟨hc, hr, fun _ => hk nofun, hm, he, fun hx => nomatch (hb hx).2⟩
  case release =>
    exact ⟨hc, by simp only [CancelPc.released] at hr ⊢; omega, fun _ => hk nofun, hm, he,
      fun hx => nomatch (hb hx).2⟩
  case complete =>
    exact ⟨by simp only [CancelPc.completed] at hc ⊢; omega, hr, fun _ => hk nofun, nofun, he,
      fun hx => nomatch (hb hx).2⟩

theorem inv_step {r : Routine} {s s' : St} {e : Step} (hi : Inv s) (h : step r s e = some s') :
    Inv s' := by
  cases e with
  | dispatch st => exact inv_dispatchStep hi h
  | cancel => exact inv_cancelStep hi h
  | cancelRequest =>
    obtain ⟨d, c, status, m, comp, rel, stray, ms, ef⟩ := s
    simp only [step] at h
    split_ifs at h with hmc
    obtain ⟨hmk, rfl⟩ := hmc
    cases h
    obtain ⟨hc, hr, -, hm, he, hb⟩ := hi
    exact ⟨hc, hr, fun _ => hm hmk, hm, he, fun hx => nomatch (hb hx).1.symm.trans (hm hmk)⟩

theorem inv_of_reachable {r : Routine} {s : St} (h : Reachable r s) : Inv s := by
  induction h with
  | init => exact inv_init
  | step e _ hs ih => exact inv_step ih hs

/-! ## Completing twice -/

/-- The request is completed, and its transaction released, at most twice; twice exactly when
`EvtCancelDma` has returned and `ErrExit`, after a failed execute, or `EnginePollTransfer` did too. -/
theorem completed_twice_iff (r : Routine) (s : St) (h : Reachable r s) :
    s.completions ≤ 2 ∧ s.releases ≤ 2 ∧
      (2 ≤ s.completions ↔ s.cancel = .returned ∧
        (s.dispatch = .failed ∧ s.executeFailed = true ∨ s.dispatch = .polled)) ∧
      (2 ≤ s.releases → s.cancel ≠ .idle ∧ (s.executeFailed = true ∨ s.dispatch = .polled)) := by
  obtain ⟨hc, hr, hk, -, he, -⟩ := inv_of_reachable h
  have := s.dispatch.completed_le_released
  have := s.dispatch.released_le_one
  have := s.cancel.completed_le_released
  have := s.cancel.released_le_one
  -- Twice takes once by each routine, and a cancel means the mark succeeded.
  have hw : 2 ≤ s.releases → s.cancel ≠ .idle ∧ (s.executeFailed = true ∨ s.dispatch = .polled) :=
    fun h2 =>
      have hcn := s.cancel.ne_idle_of_released (by omega)
      ⟨hcn, (s.dispatch.released_pos (by omega)).imp_left (he (hk hcn))⟩
  refine ⟨by omega, by omega, ⟨fun h2 => ?_, ?_⟩, hw⟩
  · have hcr := s.cancel.completed_pos (by omega)
    exact ⟨hcr, (s.dispatch.completed_pos (by omega)).imp_left fun hd =>
      ⟨hd, he (hk (by rw [hcr]; nofun)) (by rw [hd]; rfl)⟩⟩
  · rintro ⟨hcr, ⟨hd, -⟩ | hd⟩ <;> rw [hc, hcr, hd] <;> exact Nat.le_refl 2

theorem completed_twice_iff_polled :
    Reachable ⟨true, true⟩ ⟨.polled, .returned, statusSuccess, false, 2, 2, 0, true, false⟩ ∧
      2 ≤ 2 ∧ 2 ≤ 2 ∧
      (2 ≤ 2 ↔ CancelPc.returned = .returned ∧
        (DispatchPc.polled = .failed ∧ false = true ∨ DispatchPc.polled = .polled)) ∧
      (2 ≤ 2 → CancelPc.returned ≠ .idle ∧ (false = true ∨ DispatchPc.polled = .polled)) :=
  have h : Reachable ⟨true, true⟩ ⟨.polled, .returned, statusSuccess, false, 2, 2, 0, true, false⟩ :=
    reachable_of_run _ [.dispatch statusSuccess, .dispatch statusSuccess, .dispatch statusSuccess,
      .cancelRequest, .cancel, .cancel, .cancel, .cancel, .dispatch statusSuccess] St.init _ .init rfl
  ⟨h, completed_twice_iff _ _ h⟩

/-! ## Completing a request still marked cancelable -/

/-- The request is marked from a successful `WdfRequestMarkCancelableEx` until the routine or
`EvtCancelDma` completes it; `ErrExit`'s completions while it is marked happen only after a
successful mark. -/
structure MarkInv (s : St) : Prop where
  marked : s.marked = (s.markSucceeded && s.dispatch.completed == 0 && s.cancel.completed == 0)
  strayOne : s.strayCompletions ≤ 1
  strayFailed : 0 < s.strayCompletions → s.dispatch = .failed
  strayMarked : 0 < s.strayCompletions → s.markSucceeded = true
  strayIdle : s.dispatch = .failed → s.cancel = .idle →
    s.strayCompletions = if s.markSucceeded then 1 else 0

theorem markInv_init : MarkInv St.init :=
  ⟨rfl, Nat.zero_le 1, fun h => absurd h (Nat.lt_irrefl 0), fun h => absurd h (Nat.lt_irrefl 0),
    nofun⟩

theorem markInv_dispatchStep {r : Routine} {s s' : St} {st : NTSTATUS} (hi : Inv s)
    (hm : MarkInv s) (h : dispatchStep r s st = some s') : MarkInv s' := by
  obtain ⟨d, c, status, m, comp, rel, stray, ms, ef⟩ := s
  obtain ⟨hmk, hso, hsf, hsm, hsi⟩ := hm
  cases d <;> simp only [dispatchStep, Option.some.injEq, reduceCtorEq] at h <;> subst h
  case initTransaction =>
    obtain ⟨rfl, rfl⟩ := hi.beforeMark rfl
    exact ⟨by split <;> exact hmk, hso, (fun h => nomatch hsf h), hsm, by split <;> nofun⟩
  case markCancelable =>
    obtain ⟨rfl, rfl⟩ := hi.beforeMark rfl
    exact ⟨by split <;> simp [DispatchPc.completed, CancelPc.completed], hso,
      (fun h => nomatch hsf h), (fun h => nomatch hsf h), by split <;> nofun⟩
  case execute =>
    split
    next => split <;> exact ⟨hmk, hso, (fun h => nomatch hsf h), hsm, nofun⟩
    next => exact ⟨hmk, hso, (fun h => nomatch hsf h), hsm, nofun⟩
  case poll =>
    exact ⟨by simp [DispatchPc.completed], hso, (fun h => nomatch hsf h), hsm, nofun⟩
  case errRelease => exact ⟨hmk, hso, (fun h => nomatch hsf h), hsm, nofun⟩
  -- `ErrExit` completes the request, still marked unless `EvtCancelDma` completed it.
  case errComplete =>
    obtain rfl : stray = 0 := Nat.eq_zero_of_not_pos fun h => nomatch hsf h
    simp only [DispatchPc.completed, Nat.reduceBEq, Bool.and_true] at hmk
    refine ⟨by simp [DispatchPc.completed], by cases m <;> simp, fun _ => rfl, fun h => ?_,
      fun _ hc => ?_⟩
    · cases m
      · simp at h
      · exact (Bool.and_eq_true _ _ ▸ hmk.symm).1
    · subst hc
      simp only [CancelPc.completed, Nat.reduceBEq, Bool.and_true] at hmk
      simp [hmk]

theorem markInv_cancelStep {s s' : St} (hm : MarkInv s) (h : cancelStep s = some s') :
    MarkInv s' := by
  obtain ⟨d, c, status, m, comp, rel, stray, ms, ef⟩ := s
  obtain ⟨hmk, hso, hsf, hsm, -⟩ := hm
  cases c <;> simp only [cancelStep, Option.some.injEq, reduceCtorEq] at h <;> subst h
  case engineStop | unmark | release => exact ⟨hmk, hso, hsf, hsm, fun _ => nofun⟩
  case complete => exact ⟨by simp [CancelPc.completed], hso, hsf, hsm, fun _ => nofun⟩

theorem markInv_step {r : Routine} {s s' : St} {e : Step} (hi : Inv s) (hm : MarkInv s)
    (h : step r s e = some s') : MarkInv s' := by
  cases e with
  | dispatch st => exact markInv_dispatchStep hi hm h
  | cancel => exact markInv_cancelStep hm h
  | cancelRequest =>
    obtain ⟨d, c, status, m, comp, rel, stray, ms, ef⟩ := s
    simp only [step] at h
    split_ifs at h with hmc
    obtain ⟨-, rfl⟩ := hmc
    cases h
    obtain ⟨hmk, hso, hsf, hsm, -⟩ := hm
    exact ⟨hmk, hso, hsf, hsm, fun _ => nofun⟩

theorem markInv_of_reachable {r : Routine} {s : St} (h : Reachable r s) : MarkInv s := by
  induction h with
  | init => exact markInv_init
  | step e hr hs ih => exact markInv_step (inv_of_reachable hr) ih hs

/-- The routine is past a successful `WdfRequestMarkCancelableEx` and not in `ErrExit`. -/
def DispatchPc.pastMark : DispatchPc → Bool
  | .execute | .poll | .returned | .polled => true
  | _ => false

/-- `WdfDmaTransactionExecute` has returned success. -/
def DispatchPc.started : DispatchPc → Bool
  | .poll | .returned | .polled => true
  | _ => false

def DispatchPc.polling : DispatchPc → Bool
  | .poll | .polled => true
  | _ => false

/-- The routine goes on after the mark only when the mark succeeded, after the execute only
when the transaction started, and polls exactly when it is `EvtIoWriteDma` in poll mode. -/
structure StartInv (r : Routine) (s : St) : Prop where
  pastMark : s.dispatch.pastMark = true → s.markSucceeded = true
  started : s.dispatch.started = true → s.executeFailed = false
  polling : s.dispatch.polling = true → (r.write && r.poll) = true
  returned : s.dispatch = .returned → (r.write && r.poll) = false

theorem startInv_dispatchStep {r : Routine} {s s' : St} {st : NTSTATUS} (hi : StartInv r s)
    (h : dispatchStep r s st = some s') : StartInv r s' := by
  obtain ⟨d, c, status, m, comp, rel, stray, ms, ef⟩ := s
  obtain ⟨hp, hs, hpo, -⟩ := hi
  cases d <;> simp only [dispatchStep, Option.some.injEq, reduceCtorEq] at h <;> subst h
  case initTransaction =>
    exact ⟨by split <;> nofun, by split <;> nofun, by split <;> nofun, by split <;> nofun⟩
  case markCancelable =>
    split
    next hst => exact ⟨fun _ => hst, nofun, nofun, nofun⟩
    next => exact ⟨nofun, nofun, nofun, nofun⟩
  case execute =>
    split
    next hst =>
      split
      next hwp => exact ⟨fun _ => hp rfl, fun _ => by simp [hst], fun _ => hwp, nofun⟩
      next hwp => exact ⟨fun _ => hp rfl, fun _ => by simp [hst], nofun, fun _ => by simpa using hwp⟩
    next => exact ⟨nofun, nofun, nofun, nofun⟩
  case poll => exact ⟨fun _ => hp rfl, fun _ => hs rfl, fun _ => hpo rfl, nofun⟩
  case errRelease | errComplete => exact ⟨nofun, nofun, nofun, nofun⟩

theorem startInv_step {r : Routine} {s s' : St} {e : Step} (hi : StartInv r s)
    (h : step r s e = some s') : StartInv r s' := by
  cases e with
  | dispatch st => exact startInv_dispatchStep hi h
  | cancel =>
    obtain ⟨d, c, status, m, comp, rel, stray, ms, ef⟩ := s
    cases c <;> simp only [step, cancelStep, Option.some.injEq, reduceCtorEq] at h <;> subst h <;>
      exact ⟨hi.pastMark, hi.started, hi.polling, hi.returned⟩
  | cancelRequest =>
    simp only [step] at h
    split_ifs at h
    cases h
    exact ⟨hi.pastMark, hi.started, hi.polling, hi.returned⟩

theorem startInv_of_reachable {r : Routine} {s : St} (h : Reachable r s) : StartInv r s := by
  induction h with
  | init => exact ⟨nofun, nofun, nofun, nofun⟩
  | step e _ hs ih => exact startInv_step ih hs

/-- Once the routine or `EvtCancelDma` has returned, the request is completed and released, but
for a transfer started with no poll: that one is left marked, or canceled, to the engine code. -/
theorem request_never_lost (r : Routine) (s : St) (h : Reachable r s) :
    (s.dispatch = .failed ∨ s.dispatch = .polled ∨ s.cancel = .returned →
        1 ≤ s.completions ∧ 1 ≤ s.releases) ∧
      (s.dispatch = .returned → s.executeFailed = false ∧ (r.write && r.poll) = false ∧
        (s.marked = true ∨ s.cancel ≠ .idle)) := by
  obtain ⟨hc, hr, -, -, -, -⟩ := inv_of_reachable h
  have hmk := (markInv_of_reachable h).marked
  obtain ⟨hp, hs, -, hre⟩ := startInv_of_reachable h
  refine ⟨fun hd => ?_, fun hd => ⟨hs (by rw [hd]; rfl), hre hd, ?_⟩⟩
  · rw [hc, hr]
    rcases hd with hd | hd | hd <;> rw [hd] <;>
      simp only [DispatchPc.completed, DispatchPc.released, CancelPc.completed,
        CancelPc.released] <;> omega
  -- With the mark standing and no completion yet, the request is still marked.
  by_cases hci : s.cancel = .idle
  · left
    rw [hmk, hp (by rw [hd]; rfl), hd, hci]
    rfl
  · exact .inr hci

theorem request_never_lost_started :
    Reachable ⟨true, false⟩ ⟨.returned, .idle, statusSuccess, true, 0, 0, 0, true, false⟩ ∧
      (DispatchPc.returned = .failed ∨ DispatchPc.returned = .polled ∨ CancelPc.idle = .returned →
        1 ≤ 0 ∧ 1 ≤ 0) ∧
      (DispatchPc.returned = .returned → false = false ∧ (true && false) = false ∧
        (true = true ∨ CancelPc.idle ≠ .idle)) :=
  have h : Reachable ⟨true, false⟩ ⟨.returned, .idle, statusSuccess, true, 0, 0, 0, true, false⟩ :=
    reachable_of_run _ [.dispatch statusSuccess, .dispatch statusSuccess, .dispatch statusSuccess]
      St.init _ .init rfl
  ⟨h, request_never_lost _ _ h⟩

/-- A cancel that runs to its end before `WdfDmaTransactionExecute` fails: `ErrExit` releases
and completes the request a second time. With no cancel it completes a marked request. -/
theorem errExit_races_cancel (r : Routine) :
    run r St.init [.dispatch statusSuccess, .dispatch statusSuccess, .cancelRequest, .cancel,
        .cancel, .cancel, .cancel, .dispatch statusInsufficientResources,
        .dispatch statusSuccess, .dispatch statusSuccess] =
      some ⟨.failed, .returned, statusInsufficientResources, false, 2, 2, 0, true, true⟩ ∧
    run r St.init [.dispatch statusSuccess, .dispatch statusSuccess,
        .dispatch statusInsufficientResources, .dispatch statusSuccess,
        .dispatch statusSuccess] =
      some ⟨.failed, .idle, statusInsufficientResources, false, 1, 1, 1, true, true⟩ :=
  ⟨rfl, rfl⟩

end Xadma.Dma
