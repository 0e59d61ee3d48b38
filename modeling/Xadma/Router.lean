import Xadma.Device

/-! # Reads and writes on a device node

`EvtIoRead` and `EvtIoWrite` route a request by the node's type: DMA nodes forward it to the
engine's queue, BAR nodes access the BAR and complete it, event nodes wait for a user event.
A branch that fails leaves the request to the routine, which completes it with that status.
-/

namespace Xadma

/-! ## Completing in the routines -/

/-- `if (NT_SUCCESS(status)) WdfRequestCompleteWithInformation(request, status, info)`. -/
def completeOnSuccess (r : NTSTATUS × List Action) (info : Nat) : NTSTATUS × List Action :=
  (r.1, r.2 ++ if ntSuccess r.1 then [.complete r.1 info] else [])

/-- `if (!NT_SUCCESS(status)) WdfRequestComplete(request, status)` at a routine's end. -/
def completeOnError (r : NTSTATUS × List Action) : List Action :=
  r.2 ++ if ntSuccess r.1 then [] else [.complete r.1 0]

/-- A branch hands back a status and its effects: on success it has forwarded the request to
`queue` or completed it, on failure it has left it pending. -/
def Disposes (queue : Option WdfQueue) (r : NTSTATUS × List Action) : Prop :=
  if ntSuccess r.1 then Settled queue r.2 else settle r.2 = .pending

theorem settle_append_single (acts : List Action) (a : Action) :
    settle (acts ++ [a]) = (settle acts).next a := by
  simp [settle, List.foldl_append]

theorem Disposes.completeOnError {queue : Option WdfQueue} {r : NTSTATUS × List Action}
    (h : Disposes queue r) : Settled queue (completeOnError r) := by
  unfold Disposes at h
  unfold Xadma.completeOnError
  split_ifs at h ⊢ with hs
  · simpa using h
  · exact .inr ⟨_, _, by rw [settle_append_single, h]; rfl⟩

/-- A branch that never forwards: on success it has completed the request, on failure it has
left it pending. -/
def Completes (r : NTSTATUS × List Action) : Prop :=
  if ntSuccess r.1 then ∃ st info, settle r.2 = .completed st info else settle r.2 = .pending

theorem Completes.completeOnError {r : NTSTATUS × List Action} (h : Completes r) :
    ∃ st info, settle (Xadma.completeOnError r) = .completed st info := by
  unfold Completes at h
  unfold Xadma.completeOnError
  split_ifs at h ⊢ with hs
  · simpa using h
  · exact ⟨_, _, by rw [settle_append_single, h]; rfl⟩

theorem completes_completeOnSuccess (r : NTSTATUS × List Action) (info : Nat)
    (h : ∀ a ∈ r.2, a.Neutral) : Completes (completeOnSuccess r info) := by
  unfold Completes completeOnSuccess
  split_ifs with hs
  · exact ⟨_, _, by rw [settle_neutral_append _ _ h]; rfl⟩
  · simpa using settle_neutral_append _ [] h

theorem completes_failure (st : NTSTATUS) (h : ntSuccess st = false) : Completes (st, []) := by
  simp [Completes, h]

/-! ## BAR access -/

def Width.bytes : Width → Nat
  | .uchar => 1
  | .ushort => 2
  | .ulong => 4

/-- `ULONG` when 4 divides the length, else `USHORT` when 2 does, else `UCHAR`. -/
def accessWidth (length : BitVec 64) : Width :=
  if length.toNat % 4 = 0 then .ulong else if length.toNat % 2 = 0 then .ushort else .uchar

/-- The element count of the register-buffer call: `(ULONG)length / sizeof(...)`. -/
def accessCount (length : BitVec 64) : Nat := length.toNat % 2 ^ 32 / (accessWidth length).bytes

/-- What `ReadBarToRequest` and `WriteBarFromRequest` share: a zero length is refused, a failed
retrieval of the request's memory is handed back, and otherwise the BAR is accessed at
`bar + offset`. -/
def barTransfer (retrieved : NTSTATUS) (access : Action) (length : BitVec 64) :
    NTSTATUS × List Action :=
  if length = 0 then (statusInvalidDeviceRequest, [])
  else if ntSuccess retrieved then (retrieved, [access]) else (retrieved, [])

def readBarToRequest (wdf : WdfCalls) (req : Request) (bar : Nat) : NTSTATUS × List Action :=
  barTransfer wdf.retrieveOutputMemory
    (.readRegisters bar req.deviceOffset (accessWidth req.length) (accessCount req.length))
    req.length

def writeBarFromRequest (wdf : WdfCalls) (req : Request) (bar : Nat) : NTSTATUS × List Action :=
  barTransfer wdf.retrieveInputMemory
    (.writeRegisters bar req.deviceOffset (accessWidth req.length) (accessCount req.length))
    req.length

theorem barTransfer_of_ne_zero (retrieved : NTSTATUS) (access : Action) (length : BitVec 64)
    (hlen : length ≠ 0) (hr : ntSuccess retrieved = true) :
    barTransfer retrieved access length = (retrieved, [access]) := by
  simp only [barTransfer, if_neg hlen, hr, if_true]

theorem barTransfer_neutral (retrieved : NTSTATUS) (access : Action) (length : BitVec 64)
    (h : access.Neutral) : ∀ a ∈ (barTransfer retrieved access length).2, a.Neutral := by
  unfold barTransfer
  split_ifs <;> simp [h]

/-! ## User events -/

/-- `eventValue` after the wait: `FALSE` only when the wait timed out. -/
def eventValue (waitStatus : NTSTATUS) : Bool := waitStatus != statusTimeout

@[simp] theorem eventValue_statusSuccess : eventValue statusSuccess = true := by decide
@[simp] theorem eventValue_statusTimeout : eventValue statusTimeout = false := by decide

/-- `EvtReadUserEvent`: clear the event, wait for it up to 3 s, and write the outcome into the
request's one-byte buffer. It completes the request itself only on success. -/
def evtReadUserEvent (wdf : WdfCalls) (length : BitVec 64) : NTSTATUS × List Action :=
  if length ≠ 1 then (statusInvalidParameter, [])
  else
    let waited : List Action := [.clearEvent, .waitForEvent]
    if !ntSuccess wdf.retrieveOutputMemory then (wdf.retrieveOutputMemory, waited)
    else if wdf.outputBufferSize ≠ 1 then (statusInvalidParameter, waited)
    else if !ntSuccess wdf.memoryCopyFromBuffer then (wdf.memoryCopyFromBuffer, waited)
    else
      (wdf.memoryCopyFromBuffer, waited ++
        [.copyToRequest (some (eventValue wdf.waitStatus).toNat) 1,
          .complete wdf.memoryCopyFromBuffer 1])

theorem evtReadUserEvent_completes (wdf : WdfCalls) (length : BitVec 64) :
    Completes (evtReadUserEvent wdf length) := by
  by_cases hlen : length ≠ 1
  · rw [evtReadUserEvent, if_pos hlen]; exact completes_failure statusInvalidParameter rfl
  rw [evtReadUserEvent, if_neg hlen]
  dsimp only
  -- A failure after the wait leaves the request pending.
  split
  next hr => rw [Completes, if_neg (by simpa using hr)]; rfl
  split
  next => rw [Completes, if_neg (by decide)]; rfl
  split
  next hc => rw [Completes, if_neg (by simpa using hc)]; rfl
  next hc => rw [Completes, if_pos (by simpa using hc)]; exact ⟨_, _, rfl⟩

theorem evtReadUserEvent_writes (wdf : WdfCalls) (length : BitVec 64) (v : Option Nat)
    (size : Nat) (h : .copyToRequest v size ∈ (evtReadUserEvent wdf length).2) :
    v = some (eventValue wdf.waitStatus).toNat ∧ size = 1 := by
  by_cases hlen : length ≠ 1
  · rw [evtReadUserEvent, if_pos hlen] at h; cases h
  rw [evtReadUserEvent, if_neg hlen] at h
  dsimp only at h
  repeat' split at h
  all_goals simp only [List.mem_cons, List.mem_append, List.not_mem_nil, reduceCtorEq,
    Action.copyToRequest.injEq, or_false, false_or] at h
  exact h

/-! ## Reads from a ring -/

/-- `EvtIoReadEngineRing`, the read handler of a streaming engine's queue. `copied` is the
status and the byte count that `EngineRingCopyBytesToMemory`, in the engine code, returns. -/
def evtIoReadEngineRing (wdf : WdfCalls) (id : EngineId) (length : BitVec 64)
    (copied : NTSTATUS × Nat) : List Action :=
  if !ntSuccess wdf.retrieveOutputMemory then [.complete wdf.retrieveOutputMemory 0]
  else [.engine id (.ringCopy length.toNat), .complete copied.1 copied.2]

theorem evtIoReadEngineRing_settle (wdf : WdfCalls) (id : EngineId) (length : BitVec 64)
    (copied : NTSTATUS × Nat) :
    settle (evtIoReadEngineRing wdf id length copied) =
      if ntSuccess wdf.retrieveOutputMemory then .completed copied.1 copied.2
      else .completed wdf.retrieveOutputMemory 0 := by
  unfold evtIoReadEngineRing
  cases ntSuccess wdf.retrieveOutputMemory <;> rfl

/-! ## The routines -/

/-- The `switch` of `EvtIoRead` on the node type. -/
def ioReadBranch (wdf : WdfCalls) (file : FileContext) (req : Request) :
    NTSTATUS × List Action :=
  match file.devType with
  | .c2h | .ac2h => (wdf.forwardToIoQueue, [.forward file.queue wdf.forwardToIoQueue])
  | .user | .control | .bypass =>
    completeOnSuccess (readBarToRequest wdf req file.bar) req.length.toNat
  | .events => evtReadUserEvent wdf req.length
  | .h2c | .ah2c | .unknown => (statusInvalidDeviceRequest, [])

/-- The `switch` of `EvtIoWrite` on the node type. -/
def ioWriteBranch (wdf : WdfCalls) (file : FileContext) (req : Request) :
    NTSTATUS × List Action :=
  match file.devType with
  | .h2c | .ah2c => (wdf.forwardToIoQueue, [.forward file.queue wdf.forwardToIoQueue])
  | .user | .control | .bypass =>
    completeOnSuccess (writeBarFromRequest wdf req file.bar) req.length.toNat
  | .c2h | .ac2h | .events | .unknown => (statusInvalidDeviceRequest, [])

def evtIoRead (wdf : WdfCalls) (file : FileContext) (req : Request) : List Action :=
  completeOnError (ioReadBranch wdf file req)

def evtIoWrite (wdf : WdfCalls) (file : FileContext) (req : Request) : List Action :=
  completeOnError (ioWriteBranch wdf file req)

theorem disposes_forward (queue : Option WdfQueue) (st : NTSTATUS) :
    Disposes queue (st, [.forward queue st]) := by
  unfold Disposes Settled
  split_ifs with h <;> simp [h]

theorem ioReadBranch_completes (wdf : WdfCalls) (file : FileContext) (req : Request)
    (h : file.devType ≠ .c2h ∧ file.devType ≠ .ac2h) : Completes (ioReadBranch wdf file req) := by
  unfold ioReadBranch
  cases hd : file.devType <;> simp only [hd, ne_eq, not_true_eq_false, false_and, and_false] at h ⊢
  case user | control | bypass =>
    exact completes_completeOnSuccess _ _ (barTransfer_neutral _ _ _ trivial)
  case events => exact evtReadUserEvent_completes _ _
  case h2c | ah2c | unknown => exact completes_failure statusInvalidDeviceRequest rfl

theorem ioWriteBranch_completes (wdf : WdfCalls) (file : FileContext) (req : Request)
    (h : file.devType ≠ .h2c ∧ file.devType ≠ .ah2c) : Completes (ioWriteBranch wdf file req) := by
  unfold ioWriteBranch
  cases hd : file.devType <;> simp only [hd, ne_eq, not_true_eq_false, false_and, and_false] at h ⊢
  case user | control | bypass =>
    exact completes_completeOnSuccess _ _ (barTransfer_neutral _ _ _ trivial)
  case c2h | ac2h | events | unknown => exact completes_failure statusInvalidDeviceRequest rfl

theorem evtIoRead_completed (wdf : WdfCalls) (file : FileContext) (req : Request)
    (h : file.devType ≠ .c2h ∧ file.devType ≠ .ac2h) :
    ∃ st info, settle (evtIoRead wdf file req) = .completed st info :=
  (ioReadBranch_completes wdf file req h).completeOnError

theorem evtIoWrite_completed (wdf : WdfCalls) (file : FileContext) (req : Request)
    (h : file.devType ≠ .h2c ∧ file.devType ≠ .ah2c) :
    ∃ st info, settle (evtIoWrite wdf file req) = .completed st info :=
  (ioWriteBranch_completes wdf file req h).completeOnError

theorem evtIoRead_settled (wdf : WdfCalls) (file : FileContext) (req : Request) :
    Settled file.queue (evtIoRead wdf file req) := by
  by_cases h : file.devType ≠ .c2h ∧ file.devType ≠ .ac2h
  · exact .inr (evtIoRead_completed wdf file req h)
  · have ht : file.devType = .c2h ∨ file.devType = .ac2h := by tauto
    apply Disposes.completeOnError
    rcases ht with ht | ht <;> simp only [ioReadBranch, ht] <;> exact disposes_forward _ _

theorem evtIoWrite_settled (wdf : WdfCalls) (file : FileContext) (req : Request) :
    Settled file.queue (evtIoWrite wdf file req) := by
  by_cases h : file.devType ≠ .h2c ∧ file.devType ≠ .ah2c
  · exact .inr (evtIoWrite_completed wdf file req h)
  · have ht : file.devType = .h2c ∨ file.devType = .ah2c := by tauto
    apply Disposes.completeOnError
    rcases ht with ht | ht <;> simp only [ioWriteBranch, ht] <;> exact disposes_forward _ _

/-! ## No ring, interrupt or user event -/

theorem completeOnError_plain {r : NTSTATUS × List Action} (h : ∀ a ∈ r.2, a.Plain) :
    ∀ a ∈ completeOnError r, a.Plain := by
  simp only [completeOnError, List.forall_mem_append]
  exact ⟨h, by split <;> simp [Action.Plain]⟩

theorem completeOnSuccess_plain {r : NTSTATUS × List Action} (info : Nat)
    (h : ∀ a ∈ r.2, a.Plain) : ∀ a ∈ (completeOnSuccess r info).2, a.Plain := by
  simp only [completeOnSuccess, List.forall_mem_append]
  exact ⟨h, by split <;> simp [Action.Plain]⟩

theorem barTransfer_plain (retrieved : NTSTATUS) (access : Action) (length : BitVec 64)
    (h : access.Plain) : ∀ a ∈ (barTransfer retrieved access length).2, a.Plain := by
  unfold barTransfer
  split_ifs <;> simp [h]

theorem evtIoRead_plain (wdf : WdfCalls) (file : FileContext) (req : Request)
    (h : file.devType ≠ .events) : ∀ a ∈ evtIoRead wdf file req, a.Plain := by
  refine completeOnError_plain ?_
  unfold ioReadBranch
  cases hd : file.devType
  case c2h | ac2h => simp [Action.Plain]
  case user | control | bypass => exact completeOnSuccess_plain _ (barTransfer_plain _ _ _ trivial)
  case events => exact absurd hd h
  case h2c | ah2c | unknown => exact List.forall_mem_nil _

theorem evtIoWrite_plain (wdf : WdfCalls) (file : FileContext) (req : Request) :
    ∀ a ∈ evtIoWrite wdf file req, a.Plain := by
  refine completeOnError_plain ?_
  unfold ioWriteBranch
  cases file.devType
  case h2c | ah2c => simp [Action.Plain]
  case user | control | bypass => exact completeOnSuccess_plain _ (barTransfer_plain _ _ _ trivial)
  case c2h | ac2h | events | unknown => exact List.forall_mem_nil _

/-! ## Past the end of a BAR -/

/-- `adma->bar[i]` maps `barLength` bytes of the BAR, and nothing in this file keeps a register
access inside them. -/
def Action.pastBarEnd (adma : AdmaDevice) : Action → Bool
  | .readRegisters bar offset width count | .writeRegisters bar offset width count =>
    0 < count && adma.barLength bar < offset.toNat + count * width.bytes
  | _ => false

/-- The register access of a read or a write of `req` on BAR `bar` reaches past its end. -/
def AccessPastEnd (adma : AdmaDevice) (bar : Nat) (req : Request) : Prop :=
  0 < accessCount req.length ∧
    adma.barLength bar < req.deviceOffset.toNat + accessCount req.length * (accessWidth req.length).bytes

instance (adma : AdmaDevice) (bar : Nat) (req : Request) : Decidable (AccessPastEnd adma bar req) :=
  inferInstanceAs (Decidable (_ ∧ _))

theorem evtIoRead_bar (wdf : WdfCalls) (file : FileContext) (req : Request)
    (ht : file.devType = .user ∨ file.devType = .control ∨ file.devType = .bypass)
    (hlen : req.length ≠ 0) (hr : ntSuccess wdf.retrieveOutputMemory = true) :
    evtIoRead wdf file req =
      [.readRegisters file.bar req.deviceOffset (accessWidth req.length) (accessCount req.length),
        .complete wdf.retrieveOutputMemory req.length.toNat] := by
  rcases ht with ht | ht | ht <;>
    simp only [evtIoRead, ioReadBranch, ht, readBarToRequest,
      barTransfer_of_ne_zero _ _ _ hlen hr, completeOnSuccess, completeOnError, hr] <;> simp

theorem evtIoWrite_bar (wdf : WdfCalls) (file : FileContext) (req : Request)
    (ht : file.devType = .user ∨ file.devType = .control ∨ file.devType = .bypass)
    (hlen : req.length ≠ 0) (hw : ntSuccess wdf.retrieveInputMemory = true) :
    evtIoWrite wdf file req =
      [.writeRegisters file.bar req.deviceOffset (accessWidth req.length) (accessCount req.length),
        .complete wdf.retrieveInputMemory req.length.toNat] := by
  rcases ht with ht | ht | ht <;>
    simp only [evtIoWrite, ioWriteBranch, ht, writeBarFromRequest,
      barTransfer_of_ne_zero _ _ _ hlen hw, completeOnSuccess, completeOnError, hw] <;> simp

theorem barTransfer_refused (retrieved : NTSTATUS) (access : Action) (length : BitVec 64)
    (h : ¬(length ≠ 0 ∧ ntSuccess retrieved = true)) :
    (barTransfer retrieved access length).2 = [] := by
  unfold barTransfer
  split_ifs <;> simp_all

theorem evtIoRead_pastBarEnd (adma : AdmaDevice) (wdf : WdfCalls) (file : FileContext)
    (req : Request) (ht : file.devType = .user ∨ file.devType = .control ∨ file.devType = .bypass) :
    (evtIoRead wdf file req).any (Action.pastBarEnd adma) = true ↔
      req.length ≠ 0 ∧ ntSuccess wdf.retrieveOutputMemory = true ∧ AccessPastEnd adma file.bar req := by
  by_cases hgo : req.length ≠ 0 ∧ ntSuccess wdf.retrieveOutputMemory = true
  · rw [evtIoRead_bar wdf file req ht hgo.1 hgo.2]
    simp [Action.pastBarEnd, AccessPastEnd, hgo.2]
    exact fun _ _ => hgo.1
  · have hb := barTransfer_refused _
      (.readRegisters file.bar req.deviceOffset (accessWidth req.length) (accessCount req.length))
      _ hgo
    rcases ht with ht | ht | ht <;>
      simp only [evtIoRead, ioReadBranch, ht, readBarToRequest, hb, completeOnSuccess,
        completeOnError] <;> split_ifs <;> simp_all [Action.pastBarEnd]

theorem evtIoWrite_pastBarEnd (adma : AdmaDevice) (wdf : WdfCalls) (file : FileContext)
    (req : Request) (ht : file.devType = .user ∨ file.devType = .control ∨ file.devType = .bypass) :
    (evtIoWrite wdf file req).any (Action.pastBarEnd adma) = true ↔
      req.length ≠ 0 ∧ ntSuccess wdf.retrieveInputMemory = true ∧ AccessPastEnd adma file.bar req := by
  by_cases hgo : req.length ≠ 0 ∧ ntSuccess wdf.retrieveInputMemory = true
  · rw [evtIoWrite_bar wdf file req ht hgo.1 hgo.2]
    simp [Action.pastBarEnd, AccessPastEnd, hgo.2]
    exact fun _ _ => hgo.1
  · have hb := barTransfer_refused _
      (.writeRegisters file.bar req.deviceOffset (accessWidth req.length) (accessCount req.length))
      _ hgo
    rcases ht with ht | ht | ht <;>
      simp only [evtIoWrite, ioWriteBranch, ht, writeBarFromRequest, hb, completeOnSuccess,
        completeOnError] <;> split_ifs <;> simp_all [Action.pastBarEnd]

theorem evtIoRead_dma_pastBarEnd (adma : AdmaDevice) (wdf : WdfCalls) (file : FileContext)
    (req : Request) (h : file.devType = .ah2c ∨ file.devType = .ac2h ∨ file.devType = .h2c ∨
      file.devType = .c2h) :
    (evtIoRead wdf file req).any (Action.pastBarEnd adma) = false := by
  rcases h with h | h | h | h <;> simp only [evtIoRead, ioReadBranch, h, completeOnError] <;>
    split <;> rfl

theorem evtIoWrite_dma_pastBarEnd (adma : AdmaDevice) (wdf : WdfCalls) (file : FileContext)
    (req : Request) (h : file.devType = .ah2c ∨ file.devType = .ac2h ∨ file.devType = .h2c ∨
      file.devType = .c2h) :
    (evtIoWrite wdf file req).any (Action.pastBarEnd adma) = false := by
  rcases h with h | h | h | h <;> simp only [evtIoWrite, ioWriteBranch, h, completeOnError] <;>
    split <;> rfl

/-- Open `control` on the sample device, whose configuration BAR is 0x1000 bytes long, and
read 4 bytes at offset 0x1000, every framework call succeeding: the BAR is read past its end
and the read completes with `STATUS_SUCCESS`. -/
theorem evtIoRead_control_past_bar_end :
    Created AdmaDevice.sample (some admaFileControl) ⟨.control, 0, ⟨0, .h2c⟩, 0, none⟩ ∧
      AdmaDevice.sample.barLength 0 ≤ 0x1000 + 4 ∧
      evtIoRead WdfCalls.allSucceed ⟨.control, 0, ⟨0, .h2c⟩, 0, none⟩ ⟨0x1000, 4⟩ =
        [.readRegisters 0 0x1000 .ulong 1, .complete statusSuccess 4] :=
  ⟨⟨rfl, rfl⟩, by decide, rfl⟩

end Xadma
