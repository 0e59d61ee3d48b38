import Xadma.Router

/-! # Control requests

`EvtIoDeviceControl` looks up the engine of the node's queue and runs one of four engine
operations: start or read the performance counters, read or set the address mode. Then the
routing of every kind of request, together.
-/

namespace Xadma

/-- The constants `file_io.c` takes from headers that are not part of the source. -/
structure Headers where
  /-- `ADMA_CTRL_NON_INCR_ADDR`. -/
  nonIncrAddr : BitVec 32
  /-- `sizeof(ADMA_PERF_DATA)`. -/
  perfDataSize : Nat

/-- The codes `EvtIoDeviceControl` tells apart. -/
inductive IoctlCode where
  | perfStart
  | perfGet
  | addrModeGet
  | addrModeSet
  | other (code : BitVec 32)
  deriving DecidableEq, Repr

inductive WdfFault where
  /-- A context looked up through a handle that was never set. -/
  | nullHandle
  /-- A register access outside the mapping of its BAR. -/
  | unmappedAccess
  deriving DecidableEq, Repr

/-- `GetQueueContext(file->queue)->engine`. -/
def getQueueContext (adma : AdmaDevice) : Option WdfQueue → Except WdfFault (Option EngineId)
  | none => .error .nullHandle
  | some q => .ok (adma.queueEngine q)

/-! ## The engine operations -/

/-- What `IoctlGetPerf` and `IoctlGetAddrMode` share: retrieve the output memory and copy
`size` bytes of `value` into it. -/
def copyToOutput (wdf : WdfCalls) (value : Option Nat) (size : Nat) : NTSTATUS × List Action :=
  if !ntSuccess wdf.retrieveOutputMemory then (wdf.retrieveOutputMemory, [])
  else if !ntSuccess wdf.memoryCopyFromBuffer then (wdf.memoryCopyFromBuffer, [])
  else (wdf.memoryCopyFromBuffer, [.copyToRequest value size])

def ioctlGetPerf (h : Headers) (wdf : WdfCalls) (id : EngineId) : NTSTATUS × List Action :=
  let r := copyToOutput wdf none h.perfDataSize
  (r.1, .engine id .getPerf :: r.2)

/-- The mode the control register holds: 1 when the non-incrementing bit is set. -/
def addrModeOf (h : Headers) (e : AdmaEngine) : Nat :=
  if e.control &&& h.nonIncrAddr ≠ 0 then 1 else 0

def ioctlGetAddrMode (h : Headers) (wdf : WdfCalls) (e : AdmaEngine) : NTSTATUS × List Action :=
  copyToOutput wdf (some (addrModeOf h e)) 4

/-- `IoctlSetAddrMode`: the input value sets or clears the bit, and is kept as it is in
`addressMode`. -/
def ioctlSetAddrMode (h : Headers) (wdf : WdfCalls) (e : AdmaEngine) : NTSTATUS × AdmaEngine :=
  if !ntSuccess wdf.retrieveInputMemory then (wdf.retrieveInputMemory, e)
  else if !ntSuccess wdf.memoryCopyToBuffer then (wdf.memoryCopyToBuffer, e)
  else
    let addrMode := wdf.inputValue
    let e' := if addrMode ≠ 0 then e.controlW1S h.nonIncrAddr else e.controlW1C h.nonIncrAddr
    (wdf.memoryCopyToBuffer, { e' with addressMode := addrMode })

theorem copyToOutput_neutral (wdf : WdfCalls) (value : Option Nat) (size : Nat) :
    ∀ a ∈ (copyToOutput wdf value size).2, a.Neutral := by
  unfold copyToOutput
  split_ifs <;> intro a ha <;> simp only [List.mem_singleton, List.not_mem_nil] at ha
  subst ha
  trivial

/-! ## The routine -/

/-- The `switch` of `EvtIoDeviceControl` on engine `id`: the status, the device after it, and
the effects. -/
def ioctlDispatch (h : Headers) (adma : AdmaDevice) (wdf : WdfCalls) (id : EngineId) :
    IoctlCode → NTSTATUS × AdmaDevice × List Action
  | .perfStart => (statusSuccess, adma, [.engine id .startPerf, .complete statusSuccess 0])
  | .perfGet =>
    let r := completeOnSuccess (ioctlGetPerf h wdf id) h.perfDataSize
    (r.1, adma, r.2)
  | .addrModeGet =>
    let r := completeOnSuccess (ioctlGetAddrMode h wdf (adma.engines id)) 4
    (r.1, adma, r.2)
  | .addrModeSet =>
    let r := ioctlSetAddrMode h wdf (adma.engines id)
    (r.1, adma.setEngine id r.2, if ntSuccess r.1 then [.complete statusSuccess 0] else [])
  | .other _ => (statusNotSupported, adma, [])

/-- `EvtIoDeviceControl`: the device after the request and the effects, or the fault of
looking up the context of an unset queue handle. -/
def evtIoDeviceControl (h : Headers) (adma : AdmaDevice) (wdf : WdfCalls) (file : FileContext)
    (code : IoctlCode) : Except WdfFault (AdmaDevice × List Action) := do
  match ← getQueueContext adma file.queue with
  | none => pure (adma, completeOnError (statusInvalidParameter, []))
  | some id =>
    let r := ioctlDispatch h adma wdf id code
    pure (r.2.1, completeOnError (r.1, r.2.2))

theorem evtIoDeviceControl_of_unset (h : Headers) (adma : AdmaDevice) (wdf : WdfCalls)
    (file : FileContext) (code : IoctlCode) (hq : file.queue = none) :
    evtIoDeviceControl h adma wdf file code = .error .nullHandle := by
  simp only [evtIoDeviceControl, hq, getQueueContext]
  rfl

theorem evtIoDeviceControl_of_queue (h : Headers) (adma : AdmaDevice) (wdf : WdfCalls)
    (file : FileContext) (code : IoctlCode) (q : WdfQueue) (hq : file.queue = some q) :
    evtIoDeviceControl h adma wdf file code = .ok (match adma.queueEngine q with
      | none => (adma, completeOnError (statusInvalidParameter, []))
      | some id =>
        let r := ioctlDispatch h adma wdf id code
        (r.2.1, completeOnError (r.1, r.2.2))) := by
  simp only [evtIoDeviceControl, hq, getQueueContext]
  cases adma.queueEngine q <;> rfl

theorem ioctlDispatch_completes (h : Headers) (adma : AdmaDevice) (wdf : WdfCalls)
    (id : EngineId) (code : IoctlCode) :
    Completes ((ioctlDispatch h adma wdf id code).1, (ioctlDispatch h adma wdf id code).2.2) := by
  cases code with
  | perfStart => exact ⟨_, _, rfl⟩
  | perfGet =>
    show Completes (completeOnSuccess (ioctlGetPerf h wdf id) h.perfDataSize)
    refine completes_completeOnSuccess _ _ fun a ha => ?_
    rcases List.mem_cons.1 ha with rfl | ha
    · trivial
    · exact copyToOutput_neutral wdf none h.perfDataSize a ha
  | addrModeGet =>
    show Completes (completeOnSuccess (ioctlGetAddrMode h wdf (adma.engines id)) 4)
    exact completes_completeOnSuccess _ _ (copyToOutput_neutral _ _ _)
  | addrModeSet =>
    simp only [Completes, ioctlDispatch]
    split_ifs <;> simp
  | other _ => exact completes_failure statusNotSupported rfl

theorem evtIoDeviceControl_completed (h : Headers) (adma : AdmaDevice) (wdf : WdfCalls)
    (file : FileContext) (code : IoctlCode) (q : WdfQueue) (hq : file.queue = some q) :
    ∃ adma' acts, evtIoDeviceControl h adma wdf file code = .ok (adma', acts) ∧
      ∃ st info, settle acts = .completed st info := by
  rw [evtIoDeviceControl_of_queue h adma wdf file code q hq]
  cases adma.queueEngine q with
  | none => exact ⟨_, _, rfl, (completes_failure statusInvalidParameter rfl).completeOnError⟩
  | some id => exact ⟨_, _, rfl, (ioctlDispatch_completes h adma wdf id code).completeOnError⟩

theorem copyToOutput_plain (wdf : WdfCalls) (value : Option Nat) (size : Nat) :
    ∀ a ∈ (copyToOutput wdf value size).2, a.Plain := by
  unfold copyToOutput
  split_ifs <;> simp [Action.Plain]

theorem ioctlDispatch_plain (h : Headers) (adma : AdmaDevice) (wdf : WdfCalls) (id : EngineId)
    (code : IoctlCode) : ∀ a ∈ (ioctlDispatch h adma wdf id code).2.2, a.Plain := by
  cases code with
  | perfStart => simp [ioctlDispatch, Action.Plain]
  | perfGet =>
    exact completeOnSuccess_plain _
      (List.forall_mem_cons.2 ⟨.inr rfl, copyToOutput_plain wdf none h.perfDataSize⟩)
  | addrModeGet => exact completeOnSuccess_plain _ (copyToOutput_plain wdf _ 4)
  | addrModeSet => simp only [ioctlDispatch]; split <;> simp [Action.Plain]
  | other _ => exact List.forall_mem_nil _

theorem evtIoDeviceControl_plain {h : Headers} {adma : AdmaDevice} {wdf : WdfCalls}
    {file : FileContext} {code : IoctlCode} {adma' : AdmaDevice} {acts : List Action}
    (hr : evtIoDeviceControl h adma wdf file code = .ok (adma', acts)) : ∀ a ∈ acts, a.Plain := by
  rcases hq : file.queue with _ | q
  · rw [evtIoDeviceControl_of_unset h adma wdf file code hq] at hr
    cases hr
  rw [evtIoDeviceControl_of_queue h adma wdf file code q hq] at hr
  rcases hqe : adma.queueEngine q with _ | id <;>
    simp only [hqe, Except.ok.injEq, Prod.mk.injEq] at hr <;> rw [← hr.2]
  · exact completeOnError_plain (List.forall_mem_nil _)
  · exact completeOnError_plain (ioctlDispatch_plain h adma wdf id code)

/-! ## Every request -/

theorem evtIoRead_wrong_node (wdf : WdfCalls) (file : FileContext) (req : Request)
    (h : file.devType = .h2c ∨ file.devType = .ah2c ∨ file.devType = .unknown) :
    evtIoRead wdf file req = [.complete statusInvalidDeviceRequest 0] := by
  rcases h with h | h | h <;> simp only [evtIoRead, ioReadBranch, h] <;> rfl

theorem evtIoWrite_wrong_node (wdf : WdfCalls) (file : FileContext) (req : Request)
    (h : file.devType = .c2h ∨ file.devType = .ac2h ∨ file.devType = .unknown) :
    evtIoWrite wdf file req = [.complete statusInvalidDeviceRequest 0] := by
  rcases h with h | h | h <;> simp only [evtIoWrite, ioWriteBranch, h] <;> rfl

theorem dispatch_completes_or_forwards (h : Headers) (adma : AdmaDevice) (wdf : WdfCalls)
    (file : FileContext) (req : Request) (code : IoctlCode) :
    Settled file.queue (evtIoRead wdf file req) ∧ Settled file.queue (evtIoWrite wdf file req) ∧
    (∀ q, file.queue = some q → ∃ adma' acts,
      evtIoDeviceControl h adma wdf file code = .ok (adma', acts) ∧
        ∃ st info, settle acts = .completed st info) ∧
    (∀ q, settle (evtIoRead wdf file req) = .forwarded q →
      file.devType = .c2h ∨ file.devType = .ac2h) ∧
    (∀ q, settle (evtIoWrite wdf file req) = .forwarded q →
      file.devType = .h2c ∨ file.devType = .ah2c) ∧
    (file.devType = .h2c ∨ file.devType = .ah2c ∨ file.devType = .unknown →
      evtIoRead wdf file req = [.complete statusInvalidDeviceRequest 0]) ∧
    (file.devType = .c2h ∨ file.devType = .ac2h ∨ file.devType = .unknown →
      evtIoWrite wdf file req = [.complete statusInvalidDeviceRequest 0]) := by
  refine ⟨evtIoRead_settled wdf file req, evtIoWrite_settled wdf file req,
    evtIoDeviceControl_completed h adma wdf file code, fun q hf => ?_, fun q hf => ?_,
    evtIoRead_wrong_node wdf file req, evtIoWrite_wrong_node wdf file req⟩
  · by_contra hn
    obtain ⟨st, info, hc⟩ := evtIoRead_completed wdf file req (by tauto)
    simp [hc] at hf
  · by_contra hn
    obtain ⟨st, info, hc⟩ := evtIoWrite_completed wdf file req (by tauto)
    simp [hc] at hf

end Xadma
