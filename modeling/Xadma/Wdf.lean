import Mathlib.Data.BitVec
import Mathlib.Data.List.Basic

/-! # The framework side of a request

`NTSTATUS` values, what the framework calls of one request's path return, the effects a
callback of `file_io.c` has, and the life of a request as the framework keeps it: pending
until one forward or one completion.
-/

namespace Xadma

/-! ## Status values -/

abbrev NTSTATUS := BitVec 32

/-- `NT_SUCCESS`: the status, read as a signed 32-bit value, is not negative. -/
def ntSuccess (s : NTSTATUS) : Bool := s.toNat < 0x80000000

def statusSuccess : NTSTATUS := 0x00000000
def statusTimeout : NTSTATUS := 0x00000102
def statusInvalidParameter : NTSTATUS := 0xC000000D
def statusInvalidDeviceRequest : NTSTATUS := 0xC0000010
def statusNotSupported : NTSTATUS := 0xC00000BB
def statusInternalError : NTSTATUS := 0xC00000E5
def statusCancelled : NTSTATUS := 0xC0000120
def statusInsufficientResources : NTSTATUS := 0xC000009A

@[simp] theorem ntSuccess_statusSuccess : ntSuccess statusSuccess = true := rfl
@[simp] theorem ntSuccess_statusTimeout : ntSuccess statusTimeout = true := rfl
@[simp] theorem ntSuccess_statusInvalidParameter : ntSuccess statusInvalidParameter = false := rfl
@[simp] theorem ntSuccess_statusInvalidDeviceRequest :
    ntSuccess statusInvalidDeviceRequest = false := rfl
@[simp] theorem ntSuccess_statusNotSupported : ntSuccess statusNotSupported = false := rfl
@[simp] theorem ntSuccess_statusInternalError : ntSuccess statusInternalError = false := rfl
@[simp] theorem ntSuccess_statusCancelled : ntSuccess statusCancelled = false := rfl
@[simp] theorem ntSuccess_statusInsufficientResources :
    ntSuccess statusInsufficientResources = false := rfl

@[simp] theorem statusInvalidParameter_ne_statusSuccess :
    statusInvalidParameter ≠ statusSuccess := by decide
@[simp] theorem statusInvalidDeviceRequest_ne_statusSuccess :
    statusInvalidDeviceRequest ≠ statusSuccess := by decide

/-! ## Handles -/

abbrev WdfQueue := Nat

inductive Dir where
  | h2c
  | c2h
  deriving DecidableEq, Repr

/-- `&adma->engines[channel][dir]`. -/
structure EngineId where
  channel : Nat
  dir : Dir
  deriving DecidableEq, Repr

/-! ## One request's path -/

/-- The parameters of a read or write request: `DeviceOffset` cast to `size_t`, and
`Length`. -/
structure Request where
  deviceOffset : BitVec 64
  length : BitVec 64
  deriving DecidableEq, Repr

/-- What the framework and kernel calls on one request's path return. No path calls one of
them twice, so one value each covers every outcome. -/
structure WdfCalls where
  forwardToIoQueue : NTSTATUS
  retrieveOutputMemory : NTSTATUS
  retrieveInputMemory : NTSTATUS
  memoryCopyFromBuffer : NTSTATUS
  memoryCopyToBuffer : NTSTATUS
  /-- The size `WdfMemoryGetBuffer` reports for the output memory. -/
  outputBufferSize : Nat
  /-- The `ULONG` that `WdfMemoryCopyToBuffer` takes from the input memory. -/
  inputValue : BitVec 32
  waitStatus : NTSTATUS
  /-- A register access that reaches past the end of the BAR's mapping faults. -/
  accessFaults : Bool
  deriving DecidableEq, Repr

/-- Every call succeeds, the output buffer holds one byte, the input value is 0, the wait is
satisfied, and an access past a BAR's end does not fault. -/
def WdfCalls.allSucceed : WdfCalls := ⟨0, 0, 0, 0, 0, 1, 0, 0, false⟩

inductive Width where
  | uchar
  | ushort
  | ulong
  deriving DecidableEq, Repr

/-- Calls into the engine code, which is not part of this file. -/
inductive EngineCall where
  | ringSetup
  | ringTeardown
  /-- `EngineRingCopyBytesToMemory`, asked for at most `length` bytes. -/
  | ringCopy (length : Nat)
  | enableInterrupt
  | disableInterrupt
  | startPerf
  | getPerf
  | stop
  | pollTransfer
  deriving DecidableEq, Repr

/-- The effects of a callback that the world outside it sees. -/
inductive Action where
  /-- `WdfRequestForwardToIoQueue`, with the status it returned. -/
  | forward (queue : Option WdfQueue) (status : NTSTATUS)
  /-- `WdfRequestComplete` (information 0) or `WdfRequestCompleteWithInformation`. -/
  | complete (status : NTSTATUS) (information : Nat)
  | readRegisters (bar : Nat) (offset : BitVec 64) (width : Width) (count : Nat)
  | writeRegisters (bar : Nat) (offset : BitVec 64) (width : Width) (count : Nat)
  /-- A successful `WdfMemoryCopyFromBuffer` into the request's memory; `none` for data the
  model does not track (the performance counters). -/
  | copyToRequest (value : Option Nat) (size : Nat)
  | clearEvent
  | waitForEvent
  | engine (id : EngineId) (call : EngineCall)
  deriving DecidableEq, Repr

/-! ## The life of a request -/

inductive ReqState where
  | pending
  | forwarded (queue : Option WdfQueue)
  | completed (status : NTSTATUS) (information : Nat)
  /-- Completed or forwarded again after it was completed or forwarded away. -/
  | misused
  deriving DecidableEq, Repr

/-- A failed forward leaves the request with the driver. -/
def ReqState.next : ReqState → Action → ReqState
  | .pending, .forward q st => if ntSuccess st then .forwarded q else .pending
  | .pending, .complete st info => .completed st info
  | .forwarded _, .forward .. | .forwarded _, .complete .. => .misused
  | .completed .., .forward .. | .completed .., .complete .. => .misused
  | s, _ => s

def settle (acts : List Action) : ReqState := acts.foldl ReqState.next .pending

/-- A callback is done with its request: forwarded to `queue`, or completed once. -/
def Settled (queue : Option WdfQueue) (acts : List Action) : Prop :=
  settle acts = .forwarded queue ∨ ∃ st info, settle acts = .completed st info

def Action.Neutral : Action → Prop
  | .forward .. | .complete .. => False
  | _ => True

/-- Neither a user-event wait nor an engine call other than the performance counters': no
ring and no interrupt call. -/
def Action.Plain : Action → Prop
  | .clearEvent | .waitForEvent => False
  | .engine _ c => c = .startPerf ∨ c = .getPerf
  | _ => True

@[simp] theorem ReqState.next_neutral (s : ReqState) (a : Action) (h : a.Neutral) :
    s.next a = s := by
  cases s <;> cases a <;> first | rfl | exact absurd h id

theorem settle_neutral_append (pre acts : List Action) (h : ∀ a ∈ pre, a.Neutral) :
    settle (pre ++ acts) = settle acts := by
  have hpre : pre.foldl ReqState.next .pending = .pending := by
    induction pre with
    | nil => rfl
    | cons a pre ih =>
      simp only [List.foldl_cons, ReqState.next_neutral _ a (h a (by simp))]
      exact ih fun b hb => h b (by simp [hb])
  simp only [settle, List.foldl_append, hpre]

@[simp] theorem settle_nil : settle [] = .pending := rfl

@[simp] theorem settle_forward (q : Option WdfQueue) (st : NTSTATUS) :
    settle [.forward q st] = if ntSuccess st then .forwarded q else .pending := rfl

@[simp] theorem settle_complete (st : NTSTATUS) (info : Nat) :
    settle [.complete st info] = .completed st info := rfl

end Xadma
