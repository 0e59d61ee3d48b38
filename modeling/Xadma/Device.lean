import Xadma.Wdf

/-! # Devices, engines and device nodes

The parts of `ADMA_DEVICE` and `ADMA_ENGINE` that `file_io.c` reads, the context of an opened
device node, and `EvtDeviceFileCreate`, which binds a node to its BAR, engine or event.
-/

namespace Xadma

/-! ## Engines -/

inductive EngineType where
  | mm
  | st
  deriving DecidableEq, Repr

/-- The fields of `ADMA_ENGINE` this file reads; `control` is `regs->control`. -/
structure AdmaEngine where
  enabled : Bool
  type : EngineType
  poll : Bool
  control : BitVec 32
  addressMode : BitVec 32
  deriving DecidableEq, Repr

/-- A write of `v` to the write-1-to-set alias `regs->controlW1S`. -/
def AdmaEngine.controlW1S (e : AdmaEngine) (v : BitVec 32) : AdmaEngine :=
  { e with control := e.control ||| v }

/-- A write of `v` to the write-1-to-clear alias `regs->controlW1C`. -/
def AdmaEngine.controlW1C (e : AdmaEngine) (v : BitVec 32) : AdmaEngine :=
  { e with control := e.control &&& ~~~v }

/-! ## The device -/

/-- The fields of `ADMA_DEVICE` and the device context that `file_io.c` reads. A result about
the device is about these fields only: the BARs' contents, which BAR writes change (engine
registers such as `control` among them, in the configuration BAR), and the engines'
performance counters, which the engine code changes, are not part of the record. -/
structure AdmaDevice where
  numBars : Nat
  barLength : Nat → Nat
  configBarIdx : Nat
  userBarIdx : Int
  bypassBarIdx : Int
  engines : EngineId → AdmaEngine
  /-- `ctx->engineQueue[dir][channel]`. -/
  engineQueue : EngineId → WdfQueue
  /-- `GetQueueContext(queue)->engine` of a valid queue handle. -/
  queueEngine : WdfQueue → Option EngineId

def AdmaDevice.setEngine (adma : AdmaDevice) (id : EngineId) (e : AdmaEngine) : AdmaDevice :=
  { adma with engines := Function.update adma.engines id e }

@[simp] theorem AdmaDevice.setEngine_engines_self (adma : AdmaDevice) (id : EngineId)
    (e : AdmaEngine) : (adma.setEngine id e).engines id = e := by
  simp [AdmaDevice.setEngine]

@[simp] theorem AdmaDevice.setEngine_engines_ne (adma : AdmaDevice) {id id' : EngineId}
    (e : AdmaEngine) (h : id' ≠ id) : (adma.setEngine id e).engines id' = adma.engines id' := by
  simp [AdmaDevice.setEngine, h]

@[simp] theorem AdmaDevice.setEngine_queueEngine (adma : AdmaDevice) (id : EngineId)
    (e : AdmaEngine) : (adma.setEngine id e).queueEngine = adma.queueEngine := rfl

@[simp] theorem AdmaDevice.setEngine_self (adma : AdmaDevice) (id : EngineId) :
    adma.setEngine id (adma.engines id) = adma := by
  simp [AdmaDevice.setEngine]

/-- `adma'` is `adma` with at most the control register and the address mode of engines
changed. -/
def AdmaDevice.SameBut (adma adma' : AdmaDevice) : Prop :=
  adma' = { adma with
    engines := fun id => { adma.engines id with
      control := (adma'.engines id).control
      addressMode := (adma'.engines id).addressMode } }

theorem AdmaDevice.SameBut.refl (adma : AdmaDevice) : adma.SameBut adma := rfl

theorem AdmaDevice.SameBut.trans {adma₀ adma₁ adma₂ : AdmaDevice} (h₁ : adma₀.SameBut adma₁)
    (h₂ : adma₁.SameBut adma₂) : adma₀.SameBut adma₂ := by
  unfold AdmaDevice.SameBut at *
  conv_lhs => rw [h₂, h₁]

theorem AdmaDevice.SameBut.config {adma adma' : AdmaDevice} (h : adma.SameBut adma') :
    adma'.engineQueue = adma.engineQueue ∧ adma'.queueEngine = adma.queueEngine ∧
      ∀ id, (adma'.engines id).poll = (adma.engines id).poll ∧
        (adma'.engines id).type = (adma.engines id).type := by
  rw [h]
  exact ⟨rfl, rfl, fun _ => ⟨rfl, rfl⟩⟩

theorem AdmaDevice.setEngine_sameBut (adma : AdmaDevice) (id : EngineId) (e : AdmaEngine)
    (he : e = { adma.engines id with control := e.control, addressMode := e.addressMode }) :
    adma.SameBut (adma.setEngine id e) := by
  unfold AdmaDevice.SameBut AdmaDevice.setEngine
  congr 1
  funext id'
  by_cases hid : id' = id
  · subst hid
    simpa using he
  · simp [hid]

/-- One 4 KiB configuration BAR and no user or bypass BAR, every engine enabled, memory-mapped
and interrupt driven; queue `2 * c` serves `h2c_c` and queue `2 * c + 1` serves `c2h_c`. -/
def AdmaDevice.sample : AdmaDevice where
  numBars := 1
  barLength := fun _ => 0x1000
  configBarIdx := 0
  userBarIdx := -1
  bypassBarIdx := -1
  engines := fun _ => ⟨true, .mm, false, 0, 0⟩
  engineQueue := fun id => 2 * id.channel + if id.dir = .h2c then 0 else 1
  queueEngine := fun q => some ⟨q / 2, if q % 2 = 0 then .h2c else .c2h⟩

/-! ## Device nodes -/

inductive DevNodeType where
  | h2c
  | c2h
  | user
  | control
  | events
  | bypass
  | ah2c
  | ac2h
  | unknown
  deriving DecidableEq, Repr

/-- `FILE_CONTEXT`. The union `u` is one field per member: a node reads only the member that
`EvtDeviceFileCreate` sets for its type. -/
structure FileContext where
  devType : DevNodeType
  bar : Nat
  engine : EngineId
  event : Nat
  queue : Option WdfQueue
  deriving DecidableEq, Repr

/-- The context as the framework allocates it, zeroed: no queue is set. -/
def FileContext.zero : FileContext := ⟨.unknown, 0, ⟨0, .h2c⟩, 0, none⟩

/-- `ADMA_FILE_H2C_0`; the node names are defined in a header that is not part of the
source. -/
def admaFileH2c0 : String := "h2c_0"

def admaFileC2h0 : String := "c2h_0"

def admaFileUser : String := "user"

def admaFileControl : String := "control"

def fileNameLUT : List (DevNodeType × String × Nat) :=
  [(.ah2c, admaFileH2c0, 0), (.ac2h, admaFileC2h0, 0), (.user, admaFileUser, 0),
    (.control, admaFileControl, 0)]

/-- The node type and channel of the first entry named `fileName`; with no such entry,
`ID_DEVNODE_UNKNOWN` and the caller's `index` untouched. -/
def getDevNodeType (fileName : String) (index : Nat) : DevNodeType × Nat :=
  match fileNameLUT.find? (fun e => e.2.1 == fileName) with
  | some (t, _, ch) => (t, ch)
  | none => (.unknown, index)

/-! ## Creating a node -/

/-- What the two kinds of DMA node share: the engine must be enabled, and the node gets the
engine and its queue, after the engine calls `setup`. -/
def bindEngine (adma : AdmaDevice) (file : FileContext) (id : EngineId) (setup : List Action) :
    NTSTATUS × FileContext × List Action :=
  if (adma.engines id).enabled = false then (statusInvalidParameter, file, [])
  else (statusSuccess, { file with engine := id, queue := some (adma.engineQueue id) }, setup)

/-- The `switch` of `EvtDeviceFileCreate` on the node type, for channel `index`. -/
def bindDevNode (adma : AdmaDevice) (file : FileContext) (index : Nat) :
    NTSTATUS × FileContext × List Action :=
  match file.devType with
  | .control => (statusSuccess, { file with bar := adma.configBarIdx }, [])
  | .user =>
    if adma.userBarIdx < 0 then (statusInvalidParameter, file, [])
    else (statusSuccess, { file with bar := adma.userBarIdx.toNat }, [])
  | .bypass =>
    if adma.bypassBarIdx < 0 then (statusInvalidParameter, file, [])
    else (statusSuccess, { file with bar := adma.bypassBarIdx.toNat }, [])
  | .h2c | .c2h =>
    let id : EngineId := ⟨index, if file.devType = .h2c then .h2c else .c2h⟩
    let e := adma.engines id
    bindEngine adma file id
      ((if e.type = .st ∧ id.dir = .c2h then [.engine id .ringSetup] else []) ++
        [.engine id (if e.poll then .disableInterrupt else .enableInterrupt)])
  | .ah2c | .ac2h => bindEngine adma file ⟨index, if file.devType = .ah2c then .h2c else .c2h⟩ []
  | .events => (statusSuccess, { file with event := index }, [])
  | .unknown => (statusSuccess, file, [])

/-- `EvtDeviceFileCreate`: the new node's context, and the effects, the last of which
completes the create request. -/
def evtDeviceFileCreate (adma : AdmaDevice) (fileName : Option String) :
    FileContext × List Action :=
  match fileName with
  | none => (FileContext.zero, [.complete statusInvalidParameter 0])
  | some name =>
    let found := getDevNodeType name 0
    let file := { FileContext.zero with devType := found.1 }
    if found.1 = .unknown then (file, [.complete statusInvalidParameter 0])
    else
      let bound := bindDevNode adma file found.2
      (bound.2.1, bound.2.2 ++ [.complete bound.1 0])

/-- `EvtFileCleanup`: a `C2H` node of a streaming engine tears down the engine's ring. -/
def evtFileCleanup (adma : AdmaDevice) (file : FileContext) : List Action :=
  if file.devType = .c2h ∧ (adma.engines file.engine).type = .st then
    [.engine file.engine .ringTeardown]
  else []

/-- The create request of `fileName` completed with `STATUS_SUCCESS`, leaving `file`. -/
def Created (adma : AdmaDevice) (fileName : Option String) (file : FileContext) : Prop :=
  (evtDeviceFileCreate adma fileName).1 = file ∧
    settle (evtDeviceFileCreate adma fileName).2 = .completed statusSuccess 0

/-- What a successful create leaves in a node's context: the DMA nodes hold an enabled
engine and its queue, the other nodes no queue. -/
def FileContext.Bound (adma : AdmaDevice) (file : FileContext) : Prop :=
  match file.devType with
  | .h2c | .c2h | .ah2c | .ac2h =>
    file.queue = some (adma.engineQueue file.engine) ∧ (adma.engines file.engine).enabled = true
  | .control | .user | .bypass | .events => file.queue = none
  | .unknown => False

theorem getDevNodeType_mem (name : String) (index : Nat) :
    (getDevNodeType name index).1 ∈ [.ah2c, .ac2h, .user, .control, .unknown] := by
  unfold getDevNodeType
  split
  · rename_i h
    have := List.mem_of_find?_eq_some h
    simp only [fileNameLUT, List.mem_cons, Prod.mk.injEq, List.not_mem_nil, or_false] at this
    rcases this with ⟨rfl, -⟩ | ⟨rfl, -⟩ | ⟨rfl, -⟩ | ⟨rfl, -⟩ <;> simp
  · simp

theorem getDevNodeType_eq (name : String) (index : Nat) :
    getDevNodeType name index =
      if name = admaFileH2c0 then (.ah2c, 0) else if name = admaFileC2h0 then (.ac2h, 0)
      else if name = admaFileUser then (.user, 0)
      else if name = admaFileControl then (.control, 0) else (.unknown, index) := by
  unfold getDevNodeType
  by_cases h1 : name = admaFileH2c0
  · subst h1; rfl
  by_cases h2 : name = admaFileC2h0
  · subst h2; rfl
  by_cases h3 : name = admaFileUser
  · subst h3; rfl
  by_cases h4 : name = admaFileControl
  · subst h4; rfl
  rw [if_neg h1, if_neg h2, if_neg h3, if_neg h4]
  simp only [fileNameLUT, List.find?, beq_false_of_ne (Ne.symm h1), beq_false_of_ne (Ne.symm h2),
    beq_false_of_ne (Ne.symm h3), beq_false_of_ne (Ne.symm h4)]

theorem bindEngine_success {adma : AdmaDevice} {file : FileContext} {id : EngineId}
    {setup : List Action} (hs : (bindEngine adma file id setup).1 = statusSuccess) :
    (adma.engines id).enabled = true ∧
      (bindEngine adma file id setup).2.1 =
        { file with engine := id, queue := some (adma.engineQueue id) } := by
  unfold bindEngine at hs ⊢
  split_ifs at hs ⊢ with h
  · simp at hs
  · simpa using h

theorem bindDevNode_bound (adma : AdmaDevice) (file : FileContext) (index : Nat)
    (hq : file.queue = none) (ht : file.devType ≠ .unknown)
    (hs : (bindDevNode adma file index).1 = statusSuccess) :
    (bindDevNode adma file index).2.1.Bound adma := by
  rcases file with ⟨t, bar, engine, event, queue⟩
  simp only at hq ht
  subst hq
  cases t <;> simp only [bindDevNode] at hs ⊢
  case h2c | c2h | ah2c | ac2h =>
    obtain ⟨he, h⟩ := bindEngine_success hs
    rw [h]
    exact ⟨rfl, he⟩
  case user | bypass =>
    split_ifs at hs ⊢
    · simp at hs
    · rfl
  case control | events => rfl
  case unknown => exact absurd rfl ht

theorem mem_setup_of_bindEngine {adma : AdmaDevice} {file : FileContext} {id : EngineId}
    {setup : List Action} {a : Action} (h : a ∈ (bindEngine adma file id setup).2.2) :
    a ∈ setup := by
  unfold bindEngine at h
  split_ifs at h
  · cases h
  · exact h

theorem bindEngine_neutral (adma : AdmaDevice) (file : FileContext) (id : EngineId)
    (setup : List Action) (h : ∀ a ∈ setup, a.Neutral) :
    ∀ a ∈ (bindEngine adma file id setup).2.2, a.Neutral :=
  fun a ha => h a (mem_setup_of_bindEngine ha)

theorem bindDevNode_neutral (adma : AdmaDevice) (file : FileContext) (index : Nat) :
    ∀ a ∈ (bindDevNode adma file index).2.2, a.Neutral := by
  rcases file with ⟨t, bar, engine, event, queue⟩
  cases t <;> simp only [bindDevNode]
  case h2c | c2h =>
    refine bindEngine_neutral _ _ _ _ fun a ha => ?_
    simp only [List.mem_append, List.mem_ite_nil_right, List.mem_singleton] at ha
    rcases ha with ⟨-, rfl⟩ | rfl <;> trivial
  case ah2c | ac2h => exact bindEngine_neutral _ _ _ _ fun _ => nofun
  case user | bypass => split_ifs <;> exact fun _ => nofun
  case control | events | unknown => exact fun _ => nofun

theorem bindDevNode_no_calls (adma : AdmaDevice) (file : FileContext) (index : Nat)
    (ht : file.devType ≠ .h2c ∧ file.devType ≠ .c2h) : (bindDevNode adma file index).2.2 = [] := by
  refine List.eq_nil_iff_forall_not_mem.2 fun a ha => ?_
  rcases file with ⟨t, bar, engine, event, queue⟩
  cases t <;> simp only [bindDevNode] at ha ht
  case h2c | c2h => simp at ht
  case ah2c | ac2h => cases mem_setup_of_bindEngine ha
  case user | bypass => split_ifs at ha <;> cases ha
  case control | events | unknown => cases ha

theorem evtDeviceFileCreate_acts (adma : AdmaDevice) (fileName : Option String) :
    ∃ st, (evtDeviceFileCreate adma fileName).2 = [.complete st 0] := by
  rcases fileName with _ | name
  · exact ⟨_, rfl⟩
  simp only [evtDeviceFileCreate]
  split_ifs
  · exact ⟨_, rfl⟩
  · have ht : (getDevNodeType name 0).1 ≠ .h2c ∧ (getDevNodeType name 0).1 ≠ .c2h := by
      have hm := getDevNodeType_mem name 0
      simp only [List.mem_cons, List.mem_singleton, List.not_mem_nil, or_false] at hm
      rcases hm with hm | hm | hm | hm | hm <;> rw [hm] <;> decide
    exact ⟨_, by rw [bindDevNode_no_calls _ _ _ ht, List.nil_append]⟩

theorem bindEngine_devType (adma : AdmaDevice) (file : FileContext) (id : EngineId)
    (setup : List Action) : (bindEngine adma file id setup).2.1.devType = file.devType := by
  unfold bindEngine
  split <;> rfl

theorem bindDevNode_devType (adma : AdmaDevice) (file : FileContext) (index : Nat) :
    (bindDevNode adma file index).2.1.devType = file.devType := by
  rcases file with ⟨t, bar, engine, event, queue⟩
  cases t <;> simp only [bindDevNode]
  case h2c | c2h | ah2c | ac2h => exact bindEngine_devType ..
  case user | bypass => split <;> rfl

theorem bindDevNode_ringSetup {adma : AdmaDevice} {file : FileContext} {index : Nat}
    {id : EngineId} (h : .engine id .ringSetup ∈ (bindDevNode adma file index).2.2) :
    file.devType = .c2h ∧ id = ⟨index, .c2h⟩ ∧ (adma.engines id).type = .st := by
  rcases file with ⟨t, bar, engine, event, queue⟩
  cases t <;> simp only [bindDevNode] at h
  -- The interrupt call that follows is not a ring setup.
  case h2c =>
    have h := mem_setup_of_bindEngine h
    simp only [List.mem_append, List.mem_ite_nil_right, List.mem_singleton, List.not_mem_nil,
      Action.engine.injEq, reduceCtorEq, ↓reduceIte, and_false, false_and, false_or] at h
    split at h <;> cases h.2
  case c2h =>
    have h := mem_setup_of_bindEngine h
    simp only [List.mem_append, List.mem_ite_nil_right, List.mem_singleton, Action.engine.injEq,
      reduceCtorEq, ↓reduceIte, and_true] at h
    rcases h with ⟨hst, rfl⟩ | ⟨-, h⟩
    · exact ⟨rfl, rfl, hst⟩
    · split at h <;> cases h
  case ah2c | ac2h => cases mem_setup_of_bindEngine h
  case user | bypass => split_ifs at h <;> cases h
  case control | events | unknown => cases h

theorem Created.inv {adma : AdmaDevice} {fileName : Option String} {file : FileContext}
    (h : Created adma fileName file) :
    ∃ name, fileName = some name ∧ (getDevNodeType name 0).1 ≠ .unknown ∧
      ∃ b, b = bindDevNode adma { FileContext.zero with devType := (getDevNodeType name 0).1 }
          (getDevNodeType name 0).2 ∧
        b.1 = statusSuccess ∧ file = b.2.1 ∧
        (evtDeviceFileCreate adma fileName).2 = b.2.2 ++ [.complete b.1 0] := by
  obtain ⟨rfl, hs⟩ := h
  rcases fileName with _ | name
  · simp [evtDeviceFileCreate] at hs
  · simp only [evtDeviceFileCreate] at hs ⊢
    split_ifs at hs ⊢ with hu
    · simp at hs
    · rw [settle_neutral_append _ _ (bindDevNode_neutral _ _ _)] at hs
      simp only [settle_complete, ReqState.completed.injEq, and_true] at hs
      exact ⟨name, rfl, hu, _, rfl, hs, rfl, rfl⟩

theorem Created.bound {adma : AdmaDevice} {fileName : Option String} {file : FileContext}
    (h : Created adma fileName file) : file.Bound adma := by
  obtain ⟨name, -, hu, b, rfl, hs, rfl, -⟩ := h.inv
  exact bindDevNode_bound _ _ _ rfl hu hs

theorem FileContext.Bound.queue_eq {adma : AdmaDevice} {file : FileContext} {q : WdfQueue}
    (hb : file.Bound adma) (hq : file.queue = some q) : q = adma.engineQueue file.engine := by
  rcases file with ⟨t, bar, engine, event, queue⟩
  cases t
  case h2c | c2h | ah2c | ac2h => exact Option.some.inj (hq.symm.trans hb.1)
  case control | user | bypass | events => cases hq.symm.trans hb
  case unknown => exact hb.elim

theorem FileContext.Bound.sameBut {adma adma' : AdmaDevice} {file : FileContext}
    (hb : file.Bound adma) (hs : adma.SameBut adma') : file.Bound adma' := by
  rw [hs]
  exact hb

theorem FileContext.Bound.queue_of_dma {adma : AdmaDevice} {file : FileContext}
    (hb : file.Bound adma) (hdma : file.devType = .ah2c ∨ file.devType = .ac2h ∨
      file.devType = .h2c ∨ file.devType = .c2h) :
    file.queue = some (adma.engineQueue file.engine) := by
  unfold FileContext.Bound at hb
  rcases hdma with hd | hd | hd | hd <;> rw [hd] at hb <;> exact hb.1

theorem FileContext.Bound.enabled_of_dma {adma : AdmaDevice} {file : FileContext}
    (hb : file.Bound adma) (hdma : file.devType = .ah2c ∨ file.devType = .ac2h ∨
      file.devType = .h2c ∨ file.devType = .c2h) :
    (adma.engines file.engine).enabled = true := by
  unfold FileContext.Bound at hb
  rcases hdma with hd | hd | hd | hd <;> rw [hd] at hb <;> exact hb.2

theorem FileContext.Bound.queue_of_not_dma {adma : AdmaDevice} {file : FileContext}
    (hb : file.Bound adma) (hdma : file.devType ≠ .ah2c ∧ file.devType ≠ .ac2h ∧
      file.devType ≠ .h2c ∧ file.devType ≠ .c2h) : file.queue = none := by
  rcases file with ⟨t, bar, engine, event, queue⟩
  obtain ⟨h1, h2, h3, h4⟩ := hdma
  cases t
  case h2c | c2h | ah2c | ac2h => contradiction
  case control | user | bypass | events => exact hb
  case unknown => exact hb.elim

theorem Created.kind {adma : AdmaDevice} {fileName : Option String} {file : FileContext}
    (h : Created adma fileName file) :
    file.devType = .ah2c ∨ file.devType = .ac2h ∨ file.devType = .user ∨
      file.devType = .control := by
  obtain ⟨name, -, hu, b, rfl, -, rfl, -⟩ := h.inv
  rw [bindDevNode_devType]
  have hkinds : ∀ t ∈ [DevNodeType.ah2c, .ac2h, .user, .control, .unknown], t ≠ .unknown →
      t = .ah2c ∨ t = .ac2h ∨ t = .user ∨ t = .control := by decide
  exact hkinds _ (getDevNodeType_mem name 0) hu

theorem getDevNodeType_channel (name : String) : (getDevNodeType name 0).2 = 0 := by
  rw [getDevNodeType_eq]
  split_ifs <;> rfl

theorem Created.engine {adma : AdmaDevice} {fileName : Option String} {file : FileContext}
    (h : Created adma fileName file) :
    (file.devType = .ah2c → file.engine = ⟨0, .h2c⟩) ∧
      (file.devType = .ac2h → file.engine = ⟨0, .c2h⟩) := by
  obtain ⟨name, -, -, b, rfl, hs, rfl, -⟩ := h.inv
  rw [getDevNodeType_channel] at hs ⊢
  rw [bindDevNode_devType]
  generalize (getDevNodeType name 0).1 = t at hs ⊢
  cases t
  case ah2c | ac2h =>
    simp only [bindDevNode, reduceCtorEq, ↓reduceIte] at hs ⊢
    rw [(bindEngine_success hs).2]
    simp
  all_goals simp

/-- `EvtDeviceFileCreate` opens only the nodes of its name table, so no create sets up a ring
and no cleanup of a created node tears one down. -/
theorem created_nodes_have_no_ring (adma : AdmaDevice) (fileName : Option String)
    (file : FileContext) (h : Created adma fileName file) :
    (file.devType = .ah2c ∨ file.devType = .ac2h ∨ file.devType = .user ∨
      file.devType = .control) ∧
    (∀ id, .engine id .ringSetup ∉ (evtDeviceFileCreate adma fileName).2) ∧
    evtFileCleanup adma file = [] := by
  have hk := h.kind
  have hc2h : file.devType ≠ .c2h := by rcases hk with hk | hk | hk | hk <;> rw [hk] <;> decide
  refine ⟨hk, fun id hid => ?_, if_neg fun hc => hc2h hc.1⟩
  obtain ⟨name, -, -, b, rfl, -, rfl, hacts⟩ := h.inv
  rw [hacts, List.mem_append] at hid
  rcases hid with hid | hid
  · exact hc2h ((bindDevNode_devType ..).trans (bindDevNode_ringSetup hid).1)
  · simp only [List.mem_singleton, reduceCtorEq] at hid

theorem created_nodes_have_no_ring_c2h :
    Created AdmaDevice.sample (some admaFileC2h0) ⟨.ac2h, 0, ⟨0, .c2h⟩, 0, some 1⟩ ∧
      (DevNodeType.ac2h = .ah2c ∨ DevNodeType.ac2h = .ac2h ∨ DevNodeType.ac2h = .user ∨
        DevNodeType.ac2h = .control) ∧
      (∀ id, .engine id .ringSetup ∉ (evtDeviceFileCreate AdmaDevice.sample (some admaFileC2h0)).2) ∧
      evtFileCleanup AdmaDevice.sample ⟨.ac2h, 0, ⟨0, .c2h⟩, 0, some 1⟩ = [] :=
  have hc : Created AdmaDevice.sample (some admaFileC2h0) ⟨.ac2h, 0, ⟨0, .c2h⟩, 0, some 1⟩ :=
    ⟨rfl, rfl⟩
  ⟨hc, created_nodes_have_no_ring _ _ _ hc⟩

end Xadma
