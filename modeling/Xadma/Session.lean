import Xadma.Control

/-! # From opening a node to its control requests

`EvtDeviceFileCreate` sets a queue only on DMA nodes, and `EvtIoDeviceControl` reads the
engine through that queue. On a DMA node a control request touches only the engine of the
queue the node was bound to, and a whole session of reads, writes and control requests runs
without a fault; on any other node a control request looks up a context through a queue
handle that was never set.
-/

namespace Xadma

/-! ## What a control request may change -/

theorem ioctlDispatch_engines (h : Headers) (adma : AdmaDevice) (wdf : WdfCalls)
    (id : EngineId) (code : IoctlCode) (id' : EngineId) (hne : id' ≠ id) :
    (ioctlDispatch h adma wdf id code).2.1.engines id' = adma.engines id' := by
  cases code <;> simp [ioctlDispatch, hne]

theorem ioctlDispatch_queueEngine (h : Headers) (adma : AdmaDevice) (wdf : WdfCalls)
    (id : EngineId) (code : IoctlCode) :
    (ioctlDispatch h adma wdf id code).2.1.queueEngine = adma.queueEngine := by
  cases code <;> rfl

theorem evtIoDeviceControl_frame (h : Headers) (adma : AdmaDevice) (wdf : WdfCalls)
    (file : FileContext) (code : IoctlCode) (adma' : AdmaDevice) (acts : List Action)
    (hr : evtIoDeviceControl h adma wdf file code = .ok (adma', acts)) :
    ∃ q, file.queue = some q ∧ adma'.queueEngine = adma.queueEngine ∧
      ∀ id, adma.queueEngine q ≠ some id → adma'.engines id = adma.engines id := by
  rcases hq : file.queue with _ | q
  · rw [evtIoDeviceControl_of_unset h adma wdf file code hq] at hr
    cases hr
  · refine ⟨q, rfl, ?_⟩
    rw [evtIoDeviceControl_of_queue h adma wdf file code q hq] at hr
    cases he : adma.queueEngine q with
    | none =>
      simp only [he, Except.ok.injEq, Prod.mk.injEq] at hr
      obtain ⟨rfl, -⟩ := hr
      exact ⟨rfl, fun _ _ => rfl⟩
    | some id =>
      simp only [he, Except.ok.injEq, Prod.mk.injEq] at hr
      obtain ⟨rfl, -⟩ := hr
      exact ⟨ioctlDispatch_queueEngine .., fun id' hne =>
        ioctlDispatch_engines h adma wdf id code id' fun e => hne (e ▸ rfl)⟩

theorem ioctlSetAddrMode_sameBut (h : Headers) (wdf : WdfCalls) (e : AdmaEngine) :
    (ioctlSetAddrMode h wdf e).2 = { e with
      control := (ioctlSetAddrMode h wdf e).2.control
      addressMode := (ioctlSetAddrMode h wdf e).2.addressMode } := by
  simp only [ioctlSetAddrMode]
  split_ifs <;> rfl

theorem ioctlDispatch_sameBut (h : Headers) (adma : AdmaDevice) (wdf : WdfCalls)
    (id : EngineId) (code : IoctlCode) : adma.SameBut (ioctlDispatch h adma wdf id code).2.1 := by
  cases code
  case addrModeSet => exact adma.setEngine_sameBut id _ (ioctlSetAddrMode_sameBut ..)
  case perfStart | perfGet | addrModeGet | other => exact .refl adma

theorem ioctlDispatch_engine (h : Headers) (adma : AdmaDevice) (wdf : WdfCalls)
    (id : EngineId) (code : IoctlCode) (id' : EngineId) :
    (ioctlDispatch h adma wdf id code).2.1.engines id' = adma.engines id' ∨
      (ioctlDispatch h adma wdf id code).2.1.engines id' =
        (ioctlSetAddrMode h wdf (adma.engines id')).2 := by
  by_cases hid : id' = id
  · subst hid
    cases code with
    | addrModeSet => exact .inr (AdmaDevice.setEngine_engines_self ..)
    | perfStart | perfGet | addrModeGet | other _ => exact .inl rfl
  · exact .inl (ioctlDispatch_engines h adma wdf id code id' hid)

theorem evtIoDeviceControl_ok {h : Headers} {adma : AdmaDevice} {wdf : WdfCalls}
    {file : FileContext} {code : IoctlCode} {adma' : AdmaDevice} {acts : List Action}
    (hr : evtIoDeviceControl h adma wdf file code = .ok (adma', acts)) :
    adma' = adma ∨ ∃ id, adma' = (ioctlDispatch h adma wdf id code).2.1 := by
  rcases hq : file.queue with _ | q
  · rw [evtIoDeviceControl_of_unset h adma wdf file code hq] at hr
    cases hr
  · rw [evtIoDeviceControl_of_queue h adma wdf file code q hq] at hr
    rcases hqe : adma.queueEngine q with _ | id <;> simp only [hqe] at hr
    · exact .inl (congrArg Prod.fst (Except.ok.inj hr)).symm
    · exact .inr ⟨id, (congrArg Prod.fst (Except.ok.inj hr)).symm⟩

/-! ## Opened nodes -/

/-- Every node `EvtDeviceFileCreate` opens other than `h2c_0` and `c2h_0` has no queue, and a
control request on it faults looking up the queue's context. -/
theorem created_ioctl_faults (h : Headers) (adma : AdmaDevice) (fileName : Option String)
    (file : FileContext) (hc : Created adma fileName file)
    (hdma : file.devType ≠ .ah2c ∧ file.devType ≠ .ac2h ∧ file.devType ≠ .h2c ∧
      file.devType ≠ .c2h) (wdf : WdfCalls) (code : IoctlCode) :
    evtIoDeviceControl h adma wdf file code = .error .nullHandle :=
  evtIoDeviceControl_of_unset h adma wdf file code (hc.bound.queue_of_not_dma hdma)

/-- On a DMA node, a control request changes only the engine of the queue that
`EvtDeviceFileCreate` bound to the node. -/
theorem created_dma_ioctl_frame (h : Headers) (adma : AdmaDevice) (fileName : Option String)
    (file : FileContext) (hc : Created adma fileName file) (wdf : WdfCalls) (code : IoctlCode)
    (adma' : AdmaDevice) (acts : List Action)
    (hr : evtIoDeviceControl h adma wdf file code = .ok (adma', acts)) (id : EngineId)
    (hid : adma.queueEngine (adma.engineQueue file.engine) ≠ some id) :
    adma'.engines id = adma.engines id := by
  obtain ⟨q, hq, -, hframe⟩ := evtIoDeviceControl_frame h adma wdf file code adma' acts hr
  exact hframe id (hc.bound.queue_eq hq ▸ hid)

theorem created_ioctl_faults_control :
    Created AdmaDevice.sample (some admaFileControl) ⟨.control, 0, ⟨0, .h2c⟩, 0, none⟩ ∧
      evtIoDeviceControl ⟨1, 24⟩ AdmaDevice.sample WdfCalls.allSucceed
        ⟨.control, 0, ⟨0, .h2c⟩, 0, none⟩ .perfGet = .error .nullHandle :=
  ⟨⟨rfl, rfl⟩, created_ioctl_faults ⟨1, 24⟩ AdmaDevice.sample (some admaFileControl) _ ⟨rfl, rfl⟩
      (by decide) WdfCalls.allSucceed .perfGet⟩

theorem created_dma_ioctl_frame_h2c :
    Created AdmaDevice.sample (some admaFileH2c0) ⟨.ah2c, 0, ⟨0, .h2c⟩, 0, some 0⟩ ∧
      evtIoDeviceControl ⟨1, 24⟩ AdmaDevice.sample WdfCalls.allSucceed
        ⟨.ah2c, 0, ⟨0, .h2c⟩, 0, some 0⟩ .addrModeSet =
        .ok (AdmaDevice.sample.setEngine ⟨0, .h2c⟩ ⟨true, .mm, false, 0, 0⟩,
          [.complete statusSuccess 0]) ∧
      AdmaDevice.sample.queueEngine (AdmaDevice.sample.engineQueue ⟨0, .h2c⟩) ≠
        some ⟨0, .c2h⟩ ∧
      (AdmaDevice.sample.setEngine ⟨0, .h2c⟩ ⟨true, .mm, false, 0, 0⟩).engines ⟨0, .c2h⟩ =
        AdmaDevice.sample.engines ⟨0, .c2h⟩ :=
  have hc : Created AdmaDevice.sample (some admaFileH2c0) ⟨.ah2c, 0, ⟨0, .h2c⟩, 0, some 0⟩ :=
    ⟨rfl, rfl⟩
  have hr : evtIoDeviceControl ⟨1, 24⟩ AdmaDevice.sample WdfCalls.allSucceed
      ⟨.ah2c, 0, ⟨0, .h2c⟩, 0, some 0⟩ .addrModeSet =
      .ok (AdmaDevice.sample.setEngine ⟨0, .h2c⟩ ⟨true, .mm, false, 0, 0⟩,
        [.complete statusSuccess 0]) := rfl
  ⟨hc, hr, by decide, created_dma_ioctl_frame ⟨1, 24⟩ _ _ _ hc _ _ _ _ hr ⟨0, .c2h⟩ (by decide)⟩

/-- Open `control` and send any control request: the routine looks up the context of the queue
handle that `EvtDeviceFileCreate` never set, instead of failing the request. -/
theorem control_ioctl_unset_queue (h : Headers) (wdf : WdfCalls) (code : IoctlCode) :
    Created AdmaDevice.sample (some admaFileControl) ⟨.control, 0, ⟨0, .h2c⟩, 0, none⟩ ∧
      evtIoDeviceControl h AdmaDevice.sample wdf ⟨.control, 0, ⟨0, .h2c⟩, 0, none⟩ code =
        .error .nullHandle :=
  ⟨⟨rfl, rfl⟩, evtIoDeviceControl_of_unset h _ wdf _ code rfl⟩

/-! ## A session on a node -/

/-- A request the framework hands to one of the node's routines. -/
inductive NodeRequest where
  | read (wdf : WdfCalls) (req : Request)
  | write (wdf : WdfCalls) (req : Request)
  | control (wdf : WdfCalls) (code : IoctlCode)

/-- A read or a write whose register access reaches past the BAR's end may fault there. -/
def checkBarAccess (adma : AdmaDevice) (wdf : WdfCalls) (acts : List Action) :
    Except WdfFault (AdmaDevice × List Action) :=
  if wdf.accessFaults && acts.any (Action.pastBarEnd adma) then .error .unmappedAccess
  else .ok (adma, acts)

/-- The routine the framework calls for a request on `file`: `EvtIoRead`, `EvtIoWrite` or
`EvtIoDeviceControl`. -/
def serveRequest (h : Headers) (adma : AdmaDevice) (file : FileContext) :
    NodeRequest → Except WdfFault (AdmaDevice × List Action)
  | .read wdf req => checkBarAccess adma wdf (evtIoRead wdf file req)
  | .write wdf req => checkBarAccess adma wdf (evtIoWrite wdf file req)
  | .control wdf code => evtIoDeviceControl h adma wdf file code

theorem checkBarAccess_ok {adma : AdmaDevice} {wdf : WdfCalls} {acts : List Action}
    {adma' : AdmaDevice} {acts' : List Action}
    (h : checkBarAccess adma wdf acts = .ok (adma', acts')) : adma' = adma ∧ acts' = acts := by
  unfold checkBarAccess at h
  split at h
  · cases h
  · exact ⟨(Prod.mk.inj (Except.ok.inj h)).1.symm, (Prod.mk.inj (Except.ok.inj h)).2.symm⟩

theorem checkBarAccess_error {adma : AdmaDevice} {wdf : WdfCalls} {acts : List Action}
    {f : WdfFault} (h : checkBarAccess adma wdf acts = .error f) :
    wdf.accessFaults = true ∧ acts.any (Action.pastBarEnd adma) = true := by
  unfold checkBarAccess at h
  split at h
  next hc => exact Bool.and_eq_true _ _ ▸ hc
  next => cases h

theorem checkBarAccess_of_any {adma : AdmaDevice} (wdf : WdfCalls) {acts : List Action}
    (h : acts.any (Action.pastBarEnd adma) = false) : checkBarAccess adma wdf acts = .ok (adma, acts) := by
  simp [checkBarAccess, h]

/-- Requests on one node served one after another: the device at the end and the effects of
each request, or the first fault. -/
def serveRequests (h : Headers) (adma : AdmaDevice) (file : FileContext) :
    List NodeRequest → Except WdfFault (AdmaDevice × List (List Action))
  | [] => .ok (adma, [])
  | r :: rs =>
    match serveRequest h adma file r with
    | .error e => .error e
    | .ok (adma', acts) =>
      match serveRequests h adma' file rs with
      | .error e => .error e
      | .ok (adma'', log) => .ok (adma'', acts :: log)

theorem serveRequest_ok {h : Headers} {adma : AdmaDevice} {file : FileContext}
    {r : NodeRequest} {adma' : AdmaDevice} {acts : List Action}
    (hr : serveRequest h adma file r = .ok (adma', acts)) :
    adma.SameBut adma' ∧ ∀ id, adma'.engines id = adma.engines id ∨
      ∃ wdf, adma'.engines id = (ioctlSetAddrMode h wdf (adma.engines id)).2 := by
  cases r with
  | read wdf req | write wdf req =>
    obtain ⟨rfl, -⟩ := checkBarAccess_ok hr
    exact ⟨.refl _, fun _ => .inl rfl⟩
  | control wdf code =>
    rcases evtIoDeviceControl_ok hr with rfl | ⟨id, rfl⟩
    · exact ⟨.refl _, fun _ => .inl rfl⟩
    · exact ⟨ioctlDispatch_sameBut h adma wdf id code, fun id' =>
        (ioctlDispatch_engine h adma wdf id code id').imp_right fun he => ⟨wdf, he⟩⟩

theorem serveRequest_plain {h : Headers} {adma : AdmaDevice} {file : FileContext}
    {r : NodeRequest} {adma' : AdmaDevice} {acts : List Action}
    (hr : serveRequest h adma file r = .ok (adma', acts)) (ht : file.devType ≠ .events) :
    ∀ a ∈ acts, a.Plain := by
  cases r with
  | read wdf req =>
    rw [(checkBarAccess_ok hr).2]
    exact evtIoRead_plain wdf file req ht
  | write wdf req =>
    rw [(checkBarAccess_ok hr).2]
    exact evtIoWrite_plain wdf file req
  | control wdf code => exact evtIoDeviceControl_plain hr

theorem serveRequest_of_queue (h : Headers) (adma : AdmaDevice) (file : FileContext)
    (hdma : file.devType = .ah2c ∨ file.devType = .ac2h ∨ file.devType = .h2c ∨
      file.devType = .c2h) (q : WdfQueue) (hq : file.queue = some q) (r : NodeRequest) :
    ∃ adma' acts, serveRequest h adma file r = .ok (adma', acts) ∧ Settled file.queue acts ∧
      adma'.queueEngine = adma.queueEngine ∧
      ∀ id, adma.queueEngine q ≠ some id → adma'.engines id = adma.engines id := by
  cases r with
  | read wdf req =>
    exact ⟨_, _, checkBarAccess_of_any wdf (evtIoRead_dma_pastBarEnd adma wdf file req hdma),
      evtIoRead_settled wdf file req, rfl, fun _ _ => rfl⟩
  | write wdf req =>
    exact ⟨_, _, checkBarAccess_of_any wdf (evtIoWrite_dma_pastBarEnd adma wdf file req hdma),
      evtIoWrite_settled wdf file req, rfl, fun _ _ => rfl⟩
  | control wdf code =>
    obtain ⟨adma', acts, hr, hs⟩ := evtIoDeviceControl_completed h adma wdf file code q hq
    obtain ⟨q', hq', hqe, hframe⟩ := evtIoDeviceControl_frame h adma wdf file code adma' acts hr
    cases hq.symm.trans hq'
    exact ⟨adma', acts, hr, .inr hs, hqe, hframe⟩

theorem serveRequests_of_queue (h : Headers) (file : FileContext)
    (hdma : file.devType = .ah2c ∨ file.devType = .ac2h ∨ file.devType = .h2c ∨
      file.devType = .c2h) (q : WdfQueue)
    (hq : file.queue = some q) : ∀ (rs : List NodeRequest) (adma : AdmaDevice),
    ∃ adma' log, serveRequests h adma file rs = .ok (adma', log) ∧ log.length = rs.length ∧
      (∀ acts ∈ log, Settled file.queue acts) ∧ adma'.queueEngine = adma.queueEngine ∧
      ∀ id, adma.queueEngine q ≠ some id → adma'.engines id = adma.engines id
  | [], adma => ⟨adma, [], rfl, rfl, nofun, rfl, fun _ _ => rfl⟩
  | r :: rs, adma => by
    obtain ⟨adma₁, acts, h₁, hs₁, hqe₁, hf₁⟩ := serveRequest_of_queue h adma file hdma q hq r
    obtain ⟨adma₂, log, h₂, hl, hs₂, hqe₂, hf₂⟩ := serveRequests_of_queue h file hdma q hq rs adma₁
    refine ⟨adma₂, acts :: log, by simp only [serveRequests, h₁, h₂], by simp [hl], ?_,
      hqe₂.trans hqe₁, fun id hid => ?_⟩
    · rintro a (_ | ⟨_, ha⟩)
      · exact hs₁
      · exact hs₂ a ha
    · rw [hf₂ id (by rw [hqe₁]; exact hid), hf₁ id hid]

/-- On a DMA node, every sequence of read, write and control requests is served without a
fault, each request completed or forwarded to the node's queue, changing no other engine. -/
theorem created_dma_session (h : Headers) (adma : AdmaDevice) (fileName : Option String)
    (file : FileContext) (hc : Created adma fileName file)
    (hdma : file.devType = .ah2c ∨ file.devType = .ac2h ∨ file.devType = .h2c ∨
      file.devType = .c2h) (rs : List NodeRequest) :
    ∃ adma' log, serveRequests h adma file rs = .ok (adma', log) ∧ log.length = rs.length ∧
      (∀ acts ∈ log, Settled file.queue acts) ∧
      ∀ id, adma.queueEngine (adma.engineQueue file.engine) ≠ some id →
        adma'.engines id = adma.engines id := by
  obtain ⟨adma', log, hr, hl, hs, -, hf⟩ :=
    serveRequests_of_queue h file hdma _ (hc.bound.queue_of_dma hdma) rs adma
  exact ⟨adma', log, hr, hl, hs, hf⟩

theorem created_dma_session_h2c :
    Created AdmaDevice.sample (some admaFileH2c0) ⟨.ah2c, 0, ⟨0, .h2c⟩, 0, some 0⟩ ∧
      (DevNodeType.ah2c = .ah2c ∨ DevNodeType.ah2c = .ac2h ∨ DevNodeType.ah2c = .h2c ∨
        DevNodeType.ah2c = .c2h) ∧
      ∃ adma' log, serveRequests ⟨1, 24⟩ AdmaDevice.sample ⟨.ah2c, 0, ⟨0, .h2c⟩, 0, some 0⟩
          [.control WdfCalls.allSucceed .addrModeSet, .write WdfCalls.allSucceed ⟨0, 0x1000⟩] =
          .ok (adma', log) ∧ log.length = 2 ∧ (∀ acts ∈ log, Settled (some 0) acts) ∧
        ∀ id, AdmaDevice.sample.queueEngine (AdmaDevice.sample.engineQueue ⟨0, .h2c⟩) ≠ some id →
          adma'.engines id = AdmaDevice.sample.engines id :=
  have hc : Created AdmaDevice.sample (some admaFileH2c0) ⟨.ah2c, 0, ⟨0, .h2c⟩, 0, some 0⟩ :=
    ⟨rfl, rfl⟩
  ⟨hc, .inl rfl, created_dma_session ⟨1, 24⟩ _ _ _ hc (.inl rfl) _⟩

end Xadma
