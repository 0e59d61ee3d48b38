import Xadma.Session
import Xadma.AddrMode

/-! # The driver under the framework

The framework opens nodes with `EvtDeviceFileCreate`, sends read, write and control requests
on the handles it opened, and cleans a handle up with `EvtFileCleanup`, in any order and on any
number of handles, each callback one step. `Xadma.System` adds the engine queues' callbacks.
-/

namespace Xadma

/-- The device, and the context of each handle the framework opened, `none` once it was
cleaned up; a handle is its position in `files`. -/
structure Driver where
  adma : AdmaDevice
  files : List (Option FileContext)

/-- The context of handle `i`, while it is open. -/
def Driver.file? (d : Driver) (i : Nat) : Option FileContext := d.files[i]?.join

inductive Event where
  | create (fileName : Option String)
  | request (handle : Nat) (r : NodeRequest)
  | cleanup (handle : Nat)

/-- One event: the driver after it and the callback's effects, or the fault the callback
raises; `none` for a request or a cleanup on a handle that is not open. A handle opens when its
create request completes with `STATUS_SUCCESS`. -/
def Driver.step (h : Headers) (d : Driver) :
    Event → Option (Except WdfFault (Driver × List Action))
  | .create fileName =>
    let r := evtDeviceFileCreate d.adma fileName
    let files := if settle r.2 = .completed statusSuccess 0 then d.files ++ [some r.1] else d.files
    some (.ok ({ d with files := files }, r.2))
  | .request i r =>
    (d.file? i).map fun file =>
      (serveRequest h d.adma file r).map fun res => ({ d with adma := res.1 }, res.2)
  | .cleanup i =>
    (d.file? i).map fun file =>
      .ok ({ d with files := d.files.set i none }, evtFileCleanup d.adma file)

/-- The drivers that runs from `adma`, with no handle open, reach without a fault. -/
inductive Driver.Reachable (h : Headers) (adma : AdmaDevice) : Driver → Prop
  | init : Driver.Reachable h adma ⟨adma, []⟩
  | step {d d' : Driver} (e : Event) (acts : List Action) : Driver.Reachable h adma d →
      d.step h e = some (.ok (d', acts)) → Driver.Reachable h adma d'

theorem Driver.mem_of_file? {d : Driver} {i : Nat} {file : FileContext}
    (h : d.file? i = some file) : some file ∈ d.files :=
  List.getElem?_mem (Option.join_eq_some.1 h)

/-! ## What one event does -/

section Step

variable {h : Headers} {d d' : Driver} {acts : List Action}

theorem Driver.step_create {name : Option String}
    (hs : d.step h (.create name) = some (.ok (d', acts))) :
    d'.adma = d.adma ∧ acts = (evtDeviceFileCreate d.adma name).2 ∧
      ∀ f, some f ∈ d'.files → some f ∈ d.files ∨ Created d.adma name f := by
  simp only [Driver.step, Option.some.injEq, Except.ok.injEq, Prod.mk.injEq] at hs
  obtain ⟨rfl, rfl⟩ := hs
  refine ⟨rfl, rfl, fun f hf => ?_⟩
  dsimp only at hf
  split_ifs at hf with hc
  · rcases List.mem_append.1 hf with hf | hf
    · exact .inl hf
    · exact .inr ⟨(Option.some.inj (List.mem_singleton.1 hf)).symm, hc⟩
  · exact .inl hf

theorem Driver.step_request {i : Nat} {r : NodeRequest}
    (hs : d.step h (.request i r) = some (.ok (d', acts))) :
    ∃ file, d.file? i = some file ∧ serveRequest h d.adma file r = .ok (d'.adma, acts) ∧
      d'.files = d.files := by
  simp only [Driver.step, Option.map_eq_some'] at hs
  obtain ⟨file, hf, hr⟩ := hs
  refine ⟨file, hf, ?_⟩
  rcases hsr : serveRequest h d.adma file r with _ | ⟨adma', acts'⟩ <;>
    simp only [hsr, Except.map, Except.ok.injEq, Prod.mk.injEq, reduceCtorEq] at hr
  obtain ⟨rfl, rfl⟩ := hr
  exact ⟨rfl, rfl⟩

theorem Driver.step_cleanup {i : Nat} (hs : d.step h (.cleanup i) = some (.ok (d', acts))) :
    ∃ file, d.file? i = some file ∧ d'.adma = d.adma ∧ acts = evtFileCleanup d.adma file ∧
      ∀ f, some f ∈ d'.files → some f ∈ d.files := by
  simp only [Driver.step, Option.map_eq_some', Except.ok.injEq, Prod.mk.injEq] at hs
  obtain ⟨file, hf, rfl, rfl⟩ := hs
  exact ⟨file, hf, rfl, rfl, fun f hm => (List.mem_or_eq_of_mem_set hm).resolve_right nofun⟩

end Step

/-! ## What every run keeps -/

/-- The device is the one the run started from but for the engines' control registers and
address modes, and every open handle is bound, of a kind the name table holds, and, for a DMA
handle, bound to the engine of channel 0 in its direction. -/
structure Driver.Inv (adma₀ : AdmaDevice) (d : Driver) : Prop where
  sameBut : adma₀.SameBut d.adma
  bound : ∀ f, some f ∈ d.files → f.Bound d.adma
  kind : ∀ f, some f ∈ d.files →
    f.devType = .ah2c ∨ f.devType = .ac2h ∨ f.devType = .user ∨ f.devType = .control
  engine : ∀ f, some f ∈ d.files → (f.devType = .ah2c → f.engine = ⟨0, .h2c⟩) ∧
    (f.devType = .ac2h → f.engine = ⟨0, .c2h⟩)

theorem Driver.inv_step {h : Headers} {adma₀ : AdmaDevice} {d d' : Driver} {e : Event}
    {acts : List Action} (hi : d.Inv adma₀) (hs : d.step h e = some (.ok (d', acts))) :
    d'.Inv adma₀ := by
  cases e with
  | create name =>
    obtain ⟨hadma, -, hf⟩ := Driver.step_create hs
    refine ⟨hadma ▸ hi.sameBut, fun f hm => ?_,
      fun f hm => (hf f hm).elim (hi.kind f) Created.kind,
      fun f hm => (hf f hm).elim (hi.engine f) Created.engine⟩
    rw [hadma]
    exact (hf f hm).elim (hi.bound f) Created.bound
  | request i r =>
    obtain ⟨file, -, hr, hfiles⟩ := Driver.step_request hs
    have hsame := (serveRequest_ok hr).1
    refine ⟨hi.sameBut.trans hsame, fun f hm => ?_, fun f hm => ?_, fun f hm => ?_⟩ <;>
      rw [hfiles] at hm
    · exact (hi.bound f hm).sameBut hsame
    · exact hi.kind f hm
    · exact hi.engine f hm
  | cleanup i =>
    obtain ⟨file, -, hadma, -, hf⟩ := Driver.step_cleanup hs
    exact ⟨hadma ▸ hi.sameBut, fun f hm => hadma ▸ hi.bound f (hf f hm),
      fun f hm => hi.kind f (hf f hm), fun f hm => hi.engine f (hf f hm)⟩

theorem Driver.inv_of_reachable {h : Headers} {adma : AdmaDevice} {d : Driver}
    (hd : d.Reachable h adma) : d.Inv adma := by
  induction hd with
  | init =>
    exact ⟨.refl adma, fun _ h => absurd h (List.not_mem_nil _),
      fun _ h => absurd h (List.not_mem_nil _), fun _ h => absurd h (List.not_mem_nil _)⟩
  | step e acts _ hs ih => exact Driver.inv_step ih hs

theorem Driver.Inv.open {adma₀ : AdmaDevice} {d : Driver} (hi : d.Inv adma₀) {i : Nat}
    {file : FileContext} (hf : d.file? i = some file) :
    file.Bound d.adma ∧ (file.devType = .ah2c ∨ file.devType = .ac2h ∨
      file.devType = .user ∨ file.devType = .control) :=
  ⟨hi.bound file (Driver.mem_of_file? hf), hi.kind file (Driver.mem_of_file? hf)⟩

theorem DevNodeType.ne_of_tabled {t : DevNodeType}
    (h : t = .ah2c ∨ t = .ac2h ∨ t = .user ∨ t = .control) :
    t ≠ .h2c ∧ t ≠ .c2h ∧ t ≠ .events := by
  rcases h with rfl | rfl | rfl | rfl <;> decide

/-! ## What a request that runs does to it -/

theorem evtIoRead_forwarded {wdf : WdfCalls} {file : FileContext} {req : Request}
    {q : Option WdfQueue} (hf : settle (evtIoRead wdf file req) = .forwarded q) :
    file.devType = .c2h ∨ file.devType = .ac2h := by
  by_contra hn
  obtain ⟨st, info, hc⟩ := evtIoRead_completed wdf file req (by tauto)
  rw [hc] at hf
  cases hf

theorem evtIoWrite_forwarded {wdf : WdfCalls} {file : FileContext} {req : Request}
    {q : Option WdfQueue} (hf : settle (evtIoWrite wdf file req) = .forwarded q) :
    file.devType = .h2c ∨ file.devType = .ah2c := by
  by_contra hn
  obtain ⟨st, info, hc⟩ := evtIoWrite_completed wdf file req (by tauto)
  rw [hc] at hf
  cases hf

theorem Driver.step_request_settles {h : Headers} {d d' : Driver} {i : Nat} {r : NodeRequest}
    {acts : List Action} (hs : d.step h (.request i r) = some (.ok (d', acts))) :
    (∃ st info, settle acts = .completed st info) ∨
      ∃ file, d.file? i = some file ∧ settle acts = .forwarded file.queue ∧
        ((∃ wdf req, r = .read wdf req) ∧ (file.devType = .c2h ∨ file.devType = .ac2h) ∨
          (∃ wdf req, r = .write wdf req) ∧ (file.devType = .h2c ∨ file.devType = .ah2c)) := by
  obtain ⟨file, hf, hr, -⟩ := Driver.step_request hs
  cases r with
  | read wdf req =>
    obtain rfl := (checkBarAccess_ok hr).2
    rcases evtIoRead_settled wdf file req with hq | hc
    · exact .inr ⟨file, hf, hq, .inl ⟨⟨wdf, req, rfl⟩, evtIoRead_forwarded hq⟩⟩
    · exact .inl hc
  | write wdf req =>
    obtain rfl := (checkBarAccess_ok hr).2
    rcases evtIoWrite_settled wdf file req with hq | hc
    · exact .inr ⟨file, hf, hq, .inr ⟨⟨wdf, req, rfl⟩, evtIoWrite_forwarded hq⟩⟩
    · exact .inl hc
  | control wdf code =>
    -- A control request that runs had a queue to look its engine up with.
    rcases hqf : file.queue with _ | q
    · rw [serveRequest, evtIoDeviceControl_of_unset h d.adma wdf file code hqf] at hr
      cases hr
    obtain ⟨adma', acts', hr', hc⟩ := evtIoDeviceControl_completed h d.adma wdf file code q hqf
    rw [serveRequest, hr'] at hr
    obtain rfl := (Prod.mk.inj (Except.ok.inj hr)).2
    exact .inl hc

/-- In every run, a request that runs is completed once, or forwarded from an open `h2c_0` or
`c2h_0` handle to the queue of its engine, never to an unset queue handle. -/
theorem driver_requests_settle (h : Headers) (adma : AdmaDevice) (d : Driver)
    (hd : d.Reachable h adma) (i : Nat) (r : NodeRequest) (d' : Driver) (acts : List Action)
    (hs : d.step h (.request i r) = some (.ok (d', acts))) :
    (∃ st info, settle acts = .completed st info) ∨
      ∃ file, d.file? i = some file ∧ (file.devType = .ah2c ∨ file.devType = .ac2h) ∧
        settle acts = .forwarded (some (d.adma.engineQueue file.engine)) := by
  rcases Driver.step_request_settles hs with hc | ⟨file, hf, hq, hrk⟩
  · exact .inl hc
  obtain ⟨hb, hk⟩ := (Driver.inv_of_reachable hd).open hf
  obtain ⟨hh2c, hc2h, -⟩ := DevNodeType.ne_of_tabled hk
  -- A forwarded request names the handle's queue, which an open DMA handle has bound.
  have hdma : file.devType = .ah2c ∨ file.devType = .ac2h := by
    rcases hrk with ⟨-, ht⟩ | ⟨-, ht⟩
    · exact .inr (ht.resolve_left hc2h)
    · exact .inl (ht.resolve_left hh2c)
  exact .inr ⟨file, hf, hdma, by rw [hq, hb.queue_of_dma (hdma.imp_right .inl)]⟩

theorem driver_requests_settle_h2c_write :
    Driver.Reachable ⟨1, 24⟩ AdmaDevice.sample ⟨AdmaDevice.sample, [some ⟨.ah2c, 0, ⟨0, .h2c⟩, 0, some 0⟩]⟩ ∧
      Driver.step ⟨1, 24⟩ ⟨AdmaDevice.sample, [some ⟨.ah2c, 0, ⟨0, .h2c⟩, 0, some 0⟩]⟩
          (.request 0 (.write WdfCalls.allSucceed ⟨0, 0x1000⟩)) =
        some (.ok (⟨AdmaDevice.sample, [some ⟨.ah2c, 0, ⟨0, .h2c⟩, 0, some 0⟩]⟩, [.forward (some 0) 0])) ∧
      ((∃ st info, settle [Action.forward (some 0) 0] = .completed st info) ∨
        ∃ file, Driver.file? ⟨AdmaDevice.sample, [some ⟨.ah2c, 0, ⟨0, .h2c⟩, 0, some 0⟩]⟩ 0 = some file ∧
          (file.devType = .ah2c ∨ file.devType = .ac2h) ∧
          settle [Action.forward (some 0) 0] =
            .forwarded (some (AdmaDevice.sample.engineQueue file.engine))) :=
  have hd : Driver.Reachable ⟨1, 24⟩ AdmaDevice.sample ⟨AdmaDevice.sample, [some ⟨.ah2c, 0, ⟨0, .h2c⟩, 0, some 0⟩]⟩ :=
    .step (.create (some admaFileH2c0)) _ .init rfl
  have hs : Driver.step ⟨1, 24⟩ ⟨AdmaDevice.sample, [some ⟨.ah2c, 0, ⟨0, .h2c⟩, 0, some 0⟩]⟩
      (.request 0 (.write WdfCalls.allSucceed ⟨0, 0x1000⟩)) =
      some (.ok (⟨AdmaDevice.sample, [some ⟨.ah2c, 0, ⟨0, .h2c⟩, 0, some 0⟩]⟩, [.forward (some 0) 0])) := rfl
  ⟨hd, hs, driver_requests_settle _ _ _ hd _ _ _ _ hs⟩

theorem Driver.Inv.forwarded {adma₀ : AdmaDevice} {h : Headers} {d d' : Driver} {i : Nat}
    {r : NodeRequest} {acts : List Action} (hi : d.Inv adma₀)
    (hs : d.step h (.request i r) = some (.ok (d', acts))) {q : Option WdfQueue}
    (hq : settle acts = .forwarded q) :
    ∃ file, d.file? i = some file ∧ q = file.queue ∧
      ((∃ wdf req, r = .write wdf req) ∧ file.devType = .ah2c ∨
        (∃ wdf req, r = .read wdf req) ∧ file.devType = .ac2h) := by
  rcases Driver.step_request_settles hs with ⟨st, info, hc⟩ | ⟨file, hf, hq', hrk⟩
  · rw [hq] at hc
    cases hc
  obtain ⟨hh2c, hc2h, -⟩ := DevNodeType.ne_of_tabled (hi.open hf).2
  refine ⟨file, hf, ReqState.forwarded.inj (hq.symm.trans hq'), ?_⟩
  -- The name table opens `c2h_0` and `h2c_0` only as `AC2H` and `AH2C` nodes.
  rcases hrk with ⟨hr, ht⟩ | ⟨hr, ht⟩
  · exact .inr ⟨hr, ht.resolve_left hc2h⟩
  · exact .inl ⟨hr, ht.resolve_left hh2c⟩

/-- In every run, the driver forwards only writes to the queue of the enabled `H2C` engine of
channel 0 and reads to the queue of the enabled `C2H` engine of channel 0. -/
theorem driver_forwards_to_channel_zero (h : Headers) (adma : AdmaDevice) (d : Driver)
    (hd : d.Reachable h adma) (i : Nat) (r : NodeRequest) (d' : Driver) (acts : List Action)
    (hs : d.step h (.request i r) = some (.ok (d', acts))) (q : Option WdfQueue)
    (hq : settle acts = .forwarded q) :
    (∃ wdf req, r = .write wdf req) ∧ q = some (d.adma.engineQueue ⟨0, .h2c⟩) ∧
        (d.adma.engines ⟨0, .h2c⟩).enabled = true ∨
      (∃ wdf req, r = .read wdf req) ∧ q = some (d.adma.engineQueue ⟨0, .c2h⟩) ∧
        (d.adma.engines ⟨0, .c2h⟩).enabled = true := by
  have hi := Driver.inv_of_reachable hd
  obtain ⟨file, hf, rfl, hrk⟩ := hi.forwarded hs hq
  have hb := (hi.open hf).1
  obtain ⟨he1, he2⟩ := hi.engine file (Driver.mem_of_file? hf)
  rcases hrk with ⟨hr, ht⟩ | ⟨hr, ht⟩
  · refine .inl ⟨hr, by rw [hb.queue_of_dma (.inl ht), he1 ht], ?_⟩
    rw [← he1 ht]
    exact hb.enabled_of_dma (.inl ht)
  · refine .inr ⟨hr, by rw [hb.queue_of_dma (.inr (.inl ht)), he2 ht], ?_⟩
    rw [← he2 ht]
    exact hb.enabled_of_dma (.inr (.inl ht))

theorem driver_forwards_to_channel_zero_read :
    Driver.Reachable ⟨1, 24⟩ AdmaDevice.sample ⟨AdmaDevice.sample, [some ⟨.ac2h, 0, ⟨0, .c2h⟩, 0, some 1⟩]⟩ ∧
      Driver.step ⟨1, 24⟩ ⟨AdmaDevice.sample, [some ⟨.ac2h, 0, ⟨0, .c2h⟩, 0, some 1⟩]⟩
          (.request 0 (.read WdfCalls.allSucceed ⟨0, 0x1000⟩)) =
        some (.ok (⟨AdmaDevice.sample, [some ⟨.ac2h, 0, ⟨0, .c2h⟩, 0, some 1⟩]⟩,
          [.forward (some 1) 0])) ∧
      settle [.forward (some 1) 0] = .forwarded (some 1) ∧
      ((∃ wdf req, NodeRequest.read WdfCalls.allSucceed ⟨0, 0x1000⟩ = .write wdf req) ∧
          some 1 = some (AdmaDevice.sample.engineQueue ⟨0, .h2c⟩) ∧
          (AdmaDevice.sample.engines ⟨0, .h2c⟩).enabled = true ∨
        (∃ wdf req, NodeRequest.read WdfCalls.allSucceed ⟨0, 0x1000⟩ = .read wdf req) ∧
          some 1 = some (AdmaDevice.sample.engineQueue ⟨0, .c2h⟩) ∧
          (AdmaDevice.sample.engines ⟨0, .c2h⟩).enabled = true) :=
  have hd : Driver.Reachable ⟨1, 24⟩ AdmaDevice.sample ⟨AdmaDevice.sample, [some ⟨.ac2h, 0, ⟨0, .c2h⟩, 0, some 1⟩]⟩ :=
    .step (.create (some admaFileC2h0)) _ .init rfl
  have hs : Driver.step ⟨1, 24⟩ ⟨AdmaDevice.sample, [some ⟨.ac2h, 0, ⟨0, .c2h⟩, 0, some 1⟩]⟩
      (.request 0 (.read WdfCalls.allSucceed ⟨0, 0x1000⟩)) =
      some (.ok (⟨AdmaDevice.sample, [some ⟨.ac2h, 0, ⟨0, .c2h⟩, 0, some 1⟩]⟩,
        [.forward (some 1) 0])) := rfl
  ⟨hd, hs, rfl, driver_forwards_to_channel_zero _ _ _ hd _ _ _ _ hs _ rfl⟩

/-! ## What no run calls -/

theorem Driver.step_plain {h : Headers} {adma₀ : AdmaDevice} {d d' : Driver} {e : Event}
    {acts : List Action} (hi : d.Inv adma₀) (hs : d.step h e = some (.ok (d', acts))) :
    ∀ a ∈ acts, a.Plain := by
  cases e with
  | create name =>
    obtain ⟨-, rfl, -⟩ := Driver.step_create hs
    obtain ⟨st, hst⟩ := evtDeviceFileCreate_acts d.adma name
    rw [hst]
    simp [Action.Plain]
  | request i r =>
    obtain ⟨file, hf, hr, -⟩ := Driver.step_request hs
    exact serveRequest_plain hr (DevNodeType.ne_of_tabled (hi.open hf).2).2.2
  | cleanup i =>
    obtain ⟨file, hf, -, rfl, -⟩ := Driver.step_cleanup hs
    rw [evtFileCleanup, if_neg fun hc => (DevNodeType.ne_of_tabled (hi.open hf).2).2.1 hc.1]
    exact List.forall_mem_nil _

/-! ## The address mode over a run -/

/-- A `GET` through a handle right after a successful `SET` through it copies out, in 4 bytes,
1 when the `SET`'s input was nonzero and 0 when it was zero. -/
theorem driver_get_after_set (h : Headers) (hbit : h.nonIncrAddr ≠ 0) (d d' d'' : Driver)
    (i : Nat) (wdf wdf' : WdfCalls) (acts acts' : List Action)
    (hs : d.step h (.request i (.control wdf .addrModeSet)) = some (.ok (d', acts)))
    (hok : settle acts = .completed statusSuccess 0)
    (hg : d'.step h (.request i (.control wdf' .addrModeGet)) = some (.ok (d'', acts')))
    (v : Option Nat) (size : Nat) (hv : .copyToRequest v size ∈ acts') :
    v = some (if wdf.inputValue ≠ 0 then 1 else 0) ∧ size = 4 := by
  obtain ⟨file, hf, hr, hfiles⟩ := Driver.step_request hs
  obtain ⟨file', hf', hr', -⟩ := Driver.step_request hg
  -- The `GET` finds the handle's context as the `SET` left it.
  obtain rfl : file' = file := by
    unfold Driver.file? at hf hf'
    rw [hfiles, hf] at hf'
    exact (Option.some.inj hf').symm
  obtain ⟨q, id, hq, hqe, hgo, hadma⟩ := evtIoDeviceControl_set_success hr hok
  obtain ⟨q', id', hq', hqe', rfl, rfl⟩ := evtIoDeviceControl_get_copies hr' hv
  obtain rfl : q' = q := Option.some.inj (hq'.symm.trans hq)
  rw [hadma, AdmaDevice.setEngine_queueEngine, hqe, Option.some.injEq] at hqe'
  subst hqe'
  rw [hadma, AdmaDevice.setEngine_engines_self, addrModeOf_set h hbit wdf _ hgo]
  exact ⟨rfl, rfl⟩

theorem driver_get_after_set_two :
    (⟨1, 24⟩ : Headers).nonIncrAddr ≠ 0 ∧
      Driver.step ⟨1, 24⟩ ⟨AdmaDevice.sample, [some ⟨.ah2c, 0, ⟨0, .h2c⟩, 0, some 0⟩]⟩
          (.request 0 (.control { WdfCalls.allSucceed with inputValue := 2 } .addrModeSet)) =
        some (.ok (⟨AdmaDevice.sample.setEngine ⟨0, .h2c⟩ ⟨true, .mm, false, 1, 2⟩,
          [some ⟨.ah2c, 0, ⟨0, .h2c⟩, 0, some 0⟩]⟩, [.complete statusSuccess 0])) ∧
      settle [.complete statusSuccess 0] = .completed statusSuccess 0 ∧
      Driver.step ⟨1, 24⟩ ⟨AdmaDevice.sample.setEngine ⟨0, .h2c⟩ ⟨true, .mm, false, 1, 2⟩,
          [some ⟨.ah2c, 0, ⟨0, .h2c⟩, 0, some 0⟩]⟩
          (.request 0 (.control WdfCalls.allSucceed .addrModeGet)) =
        some (.ok (⟨AdmaDevice.sample.setEngine ⟨0, .h2c⟩ ⟨true, .mm, false, 1, 2⟩,
          [some ⟨.ah2c, 0, ⟨0, .h2c⟩, 0, some 0⟩]⟩,
          [.copyToRequest (some 1) 4, .complete statusSuccess 4])) ∧
      .copyToRequest (some 1) 4 ∈ [Action.copyToRequest (some 1) 4, .complete statusSuccess 4] ∧
      (some 1 = some (if ({ WdfCalls.allSucceed with inputValue := 2 } : WdfCalls).inputValue ≠ 0
        then 1 else 0) ∧ 4 = 4) :=
  have hbit : (⟨1, 24⟩ : Headers).nonIncrAddr ≠ 0 := by decide
  have hs : Driver.step ⟨1, 24⟩ ⟨AdmaDevice.sample, [some ⟨.ah2c, 0, ⟨0, .h2c⟩, 0, some 0⟩]⟩
      (.request 0 (.control { WdfCalls.allSucceed with inputValue := 2 } .addrModeSet)) =
      some (.ok (⟨AdmaDevice.sample.setEngine ⟨0, .h2c⟩ ⟨true, .mm, false, 1, 2⟩,
        [some ⟨.ah2c, 0, ⟨0, .h2c⟩, 0, some 0⟩]⟩, [.complete statusSuccess 0])) := rfl
  have hg : Driver.step ⟨1, 24⟩ ⟨AdmaDevice.sample.setEngine ⟨0, .h2c⟩ ⟨true, .mm, false, 1, 2⟩,
        [some ⟨.ah2c, 0, ⟨0, .h2c⟩, 0, some 0⟩]⟩
      (.request 0 (.control WdfCalls.allSucceed .addrModeGet)) =
      some (.ok (⟨AdmaDevice.sample.setEngine ⟨0, .h2c⟩ ⟨true, .mm, false, 1, 2⟩,
        [some ⟨.ah2c, 0, ⟨0, .h2c⟩, 0, some 0⟩]⟩,
        [.copyToRequest (some 1) 4, .complete statusSuccess 4])) := rfl
  have hv : .copyToRequest (some 1) 4 ∈ [Action.copyToRequest (some 1) 4, .complete statusSuccess 4] :=
    List.mem_cons_self _ _
  ⟨hbit, hs, rfl, hg, hv, driver_get_after_set _ hbit _ _ _ _ _ _ _ _ hs rfl hg _ _ hv⟩

/-! ## Faults -/

theorem evtIoDeviceControl_error {h : Headers} {adma : AdmaDevice} {wdf : WdfCalls}
    {file : FileContext} {code : IoctlCode} {f : WdfFault}
    (hr : evtIoDeviceControl h adma wdf file code = .error f) : file.queue = none := by
  rcases hq : file.queue with _ | q
  · rfl
  · rw [evtIoDeviceControl_of_queue h adma wdf file code q hq] at hr
    cases hr

theorem Driver.step_error {h : Headers} {d : Driver} {e : Event} {f : WdfFault}
    (hs : d.step h e = some (.error f)) :
    ∃ i r file, e = .request i r ∧ d.file? i = some file ∧
      serveRequest h d.adma file r = .error f := by
  cases e with
  | create name => cases hs
  | cleanup i =>
    simp only [Driver.step, Option.map_eq_some', reduceCtorEq, and_false, exists_false] at hs
  | request i r =>
    simp only [Driver.step, Option.map_eq_some'] at hs
    obtain ⟨file, hf, hr⟩ := hs
    refine ⟨i, r, file, rfl, hf, ?_⟩
    rcases hsr : serveRequest h d.adma file r with _ | _ <;>
      simp only [hsr, Except.map, reduceCtorEq, Except.error.injEq] at hr
    rw [hr]

theorem Driver.Inv.bar_of_not_dma {adma₀ : AdmaDevice} {d : Driver} (hi : d.Inv adma₀)
    {i : Nat} {file : FileContext} (hf : d.file? i = some file) {P : Prop} (hP : P)
    (hdma : (file.devType = .ah2c ∨ file.devType = .ac2h ∨ file.devType = .h2c ∨
      file.devType = .c2h) → ¬P) :
    file.devType = .user ∨ file.devType = .control :=
  ((hi.open hf).2.resolve_left fun ht => hdma (.inl ht) hP).resolve_left
    fun ht => hdma (.inr (.inl ht)) hP

end Xadma
