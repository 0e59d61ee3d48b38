import Xadma.Driver
import Xadma.Dma

/-! # The driver and its engine queues

A read or a write the driver forwards goes to an engine's queue, whose callback runs it:
`EvtIoWriteDma` or `EvtIoReadDma`, which `EvtCancelDma` may race, or `EvtIoReadEngineRing`.
Below, these callbacks step by step, interleaved with the callbacks on the file handles.
-/

namespace Xadma

/-- A request on an engine's queue, as the queue's callback runs it. -/
inductive Job where
  | dma (id : EngineId) (r : Dma.Routine) (s : Dma.St)
  /-- `EvtIoReadEngineRing`, and its effects once the queue has called it. -/
  | ring (id : EngineId) (length : BitVec 64) (acts : Option (List Action))

/-- The callback the queue of engine `id` runs a forwarded request with. The engine code, not
part of this file, creates the queues: a streaming engine's queue reads with
`EvtIoReadEngineRing`, the others with `EvtIoReadDma`, and every queue writes with
`EvtIoWriteDma`. -/
def queueJob (adma : AdmaDevice) (id : EngineId) : NodeRequest → Option Job
  | .write _ _ => some (.dma id ⟨true, (adma.engines id).poll⟩ Dma.St.init)
  | .read _ req =>
    if (adma.engines id).type = .st then some (.ring id req.length none)
    else some (.dma id ⟨false, (adma.engines id).poll⟩ Dma.St.init)
  | .control _ _ => none

/-- The request a request event forwards to an engine's queue. -/
def forwardedJob (adma : AdmaDevice) : Event → List Action → Option Job
  | .request _ r, acts =>
    match settle acts with
    | .forwarded (some q) => (adma.queueEngine q).bind fun id => queueJob adma id r
    | _ => none
  | _, _ => none

/-- The driver, and the requests it forwarded, in the order it forwarded them. -/
structure System where
  driver : Driver
  jobs : List Job

inductive SysEvent where
  | file (e : Event)
  /-- The next statement of the routine on the `k`-th job, or of `EvtCancelDma` on it. -/
  | dma (k : Nat) (e : Dma.Step)
  | ring (k : Nat) (wdf : WdfCalls) (copied : NTSTATUS × Nat)

def System.step (h : Headers) (s : System) :
    SysEvent → Option (Except WdfFault (System × List Action))
  | .file e =>
    (s.driver.step h e).map fun r => r.map fun res =>
      (⟨res.1, s.jobs ++ (forwardedJob s.driver.adma e res.2).toList⟩, res.2)
  | .dma k e =>
    match s.jobs[k]? with
    | some (.dma id r st) =>
      (Dma.step r st e).map fun st' =>
        .ok (⟨s.driver, s.jobs.set k (.dma id r st')⟩, Dma.stepCalls id st e)
    | _ => none
  | .ring k wdf copied =>
    match s.jobs[k]? with
    | some (.ring id length none) =>
      let acts := evtIoReadEngineRing wdf id length copied
      some (.ok (⟨s.driver, s.jobs.set k (.ring id length (some acts))⟩, acts))
    | _ => none

inductive System.Reachable (h : Headers) (adma : AdmaDevice) : System → Prop
  | init : System.Reachable h adma ⟨⟨adma, []⟩, []⟩
  | step {s s' : System} (e : SysEvent) (acts : List Action) : System.Reachable h adma s →
      s.step h e = some (.ok (s', acts)) → System.Reachable h adma s'

/-! ## What one event does -/

section Step

variable {h : Headers} {s s' : System} {acts : List Action}

theorem System.step_file {e : Event} (hs : s.step h (.file e) = some (.ok (s', acts))) :
    s.driver.step h e = some (.ok (s'.driver, acts)) ∧
      s'.jobs = s.jobs ++ (forwardedJob s.driver.adma e acts).toList := by
  simp only [System.step, Option.map_eq_some'] at hs
  obtain ⟨r, hr, he⟩ := hs
  rcases r with _ | ⟨d', acts'⟩ <;> simp only [Except.map, Except.ok.injEq, reduceCtorEq] at he
  obtain ⟨rfl, rfl⟩ := Prod.mk.inj he
  exact ⟨hr, rfl⟩

theorem System.step_dma {k : Nat} {e : Dma.Step}
    (hs : s.step h (.dma k e) = some (.ok (s', acts))) :
    ∃ id r st st', s.jobs[k]? = some (.dma id r st) ∧ Dma.step r st e = some st' ∧
      s' = ⟨s.driver, s.jobs.set k (.dma id r st')⟩ ∧ acts = Dma.stepCalls id st e := by
  simp only [System.step] at hs
  split at hs
  next id r st hj =>
    simp only [Option.map_eq_some', Option.some.injEq, Except.ok.injEq, Prod.mk.injEq] at hs
    obtain ⟨st', hst, rfl, rfl⟩ := hs
    exact ⟨id, r, st, st', hj, hst, rfl, rfl⟩
  next => cases hs

theorem System.step_ring {k : Nat} {wdf : WdfCalls} {copied : NTSTATUS × Nat}
    (hs : s.step h (.ring k wdf copied) = some (.ok (s', acts))) :
    ∃ id length, s.jobs[k]? = some (.ring id length none) ∧
      s' = ⟨s.driver, s.jobs.set k (.ring id length (some acts))⟩ ∧
      acts = evtIoReadEngineRing wdf id length copied := by
  simp only [System.step] at hs
  split at hs
  next id length hj =>
    simp only [Option.some.injEq, Except.ok.injEq, Prod.mk.injEq] at hs
    obtain ⟨rfl, rfl⟩ := hs
    exact ⟨id, length, hj, rfl, rfl⟩
  next => cases hs

end Step

/-! ## What every run keeps -/

/-- The job runs on the engine of the queue of channel 0 in its request's direction: a routine
in the engine's poll mode, in a state the race model reaches, or a ring read. -/
def Job.Inv (adma : AdmaDevice) : Job → Prop
  | .dma id r s => Dma.Reachable r s ∧
    adma.queueEngine (adma.engineQueue ⟨0, if r.write then .h2c else .c2h⟩) = some id ∧
    r.poll = (adma.engines id).poll ∧ (r.write = false → (adma.engines id).type = .mm)
  | .ring id _ _ => adma.queueEngine (adma.engineQueue ⟨0, .c2h⟩) = some id ∧
    (adma.engines id).type = .st

theorem Driver.Inv.forwardedJob_inv {adma₀ : AdmaDevice} {h : Headers} {d d' : Driver} {e : Event}
    {acts : List Action} (hi : d.Inv adma₀) (hs : d.step h e = some (.ok (d', acts)))
    {j : Job} (hj : forwardedJob d.adma e acts = some j) : j.Inv adma₀ := by
  cases e with
  | create name => cases hj
  | cleanup i => cases hj
  | request i r =>
    simp only [forwardedJob] at hj
    split at hj
    next q hq =>
      obtain ⟨id, hid, hjob⟩ := Option.bind_eq_some.1 hj
      obtain ⟨file, hf, hfq, hrk⟩ := hi.forwarded hs hq
      have hb := (hi.open hf).1
      obtain ⟨he1, he2⟩ := hi.engine file (Driver.mem_of_file? hf)
      obtain ⟨heq, hqe, hmode⟩ := hi.sameBut.config
      rw [hqe] at hid
      -- The queue is the one of the handle's engine, channel 0 in the request's direction.
      rcases hrk with ⟨⟨wdf, req, rfl⟩, ht⟩ | ⟨⟨wdf, req, rfl⟩, ht⟩
      · rw [hb.queue_of_dma (.inl ht), he1 ht, heq] at hfq
        rw [Option.some.inj hfq] at hid
        obtain rfl := (Option.some.inj hjob).symm
        exact ⟨.init, hid, (hmode id).1, nofun⟩
      · rw [hb.queue_of_dma (.inr (.inl ht)), he2 ht, heq] at hfq
        rw [Option.some.inj hfq] at hid
        simp only [queueJob] at hjob
        split at hjob <;> obtain rfl := (Option.some.inj hjob).symm
        next hst => exact ⟨hid, (hmode id).2 ▸ hst⟩
        next hst =>
          refine ⟨.init, hid, (hmode id).1, fun _ => ?_⟩
          rw [← (hmode id).2]
          cases hty : (d.adma.engines id).type
          · rfl
          · exact absurd hty hst
    next => cases hj

structure System.Inv (adma : AdmaDevice) (s : System) : Prop where
  driver : s.driver.Inv adma
  jobs : ∀ j ∈ s.jobs, j.Inv adma

theorem System.inv_step {h : Headers} {adma : AdmaDevice} {s s' : System} {e : SysEvent}
    {acts : List Action} (hi : s.Inv adma) (hs : s.step h e = some (.ok (s', acts))) :
    s'.Inv adma := by
  cases e with
  | file e =>
    obtain ⟨hd, hjobs⟩ := System.step_file hs
    refine ⟨Driver.inv_step hi.driver hd, fun j hj => ?_⟩
    rw [hjobs, List.mem_append] at hj
    rcases hj with hj | hj
    · exact hi.jobs j hj
    · exact hi.driver.forwardedJob_inv hd (Option.mem_toList.1 hj)
  | dma k e =>
    obtain ⟨id, r, st, st', hj, hst, rfl, -⟩ := System.step_dma hs
    refine ⟨hi.driver, fun j hm => ?_⟩
    rcases List.mem_or_eq_of_mem_set hm with hm | rfl
    · exact hi.jobs j hm
    · obtain ⟨hr, hrest⟩ := hi.jobs _ (List.getElem?_mem hj)
      exact ⟨.step e hr hst, hrest⟩
  | ring k wdf copied =>
    obtain ⟨id, length, hj, rfl, -⟩ := System.step_ring hs
    refine ⟨hi.driver, fun j hm => ?_⟩
    rcases List.mem_or_eq_of_mem_set hm with hm | rfl
    · exact hi.jobs j hm
    · exact (hi.jobs _ (List.getElem?_mem hj) : Job.Inv adma (.ring id length none))

theorem System.inv_of_reachable {h : Headers} {adma : AdmaDevice} {s : System}
    (hs : s.Reachable h adma) : s.Inv adma := by
  induction hs with
  | init =>
    exact ⟨Driver.inv_of_reachable (h := h) .init, fun _ h => absurd h (List.not_mem_nil _)⟩
  | step e acts _ hs ih => exact System.inv_step ih hs

/-- Every run of the race model from a job's state is a run of the system. -/
theorem System.reachable_dma_run {h : Headers} {adma : AdmaDevice} {k : Nat} {id : EngineId}
    {r : Dma.Routine} : ∀ (sched : List Dma.Step) (s : System) (st st' : Dma.St),
      s.Reachable h adma → s.jobs[k]? = some (.dma id r st) → Dma.run r st sched = some st' →
      System.Reachable h adma ⟨s.driver, s.jobs.set k (.dma id r st')⟩
  | [], s, st, st', hs, hj, hr => by
    cases hr
    have hset : s.jobs.set k (.dma id r st) = s.jobs := List.ext_getElem? fun n => by
      by_cases hn : k = n
      · subst hn
        rw [List.getElem?_set_self (List.getElem?_eq_some_iff.1 hj).1, hj]
      · rw [List.getElem?_set_ne hn]
    rw [hset]
    exact hs
  | e :: es, s, st, st', hs, hj, hr => by
    simp only [Dma.run, Option.bind_eq_some] at hr
    obtain ⟨st₁, h₁, h₂⟩ := hr
    have hstep : s.step h (.dma k e) =
        some (.ok (⟨s.driver, s.jobs.set k (.dma id r st₁)⟩, Dma.stepCalls id st e)) := by
      simp only [System.step, hj, h₁, Option.map_some']
    have hk : k < s.jobs.length := (List.getElem?_eq_some_iff.1 hj).1
    have := System.reachable_dma_run es ⟨s.driver, s.jobs.set k (.dma id r st₁)⟩ st₁ st'
      (.step _ _ hs hstep) (List.getElem?_set_self hk) h₂
    rwa [List.set_set] at this

theorem evtDeviceFileCreate_h2c0 (adma : AdmaDevice)
    (hen : (adma.engines ⟨0, .h2c⟩).enabled = true) :
    evtDeviceFileCreate adma (some admaFileH2c0) =
      (⟨.ah2c, 0, ⟨0, .h2c⟩, 0, some (adma.engineQueue ⟨0, .h2c⟩)⟩, [.complete statusSuccess 0]) := by
  simp [evtDeviceFileCreate, getDevNodeType_eq, bindDevNode, bindEngine, hen, FileContext.zero]

/-- No user-event wait, and of the engine code only the performance counters, `EngineStop`,
`EnginePollTransfer`, and the ring copy on a streaming engine of the `c2h_0` queue. -/
def Action.InSystem (adma : AdmaDevice) : Action → Prop
  | .clearEvent | .waitForEvent => False
  | .engine id c => c = .startPerf ∨ c = .getPerf ∨ c = .stop ∨ c = .pollTransfer ∨
    (∃ n, c = .ringCopy n) ∧ adma.queueEngine (adma.engineQueue ⟨0, .c2h⟩) = some id ∧
      (adma.engines id).type = .st
  | _ => True

theorem Action.Plain.inSystem {adma : AdmaDevice} {a : Action} (h : a.Plain) :
    a.InSystem adma := by
  cases a with
  | clearEvent | waitForEvent => exact h.elim
  | engine id c => exact h.imp_right .inl
  | _ => trivial

theorem Dma.stepCalls_inSystem (adma : AdmaDevice) (id : EngineId) (s : Dma.St) (e : Dma.Step) :
    ∀ a ∈ Dma.stepCalls id s e, a.InSystem adma := by
  cases e <;> simp only [Dma.stepCalls] <;> (try split) <;> simp [Action.InSystem]

theorem evtIoReadEngineRing_inSystem {adma : AdmaDevice} {id : EngineId}
    (hid : adma.queueEngine (adma.engineQueue ⟨0, .c2h⟩) = some id)
    (hst : (adma.engines id).type = .st) (wdf : WdfCalls) (length : BitVec 64)
    (copied : NTSTATUS × Nat) : ∀ a ∈ evtIoReadEngineRing wdf id length copied, a.InSystem adma := by
  unfold evtIoReadEngineRing
  split <;> simp [Action.InSystem, hid, hst]

theorem System.step_inSystem {h : Headers} {adma : AdmaDevice} {s s' : System} {e : SysEvent}
    {acts : List Action} (hi : s.Inv adma) (hs : s.step h e = some (.ok (s', acts))) :
    ∀ a ∈ acts, a.InSystem adma := by
  cases e with
  | file e =>
    obtain ⟨hd, -⟩ := System.step_file hs
    exact fun a ha => (Driver.step_plain hi.driver hd a ha).inSystem
  | dma k e =>
    obtain ⟨id, r, st, st', -, -, -, rfl⟩ := System.step_dma hs
    exact Dma.stepCalls_inSystem adma id st e
  | ring k wdf copied =>
    obtain ⟨id, length, hj, -, rfl⟩ := System.step_ring hs
    obtain ⟨hid, hst⟩ := hi.jobs _ (List.getElem?_mem hj)
    exact evtIoReadEngineRing_inSystem hid hst wdf length copied

/-- The sample device, with streaming engines. -/
def AdmaDevice.streamingSample : AdmaDevice :=
  { AdmaDevice.sample with engines := fun _ => ⟨true, .st, false, 0, 0⟩ }

end Xadma
