import Xadma.Control

/-! # The address mode of an engine

`IOCTL_ADMA_ADDRMODE_SET` sets or clears the non-incrementing bit through the write-1-to-set
and write-1-to-clear aliases of the control register, and keeps its input in `addressMode`;
`IOCTL_ADMA_ADDRMODE_GET` reads the bit back. Below, runs of such requests on one engine, and
`SET`s whose two stores interleave when they run at once.
-/

namespace Xadma

/-! ## The register -/

theorem or_and_mask (c m : BitVec 32) : (c ||| m) &&& m = m := by
  ext i
  simp only [BitVec.getLsbD_and, BitVec.getLsbD_or]
  cases c.getLsbD i <;> cases m.getLsbD i <;> rfl

theorem and_not_and_mask (c m : BitVec 32) : (c &&& ~~~m) &&& m = 0 := by
  ext i
  simp only [BitVec.getLsbD_and, BitVec.getLsbD_not, BitVec.getLsbD_zero]
  cases c.getLsbD i <;> cases m.getLsbD i <;> simp

theorem addrModeOf_controlW1S (h : Headers) (hbit : h.nonIncrAddr ≠ 0) (e : AdmaEngine) :
    addrModeOf h (e.controlW1S h.nonIncrAddr) = 1 := by
  simpa [addrModeOf, AdmaEngine.controlW1S, or_and_mask] using hbit

theorem addrModeOf_controlW1C (h : Headers) (e : AdmaEngine) :
    addrModeOf h (e.controlW1C h.nonIncrAddr) = 0 := by
  simp [addrModeOf, AdmaEngine.controlW1C, and_not_and_mask]

/-! ## One request -/

/-- `IoctlSetAddrMode` gets as far as the register: its input was retrieved and copied. -/
def setGoesThrough (wdf : WdfCalls) : Bool :=
  ntSuccess wdf.retrieveInputMemory && ntSuccess wdf.memoryCopyToBuffer

theorem ioctlSetAddrMode_of_failed (h : Headers) (wdf : WdfCalls) (e : AdmaEngine)
    (hf : setGoesThrough wdf = false) : (ioctlSetAddrMode h wdf e).2 = e := by
  unfold setGoesThrough at hf
  unfold ioctlSetAddrMode
  split_ifs <;> simp_all

theorem ioctlSetAddrMode_of_goesThrough (h : Headers) (wdf : WdfCalls) (e : AdmaEngine)
    (hs : setGoesThrough wdf = true) :
    (ioctlSetAddrMode h wdf e).2 =
      { (if wdf.inputValue ≠ 0 then e.controlW1S h.nonIncrAddr else e.controlW1C h.nonIncrAddr)
        with addressMode := wdf.inputValue } := by
  simp only [setGoesThrough, Bool.and_eq_true] at hs
  simp [ioctlSetAddrMode, hs.1, hs.2]

theorem ntSuccess_ioctlSetAddrMode (h : Headers) (wdf : WdfCalls) (e : AdmaEngine) :
    ntSuccess (ioctlSetAddrMode h wdf e).1 = setGoesThrough wdf := by
  unfold ioctlSetAddrMode setGoesThrough
  cases hr : ntSuccess wdf.retrieveInputMemory <;> cases hc : ntSuccess wdf.memoryCopyToBuffer <;>
    simp [hr, hc]

theorem addrModeOf_set (h : Headers) (hbit : h.nonIncrAddr ≠ 0) (wdf : WdfCalls)
    (e : AdmaEngine) (hs : setGoesThrough wdf = true) :
    addrModeOf h (ioctlSetAddrMode h wdf e).2 = if wdf.inputValue ≠ 0 then 1 else 0 := by
  rw [ioctlSetAddrMode_of_goesThrough h wdf e hs]
  split_ifs with hv
  · simpa [addrModeOf, AdmaEngine.controlW1S, or_and_mask] using hbit
  · simp [addrModeOf, AdmaEngine.controlW1C, and_not_and_mask]

theorem ioctlGetAddrMode_copies (h : Headers) (wdf : WdfCalls) (e : AdmaEngine)
    (v : Option Nat) (size : Nat) (hv : .copyToRequest v size ∈ (ioctlGetAddrMode h wdf e).2) :
    v = some (addrModeOf h e) ∧ size = 4 := by
  unfold ioctlGetAddrMode copyToOutput at hv
  split_ifs at hv <;> simp_all

theorem evtIoDeviceControl_set_success {h : Headers} {adma : AdmaDevice} {wdf : WdfCalls}
    {file : FileContext} {adma' : AdmaDevice} {acts : List Action}
    (hr : evtIoDeviceControl h adma wdf file .addrModeSet = .ok (adma', acts))
    (hok : settle acts = .completed statusSuccess 0) :
    ∃ q id, file.queue = some q ∧ adma.queueEngine q = some id ∧ setGoesThrough wdf = true ∧
      adma' = adma.setEngine id (ioctlSetAddrMode h wdf (adma.engines id)).2 := by
  rcases hq : file.queue with _ | q
  · rw [evtIoDeviceControl_of_unset h adma wdf file _ hq] at hr
    cases hr
  rw [evtIoDeviceControl_of_queue h adma wdf file _ q hq] at hr
  rcases hqe : adma.queueEngine q with _ | id <;>
    simp only [hqe, Except.ok.injEq, Prod.mk.injEq] at hr <;> obtain ⟨rfl, rfl⟩ := hr
  · simp [completeOnError] at hok
  refine ⟨q, id, rfl, hqe, ?_, rfl⟩
  -- A `SET` that fails is completed with its own failure status.
  rw [← ntSuccess_ioctlSetAddrMode h wdf (adma.engines id)]
  by_contra hf
  simp only [ioctlDispatch, Bool.not_eq_true] at hf hok
  simp only [completeOnError, hf, Bool.false_eq_true, if_false, List.nil_append,
    settle_complete, ReqState.completed.injEq, and_true] at hok
  rw [hok] at hf
  exact absurd hf (by decide)

theorem evtIoDeviceControl_get_copies {h : Headers} {adma : AdmaDevice} {wdf : WdfCalls}
    {file : FileContext} {adma' : AdmaDevice} {acts : List Action}
    (hr : evtIoDeviceControl h adma wdf file .addrModeGet = .ok (adma', acts)) {v : Option Nat}
    {size : Nat} (hv : .copyToRequest v size ∈ acts) :
    ∃ q id, file.queue = some q ∧ adma.queueEngine q = some id ∧
      v = some (addrModeOf h (adma.engines id)) ∧ size = 4 := by
  rcases hq : file.queue with _ | q
  · rw [evtIoDeviceControl_of_unset h adma wdf file _ hq] at hr
    cases hr
  rw [evtIoDeviceControl_of_queue h adma wdf file _ q hq] at hr
  rcases hqe : adma.queueEngine q with _ | id <;>
    simp only [hqe, Except.ok.injEq, Prod.mk.injEq] at hr <;> obtain ⟨rfl, rfl⟩ := hr
  · simp [completeOnError] at hv
  refine ⟨q, id, rfl, hqe, ioctlGetAddrMode_copies h wdf _ v size ?_⟩
  simp only [ioctlDispatch, completeOnError, completeOnSuccess, List.mem_append] at hv
  rcases hv with (hv | hv) | hv
  · exact hv
  all_goals split at hv <;> simp at hv

/-! ## Runs -/

/-- An address-mode request, with what its framework calls return. -/
inductive AddrModeRequest where
  | set (wdf : WdfCalls)
  | get (wdf : WdfCalls)

def AddrModeRequest.wdf : AddrModeRequest → WdfCalls
  | .set wdf | .get wdf => wdf

def AddrModeRequest.code : AddrModeRequest → IoctlCode
  | .set _ => .addrModeSet
  | .get _ => .addrModeGet

def AddrModeRequest.apply (h : Headers) (e : AdmaEngine) : AddrModeRequest → AdmaEngine
  | .set wdf => (ioctlSetAddrMode h wdf e).2
  | .get _ => e

/-- The input of a `SET` that goes through. -/
def AddrModeRequest.setInput : AddrModeRequest → Option (BitVec 32)
  | .set wdf => if setGoesThrough wdf then some wdf.inputValue else none
  | .get _ => none

def runAddrMode (h : Headers) (e : AdmaEngine) (reqs : List AddrModeRequest) : AdmaEngine :=
  reqs.foldl (AddrModeRequest.apply h) e

/-- The input of the last `SET` of the run that went through. -/
def lastSetInput (reqs : List AddrModeRequest) : Option (BitVec 32) :=
  (reqs.filterMap AddrModeRequest.setInput).getLast?

theorem ioctlDispatch_addrMode (h : Headers) (adma : AdmaDevice) (id : EngineId)
    (r : AddrModeRequest) :
    (ioctlDispatch h adma r.wdf id r.code).2.1.engines id = r.apply h (adma.engines id) := by
  cases r <;> simp [ioctlDispatch, AddrModeRequest.wdf, AddrModeRequest.code,
    AddrModeRequest.apply]

theorem lastSetInput_cons (r : AddrModeRequest) (rs : List AddrModeRequest) :
    lastSetInput (r :: rs) = (lastSetInput rs).or r.setInput := by
  unfold lastSetInput
  cases hr : r.setInput with
  | none => simp [List.filterMap_cons_none hr]
  | some v =>
    rw [List.filterMap_cons_some hr, ← List.singleton_append, List.getLast?_append]
    rfl

theorem addrModeOf_apply (h : Headers) (hbit : h.nonIncrAddr ≠ 0) (e : AdmaEngine)
    (r : AddrModeRequest) :
    addrModeOf h (r.apply h e) =
      match r.setInput with
      | some v => if v ≠ 0 then 1 else 0
      | none => addrModeOf h e := by
  cases r with
  | get wdf => rfl
  | set wdf =>
    cases hs : setGoesThrough wdf
    · simp [AddrModeRequest.apply, AddrModeRequest.setInput, hs,
        ioctlSetAddrMode_of_failed h wdf e hs]
    · simp [AddrModeRequest.apply, AddrModeRequest.setInput, hs, addrModeOf_set h hbit wdf e hs]

theorem addressMode_apply (h : Headers) (e : AdmaEngine) (r : AddrModeRequest) :
    (r.apply h e).addressMode = r.setInput.getD e.addressMode := by
  cases r with
  | get wdf => rfl
  | set wdf =>
    cases hs : setGoesThrough wdf
    · simp [AddrModeRequest.apply, AddrModeRequest.setInput, hs,
        ioctlSetAddrMode_of_failed h wdf e hs]
    · simp only [AddrModeRequest.apply, AddrModeRequest.setInput, hs,
        ioctlSetAddrMode_of_goesThrough h wdf e hs]
      rfl

theorem addrModeOf_run (h : Headers) (hbit : h.nonIncrAddr ≠ 0) (e : AdmaEngine)
    (reqs : List AddrModeRequest) :
    addrModeOf h (runAddrMode h e reqs) =
      match lastSetInput reqs with
      | some v => if v ≠ 0 then 1 else 0
      | none => addrModeOf h e := by
  induction reqs generalizing e with
  | nil => rfl
  | cons r rs ih =>
    rw [runAddrMode, List.foldl_cons, ← runAddrMode, ih, lastSetInput_cons,
      addrModeOf_apply h hbit]
    cases lastSetInput rs <;> cases r.setInput <;> rfl

theorem addressMode_run (h : Headers) (e : AdmaEngine) (reqs : List AddrModeRequest) :
    (runAddrMode h e reqs).addressMode = (lastSetInput reqs).getD e.addressMode := by
  induction reqs generalizing e with
  | nil => rfl
  | cons r rs ih =>
    rw [runAddrMode, List.foldl_cons, ← runAddrMode, ih, lastSetInput_cons, addressMode_apply]
    cases lastSetInput rs <;> cases r.setInput <;> rfl

/-- `addressMode` agrees with the bit as a truth value: nonzero exactly when a `GET` reads 1. -/
def Mirrors (h : Headers) (e : AdmaEngine) : Prop :=
  e.addressMode ≠ 0 ↔ addrModeOf h e = 1

instance (h : Headers) (e : AdmaEngine) : Decidable (Mirrors h e) :=
  inferInstanceAs (Decidable (e.addressMode ≠ 0 ↔ addrModeOf h e = 1))

/-- Over any run of address-mode requests on an engine: a `GET` reads back the last `SET` that
went through, `addressMode` holds that `SET`'s raw input, and a failed `SET` changes nothing. -/
theorem addrMode_runs (h : Headers) (hbit : h.nonIncrAddr ≠ 0) (e : AdmaEngine)
    (reqs : List AddrModeRequest) :
    (∀ wdf v size, .copyToRequest v size ∈ (ioctlGetAddrMode h wdf (runAddrMode h e reqs)).2 →
      v = some (match lastSetInput reqs with
        | some v => if v ≠ 0 then 1 else 0
        | none => addrModeOf h e)) ∧
    (runAddrMode h e reqs).addressMode = (lastSetInput reqs).getD e.addressMode ∧
    (lastSetInput reqs ≠ none ∨ Mirrors h e → Mirrors h (runAddrMode h e reqs)) ∧
    (∀ wdf, setGoesThrough wdf = false →
      runAddrMode h e (reqs ++ [.set wdf]) = runAddrMode h e reqs) := by
  refine ⟨fun wdf v size hv => ?_, addressMode_run h e reqs, fun hm => ?_, fun wdf hf => ?_⟩
  · rw [(ioctlGetAddrMode_copies h wdf _ v size hv).1, addrModeOf_run h hbit]
  · unfold Mirrors
    rw [addrModeOf_run h hbit, addressMode_run]
    rcases hl : lastSetInput reqs with _ | v
    · simpa [hl, Mirrors] using hm
    · by_cases hv : v = 0 <;> simp [hv]
  · simp [runAddrMode, List.foldl_append, AddrModeRequest.apply,
      ioctlSetAddrMode_of_failed h wdf _ hf]

theorem addrMode_runs_set_two :
    (⟨1, 24⟩ : Headers).nonIncrAddr ≠ 0 ∧
    (runAddrMode ⟨1, 24⟩ ⟨true, .mm, false, 0, 0⟩
        [.set { WdfCalls.allSucceed with inputValue := 2 }]).addressMode =
      (lastSetInput [.set { WdfCalls.allSucceed with inputValue := 2 }]).getD 0 :=
  ⟨by decide, (addrMode_runs ⟨1, 24⟩ (by decide) ⟨true, .mm, false, 0, 0⟩
    [.set { WdfCalls.allSucceed with inputValue := 2 }]).2.1⟩

/-- A `SET` of 2 leaves `addressMode` at 2, while a `GET` reads back 1. -/
theorem addressMode_keeps_raw_input :
    (runAddrMode ⟨1, 24⟩ ⟨true, .mm, false, 0, 0⟩
        [.set { WdfCalls.allSucceed with inputValue := 2 }]).addressMode = 2 ∧
      (ioctlGetAddrMode ⟨1, 24⟩ WdfCalls.allSucceed (runAddrMode ⟨1, 24⟩
        ⟨true, .mm, false, 0, 0⟩ [.set { WdfCalls.allSucceed with inputValue := 2 }])).2 =
        [.copyToRequest (some 1) 4] := by
  decide

/-! ## `SET`s at once on one engine

`IoctlSetAddrMode` writes the register's alias and then `addressMode`, and takes no lock. When
several `SET`s run at once on one engine, their stores interleave.
-/

/-- Where a `SET` that got its input is, in its two stores. -/
inductive SetPc where
  /-- Before the write to `controlW1S` or `controlW1C`. -/
  | register
  /-- Before `engine->addressMode = addrMode`. -/
  | addressMode
  | done
  deriving DecidableEq, Repr

structure SetThread where
  input : BitVec 32
  pc : SetPc
  deriving DecidableEq, Repr

/-- The next store of a `SET`, and where it is after it; `none` once it is done. -/
def setStore (h : Headers) (e : AdmaEngine) (t : SetThread) : Option (AdmaEngine × SetThread) :=
  match t.pc with
  | .register =>
    some (if t.input ≠ 0 then e.controlW1S h.nonIncrAddr else e.controlW1C h.nonIncrAddr,
      { t with pc := .addressMode })
  | .addressMode => some ({ e with addressMode := t.input }, { t with pc := .done })
  | .done => none

def setsStep (h : Headers) (s : AdmaEngine × List SetThread) (k : Nat) :
    Option (AdmaEngine × List SetThread) :=
  s.2[k]?.bind fun t => (setStore h s.1 t).map fun r => (r.1, s.2.set k r.2)

def setsRun (h : Headers) (s : AdmaEngine × List SetThread) :
    List Nat → Option (AdmaEngine × List SetThread)
  | [] => some s
  | k :: ks => (setsStep h s k).bind (setsRun h · ks)

/-- Run back to back, the two stores of a `SET` are `IoctlSetAddrMode`. -/
theorem setStore_twice (h : Headers) (wdf : WdfCalls) (e : AdmaEngine)
    (hs : setGoesThrough wdf = true) :
    (setStore h e ⟨wdf.inputValue, .register⟩).bind (fun r => setStore h r.1 r.2) =
      some ((ioctlSetAddrMode h wdf e).2, ⟨wdf.inputValue, .done⟩) := by
  rw [ioctlSetAddrMode_of_goesThrough h wdf e hs]
  rfl

theorem setsStep_length {h : Headers} {s s' : AdmaEngine × List SetThread} {k : Nat}
    (hs : setsStep h s k = some s') : s'.2.length = s.2.length := by
  simp only [setsStep, Option.bind_eq_some, Option.map_eq_some'] at hs
  obtain ⟨t, -, r, -, rfl⟩ := hs
  exact List.length_set _ _ _

theorem setsRun_length (h : Headers) :
    ∀ (sched : List Nat) (s s' : AdmaEngine × List SetThread), setsRun h s sched = some s' →
      s'.2.length = s.2.length
  | [], s, s', hr => by cases hr; rfl
  | k :: ks, s, s', hr => by
    simp only [setsRun, Option.bind_eq_some] at hr
    obtain ⟨s₁, h₁, h₂⟩ := hr
    exact (setsRun_length h ks s₁ s' h₂).trans (setsStep_length h₁)

/-- What the stores so far leave, when every `SET` in flight asks for the mode `b`: once one
has written the register the bit is `b`, and once one is done `addressMode` is. -/
structure SetsInv (h : Headers) (b : Bool) (s : AdmaEngine × List SetThread) : Prop where
  inputs : ∀ t ∈ s.2, (t.input != 0) = b
  register : (∃ t ∈ s.2, t.pc ≠ .register) → addrModeOf h s.1 = b.toNat
  addressMode : (∃ t ∈ s.2, t.pc = .done) → (s.1.addressMode != 0) = b

theorem setsInv_step {h : Headers} (hbit : h.nonIncrAddr ≠ 0) {b : Bool}
    {s s' : AdmaEngine × List SetThread} {k : Nat} (hi : SetsInv h b s)
    (hs : setsStep h s k = some s') : SetsInv h b s' := by
  obtain ⟨e, ts⟩ := s
  simp only [setsStep, Option.bind_eq_some, Option.map_eq_some'] at hs
  obtain ⟨⟨v, pc⟩, ht, r, hr, rfl⟩ := hs
  have hv := hi.inputs _ (List.getElem?_mem ht)
  have hmem : ∀ u ∈ ts.set k r.2, u ∈ ts ∨ u = r.2 := fun u hu => List.mem_or_eq_of_mem_set hu
  cases pc <;> simp only [setStore, Option.some.injEq, reduceCtorEq] at hr <;> subst hr
  -- The register write sets the bit as the input says, and no `SET` is done by it.
  case register =>
    subst hv
    refine ⟨fun u hu => (hmem u hu).elim (hi.inputs u) fun hu => by rw [hu], fun _ => ?_,
      fun ⟨u, hu, hd⟩ => ?_⟩
    · by_cases h0 : v = 0
      · rw [if_neg (not_not_intro h0), addrModeOf_controlW1C, h0]
        rfl
      · rw [if_pos h0, addrModeOf_controlW1S h hbit, bne_iff_ne.2 h0]
        rfl
    · rcases hmem u hu with hu | rfl
      · have := hi.addressMode ⟨u, hu, hd⟩
        split <;> exact this
      · cases hd
  case addressMode =>
    refine ⟨fun u hu => (hmem u hu).elim (hi.inputs u) fun hu => hu ▸ hv,
      fun _ => hi.register ⟨_, List.getElem?_mem ht, nofun⟩, fun _ => hv⟩

theorem setsInv_run {h : Headers} (hbit : h.nonIncrAddr ≠ 0) {b : Bool} :
    ∀ (sched : List Nat) (s s' : AdmaEngine × List SetThread), SetsInv h b s →
      setsRun h s sched = some s' → SetsInv h b s'
  | [], s, s', hi, hr => by cases hr; exact hi
  | k :: ks, s, s', hi, hr => by
    simp only [setsRun, Option.bind_eq_some] at hr
    obtain ⟨s₁, h₁, h₂⟩ := hr
    exact setsInv_run hbit ks s₁ s' (setsInv_step hbit hi h₁) h₂

/-- However the stores of `SET`s that run at once on one engine interleave, when they all ask
for the same mode, the engine ends with the bit and `addressMode` both agreeing with it. -/
theorem concurrent_agreeing_sets (h : Headers) (hbit : h.nonIncrAddr ≠ 0) (e : AdmaEngine)
    (ts : List SetThread) (b : Bool) (hne : ts ≠ [])
    (hts : ∀ t ∈ ts, t.pc = .register ∧ (t.input != 0) = b) (sched : List Nat)
    (e' : AdmaEngine) (ts' : List SetThread) (hr : setsRun h (e, ts) sched = some (e', ts'))
    (hdone : ∀ t ∈ ts', t.pc = .done) :
    addrModeOf h e' = b.toNat ∧ (e'.addressMode != 0) = b := by
  have hi : SetsInv h b (e', ts') := setsInv_run hbit sched _ _
    ⟨fun t ht => (hts t ht).2, fun ⟨t, ht, hp⟩ => absurd (hts t ht).1 hp,
      fun ⟨t, ht, hp⟩ => nomatch (hts t ht).1.symm.trans hp⟩ hr
  -- Every `SET` is done, and there is one.
  obtain ⟨t, ht⟩ : ∃ t, t ∈ ts' := List.exists_mem_of_length_pos (by
    rw [setsRun_length h sched _ _ hr]
    exact List.length_pos.2 hne)
  exact ⟨hi.register ⟨t, ht, by rw [hdone t ht]; nofun⟩, hi.addressMode ⟨t, ht, hdone t ht⟩⟩

theorem concurrent_agreeing_sets_two :
    (⟨1, 24⟩ : Headers).nonIncrAddr ≠ 0 ∧ [(⟨2, .register⟩ : SetThread), ⟨1, .register⟩] ≠ [] ∧
      (∀ t ∈ [(⟨2, .register⟩ : SetThread), ⟨1, .register⟩], t.pc = .register ∧ (t.input != 0) = true) ∧
      setsRun ⟨1, 24⟩ (⟨true, .mm, false, 0, 0⟩, [⟨2, .register⟩, ⟨1, .register⟩]) [0, 1, 1, 0] =
        some (⟨true, .mm, false, 1, 2⟩, [⟨2, .done⟩, ⟨1, .done⟩]) ∧
      (∀ t ∈ [(⟨2, .done⟩ : SetThread), ⟨1, .done⟩], t.pc = .done) ∧
      (addrModeOf ⟨1, 24⟩ ⟨true, .mm, false, 1, 2⟩ = true.toNat ∧
        ((2 : BitVec 32) != 0) = true) :=
  have hbit : (⟨1, 24⟩ : Headers).nonIncrAddr ≠ 0 := by decide
  have hts : ∀ t ∈ [(⟨2, .register⟩ : SetThread), ⟨1, .register⟩],
      t.pc = .register ∧ (t.input != 0) = true := by decide
  have hr : setsRun ⟨1, 24⟩ (⟨true, .mm, false, 0, 0⟩, [⟨2, .register⟩, ⟨1, .register⟩])
      [0, 1, 1, 0] = some (⟨true, .mm, false, 1, 2⟩, [⟨2, .done⟩, ⟨1, .done⟩]) := by decide
  have hdone : ∀ t ∈ [(⟨2, .done⟩ : SetThread), ⟨1, .done⟩], t.pc = .done := by decide
  ⟨hbit, List.cons_ne_nil _ _, hts, hr, hdone, concurrent_agreeing_sets _ hbit _
    [⟨2, .register⟩, ⟨1, .register⟩] true (List.cons_ne_nil _ _) hts _ _ _ hr hdone⟩

end Xadma
