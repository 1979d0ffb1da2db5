/-
  BcuSdk.Eibd.RemoteCalls

  What the calls of the client library mean, and that the library and the
  daemon agree about it.

  `localCall` says what a call does as if there were no socket in between: the
  operation it stands for, on the state behind the daemon, and what the caller
  gets.  `remoteCall` sends the request, lets the daemon serve it and completes
  the call with the first reply that has not been taken.
-/
import BcuSdk.Eibd.ClientService
import BcuSdk.Lib.Simulation

namespace BcuSdk.Eibd

open BcuSdk.Lib BcuSdk.Common
open ManagementCalls (answer reject wordReply infoBytes)

/-! ## Calls without a socket -/

/-- The library takes the call: the buffer has no negative length, and the message is short enough
    for its header. -/
def EIBCall.Valid : EIBCall → Prop
  | .mReadIndividualAddresses maxlen => 0 ≤ maxlen
  | .loadImage image => image.length ≤ 65533
  | .cacheRead _ maxlen => 0 ≤ maxlen
  | .cacheReadSync _ maxlen _ => 0 ≤ maxlen
  | .cacheLastUpdates _ _ maxlen => 0 ≤ maxlen
  | .mcRead _ maxlen => 0 ≤ maxlen
  | .mcWrite _ buf => buf.length ≤ 65529
  | .mcWritePlain _ buf => buf.length ≤ 65529
  | .mcPropertyRead _ _ _ _ maxlen => 0 ≤ maxlen
  | .mcPropertyWrite _ _ _ _ buf maxlen => 0 ≤ maxlen ∧ buf.length ≤ 65528
  | .mcPropertyScan maxlen => 0 ≤ maxlen
  | _ => True

instance (k : EIBCall) : Decidable k.Valid := by
  cases k <;> (dsimp only [EIBCall.Valid]; infer_instance)

/-- An operation that has failed is told by `ECONNRESET`. -/
def CallOutcome.ofOption {α : Type} (f : α → Answer) : Option α → CallOutcome
  | some a => .ok (f a)
  | none => .error .econnreset

/-- The caller gets as much of the data as its buffer holds. -/
def Answer.filled (maxlen : Int) (data : CArray) (a : Answer) : Answer :=
  { a with value := (data.take maxlen.toNat).length, buf := data.take maxlen.toNat }

/-- The operation that changes the programming mode. -/
def ManagementCalls.progmode {σ : Type} (m : ManagementCalls σ) :
    ProgmodeChange → σ → Option Unit × σ
  | .off => m.progmodeOff
  | .on => m.progmodeOn
  | .toggle => m.progmodeToggle

namespace EibdCalls

variable {σ : Type} (w : EibdCalls σ)

/-! ### Outside of a session -/

/-- An operation on a device that is connected for this one call. -/
def withDevice (dest : EibAddr) (s : σ) (f : ManagementCalls σ → σ → CallOutcome × σ) :
    CallOutcome × σ :=
  match w.connect dest s with
  | (false, s) => (.error .econnreset, s)
  | (true, s) =>
      let (o, s) := f (w.connection dest) s
      (o, w.disconnect dest s)

/-- The result of an operation. -/
def lift {α : Type} (f : α → Answer) (r : Option α × σ) : CallOutcome × σ := (.ofOption f r.1, r.2)

/-- The state of the programming mode. -/
def status (i : Int) : CallOutcome :=
  if i = -1 then .error .econnreset else .ok { value := (BitVec.ofInt 8 i).toNat }

/-- The assignment of an individual address to the one device in programming mode. -/
def assign (dest : EibAddr) (s : σ) : CallOutcome × σ :=
  let (addr, s) := w.individualAddressRead s
  if 1 < addr.length then (.error .eaddrnotavail, s)
  else if addr.length = 0 then (.error .etimedout, s)
  else
    w.withDevice dest (w.individualAddressWrite dest s) fun m1 s =>
      match m1.deviceDescriptorRead s with
      | (none, s) => (.error .econnreset, s)
      | (some _, s) => lift (fun _ => {}) (m1.progmodeOff s)

/-- What an entry of the group cache tells: one for no address says that there is no cache for it,
    and one without data that there is no value. -/
def cached (maxlen : Int) (gc : GroupCacheEntry) : CallOutcome :=
  if gc.dst = 0 then .error .enodev
  else if gc.data = [] then .error .enoent
  else .ok (.filled maxlen gc.data { ptr5 := some gc.src })

/-- The addresses of the devices in programming mode. -/
def localReadAddresses (maxlen : Int) (s : σ) : CallOutcome × σ :=
  match w.openBroadcast s with
  | (false, s) => (.error .econnreset, s)
  | (true, s) =>
      let (e, s) := w.individualAddressRead s
      (.ok (.filled maxlen (e.flatMap uint16Bytes) {}), w.closeBroadcast s)

/-- An address nobody has is assigned. -/
def localWriteAddress (dest : EibAddr) (s : σ) : CallOutcome × σ :=
  match w.openBroadcast s with
  | (false, s) => (.error .econnreset, s)
  | (true, s) =>
      match w.connect dest s with
      | (false, s) => (.error .econnreset, w.closeBroadcast s)
      | (true, s) =>
          match (w.connection dest).deviceDescriptorRead s with
          | (some _, s) => (.error .eaddrinuse, w.closeBroadcast (w.disconnect dest s))
          | (none, s) =>
              let (o, s) := w.assign dest (w.disconnect dest s)
              (o, w.closeBroadcast s)

/-- An operation on the group cache, if there is one. -/
def withCache (s : σ) (f : GroupCacheCalls σ → CallOutcome × σ) : CallOutcome × σ :=
  match w.cache with
  | none => (.error .econnreset, s)
  | some g => f g

/-- A call outside of a session that does not open one. -/
def localRun (k : EIBCall) (s : σ) : CallOutcome × σ :=
  match k with
  | .mReadIndividualAddresses maxlen => w.localReadAddresses maxlen s
  | .mProgmode change dest =>
      w.withDevice dest s fun m s => lift (fun _ => {}) (m.progmode change s)
  | .mProgmodeStatus dest =>
      w.withDevice dest s fun m s =>
        let (i, s) := m.progmodeStatus s
        (status i, s)
  | .mGetMaskVersion dest =>
      w.withDevice dest s fun m s => lift (fun v => { value := v.toNat }) (m.deviceDescriptorRead s)
  | .mWriteIndividualAddress dest => w.localWriteAddress dest s
  | .loadImage image =>
      let (r, s) := w.loadImage image s
      (.ok { value := r.ctorIdx }, s)
  | .cacheEnable =>
      w.withCache s fun g =>
        let (started, s) := g.start s
        (if started then .ok {} else .error .ebusy, s)
  | .cacheDisable => w.withCache s fun g => (.ok {}, g.stop s)
  | .cacheClear => w.withCache s fun g => (.ok {}, g.clear s)
  | .cacheRemove dest => w.withCache s fun g => (.ok {}, g.remove dest s)
  | .cacheRead dst maxlen =>
      w.withCache s fun g =>
        let (gc, s) := g.read dst 0 0 s
        (cached maxlen gc, s)
  | .cacheReadSync dst maxlen age =>
      w.withCache s fun g =>
        let (gc, s) := g.read dst 1 age s
        (cached maxlen gc, s)
  | .cacheLastUpdates start timeout maxlen =>
      w.withCache s fun g =>
        let ((addrs, ende), s) := g.lastUpdates start timeout s
        (.ok (.filled maxlen (addrs.flatMap uint16Bytes) { ptr4 := some ende }), s)
  | .reset => (.ok {}, s)
  -- what belongs to a session is refused
  | _ => (.error .econnreset, s)

/-! ### Within a session -/

/-- A property command, which both kinds of sessions have.  The answer to a write is lost. -/
def localProperty (m : ManagementCalls σ) (k : EIBCall) (s : σ) : CallOutcome × σ :=
  match k with
  | .mcPropertyRead obj propertyno start nrOfElem maxlen =>
      lift (.filled maxlen · {}) (m.propertyRead obj propertyno start nrOfElem s)
  | .mcPropertyWrite obj propertyno start nrOfElem buf _ =>
      lift (fun _ => {}) (m.propertyWrite obj propertyno start nrOfElem buf s)
  | _ => (.error .econnreset, s)

/-- The result of a write: -2 is a verify error. -/
def written (len : Nat) (i : Int) : CallOutcome :=
  if i = -2 then .error .eio
  else if i ≠ 0 then .error .econnreset
  else .ok { value := len }

/-- A call within a session; it also tells whether the session goes on. -/
def localSession (m : ManagementCalls σ) (k : EIBCall) (s : σ) : CallOutcome × Bool × σ :=
  let stays (r : CallOutcome × σ) : CallOutcome × Bool × σ := (r.1, true, r.2)
  match k with
  | .mcProgmode change => stays (lift (fun _ => {}) (m.progmode change s))
  | .mcProgmodeStatus =>
      let (i, s) := m.progmodeStatus s
      (status i, decide (i ≠ -1), s)
  | .mcGetMaskVersion => stays (lift (fun v => { value := v.toNat }) (m.deviceDescriptorRead s))
  | .mcGetPEIType => stays (lift (fun v => { value := v.toNat }) (m.getPEIType s))
  | .mcReadADC channel count =>
      stays (lift (fun v => { ptr1 := some v }) (m.adcRead channel count s))
  | .mcRead addr maxlen =>
      stays (lift (.filled maxlen · {}) (m.memoryReadBlock addr (BitVec.ofInt 16 maxlen) s))
  | .mcWrite addr buf =>
      let (i, s) := m.memoryWriteBlock addr buf s
      (written buf.length i, decide (i ≠ -1), s)
  | .mcWritePlain addr buf =>
      let (i, s) := m.memoryWriteBlockNoVerify addr buf s
      (if i = 0 then .ok { value := buf.length } else .error .econnreset, decide (i ≠ -1), s)
  | .mcAuthorize key => stays (lift (fun level => { value := level.toNat }) (m.authorize key s))
  | .mcSetKey key level => stays (lift (fun _ => {}) (m.keyWrite key level s))
  | .mcPropertyDesc obj propertyno =>
      stays (lift (fun d => { ptr2 := some d.1, ptr4 := some d.2.1, ptr3 := some d.2.2 })
        (m.propertyDesc obj propertyno s))
  | .mcPropertyScan maxlen =>
      stays (lift (fun ps => .filled maxlen (ps.flatMap infoBytes) {}) (m.propertyScan s))
  | .mcRestart => (.ok {}, true, m.restart s)
  | .reset => (.ok {}, false, s)
  | _ => stays (localProperty m k s)

/-! ### Calls and programs -/

/-- `EIB_MC_Connect`. -/
def localConnect (dest : EibAddr) (s : σ) : CallOutcome × ClientSession σ :=
  match w.connect dest s with
  | (false, s) => (.error .econnreset, ⟨.run, s⟩)
  | (true, s) =>
      match (w.connection dest).deviceDescriptorRead s with
      | (none, s) => (.error .econnreset, ⟨.run, w.disconnect dest s⟩)
      | (some _, s) => (.ok {}, ⟨.connection dest, s⟩)

/-- `EIB_MC_Individual_Open`. -/
def localOpenIndividual (dest : EibAddr) (s : σ) : CallOutcome × ClientSession σ :=
  match w.openIndividual dest s with
  | (false, s) => (.error .econnreset, ⟨.run, s⟩)
  | (true, s) => (.ok {}, ⟨.individual dest, s⟩)

/-- What a call does where it is made. -/
def localServed (t : ClientSession σ) (k : EIBCall) : CallOutcome × ClientSession σ :=
  match t.serving, k with
  | .run, .mcConnect dest => w.localConnect dest t.state
  | .run, .mcIndividualOpen dest => w.localOpenIndividual dest t.state
  | .run, k =>
      let (o, s) := w.localRun k t.state
      (o, ⟨.run, s⟩)
  | .connection dest, k =>
      let (o, goes, s) := localSession (w.connection dest) k t.state
      (o, if goes then ⟨.connection dest, s⟩ else ⟨.run, w.disconnect dest s⟩)
  | .individual dest, .reset => (.ok {}, ⟨.run, w.closeIndividual dest t.state⟩)
  | .individual dest, k =>
      let (o, s) := localProperty (w.individual dest) k t.state
      (o, ⟨.individual dest, s⟩)

/-- What a call does, and what the caller gets. -/
def localCall (t : ClientSession σ) (k : EIBCall) : CallOutcome × ClientSession σ :=
  if k.Valid then w.localServed t k else (.error .einval, t)

/-- A program: the outcomes of its calls, one after the other. -/
def localCalls (t : ClientSession σ) : List EIBCall → List CallOutcome × ClientSession σ
  | [] => ([], t)
  | k :: ks =>
      let (o, t) := w.localCall t k
      let (os, t) := localCalls t ks
      (o :: os, t)

/-! ## Calls through the socket -/

/-- The library on its end of the socket: `replies` are those that no call has taken. -/
structure Remote (σ : Type) where
  session : ClientSession σ
  replies : List CArray := []
  deriving DecidableEq, Repr

/-- A call is completed with the next reply.  Without one it blocks, and what the library makes of a
    reply whose length does not fit into its header is not followed up. -/
def takeReply (k : EIBCall) (r : Remote σ) : Checked (Option CallOutcome × Remote σ) :=
  match r.replies with
  | [] => .ok (none, r)
  | reply :: replies =>
      if reply.length ≤ 65535 then do
        let o ← k.completion.complete reply
        return (some o, { r with replies })
      else .ok (none, r)

/-- A call of the library, served by the daemon. -/
def remoteCall (fresh : Nat → Byte) (r : Remote σ) (k : EIBCall) :
    Checked (Option CallOutcome × Remote σ) :=
  match k.request.send with
  | .error errno => .ok (some (.error errno), r)
  | .ok msg =>
      match w.serve fresh r.session msg.bytes with
      | none => .ok (none, r)
      | some (sent, session) => takeReply k { session, replies := r.replies ++ sent }

end EibdCalls

end BcuSdk.Eibd
