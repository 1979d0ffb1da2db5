/-
  BcuSdk.Eibd.ClientService

  `ClientConnection::Run` (eibd/libserver/client.cpp), as far as it answers
  requests: it serves the ones of managementclient.cpp and groupcacheclient.cpp.

  Within a management session the loop of `ManagementConnection` or
  `ManagementIndividual` takes the messages, and `Run` goes on behind it.  What
  the handlers do on the bus and with the group cache are operations on an
  arbitrary state.
-/
import BcuSdk.Common.LoadImage
import BcuSdk.Eibd.BusNetwork
import BcuSdk.Eibd.ClientCalls
import BcuSdk.Eibd.GroupCache
import BcuSdk.Eibd.ManagementClient

namespace BcuSdk.Eibd

open BcuSdk.Lib BcuSdk.Common
open ManagementCalls (answer reject wordReply)

/-! ## Operations -/

/-- The operations of `GroupCache`. -/
structure GroupCacheCalls (σ : Type) where
  start : σ → Bool × σ
  stop : σ → σ
  clear : σ → σ
  remove : EibAddr → σ → σ
  /-- The address, the timeout and the age. -/
  read : EibAddr → Nat → Word16 → σ → GroupCacheEntry × σ
  /-- The addresses, and `end`. -/
  lastUpdates : Word16 → Byte → σ → (List EibAddr × Word16) × σ

/-- What the handlers use.  A class whose constructor opens a transport has a destructor that closes
    it; `init` tells whether it is open. -/
structure EibdCalls (σ : Type) where
  /-- `Management_Connection`. -/
  connect : EibAddr → σ → Bool × σ
  connection : EibAddr → ManagementCalls σ
  disconnect : EibAddr → σ → σ
  /-- `Management_Individual`. -/
  openIndividual : EibAddr → σ → Bool × σ
  individual : EibAddr → ManagementCalls σ
  closeIndividual : EibAddr → σ → σ
  /-- `Layer7_Broadcast`. -/
  openBroadcast : σ → Bool × σ
  individualAddressRead : σ → List EibAddr × σ
  individualAddressWrite : EibAddr → σ → σ
  closeBroadcast : σ → σ
  /-- `LoadImage`, up to its reply. -/
  loadImage : CArray → σ → BCULoadResult × σ
  /-- The static `cache`, if there is one. -/
  cache : Option (GroupCacheCalls σ)

/-- Who reads the next message of a client. -/
inductive Serving where
  /-- `ClientConnection::Run`. -/
  | run
  /-- The loop of `ManagementConnection`. -/
  | connection (dest : EibAddr)
  /-- The loop of `ManagementIndividual`. -/
  | individual (dest : EibAddr)
  deriving DecidableEq, Repr

/-- A client of the daemon, and the state the operations work on. -/
structure ClientSession (σ : Type) where
  serving : Serving
  state : σ
  deriving DecidableEq, Repr

/-- The requests of groupcacheclient.cpp. -/
inductive CacheRequest where
  | enable
  | disable
  | clear
  | remove
  | read
  | readNowait
  | lastUpdates
  deriving DecidableEq, Repr

/-- The requests `Run` answers itself. -/
inductive RunRequest where
  | individualAddressRead
  | progMode
  | maskVersion
  | individualAddressWrite
  | connection
  | individual
  | loadImage
  | cache (r : CacheRequest)
  | resetConnection
  deriving DecidableEq, Repr

/-- `EIB_CACHE_ENABLE` and the others. -/
def CacheRequest.type : CacheRequest → Word16
  | .enable => eibCacheEnable
  | .disable => eibCacheDisable
  | .clear => eibCacheClear
  | .remove => eibCacheRemove
  | .read => eibCacheRead
  | .readNowait => eibCacheReadNowait
  | .lastUpdates => eibCacheLastUpdates

def RunRequest.type : RunRequest → Word16
  | .individualAddressRead => eibMIndividualAddressRead
  | .progMode => eibProgMode
  | .maskVersion => eibMaskVersion
  | .individualAddressWrite => eibMIndividualAddressWrite
  | .connection => eibMCConnection
  | .individual => eibMCIndividual
  | .loadImage => eibLoadImage
  | .cache r => r.type
  | .resetConnection => eibResetConnection

/-- The request with a type. -/
def RunRequest.ofType (type : Word16) : Option RunRequest :=
  [.individualAddressRead, .progMode, .maskVersion, .individualAddressWrite, .connection,
    .individual, .loadImage, .cache .enable, .cache .disable, .cache .clear, .cache .remove,
    .cache .read, .cache .readNowait, .cache .lastUpdates, .resetConnection].find?
      fun r => r.type = type

/-- The requests that open a bus monitor, or a transport other than a management session. -/
def eibOpens : List Word16 :=
  [0x0010#16, 0x0011#16, 0x0016#16, 0x0012#16, 0x0013#16, 0x0017#16, eibOpenTBroadcast,
    eibOpenTGroup, eibOpenTIndividual, eibOpenTTPDU, 0x0020#16, eibOpenGroupcon]

namespace EibdCalls

variable {σ : Type} (w : EibdCalls σ)

/-! ## Handlers -/

/-- `Management_Connection m (l3, t, dest);`, and what is done while it is open. -/
def connected (dest : EibAddr) (s : σ) (f : ManagementCalls σ → σ → Turn σ) : List CArray × σ :=
  match w.connect dest s with
  | (false, s) => ([typed eibProcessingError []], s)
  | (true, s) =>
      let u := f (w.connection dest) s
      (u.sent, w.disconnect dest u.device)

/-- `ReadIndividualAddresses`. -/
def readIndividualAddresses (s : σ) : List CArray × σ :=
  match w.openBroadcast s with
  | (false, s) => ([typed eibProcessingError []], s)
  | (true, s) =>
      let (e, s) := w.individualAddressRead s
      ([typed eibMIndividualAddressRead (e.flatMap uint16Bytes)], w.closeBroadcast s)

/-- `ChangeProgMode`. -/
def changeProgMode (c : CArray) (s : σ) : List CArray × σ :=
  if c.length < 5 then ([typed eibInvalidRequest []], s)
  else
    w.connected (reqWord c 2) s fun m s =>
      let done (_ : Unit) : CArray := typed eibProgMode [0#8]
      match reqByte c 4 with
      | 0#8 => answer done (m.progmodeOff s)
      | 1#8 => answer done (m.progmodeOn s)
      | 2#8 => answer done (m.progmodeToggle s)
      | 3#8 =>
          let (i, s) := m.progmodeStatus s
          if i = -1 then reject eibInvalidRequest s
          else { sent := [typed eibProgMode [BitVec.ofInt 8 i]], device := s }
      | _ => reject eibInvalidRequest s

/-- `GetMaskVersion`. -/
def getMaskVersion (c : CArray) (s : σ) : List CArray × σ :=
  if c.length < 4 then ([typed eibInvalidRequest []], s)
  else
    w.connected (reqWord c 2) s fun m s =>
      answer (wordReply eibMaskVersion) (m.deviceDescriptorRead s)

/-- `WriteIndividualAddress` behind the look for a device that has the address already. -/
def assignIndividualAddress (dest : EibAddr) (s : σ) : List CArray × σ :=
  let (addr, s) := w.individualAddressRead s
  if 1 < addr.length then ([typed eibErrorMoreDevice []], s)
  else if addr.length = 0 then ([typed eibErrorTimeout []], s)
  else
    w.connected dest (w.individualAddressWrite dest s) fun m1 s =>
      match m1.deviceDescriptorRead s with
      | (none, s) => reject eibProcessingError s
      | (some _, s) =>
          match m1.progmodeOff s with
          | (none, s) => reject eibProcessingError s
          | (some _, s) => reject eibMIndividualAddressWrite s

/-- `WriteIndividualAddress`. -/
def writeIndividualAddress (c : CArray) (s : σ) : List CArray × σ :=
  if c.length < 4 then ([typed eibInvalidRequest []], s)
  else
    let dest := reqWord c 2
    match w.openBroadcast s with
    | (false, s) => ([typed eibProcessingError []], s)
    | (true, s) =>
        match w.connect dest s with
        | (false, s) => ([typed eibProcessingError []], w.closeBroadcast s)
        | (true, s) =>
            match (w.connection dest).deviceDescriptorRead s with
            | (some _, s) =>
                ([typed eibErrorAddrExists []], w.closeBroadcast (w.disconnect dest s))
            | (none, s) =>
                let (sent, s) := w.assignIndividualAddress dest (w.disconnect dest s)
                (sent, w.closeBroadcast s)

/-- `LoadImage`. -/
def loadImageRequest (c : CArray) (s : σ) : List CArray × σ :=
  let (r, s) := w.loadImage (c.drop 2) s
  ([typed eibLoadImage (uint16Bytes (BitVec.ofNat 16 r.ctorIdx))], s)

/-- `cache->Read`, and the reply. -/
def cacheReply (g : GroupCacheCalls σ) (type : Word16) (dst : EibAddr) (timeout : Nat)
    (age : Word16) (s : σ) : List CArray × σ :=
  let (gc, s) := g.read dst timeout age s
  ([typed type (uint16Bytes gc.src ++ uint16Bytes gc.dst ++ gc.data)], s)

/-- `GroupCacheRequest`. -/
def groupCacheRequest (r : CacheRequest) (c : CArray) (s : σ) : List CArray × σ :=
  match w.cache with
  | none => ([typed eibInvalidRequest []], s)
  | some g =>
      match r with
      | .enable =>
          match g.start s with
          | (true, s) => ([typed eibCacheEnable []], s)
          | (false, s) => ([typed eibConnectionInuse []], s)
      | .disable => ([typed eibCacheDisable []], g.stop s)
      | .clear => ([typed eibCacheClear []], g.clear s)
      | .remove =>
          if c.length < 4 then ([typed eibInvalidRequest []], s)
          else ([typed eibCacheRemove []], g.remove (reqWord c 2) s)
      | .read =>
          if c.length < 4 then ([typed eibInvalidRequest []], s)
          else if c.length < 6 then ([typed eibInvalidRequest []], s)
          else cacheReply g eibCacheRead (reqWord c 2) 1 (reqWord c 4) s
      | .readNowait =>
          if c.length < 4 then ([typed eibInvalidRequest []], s)
          else cacheReply g eibCacheReadNowait (reqWord c 2) 0 0 s
      | .lastUpdates =>
          if c.length < 5 then ([typed eibInvalidRequest []], s)
          else
            let ((addrs, ende), s) := g.lastUpdates (reqWord c 2) (reqByte c 4) s
            ([typed eibCacheLastUpdates (uint16Bytes ende ++ addrs.flatMap uint16Bytes)], s)

/-- `ManagementConnection` in front of its loop. -/
def managementConnection (c : CArray) (s : σ) : List CArray × ClientSession σ :=
  if c.length < 4 then ([typed eibInvalidRequest []], ⟨.run, s⟩)
  else
    let dest := reqWord c 2
    match w.connect dest s with
    | (false, s) => ([typed eibProcessingError []], ⟨.run, s⟩)
    | (true, s) =>
        match (w.connection dest).deviceDescriptorRead s with
        | (none, s) => ([typed eibInvalidRequest []], ⟨.run, w.disconnect dest s⟩)
        | (some _, s) => ([typed eibMCConnection []], ⟨.connection dest, s⟩)

/-- `ManagementIndividual` in front of its loop. -/
def managementIndividual (c : CArray) (s : σ) : List CArray × ClientSession σ :=
  if c.length < 4 then ([typed eibInvalidRequest []], ⟨.run, s⟩)
  else
    let dest := reqWord c 2
    match w.openIndividual dest s with
    | (false, s) => ([typed eibProcessingError []], ⟨.run, s⟩)
    | (true, s) => ([typed eibMCIndividual []], ⟨.individual dest, s⟩)

/-! ## The loops -/

/-- A handler that comes back to `Run`. -/
def handled (r : List CArray × σ) : List CArray × ClientSession σ := (r.1, ⟨.run, r.2⟩)

/-- A pass of `Run`, on the message `c`; `none` if it opens a bus monitor or a transport. -/
def runPass (c : CArray) (s : σ) : Option (List CArray × ClientSession σ) :=
  if eibOpens.any (· = reqWord c 0) then none
  else
    some <| match RunRequest.ofType (reqWord c 0) with
    | some .individualAddressRead => handled (w.readIndividualAddresses s)
    | some .progMode => handled (w.changeProgMode c s)
    | some .maskVersion => handled (w.getMaskVersion c s)
    | some .individualAddressWrite => handled (w.writeIndividualAddress c s)
    | some .connection => w.managementConnection c s
    | some .individual => w.managementIndividual c s
    | some .loadImage => handled (w.loadImageRequest c s)
    | some (.cache r) => handled (w.groupCacheRequest r c s)
    | some .resetConnection => ([typed eibResetConnection []], ⟨.run, s⟩)
    | none => ([typed eibInvalidRequest []], ⟨.run, s⟩)

/-- A pass of the loop of a session; when it is left, `Run` answers the reset that has ended it. -/
def sessionPass (u : Turn σ) (c : CArray) (serving : Serving) (close : σ → σ) :
    List CArray × ClientSession σ :=
  if u.i = -1 then
    let last := if reqWord c 0 = eibResetConnection then [typed eibResetConnection []] else []
    (u.sent ++ last, ⟨.run, close u.device⟩)
  else (u.sent, ⟨serving, u.device⟩)

/-- What the daemon does with the message `c`: its replies, and the client afterwards. -/
def serve (fresh : Nat → Byte) (t : ClientSession σ) (c : CArray) :
    Option (List CArray × ClientSession σ) :=
  match t.serving with
  | .run => w.runPass c t.state
  | .connection dest =>
      some (sessionPass ((w.connection dest).handle fresh c t.state) c (.connection dest)
        (w.disconnect dest))
  | .individual dest =>
      some (sessionPass ((w.individual dest).handleIndividual fresh c t.state) c (.individual dest)
        (w.closeIndividual dest))

end EibdCalls

end BcuSdk.Eibd
