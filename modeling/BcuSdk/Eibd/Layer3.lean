/-
  BcuSdk.Eibd.Layer3

  Layer 3 (eibd/libserver/layer3.h, layer3.cpp): what `Layer3::Run` does with
  one frame from Layer 2, and what its listeners do with their copy of it.

  Trace texts are only built if the trace level asks for them; of `Decode`
  only the assertions are kept, and they are made only then.
-/
import BcuSdk.Eibd.Emi
import BcuSdk.Eibd.Layer4

namespace BcuSdk.Eibd

open BcuSdk.Lib

/-! ## Traces -/

/-- `TRACEPRINTF`: the text is only built if its trace level is shown. -/
def tracePrintf (showPrint : Bool) (text : Checked Unit) : Checked Unit :=
  if showPrint then text else .ok ()

/-- `L_Data_PDU::Decode`. -/
def LDataPDU.decode (l : LDataPDU) : Checked Unit := do
  l.checkEncodable
  (TPDU.fromPacket l.data).decode

/-- `LPDU::Decode` of any class but `L_Busmonitor`. -/
def LPDU.decode : LPDU → Checked Unit
  | .lData l => l.decode
  | _ => .ok ()

/-- `L_Busmonitor_PDU::Decode`. -/
def LBusmonitorPDU.decode (l : LBusmonitorPDU) : Checked Unit := do
  if l.pdu.length = 0 then
    return ()
  else
    (← LPDU.fromPacket l.pdu).decode

/-! ## Listeners -/

/-- `NATState`. -/
structure NATState where
  src : EibAddr
  dest : EibAddr
  deriving DecidableEq, Repr

/-- What `EIBnetServer::Get_L_Data` reads of the server: its identity, whether it routes, its
    NAT table, the type of each connection and whether its trace is on. -/
structure ServerListener where
  object : Nat
  route : Bool
  natstate : List NATState
  connTypes : List Nat
  showPrint : Bool
  deriving DecidableEq, Repr

/-- The classes derived from `L_Data_CallBack`. -/
inductive Listener where
  /-- `T_Broadcast`, `T_Group`, `T_Individual` and `GroupSocket`. -/
  | dataXXX
  | tTPDU
  | tConnection
  | groupCache (enable : Bool)
  | server (s : ServerListener)
  deriving DecidableEq, Repr

/-- What a listener passes on. -/
inductive Passed where
  /-- `outqueue.put`, with the payload, source and destination of the frame. -/
  | comm (data : CArray) (src dst : EibAddr)
  /-- `T_Connection`'s `buf.put`. -/
  | buf (l : LDataPDU)
  /-- An entry of the group cache is set. -/
  | cached (data : CArray) (src dst : EibAddr)
  /-- `sock->Send` of a `ROUTING_INDICATION`. -/
  | routed (cemi : CArray)
  /-- `state[i].out.put` for a tunnelling connection. -/
  | queued (cemi : CArray)
  deriving DecidableEq, Repr

/-- `GroupCache::Get_L_Data`: only group value responses and writes are kept. -/
def groupCacheGet (enable : Bool) (l : LDataPDU) : Checked (List Passed) := do
  if enable then
    match TPDU.fromPacket l.data with
    | .tDataXXXReq data =>
        if data.length ≥ 2 then
          let d0 ← readByte data 0
          let d1 ← readByte data 1
          if d0 &&& 0x03#8 = 0#8 ∧ (d1 &&& 0xC0#8 = 0x40#8 ∨ d1 &&& 0xC0#8 = 0x80#8) then
            return [.cached data l.source l.dest]
          else
            return []
        else
          return []
    | _ => return []
  else
    return []

/-- The routing part of `EIBnetServer::Get_L_Data`: a frame to the server's own address goes to
    every peer the NAT table has for its sender. -/
def ServerListener.routeFrame (s : ServerListener) (l : LDataPDU) : Checked (List Passed) := do
  if s.route then
    tracePrintf s.showPrint l.decode
    let peers := s.natstate.filter (·.dest = l.source)
    if l.dest = 0 ∧ l.addrType = .individualAddress ∧ peers ≠ [] then
      peers.mapM fun n => do return .routed (← lDataToCEMI 0x29#8 { l with dest := n.src })
    else
      return [.routed (← lDataToCEMI 0x29#8 l)]
  else
    return []

/-- `l->hopcount--`. -/
def LDataPDU.decHopcount (l : LDataPDU) : LDataPDU := { l with hopcount := l.hopcount - 1#8 }

/-- `EIBnetServer::Get_L_Data`. -/
def ServerListener.getLData (s : ServerListener) (l : LDataPDU) : Checked (List Passed) := do
  if l.hopcount = 0#8 then
    return []
  else if l.object = s.object then
    return []
  else
    let routed ← s.routeFrame l.decHopcount
    let queued ← (s.connTypes.filter (· = 0)).mapM fun _ => do
      return .queued (← lDataToCEMI 0x29#8 l.decHopcount)
    return routed ++ queued

/-- `Get_L_Data` of each listener. -/
def Listener.getLData (cb : Listener) (l : LDataPDU) : Checked (List Passed) :=
  match cb with
  | .dataXXX =>
      match TPDU.fromPacket l.data with
      | .tDataXXXReq data => .ok [.comm data l.source l.dest]
      | _ => .ok []
  | .tTPDU => .ok [.comm l.data l.source l.dest]
  | .tConnection => .ok [.buf l]
  | .groupCache enable => groupCacheGet enable l
  | .server s => s.getLData l

/-! ## `Layer3::Run` -/

/-- `IgnoreInfo`, a frame that was seen; a repetition of it is dropped until `endTime`. -/
structure IgnoreInfo where
  data : CArray
  endTime : Nat
  deriving DecidableEq, Repr

/-- `Individual_Info`; its lock is only looked at when a connection is opened. -/
structure IndividualInfo where
  cb : Listener
  src : EibAddr
  dest : EibAddr
  deriving DecidableEq, Repr

/-- What `Layer3::Run` reads: the registered listeners, the frames to ignore, the default address
    of Layer 2, the time and whether the trace is on.  The busmonitor callbacks only queue. -/
structure Layer3 where
  broadcast : List Listener
  group : List (Listener × EibAddr)
  individual : List IndividualInfo
  ignore : List IgnoreInfo
  defaultAddr : EibAddr
  now : Nat
  showPrint : Bool
  deriving DecidableEq, Repr

namespace Layer3

/-- The listeners that get a copy of the frame. -/
def listenersFor (s : Layer3) (l : LDataPDU) : List Listener :=
  match l.addrType with
  | .groupAddress =>
      if l.dest = 0 then s.broadcast
      else (s.group.filter fun g => g.2 = l.dest ∨ g.2 = 0).map (·.1)
  | .individualAddress =>
      (s.individual.filter fun i => i.dest = l.dest ∧ (i.src = l.source ∨ i.src = 0)).map (·.cb)

/-- `Run` on an `L_Data` frame, up to the deletion of old entries. -/
def deliver (s : Layer3) (l : LDataPDU) : Checked (Layer3 × List Passed) := do
  -- what is kept is the repetition that may follow
  let seen ← { l with repeated := true }.toPacket
  let s := { s with ignore := s.ignore ++ [⟨seen, s.now + 1000000⟩] }
  let l := { l with repeated := false }
  let l := if l.addrType = .individualAddress ∧ l.dest = s.defaultAddr then { l with dest := 0 }
    else l
  tracePrintf s.showPrint l.decode
  let passed ← (s.listenersFor l).mapM (·.getLData l)
  return (s, passed.flatten)

/-- The deletion of the entries whose time is over. -/
def expire (s : Layer3) : Layer3 :=
  { s with ignore := s.ignore.filter fun i => ¬ i.endTime < s.now }

/-- `Run` on an `L_Data` frame. -/
def onLData (s : Layer3) (l : LDataPDU) : Checked (Layer3 × List Passed) := do
  if l.repeated then
    let d1 ← l.toPacket
    if s.ignore.any (·.data = d1) then
      -- `goto wt` passes over the deletion as well
      return (s, [])
    else
      let (s', passed) ← s.deliver l
      return (s'.expire, passed)
  else
    let (s', passed) ← s.deliver l
    return (s'.expire, passed)

/-- One turn of `Run`, with the frame `layer2->Get_L_Data` returned. -/
def onLPDU (s : Layer3) (l : LPDU) : Checked (Layer3 × List Passed) :=
  match l with
  | .busmonitor l1 => do
      tracePrintf s.showPrint l1.decode
      return (s.expire, [])
  | .lData l1 => if l1.validLength then s.onLData l1 else .ok (s.expire, [])
  | _ => .ok (s.expire, [])

end Layer3

end BcuSdk.Eibd
