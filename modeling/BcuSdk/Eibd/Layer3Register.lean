/-
  BcuSdk.Eibd.Layer3Register

  The registration of listeners at `Layer3` (eibd/libserver/layer3.cpp), and
  the calls to Layer 2 that it makes.

  Callbacks are pointers that are only compared.  Each operation takes the
  answer of the one call to Layer 2 that it asks, if it makes that call; the
  results of the others are not looked at.
-/
import BcuSdk.Eibd.Lpdu
import BcuSdk.Lib.CallLog
import BcuSdk.Lib.Registry

namespace BcuSdk.Eibd

open BcuSdk.Lib

/-- The calls of `Layer2Interface` (eibd/libserver/layer2.h) for these purposes, with the answer
    where it matters. -/
inductive Layer2Call where
  | open
  | close
  | enterBusmonitor (ok : Bool)
  | leaveBusmonitor
  | openVBusmonitor (ok : Bool)
  | closeVBusmonitor
  | addGroupAddress (addr : EibAddr) (ok : Bool)
  | removeGroupAddress (addr : EibAddr)
  | addAddress (addr : EibAddr) (ok : Bool)
  | removeAddress (addr : EibAddr)
  deriving DecidableEq, Repr

/-- `Individual_Lock`. -/
inductive IndividualLock where
  | none
  | connection
  deriving DecidableEq, Repr

/-- `Group_Info`. -/
structure Layer3State.GroupInfo (α : Type) where
  cb : α
  dest : EibAddr
  deriving DecidableEq, Repr

/-- `Individual_Info`. -/
structure Layer3State.IndividualInfo (α : Type) where
  cb : α
  src : EibAddr
  dest : EibAddr
  lock : IndividualLock
  deriving DecidableEq, Repr

/-- The members of `Layer3` that registration reads and changes, for callbacks `α` for data frames
    and `β` for busmonitor frames, and all calls to Layer 2 so far. -/
structure Layer3State (α β : Type) where
  mode : Nat
  busmonitor : List β
  vbusmonitor : List β
  broadcast : List α
  group : List (Layer3State.GroupInfo α)
  individual : List (Layer3State.IndividualInfo α)
  calls : List Layer2Call
  deriving DecidableEq, Repr

namespace Layer3State

variable {α β : Type}

/-- The constructor. -/
def init : Layer3State α β :=
  { mode := 0, busmonitor := [], vbusmonitor := [], broadcast := [], group := [], individual := [],
    calls := [.open] }

/-- A call to Layer 2. -/
def call (s : Layer3State α β) (c : Layer2Call) : Layer3State α β :=
  { s with calls := s.calls ++ [c] }

section Deregister

variable [DecidableEq α] [DecidableEq β]

/-- `Layer3::deregisterBusmonitor`. -/
def deregisterBusmonitor (s : Layer3State α β) (c : β) : Bool × Layer3State α β :=
  match removeFirst (· = c) s.busmonitor with
  | none => (false, s)
  | some busmonitor =>
      let s := { s with busmonitor }
      -- the last one leaves the busmonitor mode
      if busmonitor = [] then (true, ({ s with mode := 0 }.call .leaveBusmonitor).call .open)
      else (true, s)

/-- `Layer3::deregisterVBusmonitor`. -/
def deregisterVBusmonitor (s : Layer3State α β) (c : β) : Bool × Layer3State α β :=
  match removeFirst (· = c) s.vbusmonitor with
  | none => (false, s)
  | some vbusmonitor =>
      let s := { s with vbusmonitor }
      if vbusmonitor = [] then (true, s.call .closeVBusmonitor) else (true, s)

/-- `Layer3::deregisterBroadcastCallBack`. -/
def deregisterBroadcastCallBack (s : Layer3State α β) (c : α) : Bool × Layer3State α β :=
  match removeFirst (· = c) s.broadcast with
  | none => (false, s)
  | some broadcast => (true, { s with broadcast })

/-- `Layer3::deregisterGroupCallBack`. -/
def deregisterGroupCallBack (s : Layer3State α β) (c : α) (addr : EibAddr) :
    Bool × Layer3State α β :=
  match removeFirst (fun g => g.cb = c ∧ g.dest = addr) s.group with
  | none => (false, s)
  | some group =>
      let s := { s with group }
      -- Layer 2 is told when nobody listens to the address any more
      if group.any (·.dest = addr) then (true, s)
      else if addr ≠ 0 then (true, s.call (.removeGroupAddress addr))
      else (true, s)

/-- `Layer3::deregisterIndividualCallBack`. -/
def deregisterIndividualCallBack (s : Layer3State α β) (c : α) (src dest : EibAddr) :
    Bool × Layer3State α β :=
  match removeFirst (fun i => i.cb = c ∧ i.src = src ∧ i.dest = dest) s.individual with
  | none => (false, s)
  | some individual =>
      let s := { s with individual }
      -- here the address is looked for with any callback and any source
      if individual.any (·.dest = dest) then (true, s)
      else if dest ≠ 0 then (true, s.call (.removeAddress dest))
      else (true, s)

end Deregister

/-- `Layer3::registerBusmonitor`; `ok` is the answer of `enterBusmonitor`. -/
def registerBusmonitor (s : Layer3State α β) (c : β) (ok : Bool) : Bool × Layer3State α β :=
  if s.individual ≠ [] then (false, s)
  else if s.group ≠ [] then (false, s)
  else if s.broadcast ≠ [] then (false, s)
  else if s.mode = 0 then
    let s := (s.call .close).call (.enterBusmonitor ok)
    -- a refused mode goes back to normal operation
    if ok then (true, { s with mode := 1, busmonitor := s.busmonitor ++ [c] })
    else (false, s.call .open)
  else (true, { s with mode := 1, busmonitor := s.busmonitor ++ [c] })

/-- `Layer3::registerVBusmonitor`; `ok` is the answer of `openVBusmonitor`. -/
def registerVBusmonitor (s : Layer3State α β) (c : β) (ok : Bool) : Bool × Layer3State α β :=
  if s.vbusmonitor = [] then
    let s := s.call (.openVBusmonitor ok)
    if ok then (true, { s with vbusmonitor := s.vbusmonitor ++ [c] }) else (false, s)
  else (true, { s with vbusmonitor := s.vbusmonitor ++ [c] })

/-- `Layer3::registerBroadcastCallBack`. -/
def registerBroadcastCallBack (s : Layer3State α β) (c : α) : Bool × Layer3State α β :=
  if s.mode = 1 then (false, s) else (true, { s with broadcast := s.broadcast ++ [c] })

/-- `Layer3::registerGroupCallBack`; `ok` is the answer of `addGroupAddress`. -/
def registerGroupCallBack (s : Layer3State α β) (c : α) (addr : EibAddr) (ok : Bool) :
    Bool × Layer3State α β :=
  if s.mode = 1 then (false, s)
  else
    let entry : GroupInfo α := { cb := c, dest := addr }
    if !s.group.any (·.dest = addr) ∧ addr ≠ 0 then
      let s := s.call (.addGroupAddress addr ok)
      if ok then (true, { s with group := s.group ++ [entry] }) else (false, s)
    else (true, { s with group := s.group ++ [entry] })

/-- `Layer3::registerIndividualCallBack`; `ok` is the answer of `addAddress`. -/
def registerIndividualCallBack (s : Layer3State α β) (c : α) (lock : IndividualLock)
    (src dest : EibAddr) (ok : Bool) : Bool × Layer3State α β :=
  if s.mode = 1 then (false, s)
  -- two connections from one source exclude each other
  else if s.individual.any fun i => lock = .connection ∧ i.src = src ∧ i.lock = .connection then
    (false, s)
  else
    let entry : IndividualInfo α := { cb := c, src, dest, lock }
    if !s.individual.any (·.dest = dest) ∧ dest ≠ 0 then
      let s := s.call (.addAddress dest ok)
      if ok then (true, { s with individual := s.individual ++ [entry] }) else (false, s)
    else (true, { s with individual := s.individual ++ [entry] })

/-! ## Runs -/

end Layer3State

/-- The register and deregister calls, with the answer of Layer 2 for those that may ask it. -/
inductive Layer3Op (α β : Type) where
  | registerBusmonitor (c : β) (ok : Bool)
  | registerVBusmonitor (c : β) (ok : Bool)
  | registerBroadcastCallBack (c : α)
  | registerGroupCallBack (c : α) (addr : EibAddr) (ok : Bool)
  | registerIndividualCallBack (c : α) (lock : IndividualLock) (src dest : EibAddr) (ok : Bool)
  | deregisterBusmonitor (c : β)
  | deregisterVBusmonitor (c : β)
  | deregisterBroadcastCallBack (c : α)
  | deregisterGroupCallBack (c : α) (addr : EibAddr)
  | deregisterIndividualCallBack (c : α) (src dest : EibAddr)
  deriving DecidableEq, Repr

namespace Layer3State

variable {α β : Type} [DecidableEq α] [DecidableEq β]

/-- One call, with what it returns. -/
def step (s : Layer3State α β) : Layer3Op α β → Bool × Layer3State α β
  | .registerBusmonitor c ok => s.registerBusmonitor c ok
  | .registerVBusmonitor c ok => s.registerVBusmonitor c ok
  | .registerBroadcastCallBack c => s.registerBroadcastCallBack c
  | .registerGroupCallBack c addr ok => s.registerGroupCallBack c addr ok
  | .registerIndividualCallBack c lock src dest ok =>
      s.registerIndividualCallBack c lock src dest ok
  | .deregisterBusmonitor c => s.deregisterBusmonitor c
  | .deregisterVBusmonitor c => s.deregisterVBusmonitor c
  | .deregisterBroadcastCallBack c => s.deregisterBroadcastCallBack c
  | .deregisterGroupCallBack c addr => s.deregisterGroupCallBack c addr
  | .deregisterIndividualCallBack c src dest => s.deregisterIndividualCallBack c src dest

/-- The state after the given calls to a new `Layer3`. -/
def after (ops : List (Layer3Op α β)) : Layer3State α β :=
  ops.foldl (fun s op => (s.step op).2) init

end Layer3State

end BcuSdk.Eibd
