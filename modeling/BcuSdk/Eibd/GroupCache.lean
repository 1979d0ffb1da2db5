/-
  BcuSdk.Eibd.GroupCache

  The group cache (eibd/libserver/groupcache.cpp): the last value of each group
  address, and a ring of the addresses that were updated last.

  The entries are an array in ascending order of their address; clients read
  and clear it, and Layer 3 delivers telegrams to it.  `GroupCache::Read` waits
  on a condition variable, so a read is a first turn and as many further turns
  as the client is woken up, with anything in between.
-/
import BcuSdk.Eibd.Layer3
import BcuSdk.Lib.RingLog
import BcuSdk.Lib.Run
import BcuSdk.Lib.SortedTable
import Mathlib.Data.BitVec

namespace BcuSdk.Eibd

open BcuSdk.Lib

/-! ## The cache -/

/-- `GroupCacheEntry`. -/
structure GroupCacheEntry where
  data : CArray := []
  src : EibAddr := 0
  dst : EibAddr := 0
  recvtime : Nat := 0
  deriving DecidableEq, Repr

/-- `GroupCache`. -/
structure GroupCache where
  cache : List GroupCacheEntry := []
  enable : Bool := false
  pos : Word16 := 0
  updates : Vector EibAddr 0x100 := Vector.replicate 0x100 0
  deriving DecidableEq, Repr

/-- What the cache is sorted by. -/
def GroupCacheEntry.key (c : GroupCacheEntry) : Nat := c.dst.toNat

namespace GroupCache

/-- `find`: where the entry is, and the entry. -/
def find (g : GroupCache) (dst : EibAddr) : Checked (Option (Nat × GroupCacheEntry)) := do
  match ← search GroupCacheEntry.key g.cache dst.toNat with
  | none => return none
  | some p =>
      match g.cache[p]? with
      | none => .error .outOfBounds
      | some c => return some (p, c)

/-- `remove`. -/
def remove (g : GroupCache) (addr : EibAddr) : Checked GroupCache := do
  match ← search GroupCacheEntry.key g.cache addr.toNat with
  | none => return g
  | some p => return { g with cache := g.cache.eraseIdx p }

/-- `add`. -/
def add (g : GroupCache) (entry : GroupCacheEntry) : GroupCache :=
  { g with cache := insertSorted GroupCacheEntry.key entry g.cache }

/-- `pos & 0xff`. -/
def slot (pos : Word16) : Fin 0x100 :=
  ⟨pos.toNat % 0x100, Nat.mod_lt _ (by decide)⟩

/-- `updates[pos & 0xff] = dest; pos++`. -/
def noteUpdate (g : GroupCache) (dest : EibAddr) : GroupCache :=
  { g with
    updates := g.updates.set (slot g.pos) dest (slot g.pos).isLt
    pos := g.pos + 1 }

/-- `Get_L_Data`; which telegrams it takes is `groupCacheGet`. -/
def getLData (g : GroupCache) (l : LDataPDU) (now : Nat) : Checked GroupCache := do
  match ← groupCacheGet g.enable l with
  | [.cached data source dest] =>
      let entry : GroupCacheEntry := { data, src := source, dst := dest, recvtime := now }
      -- overwritten in place, or inserted where it belongs
      match ← g.find dest with
      | some (p, _) => return { g.noteUpdate dest with cache := g.cache.set p entry }
      | none => return (g.noteUpdate dest).add entry
  | _ => return g

/-- `Start`; `accepted` is the answer of `registerGroupCallBack`. -/
def start (g : GroupCache) (accepted : Bool) : GroupCache :=
  if g.enable = false ∧ accepted = false then g else { g with enable := true }

/-- `Clear`. -/
def clear (g : GroupCache) : GroupCache := { g with cache := [] }

/-- `Stop`. -/
def stop (g : GroupCache) : GroupCache := { g.clear with enable := false }

/-! ## Read -/

/-- Where `Read` returns. -/
inductive ReadAnswer where
  | notEnabled
  | found (c : GroupCacheEntry)
  | noEntry (addr : EibAddr)
  | rereadTimeout (addr : EibAddr)
  | timedOut (c : GroupCacheEntry)
  deriving DecidableEq, Repr

/-- What `Read` returns. -/
def ReadAnswer.entry : ReadAnswer → GroupCacheEntry
  | notEnabled => { src := 0, dst := 0 }
  | found c => c
  | noEntry addr => { src := 0, dst := addr }
  | rereadTimeout addr => { src := 0, dst := addr }
  | timedOut c => c

/-- `rm`: the entry is older than the client wants it. -/
def tooOld (c : GroupCacheEntry) (age : Word16) (now : Nat) : Bool :=
  age ≠ 0 ∧ c.recvtime + age.toNat < now

/-- The part of `Read` in front of the loop; without an answer a group read goes to the bus. -/
def readCached (g : GroupCache) (addr : EibAddr) (timeout : Nat) (age : Word16) (now : Nat) :
    Checked (Option ReadAnswer) := do
  if g.enable = false then return some .notEnabled
  else
    match ← g.find addr with
    | some (_, c) =>
        if tooOld c age now = false then return some (.found c)
        else if timeout = 0 then return some (.noEntry addr)
        else return none
    | none => if timeout = 0 then return some (.noEntry addr) else return none

/-- The body of the loop of `Read`; `occurred` is the status of its timeout.  Without an answer
    the client waits for the condition variable. -/
def readTurn (g : GroupCache) (addr : EibAddr) (age : Word16) (now : Nat) (occurred : Bool) :
    Checked (GroupCache × Option ReadAnswer) := do
  match ← g.find addr with
  | some (_, c) =>
      if tooOld c age now = false then return (g, some (.found c))
      else if occurred then return (g, some (.rereadTimeout addr))
      else return (g, none)
  | none =>
      if occurred then
        -- the negative entry; `enable` is not looked at again
        let c : GroupCacheEntry := { src := 0, dst := addr, recvtime := now }
        return (g.add c, some (.timedOut c))
      else return (g, none)

/-! ## LastUpdates -/

/-- `start` moved into the window of the last 256 updates. -/
def windowStart (g : GroupCache) (start : Word16) : Word16 :=
  if g.pos < 0x100#16 then
    -- the window lies around the wrap of the counter
    if g.pos < start ∧ start < g.pos - 0x100#16 then g.pos - 0x100#16 else start
  else if start < g.pos - 0x100#16 ∨ start > g.pos then g.pos - 0x100#16
  else start

/-- The loop over slots without an update; `none` if it is still running after `fuel` rounds. -/
def skipUnused (g : GroupCache) : Nat → Word16 → Option Word16
  | 0, _ => none
  | fuel + 1, start =>
      if start ≠ g.pos ∧ g.updates.get (slot start) = 0 then skipUnused g fuel (start + 1)
      else some start

/-- The loop that collects the updates up to `pos`. -/
def collect (g : GroupCache) : Nat → Word16 → List EibAddr → Option (List EibAddr)
  | 0, _, _ => none
  | fuel + 1, start, a =>
      if start ≠ g.pos then
        let u := g.updates.get (slot start)
        collect g fuel (start + 1) (if u ≠ 0 then a ++ [u] else a)
      else some a

/-- Where `LastUpdates` has got to after a round. -/
inductive LastUpdates where
  | returned (a : List EibAddr) (endPos : Word16)
  | waits (start : Word16)
  deriving DecidableEq, Repr

/-- One round of `LastUpdates`; `occurred` is the status of its timeout.  A 16-bit counter meets
    `pos` within `0x10000` rounds. -/
def lastUpdates (g : GroupCache) (start : Word16) (occurred : Bool) : Option LastUpdates := do
  let start ← g.skipUnused 0x10000 (g.windowStart start)
  if start ≠ g.pos then return .returned (← g.collect 0x10000 start []) g.pos
  else if occurred then return .returned [] g.pos
  else return .waits start

end GroupCache

/-! ## The cache and its clients -/

/-- A `Read` that waits. -/
structure PendingRead where
  addr : EibAddr
  age : Word16
  deriving DecidableEq, Repr

/-- An A_GroupValue_Response or an A_GroupValue_Write. -/
def APDU.isGroupValue : APDU → Bool
  | .aGroupValueResponse _ _ => true
  | .aGroupValueWrite _ _ => true
  | _ => false

/-- The payload of a frame, if it is a group value. -/
def groupValue (l : LDataPDU) : Option CArray :=
  match TPDU.fromPacket l.data with
  | .tDataXXXReq data => if (APDU.fromPacket data).isGroupValue then some data else none
  | _ => none

/-- What has happened to the entries and the reads. -/
inductive Happening where
  /-- A telegram for `dst` was processed while the cache was enabled. -/
  | telegram (dst : EibAddr) (data : CArray) (src : EibAddr)
  | removed (addr : EibAddr)
  | cleared
  /-- A `Read` for `addr` ended with its timeout. -/
  | timedOut (addr : EibAddr)
  /-- A `Read` returned. -/
  | answered (r : GroupCache.ReadAnswer)
  deriving DecidableEq, Repr

/-- The cache, the reads that wait, and, newest first, what has happened; nothing reads the
    log. -/
structure CacheSystem where
  cache : GroupCache := {}
  waiting : List PendingRead := []
  log : List Happening := []
  deriving DecidableEq, Repr

/-- What can happen next. -/
inductive CacheEvent where
  | start (accepted : Bool)
  | stop
  | clear
  | remove (addr : EibAddr)
  | telegram (l : LDataPDU) (now : Nat)
  | read (addr : EibAddr) (timeout : Nat) (age : Word16) (now : Nat)
  /-- The `i`-th waiting read is woken up; `occurred` if its timeout is over. -/
  | wake (i : Nat) (now : Nat) (occurred : Bool)
  deriving DecidableEq, Repr

namespace CacheSystem

/-- The group value the cache is told about by `l`. -/
def telegramOf (enable : Bool) (l : LDataPDU) : List Happening :=
  if enable then
    (groupValue l).toList.map fun data => .telegram l.dest data l.source
  else []

/-- The end of a turn of a read for `addr`, on the cache the turn leaves behind. -/
def endTurn (s : CacheSystem) (addr : EibAddr) (waiting : List PendingRead) :
    GroupCache × Option GroupCache.ReadAnswer → CacheSystem
  | (cache, none) => { s with cache }
  | (cache, some (.timedOut c)) =>
      { cache, waiting, log := .answered (.timedOut c) :: .timedOut addr :: s.log }
  | (cache, some r) => { cache, waiting, log := .answered r :: s.log }

def step (s : CacheSystem) : CacheEvent → Checked CacheSystem
  | .start accepted => return { s with cache := s.cache.start accepted }
  | .stop => return { s with cache := s.cache.stop, log := .cleared :: s.log }
  | .clear => return { s with cache := s.cache.clear, log := .cleared :: s.log }
  | .remove addr => return { s with
      cache := ← s.cache.remove addr
      log := .removed addr :: s.log }
  | .telegram l now => return { s with
      cache := ← s.cache.getLData l now
      log := telegramOf s.cache.enable l ++ s.log }
  | .read addr timeout age now => do
      match ← s.cache.readCached addr timeout age now with
      | some r => return { s with log := .answered r :: s.log }
      | none =>
          -- the first turn follows at once, and the timeout cannot have occurred
          let pending := s.waiting ++ [{ addr, age }]
          return { s with waiting := pending }.endTurn addr s.waiting
            (← s.cache.readTurn addr age now false)
  | .wake i now occurred =>
      match s.waiting[i]? with
      | none => return s
      | some r => do
          return s.endTurn r.addr (s.waiting.eraseIdx i)
            (← s.cache.readTurn r.addr r.age now occurred)

end CacheSystem

end BcuSdk.Eibd
