import Mathlib.Data.Fin.Tuple.Basic
import HomeSecurity.CText

/-!
# The hub's state

The globals of `hub_udp.c`: the per-door status table, the history ring, the
endpoint table, the pending client commands and the counter that numbers the
hub's own commands. Tables are functions on their index type, so that an index
is never out of range, and `char` arrays are `CBuf`s, so that a stored id never
exceeds its 15 bytes.

`g_sock`/`g_sock2` are left out: they are open for as long as `udp_thread`
runs, which is the only time the functions below are called.
-/

namespace HomeSecurity

open CText

def hubOfflineTimeoutMs : Int := 10000
abbrev hubMaxModules : Nat := 16
abbrev hubMaxDoors : Nat := 8
abbrev hubMaxHistory : Nat := 256
abbrev hubModuleIdLen : Nat := 16
abbrev hubLineLen : Nat := 256
abbrev hubMaxPendingCmds : Nat := 128

/-- `struct sockaddr_in`: address and port. -/
structure SockAddr where
  ip : Nat
  port : Nat
deriving DecidableEq

structure HubDoorStatus where
  moduleId : CBuf hubModuleIdLen
  known : Bool
  offline : Bool
  d0Open : Bool
  d0Locked : Bool
  d1Open : Bool
  d1Locked : Bool
  lastHeartbeatMs : Int
  lastEventMs : Int
  lastOnlineMs : Int
  lastHeartbeatLine : CBuf hubLineLen
  hasLastAddr : Bool
  lastAddr : SockAddr
  lastFeedbackMs : Int
  lastFeedbackTarget : CBuf 32
  lastFeedbackAction : CBuf 32
  lastFeedbackCmdid : Int

/-- `memset(&g_doors[i], 0, sizeof(g_doors[i]))`. -/
def HubDoorStatus.zeroed : HubDoorStatus where
  moduleId := .zeroed _
  known := false
  offline := false
  d0Open := false
  d0Locked := false
  d1Open := false
  d1Locked := false
  lastHeartbeatMs := 0
  lastEventMs := 0
  lastOnlineMs := 0
  lastHeartbeatLine := .zeroed _
  hasLastAddr := false
  lastAddr := ⟨0, 0⟩
  lastFeedbackMs := 0
  lastFeedbackTarget := .zeroed _
  lastFeedbackAction := .zeroed _
  lastFeedbackCmdid := 0

structure HubEvent where
  timestampMs : Int
  moduleId : CBuf hubModuleIdLen
  line : CBuf hubLineLen

structure HubEndpoint where
  moduleId : CBuf hubModuleIdLen
  addr : SockAddr
  hasAddr : Bool

structure PendingClientCmd where
  cmdid : Int
  clientAddr : SockAddr
  moduleId : CBuf hubModuleIdLen
  issuedMs : Int

/-- `g_pending_cmds`. -/
abbrev PendingCmds := Fin hubMaxPendingCmds → PendingClientCmd

structure Hub where
  doors : Fin hubMaxDoors → HubDoorStatus
  history : Fin hubMaxHistory → HubEvent
  histHead : Fin hubMaxHistory
  histCount : Nat
  endpoints : Fin hubMaxModules → HubEndpoint
  numEndpoints : Nat
  pendingCmds : PendingCmds
  nextCmdid : Int
  webhookUrl : Text

/-- The static initial values, with `hub_udp_init` done. -/
def Hub.init (webhookUrl : Text) : Hub where
  doors _ := .zeroed
  history _ := ⟨0, .zeroed _, .zeroed _⟩
  histHead := 0
  histCount := 0
  endpoints _ := ⟨.zeroed _, ⟨0, 0⟩, false⟩
  numEndpoints := 0
  pendingCmds _ := ⟨0, ⟨0, 0⟩, .zeroed _, 0⟩
  nextCmdid := 1
  webhookUrl := webhookUrl

/-- What the hub does besides changing its state, in order. -/
inductive HubOut where
  /-- The answer `msg` to command `cmdid` of module `mod`, sent to the client at `dest`. -/
  | relay (dest : SockAddr) (mod : Text) (cmdid : Int) (msg : CBuf 256)
  /-- A client's COMMAND line passed on to a module. -/
  | forward (dest : SockAddr) (line : Text)
  /-- The text given to `sendDiscordAlert`. -/
  | alert (msg : CBuf 256)
  /-- `pthread_cond_broadcast(&g_feedback_cond)`. -/
  | broadcast
deriving DecidableEq

/-! ## State updates

One function per written table, with the frame lemma for every other field. -/

namespace Hub

def modifyDoor (h : Hub) (d : Fin hubMaxDoors) (f : HubDoorStatus → HubDoorStatus) : Hub :=
  { h with doors := Function.update h.doors d (f (h.doors d)) }

def setPending (h : Hub) (s : Fin hubMaxPendingCmds) (p : PendingClientCmd) : Hub :=
  { h with pendingCmds := Function.update h.pendingCmds s p }

section Frame

variable (h : Hub) (d : Fin hubMaxDoors) (f : HubDoorStatus → HubDoorStatus)
  (s : Fin hubMaxPendingCmds) (p : PendingClientCmd)

@[simp] theorem modifyDoor_doors :
    (h.modifyDoor d f).doors = Function.update h.doors d (f (h.doors d)) := rfl
@[simp] theorem modifyDoor_endpoints : (h.modifyDoor d f).endpoints = h.endpoints := rfl
@[simp] theorem modifyDoor_numEndpoints :
    (h.modifyDoor d f).numEndpoints = h.numEndpoints := rfl
@[simp] theorem modifyDoor_pendingCmds :
    (h.modifyDoor d f).pendingCmds = h.pendingCmds := rfl
@[simp] theorem modifyDoor_nextCmdid : (h.modifyDoor d f).nextCmdid = h.nextCmdid := rfl

@[simp] theorem setPending_pendingCmds :
    (h.setPending s p).pendingCmds = Function.update h.pendingCmds s p := rfl
@[simp] theorem setPending_doors : (h.setPending s p).doors = h.doors := rfl
@[simp] theorem setPending_nextCmdid : (h.setPending s p).nextCmdid = h.nextCmdid := rfl

end Frame

end Hub

end HomeSecurity
