import HomeSecurity.ApiRequest

/-!
# Which door a name means

`GET /api/status` looks a module up in the hub's table first and takes the
local door as the fallback; `POST /api/command` compares with the local module
id first. `sameDoor_iff` says when the two mean the same door all the same.
-/

namespace HomeSecurity

open CText

namespace HttpApi

/-- A status request and a command for the module `m` are about the same door,
and the command goes out to a module of which the hub has the status. -/
structure SameDoor (m action : Text) (got posted : Served) : Prop where
  subject : got.subject = posted.subject
  sent : got.subject = some .tracked → action = "LOCK".toList ∨ action = "UNLOCK".toList →
    (∃ target, .hubUdpSendCommand m target action ∈ posted.ops)
      ∧ .lockDoor ∉ posted.ops ∧ .unlockDoor ∉ posted.ops

/-- What the hub has of `m`, if anything, is of another module than the local
one, and with an address for what is to be sent there. -/
def Apart (api : HttpApi) (hub : Hub) (m action : Text) : Prop :=
  ∀ st ∈ hub.hubUdpGetStatus m, m ≠ api.moduleId.text ∧
    (action = "LOCK".toList ∨ action = "UNLOCK".toList → st.hasLastAddr = true)

/-- Of a module the hub does not track, nothing is served from its table. -/
theorem sameDoor_of_untracked (api : HttpApi) {w : World} {m : Text}
    (hst : w.hub.hubUdpGetStatus m = none) (target : Option Text) (action : Text) :
    SameDoor m action (serveModule api w m)
      (if m = api.moduleId.text then performLocal w action else forward w m target action) := by
  obtain ⟨-, hgot, -⟩ := serveModule_spec api w m
  rw [hst, Option.isSome_none, if_neg Bool.false_ne_true] at hgot
  refine ⟨?_, fun htracked => ?_⟩
  · rw [hgot]
    split
    · exact (performLocal_spec w action).2.1.symm
    · rw [(forward_spec w m target action).2.1, hst]
      rfl
  · rw [hgot] at htracked
    split at htracked <;> cases htracked

theorem not_sameDoor_of_local (api : HttpApi) {w : World} {m : Text} {st : HubDoorStatus}
    (hst : w.hub.hubUdpGetStatus m = some st) (action : Text) :
    ¬SameDoor m action (serveModule api w m) (performLocal w action) := by
  intro h
  have hpins := h.subject
  rw [(serveModule_spec api w m).2.1, (performLocal_spec w action).2.1, hst] at hpins
  cases hpins

theorem sameDoor_forward_iff (api : HttpApi) {w : World} {m : Text} {st : HubDoorStatus}
    (hst : w.hub.hubUdpGetStatus m = some st) (target : Option Text) (action : Text) :
    SameDoor m action (serveModule api w m) (forward w m target action) ↔
      (action = "LOCK".toList ∨ action = "UNLOCK".toList → st.hasLastAddr = true) := by
  have hgot : (serveModule api w m).subject = some .tracked := by
    rw [(serveModule_spec api w m).2.1, hst]
    rfl
  obtain ⟨-, hsubject, hops, hsends⟩ := forward_spec w m target action
  constructor
  · intro h hact
    obtain ⟨⟨t, hsent⟩, -⟩ := h.sent hgot hact
    have hcmd : ApiOp.hubUdpSendCommand m (target.getD []) action
        ∈ (forward w m target action).ops := by
      rcases hops _ hsent with heq | heq
      · cases heq
      · exact heq ▸ hsent
    obtain ⟨st', hst', hroute⟩ := hsends.mp hcmd
    obtain rfl := Option.some.inj (hst.symm.trans hst')
    exact hroute
  · intro h
    refine ⟨?_, fun _ hact => ⟨⟨_, hsends.mpr ⟨st, hst, h hact⟩⟩, ?_, ?_⟩⟩
    · rw [hgot, hsubject, hst]
      rfl
    · intro hlock
      rcases hops _ hlock with heq | heq <;> cases heq
    · intro hunlock
      rcases hops _ hunlock with heq | heq <;> cases heq

/-- Status and command of a module are about the same door if and only if the
hub tracks no module by the local one's name. -/
theorem sameDoor_iff (token : Option Text) (localModuleId : Text) (w : World)
    {get post m action : Text} {target : Option Text}
    (hget : readRequest (httpApiStart token localModuleId) (received get) = .status (some m))
    (hpost : readRequest (httpApiStart token localModuleId) (received post)
      = .command m target action) :
    SameDoor m action (handleClient (httpApiStart token localModuleId) w get)
        (handleClient (httpApiStart token localModuleId) w post)
      ↔ Apart (httpApiStart token localModuleId) w.hub m action := by
  rw [handleClient_eq, handleClient_eq, hget, hpost, serve, serve]
  generalize httpApiStart token localModuleId = api
  cases hst : w.hub.hubUdpGetStatus m with
  | none =>
      refine iff_of_true (sameDoor_of_untracked api hst target action) fun st hmem => ?_
      rw [hst] at hmem
      cases hmem
  | some st =>
      by_cases hlocal : m = api.moduleId.text
      · rw [if_pos hlocal]
        exact iff_of_false (not_sameDoor_of_local api hst action) fun h => (h st hst).1 hlocal
      · rw [if_neg hlocal, sameDoor_forward_iff api hst]
        refine ⟨fun h st' hst' => ?_, fun h => (h st hst).2⟩
        obtain rfl := Option.some.inj (hst.symm.trans hst')
        exact ⟨hlocal, h⟩

/-- `D1` as a module of a hub whose own door is `D2`. -/
theorem sameDoor_elsewhere :
    let api := httpApiStart none "D2".toList
    SameDoor "D1".toList "LOCK".toList
      (handleClient api (.greeted "D1".toList) "GET /api/status?module=D1 HTTP/1.1\r\n\r\n".toList)
      (handleClient api (.greeted "D1".toList)
        "POST /api/command HTTP/1.1\r\n\r\nmodule=D1&action=LOCK".toList) := by
  intro api
  have hget : readRequest api (received "GET /api/status?module=D1 HTTP/1.1\r\n\r\n".toList)
      = .status (some "D1".toList) := by decide +kernel
  have hpost : readRequest api
      (received "POST /api/command HTTP/1.1\r\n\r\nmodule=D1&action=LOCK".toList)
      = .command "D1".toList none "LOCK".toList := by decide +kernel
  refine (sameDoor_iff none "D2".toList (.greeted "D1".toList) hget hpost).mpr fun st hst => ?_
  obtain ⟨st', hst', hroute⟩ := greetedBy_route isModuleId_D1
  obtain rfl := Option.some.inj (hst'.symm.trans hst)
  exact ⟨nofun, fun _ => hroute⟩

/-- The default configuration, once a module `D1` has greeted the hub: its
status is served, but the hub's own door is locked. -/
theorem sameDoor_default :
    let api := httpApiStart none "D1".toList
    let w := World.greeted "D1".toList
    w.Possible
      ∧ (handleClient api w "GET /api/status?module=D1 HTTP/1.1\r\n\r\n".toList).subject
        = some .tracked
      ∧ (handleClient api w "POST /api/command HTTP/1.1\r\n\r\nmodule=D1&action=LOCK".toList).ops
        = [.lockDoor] := by
  refine ⟨World.possible_greeted _, ?_, ?_⟩
  · decide +kernel
  · decide +kernel

end HttpApi

end HomeSecurity
