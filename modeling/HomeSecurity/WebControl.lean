import HomeSecurity.JsText

/-!
# The dashboard

`web_control.js`: what the messages of the web server make of the entry a web
client keeps for a module. `null` is `none`.
-/

namespace HomeSecurity

open CText JsText

/-- An entry of `doorStates`. -/
structure DoorEntry where
  doorOpen : Option Bool
  lockLocked : Option Bool
deriving DecidableEq

namespace DoorEntry

def applyStatusStateToDoor (state : DoorEntry) (statusState : Text) : DoorEntry :=
  let upper := toUpperCase statusState
  if upper = "LOCKED".toList then
    ⟨some false, some true⟩ -- locked implies closed
  else if upper = "UNLOCKED".toList then
    ⟨some false, some false⟩ -- unlocked but closed
  else if upper = "OPEN".toList then
    { state with doorOpen := some true } -- the lock is not touched
  else ⟨none, none⟩

/-- Which of two words is there, the first if both are. -/
def flagOf (parts : List Text) (yes no : Text) (old : Option Bool) : Option Bool :=
  if parts.contains yes then some true
  else if parts.contains no then some false
  else old

def applyLegacyStatusString (state : DoorEntry) (statusStr : Text) : DoorEntry :=
  let parts := (pieces statusStr).map toUpperCase
  { doorOpen := flagOf parts "OPEN".toList "CLOSED".toList state.doorOpen
    lockLocked := flagOf parts "LOCKED".toList "UNLOCKED".toList state.lockLocked }

/-- `door-feedback`; LOCK and UNLOCK only start polling. -/
def onDoorFeedback (state : DoorEntry) (action : Text) : DoorEntry :=
  let upper := toUpperCase action
  if startsWith upper "STATUS_".toList then
    state.applyStatusStateToDoor (upper.drop "STATUS_".toList.length)
  else state

/-- `command-feedback`. -/
def onCommandFeedback (state : DoorEntry) (action : Text) : DoorEntry :=
  let action := toUpperCase action
  if startsWith action "STATUS_".toList then
    state.applyStatusStateToDoor (action.drop "STATUS_".toList.length)
  else state.applyLegacyStatusString action

end DoorEntry

end HomeSecurity
