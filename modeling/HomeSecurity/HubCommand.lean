import HomeSecurity.HubEffects

/-!
# The hub's own commands

`hub_udp_send_command` of `hub_udp.c`. A call takes an id from the hub's
counter, sends up to three copies of the COMMAND and, after each, waits until
the door's feedback slot holds an id that is not smaller than its own, or half a
second has passed; then it compares target and action with the slot.

The call is a state machine over the shared table: each step below is a stretch
of the function during which it holds `g_mutex`, or one `sendto`, so that any
datagrams may be handled between two steps.
-/

namespace HomeSecurity

open CText

/-! ## The feedback slot -/

/-- The words of a FEEDBACK that `handle_line` keeps. -/
structure Feedback where
  mod : Text
  cmdid : Int
  target : Text
  action : Text
deriving DecidableEq

def lineFeedback (mod type : Text) (args : List Text) : Option Feedback :=
  if type = "FEEDBACK".toList then
    (nextThree args).map fun p => ⟨mod, atoi p.1, p.2.1, p.2.2⟩
  else none

/-- The FEEDBACK that handling the datagram records. -/
def Hub.feedbackHandled (h : Hub) (dg : Datagram) : Option Feedback :=
  match dg.tokens with
  | mod :: type :: args =>
      if (h.findOrCreateDoor mod).isNone then none else lineFeedback mod type args
  | _ => none

namespace HubDoorStatus

/-- `last_feedback_cmdid`, `last_feedback_target` and `last_feedback_action`. -/
def lastFeedback (e : HubDoorStatus) : Int × CBuf 32 × CBuf 32 :=
  (e.lastFeedbackCmdid, e.lastFeedbackTarget, e.lastFeedbackAction)

/-- The test that `hub_udp_send_command` takes for an acknowledgement. -/
def acknowledges (e : HubDoorStatus) (cmdid : Int) (target action : Text) : Bool :=
  decide (cmdid ≤ e.lastFeedbackCmdid)
    && strncmpEq 32 e.lastFeedbackTarget.text target
    && strncmpEq 32 e.lastFeedbackAction.text action

theorem acknowledges_congr {e e' : HubDoorStatus} (h : e'.lastFeedback = e.lastFeedback)
    (cmdid : Int) (target action : Text) :
    e'.acknowledges cmdid target action = e.acknowledges cmdid target action := by
  simp only [lastFeedback, Prod.mk.injEq] at h
  unfold acknowledges
  rw [h.1, h.2.1, h.2.2]

end HubDoorStatus

theorem feedbackStatus_acknowledges_iff {e : HubDoorStatus} {c c' : Int}
    {target target' action action' : Text} {t : Int} :
    (feedbackStatus e c target action t).acknowledges c' target' action' = true ↔
      c' ≤ c ∧ target.take 31 = target' ∧ action.take 31 = action' := by
  simp only [HubDoorStatus.acknowledges, Bool.and_eq_true, decide_eq_true_eq,
    CBuf.strncmpEq_iff, and_assoc]
  rfl

/-- Only a FEEDBACK with all its words writes the slot. -/
theorem lineStatus_lastFeedback (e : HubDoorStatus) (mod type : Text) (args : List Text)
    (dg : Datagram) :
    (lineStatus e mod type args dg).lastFeedback =
      match lineFeedback mod type args with
      | some f => (f.cmdid, snprintf 32 f.target, snprintf 32 f.action)
      | none => e.lastFeedback := by
  have hnote : (noteStatus e type dg.src).lastFeedback = e.lastFeedback := by
    unfold noteStatus
    split <;> rfl
  rw [← hnote, lineStatus]
  generalize noteStatus e type dg.src = e'
  have hother : type ≠ "FEEDBACK".toList → lineFeedback mod type args = none :=
    fun h => if_neg h
  unfold dispatchStatus
  split
  · rename_i htype
    obtain ⟨p, q, line, heq⟩ :=
      heartbeatStatus_eq e' args (snprintf _ (mod ++ ' ' :: type)) dg.t
    rw [heq, hother (by rw [htype]; decide)]
    rfl
  · split
    · rename_i htype
      rw [hother (by rw [htype]; decide)]
      split
      · rename_i which what state _
        obtain ⟨p, q, heq⟩ := eventStatus_eq e' which what state
        rw [heq]
        rfl
      · rfl
    · split
      · rename_i htype
        rw [lineFeedback, if_pos htype]
        cases nextThree args <;> rfl
      · rename_i htype
        rw [hother htype]
        split <;> rfl

/-- What a datagram does to the slot of a tracked module. -/
theorem Hub.handleLine_lastFeedback {h : Hub} {d : Fin hubMaxDoors} {m : Text} (dg : Datagram)
    (ht : h.Tracks d m) :
    ((h.handleLine dg).1.doors d).lastFeedback = (h.doors d).lastFeedback ∨
      ∃ f, h.feedbackHandled dg = some f ∧ f.mod = m ∧
        ((h.handleLine dg).1.doors d).lastFeedback
          = (f.cmdid, snprintf 32 f.target, snprintf 32 f.action) := by
  rcases handleLine_doors h dg with heq | ⟨mod, type, args, d', e, htok, hcase, heq⟩
  · exact Or.inl (by rw [heq])
  · by_cases hd : d = d'
    · subst hd
      rcases hcase with ⟨hfind, rfl⟩ | ⟨-, hunk, -⟩
      · have hm : mod = m := (findDoor_eq_some_iff.mp hfind).1.2.symm.trans ht.2
        have hhandled : h.feedbackHandled dg = lineFeedback mod type args := by
          rw [feedbackHandled, htok]
          dsimp only
          rw [findOrCreateDoor_of_find hfind]
          rfl
        rw [heq, Function.update_self, lineStatus_lastFeedback, hhandled]
        cases hf : lineFeedback mod type args with
        | none => exact Or.inl rfl
        | some f =>
            refine Or.inr ⟨f, rfl, ?_, rfl⟩
            unfold lineFeedback at hf
            split at hf
            · obtain ⟨p, -, rfl⟩ := Option.map_eq_some_iff.mp hf
              exact hm
            · cases hf
      · rw [ht.1] at hunk
        cases hunk
    · exact Or.inl (by rw [heq, Function.update_of_ne hd])

/-- A FEEDBACK of a tracked module is in its slot afterwards. -/
theorem Hub.handleLine_feedbackHandled {h : Hub} {d : Fin hubMaxDoors} {m : Text} {dg : Datagram}
    {f : Feedback} (hd : h.findDoor m = some d) (hf : h.feedbackHandled dg = some f)
    (hmod : f.mod = m) :
    ((h.handleLine dg).1.doors d).lastFeedback
      = (f.cmdid, snprintf 32 f.target, snprintf 32 f.action) := by
  rw [feedbackHandled] at hf
  cases htok : dg.tokens with
  | nil =>
      rw [htok] at hf
      cases hf
  | cons mod words =>
      cases words with
      | nil =>
          rw [htok] at hf
          cases hf
      | cons type args =>
          rw [htok] at hf
          dsimp only at hf
          split at hf
          · cases hf
          · have hfmod : f.mod = mod := by
              have hf' := hf
              unfold lineFeedback at hf'
              split at hf'
              · obtain ⟨p, -, rfl⟩ := Option.map_eq_some_iff.mp hf'
                rfl
              · cases hf'
            have hfind : h.findDoor mod = some d := by rw [← hfmod, hmod, hd]
            rw [handleLine_doors_of_find htok hfind, Function.update_self, lineStatus_lastFeedback,
              hf]

/-! ## A call -/

/-- `ACK_RETRIES`. -/
def ackRetries : Nat := 2

inductive SendPhase where
  /-- At the top of the retry loop. -/
  | sending
  /-- A copy is sent; waiting on `g_feedback_cond`. -/
  | waiting
  | returned (acked : Bool)
deriving DecidableEq

/-- The variables of a call that took an id. -/
structure SendCall where
  moduleId : Text
  target : Text
  action : Text
  door : Fin hubMaxDoors
  dest : SockAddr
  cmdid : Int
  attempt : Nat
  phase : SendPhase

/-- `hub_udp_send_command` up to its loop; `none` when it returns false there. -/
def Hub.hubUdpSendCommand (h : Hub) (moduleId target action : Text) : Option (Hub × SendCall) :=
  match h.findDoor moduleId with
  | some d =>
      if (h.doors d).hasLastAddr then
        some ({ h with nextCmdid := h.nextCmdid + 1 },
          { moduleId, target, action, door := d, dest := (h.doors d).lastAddr,
            cmdid := h.nextCmdid, attempt := 0, phase := .sending })
      else none
  | none => none

namespace SendCall

/-- `buf`. -/
def buf (k : SendCall) : CBuf 256 := snprintf 256 (commandLine k.moduleId k.cmdid k.target k.action)

/-- The FEEDBACK that answers the call. -/
def feedback (k : SendCall) : Feedback := ⟨k.moduleId, k.cmdid, k.target, k.action⟩

def Running (k : SendCall) : Prop := ∀ acked, k.phase ≠ .returned acked

/-- `attempt++` and the loop condition. -/
def nextAttempt (k : SendCall) : SendCall :=
  { k with
    attempt := k.attempt + 1
    phase := if k.attempt + 1 ≤ ackRetries then .sending else .returned false }

/-- `socket` and `sendto`, and the copy on the wire unless one of them failed. -/
def transmit (k : SendCall) (ok : Bool) : Option (SendCall × List (SockAddr × CBuf 256)) :=
  if k.phase = .sending then
    some (if ok then ({ k with phase := .waiting }, [(k.dest, k.buf)]) else (k.nextAttempt, []))
  else none

/-- The wait loop woken up, or timed out, with the slot as it is then. -/
def wake (k : SendCall) (e : HubDoorStatus) (timedOut : Bool) : Option SendCall :=
  if k.phase = .waiting then
    some (
      if e.lastFeedbackCmdid < k.cmdid ∧ timedOut = false then k
      else if e.acknowledges k.cmdid k.target k.action then { k with phase := .returned true }
      else k.nextAttempt)
  else none

/-- The same call, further on. -/
def Continues (k k' : SendCall) : Prop :=
  ∃ attempt phase, k' = { k with attempt := attempt, phase := phase }

theorem nextAttempt_continues (k : SendCall) : k.Continues k.nextAttempt := ⟨_, _, rfl⟩

theorem nextAttempt_ne_acked (k : SendCall) : k.nextAttempt.phase ≠ .returned true := by
  unfold nextAttempt
  dsimp only
  split <;> nofun

theorem transmit_eq_some {k k' : SendCall} {ok : Bool} {outs : List (SockAddr × CBuf 256)}
    (h : k.transmit ok = some (k', outs)) :
    k.Continues k' ∧ k.Running ∧ k'.phase ≠ .returned true := by
  unfold transmit at h
  split at h
  · rename_i hphase
    have hrun : k.Running := by
      intro acked
      rw [hphase]
      nofun
    split at h
    · obtain ⟨rfl, -⟩ := Prod.mk.inj (Option.some.inj h)
      exact ⟨⟨_, _, rfl⟩, hrun, nofun⟩
    · obtain ⟨rfl, -⟩ := Prod.mk.inj (Option.some.inj h)
      exact ⟨k.nextAttempt_continues, hrun, k.nextAttempt_ne_acked⟩
  · cases h

/-- A call returns true from a wake-up that found an acknowledging slot. -/
theorem wake_eq_some {k k' : SendCall} {e : HubDoorStatus} {timedOut : Bool}
    (h : k.wake e timedOut = some k') :
    k.Continues k' ∧ k.Running ∧
      (k'.phase = .returned true → e.acknowledges k.cmdid k.target k.action = true) := by
  unfold wake at h
  split at h
  · rename_i hphase
    have hrun : k.Running := by
      intro acked
      rw [hphase]
      nofun
    obtain rfl := Option.some.inj h
    split
    · refine ⟨⟨_, _, rfl⟩, hrun, fun hacked => ?_⟩
      rw [hphase] at hacked
      cases hacked
    · split
      · rename_i hack
        exact ⟨⟨_, _, rfl⟩, hrun, fun _ => hack⟩
      · exact ⟨k.nextAttempt_continues, hrun, fun hacked => absurd hacked k.nextAttempt_ne_acked⟩
  · cases h

/-! ### How many copies a call sends -/

/-- `c` copies fit the call's attempts so far. -/
def Sent (k : SendCall) (c : Nat) : Prop :=
  match k.phase with
  | .sending => c ≤ k.attempt ∧ k.attempt ≤ ackRetries
  | .waiting => c ≤ k.attempt + 1 ∧ k.attempt ≤ ackRetries
  | .returned _ => c ≤ ackRetries + 1

theorem Sent.le {k : SendCall} {c : Nat} (h : k.Sent c) : c ≤ ackRetries + 1 := by
  unfold Sent at h
  split at h <;> omega

theorem sent_nextAttempt {k : SendCall} {c : Nat} (hc : c ≤ k.attempt + 1)
    (ha : k.attempt ≤ ackRetries) : k.nextAttempt.Sent c := by
  unfold nextAttempt Sent
  dsimp only
  by_cases hnext : k.attempt + 1 ≤ ackRetries
  · rw [if_pos hnext]
    exact ⟨hc, hnext⟩
  · rw [if_neg hnext]
    show c ≤ ackRetries + 1
    omega

theorem Sent.transmit {k k' : SendCall} {c : Nat} (h : k.Sent c) {ok : Bool}
    {outs : List (SockAddr × CBuf 256)} (ht : k.transmit ok = some (k', outs)) :
    k'.Sent (c + outs.length) := by
  unfold SendCall.transmit at ht
  split at ht
  · rename_i hphase
    unfold Sent at h
    rw [hphase] at h
    obtain ⟨hc, ha⟩ := h
    split at ht
    · obtain ⟨rfl, rfl⟩ := Prod.mk.inj (Option.some.inj ht)
      exact ⟨Nat.succ_le_succ hc, ha⟩
    · obtain ⟨rfl, rfl⟩ := Prod.mk.inj (Option.some.inj ht)
      exact sent_nextAttempt (Nat.le_succ_of_le hc) ha
  · cases ht

theorem Sent.wake {k k' : SendCall} {c : Nat} (h : k.Sent c) {e : HubDoorStatus}
    {timedOut : Bool} (hw : k.wake e timedOut = some k') : k'.Sent c := by
  have hk := h
  unfold SendCall.wake at hw
  split at hw
  · rename_i hphase
    unfold Sent at h
    rw [hphase] at h
    obtain ⟨hc, ha⟩ := h
    obtain rfl := Option.some.inj hw
    split
    · exact hk
    · split
      · show c ≤ ackRetries + 1
        omega
      · exact sent_nextAttempt hc ha
  · cases hw

end SendCall

/-- What a call starts from. -/
theorem Hub.hubUdpSendCommand_eq_some {h h' : Hub} {m target action : Text} {k : SendCall}
    (hc : h.hubUdpSendCommand m target action = some (h', k)) :
    h.findDoor m = some k.door ∧ h' = { h with nextCmdid := h.nextCmdid + 1 } ∧
      k.moduleId = m ∧ k.target = target ∧ k.action = action ∧ k.cmdid = h.nextCmdid ∧
      k.dest = (h.doors k.door).lastAddr ∧ k.attempt = 0 ∧ k.phase = .sending := by
  unfold hubUdpSendCommand at hc
  split at hc
  · rename_i d hd
    split at hc
    · obtain ⟨rfl, rfl⟩ := Prod.mk.inj (Option.some.inj hc)
      exact ⟨hd, rfl, rfl, rfl, rfl, rfl, rfl, rfl, rfl⟩
    · cases hc
  · cases hc

/-- The states a hub gets into, whatever it receives and is asked to send. -/
inductive Hub.Reachable : Hub → Prop where
  | init (webhookUrl : Text) : Reachable (.init webhookUrl)
  | input {h : Hub} (i : Input) : Reachable h → Reachable (h.input i).1
  | command {h h' : Hub} {m target action : Text} {k : SendCall} :
      Reachable h → h.hubUdpSendCommand m target action = some (h', k) → Reachable h'

theorem isToken_of_tokens {dg : Datagram} {w : Text} (hw : w ∈ dg.tokens) : IsToken w :=
  ⟨strtok_isWord hw, fun _ hc => cstr_nulFree _ _ (mem_of_strtok hw hc)⟩

theorem isModuleId_storedId {w : Text} (hw : IsToken w) : IsModuleId (Hub.storedId w) where
  ne_nil := by
    have hpos := List.length_pos_iff.mpr hw.ne_nil
    refine List.ne_nil_of_length_pos ?_
    show 0 < (w.take 15).length
    rw [List.length_take]
    omega
  free := fun c hc => hw.free c (List.mem_of_mem_take hc)
  nulFree := fun c hc => hw.nulFree c (List.mem_of_mem_take hc)
  short := (snprintf hubModuleIdLen w).fits

/-- Only module ids get into the table. -/
theorem Hub.Reachable.isModuleId {h : Hub} (hr : h.Reachable) {i : Fin hubMaxDoors} {m : Text}
    (ht : h.Tracks i m) : IsModuleId m := by
  induction hr generalizing i m with
  | init webhookUrl => exact absurd ht.1 nofun
  | @input h input _ ih =>
      cases input with
      | check now =>
          obtain ⟨hframe, -⟩ := h.checkOfflineModules_frame now
          obtain ⟨off, ms, hdoor⟩ := hframe.doors i
          refine ih (i := i) (m := m) ?_
          have ht' : (h.checkOfflineModules now).1.Tracks i m := ht
          rw [Tracks, hdoor] at ht'
          exact ht'
      | datagram dg =>
          rcases dg.tokens_cases with ⟨mod, type, args, htok⟩ | hshort
          · rcases handleLine_tracks_cases htok with
              ⟨-, -, -, -, heq⟩ | ⟨-, d, -, -, -, -, heq⟩ | ⟨-, -, -, -, heq⟩
            · exact ih ((heq i m).mp ht)
            · rcases (heq i m).mp ht with ht | ⟨-, rfl⟩
              · exact ih ht
              · refine isModuleId_storedId (@isToken_of_tokens dg _ ?_)
                rw [htok]
                exact List.mem_cons_self ..
            · exact ih ((heq i m).mp ht)
          · have ht' : (h.handleLine dg).1.Tracks i m := ht
            rw [handleLine_of_short hshort] at ht'
            exact ih ht'
  | command _ hcall ih =>
      obtain ⟨-, rfl, -⟩ := hubUdpSendCommand_eq_some hcall
      exact ih ht

end HomeSecurity
