import HomeSecurity.Acknowledgement
import HomeSecurity.CommandFrame
import HomeSecurity.DoorMod

/-!
# Whether an answer is missed

The other direction of `Acknowledgement`: a door answers the COMMAND, the hub
handles the answer while the call waits for it, and the call should return true.
It compares the answer's words with its own, so they must be the same, and it
does so only when it wakes up, with whatever the slot holds by then.
`answerNotMissed` is what is left of the promise under these conditions.

The runs are those of `Acknowledgement` with the doors' answers set apart.
-/

namespace HomeSecurity

open CText

/-! ## Answers -/

/-- What `app_command_handler` of the call's module sends when its listener
reads the call's COMMAND. -/
def DoorMod.answerLine (door : DoorMod) (env : Env) (k : SendCall) : Option Text :=
  if door.udp.moduleId.text = k.moduleId then
    (door.udp.doorCmdThread k.buf.text).1.bind fun cmd =>
      (door.appCommandHandler cmd env).feedbackSends.head?.map fun send => send.line.text
  else none

/-- Target and action that come back as they are sent. -/
structure SendCall.Echoed (k : SendCall) : Prop where
  target : IsToken k.target
  action : IsToken k.action
  notStatus : k.action ≠ "STATUS".toList
  /-- `cmdid` is an `int`. -/
  int : -(2 ^ 31) ≤ k.cmdid ∧ k.cmdid < 2 ^ 31

instance decidableEchoed (k : SendCall) : Decidable k.Echoed :=
  decidable_of_iff (IsToken k.target ∧ IsToken k.action ∧ k.action ≠ "STATUS".toList ∧
      -(2 ^ 31) ≤ k.cmdid ∧ k.cmdid < 2 ^ 31)
    ⟨fun h => ⟨h.1, h.2.1, h.2.2.1, h.2.2.2⟩, fun h => ⟨h.target, h.action, h.notStatus, h.int⟩⟩

theorem DoorMod.answerLine_eq {door : DoorMod} {env : Env} {k : SendCall} {line : Text}
    (h : door.answerLine env k = some line) (hm : IsModuleId k.moduleId) (he : k.Echoed)
    (hfits : k.target.length < 32 ∧ k.action.length < 32) :
    wireTokens line = [k.moduleId, "FEEDBACK".toList, decimal k.cmdid, k.target, k.action] := by
  have hshort := hm.short
  have hdec := length_cmdid he.int.1 he.int.2
  have hline : (commandLine k.moduleId k.cmdid k.target k.action).length ≤ 255 := by
    rw [length_commandLine]
    omega
  unfold answerLine at h
  split at h
  · rename_i hid
    obtain ⟨cmd, hcmd, hsend⟩ := Option.bind_eq_some_iff.mp h
    obtain ⟨send, hhead, rfl⟩ := Option.map_eq_some_iff.mp hsend
    obtain ⟨-, cmdidS, rest, htok, hmod, hcid⟩ := DoorUdp.doorCmdThread_eq_some_iff.mp hcmd
    have hread : wireTokens k.buf.text
        = [k.moduleId, "COMMAND".toList, decimal k.cmdid, k.target, k.action] := by
      rw [SendCall.buf, wireTokens_snprintf]
      exact wireTokens_commandLine hm.toIsToken he.target he.action hline
    have hwords := hread.symm.trans htok
    simp only [List.cons.injEq] at hwords
    obtain ⟨-, -, rfl, htarget, haction, -⟩ := hwords
    rw [atoi_decimal he.int.1 he.int.2] at hcid
    have hmem := List.mem_of_mem_head? hhead
    have hsent := DoorUdp.doorUdpSendFeedback_line send hmem
    have hout : outAction cmd.action (door.handlerCall cmd.action env).door = cmd.action := by
      rw [← haction]
      exact if_neg he.notStatus
    dsimp only at hsent
    rw [hsent, hout, wireTokens_snprintf, hmod, hid, hcid, ← htarget, ← haction]
    exact (wireTokens_feedbackLine hm.toIsToken he.target he.action hline).2
  · cases h

/-! ## Runs -/

namespace TimelyAnswer

structure State where
  sys : Acknowledgement.State
  /-- The call's answer was handled while it waited. -/
  answered : Bool

inductive Label where
  | sys (l : Acknowledgement.Label)
  /-- A door's answer to the call's COMMAND reaches the hub. -/
  | answer (door : DoorMod) (env : Env) (src : SockAddr) (t issued : Int)

def start (h : Hub) : State := ⟨Acknowledgement.start h, false⟩

/-- The label of the step as `Acknowledgement` has it. -/
def Label.base (s : State) : Label → Option Acknowledgement.Label
  | .sys l => some l
  | .answer door env src t issued =>
      s.sys.call.bind fun k =>
        (door.answerLine env k).map fun line => .input (.datagram ⟨src, line, t, issued⟩)

def isWaiting (s : State) : Bool := s.sys.call.any fun k => decide (k.phase = .waiting)

def noteAnswered (s : State) : Label → Bool
  | .sys (.call ..) => false
  | .sys _ => s.answered
  | .answer .. => s.answered || isWaiting s

def step (s : State) (l : Label) : Option State :=
  (l.base s).bind fun b =>
    (Acknowledgement.step s.sys b).map fun sys => ⟨sys, noteAnswered s l⟩

/-- The slot is what the call waits for: the next time it wakes up, it returns true. -/
def Due (h : Hub) (k : SendCall) : Prop :=
  k.phase = .waiting ∧
    ∀ timedOut, (k.wake (h.doors k.door) timedOut).map SendCall.phase = some (.returned true)

/-- A call whose answer was handled in time has returned true or is about to. -/
def NoMissedAnswer (s : State) : Prop :=
  s.answered = true → ∀ k ∈ s.sys.call, k.phase = .returned true ∨ Due s.sys.hub k

/-- A FEEDBACK that passes for the call's answer. -/
structure Confirms (f : Feedback) (k : SendCall) : Prop where
  cmdid : k.cmdid ≤ f.cmdid
  target : f.target.take 31 = k.target
  action : f.action.take 31 = k.action

instance decidableConfirms (f : Feedback) (k : SendCall) : Decidable (Confirms f k) :=
  decidable_of_iff (k.cmdid ≤ f.cmdid ∧ f.target.take 31 = k.target ∧ f.action.take 31 = k.action)
    ⟨fun h => ⟨h.1, h.2.1, h.2.2⟩, fun h => ⟨h.cmdid, h.target, h.action⟩⟩

/-- Target and action fit the slot; a call that is answered gets them back as it
sent them; and no other FEEDBACK of the module takes the answer's place in the
slot before the call wakes up. -/
def Heeded (s : State) : Label → Prop
  | .sys (.call _ target action) => target.length ≤ 31 ∧ action.length ≤ 31
  | .sys (.input (.datagram dg)) =>
      s.answered = true → ∀ k ∈ s.sys.call, k.phase = .waiting →
        ∀ f ∈ s.sys.hub.feedbackHandled dg, f.mod = k.moduleId → Confirms f k
  | .sys _ => True
  | .answer .. => ∀ k ∈ s.sys.call, k.phase = .waiting → k.Echoed

instance decidableHeeded (s : State) : (l : Label) → Decidable (Heeded s l)
  | .sys (.call ..) => inferInstanceAs (Decidable (_ ∧ _))
  | .sys (.input (.datagram dg)) => inferInstanceAs (Decidable (s.answered = true →
      ∀ k ∈ s.sys.call, k.phase = .waiting →
        ∀ f ∈ s.sys.hub.feedbackHandled dg, f.mod = k.moduleId → Confirms f k))
  | .sys (.input (.check _)) => isTrue trivial
  | .sys (.otherCall ..) => isTrue trivial
  | .sys (.transmit _) => isTrue trivial
  | .sys (.wake _) => isTrue trivial
  | .answer .. => inferInstanceAs (Decidable (∀ k ∈ s.sys.call, k.phase = .waiting → k.Echoed))

/-- A call knows its entry and, once answered, has what it waits for in it. -/
structure CallInv (s : State) (k : SendCall) : Prop where
  find : s.sys.hub.findDoor k.moduleId = some k.door
  fits : k.target.length < 32 ∧ k.action.length < 32
  kept : s.answered = true → k.phase = .returned true ∨ k.phase = .waiting ∧
    (s.sys.hub.doors k.door).acknowledges k.cmdid k.target k.action = true

structure Inv (s : State) : Prop where
  reach : s.sys.hub.Reachable
  call : ∀ k ∈ s.sys.call, CallInv s k

theorem inv_start {h : Hub} (hr : h.Reachable) : Inv (start h) := ⟨hr, nofun⟩

theorem CallInv.due {s : State} {k : SendCall} (h : CallInv s k) (ha : s.answered = true) :
    k.phase = .returned true ∨ Due s.sys.hub k := by
  rcases h.kept ha with hret | ⟨hwait, hack⟩
  · exact Or.inl hret
  · refine Or.inr ⟨hwait, fun timedOut => ?_⟩
    have hid : ¬((s.sys.hub.doors k.door).lastFeedbackCmdid < k.cmdid ∧ timedOut = false) := by
      have hack' := hack
      simp only [HubDoorStatus.acknowledges, Bool.and_eq_true, decide_eq_true_eq] at hack'
      omega
    rw [SendCall.wake, if_pos hwait, if_neg hid, if_pos hack]
    rfl

/-- A slot that acknowledges still does after another FEEDBACK that confirms. -/
theorem acknowledges_of_confirms {h : Hub} {d : Fin hubMaxDoors} {dg : Datagram} {f : Feedback}
    {k : SendCall} (hd : h.findDoor k.moduleId = some d) (hf : h.feedbackHandled dg = some f)
    (hmod : f.mod = k.moduleId) (hc : Confirms f k) :
    ((h.handleLine dg).1.doors d).acknowledges k.cmdid k.target k.action = true := by
  have hslot : ((h.handleLine dg).1.doors d).lastFeedback
      = (feedbackStatus (h.doors d) f.cmdid f.target f.action dg.t).lastFeedback :=
    Hub.handleLine_feedbackHandled hd hf hmod
  rw [HubDoorStatus.acknowledges_congr hslot, feedbackStatus_acknowledges_iff]
  exact ⟨hc.cmdid, hc.target, hc.action⟩

/-- The hub handles something else. -/
theorem CallInv.input {s : State} {k : SendCall} (h : CallInv s k) (hr : s.sys.hub.Reachable)
    (hk : k ∈ s.sys.call) {i : Hub.Input} (hok : Heeded s (.sys (.input i)))
    {heard : List Feedback} :
    CallInv ⟨⟨(s.sys.hub.input i).1, s.sys.call, heard⟩, s.answered⟩ k := by
  refine ⟨hr.input_findDoor h.find i, h.fits, fun ha => (h.kept ha).imp_right ?_⟩
  rintro ⟨hwait, hack⟩
  refine ⟨hwait, ?_⟩
  cases i with
  | check now =>
      obtain ⟨off, ms, heq⟩ := (s.sys.hub.checkOfflineModules_frame now).1.doors k.door
      have hslot : ((s.sys.hub.checkOfflineModules now).1.doors k.door).lastFeedback
          = (s.sys.hub.doors k.door).lastFeedback := by
        rw [heq]
        rfl
      exact (HubDoorStatus.acknowledges_congr hslot ..).trans hack
  | datagram dg =>
      have ht := (Hub.findDoor_eq_some_iff.mp h.find).1
      rcases Hub.handleLine_lastFeedback dg ht with hsame | ⟨f, hf, hmod, -⟩
      · exact (HubDoorStatus.acknowledges_congr hsame ..).trans hack
      · exact acknowledges_of_confirms h.find hf hmod (hok ha k hk hwait f hf hmod)

/-- The hub handles the call's answer. -/
theorem CallInv.answer {s : State} {k : SendCall} (h : CallInv s k) (hr : s.sys.hub.Reachable)
    (hk : k ∈ s.sys.call) {door : DoorMod} {env : Env} {src : SockAddr} {t issued : Int}
    (hok : Heeded s (.answer door env src t issued)) {line : Text}
    (hline : door.answerLine env k = some line) {heard : List Feedback} :
    CallInv ⟨⟨(s.sys.hub.input (.datagram ⟨src, line, t, issued⟩)).1, s.sys.call, heard⟩,
      s.answered || isWaiting s⟩ k := by
  refine ⟨hr.input_findDoor h.find _, h.fits, fun ha => ?_⟩
  have hphase : k.phase = .returned true ∨ k.phase = .waiting := by
    rcases Bool.or_eq_true_iff.mp ha with ha | ha
    · exact (h.kept ha).imp_right And.left
    · rw [isWaiting, Option.mem_def.mp hk] at ha
      exact Or.inr (of_decide_eq_true ha)
  refine hphase.imp_right fun hwait => ⟨hwait, ?_⟩
  have he := hok k hk hwait
  have hm : IsModuleId k.moduleId := hr.isModuleId (Hub.findDoor_eq_some_iff.mp h.find).1
  have hwords := DoorMod.answerLine_eq hline hm he h.fits
  have htok : Datagram.tokens ⟨src, line, t, issued⟩
      = k.moduleId :: "FEEDBACK".toList :: decimal k.cmdid :: k.target :: k.action :: [] := by
    rw [Datagram.tokens_eq]
    exact hwords
  have hf : s.sys.hub.feedbackHandled ⟨src, line, t, issued⟩ = some k.feedback := by
    rw [Hub.feedbackHandled, htok]
    dsimp only
    rw [Hub.findOrCreateDoor_of_find h.find, SendCall.feedback, lineFeedback, if_pos rfl, nextThree,
      Option.map_some, atoi_decimal he.int.1 he.int.2]
    rfl
  refine acknowledges_of_confirms h.find hf rfl ⟨Int.le_refl _, ?_, ?_⟩
  · exact List.take_of_length_le (Nat.le_of_lt_succ h.fits.1)
  · exact List.take_of_length_le (Nat.le_of_lt_succ h.fits.2)

/-- A call that still has to send is not answered. -/
theorem CallInv.transmit {s : State} {k k' : SendCall} (h : CallInv s k) {ok : Bool}
    {outs : List (SockAddr × CBuf 256)} (ht : k.transmit ok = some (k', outs)) :
    CallInv ⟨{ s.sys with call := some k' }, s.answered⟩ k' := by
  obtain ⟨⟨attempt, phase, rfl⟩, -, -⟩ := SendCall.transmit_eq_some ht
  refine ⟨h.find, h.fits, fun ha => ?_⟩
  have hsending : k.phase = .sending := by
    by_contra hne
    rw [SendCall.transmit, if_neg hne] at ht
    cases ht
  rcases h.kept ha with hp | ⟨hp, -⟩ <;> rw [hsending] at hp <;> cases hp

/-- An answered call returns when it wakes up. -/
theorem CallInv.wake {s : State} {k k' : SendCall} (h : CallInv s k) {timedOut : Bool}
    (hw : k.wake (s.sys.hub.doors k.door) timedOut = some k') :
    CallInv ⟨{ s.sys with call := some k' }, s.answered⟩ k' := by
  obtain ⟨⟨attempt, phase, rfl⟩, -, -⟩ := SendCall.wake_eq_some hw
  refine ⟨h.find, h.fits, fun ha => ?_⟩
  rcases h.due ha with hp | ⟨-, hdue⟩
  · rw [SendCall.wake, hp] at hw
    cases hw
  · have hret := hdue timedOut
    rw [hw] at hret
    exact Or.inl (Option.some.inj hret)

theorem inv_sys {s : State} {l : Acknowledgement.Label} {sys : Acknowledgement.State} (h : Inv s)
    (hok : Heeded s (.sys l)) (hs : Acknowledgement.step s.sys l = some sys) :
    Inv ⟨sys, noteAnswered s (.sys l)⟩ := by
  cases l with
  | input i =>
      obtain rfl := Option.some.inj hs
      exact ⟨.input i h.reach, fun k hk => (h.call k hk).input h.reach hk hok⟩
  | call m target action =>
      rw [Acknowledgement.step] at hs
      split at hs
      · obtain rfl := Option.some.inj hs
        cases hc : s.sys.hub.hubUdpSendCommand m target action with
        | none => exact ⟨h.reach, fun _ hk => absurd hk (Option.not_mem_none _)⟩
        | some r =>
            refine ⟨.command h.reach hc, fun k hk => ?_⟩
            obtain rfl := Option.some.inj hk
            obtain ⟨hd, hh, hmod, htarget, haction, -⟩ := Hub.hubUdpSendCommand_eq_some hc
            refine ⟨?_, ?_, fun ha => absurd ha Bool.false_ne_true⟩
            · dsimp only
              rw [hh, hmod]
              exact hd
            · rw [htarget, haction]
              exact ⟨Nat.lt_succ_of_le hok.1, Nat.lt_succ_of_le hok.2⟩
      · cases hs
  | otherCall m target action =>
      obtain rfl := Option.some.inj hs
      cases hc : s.sys.hub.hubUdpSendCommand m target action with
      | none =>
          exact ⟨h.reach, fun k hk => ⟨(h.call k hk).find, (h.call k hk).fits, (h.call k hk).kept⟩⟩
      | some r =>
          obtain ⟨-, hh, -⟩ := Hub.hubUdpSendCommand_eq_some hc
          have hdoors : r.1.doors = s.sys.hub.doors := by rw [hh]
          refine ⟨.command h.reach hc, fun k hk => ⟨?_, (h.call k hk).fits, fun ha => ?_⟩⟩
          · exact (Hub.findDoor_of_doors hdoors _).trans (h.call k hk).find
          · dsimp only
            rw [hdoors]
            exact (h.call k hk).kept ha
  | transmit ok =>
      obtain ⟨k, hk, hm⟩ := Option.bind_eq_some_iff.mp hs
      obtain ⟨⟨k₁, outs⟩, ht, rfl⟩ := Option.map_eq_some_iff.mp hm
      refine ⟨h.reach, fun k' hk' => ?_⟩
      obtain rfl := Option.some.inj hk'
      exact (h.call k hk).transmit ht
  | wake timedOut =>
      obtain ⟨k, hk, hm⟩ := Option.bind_eq_some_iff.mp hs
      obtain ⟨k₁, hw, rfl⟩ := Option.map_eq_some_iff.mp hm
      refine ⟨h.reach, fun k' hk' => ?_⟩
      obtain rfl := Option.some.inj hk'
      exact (h.call k hk).wake hw

theorem inv_step (s : State) (l : Label) (s' : State) (h : Inv s) (hok : Heeded s l)
    (hs : step s l = some s') : Inv s' := by
  obtain ⟨b, hb, hm⟩ := Option.bind_eq_some_iff.mp hs
  obtain ⟨sys, hsys, rfl⟩ := Option.map_eq_some_iff.mp hm
  cases l with
  | sys l =>
      obtain rfl := Option.some.inj hb
      exact inv_sys h hok hsys
  | answer door env src t issued =>
      obtain ⟨k, hk, hmap⟩ := Option.bind_eq_some_iff.mp hb
      obtain ⟨line, hline, rfl⟩ := Option.map_eq_some_iff.mp hmap
      obtain rfl := Option.some.inj hsys
      refine ⟨.input _ h.reach, fun k' hk' => ?_⟩
      obtain rfl := Option.some.inj (Eq.trans (Eq.symm hk) hk')
      exact (h.call k hk).answer h.reach hk hok hline

/-- A call whose answer is handled while it waits returns true the next time it
wakes up, as long as the answer repeats its words - the action is not STATUS, and
neither word is one that the line takes apart - and the slot is left to it until
then. -/
theorem answerNotMissed {h : Hub} (hreach : h.Reachable) {ls : List Label} {s : State}
    (hr : Lts.run step (start h) ls = some s) (hok : Lts.Along step Heeded (start h) ls) :
    NoMissedAnswer s := by
  have hinv : Inv s := Lts.inv_run inv_step (inv_start hreach) hok hr
  exact fun ha k hk => (hinv.call k hk).due ha

/-- The door `D1`, with its listener running. -/
def frontDoor : DoorMod :=
  let s := DoorMod.initial ⟨0, StepperMotor.stepsPerRev_pos⟩
  let udp := (s.udp.doorUdpInit2 "D1".toList .both 1000 0 true).1
  { s with udp := udp.doorUdpRegisterCommandHandler }

/-- The door greets, and answers a command while the call waits. -/
def answeredRun (action : Text) : List Label :=
  [.sys (.input (.datagram ⟨⟨1, 40000⟩, reportLine "D1".toList .hello, 10, 10⟩)),
    .sys (.call "D1".toList "D0".toList action), .sys (.transmit true),
    .answer frontDoor ⟨[], 5, 5, fun _ _ => true, 7, 7⟩ ⟨1, 40000⟩ 20 20]

/-- The answer to a LOCK repeats its words: the call returns true once it wakes up. -/
theorem answerNotMissed_lock :
    ∃ s, Lts.run step (start (.init [])) (answeredRun "LOCK".toList ++ [.sys (.wake false)])
        = some s
      ∧ s.answered = true ∧ s.sys.call.map SendCall.phase = some (.returned true)
      ∧ NoMissedAnswer s := by
  have hobs : (Lts.run step (start (.init [])) (answeredRun "LOCK".toList ++
      [.sys (.wake false)])).map (fun s => (s.answered, s.sys.call.map SendCall.phase))
      = some (true, some (.returned true)) := by
    decide +kernel
  obtain ⟨s, hs, hobs⟩ := Option.map_eq_some_iff.mp hobs
  obtain ⟨hans, hcall⟩ := Prod.mk.inj hobs
  exact ⟨s, hs, hans, hcall, answerNotMissed (.init []) hs (by decide +kernel)⟩

/-- A STATUS is answered with `STATUS_UNKNOWN` while the call waits. The slot has the
call's id from then on, so that the second and the third attempt find it as soon as they
look, and its action is never `STATUS`. -/
theorem answerNotMissed_status :
    ∃ s, Lts.run step (start (.init [])) (answeredRun "STATUS".toList ++
        [.sys (.wake false), .sys (.transmit true), .sys (.wake false), .sys (.transmit true),
          .sys (.wake false)]) = some s
      ∧ s.answered = true ∧ (s.sys.call.map SendCall.phase) = some (.returned false)
      ∧ ¬NoMissedAnswer s := by
  have hobs : (Lts.run step (start (.init [])) (answeredRun "STATUS".toList ++
      [.sys (.wake false), .sys (.transmit true), .sys (.wake false), .sys (.transmit true),
        .sys (.wake false)])).map (fun s => (s.answered, s.sys.call.map SendCall.phase))
      = some (true, some (.returned false)) := by
    decide +kernel
  obtain ⟨s, hs, hobs⟩ := Option.map_eq_some_iff.mp hobs
  obtain ⟨hans, hcall⟩ := Prod.mk.inj hobs
  refine ⟨s, hs, hans, hcall, fun hnot => ?_⟩
  obtain ⟨k, hk, hphase⟩ := Option.map_eq_some_iff.mp hcall
  rcases hnot hans k hk with hret | ⟨hwait, -⟩
  · rw [hphase] at hret
    cases hret
  · rw [hphase] at hwait
    cases hwait

end TimelyAnswer

end HomeSecurity
