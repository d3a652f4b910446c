import HomeSecurity.Lts
import HomeSecurity.OfflineCheck

/-!
# The history as a log

What the hub has seen is a log that only grows: one entry for a line with two
words, a second one for the FEEDBACK of a module that is tracked, and one for
each change of an offline flag. The history ring is the end of that log.

The log is stated from the inputs and the door table alone (`inputLog`); one
step of the hub writes exactly these entries (`input_tape`), and after any run
`history_refines` reads them back.
-/

namespace HomeSecurity

open CText

namespace Hub

/-! ## The log -/

/-- The second entry of a FEEDBACK with target and action. -/
def feedbackLog (mod type : Text) (args : List Text) (t : Int) : List HistoryCall :=
  match nextThree args with
  | some (cmdidS, target, action) =>
      if type = "FEEDBACK".toList then
        [⟨mod, "FEEDBACK ".toList ++ decimal (atoi cmdidS) ++ ' ' :: target ++ ' ' :: action, t⟩]
      else []
  | none => []

/-- The module matches no entry, and there is no room for one. -/
def Untracked (h : Hub) (mod : Text) : Prop :=
  (∀ i, ¬h.Tracks i mod) ∧ ∀ i, (h.doors i).known = true

instance decidableUntracked (h : Hub) (mod : Text) : Decidable (h.Untracked mod) :=
  inferInstanceAs (Decidable (_ ∧ _))

/-- What a datagram adds. -/
def lineLog (h : Hub) (dg : Datagram) : List HistoryCall :=
  match dg.tokens with
  | mod :: type :: args =>
      if h.Untracked mod then [⟨mod, "<NO-STATE> (untracked)".toList, dg.t⟩]
      else ⟨mod, mod ++ ' ' :: type, dg.t⟩ :: feedbackLog mod type args dg.t
  | _ => []

/-- What the changes of offline flags from `h` to `h'` add. -/
def transitions (h h' : Hub) (now : Int) : List HistoryCall :=
  (List.finRange hubMaxDoors).filterMap fun i =>
    if (h'.doors i).offline = (h.doors i).offline then none
    else some (systemCall (h.doors i).moduleId.text (h'.doors i).offline now)

/-- What an input adds. -/
def inputLog (h : Hub) : Input → List HistoryCall
  | .datagram dg => h.lineLog dg
  | .check now => h.transitions (h.input (.check now)).1 now

/-- The reading of the clock. -/
def Input.time : Input → Int
  | .datagram dg => dg.t
  | .check now => now

theorem inputLog_time {h : Hub} {i : Input} {c : HistoryCall} (hc : c ∈ h.inputLog i) :
    c.t = i.time := by
  cases i with
  | datagram dg =>
      simp only [inputLog, lineLog] at hc
      split at hc
      · split at hc
        · rw [List.mem_singleton.mp hc]
          rfl
        · rcases List.mem_cons.mp hc with rfl | hc
          · rfl
          · unfold feedbackLog at hc
            split at hc
            · split at hc
              · rw [List.mem_singleton.mp hc]
                rfl
              · cases hc
            · cases hc
      · cases hc
  | check now =>
      obtain ⟨i, -, hi⟩ := List.mem_filterMap.mp hc
      split at hi
      · cases hi
      · rw [← Option.some.inj hi]
        rfl

/-! ## The tape: the ring's three variables -/

abbrev Tape := (Fin hubMaxHistory → HubEvent) × Fin hubMaxHistory × Nat

def tape (h : Hub) : Tape := (h.history, h.histHead, h.histCount)

theorem addCall_tape_congr {h g : Hub} (heq : h.tape = g.tape) (c : HistoryCall) :
    (h.addCall c).tape = (g.addCall c).tape := by
  obtain ⟨hhist, hrest⟩ := Prod.mk.inj heq
  obtain ⟨hhead, hcount⟩ := Prod.mk.inj hrest
  unfold tape addCall addHistory
  rw [hhist, hhead, hcount]

theorem foldl_addCall_tape_congr (calls : List HistoryCall) {h g : Hub} (heq : h.tape = g.tape) :
    (calls.foldl addCall h).tape = (calls.foldl addCall g).tape := by
  induction calls generalizing h g with
  | nil => exact heq
  | cons c calls ih => exact ih (addCall_tape_congr heq c)

/-- What is clipped twice is clipped once. -/
theorem snprintf_snprintf {n : Nat} [NeZero n] (t : Text) :
    snprintf n (snprintf n t).text = snprintf n t := by
  have hsame : ∀ b : CBuf n, snprintf n b.text = b := by
    rintro ⟨text, fits⟩
    have htext := snprintf_text fits
    simpa only [snprintf, CBuf.mk.injEq] using htext
  exact hsame _

theorem addHistory_clipped (h : Hub) (mod line : Text) (t : Int) :
    h.addHistory mod (snprintf hubLineLen line).text t = h.addCall ⟨mod, line, t⟩ := by
  unfold addCall addHistory
  rw [snprintf_snprintf]

theorem noteEndpoint_tape (h : Hub) (mod type : Text) (src : SockAddr) :
    (h.noteEndpoint mod type src).tape = h.tape := by
  unfold noteEndpoint hubUpdateEndpoint
  split
  · rfl
  · split
    · rfl
    · split <;> rfl

theorem noteLine_tape (h : Hub) (d : Fin hubMaxDoors) (mod type : Text) (dg : Datagram) :
    (h.noteLine d mod type dg).tape = (h.addCall ⟨mod, mod ++ ' ' :: type, dg.t⟩).tape := by
  unfold noteLine
  dsimp only
  rw [addHistory_clipped]
  split <;> exact addCall_tape_congr rfl _

theorem handleFeedback_tape (h : Hub) (d : Fin hubMaxDoors) (mod : Text) (args : List Text)
    (t : Int) :
    (h.handleFeedback d mod args t).1.tape
      = ((feedbackLog mod "FEEDBACK".toList args t).foldl addCall h).tape := by
  unfold handleFeedback feedbackLog
  cases nextThree args with
  | none => rfl
  | some p =>
      obtain ⟨cmdidS, target, action⟩ := p
      dsimp only
      rw [addHistory_clipped, if_pos rfl]
      have hcall : ∀ c : HistoryCall, ((h.modifyDoor d fun e =>
          feedbackStatus e (atoi cmdidS) target action t).addCall c).tape = (h.addCall c).tape :=
        fun c => addCall_tape_congr rfl c
      split
      · rename_i hclear
        obtain ⟨i, -, heq⟩ := Option.map_eq_some_iff.mp hclear
        obtain ⟨-, rfl⟩ := Prod.mk.inj heq
        exact hcall _
      · exact hcall _

/-- A line of any other type writes nothing more. -/
theorem dispatch_tape (h : Hub) (d : Fin hubMaxDoors) (mod type : Text) (args : List Text)
    (dg : Datagram) :
    (h.dispatch d mod type args dg).1.tape
      = ((feedbackLog mod type args dg.t).foldl addCall h).tape := by
  have hother : type ≠ "FEEDBACK".toList → feedbackLog mod type args dg.t = [] := by
    intro hne
    unfold feedbackLog
    split
    · exact if_neg hne
    · rfl
  unfold dispatch
  split
  · rename_i htype
    rw [hother (by rw [htype]; decide)]
    rfl
  · split
    · rename_i htype
      rw [hother (by rw [htype]; decide)]
      unfold handleEvent
      split <;> rfl
    · split
      · rename_i htype
        rw [htype]
        exact handleFeedback_tape h d mod args dg.t
      · rename_i hne
        rw [hother hne]
        split
        · unfold handleCommand
          split <;> rfl
        · rfl

/-! ## One input -/

theorem lineLog_of_tokens {h : Hub} {dg : Datagram} {mod type : Text} {args : List Text}
    (htok : dg.tokens = mod :: type :: args) :
    h.lineLog dg = if h.Untracked mod then [⟨mod, "<NO-STATE> (untracked)".toList, dg.t⟩]
      else ⟨mod, mod ++ ' ' :: type, dg.t⟩ :: feedbackLog mod type args dg.t := by
  rw [lineLog, htok]

theorem lineLog_of_short {h : Hub} {dg : Datagram}
    (htok : ∀ mod type args, dg.tokens ≠ mod :: type :: args) : h.lineLog dg = [] := by
  unfold lineLog
  split
  · rename_i mod type args heq
    exact absurd heq (htok mod type args)
  · rfl

/-- The line of a tracked module, wherever its entry was found or made. -/
theorem tracked_tape {h g : Hub} (heq : g.tape = h.tape) (d : Fin hubMaxDoors) (mod type : Text)
    (args : List Text) (dg : Datagram) :
    ((g.noteLine d mod type dg).dispatch d mod type args dg).1.tape
      = ((feedbackLog mod type args dg.t).foldl addCall
          (h.addCall ⟨mod, mod ++ ' ' :: type, dg.t⟩)).tape :=
  (dispatch_tape ..).trans (foldl_addCall_tape_congr _
    ((noteLine_tape ..).trans (addCall_tape_congr heq _)))

theorem handleLine_tape (h : Hub) (dg : Datagram) :
    (h.handleLine dg).1.tape = ((h.lineLog dg).foldl addCall h).tape := by
  rcases dg.tokens_cases with ⟨mod, type, args, htok⟩ | hshort
  · have htracks : ∀ i, (h.noteEndpoint mod type dg.src).Tracks i mod ↔ h.Tracks i mod := by
      intro i
      rw [Tracks, Tracks, noteEndpoint_doors]
    have hnoted := h.noteEndpoint_tape mod type dg.src
    rw [lineLog_of_tokens htok]
    simp only [handleLine, htok]
    rcases (h.noteEndpoint mod type dg.src).findOrCreateDoor_cases mod with
      ⟨d, hfind, hc⟩ | ⟨-, d, hfree, -, hc⟩ | ⟨hnone, hfull, hc⟩
    · have htracked : ¬h.Untracked mod := by
        rintro ⟨hno, -⟩
        exact hno d ((htracks d).mp (findDoor_eq_some_iff.mp hfind).1)
      rw [hc, if_neg htracked]
      exact tracked_tape hnoted d mod type args dg
    · have htracked : ¬h.Untracked mod := by
        rintro ⟨-, hfull⟩
        rw [noteEndpoint_doors, hfull d] at hfree
        cases hfree
      rw [hc, if_neg htracked]
      exact tracked_tape (g := (h.noteEndpoint mod type dg.src).modifyDoor d _) hnoted d mod type
        args dg
    · have huntracked : h.Untracked mod := by
        refine ⟨fun i hi => findDoor_eq_none_iff.mp hnone i ((htracks i).mpr hi), fun i => ?_⟩
        have hknown := hfull i
        rwa [noteEndpoint_doors] at hknown
      rw [hc, if_pos huntracked]
      exact addCall_tape_congr hnoted ⟨mod, "<NO-STATE> (untracked)".toList, dg.t⟩
  · rw [handleLine_of_short hshort, lineLog_of_short hshort]
    rfl

/-- The flags that a check changes are its edges. -/
theorem transitions_check (h : Hub) (now : Int) :
    h.transitions (h.checkOfflineModules now).1 now
      = h.systemCalls now (h.systemEvents now) := by
  unfold transitions systemCalls systemEvents edgesOf
  rw [List.map_filterMap]
  refine List.filterMap_congr fun i _ => ?_
  rw [checkOfflineModules_doors]
  cases hedge : (h.doors i).offlineEdge now with
  | none =>
      rw [HubDoorStatus.checked_of_none hedge, if_pos rfl]
      rfl
  | some off =>
      have hoff : ((h.doors i).setOffline off now).offline = off := rfl
      obtain ⟨-, -, hne⟩ := HubDoorStatus.offlineEdge_eq_some_iff.mp hedge
      rw [HubDoorStatus.checked_of_edge hedge, hoff, if_neg hne]
      rfl

/-- One input writes what it adds to the log, and nothing else. -/
theorem input_tape (h : Hub) (i : Input) :
    (h.input i).1.tape = ((h.inputLog i).foldl addCall h).tape := by
  cases i with
  | datagram dg => exact h.handleLine_tape dg
  | check now =>
      have hlog : h.inputLog (.check now) = h.systemCalls now (h.systemEvents now) :=
        h.transitions_check now
      have heff : (h.input (.check now)).1
          = ((h.systemCalls now (h.systemEvents now)).foldl addCall h).withDoors fun i =>
            (h.doors i).checked now :=
        congrArg Prod.fst (h.checkOfflineModules_eq now)
      rw [hlog, heff]
      rfl

/-! ## Reading the ring -/

/-- Index `(g_hist_head - g_hist_count + i) mod HUB_MAX_HISTORY`. -/
def historySlot (h : Hub) (i : Nat) : Fin hubMaxHistory :=
  ⟨(((h.histHead.val : Int) - h.histCount + i) % (hubMaxHistory : Int)).toNat, by
    unfold hubMaxHistory
    omega⟩

/-- `g_hist_count` entries from `(g_hist_head - g_hist_count) mod HUB_MAX_HISTORY`. -/
def readHistory (h : Hub) : List HubEvent :=
  (List.range h.histCount).map fun i => h.history (h.historySlot i)

theorem readHistory_eq_toList {h : Hub} (hcount : h.histCount ≤ hubMaxHistory) :
    h.readHistory = (h.ring hcount).toList := by
  have hslot : ∀ i, h.historySlot i = (h.ring hcount).slotAt i := by
    intro i
    have hhead := h.histHead.isLt
    refine Fin.ext ?_
    show (((h.histHead.val : Int) - h.histCount + i) % (hubMaxHistory : Int)).toNat
      = (h.histHead.val + hubMaxHistory - h.histCount + i) % hubMaxHistory
    unfold hubMaxHistory at *
    omega
  unfold readHistory RingLog.toList
  simp only [hslot]
  rfl

/-- What is read depends on the tape only. -/
theorem readHistory_tape_congr {h g : Hub} (heq : h.tape = g.tape) :
    h.readHistory = g.readHistory := by
  obtain ⟨hhist, hrest⟩ := Prod.mk.inj heq
  obtain ⟨hhead, hcount⟩ := Prod.mk.inj hrest
  have hslot : ∀ i, h.historySlot i = g.historySlot i := by
    intro i
    simp only [historySlot, hhead, hcount]
  unfold readHistory
  simp only [hslot, hhist, hcount]

end Hub

/-! ## Runs with the log -/

namespace EventLog

structure State where
  hub : Hub
  log : List HistoryCall
  /-- The last reading of the clock. -/
  clock : Int

def start (webhookUrl : Text) (clock : Int) : State := ⟨.init webhookUrl, [], clock⟩

/-- A datagram or a check, at a clock that does not run backwards. -/
def step (s : State) (i : Hub.Input) : Option State :=
  if s.clock ≤ i.time then some ⟨(s.hub.input i).1, s.log ++ s.hub.inputLog i, i.time⟩ else none

structure Inv (webhookUrl : Text) (s : State) : Prop where
  tape : s.hub.tape = (s.log.foldl Hub.addCall (.init webhookUrl)).tape
  past : ∀ c ∈ s.log, c.t ≤ s.clock
  sorted : s.log.Pairwise fun a b => a.t ≤ b.t

theorem inv_start (webhookUrl : Text) (clock : Int) : Inv webhookUrl (start webhookUrl clock) :=
  ⟨rfl, fun _ hc => absurd hc List.not_mem_nil, List.Pairwise.nil⟩

theorem inv_step {webhookUrl : Text} {s s' : State} {i : Hub.Input} (h : Inv webhookUrl s)
    (hs : step s i = some s') : Inv webhookUrl s' := by
  unfold step at hs
  split at hs
  · rename_i hclock
    obtain rfl := Option.some.inj hs
    have htime : ∀ c ∈ s.hub.inputLog i, c.t = i.time := fun c hc => Hub.inputLog_time hc
    refine ⟨?_, fun c hc => ?_, ?_⟩
    · show (s.hub.input i).1.tape = _
      rw [s.hub.input_tape i, List.foldl_append]
      exact Hub.foldl_addCall_tape_congr _ h.tape
    · rcases List.mem_append.mp hc with hold | hnew
      · exact Int.le_trans (h.past c hold) hclock
      · exact Int.le_of_eq (htime c hnew)
    · refine List.pairwise_append.mpr ⟨h.sorted, ?_, fun a ha b hb => ?_⟩
      · refine List.pairwise_of_forall_mem_list fun a ha b hb => ?_
        rw [htime a ha, htime b hb]
      · rw [htime b hb]
        exact Int.le_trans (h.past a ha) hclock
  · cases hs

/-- After any run the ring, read from its oldest entry, is the end of the log: its
last 256 entries or all of them, clipped, in order, with ascending times. -/
theorem history_refines {webhookUrl : Text} {clock : Int} {is : List Hub.Input} {s : State}
    (hr : Lts.run step (start webhookUrl clock) is = some s) :
    s.hub.histCount = min s.log.length hubMaxHistory
      ∧ s.hub.readHistory = (s.log.map HistoryCall.event).rtake (min s.log.length hubMaxHistory)
      ∧ s.hub.readHistory.Pairwise fun a b => a.timestampMs ≤ b.timestampMs := by
  have hinv : Inv webhookUrl s :=
    Lts.inv_run_of_step (fun _ _ _ h hs => inv_step h hs) (inv_start webhookUrl clock) hr
  have hinit : (Hub.init webhookUrl).histCount ≤ hubMaxHistory := Nat.zero_le _
  obtain ⟨hcount, hring⟩ := Hub.ring_foldl_addCall s.log hinit
  have hread : s.hub.readHistory = Hub.kept s.log := by
    rw [Hub.readHistory_tape_congr hinv.tape, Hub.readHistory_eq_toList hcount, hring,
      RingLog.toList_foldl_push]
    rfl
  have hlength : s.hub.histCount = s.hub.readHistory.length := by
    rw [Hub.readHistory, List.length_map, List.length_range]
  refine ⟨?_, ?_, ?_⟩
  · rw [hlength, hread, Hub.length_kept]
  · have hskip : s.log.length - min s.log.length hubMaxHistory
        = s.log.length - hubMaxHistory := by omega
    rw [hread, Hub.kept, List.rtake, List.rtake, List.length_map, hskip]
  · rw [hread, Hub.kept, List.rtake]
    refine List.Pairwise.sublist (List.drop_sublist _ _) ?_
    exact List.pairwise_map.mpr hinv.sorted

/-- One line with one entry, one with two. -/
def helloAndFeedback : List Hub.Input :=
  [.datagram ⟨⟨1, 40000⟩, "D1 HELLO\n".toList, 10, 10⟩,
    .datagram ⟨⟨1, 40000⟩, "D1 FEEDBACK 5 D0 LOCK\n".toList, 10, 10⟩]

theorem history_refines_feedback : ∃ s, Lts.run step (start [] 0) helloAndFeedback = some s
    ∧ s.log.length = 3 ∧ s.hub.readHistory = (s.log.map HistoryCall.event).rtake 3 := by
  have hlength : (Lts.run step (start [] 0) helloAndFeedback).map (fun s => s.log.length)
      = some 3 := by
    decide +kernel
  obtain ⟨s, hs, hthree⟩ := Option.map_eq_some_iff.mp hlength
  have hread := (history_refines hs).2.1
  rw [hthree] at hread
  exact ⟨s, hs, hthree, hread⟩

end EventLog

end HomeSecurity
