import HomeSecurity.DoorMod
import HomeSecurity.Lts
import Mathlib.Data.List.DropRight

/-!
# Starting and stopping the reports

`door_reporting_start`, `door_reporting_stop` and `doorMod_cleanup` as the `main`
of `doorMod_cli.c` calls them, with what becomes of the three threads of a door
module. `door_udp_close` and `LED_worker_shutdown` join their thread only while
its flag is set, so that wherever `main` is they join it once or not at all
(`guarded_run`). `door_reporting_stop` joins without a look at its flag: it does what it
should exactly when the heartbeat thread has been created and not joined yet
(`stopsProperly_iff`), and `main` calls it once more from `doorMod_cleanup` when that is no
longer so, or never was.
-/

namespace HomeSecurity

open CText StepperMotor

/-- What has become of a thread. -/
inductive ThreadLife where
  | none
  | created
  | joined
deriving DecidableEq

/-- What a `pthread_join` makes of a thread. -/
def ThreadLife.afterJoin : ThreadLife → ThreadLife
  | .created => .joined
  | l => l

/-! ## A thread behind its flag -/

/-- A thread with the flag that keeps it running. -/
structure GuardedThread where
  running : Bool
  life : ThreadLife
deriving DecidableEq

namespace GuardedThread

def initial : GuardedThread := ⟨false, .none⟩

/-- Set the flag and create the thread; clear it again when that fails. -/
def start (t : GuardedThread) (created : Bool) : GuardedThread :=
  if created then ⟨true, .created⟩ else { t with running := false }

/-- Join the thread if the flag is set; with what the `pthread_join` found. -/
def stop (t : GuardedThread) : GuardedThread × List ThreadLife :=
  if t.running then (⟨false, t.life.afterJoin⟩, [t.life]) else (t, [])

/-- A call, with what its `pthread_join` found; `some created` starts the thread
where it does not run. -/
def call (t : GuardedThread) : Option Bool → GuardedThread × List ThreadLife
  | some created => if t.running then (t, []) else (t.start created, [])
  | none => t.stop

/-- The flag is set only for a thread that has been created and not joined. -/
def Guards (t : GuardedThread) : Prop := t.running = true → t.life = .created

theorem guards_initial : Guards initial := fun h => absurd h Bool.false_ne_true

theorem guards_start (t : GuardedThread) (created : Bool) : Guards (t.start created) := by
  intro h
  unfold start at h ⊢
  split at h
  · rename_i hc
    rw [if_pos hc]
  · cases h

theorem guards_stop {t : GuardedThread} (h : Guards t) : Guards t.stop.1 := by
  unfold stop
  split
  · exact fun hr => absurd hr Bool.false_ne_true
  · exact h

theorem guards_call {t : GuardedThread} (h : Guards t) (c : Option Bool) : Guards (t.call c).1 := by
  cases c with
  | some created =>
      simp only [call]
      split
      · exact h
      · exact guards_start t created
  | none => exact guards_stop h

/-- Under its guard a thread is only joined when it has been created and not joined yet. -/
theorem stop_joins {t : GuardedThread} (h : Guards t) : ∀ l ∈ t.stop.2, l = .created := by
  unfold stop
  split
  · rename_i hr
    exact fun l hl => (List.mem_singleton.mp hl).trans (h hr)
  · exact fun l hl => absurd hl List.not_mem_nil

/-- A second stop does nothing. -/
theorem stop_stop (t : GuardedThread) : t.stop.1.stop = (t.stop.1, []) := by
  cases hr : t.running <;> simp [stop, hr]

end GuardedThread

/-! ## The process -/

/-- What the door module's process keeps of its threads. -/
structure DoorProcess where
  mod : DoorMod
  /-- `__heartbeat_running`. -/
  heartbeatRunning : Bool
  /-- `__heartbeat_thread`. -/
  heartbeatThread : ThreadLife
  /-- `__report_module_id`. -/
  reportModuleId : Option Text
  /-- `g_cmd_running` and `g_cmd_thread`. -/
  listener : GuardedThread
  /-- `g_worker_running` and `g_worker`. -/
  ledWorker : GuardedThread

/-- What `door_reporting_start` gets from outside: whether the socket can be set
up, whether each of the two threads can be created, and the clocks. -/
structure StartEnv where
  udpOk : Bool
  listenerCreated : Bool
  heartbeatCreated : Bool
  t : Int
  now : Int

namespace DoorProcess

def initial (pos : Fin stepsPerRev) : DoorProcess where
  mod := .initial pos
  heartbeatRunning := false
  heartbeatThread := .none
  reportModuleId := none
  listener := .initial
  ledWorker := .initial

/-- `LED_worker_init`. -/
def ledWorkerInit (p : DoorProcess) (created : Bool) : DoorProcess :=
  { p with ledWorker := (p.ledWorker.call (some created)).1 }

/-- `LED_worker_shutdown`. -/
def ledWorkerShutdown (p : DoorProcess) : DoorProcess :=
  { p with ledWorker := p.ledWorker.stop.1 }

/-- `door_udp_close`. -/
def doorUdpClose (p : DoorProcess) : DoorProcess :=
  { p with
    listener := p.listener.stop.1
    mod := p.mod.doorReportingStop }

/-- `door_reporting_start` with a hub and a module id that are not `NULL`. -/
def doorReportingStart (p : DoorProcess) (moduleId : Text) (heartbeatMs : Int) (env : StartEnv) :
    DoorProcess × Bool :=
  let udp := p.mod.udp.doorUdpRegisterCommandHandler
  let udp := (udp.doorUdpInit2 moduleId .both heartbeatMs env.t env.udpOk).1
  -- a failed `door_udp_init2` does not keep the heartbeat thread from starting
  let p := { p with
    mod := { p.mod with udp := udp }
    listener := if env.udpOk then p.listener.start env.listenerCreated else p.listener }
  if env.heartbeatCreated then
    ({ p with
        mod := { p.mod with lastReportTimeMs := env.now }
        heartbeatRunning := true
        heartbeatThread := .created
        reportModuleId := some moduleId }, true)
  else ({ p with heartbeatRunning := false, reportModuleId := none }, false)

/-- `door_reporting_stop`, with what its `pthread_join` found. -/
def doorReportingStop (p : DoorProcess) : DoorProcess × List ThreadLife :=
  let p' := { p with
    heartbeatRunning := false
    heartbeatThread := p.heartbeatThread.afterJoin
    reportModuleId := none }
  (p'.doorUdpClose, [p.heartbeatThread])

/-- `doorMod_cleanup` up to its `door_reporting_stop`. -/
def cleanupRotate (p : DoorProcess) (writes : Nat → PinWrites) : DoorProcess :=
  if getPosition p.mod.position ≠ 0 then
    { p with mod := p.mod.turned (rotate p.mod.position 180 writes) }
  else p

/-- `doorMod_cleanup`. -/
def doorModCleanup (p : DoorProcess) (writes : Nat → PinWrites) : DoorProcess × List ThreadLife :=
  let r := (p.cleanupRotate writes).doorReportingStop
  (r.1.ledWorkerShutdown, r.2)

/-- What a `door_reporting_stop` should do: join only a thread that has been
created and not joined, and do nothing at all after an earlier one. -/
def StopsProperly (p : DoorProcess) : Prop :=
  (∀ l ∈ p.doorReportingStop.2, l = .created)
    ∧ (p.heartbeatThread = .joined → p.doorReportingStop = (p, []))

theorem stopsProperly_iff (p : DoorProcess) : p.StopsProperly ↔ p.heartbeatThread = .created := by
  constructor
  · intro h
    exact h.1 p.heartbeatThread (List.mem_singleton_self _)
  · intro h
    refine ⟨fun l hl => (List.mem_singleton.mp hl).trans h, fun hj => ?_⟩
    rw [h] at hj
    cases hj

/-- The flags of the listener and of the LED worker guard their threads. -/
def Guarded (p : DoorProcess) : Prop := p.listener.Guards ∧ p.ledWorker.Guards

theorem Guarded.doorReportingStop {p : DoorProcess} (h : p.Guarded) :
    p.doorReportingStop.1.Guarded :=
  ⟨GuardedThread.guards_stop h.1, h.2⟩

/-- `door_udp_init2` creates its thread without a look at the flag. -/
theorem Guarded.doorReportingStart {p : DoorProcess} (h : p.Guarded) (moduleId : Text)
    (heartbeatMs : Int) (env : StartEnv) :
    (p.doorReportingStart moduleId heartbeatMs env).1.Guarded := by
  have hlisten : (if env.udpOk then p.listener.start env.listenerCreated
      else p.listener).Guards := by
    split
    · exact GuardedThread.guards_start p.listener env.listenerCreated
    · exact h.1
  unfold DoorProcess.doorReportingStart
  cases env.heartbeatCreated with
  | true => exact ⟨hlisten, h.2⟩
  | false => exact ⟨hlisten, h.2⟩

theorem Guarded.doorModCleanup {p : DoorProcess} (h : p.Guarded) (writes : Nat → PinWrites) :
    (p.doorModCleanup writes).1.Guarded := by
  have hrotated : (p.cleanupRotate writes).Guarded := by
    unfold cleanupRotate
    split
    · exact h
    · exact h
  exact ⟨hrotated.doorReportingStop.1, GuardedThread.guards_stop hrotated.2⟩

end DoorProcess

/-! ## The command line -/

/-- What a line typed at the prompt asks for. -/
inductive CliCommand where
  | empty
  | quit
  | lock
  | unlock
  | status
  | unknown
deriving DecidableEq

/-- The line without its end and the blanks before it, by its first character. -/
def cliCommand (line : Text) : CliCommand :=
  match (line.rdropWhile fun c => c = '\n' || c = '\r').dropWhile isspace with
  | [] => .empty
  | c :: _ =>
      if c.toLower = 'q' then .quit
      else if c.toLower = 'l' then .lock
      else if c.toLower = 'u' then .unlock
      else if c.toLower = 's' then .status
      else .unknown

/-- How far `main` is. -/
inductive MainAt where
  | booting
  | starting
  | loop
  | leaving
  | cleaning
  /-- Returned `EXIT_FAILURE`. -/
  | failed
  /-- Returned 0. -/
  | returned
deriving DecidableEq

structure DoorMain where
  pc : MainAt
  /-- `reporting_running`. -/
  reportingRunning : Bool
  door : Door
  process : DoorProcess

namespace DoorMain

def initial (pos : Fin stepsPerRev) : DoorMain where
  pc := .booting
  reportingRunning := false
  door := ⟨.unknown, 0⟩
  process := .initial pos

/-- What happens next: a part of `main`, or a step of one of the other threads. -/
inductive Label where
  /-- `initializeDoorSystem` succeeds or not; the LED worker is started in it and,
  if need be, once more after it. -/
  | boot (ok ledCreated ledRetried : Bool)
  | start (moduleId : Text) (env : StartEnv)
  | line (line : Text) (env : Env)
  /-- No terminal, or the end of its input. -/
  | leave
  | stop
  | cleanup (writes : Nat → PinWrites)
  /-- The heartbeat thread. -/
  | beat (distance t : Int)
  /-- The command listener. -/
  | handle (cmd : DoorUdp.CmdCall) (env : Env)

def called (s : DoorMain) (c : Call) : DoorMain :=
  { s with door := c.door, process := { s.process with mod := c.mod } }

/-- One round of the command loop. -/
def readLine (s : DoorMain) (line : Text) (env : Env) : DoorMain :=
  match cliCommand line with
  | .quit => { s with pc := .leaving }
  | .lock => s.called (s.process.mod.lockDoor s.door env)
  | .unlock => s.called (s.process.mod.unlockDoor s.door env)
  | .status => s.called (s.process.mod.getDoorStatus s.door env)
  | .empty => s
  | .unknown => s

def step (s : DoorMain) : Label → Option DoorMain
  | .boot ok ledCreated ledRetried =>
      if s.pc = .booting then
        if ok then
          some { s with
            pc := .starting
            process := (s.process.ledWorkerInit ledCreated).ledWorkerInit ledRetried }
        else some { s with pc := .failed }
      else none
  | .start moduleId env =>
      if s.pc = .starting then
        let r := s.process.doorReportingStart moduleId 1000 env
        some { s with pc := .loop, process := r.1, reportingRunning := r.2 }
      else none
  | .line line env => if s.pc = .loop then some (s.readLine line env) else none
  | .leave => if s.pc = .loop then some { s with pc := .leaving } else none
  | .stop =>
      if s.pc = .leaving then
        some { s with
          pc := .cleaning
          process := if s.reportingRunning then s.process.doorReportingStop.1 else s.process }
      else none
  | .cleanup writes =>
      if s.pc = .cleaning then
        some { s with pc := .returned, process := (s.process.doorModCleanup writes).1 }
      else none
  | .beat distance t =>
      if s.process.heartbeatThread = .created then
        some { s with process := { s.process with
          mod := (s.process.mod.heartbeatWorker distance t).1 } }
      else none
  | .handle cmd env =>
      if s.process.listener.life = .created then
        some { s with process := { s.process with
          mod := (s.process.mod.appCommandHandler cmd env).call.mod } }
      else none

/-- The process as a step's call of `door_reporting_stop` finds it. -/
def stopAt (s : DoorMain) : Label → Option DoorProcess
  | .stop => if s.pc = .leaving ∧ s.reportingRunning then some s.process else none
  | .cleanup writes => if s.pc = .cleaning then some (s.process.cleanupRotate writes) else none
  | _ => none

/-- The step's call of `door_reporting_stop`, if it makes one, does what it should. -/
def StopProper (s : DoorMain) (i : Label) : Prop := ∀ p, s.stopAt i = some p → p.StopsProperly

def Label.isCleanup : Label → Bool
  | .cleanup _ => true
  | _ => false

/-! ## Which stops are proper -/

/-- Where `main` is, and what has become of the heartbeat thread. -/
def threadAt (s : DoorMain) : Prop :=
  match s.pc with
  | .booting => s.process.heartbeatThread = .none
  | .starting => s.process.heartbeatThread = .none
  | .loop => s.reportingRunning = true ↔ s.process.heartbeatThread = .created
  | .leaving => s.reportingRunning = true ↔ s.process.heartbeatThread = .created
  | .cleaning => s.process.heartbeatThread ≠ .created
  | .failed => True
  | .returned => True

theorem threadAt_initial (pos : Fin stepsPerRev) : (initial pos).threadAt := rfl

theorem doorReportingStart_thread {p : DoorProcess} (h : p.heartbeatThread = .none)
    (moduleId : Text) (heartbeatMs : Int) (env : StartEnv) :
    (p.doorReportingStart moduleId heartbeatMs env).2 = true ↔
      (p.doorReportingStart moduleId heartbeatMs env).1.heartbeatThread = .created := by
  unfold DoorProcess.doorReportingStart
  cases env.heartbeatCreated with
  | true => exact ⟨fun _ => rfl, fun _ => rfl⟩
  | false =>
      refine ⟨fun hf => absurd hf Bool.false_ne_true, fun hc => ?_⟩
      exact absurd (h.symm.trans hc) (by decide)

theorem readLine_frame (s : DoorMain) (line : Text) (env : Env) :
    (s.readLine line env).process.heartbeatThread = s.process.heartbeatThread
      ∧ (s.readLine line env).reportingRunning = s.reportingRunning
      ∧ ((s.readLine line env).pc = s.pc ∨ (s.readLine line env).pc = .leaving) := by
  unfold readLine
  split
  · exact ⟨rfl, rfl, Or.inr rfl⟩
  · exact ⟨rfl, rfl, Or.inl rfl⟩
  · exact ⟨rfl, rfl, Or.inl rfl⟩
  · exact ⟨rfl, rfl, Or.inl rfl⟩
  · exact ⟨rfl, rfl, Or.inl rfl⟩
  · exact ⟨rfl, rfl, Or.inl rfl⟩

theorem afterJoin_ne_created (l : ThreadLife) : l.afterJoin ≠ .created := by
  cases l <;> decide

theorem threadAt_step {s s' : DoorMain} {i : Label} (h : s.threadAt) (hs : step s i = some s') :
    s'.threadAt := by
  cases i with
  | boot ok ledCreated ledRetried =>
      simp only [step] at hs
      split at hs
      · rename_i hpc
        rw [threadAt, hpc] at h
        split at hs <;> obtain rfl := Option.some.inj hs
        · exact h
        · trivial
      · cases hs
  | start moduleId env =>
      simp only [step] at hs
      split at hs
      · rename_i hpc
        rw [threadAt, hpc] at h
        obtain rfl := Option.some.inj hs
        exact doorReportingStart_thread h moduleId 1000 env
      · cases hs
  | line line env =>
      simp only [step] at hs
      split at hs
      · rename_i hpc
        rw [threadAt, hpc] at h
        obtain rfl := Option.some.inj hs
        obtain ⟨hthread, hrun, hat⟩ := readLine_frame s line env
        have hiff : (s.readLine line env).reportingRunning = true ↔
            (s.readLine line env).process.heartbeatThread = .created := by
          rw [hthread, hrun]
          exact h
        rcases hat with hat | hat
        · rw [threadAt, hat, hpc]
          exact hiff
        · rw [threadAt, hat]
          exact hiff
      · cases hs
  | leave =>
      simp only [step] at hs
      split at hs
      · rename_i hpc
        rw [threadAt, hpc] at h
        obtain rfl := Option.some.inj hs
        exact h
      · cases hs
  | stop =>
      simp only [step] at hs
      split at hs
      · rename_i hpc
        rw [threadAt, hpc] at h
        obtain rfl := Option.some.inj hs
        show (if s.reportingRunning then s.process.doorReportingStop.1
          else s.process).heartbeatThread ≠ .created
        split
        · exact afterJoin_ne_created s.process.heartbeatThread
        · rename_i hrun
          exact fun hc => hrun (h.mpr hc)
      · cases hs
  | cleanup writes =>
      simp only [step] at hs
      split at hs
      · obtain rfl := Option.some.inj hs
        trivial
      · cases hs
  | beat distance t =>
      simp only [step] at hs
      split at hs
      · obtain rfl := Option.some.inj hs
        exact h
      · cases hs
  | handle cmd env =>
      simp only [step] at hs
      split at hs
      · obtain rfl := Option.some.inj hs
        exact h
      · cases hs

theorem cleanupRotate_thread (p : DoorProcess) (writes : Nat → PinWrites) :
    (p.cleanupRotate writes).heartbeatThread = p.heartbeatThread := by
  unfold DoorProcess.cleanupRotate
  split <;> rfl

/-- Of the steps `main` takes, only the clean-up's stop is not proper. -/
theorem stopProper_iff {s s' : DoorMain} {i : Label} (h : s.threadAt) (hs : step s i = some s') :
    s.StopProper i ↔ i.isCleanup = false := by
  have hnone : ∀ j : Label, s.stopAt j = none → s.StopProper j := by
    intro j hj p hp
    rw [hj] at hp
    cases hp
  cases i with
  | boot ok ledCreated ledRetried => exact iff_of_true (hnone _ rfl) rfl
  | start moduleId env => exact iff_of_true (hnone _ rfl) rfl
  | line line env => exact iff_of_true (hnone _ rfl) rfl
  | leave => exact iff_of_true (hnone _ rfl) rfl
  | beat distance t => exact iff_of_true (hnone _ rfl) rfl
  | handle cmd env => exact iff_of_true (hnone _ rfl) rfl
  | stop =>
      refine iff_of_true (fun p hp => ?_) rfl
      simp only [stopAt] at hp
      split at hp
      · rename_i hpc
        rw [threadAt, hpc.1] at h
        obtain rfl := Option.some.inj hp
        exact (DoorProcess.stopsProperly_iff _).mpr (h.mp hpc.2)
      · cases hp
  | cleanup writes =>
      refine iff_of_false (fun hproper => ?_) (fun he => Bool.noConfusion he)
      simp only [step] at hs
      split at hs
      · rename_i hpc
        rw [threadAt, hpc] at h
        have hcreated := (DoorProcess.stopsProperly_iff _).mp (hproper _ (if_pos hpc))
        rw [cleanupRotate_thread] at hcreated
        exact h hcreated
      · cases hs

/-- `main` returns 0 only through the clean-up. -/
theorem returned_step {s s' : DoorMain} {i : Label} (hpc : s.pc ≠ .returned)
    (hi : i.isCleanup = false) (hs : step s i = some s') : s'.pc ≠ .returned := by
  cases i with
  | boot ok ledCreated ledRetried =>
      simp only [step] at hs
      split at hs
      · split at hs <;> obtain rfl := Option.some.inj hs <;> simp
      · cases hs
  | line line env =>
      simp only [step] at hs
      split at hs
      · obtain rfl := Option.some.inj hs
        rcases (readLine_frame s line env).2.2 with hat | hat
        · rwa [hat]
        · rw [hat]
          simp
      · cases hs
  | start moduleId env =>
      simp only [step] at hs
      split at hs
      · obtain rfl := Option.some.inj hs
        simp
      · cases hs
  | leave =>
      simp only [step] at hs
      split at hs
      · obtain rfl := Option.some.inj hs
        simp
      · cases hs
  | stop =>
      simp only [step] at hs
      split at hs
      · obtain rfl := Option.some.inj hs
        simp
      · cases hs
  | cleanup writes => cases hi
  | beat distance t =>
      simp only [step] at hs
      split at hs
      · obtain rfl := Option.some.inj hs
        exact hpc
      · cases hs
  | handle cmd env =>
      simp only [step] at hs
      split at hs
      · obtain rfl := Option.some.inj hs
        exact hpc
      · cases hs

theorem along_stopProper_iff {pos : Fin stepsPerRev} {is : List Label} {s : DoorMain}
    (hr : Lts.run step (initial pos) is = some s) :
    Lts.Along step StopProper (initial pos) is ↔ ∀ i ∈ is, i.isCleanup = false :=
  Lts.along_iff_forall_mem (Q := StopProper) (P := fun i => i.isCleanup = false)
    (fun _ _ _ => threadAt_step) (fun _ _ _ => stopProper_iff) (threadAt_initial pos) hr

/-- In a run of `main`, each call of `door_reporting_stop` joins a live thread, and
does nothing after an earlier one, exactly when `doorMod_cleanup` is not called; and
`main` does not return 0 without calling it. -/
theorem stops_proper_iff_no_cleanup {pos : Fin stepsPerRev} {is : List Label} {s : DoorMain}
    (hr : Lts.run step (initial pos) is = some s) :
    (Lts.Along step StopProper (initial pos) is ↔ ∀ i ∈ is, i.isCleanup = false)
      ∧ (s.pc = .returned → ¬Lts.Along step StopProper (initial pos) is) := by
  refine ⟨along_stopProper_iff hr, fun hpc halong => ?_⟩
  have hno := (along_stopProper_iff hr).mp halong
  have hstay : ∀ (s : DoorMain) (i : Label) (s' : DoorMain), s.pc ≠ .returned →
      i.isCleanup = false → step s i = some s' → s'.pc ≠ .returned :=
    fun _ _ _ => returned_step
  have hbooting : (initial pos).pc ≠ .returned := by simp [initial]
  exact Lts.inv_run hstay hbooting (Lts.along_of_forall_mem (fun i hi _ => hno i hi) _) hr hpc

/-! ## The listener and the LED worker -/

theorem guarded_step {s s' : DoorMain} {i : Label} (h : s.process.Guarded)
    (hs : step s i = some s') : s'.process.Guarded := by
  cases i with
  | boot ok ledCreated ledRetried =>
      obtain ⟨-, hs⟩ := Option.ite_none_right_eq_some.mp hs
      split at hs <;> obtain rfl := Option.some.inj hs
      · exact ⟨h.1, GuardedThread.guards_call (GuardedThread.guards_call h.2 _) _⟩
      · exact h
  | start moduleId env =>
      obtain ⟨-, hs⟩ := Option.ite_none_right_eq_some.mp hs
      obtain rfl := Option.some.inj hs
      exact h.doorReportingStart moduleId 1000 env
  | line line env =>
      obtain ⟨-, hs⟩ := Option.ite_none_right_eq_some.mp hs
      obtain rfl := Option.some.inj hs
      unfold readLine
      split <;> exact h
  | leave =>
      obtain ⟨-, hs⟩ := Option.ite_none_right_eq_some.mp hs
      obtain rfl := Option.some.inj hs
      exact h
  | stop =>
      obtain ⟨-, hs⟩ := Option.ite_none_right_eq_some.mp hs
      obtain rfl := Option.some.inj hs
      show (if s.reportingRunning then s.process.doorReportingStop.1 else s.process).Guarded
      split
      · exact h.doorReportingStop
      · exact h
  | cleanup writes =>
      obtain ⟨-, hs⟩ := Option.ite_none_right_eq_some.mp hs
      obtain rfl := Option.some.inj hs
      exact h.doorModCleanup writes
  | beat distance t =>
      obtain ⟨-, hs⟩ := Option.ite_none_right_eq_some.mp hs
      obtain rfl := Option.some.inj hs
      exact h
  | handle cmd env =>
      obtain ⟨-, hs⟩ := Option.ite_none_right_eq_some.mp hs
      obtain rfl := Option.some.inj hs
      exact h

/-- Wherever `main` is, what `door_udp_close` and `LED_worker_shutdown` join has been
created and not joined yet, and a second call of either does nothing. -/
theorem guarded_run {pos : Fin stepsPerRev} {is : List Label} {s : DoorMain}
    (hr : Lts.run step (initial pos) is = some s) :
    ∀ t ∈ [s.process.listener, s.process.ledWorker],
      (∀ l ∈ t.stop.2, l = .created) ∧ t.stop.1.stop = (t.stop.1, []) := by
  have hinit : (initial pos).process.Guarded :=
    ⟨GuardedThread.guards_initial, GuardedThread.guards_initial⟩
  have hguarded : s.process.Guarded :=
    Lts.inv_run_of_step (fun _ _ _ h hs => guarded_step h hs) hinit hr
  intro t ht
  refine ⟨GuardedThread.stop_joins ?_, GuardedThread.stop_stop t⟩
  rcases List.mem_cons.mp ht with rfl | ht
  · exact hguarded.1
  · rw [List.mem_singleton.mp ht]
    exact hguarded.2

/-! ## Leaving with the reports on, and without them -/

def noPins : Nat → PinWrites := fun _ _ => true

def startOk (created : Bool) : StartEnv := ⟨true, true, created, 0, 0⟩

/-- The module is started and left at once. -/
def startAndLeave (created : Bool) : List Label :=
  [.boot true true true, .start "D1".toList (startOk created), .leave, .stop, .cleanup noPins]

theorem startAndLeave_returns (created : Bool) :
    ∃ s, Lts.run step (initial ⟨0, stepsPerRev_pos⟩) (startAndLeave created) = some s
      ∧ s.pc = .returned := ⟨_, rfl, rfl⟩

/-- The heartbeat thread is joined a second time when it had been created, and
joined without a thread when it had not. -/
theorem startAndLeave_stops_improperly :
    ¬∀ (pos : Fin stepsPerRev) (is : List Label) (s : DoorMain),
      Lts.run step (initial pos) is = some s → Lts.Along step StopProper (initial pos) is := by
  intro hall
  obtain ⟨s, hr, -⟩ := startAndLeave_returns true
  have hno := (along_stopProper_iff hr).mp (hall _ _ s hr)
  exact absurd (hno (.cleanup noPins) (by simp [startAndLeave])) (by simp [Label.isCleanup])

theorem stops_proper_iff_startAndLeave :
    ∃ s, Lts.run step (initial ⟨0, stepsPerRev_pos⟩) (startAndLeave false) = some s
      ∧ ¬Lts.Along step StopProper (initial ⟨0, stepsPerRev_pos⟩) (startAndLeave false) := by
  obtain ⟨s, hr, hpc⟩ := startAndLeave_returns false
  exact ⟨s, hr, (stops_proper_iff_no_cleanup hr).2 hpc⟩

end DoorMain

end HomeSecurity
