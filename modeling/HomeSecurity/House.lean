import HomeSecurity.HubCommand
import HomeSecurity.WebSite

/-!
# The house

All parties together: the hub, the web server with its pages, and the modules D1, D2 and
D3, each with somebody at its own console. Datagrams are lost, delayed, reordered and
duplicated: all that were ever sent stay in `sent`, and any of them may arrive at any time,
any number of times. Everything else takes its turn in any order, too.

A line may be cut short on its way, by the 256 bytes it is sent from or read into. What a
line says is therefore said of whatever it may be cut to (`Line`): a COMMAND was asked for,
and the state in a FEEDBACK was answered by its door. That is kept by every party.
-/

namespace HomeSecurity

open CText JsText StepperMotor

/-- Where a datagram goes. -/
inductive Receiver where
  | hub
  | door (i : Fin 3)
  | web
  | nobody
deriving DecidableEq

structure Packet where
  src : SockAddr
  dst : Receiver
  bytes : Text

/-- The addresses of a house. -/
structure HouseConfig where
  hubAddr : SockAddr
  webAddr : SockAddr
  doorAddr : Fin 3 → SockAddr

theorem neZeroDoors : NeZero 3 := ⟨Nat.succ_ne_zero 2⟩

/-- Where the hub's datagrams end up. -/
def HouseConfig.receiver (cfg : HouseConfig) (a : SockAddr) : Receiver :=
  if a = cfg.webAddr then .web
  else match (List.finRange 3).find? fun i => cfg.doorAddr i = a with
    | some i => .door i
    | none => .nobody

/-- What a door module does on its own account: its console, and its heartbeat thread. -/
inductive DoorCall where
  | start (heartbeatMs t now : Int) (ok : Bool)
  | stop
  | heartbeat (distance t : Int)
  | lock (door : Door) (env : Env)
  | unlock (door : Door) (env : Env)
  | status (door : Door) (env : Env)
  | cleanup (writes : Nat → PinWrites)

def DoorMod.act (s : DoorMod) (id : Text) : DoorCall → DoorMod × List DoorSend
  | .start heartbeatMs t now ok => s.doorReportingStart id heartbeatMs t now ok
  | .stop => (s.doorReportingStop, [])
  | .heartbeat distance t => s.heartbeatWorker distance t
  | .lock door env => ((s.lockDoor door env).mod, (s.lockDoor door env).sends)
  | .unlock door env => ((s.unlockDoor door env).mod, (s.unlockDoor door env).sends)
  | .status door env => ((s.getDoorStatus door env).mod, (s.getDoorStatus door env).sends)
  | .cleanup writes => ((s.doorModCleanup writes).1, [])

/-- One turn of `door_cmd_thread`, with the registered handler. -/
def DoorMod.listen (s : DoorMod) (bytes : Text) (env : Env) : DoorMod × List DoorSend :=
  match s.udp.doorCmdThread bytes with
  | (some cmd, _) =>
      let r := s.appCommandHandler cmd env
      (r.call.mod, r.call.sends ++ r.feedbackSends)
  | (none, sends) => (s, sends)

variable {κ : Type} [DecidableEq κ]

def ServerOut.payload : ServerOut → Option Text
  | .datagram payload => some payload
  | _ => none

/-- What the web server sends to the hub: it does when it handles a command of a page. -/
def WebSite.datagrams (s : WebSite κ) : WebSiteEvent κ → List Text
  | .receive j =>
      match s.outbox j with
      | [] => []
      | c :: _ =>
          match s.server.handle (.sendCommand c.module c.target c.action) with
          | some r => r.2.filterMap ServerOut.payload
          | none => []
  | _ => []

structure House (κ : Type) where
  hub : Hub
  /-- The calls of `hub_udp_send_command`. -/
  calls : List SendCall
  doors : Fin 3 → DoorMod
  site : WebSite κ
  /-- All that was ever sent. -/
  sent : List Packet

inductive HouseEvent (κ : Type) where
  /-- Anything on the web site, but a datagram. -/
  | site (e : WebSiteEvent κ)
  /-- A command posted to the HTTP API for a module that is not the hub's own. -/
  | post (module target action : Text)
  | transmit (n : Nat) (ok : Bool)
  | wake (n : Nat) (timedOut : Bool)
  | check (now : Int)
  | door (i : Fin 3) (c : DoorCall)
  /-- The `k`-th datagram arrives; a handler call it causes reads `env`. -/
  | deliver (k : Nat) (env : Env) (t issued : Int)

namespace House

/-- Nothing has been started, and no page has asked anything. -/
def init (webhookUrl : Text) (positions : Fin 3 → Fin stepsPerRev) : House κ where
  hub := .init webhookUrl
  calls := []
  doors i := .initial (positions i)
  site := .init
  sent := []

variable (cfg : HouseConfig)

def hubPacket : HubOut → Option Packet
  | .relay dest _ _ msg => some ⟨cfg.hubAddr, cfg.receiver dest, msg.text⟩
  | .forward dest line => some ⟨cfg.hubAddr, cfg.receiver dest, line⟩
  | .alert _ => none
  | .broadcast => none

def doorPacket (i : Fin 3) (send : DoorSend) : Packet := ⟨cfg.doorAddr i, .hub, send.line.text⟩

/-- A door, with what it sends. -/
def updateDoor (s : House κ) (i : Fin 3) (r : DoorMod × List DoorSend) : House κ :=
  { s with
    doors := Function.update s.doors i r.1
    sent := s.sent ++ r.2.map (doorPacket cfg i) }

/-- A datagram arrives; at a door whose listener does not run it is lost. -/
def arrive (s : House κ) (p : Packet) (env : Env) (t issued : Int) : House κ :=
  match p.dst with
  | .hub =>
      let r := s.hub.handleLine ⟨p.src, p.bytes, t, issued⟩
      { s with hub := r.1, sent := s.sent ++ r.2.filterMap (hubPacket cfg) }
  | .door i =>
      if (s.doors i).udp.sockOpen then s.updateDoor cfg i ((s.doors i).listen p.bytes env) else s
  -- documented lines are ASCII: `toString` leaves them as they are
  | .web => { s with site := s.site.emit (s.site.server.message p.bytes) }
  | .nobody => s

def step (s : House κ) : HouseEvent κ → Option (House κ)
  | .site (.message _) => none
  | .site e =>
      (WebSite.step s.site e).map fun site =>
        { s with
          site
          sent := s.sent ++ (s.site.datagrams e).map fun b => ⟨cfg.webAddr, .hub, b⟩ }
  | .post module target action =>
      some (match s.hub.hubUdpSendCommand module target action with
        | some r => { s with hub := r.1, calls := s.calls ++ [r.2] }
        | none => s)
  | .transmit n ok =>
      s.calls[n]?.bind fun k => (k.transmit ok).map fun r =>
        { s with
          calls := s.calls.set n r.1
          sent := s.sent ++ r.2.map fun o => ⟨cfg.hubAddr, cfg.receiver o.1, o.2.text⟩ }
  | .wake n timedOut =>
      s.calls[n]?.bind fun k => (k.wake (s.hub.doors k.door) timedOut).map fun k' =>
        { s with calls := s.calls.set n k' }
  | .check now => some { s with hub := (s.hub.checkOfflineModules now).1 }
  | .door i c => some (s.updateDoor cfg i ((s.doors i).act (doorId i) c))
  | .deliver k env t issued => s.sent[k]?.map fun p => s.arrive cfg p env t issued

/-! ## What a line says -/

def commandWords : List Text := ["LOCK".toList, "UNLOCK".toList, "STATUS".toList]

/-- The action of the FEEDBACK that answers STATUS. -/
def stateAction (st : DoorState) : Text := "STATUS_".toList ++ stateStr st

/-- Which commands have been asked for, and which states the doors have answered. -/
structure Known where
  asked : Fin 3 → Text → Prop
  said : Fin 3 → DoorState → Prop

structure Known.Le (k k' : Known) : Prop where
  asked : ∀ i a, k.asked i a → k'.asked i a
  said : ∀ i st, k.said i st → k'.said i st

/-- An action that door `i` may have sent, perhaps cut short: the word of a command, or a
state it has answered. -/
inductive Carries (k : Known) (i : Fin 3) (a : Text) : Prop where
  | command {w : Text} (hw : w ∈ commandWords) (h : a <+: w)
  | state {st : DoorState} (hst : k.said i st) (h : a <+: stateAction st)

/-- A COMMAND or FEEDBACK, perhaps cut short. -/
inductive Line (k : Known) (bytes : Text) : Prop where
  | command {m target action : Text} {c : Int} (hm : IsGraphic m) (htarget : IsGraphic target)
      (haction : action ∈ commandWords)
      (hasked : action ≠ "STATUS".toList → ∀ i, m = doorId i → k.asked i action)
      (h : bytes <+: commandLine m c target action)
  | feedback {i : Fin 3} {target action : Text} {c : Int} (htarget : IsGraphic target)
      (haction : IsGraphic action) (hcarries : Carries k i action)
      (h : bytes <+: feedbackLine (doorId i) c target action)

/-- What arrives at the hub may also be a report. -/
def ToHub (k : Known) (bytes : Text) : Prop :=
  Line k bytes ∨ ∃ i r, bytes <+: reportLine (doorId i) r

/-- What door `i` sends. -/
inductive FromDoor (k : Known) (i : Fin 3) (bytes : Text) : Prop where
  | report {r : Report} (h : bytes <+: reportLine (doorId i) r)
  | feedback {target action : Text} {c : Int} (htarget : IsGraphic target)
      (haction : IsGraphic action) (hcarries : Carries k i action)
      (h : bytes <+: feedbackLine (doorId i) c target action)

/-- Who sent a datagram, and what: the hub to another party, the web server a COMMAND with
an id below `n`, or a door. -/
inductive Sent (cfg : HouseConfig) (k : Known) (n : Int) (p : Packet) : Prop where
  | hub (hdst : p.dst ≠ .hub) (h : Line k p.bytes)
  | web {i : Fin 3} {c : Int} {action : Text} (hdst : p.dst = .hub) (hsrc : p.src = cfg.webAddr)
      (haction : action ∈ commandWords) (hasked : action ≠ "STATUS".toList → k.asked i action)
      (hpos : 1 ≤ c) (hlt : c < n) (h : p.bytes = commandLine (doorId i) c "D0".toList action)
  | door {i : Fin 3} (hdst : p.dst = .hub) (hsrc : p.src = cfg.doorAddr i)
      (h : FromDoor k i p.bytes)

section Lines

variable {k k' : Known} {i : Fin 3} {bytes : Text}

theorem Carries.mono (hle : k.Le k') {a : Text} (h : Carries k i a) : Carries k' i a := by
  cases h with
  | command hw h => exact .command hw h
  | state hst h => exact .state (hle.said _ _ hst) h

theorem Carries.shortened {a b : Text} (h : Carries k i a) (hb : b <+: a) : Carries k i b := by
  cases h with
  | command hw h => exact .command hw (hb.trans h)
  | state hst h => exact .state hst (hb.trans h)

theorem Line.mono (hle : k.Le k') (h : Line k bytes) : Line k' bytes := by
  cases h with
  | command hm htarget haction hasked h =>
      exact .command hm htarget haction (fun hne i hi => hle.asked _ _ (hasked hne i hi)) h
  | feedback htarget haction hcarries h => exact .feedback htarget haction (hcarries.mono hle) h

theorem Line.shortened {cut : Text} (h : Line k bytes) (hcut : cut <+: bytes) : Line k cut := by
  cases h with
  | command hm htarget haction hasked h =>
      exact .command hm htarget haction hasked (hcut.trans h)
  | feedback htarget haction hcarries h => exact .feedback htarget haction hcarries (hcut.trans h)

theorem FromDoor.mono (hle : k.Le k') (h : FromDoor k i bytes) : FromDoor k' i bytes := by
  cases h with
  | report h => exact .report h
  | feedback htarget haction hcarries h => exact .feedback htarget haction (hcarries.mono hle) h

theorem FromDoor.toHub (h : FromDoor k i bytes) : ToHub k bytes := by
  cases h with
  | report h => exact Or.inr ⟨i, _, h⟩
  | feedback htarget haction hcarries h => exact Or.inl (.feedback htarget haction hcarries h)

theorem isGraphic_doorId (i : Fin 3) : IsGraphic (doorId i) := by
  have hall : ∀ i, doorId i ≠ [] ∧ (doorId i).all isgraph = true := by decide
  exact .of_all (hall i).1 (hall i).2

theorem isGraphic_commandWord {w : Text} (hw : w ∈ commandWords) : IsGraphic w := by
  have hall : ∀ w ∈ commandWords, w ≠ [] ∧ w.all isgraph = true := by decide
  exact .of_all (hall w hw).1 (hall w hw).2

theorem isGraphic_D0 : IsGraphic "D0".toList := .of_all (by decide) (by decide)

theorem isGraphic_cut {a w : Text} (hw : IsGraphic w) (h : a <+: w) (hne : a ≠ []) :
    IsGraphic a :=
  ⟨hne, fun c hc => hw.graph c (h.subset hc)⟩

theorem doorId_injective {i j : Fin 3} (h : doorId i = doorId j) : i = j := by
  have hall : ∀ i j, doorId i = doorId j → i = j := by decide
  exact hall i j h

section Packets

variable {cfg : HouseConfig} {n : Int} {p : Packet}

theorem Sent.mono (hle : k.Le k') {n' : Int} (hn : n ≤ n') (h : Sent cfg k n p) :
    Sent cfg k' n' p := by
  cases h with
  | hub hdst h => exact .hub hdst (h.mono hle)
  | web hdst hsrc haction hasked hpos hlt h =>
      exact .web hdst hsrc haction (fun hne => hle.asked _ _ (hasked hne)) hpos
        (Int.lt_of_lt_of_le hlt hn) h
  | door hdst hsrc h => exact .door hdst hsrc (h.mono hle)

theorem Sent.line (h : Sent cfg k n p) (hdst : p.dst ≠ .hub) : Line k p.bytes := by
  cases h with
  | hub _ h => exact h
  | web hhub => exact absurd hhub hdst
  | door hhub => exact absurd hhub hdst

theorem Sent.toHub (h : Sent cfg k n p) : ToHub k p.bytes := by
  cases h with
  | hub _ h => exact Or.inl h
  | @web i c action _ _ haction hasked _ _ h =>
      refine Or.inl (.command (isGraphic_doorId i) isGraphic_D0 haction (fun hne i' hi' => ?_)
        (by rw [h]))
      rw [← doorId_injective hi']
      exact hasked hne
  | door _ _ h => exact h.toHub

end Packets

/-- The five words of a numbered line that was cut short. -/
theorem cutShort_numbered {delim : Char → Bool} (hspace : delim ' ' = true)
    (hnl : delim '\n' = true) (hgraph : ∀ c, isgraph c = true → delim c = false)
    {m kw target action : Text} (hm : IsGraphic m) (hkw : IsGraphic kw)
    (htarget : IsGraphic target) (haction : IsGraphic action) {c : Int}
    (h : bytes <+: numbered m kw c target action ++ ['\n']) :
    CutShort (strtok delim bytes) [m, kw, decimal c, target, action] := by
  have hdigit : ∀ x, x.isDigit = true → delim x = false := fun x hx =>
    hgraph x (isgraph_of_digit hx)
  have hwords := strtok_numbered hspace (hm.isWord hgraph) (hkw.isWord hgraph)
    (isWord_decimal hdigit (hgraph '-' (by decide)) c) (htarget.isWord hgraph)
    (haction.isWord hgraph)
  have hcut : CutShort (strtok delim bytes) _ := strtok_cut h
  rwa [strtok_append_delim hnl, hwords] at hcut

/-! ### Read by a C program -/

theorem cutShort_wireTokens {line : Text} (h : bytes <+: line) :
    CutShort (wireTokens bytes) (strtok isDelim line) :=
  strtok_cut ((List.takeWhile_prefix _).trans ((List.take_prefix ..).trans h))

theorem isGraphic_feedback : IsGraphic "FEEDBACK".toList := .of_all (by decide) (by decide)

theorem isGraphic_command : IsGraphic "COMMAND".toList := .of_all (by decide) (by decide)

theorem cutShort_commandLine {m target action : Text} {c : Int} (hm : IsGraphic m)
    (htarget : IsGraphic target) (haction : IsGraphic action)
    (h : bytes <+: commandLine m c target action) :
    CutShort (wireTokens bytes) [m, "COMMAND".toList, decimal c, target, action] := by
  rw [commandLine_eq] at h
  exact cutShort_numbered (by decide) (by decide) (fun _ => isDelim_of_graph) hm isGraphic_command
    htarget haction ((List.takeWhile_prefix _).trans ((List.take_prefix ..).trans h))

theorem cutShort_feedbackLine {m target action : Text} {c : Int} (hm : IsGraphic m)
    (htarget : IsGraphic target) (haction : IsGraphic action)
    (h : bytes <+: feedbackLine m c target action) :
    CutShort (wireTokens bytes) [m, "FEEDBACK".toList, decimal c, target, action] := by
  rw [feedbackLine_eq] at h
  exact cutShort_numbered (by decide) (by decide) (fun _ => isDelim_of_graph) hm isGraphic_feedback
    htarget haction ((List.takeWhile_prefix _).trans ((List.take_prefix ..).trans h))

theorem cutShort_reportLine {r : Report} (h : bytes <+: reportLine (doorId i) r) :
    CutShort (wireTokens bytes) (doorId i :: r.type :: r.args) := by
  have hcut := cutShort_wireTokens h
  rwa [strtok_reportLine (isToken_of_graphic (isGraphic_doorId i)).toIsWord] at hcut

theorem Report.type_differs (r : Report) :
    ¬"COMMAND".toList <+: r.type ∧ ¬"FEEDBACK".toList <+: r.type := by
  unfold Report.type
  split <;> exact ⟨by decide, by decide⟩

/-- A line whose second word is COMMAND or FEEDBACK is no report. -/
theorem ToHub.line (h : ToHub k bytes) {mod type : Text} {args : List Text}
    (htok : wireTokens bytes = mod :: type :: args)
    (htype : type = "COMMAND".toList ∨ type = "FEEDBACK".toList) : Line k bytes := by
  rcases h with h | ⟨i, r, h⟩
  · exact h
  · have hcut := cutShort_reportLine h
    rw [htok] at hcut
    have hprefix := hcut.of_cons_cons.2.of_cons.1
    rcases htype with rfl | rfl
    · exact absurd hprefix (Report.type_differs r).1
    · exact absurd hprefix (Report.type_differs r).2

/-- The words of a COMMAND. -/
theorem Line.of_command (h : Line k bytes) {mod cs target action : Text} {rest : List Text}
    (htok : wireTokens bytes = mod :: "COMMAND".toList :: cs :: target :: action :: rest) :
    IsGraphic target ∧ ∃ w ∈ commandWords, action <+: w
      ∧ (w ≠ "STATUS".toList → ∀ i, mod = doorId i → k.asked i w) := by
  cases h with
  | command hm htarget haction hasked h =>
      have hcut := cutShort_commandLine hm htarget (isGraphic_commandWord haction) h
      rw [htok] at hcut
      obtain ⟨rfl, -, -, rfl, hprefix, -⟩ := hcut.five
      exact ⟨htarget, _, haction, hprefix, hasked⟩
  | feedback htarget haction hcarries h =>
      have hcut := cutShort_feedbackLine (isGraphic_doorId _) htarget haction h
      rw [htok] at hcut
      exact absurd hcut.five.2.1 (by decide)

/-- The words of a FEEDBACK. -/
theorem Line.of_feedback (h : Line k bytes) {mod cs target action : Text} {rest : List Text}
    (htok : wireTokens bytes = mod :: "FEEDBACK".toList :: cs :: target :: action :: rest) :
    ∃ i, mod = doorId i ∧ IsGraphic target ∧ IsGraphic action ∧ Carries k i action := by
  have hmem : action ∈ strtok isDelim (cstr (bytes.take 255)) := by
    rw [← wireTokens, htok]
    simp
  have hne := strtok_ne_nil hmem
  cases h with
  | command hm htarget haction hasked h =>
      have hcut := cutShort_commandLine hm htarget (isGraphic_commandWord haction) h
      rw [htok] at hcut
      exact absurd hcut.five.2.1 (by decide)
  | feedback htarget haction hcarries h =>
      have hcut := cutShort_feedbackLine (isGraphic_doorId _) htarget haction h
      rw [htok] at hcut
      obtain ⟨rfl, -, -, rfl, hprefix, -⟩ := hcut.five
      exact ⟨_, rfl, htarget, isGraphic_cut haction hprefix hne,
        hcarries.shortened hprefix⟩

/-! ### Read by the web server -/

theorem cutShort_words_trim {line : Text} (h : bytes <+: line) :
    CutShort (words (trim bytes)) (words line) := by
  have hfront : CutShort (words (bytes.dropWhile isSpace)) (words line) := by
    rw [words, strtok_dropWhile]
    exact strtok_cut h
  refine CutShort.trans (strtok_cut ?_) hfront
  rw [trim, ← List.reverse_suffix, List.reverse_reverse]
  exact List.dropWhile_suffix _

/-- The five words of a line, as far as the server reads them. -/
theorem Line.words (h : Line k bytes) : ∃ m kw c target action,
    CutShort (JsText.words (trim bytes)) [m, kw, decimal c, target, action]
      ∧ (kw = "COMMAND".toList
        ∨ kw = "FEEDBACK".toList ∧ ∃ i, m = doorId i ∧ Carries k i action) := by
  have hwords : ∀ {m kw target action : Text} {c : Int}, IsGraphic m → IsGraphic kw →
      IsGraphic target → IsGraphic action →
      bytes <+: numbered m kw c target action ++ ['\n'] →
      CutShort (JsText.words (trim bytes)) [m, kw, decimal c, target, action] := by
    intro m kw target action c hm hkw htarget haction h
    exact (cutShort_words_trim List.prefix_rfl).trans (cutShort_numbered (by decide) (by decide)
      (fun _ => isSpace_of_graph) hm hkw htarget haction h)
  cases h with
  | @command m target action c hm htarget haction hasked h =>
      rw [commandLine_eq] at h
      exact ⟨m, _, c, target, action, hwords hm isGraphic_command htarget
        (isGraphic_commandWord haction) h, Or.inl rfl⟩
  | @feedback i target action c htarget haction hcarries h =>
      rw [feedbackLine_eq] at h
      exact ⟨doorId i, _, c, target, action, hwords (isGraphic_doorId i) isGraphic_feedback htarget
        haction h, Or.inr ⟨rfl, i, rfl, hcarries⟩⟩

/-- What the server makes of a line: a FEEDBACK of a door, or nothing about a door. -/
theorem Line.feedbackMessage (h : Line k bytes) {f : FeedbackMessage}
    (hf : feedbackMessage bytes = some f) :
    ∃ i, f.module = doorId i ∧ Carries k i f.action := by
  obtain ⟨m, kw, c, target, action, hcut, hkw⟩ := h.words
  unfold HomeSecurity.feedbackMessage at hf
  split at hf
  · rename_i m' type c' target' action' rest hwords
    rw [hwords] at hcut
    obtain ⟨rfl, rfl, -, rfl, hprefix, rfl⟩ := hcut.five
    split at hf
    · rename_i htype
      obtain rfl := Option.some.inj hf
      rcases hkw with hkw | ⟨-, i, hm, hcarries⟩
      · rw [htype] at hkw
        exact absurd hkw (by decide)
      · rw [joinSpace_singleton]
        exact ⟨i, hm, hcarries.shortened hprefix⟩
    · cases hf
  · cases hf

theorem Line.otherMessage (h : Line k bytes) :
    HomeSecurity.otherMessage bytes = [.hubRaw (trim bytes)] := by
  obtain ⟨m, kw, c, target, action, hcut, hkw⟩ := h.words
  have hkeyword : ∀ type, type <+: kw → type ≠ "EVENT".toList ∧ type ≠ "HEARTBEAT".toList
      ∧ type ≠ "HELLO".toList := by
    have hall : ∀ kw ∈ ["COMMAND".toList, "FEEDBACK".toList], ∀ type ∈ kw.inits,
        type ≠ "EVENT".toList ∧ type ≠ "HEARTBEAT".toList ∧ type ≠ "HELLO".toList := by decide
    intro type htype
    refine hall kw ?_ type ((List.mem_inits ..).mpr htype)
    rcases hkw with rfl | ⟨rfl, -⟩
    · exact List.mem_cons_self ..
    · exact List.mem_cons_of_mem _ (List.mem_singleton_self _)
  unfold HomeSecurity.otherMessage
  dsimp only
  split
  · rename_i m' type args hwords
    rw [hwords] at hcut
    obtain ⟨hevent, hheartbeat, hhello⟩ := hkeyword type hcut.of_cons_cons.2.of_cons.1
    rw [if_neg hevent, if_neg hheartbeat, if_neg hhello]
  · rfl

end Lines

end House

end HomeSecurity
