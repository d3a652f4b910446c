import HomeSecurity.ApiRequest
import HomeSecurity.DoorUdp

/-!
# A forwarded command at the door

From the body of a `POST /api/command` to the handler of the module: the form's
values become the last two words of the line that `hub_udp_send_command` builds,
and `door_cmd_thread` takes the line apart again. `delivered_iff` says for which
values it finds what was posted: an empty target - what an absent one becomes -
is no word, and the line is cut off where its buffer ends.
-/

namespace HomeSecurity

open CText

namespace HttpApi

/-! ## The values of a form -/

/-- All the characters of the values of a form are in `s`. -/
def Form.Within (f : Form) (s : Text) : Prop :=
  ∀ v, f.module = some v ∨ f.target = some v ∨ f.action = some v → ∀ c ∈ v, c ∈ s

theorem Form.Within.read {f : Form} {s tok : Text} (h : f.Within s) (htok : ∀ c ∈ tok, c ∈ s) :
    (f.read tok).Within s := by
  unfold Form.read
  split
  · rename_i k v hcut
    obtain ⟨rfl, -⟩ := strchr_eq_some_iff.mp hcut
    have hv : ∀ c ∈ v, c ∈ s := fun c hc =>
      htok c (List.mem_append_right _ (List.mem_cons_of_mem _ hc))
    split
    · rintro w (hw | hw)
      · obtain rfl := Option.some.inj hw
        exact hv
      · exact h w (Or.inr hw)
    · split
      · rintro w (hw | hw | hw)
        · exact h w (Or.inl hw)
        · obtain rfl := Option.some.inj hw
          exact hv
        · exact h w (Or.inr (Or.inr hw))
      · split
        · rintro w (hw | hw | hw)
          · exact h w (Or.inl hw)
          · exact h w (Or.inr (Or.inl hw))
          · obtain rfl := Option.some.inj hw
            exact hv
        · exact h
  · exact h

theorem readForm_within (body : Text) : (readForm body).Within body := by
  have hfold : ∀ (toks : List Text) (f : Form), f.Within body →
      (∀ tok ∈ toks, ∀ c ∈ tok, c ∈ body) → (toks.foldl Form.read f).Within body := by
    intro toks
    induction toks with
    | nil => exact fun f hf _ => hf
    | cons tok toks ih =>
        intro f hf htoks
        exact ih _ (hf.read (htoks tok (List.mem_cons_self ..)))
          fun t ht => htoks t (List.mem_cons_of_mem _ ht)
  refine hfold _ _ ?_ fun tok htok c hc => mem_of_strtok htok hc
  rintro v (h | h | h) <;> cases h

/-! ## What is forwarded -/

/-- Only commands are forwarded, and with the values they came with. -/
theorem readRequest_of_sends {api : HttpApi} {w : World} {bytes m t a : Text}
    (h : .hubUdpSendCommand m t a ∈ (handleClient api w bytes).ops) :
    ∃ target, readRequest api (received bytes) = .command m target a ∧ t = target.getD [] := by
  rw [handleClient_eq] at h
  cases hread : readRequest api (received bytes) with
  | status mod =>
      rw [hread] at h
      cases mod with
      | none => cases h
      | some mod => rcases (serveModule_spec api w mod).2.2 _ h with heq | heq <;> cases heq
  | command mod target action =>
      rw [hread, serve] at h
      split at h
      · rcases (performLocal_spec w action).2.2 _ h with heq | heq | heq <;> cases heq
      · rcases (forward_spec w mod target action).2.2.1 _ h with heq | heq
        · cases heq
        · injection heq with hmod htarget haction
          rw [hmod, haction]
          exact ⟨target, rfl, htarget⟩
  | _ =>
      rw [hread] at h
      cases h

/-- The values of a command are part of the text it was read from. -/
theorem readCommand_within {text m action : Text} {target : Option Text}
    (h : readCommand text = .command m target action) :
    (∀ c ∈ target.getD [], c ∈ text) ∧ ∀ c ∈ action, c ∈ text := by
  unfold readCommand at h
  split at h
  · cases h
  · rename_i front body hcut
    have hbody : ∀ c ∈ body, c ∈ text := by
      intro c hc
      rw [strstr_append hcut]
      exact List.mem_append_right _ (List.mem_append_right _ hc)
    dsimp only at h
    split at h
    · rename_i mod act hmod hact
      obtain ⟨rfl, rfl, rfl⟩ := ApiRequest.command.inj h
      refine ⟨fun c hc => ?_, fun c hc => ?_⟩
      · cases htarget : (readForm body).target with
        | none =>
            rw [htarget] at hc
            cases hc
        | some v =>
            rw [htarget] at hc
            exact hbody c (readForm_within body v (Or.inr (Or.inl htarget)) c hc)
      · exact hbody c (readForm_within body _ (Or.inr (Or.inr hact)) c hc)
    · cases h

theorem readRequest_within {api : HttpApi} {text m action : Text} {target : Option Text}
    (h : readRequest api text = .command m target action) :
    (∀ c ∈ target.getD [], c ∈ text) ∧ ∀ c ∈ action, c ∈ text := by
  unfold readRequest at h
  split at h
  · cases h
  · split at h
    · cases h
    · split at h
      · cases h
      · split at h
        · exact readCommand_within h
        · cases h

/-! ## What the door makes of it -/

/-- The first three words of a command line always fit, whatever its values. -/
theorem wireTokens_command_take {m target action : Text} (hm : IsModuleId m) {c : Int}
    (hlo : -(2 ^ 31) ≤ c) (hhi : c < 2 ^ 31) (htarget : ∀ x ∈ target, x ≠ Char.ofNat 0)
    (haction : ∀ x ∈ action, x ≠ Char.ofNat 0) :
    wireTokens (commandLine m c target action)
      = m :: "COMMAND".toList :: decimal c ::
        strtok isDelim ((target ++ ' ' :: (action ++ ['\n'])).take
          (255 - (m.length + (decimal c).length + 10))) := by
  have hshort := hm.short
  have hdec := length_cmdid hlo hhi
  have hfront : commandLine m c target action
      = (m ++ ' ' :: ("COMMAND".toList ++ ' ' :: (decimal c ++ [' '])))
        ++ (target ++ ' ' :: (action ++ ['\n'])) := by
    simp [commandLine]
  have hlen : (m ++ ' ' :: ("COMMAND".toList ++ ' ' :: (decimal c ++ [' ']))).length
      = m.length + (decimal c).length + 10 := by
    have hkw : "COMMAND".toList.length = 7 := rfl
    simp only [List.length_append, List.length_cons, List.length_nil, hkw]
    omega
  have hnul : ∀ x ∈ (commandLine m c target action).take 255, x ≠ Char.ofNat 0 := by
    intro x hx
    have hx := List.mem_of_mem_take hx
    simp only [commandLine, List.mem_append, List.mem_cons, List.not_mem_nil, or_false] at hx
    rcases hx with hx | rfl | hx | rfl | hx | rfl | hx | rfl | hx | rfl
    · exact hm.nulFree x hx
    · decide
    · exact isToken_command.nulFree x hx
    · decide
    · exact decimal_nulFree c x hx
    · decide
    · exact htarget x hx
    · decide
    · exact haction x hx
    · decide
  rw [wireTokens, cstr_eq_self hnul, hfront, List.take_append, hlen,
    List.take_of_length_le (by omega)]
  simp only [List.append_assoc, List.cons_append, List.nil_append]
  rw [strtok_word hm.toIsWord (by decide), strtok_word isToken_command.toIsWord (by decide),
    strtok_word (isWord_cmdid c) (by decide)]

/-- The door is called with the command as it was posted if and only if there is
something in both of its values and their words fit the buffer. -/
theorem delivered_iff (token : Option Text) (localModuleId : Text) (w : World)
    {bytes m target action : Text}
    (hsends : .hubUdpSendCommand m target action
      ∈ (handleClient (httpApiStart token localModuleId) w bytes).ops)
    (htarget : ∀ c ∈ target, isspace c = false) (haction : ∀ c ∈ action, isspace c = false)
    {h h' : Hub} (hr : h.Reachable) {k : SendCall}
    (hcall : h.hubUdpSendCommand m target action = some (h', k))
    (hint : -(2 ^ 31) ≤ k.cmdid ∧ k.cmdid < 2 ^ 31)
    {s : DoorUdp} (hid : s.moduleId.text = m) (hhandler : s.hasCmdHandler = true) :
    (s.doorCmdThread k.buf.text).1 = some ⟨m, k.cmdid, target, action⟩ ↔
      target ≠ [] ∧ action ≠ []
        ∧ m.length + (decimal k.cmdid).length + target.length + action.length + 11 ≤ 255 := by
  obtain ⟨tgt, hread, rfl⟩ := readRequest_of_sends hsends
  obtain ⟨htext, hatext⟩ := readRequest_within hread
  obtain ⟨hfind, -, hmod, htgt, hact, -⟩ := Hub.hubUdpSendCommand_eq_some hcall
  have hm : IsModuleId m := hr.isModuleId (Hub.findDoor_eq_some_iff.mp hfind).1
  have hshort := hm.short
  have hdec := length_cmdid hint.1 hint.2
  have hwords := wireTokens_command_take hm hint.1 hint.2
    (fun x hx => cstr_nulFree _ x (htext x hx)) fun x hx => cstr_nulFree _ x (hatext x hx)
  have hbuf : wireTokens k.buf.text = wireTokens (commandLine m k.cmdid (tgt.getD []) action) := by
    rw [SendCall.buf, wireTokens_snprintf, hmod, htgt, hact]
  have hpair := strtok_take_pair (by decide : isDelim ' ' = true) (by decide : isDelim '\n' = true)
    (fun c hc => isDelim_of_not_isspace (htarget c hc))
    (fun c hc => isDelim_of_not_isspace (haction c hc))
    (255 - (m.length + (decimal k.cmdid).length + 10))
  rw [DoorUdp.doorCmdThread_eq_some_iff]
  change _ ∧ (∃ cmdidS rest, wireTokens k.buf.text = _ ∧ _) ↔ _
  rw [hbuf, hwords, hid]
  constructor
  · rintro ⟨-, cmdidS, rest, htok, -⟩
    obtain ⟨-, htok⟩ := List.cons.inj htok
    obtain ⟨-, htok⟩ := List.cons.inj htok
    obtain ⟨-, htok⟩ := List.cons.inj htok
    obtain ⟨hne, hne', hlen⟩ := hpair.mp ⟨rest, htok⟩
    exact ⟨hne, hne', by omega⟩
  · rintro ⟨hne, hne', hlen⟩
    obtain ⟨rest, htok⟩ := hpair.mpr ⟨hne, hne', by omega⟩
    exact ⟨hhandler, decimal k.cmdid, rest, by rw [htok], rfl,
      (atoi_decimal hint.1 hint.2).symm⟩

/-- Target and action given. -/
theorem delivered_lock :
    ∃ h' k, (greetedBy "D1".toList).hubUdpSendCommand "D1".toList "D0".toList "LOCK".toList
        = some (h', k)
      ∧ ({ DoorUdp.static with moduleId := snprintf 16 "D1".toList
                               hasCmdHandler := true }.doorCmdThread k.buf.text).1
        = some ⟨"D1".toList, 1, "D0".toList, "LOCK".toList⟩ := by
  obtain ⟨⟨h', k⟩, hcall⟩ : ∃ r, (greetedBy "D1".toList).hubUdpSendCommand "D1".toList
      "D0".toList "LOCK".toList = some r := ⟨_, rfl⟩
  have hsends : ApiOp.hubUdpSendCommand "D1".toList "D0".toList "LOCK".toList
      ∈ (handleClient (httpApiStart none "D2".toList) (.greeted "D1".toList)
        "POST /api/command HTTP/1.1\r\n\r\nmodule=D1&target=D0&action=LOCK".toList).ops := by
    decide +kernel
  have hid : k.cmdid = 1 := (Hub.hubUdpSendCommand_eq_some hcall).2.2.2.2.2.1
  refine ⟨h', k, hcall, ?_⟩
  rw [← hid]
  refine (delivered_iff none "D2".toList (.greeted "D1".toList) hsends (free_of_all (by decide))
    (free_of_all (by decide)) (.input _ (.init [])) hcall (by rw [hid]; decide) rfl rfl).mpr ?_
  rw [hid]
  decide

/-- No target: the door finds four words and drops the command. -/
theorem delivered_noTarget :
    let bytes := "POST /api/command HTTP/1.1\r\n\r\nmodule=D1&action=LOCK".toList
    .hubUdpSendCommand "D1".toList [] "LOCK".toList
        ∈ (handleClient (httpApiStart none "D2".toList) (.greeted "D1".toList) bytes).ops
      ∧ ∃ h' k, (greetedBy "D1".toList).hubUdpSendCommand "D1".toList [] "LOCK".toList
          = some (h', k)
        ∧ ∀ s : DoorUdp, (s.doorCmdThread k.buf.text).1 = none := by
  refine ⟨by decide +kernel, _, _, rfl, fun s => ?_⟩
  rfl

end HttpApi

end HomeSecurity
