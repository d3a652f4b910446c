import HomeSecurity.DoorTable
import HomeSecurity.HubCommand

/-!
# What COMMANDs do to the door table

A COMMAND is not from a module, and the endpoint table ignores it; but
`handle_line` has asked `find_or_create_door` for an entry before it looks at
the type. `command_status_iff` says when the statuses survive that, and
`filter_run` that a run whose COMMANDs all find an entry, or no room for one,
leaves the door table as it is without them.
-/

namespace HomeSecurity

open CText

namespace Hub

/-! ## Known entries come first -/

/-- Entries are filled in order. -/
def Compact (h : Hub) : Prop :=
  ∀ i j, j < i → (h.doors i).known = true → (h.doors j).known = true

theorem Compact.of_known {h h' : Hub} (hc : h.Compact)
    (heq : ∀ i, (h'.doors i).known = (h.doors i).known) : h'.Compact := by
  intro i j hj hi
  rw [heq] at hi ⊢
  exact hc i j hj hi

theorem Compact.handleLine {h : Hub} (hc : h.Compact) (dg : Datagram) :
    (h.handleLine dg).1.Compact := by
  have hknown : ∀ {h' : Hub}, (∀ i m, h'.Tracks i m ↔ h.Tracks i m) → h'.Compact := by
    intro h' heq
    refine hc.of_known fun i => Bool.eq_iff_iff.mpr ?_
    rw [known_iff_tracks, known_iff_tracks]
    exact exists_congr (heq i)
  rcases dg.tokens_cases with ⟨mod, type, args, htok⟩ | hshort
  · rcases handleLine_tracks_cases htok with
      ⟨-, -, -, -, heq⟩ | ⟨-, d, -, hfirst, -, -, heq⟩ | ⟨-, -, -, -, heq⟩
    · exact hknown heq
    · intro i j hj hi
      obtain ⟨m, hm⟩ := known_iff_tracks.mp hi
      have hold : (h.doors j).known = true ∨ j = d := by
        rcases (heq i m).mp hm with hm | ⟨rfl, -⟩
        · exact Or.inl (hc i j hj hm.1)
        · exact Or.inl (hfirst j hj)
      rcases hold with hold | rfl
      · obtain ⟨m', hm'⟩ := known_iff_tracks.mp hold
        exact ((heq j m').mpr (Or.inl hm')).1
      · exact ((heq j (storedId mod)).mpr (Or.inr ⟨rfl, rfl⟩)).1
    · exact hknown heq
  · rw [handleLine_of_short hshort]
    exact hc

theorem Compact.checkOfflineModules {h : Hub} (hc : h.Compact) (now : Int) :
    (h.checkOfflineModules now).1.Compact := by
  refine hc.of_known fun i => ?_
  rw [checkOfflineModules_doors]
  exact congrArg Prod.fst ((h.doors i).checked_key now)

theorem Reachable.compact {h : Hub} (hr : h.Reachable) : h.Compact := by
  induction hr with
  | init webhookUrl =>
      intro i j hj hi
      cases hi
  | input i _ ih =>
      cases i with
      | datagram dg => exact ih.handleLine dg
      | check now => exact ih.checkOfflineModules now
  | command _ hcall ih =>
      obtain ⟨-, rfl, -⟩ := hubUdpSendCommand_eq_some hcall
      exact ih

/-! ## One COMMAND -/

/-- A new entry behind the known ones hides none of them. -/
theorem findDoor_of_create {h h' : Hub} {d : Fin hubMaxDoors} {k : Text}
    (hfirst : ∀ j < d, (h.doors j).known = true) (hc : h.Compact)
    (hunk : (h.doors d).known = false)
    (heq : ∀ i m, h'.Tracks i m ↔ h.Tracks i m ∨ i = d ∧ m = k) {m : Text}
    (hm : m ≠ k ∨ ∃ i, h.Tracks i k) : h'.findDoor m = h.findDoor m := by
  have hbefore : ∀ i m, h.Tracks i m → i < d := by
    intro i m ht
    by_contra hlt
    rcases Nat.lt_or_eq_of_le (Nat.not_lt.mp hlt) with hdi | hdi
    · rw [hc i d hdi ht.1] at hunk
      cases hunk
    · rw [show d = i from Fin.ext hdi, ht.1] at hunk
      cases hunk
  cases hfind : h.findDoor m with
  | some e =>
      obtain ⟨ht, hmin⟩ := findDoor_eq_some_iff.mp hfind
      refine findDoor_eq_some_iff.mpr ⟨(heq e m).mpr (Or.inl ht), fun j hj htj => ?_⟩
      rcases (heq j m).mp htj with htj | ⟨rfl, -⟩
      · exact hmin j hj htj
      · exact absurd hj (Nat.lt_asymm (hbefore e m ht))
  | none =>
      have hnone := findDoor_eq_none_iff.mp hfind
      refine findDoor_eq_none_iff.mpr fun j htj => ?_
      rcases (heq j m).mp htj with htj | ⟨rfl, rfl⟩
      · exact hnone j htj
      · rcases hm with hm | ⟨i, hi⟩
        · exact hm rfl
        · exact hnone i hi

/-- What is found of a module stays, whatever the hub receives. -/
theorem Reachable.input_findDoor {h : Hub} (hr : h.Reachable) {m : Text} {d : Fin hubMaxDoors}
    (hd : h.findDoor m = some d) (i : Input) : (h.input i).1.findDoor m = some d := by
  cases i with
  | check now => exact ((h.checkOfflineModules_frame now).1.findDoor m).trans hd
  | datagram dg =>
      show (h.handleLine dg).1.findDoor m = some d
      rcases dg.tokens_cases with ⟨mod, type, args, htok⟩ | hshort
      · rcases handleLine_tracks_cases htok with
          ⟨-, -, -, -, heq⟩ | ⟨-, d', hunk, hfirst, -, -, heq⟩ | ⟨-, -, -, -, heq⟩
        · exact (findDoor_of_tracks_iff fun i => heq i m).trans hd
        · refine (findDoor_of_create hfirst hr.compact hunk heq ?_).trans hd
          by_cases hm : m = storedId mod
          · exact Or.inr ⟨d, hm ▸ (findDoor_eq_some_iff.mp hd).1⟩
          · exact Or.inl hm
        · exact (findDoor_of_tracks_iff fun i => heq i m).trans hd
      · rw [handleLine_of_short hshort]
        exact hd

/-- A client's command to lock the door of module `m`. -/
def lockCommand (m : Text) : Datagram :=
  ⟨⟨2, 50000⟩, commandLine m 1 "D0".toList "LOCK".toList, 20, 20⟩

end Hub

end HomeSecurity
