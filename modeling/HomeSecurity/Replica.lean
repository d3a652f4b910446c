import HomeSecurity.Lts

/-!
# A replica fed by deltas and snapshots

A source keeps a value for every key and tells a replica about it over two
channels: one delta for every key that is set, on the first channel, and now
and then a snapshot of the whole state, on the second. Each channel is FIFO,
neither loses anything, and nothing orders one against the other.

Messages carry no stamp the replica could see; the stamps here only say in
which order the source sent them. A snapshot is *overtaken* when a delta sent
after it was delivered before it - then it brings back a value that the replica
had already replaced. `Inv.synced` is the guarantee: with both channels empty,
the replica equals the source unless the last snapshot was overtaken.
-/

namespace Replica

structure Delta (κ ν : Type*) where
  stamp : Nat
  key : κ
  value : ν

structure Snapshot (κ ν : Type*) where
  stamp : Nat
  value : κ → ν

structure State (κ ν : Type*) where
  started : Bool
  source : κ → ν
  sent : Nat
  deltas : List (Delta κ ν)
  snaps : List (Snapshot κ ν)
  replica : κ → ν
  newestDelta : Nat
  seen : Bool
  overtaken : Bool

inductive Label (κ ν : Type*) where
  /-- The first report: a snapshot and nothing else. -/
  | start (v : κ → ν)
  | set (k : κ) (x : ν)
  | snapshot
  | recvDelta
  | recvSnap

variable {κ ν : Type*} [DecidableEq κ]

def State.init (source replica : κ → ν) (sent : Nat) : State κ ν :=
  ⟨false, source, sent, [], [], replica, 0, false, false⟩

/-- The source sets one key. -/
def State.write (s : State κ ν) (k : κ) (x : ν) : State κ ν :=
  { s with
    source := Function.update s.source k x
    sent := s.sent + 1
    deltas := s.deltas ++ [⟨s.sent + 1, k, x⟩] }

/-- The source sends everything. -/
def State.publish (s : State κ ν) : State κ ν :=
  { s with sent := s.sent + 1, snaps := s.snaps ++ [⟨s.sent + 1, s.source⟩] }

def step (s : State κ ν) : Label κ ν → Option (State κ ν)
  | .start v =>
      if s.started then none
      else some { s with
        started := true, source := v, sent := s.sent + 1
        snaps := s.snaps ++ [⟨s.sent + 1, v⟩] }
  | .set k x => if s.started then some (s.write k x) else none
  | .snapshot => if s.started then some s.publish else none
  | .recvDelta =>
      match s.deltas with
      | [] => none
      | d :: ds =>
          some { s with
            deltas := ds, replica := Function.update s.replica d.key d.value
            newestDelta := max s.newestDelta d.stamp }
  | .recvSnap =>
      match s.snaps with
      | [] => none
      | p :: ps =>
          some { s with
            snaps := ps, replica := p.value
            seen := true, overtaken := decide (p.stamp < s.newestDelta) }

/-! ## Sending only when there is something to send -/

def State.writeIf (s : State κ ν) (c : Bool) (k : κ) (x : ν) : State κ ν :=
  if c then s.write k x else s

def State.publishIf (s : State κ ν) (c : Bool) : State κ ν := if c then s.publish else s

section Frame

variable (s : State κ ν) (c : Bool) (k : κ) (x : ν)

@[simp] theorem writeIf_started : (s.writeIf c k x).started = s.started := by cases c <;> rfl
@[simp] theorem writeIf_replica : (s.writeIf c k x).replica = s.replica := by cases c <;> rfl
@[simp] theorem writeIf_newestDelta : (s.writeIf c k x).newestDelta = s.newestDelta := by
  cases c <;> rfl
@[simp] theorem writeIf_overtaken : (s.writeIf c k x).overtaken = s.overtaken := by
  cases c <;> rfl

omit [DecidableEq κ]

@[simp] theorem publishIf_started : (s.publishIf c).started = s.started := by cases c <;> rfl
@[simp] theorem publishIf_source : (s.publishIf c).source = s.source := by cases c <;> rfl
@[simp] theorem publishIf_replica : (s.publishIf c).replica = s.replica := by cases c <;> rfl
@[simp] theorem publishIf_newestDelta : (s.publishIf c).newestDelta = s.newestDelta := by
  cases c <;> rfl
@[simp] theorem publishIf_overtaken : (s.publishIf c).overtaken = s.overtaken := by
  cases c <;> rfl

end Frame

/-- A source that sends a delta whenever a value differs has set that value. -/
theorem writeIf_source [BEq ν] [LawfulBEq ν] (s : State κ ν) {k : κ} {x y : ν}
    (hy : y = s.source k) :
    (s.writeIf (x != y) k x).source = Function.update s.source k x := by
  by_cases hxy : x = y
  · have hc : (x != y) = false := by simpa using hxy
    rw [State.writeIf, hc, hxy, hy, Function.update_eq_self]
    rfl
  · have hc : (x != y) = true := by simpa using hxy
    rw [State.writeIf, hc]
    rfl

theorem run_set_if {s : State κ ν} (hs : s.started = true) (c : Bool) (k : κ) (x : ν) :
    Lts.run step s (if c then [.set k x] else []) = some (s.writeIf c k x) := by
  cases c with
  | false => rfl
  | true => simp [Lts.run, step, hs, State.writeIf]

theorem run_snapshot_if {s : State κ ν} (hs : s.started = true) (c : Bool) :
    Lts.run step s (if c then [.snapshot] else []) = some (s.publishIf c) := by
  cases c with
  | false => rfl
  | true => simp [Lts.run, step, hs, State.publishIf]

/-! ## The last delta in flight for a key -/

def lastWrite : List (Delta κ ν) → κ → Option ν
  | [], _ => none
  | d :: ds, k =>
      match lastWrite ds k with
      | some y => some y
      | none => if d.key = k then some d.value else none

theorem lastWrite_append (ds : List (Delta κ ν)) (d : Delta κ ν) (k : κ) :
    lastWrite (ds ++ [d]) k = if d.key = k then some d.value else lastWrite ds k := by
  induction ds with
  | nil => simp [lastWrite]
  | cons e ds ih =>
      rw [List.cons_append, lastWrite, ih, lastWrite]
      by_cases hk : d.key = k
      · rw [if_pos hk, if_pos hk]
      · rw [if_neg hk, if_neg hk]

theorem lastWrite_cons_of_ne {d : Delta κ ν} {k : κ} (h : d.key ≠ k)
    (ds : List (Delta κ ν)) : lastWrite (d :: ds) k = lastWrite ds k := by
  rw [lastWrite, if_neg h]
  cases lastWrite ds k <;> rfl

theorem lastWrite_eq_none_iff {ds : List (Delta κ ν)} {k : κ} :
    lastWrite ds k = none ↔ ∀ d ∈ ds, d.key ≠ k := by
  induction ds with
  | nil => simp [lastWrite]
  | cons d ds ih =>
      rw [List.forall_mem_cons, ← ih]
      constructor
      · intro h
        by_cases hk : d.key = k
        · rw [lastWrite, if_pos hk] at h
          cases hrest : lastWrite ds k <;> rw [hrest] at h <;> cases h
        · rw [lastWrite_cons_of_ne hk] at h
          exact ⟨hk, h⟩
      · rintro ⟨hk, h⟩
        rw [lastWrite_cons_of_ne hk, h]

theorem lastWrite_filter {ds : List (Delta κ ν)} {k : κ} (h : lastWrite ds k = none)
    (p : Delta κ ν → Bool) : lastWrite (ds.filter p) k = none := by
  rw [lastWrite_eq_none_iff] at h ⊢
  exact fun d hd => h d (List.mem_filter.mp hd).1

/-- The deltas in flight that were sent after stamp `i`. -/
def sentAfter (i : Nat) (ds : List (Delta κ ν)) : List (Delta κ ν) :=
  ds.filter fun d => decide (i < d.stamp)

/-! ## The invariant -/

structure Inv (s : State κ ν) : Prop where
  idle : s.started = false → s.deltas = [] ∧ s.snaps = [] ∧ s.seen = false
  stamps : ∀ d ∈ s.deltas, d.stamp ≤ s.sent
  snapStamps : ∀ p ∈ s.snaps, p.stamp ≤ s.sent
  informed : s.started = true → s.snaps ≠ [] ∨ s.seen = true
  /-- The last delta in flight for a key carries the key's value. -/
  writes : ∀ k x, lastWrite s.deltas k = some x → x = s.source k
  /-- A snapshot not yet overtaken is right about every key that no delta in
  flight behind it is about. -/
  snapshots : ∀ p ∈ s.snaps, s.newestDelta ≤ p.stamp →
    ∀ k, lastWrite (sentAfter p.stamp s.deltas) k = none → p.value k = s.source k
  /-- After a snapshot that was not overtaken, the replica is right about every
  key that no delta in flight is about. -/
  settled : s.seen = true → s.overtaken = false →
    ∀ k, lastWrite s.deltas k = none → s.replica k = s.source k

theorem Inv.init (source replica : κ → ν) (sent : Nat) :
    Inv (State.init source replica sent) where
  idle _ := ⟨rfl, rfl, rfl⟩
  stamps _ hd := by cases hd
  snapStamps _ hp := by cases hp
  informed h := by cases h
  writes _ _ h := by cases h
  snapshots _ hp := by cases hp
  settled h := by cases h

/-- The guarantee at a quiet moment. -/
theorem Inv.synced {s : State κ ν} (hi : Inv s) (hstart : s.started = true)
    (hdeltas : s.deltas = []) (hsnaps : s.snaps = []) (hov : s.overtaken = false) :
    s.replica = s.source := by
  have hseen : s.seen = true := (hi.informed hstart).resolve_left fun h => h hsnaps
  funext k
  exact hi.settled hseen hov k (by rw [hdeltas, lastWrite])

omit [DecidableEq κ] in
theorem sentAfter_append_of_lt {i : Nat} {d : Delta κ ν} (h : i < d.stamp)
    (ds : List (Delta κ ν)) : sentAfter i (ds ++ [d]) = sentAfter i ds ++ [d] := by
  rw [sentAfter, List.filter_append, List.filter_cons_of_pos (by simpa using h)]
  rfl

theorem Inv.start {s s' : State κ ν} {v : κ → ν} (hi : Inv s)
    (hs : step s (.start v) = some s') : Inv s' := by
  rw [step] at hs
  split at hs
  · cases hs
  rename_i hstart
  cases hs
  obtain ⟨hd, hp, hseen⟩ := hi.idle (by simpa using hstart)
  refine ⟨nofun, ?_, ?_, fun _ => Or.inl (by simp), ?_, ?_, ?_⟩
  · intro d hmem
    rw [hd] at hmem
    cases hmem
  · intro p hmem
    rw [hp, List.nil_append, List.mem_singleton] at hmem
    subst hmem
    exact Nat.le_refl _
  · intro k x hw
    rw [hd] at hw
    cases hw
  · intro p hmem _ k _
    rw [hp, List.nil_append, List.mem_singleton] at hmem
    rw [hmem]
  · intro h
    rw [hseen] at h
    cases h

theorem Inv.set {s s' : State κ ν} {k : κ} {x : ν} (hi : Inv s)
    (hs : step s (.set k x) = some s') : Inv s' := by
  rw [step] at hs
  split at hs
  swap
  · cases hs
  rename_i hstart
  cases hs
  -- about `k` there is now a delta in flight; about every other key nothing changed
  have hother : ∀ k' (ds : List (Delta κ ν)),
      lastWrite (ds ++ [⟨s.sent + 1, k, x⟩]) k' = none → k' ≠ k ∧ lastWrite ds k' = none := by
    intro k' ds h
    rw [lastWrite_append] at h
    split at h
    · cases h
    · rename_i hne
      exact ⟨fun heq => hne heq.symm, h⟩
  have hidle : s.started = false → False := fun h => by
    rw [hstart] at h
    cases h
  refine ⟨fun h => (hidle h).elim, ?_, ?_, hi.informed, ?_, ?_, ?_⟩
  · intro d hmem
    rcases List.mem_append.mp hmem with hmem | hmem
    · exact Nat.le_succ_of_le (hi.stamps d hmem)
    · obtain rfl := List.mem_singleton.mp hmem
      exact Nat.le_refl _
  · exact fun p hmem => Nat.le_succ_of_le (hi.snapStamps p hmem)
  · intro k' y hw
    rw [State.write, lastWrite_append] at hw
    split at hw
    · rename_i heq
      cases hw
      subst heq
      exact (Function.update_self k x s.source).symm
    · rename_i hne
      have hval : y = s.source k' := hi.writes k' y hw
      exact hval.trans (Function.update_of_ne (fun heq => hne heq.symm) _ _).symm
  · intro p hmem hle k' hw
    rw [State.write, sentAfter_append_of_lt (Nat.lt_succ_of_le (hi.snapStamps p hmem))] at hw
    obtain ⟨hne, hw⟩ := hother k' _ hw
    have hval : p.value k' = s.source k' := hi.snapshots p hmem hle k' hw
    exact hval.trans (Function.update_of_ne hne _ _).symm
  · intro hseen hov k' hw
    obtain ⟨hne, hw⟩ := hother k' _ hw
    have hval : s.replica k' = s.source k' := hi.settled hseen hov k' hw
    exact hval.trans (Function.update_of_ne hne _ _).symm

theorem Inv.snapshot {s s' : State κ ν} (hi : Inv s)
    (hs : step s .snapshot = some s') : Inv s' := by
  rw [step] at hs
  split at hs
  swap
  · cases hs
  rename_i hstart
  cases hs
  have hidle : s.started = false → False := fun h => by
    rw [hstart] at h
    cases h
  refine ⟨fun h => (hidle h).elim, ?_, ?_, fun _ => Or.inl (by simp [State.publish]), hi.writes,
    ?_, hi.settled⟩
  · exact fun d hmem => Nat.le_succ_of_le (hi.stamps d hmem)
  · intro p hmem
    rcases List.mem_append.mp hmem with hmem | hmem
    · exact Nat.le_succ_of_le (hi.snapStamps p hmem)
    · obtain rfl := List.mem_singleton.mp hmem
      exact Nat.le_refl _
  · intro p hmem hle k hw
    rcases List.mem_append.mp hmem with hmem | hmem
    · exact hi.snapshots p hmem hle k hw
    · obtain rfl := List.mem_singleton.mp hmem
      rfl

theorem Inv.recvDelta {s s' : State κ ν} (hi : Inv s)
    (hs : step s .recvDelta = some s') : Inv s' := by
  rw [step] at hs
  cases hd : s.deltas with
  | nil =>
      rw [hd] at hs
      cases hs
  | cons d ds =>
      rw [hd] at hs
      cases hs
      have hwrites := hi.writes
      have hsnapshots := hi.snapshots
      have hsettled := hi.settled
      rw [hd] at hwrites hsnapshots hsettled
      refine ⟨fun h => ?_, ?_, hi.snapStamps, hi.informed, ?_, ?_, ?_⟩
      · have := (hi.idle h).1
        rw [hd] at this
        cases this
      · exact fun e hmem => hi.stamps e (by rw [hd]; exact List.mem_cons_of_mem _ hmem)
      · intro k x hw
        exact hwrites k x (by rw [lastWrite, hw])
      · intro p hmem hle k hw
        obtain ⟨hle, hle'⟩ := Nat.max_le.mp hle
        refine hsnapshots p hmem hle k ?_
        rwa [sentAfter, List.filter_cons_of_neg (by simpa using hle')]
      · intro hseen hov k hw
        by_cases hk : d.key = k
        · subst hk
          have hval : d.value = s.source d.key :=
            hwrites d.key d.value (by rw [lastWrite, hw, if_pos rfl])
          simpa using hval
        · have hkeep : Function.update s.replica d.key d.value k = s.replica k :=
            Function.update_of_ne (fun heq => hk heq.symm) _ _
          refine hkeep.trans ?_
          exact hsettled hseen hov k (by rw [lastWrite_cons_of_ne hk, hw])

theorem Inv.recvSnap {s s' : State κ ν} (hi : Inv s)
    (hs : step s .recvSnap = some s') : Inv s' := by
  rw [step] at hs
  cases hp : s.snaps with
  | nil =>
      rw [hp] at hs
      cases hs
  | cons p ps =>
      rw [hp] at hs
      cases hs
      have hmem : p ∈ s.snaps := by rw [hp]; exact List.mem_cons_self
      have hrest : ∀ q ∈ ps, q ∈ s.snaps := fun q hq => by
        rw [hp]
        exact List.mem_cons_of_mem _ hq
      refine ⟨fun h => ?_, hi.stamps, fun q hq => hi.snapStamps q (hrest q hq),
        fun _ => Or.inr rfl, hi.writes, fun q hq => hi.snapshots q (hrest q hq), ?_⟩
      · have := (hi.idle h).2.1
        rw [hp] at this
        cases this
      · intro _ hov k hw
        have hle : s.newestDelta ≤ p.stamp := by simpa using hov
        exact hi.snapshots p hmem hle k (lastWrite_filter hw _)

theorem Inv.step {s s' : State κ ν} (l : Label κ ν) (hi : Inv s)
    (hs : step s l = some s') : Inv s' := by
  cases l with
  | start v => exact hi.start hs
  | set k x => exact hi.set hs
  | snapshot => exact hi.snapshot hs
  | recvDelta => exact hi.recvDelta hs
  | recvSnap => exact hi.recvSnap hs

theorem Inv.run {s s' : State κ ν} {ls : List (Label κ ν)} (hi : Inv s)
    (hr : Lts.run Replica.step s ls = some s') : Inv s' :=
  Lts.inv_run_of_step (fun _ l _ hs hst => hs.step l hst) hi hr

end Replica
