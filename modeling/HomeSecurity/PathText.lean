import Mathlib.Data.List.Basic
import HomeSecurity.CText

/-!
# File paths

Absolute paths as lists of names from the root, and the text of a path taken apart
at each `/`. Walking along a text from a directory goes up at `..`, stays at `.` and
at an empty segment, and goes down at a name. Where that leads depends on the
directory only through its length and its front (`resolve_eq`): a text has a `Way`,
so many levels up and then these names down.
-/

namespace PathText

open CText

/-- A segment that names a file or a directory. -/
structure IsName (s : Text) : Prop where
  ne_nil : s ≠ []
  ne_dot : s ≠ ".".toList
  ne_dots : s ≠ "..".toList
  free : '/' ∉ s

def segments (s : Text) : List Text := s.splitOn '/'

/-- One segment, from the directory that has these names. -/
def enter (dir : List Text) (seg : Text) : List Text :=
  if seg = [] ∨ seg = ".".toList then dir
  else if seg = "..".toList then dir.dropLast
  else dir ++ [seg]

def resolve (dir segs : List Text) : List Text := segs.foldl enter dir

/-! ## The way a text leads -/

/-- So many levels up, and then down. -/
structure Way where
  up : Nat
  down : List Text
deriving DecidableEq

namespace Way

def enter (w : Way) (seg : Text) : Way :=
  if seg = [] ∨ seg = ".".toList then w
  else if seg = "..".toList then
    if w.down = [] then ⟨w.up + 1, []⟩ else ⟨w.up, w.down.dropLast⟩
  else ⟨w.up, w.down ++ [seg]⟩

/-- Where it leads from a directory; above the root there is nothing. -/
def apply (w : Way) (dir : List Text) : List Text := dir.take (dir.length - w.up) ++ w.down

theorem apply_enter (w : Way) (dir : List Text) (seg : Text) :
    (w.enter seg).apply dir = PathText.enter (w.apply dir) seg := by
  unfold Way.enter PathText.enter
  split
  · rfl
  · split
    · split
      · rename_i hdown
        rw [apply, apply, hdown, List.append_nil, List.append_nil, List.dropLast_eq_take,
          List.take_take, List.length_take]
        congr 1
        dsimp only
        omega
      · rename_i hdown
        rw [apply, apply, List.dropLast_append_of_ne_nil hdown]
    · rw [apply, apply, List.append_assoc]

end Way

def way (segs : List Text) : Way := segs.foldl Way.enter ⟨0, []⟩

theorem apply_foldl (w : Way) (dir segs : List Text) :
    (segs.foldl Way.enter w).apply dir = resolve (w.apply dir) segs := by
  induction segs generalizing w with
  | nil => rfl
  | cons seg segs ih =>
      rw [List.foldl_cons, ih, w.apply_enter]
      rfl

/-- Walking from a directory is going the text's way from it. -/
theorem resolve_eq (dir segs : List Text) : resolve dir segs = (way segs).apply dir := by
  have hstart : Way.apply ⟨0, []⟩ dir = dir := by simp [Way.apply]
  rw [way, apply_foldl, hstart]

theorem resolve_append (dir segs segs' : List Text) :
    resolve dir (segs ++ segs') = resolve (resolve dir segs) segs' := List.foldl_append

theorem enter_name {n : Text} (hn : IsName n) (w : Way) : w.enter n = ⟨w.up, w.down ++ [n]⟩ := by
  rw [Way.enter, if_neg (not_or.mpr ⟨hn.ne_nil, hn.ne_dot⟩), if_neg hn.ne_dots]

theorem foldl_names {names : List Text} (hnames : ∀ n ∈ names, IsName n) (w : Way) :
    names.foldl Way.enter w = ⟨w.up, w.down ++ names⟩ := by
  induction names generalizing w with
  | nil => simp
  | cons n names ih =>
      obtain ⟨hn, hnames⟩ := List.forall_mem_cons.mp hnames
      rw [List.foldl_cons, enter_name hn, ih hnames, List.append_assoc]
      rfl

theorem foldl_dots (k up : Nat) :
    (List.replicate k "..".toList).foldl Way.enter ⟨up, []⟩ = ⟨up + k, []⟩ := by
  induction k generalizing up with
  | zero => rfl
  | succ k ih =>
      have hstep : Way.enter ⟨up, []⟩ "..".toList = ⟨up + 1, []⟩ := rfl
      rw [List.replicate_succ, List.foldl_cons, hstep, ih, Nat.add_right_comm, Nat.add_assoc]

/-- The way up `k` levels and down along names. -/
theorem way_climb {names : List Text} (hnames : ∀ n ∈ names, IsName n) (k : Nat) :
    way (List.replicate k "..".toList ++ names) = ⟨k, names⟩ := by
  rw [way, List.foldl_append, foldl_dots, foldl_names hnames]
  simp

theorem resolve_names {names : List Text} (hnames : ∀ n ∈ names, IsName n) (dir : List Text) :
    resolve dir names = dir ++ names := by
  have hway : way names = ⟨0, names⟩ := foldl_names hnames _
  rw [resolve_eq, hway]
  simp [Way.apply]

/-- What has been walked along are names. -/
theorem isName_resolve {dir segs : List Text} (hdir : ∀ n ∈ dir, IsName n)
    (hsegs : ∀ s ∈ segs, '/' ∉ s) : ∀ n ∈ resolve dir segs, IsName n := by
  induction segs generalizing dir with
  | nil => exact hdir
  | cons seg segs ih =>
      obtain ⟨hseg, hsegs⟩ := List.forall_mem_cons.mp hsegs
      refine ih ?_ hsegs
      unfold enter
      split
      · exact hdir
      · rename_i hkeep
        obtain ⟨hne, hdot⟩ := not_or.mp hkeep
        split
        · exact fun n hn => hdir n (List.dropLast_subset _ hn)
        · rename_i hdots
          intro n hn
          rcases List.mem_append.mp hn with hn | hn
          · exact hdir n hn
          · rw [List.mem_singleton.mp hn]
            exact ⟨hne, hdot, hdots, hseg⟩

/-! ## The text of a path -/

theorem slash_free_of_mem {s seg : Text} (h : seg ∈ segments s) : '/' ∉ seg := by
  intro hmem
  have hfree := @splitOnP_free (fun c => c == '/') _ _ h '/' hmem
  simp at hfree

def absolute (names : List Text) : Text := '/' :: ['/'].intercalate names

theorem segments_append_slash (s t : Text) :
    segments (s ++ '/' :: t) = segments s ++ segments t :=
  List.splitOn_append_cons_self s t

theorem segments_absolute {segs : List Text} (hsegs : ∀ s ∈ segs, '/' ∉ s) (hne : segs ≠ []) :
    segments (absolute segs) = [] :: segs := by
  have hsplit : segments (absolute segs) = [] :: segments (['/'].intercalate segs) :=
    segments_append_slash [] _
  rw [hsplit, segments, List.splitOn_intercalate '/' hsegs hne]

/-- Behind the last slash there is something. -/
theorem absolute_ne_slash {segs : List Text} (hsegs : ∀ s ∈ segs, '/' ∉ s) (hfull : [] ∉ segs)
    (hne : segs ≠ []) : (absolute segs).getLast? ≠ some '/' := by
  intro hlast
  obtain ⟨pre, hpre⟩ := List.getLast?_eq_some_iff.mp hlast
  have hsplit : segments (absolute segs) = segments pre ++ [[]] := by
    rw [hpre]
    exact segments_append_slash pre []
  rw [segments_absolute hsegs hne] at hsplit
  refine hfull ?_
  cases hp : segments pre with
  | nil => exact absurd hp (List.splitOn_ne_nil '/' pre)
  | cons a rest =>
      rw [hp, List.cons_append] at hsplit
      rw [(List.cons.inj hsplit).2]
      exact List.mem_append_right _ (List.mem_singleton_self _)

/-- A path is taken apart into its names. -/
theorem resolve_absolute {names : List Text} (hnames : ∀ n ∈ names, IsName n) :
    resolve [] (segments (absolute names)) = names := by
  by_cases hne : names = []
  · rw [hne]
    rfl
  · have hroot : resolve [] (segments (absolute names)) = resolve [] names := by
      rw [segments_absolute (fun n hn => (hnames n hn).free) hne]
      rfl
    rw [hroot, resolve_names hnames, List.nil_append]

theorem absolute_names_ne_slash {names : List Text} (hnames : ∀ n ∈ names, IsName n)
    (hne : names ≠ []) : (absolute names).getLast? ≠ some '/' :=
  absolute_ne_slash (fun n hn => (hnames n hn).free) (fun h => (hnames _ h).ne_nil rfl) hne

/-! ## node's `path` on absolute paths -/

/-- `normalize`: a slash at the end stays. -/
def normalize (s : Text) : Text :=
  let names := resolve [] (segments s)
  if names = [] then ['/']
  else if s.getLast? = some '/' then absolute names ++ ['/']
  else absolute names

/-- `join`: an empty argument is left out. -/
def join (dir file : Text) : Text := normalize (if file = [] then dir else dir ++ '/' :: file)

/-- `basename`: slashes at the end are not looked at. -/
def basename (s : Text) : Text := ((segments s).filter (· ≠ [])).getLast?.getD []

theorem basename_absolute {names : List Text} (hnames : ∀ n ∈ names, IsName n) (hne : names ≠ []) :
    basename (absolute names) = names.getLast?.getD [] := by
  have hkeep : names.filter (· ≠ []) = names :=
    List.filter_eq_self.mpr fun n hn => decide_eq_true (hnames n hn).ne_nil
  rw [basename, segments_absolute (fun n hn => (hnames n hn).free) hne,
    List.filter_cons_of_neg (by simp), hkeep]

section Join

variable {dir : List Text} (hdir : ∀ n ∈ dir, IsName n) (file : Text)
include hdir

theorem isName_way : ∀ n ∈ (way (segments file)).apply dir, IsName n := by
  rw [← resolve_eq]
  exact isName_resolve hdir fun _ => slash_free_of_mem

/-- Joined to a directory, a text is the way it leads from there. -/
theorem join_absolute : join (absolute dir) file =
    if (way (segments file)).apply dir = [] then ['/']
    else if file.getLast? = some '/' then absolute ((way (segments file)).apply dir) ++ ['/']
    else absolute ((way (segments file)).apply dir) := by
  rw [← resolve_eq]
  cases file with
  | nil =>
      have hstay : resolve dir (segments []) = dir := rfl
      rw [join, if_pos rfl, normalize, resolve_absolute hdir, hstay]
      split
      · rfl
      · rename_i hne
        rw [if_neg (absolute_names_ne_slash hdir hne), if_neg nofun]
  | cons c file =>
      have hlast : (absolute dir ++ '/' :: c :: file).getLast? = (c :: file).getLast? := by
        rw [List.getLast?_append_of_ne_nil _ (List.cons_ne_nil _ _), List.getLast?_cons_cons]
      rw [join, if_neg (List.cons_ne_nil _ _), normalize, segments_append_slash, resolve_append,
        resolve_absolute hdir, hlast]

end Join

end PathText
