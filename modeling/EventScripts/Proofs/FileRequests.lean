import Mathlib.Data.List.Find
import EventScripts.Proofs.AppendedFiles

/-!
# Requests that leave files alone

Some files may be private, as error logs are. A request leaves them alone if it is for nothing at
their places, does not pass through these, and does not remove or move what is on the way to them.

Trees that agree but for the private files answer such a request the same and agree still
afterwards. In each of them the private files have the bytes that they had, and the paths lead where
they led.
-/

set_option autoImplicit false

namespace EventScripts

/-! ## Places above others -/

namespace FilePlace

/-- A place is another one or lies above it. -/
def Above (d p : FilePlace) : Prop := p.absolute = d.absolute ∧ d.names <+: p.names

instance (d p : FilePlace) : Decidable (d.Above p) := inferInstanceAs (Decidable (_ ∧ _))

/-- What the program asks of two places is whether the one is the other or lies above it. -/
theorem above_iff {d p : FilePlace} : (p == d || p.within d) = true ↔ d.Above p := by
  unfold within Above
  constructor
  · intro h
    by_cases hp : p = d
    · rw [hp]
      exact ⟨rfl, List.prefix_rfl⟩
    · simpa [hp, and_assoc] using h
  · rintro ⟨habsolute, hnames⟩
    by_cases hp : p = d
    · simp [hp]
    · simp [hp, habsolute, hnames]

/-- What lies above a place that a walk passes was passed too, unless it lies above the place where
the walk began. -/
theorem Above.mem_passed {d p q : FilePlace} {names : List Bytes} (h : d.Above q)
    (hq : q ∈ p.passed names) : d ∈ p.passed names ∨ d.Above p := by
  induction names generalizing p with
  | nil =>
    rw [List.mem_singleton.mp hq] at h
    exact .inr h
  | cons name rest ih =>
    rcases List.mem_cons.mp hq with rfl | hq
    · exact .inr h
    rcases ih hq with hmem | ⟨habsolute, hnames⟩
    · exact .inl (List.mem_cons_of_mem p hmem)
    -- The next place lies one name below, and then it may be `d` itself, or it lies above.
    unfold down at habsolute hnames
    split at habsolute
    next hup =>
      rw [if_pos hup] at hnames
      exact .inr ⟨habsolute, hnames.trans (List.dropLast_prefix _)⟩
    next hdown =>
      rw [if_neg hdown] at hnames
      rcases List.prefix_concat_iff.mp hnames with heq | hprefix
      · have hd : d = p.down name := by
          unfold down
          rw [if_neg hdown]
          exact (FilePlace.mk.injEq ..).mpr ⟨habsolute.symm, heq⟩
        refine .inl (List.mem_cons_of_mem p ?_)
        rw [hd]
        cases rest <;> exact List.mem_cons_self
      · exact .inr ⟨habsolute, hprefix⟩

/-- What lies above a place on the way of a path is on the way too. -/
theorem Above.mem_way {d q : FilePlace} {path : Bytes} (h : d.Above q) (hq : q ∈ way path) :
    d ∈ way path := by
  rcases h.mem_passed hq with hmem | ⟨habsolute, hnames⟩
  · exact hmem
  · have hd : d = start path :=
      (FilePlace.mk.injEq ..).mpr ⟨habsolute.symm, List.prefix_nil.mp hnames⟩
    rw [hd]
    unfold way
    cases pathNames path <;> exact List.mem_cons_self

/-- A place that is not moved stays. -/
theorem moved_of_not_above {p source : FilePlace} (h : ¬ source.Above p) (target : FilePlace) :
    p.moved source target = p := by
  unfold moved
  rw [if_neg (mt above_iff.mp h)]

/-- A place that is moved lies below the target then, and is where it was when it is moved back. -/
theorem moved_of_above {p source : FilePlace} (h : source.Above p) (target : FilePlace) :
    target.Above (p.moved source target) ∧ (p.moved source target).moved target source = p := by
  obtain ⟨habsolute, rest, hrest⟩ := h
  have hmoved : p.moved source target = ⟨target.absolute, target.names ++ rest⟩ := by
    unfold moved
    rw [if_pos (above_iff.mpr ⟨habsolute, rest, hrest⟩), ← hrest, List.drop_left]
  have habove : target.Above (p.moved source target) := by
    rw [hmoved]
    exact ⟨rfl, rest, rfl⟩
  refine ⟨habove, ?_⟩
  rw [hmoved] at habove ⊢
  unfold moved
  rw [if_pos (above_iff.mpr habove), List.drop_left, hrest, ← habsolute]

/-- What was moved to a place is what was below the source, at the target, and all else that was not
at the target, elsewhere. -/
theorem moved_eq_iff {source target d p : FilePlace} (hd : ¬ target.Above d) :
    d.moved source target = p ↔
      if target.Above p then d = p.moved target source else ¬ source.Above p ∧ d = p := by
  split
  next hp =>
    constructor
    · rintro rfl
      by_cases hs : source.Above d
      · exact (moved_of_above hs target).2.symm
      · rw [moved_of_not_above hs] at hp
        exact absurd hp hd
    · rintro rfl
      exact (moved_of_above hp source).2
  next hp =>
    constructor
    · rintro rfl
      by_cases hs : source.Above d
      · exact absurd (moved_of_above hs target).1 hp
      · rw [moved_of_not_above hs]
        exact ⟨hs, rfl⟩
    · rintro ⟨hs, rfl⟩
      exact moved_of_not_above hs target

end FilePlace

open FilePlace

/-! ## Private files -/

/-- To go along a path does not meet the file at the other, nor is the place that it names on the
way to this file. -/
def FilePlace.Clear (path log : Bytes) : Prop := ofPath log ∉ way path ∧ ofPath path ∉ way log

instance (path log : Bytes) : Decidable (Clear path log) :=
  inferInstanceAs (Decidable (_ ∧ _))

/-- A request leaves the files at some paths alone. -/
def FileRequest.LeavesAlone (logs : List String) : FileRequest → Prop
  | .opening _ path => ∀ log ∈ logs, ofPath (textBytes log) ∉ way path
  | .reading target => ∀ log ∈ logs, target ≠ .file (ofPath (textBytes log))
  | .writing target _ _ => ∀ log ∈ logs, target ≠ .file (ofPath (textBytes log))
  | .removing path => ∀ log ∈ logs, Clear path (textBytes log)
  | .moving source target =>
    ∀ log ∈ logs, Clear source (textBytes log) ∧ Clear target (textBytes log)

instance (logs : List String) (q : FileRequest) : Decidable (q.LeavesAlone logs) := by
  cases q <;> exact List.decidableBAll _ _

namespace FileTree

variable {logs : List String} {t u v : FileTree}

/-- Trees with the same directories, and with the same files but for those at some paths. -/
structure AgreeBut (logs : List String) (t u : FileTree) : Prop where
  directories : ∀ p, u.hasDirectory p = t.hasDirectory p
  files : ∀ p, (∀ log ∈ logs, p ≠ ofPath (textBytes log)) → u.bytes? p = t.bytes? p

/-- From one tree to another, what the paths lead to is the same, and the files that they name have
the same bytes. -/
def Untouched (logs : List String) (t u : FileTree) : Prop :=
  ∀ log ∈ logs, u.target? log = t.target? log ∧
    u.bytes? (ofPath (textBytes log)) = t.bytes? (ofPath (textBytes log))

/-- A tree agrees with itself. -/
theorem AgreeBut.refl (logs : List String) (t : FileTree) : t.AgreeBut logs t :=
  ⟨fun _ => rfl, fun _ _ => rfl⟩

/-- Agreement but for private files goes both ways. -/
theorem AgreeBut.symm (h : t.AgreeBut logs u) : u.AgreeBut logs t :=
  ⟨fun p => (h.directories p).symm, fun p hp => (h.files p hp).symm⟩

/-- Trees that agree with the same tree agree. -/
theorem AgreeBut.trans (h : t.AgreeBut logs u) (h' : u.AgreeBut logs v) : t.AgreeBut logs v :=
  ⟨fun p => (h'.directories p).trans (h.directories p),
    fun p hp => (h'.files p hp).trans (h.files p hp)⟩

/-- The more files are private, the less has to agree. -/
theorem AgreeBut.mono {logs' : List String} (h : t.AgreeBut logs u)
    (hsub : ∀ log ∈ logs, log ∈ logs') : t.AgreeBut logs' u :=
  ⟨h.directories, fun p hp => h.files p fun log hlog => hp log (hsub log hlog)⟩

/-- What is written at the end of a file concerns this file. -/
theorem agreeBut_written (t : FileTree) (path text : String) :
    t.AgreeBut [path] (t.written path text) := by
  by_cases h : ∃ place, t.target? path = some (.file place)
  · obtain ⟨place, hplace⟩ := h
    have hleads := leadsTo_of_target hplace
    obtain ⟨-, hdirectories, hbytes⟩ := hleads.written text
    refine ⟨hdirectories, fun p hp => ?_⟩
    have hother : p ≠ place := fun heq =>
      hp path (List.mem_singleton_self path) (heq.trans hleads.place_eq)
    rw [hbytes, if_neg hother]
  · rw [written_of_no_file (not_exists.mp h)]
    exact .refl _ t

/-- What is not changed is untouched. -/
theorem Untouched.refl (logs : List String) (t : FileTree) : t.Untouched logs t :=
  fun _ _ => ⟨rfl, rfl⟩

/-- Private files that are left untouched twice are untouched. -/
theorem Untouched.trans (h : t.Untouched logs u) (h' : u.Untouched logs v) : t.Untouched logs v :=
  fun log hlog => ⟨(h' log hlog).1.trans (h log hlog).1, (h' log hlog).2.trans (h log hlog).2⟩

/-- Files are untouched if they have the bytes that they had and the directories on their ways are
as they were. -/
theorem untouched_of_ways
    (hways : ∀ log ∈ logs, ∀ q ∈ way (textBytes log), u.hasDirectory q = t.hasDirectory q)
    (hbytes : ∀ log ∈ logs, u.bytes? (ofPath (textBytes log)) = t.bytes? (ofPath (textBytes log))) :
    t.Untouched logs u :=
  fun log hlog => ⟨target?_congr (hways log hlog), hbytes log hlog⟩

/-- Two trees have become two others: these agree but for the private files, which are untouched. -/
structure Spared (logs : List String) (t a b : FileTree) : Prop where
  agree : a.AgreeBut logs b
  untouched : t.Untouched logs a

/-- A change of two trees was refused for the same reason, or was made in both. -/
inductive Alike (logs : List String) (t : FileTree) :
    Except FileError FileTree → Except FileError FileTree → Prop
  | refused (e : FileError) : Alike logs t (.error e) (.error e)
  | done {a b : FileTree} (h : Spared logs t a b) : Alike logs t (.ok a) (.ok b)

/-! ## What agreeing trees have in common -/

section

variable (h : t.AgreeBut logs u)

include h

/-- A request that changes nothing spares the private files. -/
theorem AgreeBut.spared : Spared logs t t u := ⟨h, .refl logs t⟩

/-- Trees that agree have a file at the same places, the private ones aside. -/
theorem AgreeBut.hasFile {p : FilePlace} (hp : ∀ log ∈ logs, p ≠ ofPath (textBytes log)) :
    u.hasFile p = t.hasFile p := by
  unfold FileTree.hasFile
  rw [h.files p hp]

/-- A walk that meets no private file comes to the same place in trees that agree. -/
theorem AgreeBut.walk {p : FilePlace} {names : List Bytes}
    (hclear : ∀ log ∈ logs, ofPath (textBytes log) ∉ p.passed names) :
    u.walk p names = t.walk p names := by
  induction names generalizing p with
  | nil => rfl
  | cons name rest ih =>
    have hp : ∀ log ∈ logs, p ≠ ofPath (textBytes log) :=
      fun log hlog heq => hclear log hlog (heq ▸ List.mem_cons_self)
    unfold FileTree.walk
    rw [h.directories p, h.hasFile hp,
      ih fun log hlog hmem => hclear log hlog (List.mem_cons_of_mem p hmem)]

/-- A path that does not meet the private files leads to the same place, or fails the same. -/
theorem AgreeBut.locate {path : Bytes}
    (hclear : ∀ log ∈ logs, ofPath (textBytes log) ∉ way path) :
    u.locate path = t.locate path := by
  unfold FileTree.locate
  rw [h.walk hclear]

/-- There is as much in a directory that is not above a private file. -/
theorem AgreeBut.hasWithin {place : FilePlace}
    (hclear : ∀ log ∈ logs, ¬ place.Above (ofPath (textBytes log))) :
    u.hasWithin place = t.hasWithin place := by
  have hdirectories : u.directories.any (·.within place) = t.directories.any (·.within place) := by
    rw [Bool.eq_iff_iff, List.any_eq_true, List.any_eq_true]
    have hmem : ∀ p, p ∈ u.directories ↔ p ∈ t.directories := fun p => by
      simpa [hasDirectory] using Bool.eq_iff_iff.mp (h.directories p)
    simp only [hmem]
  have hfile : ∀ s : FileTree, s.files.any (·.1.within place) = true ↔
      ∃ p, (s.bytes? p).isSome = true ∧ p.within place = true := by
    intro s
    rw [List.any_eq_true]
    constructor
    · rintro ⟨e, he, hwithin⟩
      refine ⟨e.1, ?_, hwithin⟩
      simpa [bytes?] using ⟨e.2, he⟩
    · rintro ⟨p, hsome, hwithin⟩
      obtain ⟨bytes, hmem⟩ : ∃ bytes, (p, bytes) ∈ s.files := by simpa [bytes?] using hsome
      exact ⟨(p, bytes), hmem, hwithin⟩
  have hfiles : u.files.any (·.1.within place) = t.files.any (·.1.within place) := by
    rw [Bool.eq_iff_iff, hfile, hfile]
    refine exists_congr fun p => ?_
    by_cases hwithin : p.within place = true
    · have habove : place.Above p := above_iff.mp (by simp [hwithin])
      rw [h.files p fun log hlog heq => hclear log hlog (heq ▸ habove)]
    · simp [hwithin]
  unfold FileTree.hasWithin
  rw [hdirectories, hfiles]

end

/-! ## Changes at one place -/

section

variable {place : FilePlace} (h : t.AgreeBut logs u)
  (hplace : ∀ log ∈ logs, place ≠ ofPath (textBytes log))

include h hplace

/-- Bytes that are given to a file elsewhere leave the private files alone. -/
theorem AgreeBut.put (bytes : Bytes) : Spared logs t (t.put place bytes) (u.put place bytes) := by
  refine ⟨⟨fun p => ?_, fun p hp => ?_⟩, untouched_of_ways (fun log _ q _ => ?_) fun log hlog => ?_⟩
  · rw [hasDirectory_put, hasDirectory_put, h.directories]
  · rw [bytes?_put, bytes?_put, h.files p hp]
  · rw [hasDirectory_put]
  · rw [bytes?_put, if_neg (hplace log hlog).symm]

/-- What is at a place elsewhere is opened the same, or is refused the same. -/
theorem AgreeBut.openAt (mode : FileMode) (slash : Bool) :
    (∃ e, t.openAt mode slash place = .error e ∧ u.openAt mode slash place = .error e) ∨
    ∃ a b target, t.openAt mode slash place = .ok (a, target) ∧
      u.openAt mode slash place = .ok (b, target) ∧ Spared logs t a b := by
  have hkept : ∀ target : FileTarget, ∃ a b target',
      (Except.ok (t, target) : Except FileError _) = .ok (a, target') ∧
      (Except.ok (u, target) : Except FileError _) = .ok (b, target') ∧ Spared logs t a b :=
    fun target => ⟨t, u, target, rfl, rfl, h.spared⟩
  have hput : ∃ a b target',
      (Except.ok (t.put place [], FileTarget.file place) : Except FileError _) = .ok (a, target') ∧
      (Except.ok (u.put place [], FileTarget.file place) : Except FileError _) = .ok (b, target') ∧
      Spared logs t a b :=
    ⟨_, _, _, rfl, rfl, h.put hplace []⟩
  unfold FileTree.openAt
  rw [h.directories, h.hasFile hplace]
  split
  · split
    · exact .inr (hkept _)
    · exact .inl ⟨_, rfl, rfl⟩
  · split
    · split
      · exact .inl ⟨_, rfl, rfl⟩
      · split
        · exact .inr (hkept _)
        · split
          · exact .inr hput
          · exact .inr (hkept _)
    · split
      · exact .inl ⟨_, rfl, rfl⟩
      · split
        · exact .inl ⟨_, rfl, rfl⟩
        · exact .inr hput

/-- Bytes are written to a file elsewhere in both trees, or in none. -/
theorem AgreeBut.writeTo (offset : Option Nat) (bytes : Bytes) :
    Alike logs t (t.writeTo (.file place) offset bytes) (u.writeTo (.file place) offset bytes) := by
  unfold FileTree.writeTo
  dsimp only
  rw [h.files place hplace]
  cases t.bytes? place with
  | none => exact .done h.spared
  | some old => exact .done (h.put hplace _)

end

/-! ## Removing -/

/-- The directories that are left when some of them are taken away. -/
theorem hasDirectory_filter (t : FileTree) (place p : FilePlace) :
    ({ t with directories := t.directories.filter (· ≠ place) } : FileTree).hasDirectory p =
      (t.hasDirectory p && p != place) := by
  unfold hasDirectory
  rw [Bool.eq_iff_iff]
  simp

/-- The files after some were taken away. -/
theorem bytes?_filter (t : FileTree) (keep : FilePlace → Bool) (p : FilePlace) :
    ({ t with files := t.files.filter fun e => keep e.1 } : FileTree).bytes? p =
      if keep p then t.bytes? p else none := by
  unfold bytes?
  rw [List.find?_filter]
  have hsame : (fun e : FilePlace × Bytes => decide (keep e.1 = true ∧ (e.1 == p) = true)) =
      fun e => keep p && e.1 == p := by
    funext e
    by_cases he : e.1 = p <;> simp [he]
  rw [hsame]
  cases keep p <;> simp

/-- What is at a place that is not on the way to a private file is removed the same, or not. -/
theorem AgreeBut.removeAt (h : t.AgreeBut logs u) {place : FilePlace}
    (hplace : ∀ log ∈ logs, place ∉ way (textBytes log)) (slash : Bool) :
    Alike logs t (t.removeAt slash place) (u.removeAt slash place) := by
  have hother : ∀ log ∈ logs, place ≠ ofPath (textBytes log) :=
    fun log hlog heq => hplace log hlog (heq ▸ ofPath_mem_way _)
  have hwithin : u.hasWithin place = t.hasWithin place :=
    h.hasWithin fun log hlog habove => hplace log hlog (habove.mem_way (ofPath_mem_way _))
  unfold FileTree.removeAt
  rw [h.directories, h.hasFile hother, hwithin]
  split
  · exact .refused _
  split
  · exact .refused _
  split
  · exact .refused _
  split
  · split
    · exact .refused _
    · refine .done ⟨⟨fun p => ?_, h.files⟩,
        untouched_of_ways (fun log hlog q hq => ?_) fun _ _ => rfl⟩
      · rw [hasDirectory_filter, hasDirectory_filter, h.directories]
      · have hq' : q ≠ place := fun heq => hplace log hlog (heq ▸ hq)
        rw [hasDirectory_filter, bne_iff_ne.mpr hq', Bool.and_true]
  split
  · split
    · exact .refused _
    · have hfiles : ∀ (s : FileTree) (p : FilePlace),
          ({ s with files := s.files.filter (·.1 ≠ place) } : FileTree).bytes? p =
            if decide (p ≠ place) then s.bytes? p else none :=
        fun s p => s.bytes?_filter (fun q => decide (q ≠ place)) p
      refine .done ⟨⟨h.directories, fun p hp => ?_⟩,
        untouched_of_ways (fun _ _ _ _ => rfl) fun log hlog => ?_⟩
      · rw [hfiles, hfiles, h.files p hp]
      · rw [hfiles, if_pos (decide_eq_true (hother log hlog).symm)]
  · exact .refused _

/-! ## Moving -/

section

variable {source target : FilePlace} (hempty : t.hasWithin target = false)

include hempty

/-- Where directories are after one was moved to a place with nothing in it. -/
theorem hasDirectory_moved (hapart : ¬ source.Above target) (files : List (FilePlace × Bytes))
    (p : FilePlace) :
    (⟨(t.directories.filter (· ≠ target)).map (·.moved source target), files⟩ :
        FileTree).hasDirectory p =
      if target.Above p then t.hasDirectory (p.moved target source)
      else !decide (source.Above p) && t.hasDirectory p := by
  have hbelow : ∀ d ∈ t.directories, d ≠ target → ¬ target.Above d := by
    intro d hd hne habove
    have hwithin : d.within target = true := by simpa [hne] using above_iff.mpr habove
    have hany : t.directories.any (·.within target) = true := List.any_eq_true.mpr ⟨d, hd, hwithin⟩
    unfold hasWithin at hempty
    rw [hany] at hempty
    cases hempty
  have hmem : (⟨(t.directories.filter (· ≠ target)).map (·.moved source target), files⟩ :
      FileTree).hasDirectory p = true ↔
        ∃ d ∈ t.directories, d ≠ target ∧ d.moved source target = p := by
    simp [hasDirectory, and_assoc]
  rw [Bool.eq_iff_iff, hmem]
  split
  next hp =>
    constructor
    · rintro ⟨d, hd, hne, hmoved⟩
      have hd' := (moved_eq_iff (hbelow d hd hne)).mp hmoved
      rw [if_pos hp] at hd'
      rw [← hd']
      simpa [hasDirectory] using hd
    · intro hd
      obtain ⟨habove, hback⟩ := moved_of_above hp source
      exact ⟨p.moved target source, by simpa [hasDirectory] using hd,
        fun heq => hapart (heq ▸ habove), hback⟩
  next hp =>
    have hne : p ≠ target := fun heq => hp (heq ▸ ⟨rfl, List.prefix_rfl⟩)
    constructor
    · rintro ⟨d, hd, hne, hmoved⟩
      have hd' := (moved_eq_iff (hbelow d hd hne)).mp hmoved
      rw [if_neg hp] at hd'
      obtain ⟨hsource, rfl⟩ := hd'
      simp [hsource, hasDirectory, hd]
    · intro hd
      obtain ⟨hsource, hd⟩ : ¬ source.Above p ∧ p ∈ t.directories := by
        simpa [hasDirectory] using hd
      exact ⟨p, hd, hne, moved_of_not_above hsource target⟩

/-- Where files are after a directory was moved to a place with nothing at it. -/
theorem bytes?_moved (hfree : t.hasFile target = false) (directories : List FilePlace)
    (p : FilePlace) :
    (⟨directories, t.files.map fun (q, bytes) => (q.moved source target, bytes)⟩ :
        FileTree).bytes? p =
      if target.Above p then t.bytes? (p.moved target source)
      else if source.Above p then none
      else t.bytes? p := by
  have hbelow : ∀ e ∈ t.files, ¬ target.Above e.1 := by
    intro e he habove
    by_cases hne : e.1 = target
    · have hsome : (t.bytes? target).isSome = true := by
        simpa [bytes?, ← hne] using ⟨e.2, he⟩
      simp [hasFile, hsome] at hfree
    · have hwithin : e.1.within target = true := by simpa [hne] using above_iff.mpr habove
      have hany : t.files.any (·.1.within target) = true := List.any_eq_true.mpr ⟨e, he, hwithin⟩
      unfold hasWithin at hempty
      rw [hany, Bool.or_true, Bool.true_or] at hempty
      cases hempty
  have hfind : (⟨directories, t.files.map fun (q, bytes) => (q.moved source target, bytes)⟩ :
      FileTree).bytes? p = (t.files.find? fun e => e.1.moved source target == p).map (·.2) := by
    unfold bytes?
    rw [List.find?_map, Option.map_map]
    rfl
  have hiff : ∀ e ∈ t.files, e.1.moved source target = p ↔
      if target.Above p then e.1 = p.moved target source else ¬ source.Above p ∧ e.1 = p :=
    fun e he => moved_eq_iff (hbelow e he)
  rw [hfind]
  split
  next hp =>
    simp only [if_pos hp] at hiff
    have hsame : t.files.find? (fun e => e.1.moved source target == p) =
        t.files.find? (·.1 == p.moved target source) :=
      List.find?_congr fun e he => Bool.eq_iff_iff.mpr (by simpa using hiff e he)
    rw [hsame]
    rfl
  next hp =>
    simp only [if_neg hp] at hiff
    split
    next hsource =>
      rw [List.find?_eq_none.mpr fun e he hmoved =>
        ((hiff e he).mp (by simpa using hmoved)).1 hsource]
      rfl
    next hsource =>
      have hsame : t.files.find? (fun e => e.1.moved source target == p) =
          t.files.find? (·.1 == p) :=
        List.find?_congr fun e he => Bool.eq_iff_iff.mpr (by simpa [hsource] using hiff e he)
      rw [hsame]
      rfl

end

/-- Where files are after one was moved to a place. -/
theorem bytes?_replaced (t : FileTree) {source target : FilePlace} (hne : source ≠ target)
    (bytes : Bytes) (p : FilePlace) :
    ({ t with files := (t.files.filter fun e => e.1 ≠ source && e.1 ≠ target) ++
        [(target, bytes)] } : FileTree).bytes? p =
      if p = target then some bytes else if p = source then none else t.bytes? p := by
  have hkept := t.bytes?_filter (fun q => decide (q ≠ source) && decide (q ≠ target)) p
  unfold bytes? at hkept ⊢
  rw [List.find?_append, Option.map_or, hkept]
  by_cases htarget : p = target
  · simp [htarget]
  · by_cases hsource : p = source
    · simp [hsource, hne, hne.symm]
    · simp [htarget, hsource, Ne.symm htarget]

/-- What is at a place is moved the same, or not, if neither place is on the way to a private
file. -/
theorem AgreeBut.renameAt (h : t.AgreeBut logs u) {source target : FilePlace}
    (hsource : ∀ log ∈ logs, source ∉ way (textBytes log))
    (htarget : ∀ log ∈ logs, target ∉ way (textBytes log)) :
    Alike logs t (t.renameAt source target) (u.renameAt source target) := by
  have hbelow : ∀ {place : FilePlace}, (∀ log ∈ logs, place ∉ way (textBytes log)) →
      ∀ log ∈ logs, ∀ q ∈ way (textBytes log), ¬ place.Above q :=
    fun hplace log hlog q hq habove => hplace log hlog (habove.mem_way hq)
  have hother : ∀ {place : FilePlace}, (∀ log ∈ logs, place ∉ way (textBytes log)) →
      ∀ log ∈ logs, place ≠ ofPath (textBytes log) :=
    fun hplace log hlog heq => hplace log hlog (heq ▸ ofPath_mem_way _)
  have hwithin : u.hasWithin target = t.hasWithin target :=
    h.hasWithin fun log hlog => hbelow htarget log hlog _ (ofPath_mem_way _)
  unfold FileTree.renameAt
  rw [h.directories, h.directories, h.hasFile (hother htarget), hwithin, h.files _ (hother hsource)]
  split
  · exact .done h.spared
  rename_i hne
  split
  · exact .refused _
  split
  · exact .refused _
  split
  · split
    · exact .refused _
    rename_i hinto
    split
    · exact .refused _
    rename_i hfree
    split
    · exact .refused _
    rename_i hempty
    -- A directory is moved, with all that is below it.
    have hapart : ¬ source.Above target := by
      intro habove
      have hor := above_iff.mpr habove
      simp [Ne.symm hne, hinto] at hor
    rw [Bool.not_eq_true] at hfree hempty
    have hfree' := (h.hasFile (hother htarget)).trans hfree
    have hempty' := hwithin.trans hempty
    refine .done ⟨⟨fun p => ?_, fun p hp => ?_⟩,
      untouched_of_ways (fun log hlog q hq => ?_) fun log hlog => ?_⟩
    · rw [hasDirectory_moved hempty hapart, hasDirectory_moved hempty' hapart, h.directories,
        h.directories]
    · rw [bytes?_moved hempty hfree, bytes?_moved hempty' hfree', h.files p hp]
      split
      next hp' =>
        refine h.files _ fun log hlog heq => ?_
        exact hbelow hsource log hlog _ (ofPath_mem_way _) (heq ▸ (moved_of_above hp' source).1)
      next => rfl
    · rw [hasDirectory_moved hempty hapart, if_neg (hbelow htarget log hlog q hq),
        decide_eq_false (hbelow hsource log hlog q hq), Bool.not_false, Bool.true_and]
    · rw [bytes?_moved hempty hfree, if_neg (hbelow htarget log hlog _ (ofPath_mem_way _)),
        if_neg (hbelow hsource log hlog _ (ofPath_mem_way _))]
  split
  · exact .refused _
  cases t.bytes? source with
  | none => exact .refused _
  | some bytes =>
    refine .done ⟨⟨h.directories, fun p hp => ?_⟩,
      untouched_of_ways (fun _ _ _ _ => rfl) fun log hlog => ?_⟩
    · rw [bytes?_replaced u hne, bytes?_replaced t hne, h.files p hp]
    · rw [bytes?_replaced t hne, if_neg (hother htarget log hlog).symm,
        if_neg (hother hsource log hlog).symm]

/-! ## Requests -/

section

variable (h : t.AgreeBut logs u)

include h

/-- What a path that is clear of the private files names is removed the same, or not. -/
theorem AgreeBut.remove {path : Bytes} (hclear : ∀ log ∈ logs, Clear path (textBytes log)) :
    Alike logs t (t.remove path) (u.remove path) := by
  unfold FileTree.remove
  rw [h.locate fun log hlog => (hclear log hlog).1]
  cases hplace : t.locate path with
  | error e => exact .refused e
  | ok place =>
    rw [locate_eq_ok hplace]
    exact h.removeAt (fun log hlog => (hclear log hlog).2) _

/-- What a path names is moved the same, or not, if both paths are clear of the private files. -/
theorem AgreeBut.rename {source target : Bytes}
    (hclear : ∀ log ∈ logs, Clear source (textBytes log) ∧ Clear target (textBytes log)) :
    Alike logs t (t.rename source target) (u.rename source target) := by
  have hsource : u.locate source = t.locate source :=
    h.locate fun log hlog => (hclear log hlog).1.1
  have htarget : u.locate target = t.locate target :=
    h.locate fun log hlog => (hclear log hlog).2.1
  unfold FileTree.rename
  rw [hsource, htarget]
  cases hfrom : t.locate source with
  | error e => exact .refused e
  | ok place =>
    have hplace : place = ofPath source := locate_eq_ok hfrom
    have hfile : u.hasFile place = t.hasFile place := h.hasFile fun log hlog heq =>
      (hclear log hlog).1.1 (heq ▸ hplace ▸ ofPath_mem_way source)
    simp only [Except.bind, bind, h.directories place, hfile]
    split
    · exact .refused _
    · cases hto : t.locate target with
      | error e => exact .refused e
      | ok place' =>
        dsimp only
        split
        · exact .refused _
        · rw [hplace, locate_eq_ok hto]
          exact h.renameAt (fun log hlog => (hclear log hlog).1.2)
            fun log hlog => (hclear log hlog).2.2

/-- A change that was made in both trees or in none is answered the same. -/
theorem AgreeBut.changed {x y : Except FileError FileTree} (hxy : Alike logs t x y) :
    (u.changed y).1 = (t.changed x).1 ∧ Spared logs t (t.changed x).2 (u.changed y).2 := by
  cases hxy with
  | refused e => exact ⟨rfl, h.spared⟩
  | done hspared => exact ⟨rfl, hspared⟩

/-- A request that leaves the private files alone is answered the same in trees that agree but for
them, and these agree still then. -/
theorem AgreeBut.serve {q : FileRequest} (hq : q.LeavesAlone logs) :
    (u.serve q).1 = (t.serve q).1 ∧ Spared logs t (t.serve q).2 (u.serve q).2 := by
  cases q with
  | opening mode path =>
    unfold FileTree.serve openPath
    dsimp only
    rw [h.locate hq]
    cases hplace : t.locate path with
    | error e => exact ⟨rfl, h.spared⟩
    | ok place =>
      have hother : ∀ log ∈ logs, place ≠ ofPath (textBytes log) := fun log hlog heq =>
        hq log hlog (heq ▸ locate_eq_ok hplace ▸ ofPath_mem_way path)
      dsimp only [Except.bind]
      rcases h.openAt hother mode (asksDirectory path) with
        ⟨e, ht, hu⟩ | ⟨a, b, target, ht, hu, hspared⟩
      · rw [ht, hu]
        exact ⟨rfl, h.spared⟩
      · rw [ht, hu]
        exact ⟨rfl, hspared⟩
  | reading target =>
    have hread : u.readFrom target = t.readFrom target := by
      cases target with
      | file place =>
        have hbytes := h.files place fun log hlog heq => hq log hlog (heq ▸ rfl)
        exact congrArg (fun bytes => Except.ok (bytes.getD [])) hbytes
      | directory place => rfl
      | fullDevice => rfl
    unfold FileTree.serve
    dsimp only
    rw [hread]
    cases t.readFrom target with
    | error e => exact ⟨rfl, h.spared⟩
    | ok bytes => exact ⟨rfl, h.spared⟩
  | writing target offset bytes =>
    refine h.changed ?_
    cases target with
    | file place => exact h.writeTo (fun log hlog heq => hq log hlog (heq ▸ rfl)) offset bytes
    | directory place => exact .refused _
    | fullDevice => exact .refused _
  | removing path => exact h.changed (h.remove hq)
  | moving source target => exact h.changed (h.rename hq)

end

/-! ## Requests in order -/

/-- Without requests nothing changes. -/
@[simp] theorem serveAll_nil (t : FileTree) : t.serveAll [] = t := by
  rfl

/-- Requests can be served in two parts. -/
theorem serveAll_append (t : FileTree) (first last : List FileRequest) :
    t.serveAll (first ++ last) = (t.serveAll first).serveAll last :=
  List.foldl_append

/-- Trees that agree but for the private files agree so after requests that leave these alone. -/
theorem AgreeBut.serveAll {requests : List FileRequest} (h : t.AgreeBut logs u)
    (hclear : ∀ q ∈ requests, q.LeavesAlone logs) :
    (t.serveAll requests).AgreeBut logs (u.serveAll requests) := by
  induction requests generalizing t u with
  | nil => exact h
  | cons q rest ih =>
    obtain ⟨hq, hrest⟩ := List.forall_mem_cons.mp hclear
    exact ih (h.serve hq).2.agree hrest

/-- Requests that leave the private files alone leave them untouched. -/
theorem untouched_serveAll {requests : List FileRequest}
    (h : ∀ q ∈ requests, q.LeavesAlone logs) (t : FileTree) :
    t.Untouched logs (t.serveAll requests) := by
  induction requests generalizing t with
  | nil => exact .refl logs t
  | cons q rest ih =>
    obtain ⟨hq, hrest⟩ := List.forall_mem_cons.mp h
    exact ((AgreeBut.refl logs t).serve hq).2.untouched.trans (ih hrest _)

end FileTree

end EventScripts
