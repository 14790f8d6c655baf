import EventScripts.Files.Request

/-!
# Files that are appended to

What a path leads to depends on the directories alone, and writing to a file makes none. So a file
that can be opened at its end once can be opened so again, at the same place. Each time its bytes
grow by what was written, and no other file changes. Where no file can be opened, nothing is.
-/

set_option autoImplicit false

namespace EventScripts

namespace FilePlace

/-- The places that a walk along names passes, with those where it begins and where it ends. -/
def passed : FilePlace → List Bytes → List FilePlace
  | p, [] => [p]
  | p, name :: rest => p :: (p.down name).passed rest

/-- The places on the way of a path. -/
def way (path : Bytes) : List FilePlace := (start path).passed (pathNames path)

/-- The place to which names lead is one of those that are passed on the way. -/
theorem foldl_mem_passed (p : FilePlace) (names : List Bytes) :
    names.foldl down p ∈ p.passed names := by
  induction names generalizing p with
  | nil => exact List.mem_singleton_self p
  | cons name rest ih => exact List.mem_cons_of_mem p (ih _)

/-- The way of a path ends at the place that it names. -/
theorem ofPath_mem_way (path : Bytes) : ofPath path ∈ way path :=
  foldl_mem_passed _ _

end FilePlace

namespace FileTree

variable {t t' opened : FileTree} {path : String} {place : FilePlace}

/-! ## The bytes of files -/

/-- To give a file its bytes makes no directory. -/
@[simp] theorem hasDirectory_put (t : FileTree) (place p : FilePlace) (bytes : Bytes) :
    (t.put place bytes).hasDirectory p = t.hasDirectory p := by
  unfold put
  split <;> rfl

/-- A file that was given its bytes has them, and every other file has those that it had. -/
theorem bytes?_put (t : FileTree) (place p : FilePlace) (bytes : Bytes) :
    (t.put place bytes).bytes? p = if p = place then some bytes else t.bytes? p := by
  unfold put
  cases hold : t.bytes? place with
  | some old =>
    -- The file is there, and its entry is replaced.
    have hsame : ((fun e : FilePlace × Bytes => e.1 == p) ∘
        fun (q, old) => if q == place then (q, bytes) else (q, old)) = fun e => e.1 == p := by
      funext ⟨q, old⟩
      dsimp only [Function.comp]
      split <;> rfl
    rw [Option.isSome_some, if_pos rfl]
    unfold bytes? at hold ⊢
    rw [List.find?_map, hsame]
    cases hfind : t.files.find? (·.1 == p) with
    | none =>
      rw [if_neg]
      · rfl
      · rintro rfl
        rw [hfind] at hold
        cases hold
    | some e =>
      obtain ⟨q, old⟩ := e
      have hq : q = p := by simpa using List.find?_some hfind
      subst hq
      by_cases hplace : q = place
      · simp [hplace]
      · simp [hplace]
  | none =>
    rw [Option.isSome_none, if_neg Bool.false_ne_true]
    unfold bytes? at hold ⊢
    rw [List.find?_append]
    by_cases hp : p = place
    · subst hp
      rw [Option.map_eq_none_iff] at hold
      simp [hold]
    · rw [if_neg hp]
      simp [Ne.symm hp]

/-! ## Where a path leads -/

/-- What is opened at the end of its bytes by a path, none if nothing can be. -/
def target? (t : FileTree) (path : String) : Option FileTarget :=
  (t.openAppend path).toOption.map (·.2)

/-- A walk that comes to its end ends where its names lead. -/
theorem walk_eq_ok {p q : FilePlace} {names : List Bytes} (h : t.walk p names = .ok q) :
    q = names.foldl .down p := by
  induction names generalizing p with
  | nil => cases h; rfl
  | cons name rest ih =>
    unfold walk at h
    split at h
    · cases h
    · split at h
      · cases h
      · exact ih h

/-- A path that is found leads to the place that it names. -/
theorem locate_eq_ok {path : Bytes} (h : t.locate path = .ok place) :
    place = .ofPath path := by
  unfold locate at h
  split at h
  · cases h
  · split at h
    · cases h
    · exact walk_eq_ok h

/-- Where a walk comes to its end depends on the directories that it passes. -/
theorem toOption_walk_congr {p : FilePlace} {names : List Bytes}
    (h : ∀ q ∈ p.passed names, t'.hasDirectory q = t.hasDirectory q) :
    (t'.walk p names).toOption = (t.walk p names).toOption := by
  induction names generalizing p with
  | nil => rfl
  | cons name rest ih =>
    obtain ⟨hp, hrest⟩ := List.forall_mem_cons.mp h
    unfold walk
    rw [hp]
    cases t.hasDirectory p with
    | false => rfl
    | true =>
      simp only [Bool.not_true, Bool.false_eq_true, if_false]
      split
      · rfl
      · exact ih hrest

/-- What is opened at a place depends on the directories. -/
theorem target_openAt (t : FileTree) (slash : Bool) (place : FilePlace) :
    (t.openAt .append slash place).toOption.map (·.2) =
      if t.hasDirectory place || slash then none
      else some (if place == fullDevice then .fullDevice else .file place) := by
  unfold openAt hasFile
  cases t.hasDirectory place with
  | true => rfl
  | false =>
    cases slash with
    | true =>
      simp only [Bool.false_eq_true, if_false, if_true, Bool.or_true]
      split <;> rfl
    | false =>
      cases place == fullDevice with
      | true => rfl
      | false =>
        simp only [Bool.false_or, Bool.or_self, Bool.false_eq_true, if_false]
        split <;> rfl

/-- What a path leads to depends on the directories on its way. -/
theorem target?_congr (h : ∀ q ∈ FilePlace.way (textBytes path),
      t'.hasDirectory q = t.hasDirectory q) :
    t'.target? path = t.target? path := by
  have hbind : ∀ s : FileTree, s.target? path = (s.locate (textBytes path)).toOption.bind
      fun place =>
        (s.openAt .append (asksDirectory (textBytes path)) place).toOption.map (·.2) := by
    intro s
    unfold target? openAppend openPath
    cases s.locate (textBytes path) <;> rfl
  have hlocate : (t'.locate (textBytes path)).toOption = (t.locate (textBytes path)).toOption := by
    unfold locate
    split
    · rfl
    · split
      · rfl
      · exact toOption_walk_congr h
  rw [hbind, hbind, hlocate]
  cases hplace : t.locate (textBytes path) with
  | error e => rfl
  | ok place =>
    have hend : place ∈ FilePlace.way (textBytes path) := by
      rw [locate_eq_ok hplace]
      exact FilePlace.ofPath_mem_way _
    change (t'.openAt .append (asksDirectory (textBytes path)) place).toOption.map (·.2) =
      (t.openAt .append (asksDirectory (textBytes path)) place).toOption.map (·.2)
    rw [target_openAt, target_openAt, h place hend]

/-- A path leads to a file at a place, or to where one can be made. -/
structure LeadsTo (t : FileTree) (path : String) (place : FilePlace) : Prop where
  locate : t.locate (textBytes path) = .ok place
  noDirectory : t.hasDirectory place = false
  noSlash : asksDirectory (textBytes path) = false
  accepts : place ≠ fullDevice

/-- A path that leads to a file is opened there; the file is made if there is none. -/
theorem openAppend_of_leadsTo (h : t.LeadsTo path place) :
    t.openAppend path =
      .ok (if (t.bytes? place).isSome then t else t.put place [], .file place) := by
  have hdevice : (place == fullDevice) = false := by simpa using h.accepts
  unfold openAppend openPath
  rw [h.locate]
  unfold Except.bind openAt hasFile
  simp only [h.noDirectory, h.noSlash, hdevice, Bool.false_or, Bool.false_eq_true, if_false]
  split <;> simp

/-- A file that is opened is one that the path leads to, and accepts what is written. -/
theorem leadsTo_of_target (h : t.target? path = some (.file place)) : t.LeadsTo path place := by
  unfold target? openAppend openPath at h
  cases hlocate : t.locate (textBytes path) with
  | error e =>
    rw [hlocate] at h
    cases h
  | ok q =>
    rw [hlocate] at h
    unfold Except.bind openAt at h
    dsimp only at h
    -- A directory or a slash at the end would have failed, and the full device is no file.
    split at h
    · cases h
    next hdirectory =>
      have hnoDirectory : t.hasDirectory q = false := by simpa using hdirectory
      split at h
      · split at h
        · cases h
        next hslash =>
          split at h
          · cases h
          next hdevice =>
            cases h
            exact ⟨hlocate, hnoDirectory, by simpa using hslash, by simpa using hdevice⟩
      next hfile =>
        split at h
        · rename_i hmode
          simp at hmode
        · split at h
          · cases h
          next hslash =>
            cases h
            refine ⟨hlocate, hnoDirectory, by simpa using hslash, fun hdevice => hfile ?_⟩
            simp [hasFile, hdevice]

/-- A path that leads to a file has it for its target. -/
theorem LeadsTo.target (h : t.LeadsTo path place) : t.target? path = some (.file place) := by
  unfold target?
  rw [openAppend_of_leadsTo h]
  rfl

/-- A path leads to the same file as long as the directories on its way stay. -/
theorem LeadsTo.of_directories (h : t.LeadsTo path place)
    (hsame : ∀ q ∈ FilePlace.way (textBytes path), t'.hasDirectory q = t.hasDirectory q) :
    t'.LeadsTo path place :=
  leadsTo_of_target ((target?_congr hsame).trans h.target)

/-- A file that can be opened is at the place that its path names. -/
theorem LeadsTo.place_eq (h : t.LeadsTo path place) : place = .ofPath (textBytes path) :=
  locate_eq_ok h.locate

/-! ## Writing at the end -/

/-- The tree after a text was to be written at the end of the file that a path leads to. -/
def written (t : FileTree) (path text : String) : FileTree :=
  match t.openAppend path with
  | .error _ => t
  | .ok (opened, target) => match opened.writeTo target none (textBytes text) with
    | .error _ => opened
    | .ok appended => appended

/-- To open what is no file changes no file. -/
theorem openAppend_of_no_file {target : FileTarget} (h : t.openAppend path = .ok (opened, target))
    (hfile : ∀ place, target ≠ .file place) : opened = t := by
  unfold openAppend openPath Except.bind openAt at h
  grind

/-- Where no file is opened, nothing is written. -/
theorem written_of_no_file (h : ∀ place, t.target? path ≠ some (.file place)) (text : String) :
    t.written path text = t := by
  unfold target? at h
  unfold written
  cases hopen : t.openAppend path with
  | error e => rfl
  | ok result =>
    obtain ⟨opened, target⟩ := result
    rw [hopen] at h
    have hfile : ∀ place, target ≠ .file place := fun place heq => h place (congrArg some heq)
    have hsame := openAppend_of_no_file hopen hfile
    cases target with
    | file place => exact absurd rfl (hfile place)
    | directory place => exact hsame
    | fullDevice => exact hsame

/-- What is written over nothing stands behind all that was there. -/
theorem overwritten_end (old new : Bytes) : overwritten old old.length new = old ++ new := by
  simp [overwritten]

/-- Where a path leads to a file, writing adds to the bytes of this file and changes nothing else;
the path leads there still. -/
theorem LeadsTo.written (h : t.LeadsTo path place) (text : String) :
    (t.written path text).LeadsTo path place ∧
    (∀ p, (t.written path text).hasDirectory p = t.hasDirectory p) ∧
    ∀ p, (t.written path text).bytes? p =
      if p = place then some ((t.bytes? p).getD [] ++ textBytes text) else t.bytes? p := by
  obtain ⟨made, hmade, hold, hdirectories, hothers⟩ : ∃ made,
      t.openAppend path = .ok (made, .file place) ∧
      made.bytes? place = some ((t.bytes? place).getD []) ∧
      (∀ p, made.hasDirectory p = t.hasDirectory p) ∧
      ∀ p, p ≠ place → made.bytes? p = t.bytes? p := by
    refine ⟨_, openAppend_of_leadsTo h, ?_⟩
    cases hbytes : t.bytes? place with
    | some old => exact ⟨hbytes, fun _ => rfl, fun _ _ => rfl⟩
    | none =>
      refine ⟨?_, fun p => hasDirectory_put _ _ p _, fun p hp => ?_⟩
      · rw [Option.isSome_none, if_neg Bool.false_ne_true, bytes?_put, if_pos rfl]
        rfl
      · rw [Option.isSome_none, if_neg Bool.false_ne_true, bytes?_put, if_neg hp]
  have hwritten : t.written path text =
      made.put place ((t.bytes? place).getD [] ++ textBytes text) := by
    unfold FileTree.written
    rw [hmade]
    unfold writeTo
    dsimp only
    rw [hold]
    dsimp only [Option.getD_none]
    rw [overwritten_end]
  have hsame : ∀ p, (t.written path text).hasDirectory p = t.hasDirectory p := by
    intro p
    rw [hwritten, hasDirectory_put, hdirectories]
  refine ⟨h.of_directories fun q _ => hsame q, hsame, fun p => ?_⟩
  rw [hwritten, bytes?_put]
  by_cases hp : p = place
  · rw [if_pos hp, if_pos hp, hp]
  · rw [if_neg hp, if_neg hp, hothers p hp]

end FileTree

end EventScripts
