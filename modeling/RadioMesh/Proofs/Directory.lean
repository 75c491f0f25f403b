import RadioMesh.Directory

/-!
# Storing and finding files

A path that leads to a file, or to a place where a file can be made, leads to the
file with its new content once something was stored there.
-/

namespace RadioMesh

/-- The place where a target keeps a file, or could. -/
def Target.place? : Target → Option Place
  | file place _ => some place
  | free place => some place
  | folder => none
  | missingFolder _ => none

namespace Directory

/-- The content of the file to which a path leads.  Where there is no file, there
are no bytes. -/
def contentAt (directory : Directory) (path : String) : Bytes :=
  match directory.locate path with
  | .ok (.file _ content) => content
  | _ => []

def HasFile (directory : Directory) (path : String) : Prop :=
  ∃ place content, directory.locate path = .ok (.file place content)

theorem lookup_cons_eq_ite (other : Place) (file : Place × Bytes)
    (files : List (Place × Bytes)) :
    (file :: files).lookup other =
      if other = file.1 then some file.2 else files.lookup other := by
  obtain ⟨place, content⟩ := file
  by_cases same : other = place
  · simp [same]
  · simp [List.lookup_cons, same, beq_eq_false_iff_ne.mpr same]

theorem lookup_storeIn (place other : Place) (content : Bytes) (files : List (Place × Bytes)) :
    (storeIn place content files).lookup other =
      if other = place then some content else files.lookup other := by
  induction files with
  | nil => exact lookup_cons_eq_ite other (place, content) []
  | cons file files ih =>
      unfold storeIn
      by_cases first : file.1 = place
      · by_cases same : other = place <;> simp [lookup_cons_eq_ite, first, same]
      · by_cases same : other = place
        · have different : other ≠ file.1 := fun equal => first (equal.symm.trans same)
          rw [if_neg first, lookup_cons_eq_ite, if_neg different, ih]
          simp [same]
        · simp [lookup_cons_eq_ite, ih, first, same]

theorem place?_of_beyond {names : List String} {reason : IoFailure} {target : Target}
    (found : beyond names reason = .ok target) : target.place? = none := by
  unfold beyond at found
  split at found
  · cases found
    rfl
  · cases found

/-- The names on the way to a place are followed as before when a file is stored
there. -/
theorem follow_store {directory : Directory} {here place : Place} {names : List String}
    {target : Target} (found : directory.follow here names = .ok target)
    (possible : target.place? = some place) (content : Bytes) :
    (directory.store place content).follow here names = .ok (.file place content) := by
  induction names generalizing here with
  | nil =>
      cases found
      cases possible
  | cons name rest ih =>
      unfold follow at found ⊢
      by_cases stays : name = "" ∨ name = "."
      · rw [if_pos stays] at found ⊢
        exact ih found
      rw [if_neg stays] at found ⊢
      by_cases climbs : name = ".."
      · rw [if_pos climbs] at found ⊢
        exact ih found
      rw [if_neg climbs] at found ⊢
      -- Storing changes no folder, and only the last name can lead to a place.
      by_cases enters : directory.folders.contains (here ++ [name]) = true
      · simp only [enters, store, if_true] at found ⊢
        exact ih found
      simp only [enters, store, lookup_storeIn, Bool.false_eq_true, if_false] at found ⊢
      cases kept : directory.files.lookup (here ++ [name]) with
      | some old =>
          simp only [kept] at found
          by_cases last : rest.isEmpty = true
          · rw [if_pos last] at found
            cases found
            cases possible
            simp [last]
          · rw [if_neg last] at found
            rw [place?_of_beyond found] at possible
            cases possible
      | none =>
          simp only [kept] at found
          by_cases last : rest.isEmpty = true
          · simp only [last, if_true] at found ⊢
            split at found
            · cases found
            · cases found
              cases possible
              simp
          · simp only [last, Bool.false_eq_true, if_false] at found
            have nowhere : target.place? = none := by
              split at found
              · exact place?_of_beyond found
              · exact place?_of_beyond found
            rw [nowhere] at possible
            cases possible

theorem locate_store {directory : Directory} {path : String} {place : Place} {target : Target}
    (found : directory.locate path = .ok target) (possible : target.place? = some place)
    (content : Bytes) :
    (directory.store place content).locate path = .ok (.file place content) := by
  unfold locate at found ⊢
  by_cases empty : path.isEmpty = true
  · rw [if_pos empty] at found
    cases found
  rw [if_neg empty] at found ⊢
  by_cases zero : path.toList.contains '\x00' = true
  · rw [if_pos zero] at found
    cases found
  rw [if_neg zero] at found ⊢
  by_cases long : pathLimit < path.utf8ByteSize
  · rw [if_pos long] at found
    cases found
  rw [if_neg long] at found ⊢
  exact follow_store found possible content

theorem contentAt_of_locate {directory : Directory} {path : String} {place : Place}
    {content : Bytes} (found : directory.locate path = .ok (.file place content)) :
    directory.contentAt path = content := by
  simp [contentAt, found]

theorem hasFile_of_contentAt_ne_nil {directory : Directory} {path : String}
    (content : directory.contentAt path ≠ []) : directory.HasFile path := by
  unfold contentAt at content
  split at content
  · next place held found => exact ⟨place, held, found⟩
  · exact absurd rfl content

/-- A file can be opened for appending where it is or can be made. -/
theorem locate_of_openForAppending {directory : Directory} {path : String} {place : Place}
    {content : Bytes} (opened : directory.openForAppending path = .ok (place, content)) :
    directory.contentAt path = content ∧
      ∃ target, directory.locate path = .ok target ∧ target.place? = some place := by
  unfold openForAppending at opened
  split at opened
  · next found =>
      cases opened
      exact ⟨contentAt_of_locate found, _, found, rfl⟩
  · next found =>
      cases opened
      exact ⟨by simp [contentAt, found], _, found, rfl⟩
  all_goals cases opened

/-- What is stored in a file that was opened for appending is found there. -/
theorem locate_store_of_openForAppending {directory : Directory} {path : String}
    {place : Place} {old : Bytes}
    (opened : directory.openForAppending path = .ok (place, old)) (content : Bytes) :
    (directory.store place content).locate path = .ok (.file place content) := by
  obtain ⟨_, target, found, possible⟩ := locate_of_openForAppending opened
  exact locate_store found possible content

end Directory

end RadioMesh
