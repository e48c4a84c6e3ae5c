import Mathlib
import BootSeal.Store
/-!
# Reading back what was written

Putting a file at a route changes no directory, so the path that led to the place of the file leads to
the file, and reading through it gives the content that was put there.
-/

namespace BootSeal

/-- A place at which a file can be put by its route. -/
def Place.IsFileAt (route : Route) : Place → Prop
  | .file r _ => r = route
  | .vacant r => r = route
  | _ => False

namespace Store

@[simp] theorem isDirectory_putFile (s : Store) (route : Route) (content : Bytes) (d : Route) :
    (s.putFile route content).isDirectory d = s.isDirectory d := by
  unfold isDirectory putFile
  split <;> rfl

theorem lookup_replaced (files : List (Route × Bytes)) (route : Route) (content : Bytes)
    (h : (files.lookup route).isSome) :
    (files.map fun f => if f.1 = route then (route, content) else f).lookup route =
      some content := by
  induction files with
  | nil => simp at h
  | cons f files ih =>
      obtain ⟨name, old⟩ := f
      rw [List.lookup_cons] at h
      rw [List.map_cons]
      by_cases hname : name = route
      · rw [if_pos hname, List.lookup_cons, beq_self_eq_true]
      · have hne : (route == name) = false := beq_false_of_ne (Ne.symm hname)
        rw [hne] at h
        rw [if_neg hname, List.lookup_cons, hne]
        exact ih h

@[simp] theorem file?_putFile (s : Store) (route : Route) (content : Bytes) :
    (s.putFile route content).file? route = some content := by
  unfold putFile
  split
  next hold => exact lookup_replaced s.files route content hold
  next hnew =>
    have hnone : s.files.lookup route = none := Option.not_isSome_iff_eq_none.mp hnew
    simp [file?, List.lookup_append, hnone]

/-- Of two files that are put at one route the second is left. -/
theorem putFile_putFile (s : Store) (route : Route) (old content : Bytes) :
    (s.putFile route old).putFile route content = s.putFile route content := by
  have hthere : ((s.putFile route old).file? route).isSome := by
    rw [file?_putFile]
    rfl
  conv_lhs => rw [putFile, if_pos hthere]
  unfold putFile
  split
  next =>
    congr 1
    dsimp only
    rw [List.map_map]
    apply List.map_congr_left
    intro f _
    by_cases hroute : f.1 = route <;> simp [hroute]
  next hnew =>
    have hnone : s.files.lookup route = none := Option.not_isSome_iff_eq_none.mp hnew
    have hother : ∀ f ∈ s.files, f.1 ≠ route := by
      intro f hf hroute
      have hbeq := List.lookup_eq_none_iff.mp hnone f hf
      simp [hroute] at hbeq
    congr 1
    dsimp only
    rw [List.map_append, List.map_singleton, if_pos rfl]
    congr 1
    calc (s.files.map fun f => if f.1 = route then (route, content) else f)
        = s.files.map id := List.map_congr_left fun f hf => if_neg (hother f hf)
      _ = s.files := List.map_id _

/-- After a file is put at the end of a walk, the walk leads to it. -/
theorem walk_putFile {s : Store} {path : String} {start route : Route} {names : List String}
    {place : Place} (h : s.walk path start names = .ok place) (hplace : place.IsFileAt route)
    (content : Bytes) :
    (s.putFile route content).walk path start names = .ok (.file route content) := by
  induction names generalizing start with
  | nil =>
      cases h
      exact hplace.elim
  | cons name rest ih =>
      rw [walk] at h ⊢
      by_cases hdot : name = "."
      · rw [if_pos hdot] at h ⊢
        exact ih h
      rw [if_neg hdot] at h ⊢
      by_cases hup : name = ".."
      · rw [if_pos hup] at h ⊢
        exact ih h
      rw [if_neg hup] at h ⊢
      dsimp only at h ⊢
      rw [isDirectory_putFile]
      by_cases hdirectory : s.isDirectory (start ++ [name]) = true
      · rw [if_pos hdirectory] at h ⊢
        exact ih h
      rw [if_neg hdirectory] at h ⊢
      -- Only the last name of a path can be a file, so this is where the file was put.
      have hlast : rest = [] ∧ start ++ [name] = route := by
        split at h
        next =>
          cases h
          exact ⟨rfl, hplace⟩
        next => cases h
        next =>
          cases h
          exact ⟨rfl, hplace⟩
        next => cases h
      obtain ⟨rfl, rfl⟩ := hlast
      rw [file?_putFile]

theorem locate_putFile {s : Store} {path : String} {route : Route} {place : Place}
    (h : s.locate path = .ok place) (hplace : place.IsFileAt route) (content : Bytes) :
    (s.putFile route content).locate path = .ok (.file route content) := by
  unfold locate at h ⊢
  by_cases hempty : path = ""
  · rw [if_pos hempty] at h
    cases h
  rw [if_neg hempty] at h ⊢
  by_cases hsink : path = "/dev/null"
  · rw [if_pos hsink] at h
    cases h
    exact hplace.elim
  rw [if_neg hsink] at h ⊢
  by_cases hfull : path = "/dev/full"
  · rw [if_pos hfull] at h
    cases h
    exact hplace.elim
  rw [if_neg hfull] at h ⊢
  exact walk_putFile h hplace content

theorem fileTarget_eq_ok {path : String} {r route : Route}
    (h : fileTarget path r = .ok (.regular route)) : meansDirectory path = false ∧ r = route := by
  unfold fileTarget at h
  cases hslash : meansDirectory path with
  | true =>
      rw [hslash, if_pos rfl] at h
      cases h
  | false =>
      rw [hslash, if_neg Bool.false_ne_true] at h
      cases h
      exact ⟨rfl, rfl⟩

/-- A regular file for writing is at the end of the path, whether it is there already or not. -/
theorem target_eq_regular {s : Store} {path : String} {route : Route}
    (h : s.target path = .ok (.regular route)) :
    meansDirectory path = false ∧ ∃ place, s.locate path = .ok place ∧ place.IsFileAt route := by
  unfold target at h
  split at h
  next => cases h
  next => cases h
  next r _ hlocate =>
    obtain ⟨hslash, hroute⟩ := fileTarget_eq_ok h
    exact ⟨hslash, _, hlocate, hroute⟩
  next r hlocate =>
    obtain ⟨hslash, hroute⟩ := fileTarget_eq_ok h
    exact ⟨hslash, _, hlocate, hroute⟩
  next => cases h
  next => cases h

/-- What is put where a path leads to can be read at the same path. -/
theorem read_putFile {s : Store} {path : String} {route : Route}
    (h : s.target path = .ok (.regular route)) (content : Bytes) :
    (s.putFile route content).read path = .ok content := by
  obtain ⟨hslash, place, hlocate, hplace⟩ := target_eq_regular h
  rw [read, locate_putFile hlocate hplace, hslash]
  rfl

end Store

end BootSeal
