/-
**What writing a file changes.**

A file is written where its path leads: over the file that is there, or where there is nothing in a
directory that exists.  Afterwards the path leads to the text, all other files are as they were, and
no directory has come or gone.

Main definitions:

* `Files.Directory`, `Files.LeadsTo` — a path leads to a directory, to where a file is or may be;
* `Files.Written` — the files after a text is written by a path.

Main results:

* `Files.follow_put` — a path still leads to where a file is created, once it is there;
* `Files.written_of_create` — **creating a file by a path writes it and changes nothing else**.
-/

import DataSheet.Files
import Mathlib.Data.List.Induction
import Mathlib.Data.List.Infix

set_option relaxedAutoImplicit false
set_option autoImplicit false

namespace DataSheet

/-- A file with this route is at the place, or may be created there. -/
def Place.Open (route : Route) : Place → Prop
  | .directory _ => False
  | .file r _ => r = route
  | .vacant r => r = some route

namespace Files

variable {fs : Files} {route r : Route} {content : ByteArray} {path : String}

/-! ### Where paths lead -/

/-- The path leads to a directory. -/
def Directory (fs : Files) (path : String) : Prop :=
  ∃ route, fs.locate path = .ok (.directory route)

/-- The path leads to where a file is, or to where there is nothing in a directory that exists. -/
def LeadsTo (fs : Files) (path : String) (route : Route) : Prop :=
  ∃ place, fs.locate path = .ok place ∧ place.Open route

/-- The files after a text is written by a path: it is what the path leads to, and everything else
is as it was. -/
structure Written (before : Files) (path content : String) (after : Files) : Prop where
  directories : after.directories = before.directories
  others : ∀ route, ¬ before.LeadsTo path route → after.file? route = before.file? route
  file : ∀ route, before.LeadsTo path route → after.file? route = some ⟨route, content.toUTF8⟩
  read : ∀ route, before.LeadsTo path route → after.read path = .ok content

/-! ### One file put in its place -/

theorem file?_put (fs : Files) (route : Route) (content : ByteArray) (r : Route) :
    (fs.put route content).file? r = if r = route then some ⟨route, content⟩ else fs.file? r := by
  unfold put file?
  rw [List.find?_cons]
  by_cases h : r = route
  · simp [h]
  · rw [if_neg h]
    have hne : (route = r) = False := eq_false (Ne.symm h)
    simp only [hne, decide_false]
    rw [List.find?_filter]
    congr 1
    funext f
    by_cases hf : f.route = r
    · simp [hf, h]
    · simp [hf]

/-- What holds a directory is a directory. -/
theorem hasDirectory_of_isPrefix (h : fs.hasDirectory route) (hr : r <+: route) :
    fs.hasDirectory r := by
  unfold hasDirectory at h ⊢
  simp only [Bool.or_eq_true, beq_iff_eq, List.any_eq_true, Bool.and_eq_true, bne_iff_ne,
    List.isPrefixOf_iff_prefix] at h ⊢
  rcases h with (rfl | ⟨d, hd, hroute⟩) | ⟨f, hf, hroute, hne⟩
  · exact .inl (.inl (List.prefix_nil.1 hr))
  · exact .inl (.inr ⟨d, hd, hr.trans hroute⟩)
  · refine .inr ⟨f, hf, hr.trans hroute, ?_⟩
    rintro rfl
    exact hne (hroute.eq_of_length_le hr.length_le).symm

/-! ### Paths to the file that is put -/

/-- All that the route goes through are directories. -/
def Rooted (fs : Files) (route : Route) : Prop := ∀ r, r <+: route → r ≠ route → fs.hasDirectory r

theorem rooted_concat (h : fs.hasDirectory route) (part : String) :
    fs.Rooted (route ++ [part]) := by
  intro r hr hne
  exact hasDirectory_of_isPrefix h ((List.prefix_concat_iff.1 hr).resolve_left hne)

/-- What is put in a directory leaves all other names there as they are. -/
theorem lookUp_put_of_ne (hroute : fs.Rooted route) (hne : r ≠ route) :
    (fs.put route content).lookUp r = fs.lookUp r := by
  have hdirectory : (fs.put route content).hasDirectory r = fs.hasDirectory r := by
    rw [Bool.eq_iff_iff]
    constructor
    · intro h
      by_cases hr : r <+: route
      · exact hroute r hr hne
      · unfold hasDirectory put at h
        unfold hasDirectory
        simp only [Bool.or_eq_true, List.any_cons, List.any_filter, List.any_eq_true,
          Bool.and_eq_true, List.isPrefixOf_iff_prefix, hr, false_and, false_or] at h ⊢
        rcases h with h | ⟨f, hf, -, h⟩
        · exact .inl h
        · exact .inr ⟨f, hf, h⟩
    · intro h
      unfold hasDirectory at h
      unfold hasDirectory put
      simp only [Bool.or_eq_true, List.any_cons, List.any_filter, List.any_eq_true,
        Bool.and_eq_true, List.isPrefixOf_iff_prefix, bne_iff_ne, decide_eq_true_eq] at h ⊢
      rcases h with h | ⟨f, hf, hr, hfr⟩
      · exact .inl h
      · by_cases hfroute : f.route = route
        · exact .inr (.inl ⟨hfroute ▸ hr, Ne.symm hne⟩)
        · exact .inr (.inr ⟨f, hf, hfroute, hr, hfr⟩)
  unfold lookUp
  rw [file?_put, if_neg hne, hdirectory]

theorem lookUp_put (fs : Files) (route : Route) (content : ByteArray) :
    (fs.put route content).lookUp route = .file route content := by
  unfold lookUp
  rw [file?_put, if_pos rfl]

/-- A step succeeds from directories only. -/
theorem exists_directory_of_step {place place' : Place} {part : String}
    (h : fs.step place part = .ok place') : ∃ r, place = .directory r := by
  cases place with
  | directory r => exact ⟨r, rfl⟩
  | file r c => cases h
  | vacant r => cases h

/-- A place that is a directory below the working directory is one of its directories. -/
def Present (fs : Files) (place : Place) : Prop :=
  ∀ r, place = .directory (some r) → fs.hasDirectory r

theorem present_lookUp (fs : Files) (r : Route) : fs.Present (fs.lookUp r) := by
  intro s h
  unfold lookUp at h
  split at h
  · cases h
  · split at h
    next hr =>
      cases h
      exact hr
    · cases h

theorem Present.step {place place' : Place} {part : String} (hplace : fs.Present place)
    (h : fs.step place part = .ok place') : fs.Present place' := by
  obtain ⟨d, rfl⟩ := exists_directory_of_step h
  unfold Files.step at h
  dsimp only at h
  split at h
  · cases h
    exact hplace
  · split at h
    · split at h
      · cases h
        nofun
      · cases h
        nofun
      next r _ =>
        cases h
        rintro _ ⟨⟩
        exact hasDirectory_of_isPrefix (hplace r rfl) (List.dropLast_prefix r)
    · split at h
      · cases h
      · split at h
        · cases h
          nofun
        · cases h
          exact present_lookUp fs _

/-- Where a step ends at an open place, this is a name in a directory. -/
theorem lookUp_of_step {d : Option Route} {part : String} {place : Place}
    (h : fs.step (.directory d) part = .ok place) (hopen : place.Open route) :
    ∃ r, d = some r ∧ route = r ++ [part] ∧ place = fs.lookUp route ∧
      ∀ gs : Files, gs.step (.directory d) part = .ok (gs.lookUp route) := by
  unfold Files.step at h
  dsimp only at h
  split at h
  · cases h
    cases hopen
  next hidle =>
    split at h
    · split at h <;> cases h <;> cases hopen
    next hup =>
      split at h
      · cases h
      next hlong =>
        split at h
        · cases h
          cases hopen
        next r =>
          have hroute : route = r ++ [part] := by
            cases h
            unfold lookUp at hopen
            split at hopen
            · exact hopen.symm
            · split at hopen
              · cases hopen
              · exact (Option.some.inj hopen).symm
          cases h
          subst hroute
          refine ⟨r, rfl, rfl, rfl, fun gs => ?_⟩
          simp only [Files.step, if_neg hidle, if_neg hup, if_neg hlong]

/-- A step between directories is the same with a file put where none of them is. -/
theorem step_put {d d' : Option Route} {part : String} (hroute : fs.Rooted route)
    (hnone : ∀ e, fs.lookUp route ≠ .directory e)
    (h : fs.step (.directory d) part = .ok (.directory d')) :
    (fs.put route content).step (.directory d) part = .ok (.directory d') := by
  unfold Files.step at h ⊢
  dsimp only at h ⊢
  split
  next hidle => rwa [if_pos hidle] at h
  next hidle =>
    rw [if_neg hidle] at h
    split
    next hup => rwa [if_pos hup] at h
    next hup =>
      rw [if_neg hup] at h
      split
      next hlong => rwa [if_pos hlong] at h
      next hlong =>
        rw [if_neg hlong] at h
        cases d with
        | none => exact h
        | some r =>
            have hlook : fs.lookUp (r ++ [part]) = .directory d' := Except.ok.inj h
            have hne : r ++ [part] ≠ route := by
              rintro rfl
              exact hnone _ hlook
            rw [← hlook, ← lookUp_put_of_ne hroute hne]

/-- A way that ends in a directory has its last step from a directory. -/
theorem foldlM_step_concat {parts : List String} {part : String} {start place : Place}
    (h : (parts ++ [part]).foldlM fs.step start = .ok place) :
    ∃ d, parts.foldlM fs.step start = .ok (.directory d) ∧
      fs.step (.directory d) part = .ok place := by
  rw [List.foldlM_append] at h
  cases hq : parts.foldlM fs.step start with
  | error f =>
      rw [hq] at h
      cases h
  | ok q =>
      rw [hq] at h
      have hstep : fs.step q part = .ok place := by
        change fs.step q part >>= pure = .ok place at h
        rwa [bind_pure] at h
      obtain ⟨d, rfl⟩ := exists_directory_of_step hstep
      exact ⟨d, rfl, hstep⟩

theorem present_foldlM {parts : List String} {start place : Place} (hstart : fs.Present start)
    (h : parts.foldlM fs.step start = .ok place) : fs.Present place := by
  induction parts using List.reverseRecOn generalizing place with
  | nil =>
      cases h
      exact hstart
  | append_singleton parts part ih =>
      obtain ⟨d, hd, hstep⟩ := foldlM_step_concat h
      exact (ih hd).step hstep

theorem foldlM_step_put {parts : List String} {start : Place} {d : Option Route}
    (hroute : fs.Rooted route) (hnone : ∀ e, fs.lookUp route ≠ .directory e)
    (h : parts.foldlM fs.step start = .ok (.directory d)) :
    parts.foldlM (fs.put route content).step start = .ok (.directory d) := by
  induction parts using List.reverseRecOn generalizing d with
  | nil => exact h
  | append_singleton parts part ih =>
      obtain ⟨e, he, hstep⟩ := foldlM_step_concat h
      rw [List.foldlM_append, ih he]
      change (fs.put route content).step (.directory e) part >>= pure = _
      rw [step_put hroute hnone hstep]
      rfl

/-- **A path still leads to an open place once there is a file.** -/
theorem follow_put {p : Path} {place : Place} (h : fs.follow p = .ok place)
    (hopen : place.Open route) :
    (fs.put route content).follow p = .ok (.file route content) := by
  unfold follow at h ⊢
  have hstart : fs.Present (.directory (if p.absolute then none else some [])) := by
    intro r hr
    split at hr
    · cases hr
    · cases hr
      rfl
  induction hparts : p.parts using List.reverseRecOn with
  | nil =>
      rw [hparts] at h
      cases h
      cases hopen
  | append_singleton parts part =>
      rw [hparts] at h
      obtain ⟨d, hd, hstep⟩ := foldlM_step_concat h
      obtain ⟨r, rfl, hroute, hplace, hlast⟩ := lookUp_of_step hstep hopen
      have hrooted : fs.Rooted route := by
        rw [hroute]
        exact rooted_concat (present_foldlM hstart hd r rfl) part
      have hnone : ∀ e, fs.lookUp route ≠ .directory e := by
        intro e he
        rw [hplace, he] at hopen
        cases hopen
      rw [List.foldlM_append, foldlM_step_put hrooted hnone hd]
      change (fs.put route content).step (.directory (some r)) part >>= pure = _
      rw [hlast, lookUp_put]
      rfl

/-! ### Creating a file -/

/-- A file is created where its path leads. -/
theorem locate_of_creationSite {site : Option Route} (h : fs.creationSite path = .ok site) :
    ∃ place, fs.locate path = .ok place ∧ ∀ route, place.Open route ↔ site = some route := by
  unfold creationSite at h
  unfold locate
  split at h
  · cases h
  next hfault =>
    dsimp only at h
    split at h
    · -- a path with a slash at its end leads to no file
      split at h <;> cases h
    · split at h
      · cases h
      · cases h
      next route old hfile =>
        cases h
        exact ⟨_, hfile, fun r => by simp [Place.Open]⟩
      next r hvacant =>
        cases h
        exact ⟨_, hvacant, fun route => by simp [Place.Open]⟩

theorem read_of_locate {text : String}
    (h : fs.locate path = .ok (.file route text.toUTF8)) : fs.read path = .ok text := by
  have htext : String.fromUTF8? text.toUTF8 = some text := dif_pos text.isValidUTF8
  unfold read
  rw [h]
  simp only [htext]

/-- **Creating a file by a path writes it and changes nothing else.** -/
theorem written_of_create {before after : Files} {text : String}
    (h : before.create path text = .ok after) : before.Written path text after := by
  unfold create at h
  cases hsite : before.creationSite path with
  | error f =>
      rw [hsite] at h
      cases h
  | ok site =>
      obtain ⟨place, hplace, hopen⟩ := locate_of_creationSite hsite
      have hleads : ∀ route, before.LeadsTo path route ↔ site = some route := by
        intro route
        rw [← hopen]
        constructor
        · rintro ⟨place', hplace', hroute⟩
          rwa [Except.ok.inj (hplace.symm.trans hplace')]
        · exact fun hroute => ⟨place, hplace, hroute⟩
      rw [hsite] at h
      cases site with
      | none =>
          cases h
          exact ⟨rfl, fun _ _ => rfl, fun r hr => absurd ((hleads r).1 hr) nofun,
            fun r hr => absurd ((hleads r).1 hr) nofun⟩
      | some route =>
          cases h
          have hlocate : (before.put route text.toUTF8).locate path =
              .ok (.file route text.toUTF8) := by
            unfold locate at hplace ⊢
            split at hplace
            · cases hplace
            · exact follow_put hplace ((hopen route).2 rfl)
          refine ⟨rfl, fun r hr => ?_, fun r hr => ?_, fun r _ => read_of_locate hlocate⟩
          · rw [file?_put, if_neg fun hsame => hr ((hleads r).2 (congrArg some hsame.symm))]
          · cases (hleads r).1 hr
            rw [file?_put, if_pos rfl]

end Files

end DataSheet
