import Runbook.Proofs.FilePlaces

/-!
Files that take the place of others, and directories that are made where they may be already. Main
statements: a file that takes another place is read there, and nothing else changes; and what is made
once is there from then on.
-/

namespace Runbook.FileTree

variable {t u : FileTree} {current source target path : FilePath} {old place : Place} {n : FileNode}
  {now : Timestamp} {text : String}

/-! ### Taking another place -/

theorem rename_eq : t.rename current source target =
    (t.locate current source).bind fun old => (t.locate current target).bind fun new =>
      if target.toList.getLast? = some '/' ∧ t.kind? old = some .file then .error .notDirectory
      else match t.node? old, t.node? new, new with
        | none, _, _ => .error .notFound
        | some ⟨none, _⟩, _, _ => .error .isDirectory
        | some _, some ⟨none, _⟩, _ => .error .isDirectory
        | some _, none, [] => .error .isDirectory
        | some n, none, _ :: parent =>
          (t.asDirectory parent).bind fun _ => .ok ((t.erase old).insert new n)
        | some n, some ⟨some _, _⟩, _ => .ok ((t.erase old).insert new n) := by
  unfold rename
  simp only [bind, Except.bind, pure, Except.pure]
  rfl

theorem Takes.rename (h : Takes t current target place) (hsource : t.locate current source = .ok old)
    (hnode : t.node? old = some n) (htext : n.text = some text) :
    t.rename current source target = .ok ((t.erase old).insert place n) := by
  obtain ⟨content, modified⟩ := n
  obtain rfl : content = some text := htext
  rw [rename_eq, hsource, Except.bind, h.located, Except.bind, if_neg fun hno => h.no_slash hno.1]
  rcases h.kind with hfile | ⟨hne, hnone, hdir⟩
  · obtain ⟨replaced, htext⟩ := Option.isSome_iff_exists.mp (kind?_eq_file_iff.mp hfile)
    obtain ⟨⟨content, modified⟩, hplace, rfl⟩ := Option.bind_eq_some_iff.mp htext
    simp [hnode, hplace]
  · obtain ⟨name, parent, rfl⟩ := List.exists_cons_of_ne_nil hne
    have hplace : t.node? (name :: parent) = none := Option.map_eq_none_iff.mp hnone
    have hparent : t.asDirectory parent = .ok () := asDirectory_eq_ok_iff.mpr hdir
    simp [hnode, hplace, hparent, Except.bind]

theorem exists_of_rename (h : t.rename current source target = .ok u) : ∃ old n text place,
    t.locate current source = .ok old ∧ t.node? old = some n ∧ n.text = some text ∧
      Takes t current target place ∧ u = (t.erase old).insert place n := by
  have htakes : ∃ old n text place, t.locate current source = .ok old ∧ t.node? old = some n ∧
      n.text = some text ∧ Takes t current target place := by
    rw [rename_eq] at h
    cases hsource : t.locate current source with
    | error e => simp [hsource, Except.bind] at h
    | ok old =>
      rw [hsource, Except.bind] at h
      cases htarget : t.locate current target with
      | error e => simp [htarget, Except.bind] at h
      | ok place =>
        rw [htarget, Except.bind] at h
        split at h
        next => cases h
        next hslash =>
          cases hnode : t.node? old with
          | none => simp [hnode] at h
          | some n =>
            obtain ⟨content, modified⟩ := n
            cases content with
            | none => simp [hnode] at h
            | some text =>
              have hfile : t.kind? old = some .file := by simp [kind?, hnode, FileNode.kind]
              refine ⟨old, _, text, place, rfl, hnode, rfl, fun hlast => hslash ⟨hlast, hfile⟩,
                htarget, ?_⟩
              cases hplace : t.node? place with
              | some n =>
                obtain ⟨content, modified⟩ := n
                cases content with
                | none => simp [hnode, hplace] at h
                | some text => exact .inl (by simp [kind?, hplace, FileNode.kind])
              | none =>
                cases place with
                | nil => cases hplace
                | cons name parent =>
                  cases hdir : t.asDirectory parent with
                  | error e => simp [hnode, hplace, hdir, Except.bind] at h
                  | ok _ =>
                    exact .inr ⟨by simp, by simp [kind?, hplace], asDirectory_eq_ok_iff.mp hdir⟩
  obtain ⟨old, n, text, place, hsource, hnode, htext, htakes⟩ := htakes
  exact ⟨old, n, text, place, hsource, hnode, htext, htakes,
    Except.ok.inj (h.symm.trans (htakes.rename hsource hnode htext))⟩

/-- A file that takes another place is read there, and nothing else changes. -/
theorem rename_eq_ok (hslash : source.toList.getLast? ≠ some '/')
    (hread : t.read current source = .ok text) (h : t.rename current source target = .ok u) :
    Spares current [source, target] t u ∧ u.read current target = .ok text := by
  obtain ⟨old, n, other, place, hsource, hnode, htext, htakes, rfl⟩ := exists_of_rename h
  obtain rfl : text = other := by
    obtain ⟨p, hp, hptext⟩ := read_eq_ok_iff.mp hread
    obtain rfl : old = p := Except.ok.inj (hsource.symm.trans hp)
    rw [textAt?, hnode, Option.bind_some, htext] at hptext
    exact (Option.some.inj hptext).symm
  have hne : old ≠ [] := ne_nil_of_textAt? (by rw [textAt?, hnode, Option.bind_some, htext])
  have hkind : t.kind? old ≠ some .directory := by simp [kind?, hnode, FileNode.kind, htext]
  have herased : Spares current [source] t (t.erase old) := spares_erase hslash hsource hne hkind
  have hlocate := herased.directories.locate htakes.no_slash htakes.located
  have hplace : (t.erase old).kind? place ≠ some .directory := by
    have hplace := htakes.ne_directory
    rw [kind?, node?_erase t hne] at *
    split
    · simp
    · exact hplace
  have hput : Spares current [target] (t.erase old) ((t.erase old).insert place n) :=
    spares_insert htakes.no_slash hlocate htakes.ne_nil hplace n
  refine ⟨(herased.mono (by simp)).trans ?_ (hput.mono (by simp)), read_eq_ok_iff.mpr
    ⟨place, hput.directories.locate htakes.no_slash hlocate, ?_⟩⟩
  · simpa using ⟨hslash, htakes.no_slash⟩
  · rw [textAt?, node?_insert _ htakes.ne_nil, if_pos rfl, Option.bind_some, htext]

/-! ### Directories that are there -/

theorem isDirectory_eq_true_iff : t.isDirectory current path = true ↔
    ∃ place, t.locate current path = .ok place ∧ t.kind? place = some .directory := by
  unfold isDirectory
  cases t.locate current path with
  | error e => simp
  | ok place => simp

theorem KeepsDirectories.isDirectory (h : KeepsDirectories t u)
    (hdir : t.isDirectory current path = true) : u.isDirectory current path = true := by
  obtain ⟨place, hlocate, hkind⟩ := isDirectory_eq_true_iff.mp hdir
  exact isDirectory_eq_true_iff.mpr ⟨place, h.locate_directory hlocate hkind, h place hkind⟩

theorem makeDirectories_of_isDirectory (h : path.isEmpty = true ∨ t.isDirectory current path = true)
    (depth : Nat) : t.makeDirectories current now path (depth + 1) = .ok t := by
  rw [makeDirectories]
  rcases h with hempty | hdir
  · rw [if_pos hempty]
  · obtain ⟨place, hlocate, hkind⟩ := isDirectory_eq_true_iff.mp hdir
    obtain ⟨n, hnode, -⟩ := Option.map_eq_some_iff.mp hkind
    have hmake : t.makeDirectory current now path = .error .exists := by
      unfold makeDirectory
      rw [hlocate]
      simp [bind, Except.bind, hnode]
    have hensure : t.ensureDirectory current now path = .ok t := by
      rw [ensureDirectory, hmake]
      exact if_pos hdir
    simp [hensure]

theorem isDirectory_of_makeDirectory (h : t.makeDirectory current now path = .ok u) :
    u.isDirectory current path = true := by
  have hkeeps := (spares_makeDirectory h).directories
  obtain ⟨name, parent, hlocate, -, -, rfl⟩ := exists_of_makeDirectory h
  have hkind : (t.insert (name :: parent) ⟨none, now⟩).kind? (name :: parent) =
      some .directory := by
    rw [kind?_insert t (by simp), if_pos rfl]
    rfl
  obtain ⟨hempty, ⟨start, horigin, hfollow⟩, -⟩ := locate_eq_ok_iff.mp hlocate
  exact isDirectory_eq_true_iff.mpr ⟨_, locate_eq_ok_iff.mpr ⟨hempty,
    ⟨start, hkeeps.origin horigin, hkeeps.follow hfollow⟩, by simp [hkind]⟩, hkind⟩

theorem isDirectory_of_makeDirectories {depth : Nat}
    (h : t.makeDirectories current now path depth = .ok u) :
    path.isEmpty = true ∨ u.isDirectory current path = true := by
  cases depth with
  | zero => cases h
  | succ depth =>
    cases hempty : path.isEmpty with
    | true => exact .inl rfl
    | false =>
      obtain ⟨v, hensure, -⟩ := exists_of_makeDirectories hempty h
      rcases ensureDirectory_eq_ok hensure with hmade | ⟨hdir, rfl⟩
      · exact .inr (isDirectory_of_makeDirectory hmade)
      · exact .inr hdir

end Runbook.FileTree
