import Runbook.Proofs.DaemonFiles
import Runbook.Proofs.FileMoves

/-!
Trees of files as a system keeps them: no place is entered twice, every name is one for a file in
its directory, and every node stands in a directory. Main statements: the empty tree is proper, and
a machine whose tree is proper keeps it so whatever is asked of it; in a proper tree the names in a
directory are those of the nodes right under it, each of them once.
-/

namespace Runbook

/-! ### Names -/

namespace Text

theorem not_mem_of_mem_splitAt {sep : Char} {s piece : List Char} (h : piece ∈ splitAt sep s) :
    sep ∉ piece := by
  induction s generalizing piece with
  | nil =>
    obtain rfl : piece = [] := List.mem_singleton.mp h
    exact List.not_mem_nil
  | cons c s ih =>
    rw [splitAt] at h
    split at h
    next =>
      rcases List.mem_cons.mp h with rfl | h
      · exact List.not_mem_nil
      · exact ih h
    next hc =>
      have hne : sep ≠ c := fun heq => hc (by simp [heq])
      cases hs : splitAt sep s with
      | nil => exact absurd hs (splitAt_ne_nil sep s)
      | cons first rest =>
        rw [hs] at h ih
        rcases List.mem_cons.mp h with rfl | h
        · exact fun hmem => (List.mem_cons.mp hmem).elim hne (ih List.mem_cons_self)
        · exact ih (List.mem_cons_of_mem _ h)

end Text

namespace FilePath

theorem isPlain_of_mem_names {path : FilePath} {name : String} (h : name ∈ path.names)
    (hdots : name ≠ "..") : IsPlain name := by
  obtain ⟨hmem, hkept⟩ := List.mem_filter.mp h
  obtain ⟨piece, hpiece, rfl⟩ := List.mem_map.mp hmem
  simp only [Bool.not_eq_true', Bool.or_eq_false_iff, beq_eq_false_iff_ne] at hkept
  refine ⟨fun hempty => ?_, hkept.2, hdots, ?_⟩
  · simp [hempty] at hkept
  · rw [String.toList_ofList]
    exact Text.not_mem_of_mem_splitAt hpiece

end FilePath

namespace FileTree

open FilePath (IsPlain)

variable {t u : FileTree} {current path : FilePath} {place other : Place} {now : Timestamp}

theorem plain_of_follow {names : List String} (hnames : ∀ name ∈ names, name ≠ ".." → IsPlain name)
    (hplace : ∀ name ∈ place, IsPlain name) (h : t.follow place names = .ok other) :
    ∀ name ∈ other, IsPlain name := by
  induction names generalizing place with
  | nil => exact Except.ok.inj h ▸ hplace
  | cons first rest ih =>
    obtain ⟨hfirst, hrest⟩ := List.forall_mem_cons.mp hnames
    rw [follow_cons] at h
    cases hdir : t.asDirectory place with
    | error e => simp [hdir, Except.bind] at h
    | ok _ =>
      rw [hdir] at h
      refine ih hrest (fun name hname => ?_) h
      split at hname
      next => exact hplace name (List.mem_of_mem_tail hname)
      next hdots =>
        rcases List.mem_cons.mp hname with rfl | hname
        · exact hfirst hdots
        · exact hplace name hname

theorem plain_of_locate (h : t.locate current path = .ok place) : ∀ name ∈ place, IsPlain name := by
  obtain ⟨-, ⟨start, horigin, hfollow⟩, -⟩ := locate_eq_ok_iff.mp h
  refine plain_of_follow (fun name => FilePath.isPlain_of_mem_names) ?_ hfollow
  unfold origin at horigin
  split at horigin
  next => exact Except.ok.inj horigin ▸ fun name hname => absurd hname List.not_mem_nil
  next =>
    exact plain_of_follow (fun name => FilePath.isPlain_of_mem_names)
      (fun name hname => absurd hname List.not_mem_nil) horigin

/-! ### Proper trees -/

/-- No place is entered twice, every name is one for a file in its directory, and every node stands
in a directory. -/
structure IsProper (t : FileTree) : Prop where
  sorted : t.nodes.Sorted
  plain : ∀ e ∈ t.nodes, ∀ name ∈ e.1, IsPlain name
  parents : ∀ name place, (t.node? (name :: place)).isSome = true →
    t.kind? place = some .directory

theorem isSome_node?_iff {name : String} :
    (t.node? (name :: place)).isSome = true ↔ ∃ n, (name :: place, n) ∈ t.nodes := by
  have hbound : t.nodes.isBound (name :: place) = true ↔ name :: place ∈ t.nodes.names :=
    Bindings.isBound_iff_mem_names
  rw [Bindings.isBound, Bindings.names, List.mem_map] at hbound
  change (t.nodes.find? (name :: place)).isSome = true ↔ _
  rw [hbound]
  constructor
  · rintro ⟨⟨p, n⟩, hmem, rfl⟩
    exact ⟨n, hmem⟩
  · rintro ⟨n, hmem⟩
    exact ⟨_, hmem, rfl⟩

theorem isProper_iff : t.IsProper ↔ t.nodes.Sorted ∧
    ∀ e ∈ t.nodes, (∀ name ∈ e.1, IsPlain name) ∧ t.kind? e.1.tail = some .directory := by
  constructor
  · refine fun h => ⟨h.sorted, fun e he => ⟨h.plain e he, ?_⟩⟩
    obtain ⟨place, n⟩ := e
    cases place with
    | nil => rfl
    | cons name parent => exact h.parents name parent (isSome_node?_iff.mpr ⟨n, he⟩)
  · rintro ⟨hsorted, hentries⟩
    refine ⟨hsorted, fun e he => (hentries e he).1, fun name parent hnode => ?_⟩
    obtain ⟨n, hmem⟩ := isSome_node?_iff.mp hnode
    exact (hentries _ hmem).2

instance (t : FileTree) : Decidable t.IsProper :=
  have : Decidable t.nodes.Sorted := inferInstanceAs (Decidable (t.nodes.Pairwise _))
  decidable_of_iff _ isProper_iff.symm

theorem IsProper.isPlain (h : t.IsProper) {name : String}
    (hnode : (t.node? (name :: place)).isSome = true) : IsPlain name := by
  obtain ⟨n, hmem⟩ := isSome_node?_iff.mp hnode
  exact h.plain _ hmem name List.mem_cons_self

theorem isSome_node?_of_kind? {kind : NodeKind} (h : t.kind? place = some kind) :
    (t.node? place).isSome = true := by
  obtain ⟨n, hn, -⟩ := Option.map_eq_some_iff.mp h
  exact Option.isSome_of_eq_some hn

theorem IsProper.node?_under_file (h : t.IsProper) (hfile : t.kind? place = some .file)
    (name : String) : t.node? (name :: place) = none := by
  cases hnode : t.node? (name :: place) with
  | none => rfl
  | some n =>
    have hparent := h.parents name place (Option.isSome_of_eq_some hnode)
    rw [hfile] at hparent
    cases hparent

/-! ### Names in a directory -/

/-- The names in a directory are those of the nodes right under it. -/
theorem mem_children {name : String} :
    name ∈ t.children place ↔ (t.node? (name :: place)).isSome = true := by
  rw [children, List.mem_mergeSort, List.mem_filterMap, isSome_node?_iff]
  constructor
  · rintro ⟨⟨p, n⟩, hmem, hname⟩
    cases p with
    | nil => cases hname
    | cons first parent =>
      simp only [Option.ite_none_right_eq_some, Option.some.injEq] at hname
      obtain ⟨rfl, rfl⟩ := hname
      exact ⟨n, hmem⟩
  · rintro ⟨n, hmem⟩
    exact ⟨_, hmem, by simp⟩

theorem IsProper.nodup_children (h : t.IsProper) (place : Place) : (t.children place).Nodup := by
  refine (List.mergeSort_perm _ _).nodup_iff.mpr (h.sorted.filterMap _ ?_)
  rintro ⟨p, n⟩ ⟨q, m⟩ hlt name hname other hother rfl
  cases p with
  | nil => cases hname
  | cons first parent =>
    cases q with
    | nil => cases hother
    | cons second parent' =>
      simp only [Option.ite_none_right_eq_some, Option.some.injEq] at hname hother
      obtain ⟨rfl, rfl⟩ := hname
      obtain ⟨rfl, rfl⟩ := hother
      exact absurd hlt (Std.lt_irrefl)

/-! ### What requests keep -/

/-- A node can be put at a place: there is a file, or nothing in a directory. -/
def HasRoom (t : FileTree) (place : Place) : Prop :=
  t.kind? place = some .file ∨
    place ≠ [] ∧ t.kind? place = none ∧ t.kind? place.tail = some .directory

theorem HasRoom.ne_nil (h : t.HasRoom place) : place ≠ [] := by
  rcases h with hfile | hnone
  · rintro rfl
    cases hfile
  · exact hnone.1

theorem HasRoom.ne_directory (h : t.HasRoom place) : t.kind? place ≠ some .directory := by
  rcases h with hfile | ⟨-, hnone, -⟩
  · simp [hfile]
  · simp [hnone]

theorem IsProper.insert (h : t.IsProper) (hplain : ∀ name ∈ place, IsPlain name)
    (hroom : t.HasRoom place) (n : FileNode) : (t.insert place n).IsProper := by
  refine ⟨h.sorted.bind place n, fun e he => ?_, fun name parent hnode => ?_⟩
  · rcases Bindings.mem_bind he with rfl | he
    · exact hplain
    · exact h.plain e he
  · have hparent : t.kind? parent = some .directory := by
      rw [node?_insert t hroom.ne_nil] at hnode
      split at hnode
      next heq =>
        subst heq
        rcases hroom with hfile | ⟨-, -, hdir⟩
        · exact h.parents name parent (isSome_node?_of_kind? hfile)
        · exact hdir
      next => exact h.parents name parent hnode
    have hne : place ≠ parent := fun heq => hroom.ne_directory (heq ▸ hparent)
    rw [kind?_insert t hroom.ne_nil, if_neg hne, hparent]

theorem IsProper.erase (h : t.IsProper) (hplace : place ≠ [])
    (hleaf : ∀ name, t.node? (name :: place) = none) : (t.erase place).IsProper := by
  refine ⟨h.sorted.filter _, fun e he => h.plain e (List.mem_filter.mp he).1,
    fun name parent hnode => ?_⟩
  rw [node?_erase t hplace] at hnode
  split at hnode
  next => cases hnode
  next =>
    have hne : place ≠ parent := by
      rintro rfl
      rw [hleaf name] at hnode
      cases hnode
    rw [kind?_erase t hplace, if_neg hne]
    exact h.parents name parent hnode

theorem IsProper.erase_root (h : t.IsProper) : (t.erase []).IsProper := by
  have hkept : ∀ name parent, (t.erase []).node? (name :: parent) = t.node? (name :: parent) :=
    fun name parent => Bindings.find?_filter fun a => by simp
  refine ⟨h.sorted.filter _, fun e he => h.plain e (List.mem_filter.mp he).1,
    fun name parent hnode => ?_⟩
  have hparent := h.parents name parent (hkept name parent ▸ hnode)
  cases parent with
  | nil => rfl
  | cons first rest => rwa [kind?, hkept]

/-- What is written is put where there is room, wherever the path may lead. -/
theorem exists_of_write {change : String → String}
    (h : t.write current now path change = .ok u) : ∃ target place n,
      t.locate current target = .ok place ∧ t.HasRoom place ∧ u = t.insert place n := by
  unfold write at h
  dsimp only at h
  generalize (if (String.ofList (path.toList.reverse.dropWhile (· == '/')).reverse).isEmpty = true
    then path else String.ofList (path.toList.reverse.dropWhile (· == '/')).reverse) = target at h
  cases hlocate : t.locate current target with
  | error e => simp [hlocate, bind, Except.bind] at h
  | ok place =>
    refine ⟨target, place, ?_⟩
    simp only [hlocate, bind, Except.bind, pure, Except.pure, throw, throwThe,
      MonadExceptOf.throw] at h
    split at h
    next => cases h
    next =>
      cases hnode : t.node? place with
      | some n =>
        obtain ⟨content, modified⟩ := n
        cases content with
        | none => simp [hnode] at h
        | some text =>
          have hfile : t.kind? place = some .file := by simp [kind?, hnode, FileNode.kind]
          exact ⟨_, hlocate, .inl hfile, by simpa [hnode] using h.symm⟩
      | none =>
        cases place with
        | nil => cases hnode
        | cons name parent =>
          cases hdir : t.asDirectory parent with
          | error e => simp [hnode, hdir] at h
          | ok _ =>
            have hnone : t.kind? (name :: parent) = none := by simp [kind?, hnode]
            exact ⟨_, hlocate, .inr ⟨by simp, hnone, asDirectory_eq_ok_iff.mp hdir⟩,
              by simpa [hnode, hdir] using h.symm⟩

theorem IsProper.write (h : t.IsProper) {change : String → String}
    (hwrite : t.write current now path change = .ok u) : u.IsProper := by
  obtain ⟨target, place, n, hlocate, hroom, rfl⟩ := exists_of_write hwrite
  exact h.insert (plain_of_locate hlocate) hroom n

theorem IsProper.makeDirectories (h : t.IsProper) {depth : Nat}
    (hmake : t.makeDirectories current now path depth = .ok u) : u.IsProper := by
  refine makeDirectories_induction (fun {v w path} hv hw => ?_) h hmake
  obtain ⟨name, parent, hlocate, hnode, hdir, rfl⟩ := exists_of_makeDirectory hw
  have hnone : v.kind? (name :: parent) = none := by simp [kind?, hnode]
  exact hv.insert (plain_of_locate hlocate) (.inr ⟨by simp, hnone, hdir⟩) _

theorem IsProper.remove (h : t.IsProper) (hremove : t.remove current path = .ok u) :
    u.IsProper := by
  obtain ⟨place, text, -, htext, rfl⟩ := exists_of_remove hremove
  have hfile : t.kind? place = some .file :=
    kind?_eq_file_iff.mpr (Option.isSome_of_eq_some htext)
  exact h.erase (ne_nil_of_textAt? htext) (h.node?_under_file hfile)

theorem IsProper.removeDirectory (h : t.IsProper)
    (hremove : t.removeDirectory current path = .ok u) : u.IsProper := by
  unfold FileTree.removeDirectory at hremove
  cases hlocate : t.locate current path with
  | error e => simp [hlocate, bind, Except.bind] at hremove
  | ok place =>
    cases hdir : t.asDirectory place with
    | error e => simp [hlocate, hdir, bind, Except.bind] at hremove
    | ok _ =>
      simp only [hlocate, hdir, bind, Except.bind, pure, Except.pure] at hremove
      split at hremove
      next hempty =>
        have hleaf : ∀ name, t.node? (name :: place) = none := fun name => by
          have hmem : name ∉ t.children place := by simp [List.isEmpty_iff.mp hempty]
          simpa using mt mem_children.mpr hmem
        obtain rfl := Except.ok.inj hremove
        by_cases hplace : place = []
        · exact hplace ▸ h.erase_root
        · exact h.erase hplace hleaf
      next => cases hremove

theorem IsProper.rename {source target : FilePath} (h : t.IsProper)
    (hrename : t.rename current source target = .ok u) : u.IsProper := by
  obtain ⟨old, n, text, place, hsource, hnode, htext, htakes, rfl⟩ := exists_of_rename hrename
  have hold : t.textAt? old = some text := by rw [textAt?, hnode, Option.bind_some, htext]
  have hne := ne_nil_of_textAt? hold
  have hfile : t.kind? old = some .file := kind?_eq_file_iff.mpr (Option.isSome_of_eq_some hold)
  have herased := h.erase hne (h.node?_under_file hfile)
  refine herased.insert (plain_of_locate htakes.located) ?_ n
  have hplace := htakes.ne_nil
  have hparent : t.kind? place.tail = some .directory := by
    rcases htakes.kind with hkind | ⟨-, -, hdir⟩
    · obtain ⟨name, parent, rfl⟩ := List.exists_cons_of_ne_nil hplace
      exact h.parents name parent (isSome_node?_of_kind? hkind)
    · exact hdir
  have hkept : ∀ p, (t.erase old).kind? p = if old = p then none else t.kind? p :=
    kind?_erase t hne
  have htail : old ≠ place.tail := fun heq => by
    rw [← heq, hfile] at hparent
    cases hparent
  by_cases hsame : old = place
  · refine .inr ⟨hplace, ?_, ?_⟩
    · rw [hkept, if_pos hsame]
    · rw [hkept, if_neg htail, hparent]
  · rcases htakes.kind with hkind | ⟨-, hnone, -⟩
    · exact .inl (by rw [hkept, if_neg hsame, hkind])
    · exact .inr ⟨hplace, by rw [hkept, if_neg hsame, hnone], by rw [hkept, if_neg htail, hparent]⟩

end FileTree

/-! ### Machines -/

namespace Machine

variable {m : Machine}

theorem isProper_changed (h : m.files.IsProper) {change : Except SystemError FileTree}
    (hchange : ∀ files, change = .ok files → files.IsProper) {r : Except SystemError Unit}
    {next : Machine} (hnext : m.changed change = (r, next)) : next.files.IsProper := by
  cases change with
  | ok files =>
    obtain ⟨-, rfl⟩ := Prod.mk.inj hnext
    exact hchange files rfl
  | error e =>
    obtain ⟨-, rfl⟩ := Prod.mk.inj hnext
    exact h

/-- A proper tree stays proper whatever is asked of the machine. -/
theorem isProper_of_reply (h : m.files.IsProper) {c : SystemCall} {r : c.Reply} {next : Machine}
    (hreply : m.reply c = (r, next)) : next.files.IsProper := by
  cases c with
  | write path text =>
    simp only [reply] at hreply
    generalize hchange : m.files.write m.current m.time path (fun _ => text) = change at hreply
    exact isProper_changed h (fun _ hfiles => h.write (hchange.trans hfiles)) hreply
  | append path text =>
    simp only [reply] at hreply
    generalize hchange : m.files.write m.current m.time path (fun old => old ++ text) = change
      at hreply
    exact isProper_changed h (fun _ hfiles => h.write (hchange.trans hfiles)) hreply
  | remove path => exact isProper_changed h (fun _ hremove => h.remove hremove) hreply
  | rename source target => exact isProper_changed h (fun _ hrename => h.rename hrename) hreply
  | makeDirectories path => exact isProper_changed h (fun _ hmake => h.makeDirectories hmake) hreply
  | removeDirectory path =>
    exact isProper_changed h (fun _ hremove => h.removeDirectory hremove) hreply
  | signal pid t =>
    obtain ⟨-, rfl⟩ := Prod.mk.inj hreply
    rw [files_signal]
    exact h
  | hasExited pid =>
    have hnext : next = (m.reap pid).2 := (Prod.mk.inj hreply).2.symm
    rw [hnext, files_reap]
    exact h
  | _ =>
    obtain ⟨-, rfl⟩ := Prod.mk.inj hreply
    exact h

/-- A procedure leaves a proper tree proper. -/
theorem isProper_of_perform {α : Type} {p : Procedure α} {a : α} {next : Machine}
    (h : m.files.IsProper) (hperform : m.perform p = some (a, next)) : next.files.IsProper := by
  unfold perform at hperform
  induction p generalizing m with
  | done b =>
    obtain ⟨-, rfl⟩ := Prod.mk.inj (Option.some.inj hperform)
    exact h
  | halted why => cases hperform
  | perform c rest ih => exact ih _ (isProper_of_reply h rfl) hperform

end Machine

end Runbook
