import Runbook.Proofs.FileNames
import Runbook.Proofs.ProperTrees

/-!
The files that the names of histories stand for. Main statements: a name is refused before anything
is asked of the system, or it is that of one file right inside the directory, and nothing but this
file is read or removed; the files of a directory are listed in order of their names, and clearing
the directory removes all of them up to the first one whose name is refused.
-/

namespace Runbook

open Program

namespace HistoryStore

open FilePath (IsPlain)

/-! ### Loading and removing -/

def loaded (path : FilePath) : Except SystemError String → Except HistoryError History
  | .error e => .error (.read path e)
  | .ok text =>
    match History.read? text with
    | some h => .ok h
    | none => .error (.parse path)

def removed (path : FilePath) : Except SystemError Unit → Except HistoryError Bool
  | .ok () => .ok true
  | .error .notFound => .ok false
  | .error e => .error (.remove path e)

variable (store : HistoryStore) {name : String}

theorem entryPath_of_isBareName (h : isBareName name = true) :
    store.entryPath name = .ok (store.directory.join name) := if_pos h

theorem entryPath_refused (h : isBareName name = false) :
    store.entryPath name = .error (.invalidName name) := if_neg (by simp [h])

theorem load_run (h : isBareName name = true) :
    (store.load name).run = .perform (I := SystemCall.interface)
      (SystemCall.read (store.directory.join name))
      fun reply => .done (loaded (store.directory.join name) reply) := by
  unfold load
  rw [store.entryPath_of_isBareName h]
  refine congrArg (Program.perform (I := SystemCall.interface) _) (funext fun reply => ?_)
  cases reply with
  | ok text =>
    simp only [andThen, loaded, ExceptT.bindCont, Function.comp]
    cases History.read? text <;> rfl
  | error e => rfl

theorem load_run_refused (h : isBareName name = false) :
    (store.load name).run = .done (.error (.invalidName name)) := by
  unfold load
  rw [store.entryPath_refused h]
  rfl

theorem remove_run (h : isBareName name = true) :
    (store.remove name).run = .perform (I := SystemCall.interface)
      (SystemCall.remove (store.directory.join name))
      fun reply => .done (removed (store.directory.join name) reply) := by
  unfold remove
  rw [store.entryPath_of_isBareName h]
  refine congrArg (Program.perform (I := SystemCall.interface) _) (funext fun reply => ?_)
  cases reply with
  | ok _ => rfl
  | error e => cases e <;> rfl

theorem remove_run_refused (h : isBareName name = false) :
    (store.remove name).run = .done (.error (.invalidName name)) := by
  unfold remove
  rw [store.entryPath_refused h]
  rfl

/-! ### What names stand for -/

section

variable {store} {current : FilePath} {place other : Place} {t : FileTree} {m : Machine}

theorem exists_of_locate_entry (hname : IsPlain name)
    (h : t.locate current (store.directory.join name) = .ok place) :
    ∃ parent, place = name :: parent ∧ t.kind? parent = some .directory ∧
      (store.directory ≠ "" → t.locate current store.directory = .ok parent) := by
  obtain ⟨parent, rfl, hkind⟩ :=
    FileTree.exists_of_locate_leadsTo (FilePath.leadsTo_join store.directory hname) h
  refine ⟨parent, rfl, hkind, fun hdir => ?_⟩
  obtain ⟨_, heq, hlocate, -⟩ := (FileTree.locate_join_iff hdir hname).mp h
  rw [(List.cons.inj heq).2]
  exact hlocate

theorem perform_load_of_isBareName (hname : isBareName name = true) :
    m.perform (store.load name).run = some (loaded (store.directory.join name)
      (m.files.read m.current (store.directory.join name)), m) := by
  rw [store.load_run hname]
  rfl

theorem exists_perform_remove (hname : isBareName name = true) :
    ∃ r next, m.perform (store.remove name).run = some (r, next) ∧
      ∀ place, next.files.node? place ≠ m.files.node? place →
        m.files.locate m.current (store.directory.join name) = .ok place := by
  rw [store.remove_run hname]
  refine ⟨_, (m.reply (.remove (store.directory.join name))).2, rfl, fun place hchanged => ?_⟩
  simp only [Machine.reply, Machine.changed] at hchanged
  split at hchanged
  next files hfiles =>
    obtain ⟨p, text, hlocate, htext, rfl⟩ := FileTree.exists_of_remove hfiles
    rw [FileTree.node?_erase _ (FileTree.ne_nil_of_textAt? htext)] at hchanged
    by_cases heq : p = place
    · exact heq ▸ hlocate
    · exact absurd (if_neg heq) hchanged
  next => exact absurd rfl hchanged

theorem ne_of_locate_entry {name' : String} (hname : IsPlain name) (hname' : IsPlain name')
    (hne : name ≠ name') (h : t.locate current (store.directory.join name) = .ok place)
    (h' : t.locate current (store.directory.join name') = .ok other) : place ≠ other := by
  obtain ⟨parent, rfl, -⟩ := exists_of_locate_entry hname h
  obtain ⟨parent', rfl, -⟩ := exists_of_locate_entry hname' h'
  exact fun heq => hne (List.cons.inj heq).1

end

/-- A name is refused before anything is asked of the system, or it is a plain one without a
backslash. All that is asked then is to read or to remove one file: that of the name in the
directory, which no other name stands for. A machine keeps everything else. -/
theorem only_named_file_touched (store : HistoryStore) (name : String) :
    ((¬ IsPlain name ∨ '\\' ∈ name.toList) ∧
      (store.load name).run = .done (.error (.invalidName name)) ∧
      (store.remove name).run = .done (.error (.invalidName name))) ∨
    ((IsPlain name ∧ '\\' ∉ name.toList) ∧
      FilePath.names name = [name] ∧ FilePath.isAbsolute name = false ∧
      (∀ (σ : Type) (host : SystemHost σ) (s : σ), ∃ loading removal,
        (store.load name).run.drive host s = some loading ∧
        loading.exchanges.map Exchange.call = [SystemCall.read (store.directory.join name)] ∧
        (store.remove name).run.drive host s = some removal ∧
        removal.exchanges.map Exchange.call = [SystemCall.remove (store.directory.join name)]) ∧
      (∀ m : Machine,
        (∃ r, m.perform (store.load name).run = some (r, m)) ∧
        ∃ r next, m.perform (store.remove name).run = some (r, next) ∧
          ∀ place, next.files.node? place ≠ m.files.node? place →
            m.files.locate m.current (store.directory.join name) = .ok place) ∧
      (∀ (t : FileTree) (current : FilePath) (place : Place),
        t.locate current (store.directory.join name) = .ok place →
        ∃ parent, place = name :: parent ∧ t.kind? parent = some .directory ∧
          (store.directory ≠ "" → t.locate current store.directory = .ok parent)) ∧
      ∀ other, IsPlain other → '\\' ∉ other.toList → other ≠ name →
        store.directory.join other ≠ store.directory.join name ∧
        ∀ (t : FileTree) (current : FilePath) (place place' : Place),
          t.locate current (store.directory.join other) = .ok place →
          t.locate current (store.directory.join name) = .ok place' → place ≠ place') := by
  cases hbare : isBareName name with
  | false =>
    refine .inl ⟨?_, store.load_run_refused hbare, store.remove_run_refused hbare⟩
    have hnot : ¬(IsPlain name ∧ '\\' ∉ name.toList) := by
      rw [← isBareName_iff, hbare]
      exact Bool.false_ne_true
    tauto
  | true =>
    have hname := isBareName_iff.mp hbare
    refine .inr ⟨hname, FilePath.names_of_isPlain hname.1, FilePath.isAbsolute_of_isPlain hname.1,
      fun σ host s => ?_, fun m => ⟨?_, exists_perform_remove hbare⟩,
      fun t current place => exists_of_locate_entry hname.1, fun other hother _ hne => ⟨?_, ?_⟩⟩
    · rw [store.load_run hbare, store.remove_run hbare]
      exact ⟨_, _, rfl, rfl, rfl, rfl⟩
    · exact ⟨_, perform_load_of_isBareName hbare⟩
    · intro heq
      have hleads := FilePath.leadsTo_join store.directory hother
      rw [heq] at hleads
      exact hne (hleads.unique (FilePath.leadsTo_join store.directory hname.1))
    · exact fun t current place place' => ne_of_locate_entry hother hname.1 hne

/-- Names with a slash or a backslash, dots, and the empty name are refused. -/
example : ["", ".", "..", "/", "a/b", "a/", "/etc/passwd", "../a.json", "a\\b"].all
    (fun name => !isBareName name) = true := by decide +kernel

/-! ### The directory -/

/-- The directory stands at a place of a proper tree, and what has the name of a history there is a
file. -/
structure StandsAt (m : Machine) (place : Place) : Prop where
  proper : m.files.IsProper
  located : m.files.locate m.current store.directory = .ok place
  directory : m.files.kind? place = some .directory
  files : ∀ name, isHistoryName name = true → (m.files.node? (name :: place)).isSome = true →
    m.files.kind? (name :: place) = some .file

def entry (name : String) : HistoryEntry := ⟨name, store.directory.join name⟩

def listing (t : FileTree) (place : Place) : List String :=
  ((t.children place).filter isHistoryName).mergeSort fun a b => b ≤ a

section

variable {store} {place : Place} {t : FileTree} {m : Machine}

theorem mem_listing : name ∈ listing t place ↔
    isHistoryName name = true ∧ (t.node? (name :: place)).isSome = true := by
  rw [listing, List.mem_mergeSort, List.mem_filter, FileTree.mem_children, and_comm]

/-- What has different names can be put in order of these, the last name first. -/
theorem descending_mergeSort {α : Type} {f : α → String} {l : List α} (h : (l.map f).Nodup) :
    (l.mergeSort fun a b => f b ≤ f a).Pairwise fun newer older => f older < f newer := by
  have hnodup := List.pairwise_map.mp
    (((List.mergeSort_perm l fun a b => f b ≤ f a).map f).nodup_iff.mpr h)
  have hsorted : (l.mergeSort fun a b => f b ≤ f a).Pairwise
      fun a b => decide (f b ≤ f a) = true := by
    refine List.pairwise_mergeSort (fun a b c hab hbc => ?_) (fun a b => ?_) _
    · simp only [decide_eq_true_eq] at hab hbc ⊢
      exact String.le_trans hbc hab
    · simpa using String.le_total (f b) (f a)
  exact (hsorted.and hnodup).imp fun ⟨hle, hne⟩ =>
    Std.lt_of_le_of_ne (of_decide_eq_true hle) hne.symm

/-- The last name comes first, and each name is there once. -/
theorem pairwise_listing (h : t.IsProper) (place : Place) :
    (listing t place).Pairwise fun newer older => older < newer :=
  descending_mergeSort (by rw [List.map_id']; exact (h.nodup_children place).filter _)

theorem nodup_of_descending {names : List String}
    (h : names.Pairwise fun newer older => older < newer) : names.Nodup := h.imp fun {a b} hlt => by
  rintro rfl
  exact Std.lt_irrefl hlt

theorem eq_of_descending {names others : List String}
    (h : names.Pairwise fun newer older => older < newer)
    (hothers : others.Pairwise fun newer older => older < newer)
    (hmem : ∀ name, name ∈ names ↔ name ∈ others) : names = others := by
  refine List.Perm.eq_of_pairwise (fun a b _ _ hba hab => ?_) h hothers
    ((List.perm_ext_iff_of_nodup (nodup_of_descending h) (nodup_of_descending hothers)).mpr hmem)
  exact absurd (String.lt_trans hab hba) Std.lt_irrefl

theorem standsAt_iff : store.StandsAt m place ↔ m.files.IsProper ∧
    m.files.locate m.current store.directory = .ok place ∧
    m.files.kind? place = some .directory ∧
    ∀ e ∈ m.files.nodes, e.1 = e.1.headD "" :: place → isHistoryName (e.1.headD "") = true →
      m.files.kind? e.1 = some .file := by
  constructor
  · rintro ⟨hproper, hlocated, hdir, hfiles⟩
    refine ⟨hproper, hlocated, hdir, fun e he hplace hname => ?_⟩
    rw [hplace]
    exact hfiles _ hname (FileTree.isSome_node?_iff.mpr ⟨e.2, by rwa [← hplace]⟩)
  · rintro ⟨hproper, hlocated, hdir, hfiles⟩
    refine ⟨hproper, hlocated, hdir, fun name hname hnode => ?_⟩
    obtain ⟨n, he⟩ := FileTree.isSome_node?_iff.mp hnode
    exact hfiles _ he rfl hname

instance (store : HistoryStore) (m : Machine) (place : Place) :
    Decidable (store.StandsAt m place) := decidable_of_iff _ standsAt_iff.symm

namespace StandsAt

theorem ne_empty (h : store.StandsAt m place) : store.directory ≠ "" := by
  intro heq
  have hempty := (FileTree.locate_eq_ok_iff.mp h.located).1
  simp [heq] at hempty

theorem locate_entry (h : store.StandsAt m place) (hname : IsPlain name) :
    m.files.locate m.current (store.directory.join name) = .ok (name :: place) :=
  (FileTree.locate_join_iff h.ne_empty hname).mpr ⟨place, rfl, h.located, h.directory⟩

theorem kind?_of_mem (h : store.StandsAt m place) (hname : name ∈ listing m.files place) :
    m.files.kind? (name :: place) = some .file :=
  h.files name (mem_listing.mp hname).1 (mem_listing.mp hname).2

theorem isPlain_of_mem (h : store.StandsAt m place) (hname : name ∈ listing m.files place) :
    IsPlain name := h.proper.isPlain (mem_listing.mp hname).2

theorem isBareName_iff_of_mem (h : store.StandsAt m place)
    (hname : name ∈ listing m.files place) : isBareName name = true ↔ '\\' ∉ name.toList := by
  rw [isBareName_iff, and_iff_right (h.isPlain_of_mem hname)]

theorem perform_list (h : store.StandsAt m place) :
    m.perform store.list.run = some (.ok ((listing m.files place).map store.entry), m) := by
  refine Machine.perform_eq (keeps_bind.mpr (Machine.keeps_kind ?_))
  have hkind : m.files.kindAt? m.current store.directory = some .directory := by
    simp [FileTree.kindAt?, h.located, h.directory]
  have hlist : m.files.list m.current store.directory = .ok (m.files.children place) := by
    simp [FileTree.list, h.located, FileTree.asDirectory_eq_ok_iff.mpr h.directory, bind,
      Except.bind, pure, Except.pure]
  rw [hkind]
  refine keeps_bind.mpr (Machine.keeps_call ?_)
  simp only [Machine.reply, hlist]
  exact ⟨rfl, rfl⟩

end StandsAt

theorem perform_list_missing (h : m.files.kindAt? m.current store.directory = none) :
    m.perform store.list.run = some (.ok [], m) := by
  refine Machine.perform_eq (keeps_bind.mpr (Machine.keeps_kind ?_))
  rw [h]
  exact ⟨rfl, rfl⟩

namespace StandsAt

theorem exists_perform_load (h : store.StandsAt m place) (hname : isBareName name = true)
    (hfile : m.files.kind? (name :: place) = some .file) : ∃ text,
      m.files.read m.current (store.directory.join name) = .ok text ∧
      m.perform (store.load name).run = some (loaded (store.directory.join name) (.ok text), m) := by
  obtain ⟨text, htext⟩ := Option.isSome_iff_exists.mp (FileTree.kind?_eq_file_iff.mp hfile)
  have hread : m.files.read m.current (store.directory.join name) = .ok text :=
    FileTree.read_eq_ok_iff.mpr ⟨_, h.locate_entry (isBareName_iff.mp hname).1, htext⟩
  exact ⟨text, hread, hread ▸ perform_load_of_isBareName hname⟩

theorem perform_remove (h : store.StandsAt m place) (hname : isBareName name = true)
    (hfile : m.files.kind? (name :: place) = some .file) :
    m.perform (store.remove name).run =
      some (.ok true, { m with files := m.files.erase (name :: place) }) := by
  obtain ⟨text, htext⟩ := Option.isSome_iff_exists.mp (FileTree.kind?_eq_file_iff.mp hfile)
  have hremove := FileTree.remove_of_located (h.locate_entry (isBareName_iff.mp hname).1) htext
  have hreply : m.reply (.remove (store.directory.join name)) =
      (.ok (), { m with files := m.files.erase (name :: place) }) := by
    simp [Machine.reply, hremove, Machine.changed]
  rw [store.remove_run hname, Machine.perform, Program.finish, hreply]
  rfl

theorem erase (h : store.StandsAt m place) (hfile : m.files.kind? (name :: place) = some .file) :
    store.StandsAt { m with files := m.files.erase (name :: place) } place := by
  have hne : name :: place ≠ [] := by simp
  have hkeeps : m.files.KeepsDirectories (m.files.erase (name :: place)) :=
    FileTree.keepsDirectories_erase hne (by simp [hfile])
  refine ⟨h.proper.erase hne (h.proper.node?_under_file hfile),
    hkeeps.locate_directory h.located h.directory, hkeeps place h.directory, fun other hother => ?_⟩
  dsimp only
  rw [FileTree.node?_erase _ hne, FileTree.kind?_erase _ hne]
  split
  · simp
  · exact h.files other hother

end StandsAt

/-! ### Clearing the directory -/

end

end HistoryStore

namespace FileTree

def eraseAll (t : FileTree) (places : List Place) : FileTree := places.foldl erase t

theorem node?_eraseAll {t : FileTree} {places : List Place} (hplaces : ∀ p ∈ places, p ≠ [])
    (other : Place) :
    (t.eraseAll places).node? other = if other ∈ places then none else t.node? other := by
  induction places generalizing t with
  | nil => rfl
  | cons p rest ih =>
    obtain ⟨hp, hrest⟩ := List.forall_mem_cons.mp hplaces
    have hstep : t.eraseAll (p :: rest) = (t.erase p).eraseAll rest := rfl
    rw [hstep, ih hrest, node?_erase t hp]
    by_cases hother : p = other
    · simp [hother]
    · simp [hother, Ne.symm hother]

end FileTree

namespace HistoryStore

variable {store : HistoryStore} {name : String} {place : Place} {m : Machine}

/-- What the removal of files in turn comes to: a name that is refused ends it. -/
def clearing (names : List String) : Except HistoryError Nat :=
  match names.dropWhile isBareName with
  | [] => .ok names.length
  | name :: _ => .error (.invalidName name)

theorem clearing_cons (hname : isBareName name = true) (rest : List String) :
    clearing (name :: rest) = (clearing rest).map (1 + ·) := by
  simp only [clearing, List.dropWhile_cons_of_pos hname, List.length_cons, Nat.add_comm _ 1]
  cases rest.dropWhile isBareName <;> rfl

/-- The files before the first name that is refused are removed. -/
theorem StandsAt.perform_removeAll (h : store.StandsAt m place) {names : List String}
    (hnodup : names.Nodup) (hfiles : ∀ name ∈ names, m.files.kind? (name :: place) = some .file) :
    ∃ files, files = m.files.eraseAll ((names.takeWhile isBareName).map (· :: place)) ∧
      m.perform (store.removeAll (names.map store.entry)).run =
        some (clearing names, { m with files }) ∧
      store.StandsAt { m with files } place := by
  induction names generalizing m with
  | nil => exact ⟨_, rfl, rfl, h⟩
  | cons name rest ih =>
    obtain ⟨hfile, hrest⟩ := List.forall_mem_cons.mp hfiles
    obtain ⟨hfresh, hnodup⟩ := List.nodup_cons.mp hnodup
    rw [List.map_cons, removeAll]
    cases hname : isBareName name with
    | false =>
      refine ⟨_, rfl, ?_, ?_⟩
      · have hrefused : m.perform (store.remove name).run =
            some (.error (.invalidName name), m) := by
          rw [store.remove_run_refused hname]
          rfl
        refine (Machine.perform_except_bind_error hrefused).trans ?_
        simp [clearing, hname, FileTree.eraseAll]
      · simpa [hname, FileTree.eraseAll] using h
    | true =>
      have hne : name :: place ≠ [] := by simp
      obtain ⟨files, hgone, hothers, hstands⟩ := ih (h.erase hfile) hnodup fun other hother => by
        have hother' : name :: place ≠ other :: place := fun heq =>
          hfresh ((List.cons.inj heq).1 ▸ hother)
        dsimp only
        rw [FileTree.kind?_erase _ hne, if_neg hother', hrest other hother]
      refine ⟨files, ?_, ?_, hstands⟩
      · rw [hgone, List.takeWhile_cons_of_pos hname]
        rfl
      · refine Machine.perform_except_bind (h.perform_remove hname hfile) ?_
        rw [clearing_cons hname]
        cases hcount : clearing rest with
        | ok count =>
          rw [hcount] at hothers
          exact Machine.perform_except_bind hothers rfl
        | error e =>
          rw [hcount] at hothers
          exact Machine.perform_except_bind_error hothers

theorem mem_right_iff {names gone left : List String} (hnodup : names.Nodup)
    (hnames : names = gone ++ left) : name ∈ left ↔ name ∈ names ∧ name ∉ gone := by
  subst hnames
  have hdisjoint := (List.nodup_append.mp hnodup).2.2
  rw [List.mem_append]
  refine ⟨fun h => ⟨.inr h, fun hgone => hdisjoint _ hgone _ h rfl⟩, ?_⟩
  rintro ⟨hgone | hleft, hnot⟩
  · exact absurd hgone hnot
  · exact hleft

/-- The directory is listed in order of the names, the last one first. A file that is listed is
loaded and removed by its name, unless a backslash stands in it; then its name is refused, and
nothing changes. Clearing the directory removes the files up to the first one whose name is refused
and nothing else: it counts them if that is all of them, and otherwise it ends with that refusal,
and the rest is listed as before. -/
theorem cleared_up_to_refusal {store : HistoryStore} {m : Machine} {place : Place}
    (h : store.StandsAt m place) : ∃ names : List String,
      m.perform store.list.run = some (.ok (names.map store.entry), m) ∧
      (names.Pairwise fun newer older => older < newer) ∧
      (∀ name, name ∈ names ↔ isHistoryName name = true ∧ name ∈ m.files.children place) ∧
      (∀ name ∈ names, '\\' ∉ name.toList →
        (∃ text, m.files.read m.current (store.directory.join name) = .ok text ∧
          m.perform (store.load name).run =
            some (loaded (store.directory.join name) (.ok text), m)) ∧
        m.perform (store.remove name).run =
          some (.ok true, { m with files := m.files.erase (name :: place) })) ∧
      (∀ name ∈ names, '\\' ∈ name.toList →
        m.perform (store.load name).run = some (.error (.invalidName name), m) ∧
        m.perform (store.remove name).run = some (.error (.invalidName name), m)) ∧
      ∃ (gone left : List String) (files : FileTree), names = gone ++ left ∧
        (∀ name ∈ gone, '\\' ∉ name.toList) ∧ (∀ name ∈ left.head?, '\\' ∈ name.toList) ∧
        m.perform store.clear.run = some (match left with
          | [] => .ok names.length
          | name :: _ => .error (.invalidName name), { m with files }) ∧
        (∀ p, files.node? p = if p ∈ gone.map (· :: place) then none else m.files.node? p) ∧
        Machine.perform { m with files } store.list.run =
          some (.ok (left.map store.entry), { m with files }) := by
  have hsorted := pairwise_listing h.proper place
  have hnodup := nodup_of_descending hsorted
  refine ⟨listing m.files place, h.perform_list, hsorted, fun name => ?_, fun name hname hback => ?_,
    fun name hname hback => ?_, ?_⟩
  · rw [mem_listing, FileTree.mem_children]
  · have hbare := (h.isBareName_iff_of_mem hname).mpr hback
    exact ⟨h.exists_perform_load hbare (h.kind?_of_mem hname),
      h.perform_remove hbare (h.kind?_of_mem hname)⟩
  · have hbare : isBareName name = false := by
      rw [← Bool.not_eq_true, h.isBareName_iff_of_mem hname]
      exact not_not.mpr hback
    rw [store.load_run_refused hbare, store.remove_run_refused hbare]
    exact ⟨rfl, rfl⟩
  · obtain ⟨files, hfiles, hremoved, hstands⟩ :=
      h.perform_removeAll hnodup fun name => h.kind?_of_mem
    have hsplit : listing m.files place = (listing m.files place).takeWhile isBareName ++
        (listing m.files place).dropWhile isBareName := List.takeWhile_append_dropWhile.symm
    have hnodes : ∀ p, files.node? p =
        if p ∈ ((listing m.files place).takeWhile isBareName).map (· :: place) then none
        else m.files.node? p := by
      rw [hfiles]
      exact FileTree.node?_eraseAll (by simp)
    refine ⟨_, _, files, hsplit, fun name hname => ?_, fun name hname => ?_, ?_, hnodes, ?_⟩
    · exact (h.isBareName_iff_of_mem ((List.takeWhile_sublist _).mem hname)).mp
        (List.mem_takeWhile_imp hname)
    · have hrefused := List.head?_dropWhile_not isBareName (listing m.files place)
      rw [Option.mem_def.mp hname] at hrefused
      have hmem := (List.dropWhile_sublist isBareName).mem (List.mem_of_mem_head? hname)
      by_contra hback
      exact absurd ((h.isBareName_iff_of_mem hmem).mpr hback) (by simp [hrefused])
    · exact Machine.perform_except_bind h.perform_list hremoved
    · have hleft : (listing m.files place).dropWhile isBareName = listing files place := by
        refine eq_of_descending (hsorted.sublist (List.dropWhile_sublist isBareName))
          (pairwise_listing hstands.proper place) fun name => ?_
        rw [mem_right_iff hnodup hsplit, mem_listing, mem_listing, hnodes]
        by_cases hgone : name ∈ (listing m.files place).takeWhile isBareName
        · simp [hgone]
        · simp [hgone]
      rw [hstands.perform_list, ← hleft]

def filled (names : List String) : Machine :=
  ⟨⟨(["h"], ⟨none, ⟨0, 0⟩⟩) :: names.map fun name => ([name, "h"], ⟨some "[]", ⟨0, 0⟩⟩)⟩, "/",
    ⟨0, 0⟩, 1, [], 0⟩

/-- Of three histories the last one is removed before the second one is refused. -/
theorem cleared_up_to_refusal_second :
    let m := filled ["notes.txt", "workflow-1.json", "workflow-2\\.json", "workflow-3.json"]
    let store : HistoryStore := ⟨"/h"⟩
    store.StandsAt m ["h"] ∧ ∃ files,
      m.perform store.clear.run =
        some (.error (.invalidName "workflow-2\\.json"), { m with files }) ∧
      files.node? ["workflow-3.json", "h"] = none ∧
      Machine.perform { m with files } store.list.run = some
        (.ok (["workflow-2\\.json", "workflow-1.json"].map store.entry), { m with files }) := by
  intro m store
  have h : store.StandsAt m ["h"] := by decide +kernel
  obtain ⟨names, -, hsorted, hmem, -, -, gone, left, files, hsplit, hgone, hleft, hclear, hnodes,
    hrest⟩ := cleared_up_to_refusal h
  have hnames : names = ["workflow-3.json", "workflow-2\\.json", "workflow-1.json"] := by
    refine eq_of_descending hsorted (by decide) fun name => ?_
    rw [hmem, FileTree.mem_children, FileTree.isSome_node?_iff]
    constructor
    · rintro ⟨hname, n, hn⟩
      simp only [m, filled, List.map_cons, List.map_nil, List.mem_cons, Prod.mk.injEq,
        List.cons.injEq, List.not_mem_nil, or_false, and_true] at hn
      rcases hn with ⟨⟨-, heq⟩, -⟩ | ⟨rfl, -⟩ | ⟨rfl, -⟩ | ⟨rfl, -⟩ | ⟨rfl, -⟩
      · cases heq
      · exact absurd hname (by decide +kernel)
      · simp
      · simp
      · simp
    · simp only [List.mem_cons, List.not_mem_nil, or_false]
      rintro (rfl | rfl | rfl) <;> exact ⟨by decide +kernel, _, by simp [m, filled]; rfl⟩
  rw [hnames] at hsplit hclear
  rcases gone with _ | ⟨first, _ | ⟨second, others⟩⟩
  · obtain rfl : _ = left := hsplit
    exact absurd (hleft "workflow-3.json" rfl) (by decide)
  · obtain ⟨rfl, rfl⟩ := List.cons.inj hsplit
    exact ⟨h, files, hclear, by rw [hnodes]; rfl, hrest⟩
  · obtain ⟨-, hsplit⟩ := List.cons.inj hsplit
    obtain ⟨rfl, -⟩ := List.cons.inj hsplit
    exact absurd (hgone "workflow-2\\.json" (by simp)) (by decide)

/-- A file with a backslash in its name is listed, and it can be neither loaded nor removed; clearing
its directory fails and leaves it there. -/
theorem listed_not_removed :
    let name := "workflow-a\\b.json"
    let m := filled [name]
    let store : HistoryStore := ⟨"/h"⟩
    store.StandsAt m ["h"] ∧
      m.perform store.list.run = some (.ok [⟨name, "/h/workflow-a\\b.json"⟩], m) ∧
      m.perform (store.load name).run = some (.error (.invalidName name), m) ∧
      m.perform (store.remove name).run = some (.error (.invalidName name), m) ∧
      m.perform store.clear.run = some (.error (.invalidName name), m) := by
  decide +kernel

end HistoryStore

end Runbook
