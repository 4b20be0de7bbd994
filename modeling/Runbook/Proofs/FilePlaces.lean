import Runbook.System.FileTree

/-!
Files at their places: what the requests to a tree of files change, and what they leave alone. A
path leads to the same place as long as no directory is taken away. Main statements: what is written
to a file is read back, and a file is not touched by what is done at other places.
-/

namespace Runbook

/-! ### The last name of a path -/

namespace Text

theorem splitAt_append (sep : Char) (s u : List Char) :
    splitAt sep (s ++ sep :: u) = splitAt sep s ++ splitAt sep u := by
  induction s with
  | nil => simp [splitAt]
  | cons c s ih =>
    rw [List.cons_append, splitAt, splitAt, ih]
    split
    · rfl
    · cases hs : splitAt sep s with
      | nil => exact absurd hs (splitAt_ne_nil sep s)
      | cons piece pieces => rfl

theorem splitAt_of_not_mem {sep : Char} {s : List Char} (h : sep ∉ s) : splitAt sep s = [s] := by
  induction s with
  | nil => rfl
  | cons c s ih =>
    obtain ⟨hc, hs⟩ := not_or.mp (mt List.mem_cons.mpr h)
    simp [splitAt, Ne.symm hc, ih hs]

end Text

namespace FilePath

structure IsPlain (name : String) : Prop where
  ne_empty : name ≠ ""
  ne_dot : name ≠ "."
  ne_dots : name ≠ ".."
  no_slash : '/' ∉ name.toList

instance (name : String) : Decidable (IsPlain name) :=
  decidable_of_iff (name ≠ "" ∧ name ≠ "." ∧ name ≠ ".." ∧ '/' ∉ name.toList)
    ⟨fun ⟨hempty, hdot, hdots, hslash⟩ => ⟨hempty, hdot, hdots, hslash⟩,
      fun ⟨hempty, hdot, hdots, hslash⟩ => ⟨hempty, hdot, hdots, hslash⟩⟩

/-- The last name of a path is the one given, and no slash follows it. -/
structure LeadsTo (path : FilePath) (name : String) : Prop where
  names : ∃ front, path.names = front ++ [name]
  ne_dots : name ≠ ".."
  no_slash : path.toList.getLast? ≠ some '/'

theorem LeadsTo.unique {path : FilePath} {name other : String} (h : path.LeadsTo name)
    (hother : path.LeadsTo other) : name = other := by
  obtain ⟨front, hnames⟩ := h.names
  obtain ⟨front', hnames'⟩ := hother.names
  simpa using congrArg List.getLast? (hnames.symm.trans hnames')

variable {name : String}

theorem names_of_isPlain (h : IsPlain name) : FilePath.names name = [name] := by
  have hempty : name.isEmpty = false := by simpa using h.ne_empty
  rw [FilePath.names, splitText, Text.splitAt_of_not_mem h.no_slash]
  simp [hempty, h.ne_dot]

theorem names_of_toList {path : FilePath} {front : List Char} (h : IsPlain name)
    (hpath : path.toList = front ++ '/' :: name.toList) :
    path.names = FilePath.names (String.ofList front) ++ [name] := by
  rw [← names_of_isPlain h, FilePath.names, FilePath.names, FilePath.names, splitText, splitText,
    splitText, hpath, Text.splitAt_append, List.map_append, List.filter_append, String.toList_ofList]

theorem getLast?_of_isPlain (h : IsPlain name) (front : List Char) :
    (front ++ name.toList).getLast? ≠ some '/' := by
  have hne : name.toList ≠ [] := by simpa using h.ne_empty
  obtain ⟨last, hlast⟩ := Option.ne_none_iff_exists'.mp (mt List.getLast?_eq_none_iff.mp hne)
  rw [List.getLast?_append, hlast, Option.some_or]
  rintro ⟨⟩
  exact h.no_slash (List.mem_of_getLast? hlast)

theorem isAbsolute_of_isPlain (h : IsPlain name) : isAbsolute name = false := by
  cases hname : name.toList with
  | nil => simp [isAbsolute, hname]
  | cons c rest =>
    have hc : c ≠ '/' := fun heq => h.no_slash (by simp [hname, heq])
    simp [isAbsolute, hname, hc]

theorem toList_join {dir : FilePath} (hdir : dir ≠ "") (h : IsPlain name) :
    ∃ front, (dir.join name).toList = front ++ '/' :: name.toList ∧
      (dir.toList = front ∨ dir.toList = front ++ ['/']) := by
  have hempty : dir.isEmpty = false := by simpa using hdir
  have hrelative := isAbsolute_of_isPlain h
  by_cases hslash : dir.toList.getLast? = some '/'
  · obtain ⟨front, hfront⟩ := List.getLast?_eq_some_iff.mp hslash
    have hjoin : dir.join name = dir ++ name := by simp [join, hempty, hrelative, hslash]
    refine ⟨front, ?_, .inr hfront⟩
    rw [hjoin, String.toList_append, hfront, List.append_assoc, List.singleton_append]
  · have hjoin : dir.join name = dir ++ "/" ++ name := by
      simp [join, hempty, hrelative, hslash]
    refine ⟨dir.toList, ?_, .inl rfl⟩
    rw [hjoin, String.toList_append, String.toList_append, List.append_assoc]
    rfl

theorem names_join {dir : FilePath} (hdir : dir ≠ "") (h : IsPlain name) :
    (dir.join name).names = dir.names ++ [name] := by
  obtain ⟨front, hpath, hfront⟩ := toList_join hdir h
  rw [names_of_toList h hpath]
  congr 1
  rcases hfront with hfront | hfront
  · rw [← hfront, String.ofList_toList]
  · simp [FilePath.names, splitText, hfront, Text.splitAt_append, Text.splitAt]

theorem isAbsolute_join {dir : FilePath} (hdir : dir ≠ "") (h : IsPlain name) :
    (dir.join name).isAbsolute = dir.isAbsolute := by
  obtain ⟨front, hpath, hfront⟩ := toList_join hdir h
  rw [isAbsolute, isAbsolute, hpath]
  rcases hfront with rfl | hfront
  · have hne : dir.toList ≠ [] := by simpa using hdir
    obtain ⟨c, rest, hc⟩ := List.exists_cons_of_ne_nil hne
    simp [hc]
  · cases front with
    | nil => simp [hfront]
    | cons c front => simp [hfront]

theorem leadsTo_join (dir : FilePath) (h : IsPlain name) : (dir.join name).LeadsTo name := by
  by_cases hdir : dir = ""
  · have hjoin : dir.join name = name := by simp [join, hdir]
    rw [hjoin]
    exact ⟨⟨[], names_of_isPlain h⟩, h.ne_dots, getLast?_of_isPlain h []⟩
  · obtain ⟨front, hpath, -⟩ := toList_join hdir h
    refine ⟨⟨dir.names, names_join hdir h⟩, h.ne_dots, ?_⟩
    rw [hpath, List.append_cons]
    exact getLast?_of_isPlain h _

end FilePath

namespace FileTree

variable {t u : FileTree} {current path : FilePath} {place other : Place} {now : Timestamp}

/-! ### Nodes -/

def textAt? (t : FileTree) (place : Place) : Option String := (t.node? place).bind FileNode.text

theorem node?_insert (t : FileTree) (hplace : place ≠ []) (n : FileNode) (other : Place) :
    (t.insert place n).node? other = if place = other then some n else t.node? other := by
  cases other with
  | nil => simp [node?, hplace]
  | cons name parent => simp [node?, insert, Bindings.find?_bind]

theorem node?_erase (t : FileTree) (hplace : place ≠ []) (other : Place) :
    (t.erase place).node? other = if place = other then none else t.node? other := by
  cases other with
  | nil => simp [node?, hplace]
  | cons name parent =>
    by_cases h : place = name :: parent
    · subst h
      simpa [node?, erase] using Bindings.find?_filter_eq_none fun a => by simp
    · simpa [node?, erase, h] using Bindings.find?_filter fun a => by simp [Ne.symm h]

theorem kind?_insert (t : FileTree) (hplace : place ≠ []) (n : FileNode) (other : Place) :
    (t.insert place n).kind? other = if place = other then some n.kind else t.kind? other := by
  rw [kind?, node?_insert t hplace]
  split <;> rfl

theorem kind?_erase (t : FileTree) (hplace : place ≠ []) (other : Place) :
    (t.erase place).kind? other = if place = other then none else t.kind? other := by
  rw [kind?, node?_erase t hplace]
  split <;> rfl

theorem kind?_eq_file_iff : t.kind? place = some .file ↔ (t.textAt? place).isSome = true := by
  unfold kind? textAt? FileNode.kind
  cases t.node? place with
  | none => simp
  | some n =>
    obtain ⟨text, modified⟩ := n
    cases text <;> simp

theorem ne_nil_of_textAt? {text : String} (h : t.textAt? place = some text) : place ≠ [] := by
  rintro rfl
  cases h

/-! ### Paths -/

def KeepsDirectories (t u : FileTree) : Prop :=
  ∀ place, t.kind? place = some .directory → u.kind? place = some .directory

theorem asDirectory_eq_ok_iff : t.asDirectory place = .ok () ↔ t.kind? place = some .directory := by
  unfold asDirectory
  cases t.kind? place with
  | none => simp
  | some k => cases k <;> simp

theorem follow_cons (t : FileTree) (place : Place) (name : String) (rest : List String) :
    t.follow place (name :: rest) = (t.asDirectory place).bind fun _ =>
      t.follow (if name = ".." then place.tail else name :: place) rest := rfl

theorem follow_append (t : FileTree) (place : Place) (front back : List String) :
    t.follow place (front ++ back) = (t.follow place front).bind fun p => t.follow p back := by
  induction front generalizing place with
  | nil => rfl
  | cons name rest ih =>
    rw [List.cons_append, follow_cons, follow_cons]
    cases t.asDirectory place with
    | error e => rfl
    | ok u => exact ih _

theorem KeepsDirectories.follow (h : KeepsDirectories t u) {names : List String}
    (hfollow : t.follow place names = .ok other) : u.follow place names = .ok other := by
  induction names generalizing place with
  | nil => exact hfollow
  | cons name rest ih =>
    rw [follow_cons] at hfollow ⊢
    cases hdir : t.asDirectory place with
    | error e => simp [hdir, Except.bind] at hfollow
    | ok _ =>
      rw [asDirectory_eq_ok_iff.mpr (h place (asDirectory_eq_ok_iff.mp hdir))]
      rw [hdir] at hfollow
      exact ih hfollow

def origin (t : FileTree) (current path : FilePath) : Except SystemError Place :=
  if path.isAbsolute then .ok [] else t.follow [] current.names

theorem locate_eq (t : FileTree) (current path : FilePath) : t.locate current path =
    if path.isEmpty then .error .notFound
    else (t.origin current path).bind fun start => (t.follow start path.names).bind fun place =>
      if path.toList.getLast? = some '/' ∧ t.kind? place = some .file then .error .notDirectory
      else .ok place := by
  unfold locate origin
  split
  · rfl
  · split <;> rfl

theorem locate_eq_ok_iff : t.locate current path = .ok place ↔ path.isEmpty = false ∧
    (∃ start, t.origin current path = .ok start ∧ t.follow start path.names = .ok place) ∧
    ¬ (path.toList.getLast? = some '/' ∧ t.kind? place = some .file) := by
  rw [locate_eq]
  by_cases hempty : path.isEmpty = true
  · simp [hempty]
  · rw [if_neg hempty]
    cases horigin : t.origin current path with
    | error e => simp [Except.bind]
    | ok start =>
      cases hfollow : t.follow start path.names with
      | error e => simp [Except.bind, hfollow]
      | ok p =>
        simp only [Except.bind, hfollow, hempty, Except.ok.injEq, exists_eq_left', true_and]
        split
        next hslash => exact ⟨fun h => (by cases h), fun ⟨hp, hnot⟩ => absurd (hp ▸ hslash) hnot⟩
        next hslash =>
          exact ⟨fun h => ⟨Except.ok.inj h, Except.ok.inj h ▸ hslash⟩, fun h => congrArg _ h.1⟩

theorem KeepsDirectories.origin (h : KeepsDirectories t u)
    (horigin : t.origin current path = .ok place) : u.origin current path = .ok place := by
  unfold FileTree.origin at horigin ⊢
  split
  next habsolute => rwa [if_pos habsolute] at horigin
  next habsolute =>
    rw [if_neg habsolute] at horigin
    exact h.follow horigin

theorem KeepsDirectories.locate (h : KeepsDirectories t u)
    (hslash : path.toList.getLast? ≠ some '/') (hlocate : t.locate current path = .ok place) :
    u.locate current path = .ok place := by
  obtain ⟨hempty, ⟨start, horigin, hfollow⟩, -⟩ := locate_eq_ok_iff.mp hlocate
  exact locate_eq_ok_iff.mpr ⟨hempty, ⟨start, h.origin horigin, h.follow hfollow⟩,
    fun hnot => hslash hnot.1⟩

theorem KeepsDirectories.locate_directory (h : KeepsDirectories t u)
    (hlocate : t.locate current path = .ok place) (hkind : t.kind? place = some .directory) :
    u.locate current path = .ok place := by
  obtain ⟨hempty, ⟨start, horigin, hfollow⟩, -⟩ := locate_eq_ok_iff.mp hlocate
  exact locate_eq_ok_iff.mpr ⟨hempty, ⟨start, h.origin horigin, h.follow hfollow⟩,
    by simp [h place hkind]⟩

theorem exists_of_locate_leadsTo {name : String} (hpath : path.LeadsTo name)
    (h : t.locate current path = .ok place) :
    ∃ dir, place = name :: dir ∧ t.kind? dir = some .directory := by
  obtain ⟨-, ⟨start, -, hfollow⟩, -⟩ := locate_eq_ok_iff.mp h
  obtain ⟨front, hnames⟩ := hpath.names
  rw [hnames, follow_append] at hfollow
  cases hfront : t.follow start front with
  | error e => simp [hfront, Except.bind] at hfollow
  | ok p =>
    rw [hfront, Except.bind, follow_cons] at hfollow
    cases hdir : t.asDirectory p with
    | error e => simp [hdir, Except.bind] at hfollow
    | ok _ =>
      simp only [hdir, Except.bind, hpath.ne_dots, if_false] at hfollow
      exact ⟨p, (Except.ok.inj hfollow).symm, asDirectory_eq_ok_iff.mp hdir⟩

theorem origin_join {dir : FilePath} {name : String} (hdir : dir ≠ "")
    (hname : FilePath.IsPlain name) : t.origin current (dir.join name) = t.origin current dir := by
  rw [origin, origin, FilePath.isAbsolute_join hdir hname]

theorem locate_join_iff {dir : FilePath} {name : String} (hdir : dir ≠ "")
    (hname : FilePath.IsPlain name) : t.locate current (dir.join name) = .ok place ↔
      ∃ parent, place = name :: parent ∧ t.locate current dir = .ok parent ∧
        t.kind? parent = some .directory := by
  have hleads := FilePath.leadsTo_join dir hname
  constructor
  · intro h
    obtain ⟨parent, rfl, hkind⟩ := exists_of_locate_leadsTo hleads h
    obtain ⟨-, ⟨start, horigin, hfollow⟩, -⟩ := locate_eq_ok_iff.mp h
    rw [origin_join hdir hname] at horigin
    rw [FilePath.names_join hdir hname, follow_append] at hfollow
    refine ⟨parent, rfl, locate_eq_ok_iff.mpr ⟨by simpa using hdir, ⟨start, horigin, ?_⟩, ?_⟩, hkind⟩
    · cases hfront : t.follow start dir.names with
      | error e => simp [hfront, Except.bind] at hfollow
      | ok p =>
        rw [hfront, Except.bind, follow_cons] at hfollow
        cases hp : t.asDirectory p with
        | error e => simp [hp, Except.bind] at hfollow
        | ok _ =>
          rw [hp, Except.bind, if_neg hname.ne_dots] at hfollow
          rw [(List.cons.inj (Except.ok.inj hfollow)).2]
    · simp [hkind]
  · rintro ⟨parent, rfl, h, hkind⟩
    obtain ⟨-, ⟨start, horigin, hfollow⟩, -⟩ := locate_eq_ok_iff.mp h
    refine locate_eq_ok_iff.mpr ⟨?_, ⟨start, ?_, ?_⟩, fun hslash => hleads.no_slash hslash.1⟩
    · obtain ⟨front, hpath, -⟩ := FilePath.toList_join hdir hname
      have hne : (dir.join name).toList ≠ [] := by simp [hpath]
      simpa using hne
    · rw [origin_join hdir hname, horigin]
    · rw [FilePath.names_join hdir hname, follow_append, hfollow, Except.bind, follow_cons,
        asDirectory_eq_ok_iff.mpr hkind, Except.bind, if_neg hname.ne_dots]
      rfl

theorem head?_of_locate {name : String} (hpath : path.LeadsTo name)
    (h : t.locate current path = .ok place) : place.head? = some name := by
  obtain ⟨dir, rfl, -⟩ := exists_of_locate_leadsTo hpath h
  rfl

/-! ### What is read -/

theorem read_eq_ok_iff {text : String} : t.read current path = .ok text ↔
    ∃ place, t.locate current path = .ok place ∧ t.textAt? place = some text := by
  unfold read textAt?
  cases hlocate : t.locate current path with
  | error e => simp [bind, Except.bind]
  | ok p =>
    simp only [bind, Except.bind, Except.ok.injEq, exists_eq_left']
    cases t.node? p with
    | none => simp
    | some n =>
      obtain ⟨content, modified⟩ := n
      cases content <;> simp

theorem read_eq_notFound_iff : t.read current path = .error .notFound ↔
    t.locate current path = .error .notFound ∨
      ∃ place, t.locate current path = .ok place ∧ t.node? place = none := by
  unfold read
  cases hlocate : t.locate current path with
  | error e => simp [bind, Except.bind]
  | ok p =>
    simp only [bind, Except.bind, Except.ok.injEq, exists_eq_left', reduceCtorEq, false_or]
    cases t.node? p with
    | none => simp
    | some n =>
      obtain ⟨content, modified⟩ := n
      cases content <;> simp

/-! ### What a change spares -/

/-- No directory is taken away, and the files that none of the paths leads to stay as they are. -/
structure Spares (current : FilePath) (paths : List FilePath) (t u : FileTree) : Prop where
  directories : t.KeepsDirectories u
  texts : ∀ place, (∀ path ∈ paths, u.locate current path ≠ .ok place) →
    u.textAt? place = t.textAt? place

variable {paths more : List FilePath} {v : FileTree}

theorem Spares.refl : Spares current paths t t := ⟨fun _ h => h, fun _ _ => rfl⟩

theorem Spares.mono (h : Spares current paths t u) (hsub : paths ⊆ more) :
    Spares current more t u :=
  ⟨h.directories, fun place hplace => h.texts place fun path hpath => hplace path (hsub hpath)⟩

theorem Spares.trans (hpaths : ∀ path ∈ paths, path.toList.getLast? ≠ some '/')
    (h : Spares current paths t u) (hnext : Spares current paths u v) :
    Spares current paths t v := by
  refine ⟨fun p hp => hnext.directories p (h.directories p hp), fun place hplace => ?_⟩
  rw [hnext.texts place hplace]
  exact h.texts place fun path hpath hlocate =>
    hplace path hpath (hnext.directories.locate (hpaths path hpath) hlocate)

theorem Spares.read {name text : String} (h : Spares current paths t u) (hpath : path.LeadsTo name)
    (hother : ∀ q ∈ paths, ∃ other, other ≠ name ∧ q.LeadsTo other)
    (hread : t.read current path = .ok text) : u.read current path = .ok text := by
  obtain ⟨place, hlocate, htext⟩ := read_eq_ok_iff.mp hread
  have hplace := h.directories.locate hpath.no_slash hlocate
  refine read_eq_ok_iff.mpr ⟨place, hplace, (h.texts place fun q hq hlocate => ?_).trans htext⟩
  obtain ⟨other, hne, hleads⟩ := hother q hq
  have hhead : some other = some name :=
    (head?_of_locate hleads hlocate).symm.trans (head?_of_locate hpath hplace)
  exact hne (Option.some.inj hhead)

/-- Where a path led to a place, new directories do not make it lead to another file. -/
theorem Spares.read_of_located (h : Spares current [] t u)
    (hslash : path.toList.getLast? ≠ some '/') (hlocate : t.locate current path = .ok place)
    {text : String} (hread : u.read current path = .ok text) :
    t.read current path = .ok text := by
  obtain ⟨p, hp, htext⟩ := read_eq_ok_iff.mp hread
  obtain rfl : place = p := Except.ok.inj ((h.directories.locate hslash hlocate).symm.trans hp)
  exact read_eq_ok_iff.mpr ⟨place, hlocate, (h.texts place (by simp)).symm.trans htext⟩

/-! ### Requests that change files -/

theorem keepsDirectories_insert (hplace : place ≠ []) (hkind : t.kind? place ≠ some .directory)
    (n : FileNode) : t.KeepsDirectories (t.insert place n) := by
  intro p hp
  have hne : place ≠ p := fun heq => hkind (heq ▸ hp)
  simpa [kind?, node?_insert t hplace, hne] using hp

theorem spares_insert (hslash : path.toList.getLast? ≠ some '/')
    (hlocate : t.locate current path = .ok place) (hplace : place ≠ [])
    (hkind : t.kind? place ≠ some .directory) (n : FileNode) :
    Spares current [path] t (t.insert place n) := by
  have hkeeps := keepsDirectories_insert hplace hkind n
  refine ⟨hkeeps, fun p hp => ?_⟩
  have hne : place ≠ p := fun heq => hp path (by simp) (heq ▸ hkeeps.locate hslash hlocate)
  simp [textAt?, node?_insert t hplace, hne]

theorem spares_insert_directory (hplace : place ≠ []) (hnode : t.node? place = none) :
    Spares current [] t (t.insert place ⟨none, now⟩) := by
  refine ⟨keepsDirectories_insert hplace (by simp [kind?, hnode]) _, fun p _ => ?_⟩
  by_cases hne : place = p
  · subst hne
    simp [textAt?, node?_insert t hplace, hnode]
  · simp [textAt?, node?_insert t hplace, hne]

theorem keepsDirectories_erase (hplace : place ≠ []) (hkind : t.kind? place ≠ some .directory) :
    t.KeepsDirectories (t.erase place) := by
  intro p hp
  have hne : place ≠ p := fun heq => hkind (heq ▸ hp)
  simpa [kind?, node?_erase t hplace, hne] using hp

theorem spares_erase (hslash : path.toList.getLast? ≠ some '/')
    (hlocate : t.locate current path = .ok place) (hplace : place ≠ [])
    (hkind : t.kind? place ≠ some .directory) : Spares current [path] t (t.erase place) := by
  have hkeeps := keepsDirectories_erase hplace hkind
  refine ⟨hkeeps, fun p hp => ?_⟩
  have hne : place ≠ p := fun heq => hp path (by simp) (heq ▸ hkeeps.locate hslash hlocate)
  simp [textAt?, node?_erase t hplace, hne]

/-- A file can be put at the path: it leads to a file, or to nothing in a directory. -/
structure Takes (t : FileTree) (current path : FilePath) (place : Place) : Prop where
  no_slash : path.toList.getLast? ≠ some '/'
  located : t.locate current path = .ok place
  kind : t.kind? place = some .file ∨
    place ≠ [] ∧ t.kind? place = none ∧ t.kind? place.tail = some .directory

theorem Takes.ne_nil (h : Takes t current path place) : place ≠ [] := by
  rcases h.kind with hfile | hnone
  · rintro rfl
    cases hfile
  · exact hnone.1

theorem Takes.ne_directory (h : Takes t current path place) :
    t.kind? place ≠ some .directory := by
  rcases h.kind with hfile | hnone
  · simp [hfile]
  · simp [hnone.2.1]

theorem Takes.spares (h : Takes t current path place) (n : FileNode) :
    Spares current [path] t (t.insert place n) :=
  spares_insert h.no_slash h.located h.ne_nil h.ne_directory n

theorem takes_of_leadsTo {name : String} (hpath : path.LeadsTo name)
    (h : t.locate current path = .ok place) (hkind : t.kind? place ≠ some .directory) :
    Takes t current path place := by
  obtain ⟨dir, rfl, hdir⟩ := exists_of_locate_leadsTo hpath h
  refine ⟨hpath.no_slash, h, ?_⟩
  cases hplace : t.kind? (name :: dir) with
  | none => exact .inr ⟨by simp, rfl, hdir⟩
  | some k =>
    cases k with
    | file => exact .inl rfl
    | directory => exact absurd hplace hkind

theorem takes_of_read {text : String} (h : t.read current path = .ok text) :
    ∃ place, Takes t current path place ∧ t.textAt? place = some text := by
  obtain ⟨place, hlocate, htext⟩ := read_eq_ok_iff.mp h
  have hfile : t.kind? place = some .file :=
    kind?_eq_file_iff.mpr (Option.isSome_of_eq_some htext)
  refine ⟨place, ⟨?_, hlocate, .inl hfile⟩, htext⟩
  intro hslash
  exact (locate_eq_ok_iff.mp hlocate).2.2 ⟨hslash, hfile⟩

theorem Spares.read_same {text : String} (h : Spares current [] t u)
    (hread : t.read current path = .ok text) : u.read current path = .ok text := by
  obtain ⟨place, htakes, htext⟩ := takes_of_read hread
  refine read_eq_ok_iff.mpr ⟨place, h.directories.locate htakes.no_slash htakes.located, ?_⟩
  rw [h.texts place (by simp), htext]

theorem write_eq {change : String → String} (hslash : path.toList.getLast? ≠ some '/') :
    t.write current now path change = (t.locate current path).bind fun place =>
      match place, t.node? place with
      | _, some ⟨none, _⟩ => .error .isDirectory
      | _, some ⟨some text, _⟩ => .ok (t.insert place ⟨some (change text), now⟩)
      | [], none => .error .isDirectory
      | _ :: parent, none =>
        (t.asDirectory parent).bind fun _ => .ok (t.insert place ⟨some (change ""), now⟩) := by
  have htrim : (path.toList.reverse.dropWhile (· == '/')).reverse = path.toList := by
    cases hrev : path.toList.reverse with
    | nil => simp [List.reverse_eq_nil_iff.mp hrev]
    | cons c rest =>
      have hpath : path.toList = rest.reverse ++ [c] := by
        rw [← List.reverse_cons, ← hrev, List.reverse_reverse]
      have hc : c ≠ '/' := by
        rintro rfl
        exact hslash (by simp [hpath])
      simp [hc, hpath]
  have hnamed : String.ofList (path.toList.reverse.dropWhile (· == '/')).reverse = path := by
    rw [htrim, String.ofList_toList]
  unfold write
  simp only [hnamed, ite_self, ne_eq, not_true_eq_false, false_and, if_false]
  rfl

theorem Takes.write (h : Takes t current path place) (change : String → String) :
    t.write current now path change =
      .ok (t.insert place ⟨some (change ((t.textAt? place).getD "")), now⟩) := by
  rw [write_eq h.no_slash, h.located, Except.bind]
  rcases h.kind with hfile | ⟨hne, hnone, hdir⟩
  · obtain ⟨text, htext⟩ := Option.isSome_iff_exists.mp (kind?_eq_file_iff.mp hfile)
    obtain ⟨⟨content, modified⟩, hnode, rfl⟩ := Option.bind_eq_some_iff.mp htext
    simp [hnode, textAt?]
  · obtain ⟨name, parent, rfl⟩ := List.exists_cons_of_ne_nil hne
    have hnode : t.node? (name :: parent) = none := Option.map_eq_none_iff.mp hnone
    have hparent : t.asDirectory parent = .ok () := asDirectory_eq_ok_iff.mpr hdir
    simp [hnode, hparent, textAt?, Except.bind]

theorem takes_of_write {change : String → String} (hslash : path.toList.getLast? ≠ some '/')
    (h : t.write current now path change = .ok u) : ∃ place, Takes t current path place := by
  rw [write_eq hslash] at h
  cases hlocate : t.locate current path with
  | error e => simp [hlocate, Except.bind] at h
  | ok place =>
    refine ⟨place, hslash, hlocate, ?_⟩
    rw [hlocate, Except.bind] at h
    cases hnode : t.node? place with
    | some n =>
      obtain ⟨content, modified⟩ := n
      cases content with
      | none => simp [hnode] at h
      | some text => exact .inl (by simp [kind?, hnode, FileNode.kind])
    | none =>
      cases place with
      | nil => cases hnode
      | cons name parent =>
        cases hdir : t.asDirectory parent with
        | error e => simp [hnode, hdir, Except.bind] at h
        | ok _ => exact .inr ⟨by simp, by simp [kind?, hnode], asDirectory_eq_ok_iff.mp hdir⟩

theorem write_eq_ok {change : String → String} (hslash : path.toList.getLast? ≠ some '/')
    (h : t.write current now path change = .ok u) : Spares current [path] t u ∧
      ∃ old, u.read current path = .ok (change old) := by
  obtain ⟨place, htakes⟩ := takes_of_write hslash h
  obtain rfl := Except.ok.inj ((htakes.write change).symm.trans h)
  have hspares := htakes.spares ⟨some (change ((t.textAt? place).getD "")), now⟩
  refine ⟨hspares, (t.textAt? place).getD "", read_eq_ok_iff.mpr
    ⟨place, hspares.directories.locate hslash htakes.located, ?_⟩⟩
  rw [textAt?, node?_insert t htakes.ne_nil, if_pos rfl, Option.bind_some]

theorem exists_of_makeDirectory (h : t.makeDirectory current now path = .ok u) :
    ∃ name parent, t.locate current path = .ok (name :: parent) ∧
      t.node? (name :: parent) = none ∧ t.kind? parent = some .directory ∧
      u = t.insert (name :: parent) ⟨none, now⟩ := by
  unfold makeDirectory at h
  cases hlocate : t.locate current path with
  | error e => simp [hlocate, bind, Except.bind] at h
  | ok place =>
    simp only [hlocate, bind, Except.bind, pure, Except.pure] at h
    split at h
    next => cases h
    next => cases h
    next name parent hnode =>
      cases hdir : t.asDirectory parent with
      | error e => simp [hdir] at h
      | ok _ =>
        rw [hdir] at h
        exact ⟨name, parent, rfl, hnode, asDirectory_eq_ok_iff.mp hdir, (Except.ok.inj h).symm⟩

theorem spares_makeDirectory (h : t.makeDirectory current now path = .ok u) :
    Spares current [] t u := by
  obtain ⟨name, parent, -, hnode, -, rfl⟩ := exists_of_makeDirectory h
  exact spares_insert_directory (by simp) hnode

theorem ensureDirectory_eq_ok (h : t.ensureDirectory current now path = .ok u) :
    t.makeDirectory current now path = .ok u ∨ t.isDirectory current path = true ∧ u = t := by
  unfold ensureDirectory at h
  split at h
  next made hmade =>
    obtain rfl := Except.ok.inj h
    exact .inl hmade
  next =>
    split at h
    next hdir => exact .inr ⟨hdir, (Except.ok.inj h).symm⟩
    next => cases h

/-- The last step in making directories sees to the directory itself, after those above it. -/
theorem exists_of_makeDirectories {depth : Nat} (hempty : path.isEmpty = false)
    (h : t.makeDirectories current now path (depth + 1) = .ok u) :
    ∃ v, v.ensureDirectory current now path = .ok u ∧
      (v = t ∨ ∃ parent, t.makeDirectories current now parent depth = .ok v) := by
  rw [makeDirectories, if_neg (by simp [hempty])] at h
  split at h
  next parent _ _ =>
    cases habove : t.makeDirectories current now parent depth with
    | error e => simp [habove, bind, Except.bind] at h
    | ok v =>
      simp only [habove, bind, Except.bind] at h
      exact ⟨v, h, .inr ⟨parent, habove⟩⟩
  next => exact ⟨t, h, .inl rfl⟩

/-- What every new directory keeps is kept where those above it are made too. -/
theorem makeDirectories_induction {P : FileTree → Prop} {depth : Nat}
    (hstep : ∀ {v w path}, P v → v.makeDirectory current now path = .ok w → P w) (hfirst : P t)
    (h : t.makeDirectories current now path depth = .ok u) : P u := by
  induction depth generalizing path u with
  | zero => cases h
  | succ depth ih =>
    cases hempty : path.isEmpty with
    | true =>
      rw [makeDirectories, if_pos hempty] at h
      exact Except.ok.inj h ▸ hfirst
    | false =>
      obtain ⟨v, hensure, hv⟩ := exists_of_makeDirectories hempty h
      have hkept : P v := by
        rcases hv with rfl | ⟨parent, habove⟩
        · exact hfirst
        · exact ih habove
      rcases ensureDirectory_eq_ok hensure with hmade | ⟨-, rfl⟩
      · exact hstep hkept hmade
      · exact hkept

theorem spares_makeDirectories {depth : Nat}
    (h : t.makeDirectories current now path depth = .ok u) : Spares current [] t u :=
  makeDirectories_induction
    (fun hspares hmade => hspares.trans (by simp) (spares_makeDirectory hmade)) .refl h

theorem exists_of_remove (h : t.remove current path = .ok u) : ∃ place text,
    t.locate current path = .ok place ∧ t.textAt? place = some text ∧ u = t.erase place := by
  unfold remove at h
  cases hlocate : t.locate current path with
  | error e => simp [hlocate, bind, Except.bind] at h
  | ok place =>
    simp only [hlocate, bind, Except.bind, pure, Except.pure] at h
    split at h
    next => cases h
    next => cases h
    next text modified hnode =>
      exact ⟨place, text, rfl, by simp [textAt?, hnode], (Except.ok.inj h).symm⟩

theorem remove_of_located {text : String} (hlocate : t.locate current path = .ok place)
    (htext : t.textAt? place = some text) : t.remove current path = .ok (t.erase place) := by
  obtain ⟨⟨content, modified⟩, hnode, rfl⟩ := Option.bind_eq_some_iff.mp htext
  simp [remove, hlocate, hnode, bind, Except.bind, pure, Except.pure]

theorem exists_remove_of_read {text : String} (h : t.read current path = .ok text) :
    ∃ u, t.remove current path = .ok u := by
  obtain ⟨place, hlocate, htext⟩ := read_eq_ok_iff.mp h
  exact ⟨_, remove_of_located hlocate htext⟩

theorem read_of_remove_notFound (h : t.remove current path = .error .notFound) :
    t.read current path = .error .notFound := by
  unfold remove at h
  rw [read_eq_notFound_iff]
  cases hlocate : t.locate current path with
  | error e =>
    simp only [hlocate, bind, Except.bind, Except.error.injEq] at h
    exact .inl (by rw [h])
  | ok place =>
    simp only [hlocate, bind, Except.bind, pure, Except.pure] at h
    split at h
    next hnode => exact .inr ⟨place, rfl, hnode⟩
    next => cases h
    next => cases h

theorem asDirectory_eq_notFound_iff :
    t.asDirectory place = .error .notFound ↔ t.node? place = none := by
  unfold asDirectory kind?
  cases t.node? place with
  | none => simp
  | some n => cases hn : n.kind <;> simp [hn]

theorem KeepsDirectories.follow_notFound (h : KeepsDirectories t u)
    (hnone : ∀ p, t.node? p = none → u.node? p = none) {names : List String}
    (hfollow : t.follow place names = .error .notFound) :
    u.follow place names = .error .notFound := by
  induction names generalizing place with
  | nil => cases hfollow
  | cons name rest ih =>
    rw [follow_cons] at hfollow ⊢
    cases hdir : t.asDirectory place with
    | error e =>
      obtain rfl : e = .notFound := by simpa [hdir, Except.bind] using hfollow
      rw [asDirectory_eq_notFound_iff.mpr (hnone place (asDirectory_eq_notFound_iff.mp hdir))]
      rfl
    | ok _ =>
      rw [asDirectory_eq_ok_iff.mpr (h place (asDirectory_eq_ok_iff.mp hdir))]
      rw [hdir] at hfollow
      exact ih hfollow

theorem locate_eq_notFound_iff : t.locate current path = .error .notFound ↔
    path.isEmpty = true ∨ t.origin current path = .error .notFound ∨
      ∃ start, t.origin current path = .ok start ∧
        t.follow start path.names = .error .notFound := by
  rw [locate_eq]
  by_cases hempty : path.isEmpty = true
  · simp [hempty]
  · rw [if_neg hempty]
    cases horigin : t.origin current path with
    | error e => simp [Except.bind, hempty]
    | ok start =>
      cases hfollow : t.follow start path.names with
      | error e => simp [Except.bind, hfollow, hempty]
      | ok p =>
        simp only [Except.bind, hfollow, hempty]
        split <;> simp [hfollow]

theorem KeepsDirectories.origin_notFound (h : KeepsDirectories t u)
    (hnone : ∀ p, t.node? p = none → u.node? p = none)
    (horigin : t.origin current path = .error .notFound) :
    u.origin current path = .error .notFound := by
  unfold FileTree.origin at horigin ⊢
  split
  next habsolute => rw [if_pos habsolute] at horigin; cases horigin
  next habsolute =>
    rw [if_neg habsolute] at horigin
    exact h.follow_notFound hnone horigin

/-- A file is missing after a change that spares all others and makes nothing that is missing. -/
structure Removes (current path : FilePath) (t u : FileTree) : Prop where
  spares : Spares current [path] t u
  missing : u.read current path = .error .notFound
  stays : ∀ other : FilePath, other.toList.getLast? ≠ some '/' →
    t.read current other = .error .notFound → u.read current other = .error .notFound

theorem removes_of_missing (h : t.remove current path = .error .notFound) :
    Removes current path t t := ⟨.refl, read_of_remove_notFound h, fun _ _ hread => hread⟩

theorem removes_of_remove (hslash : path.toList.getLast? ≠ some '/')
    (h : t.remove current path = .ok u) : Removes current path t u := by
  obtain ⟨place, text, hlocate, htext, rfl⟩ := exists_of_remove h
  have hplace := ne_nil_of_textAt? htext
  have hkind : t.kind? place ≠ some .directory := by
    rw [kind?_eq_file_iff.mpr (Option.isSome_of_eq_some htext)]
    simp
  have hspares := spares_erase hslash hlocate hplace hkind
  have hkeeps := hspares.directories
  have hnone : ∀ p, t.node? p = none → (t.erase place).node? p = none := by
    intro p hp
    rw [node?_erase t hplace, hp, ite_self]
  refine ⟨hspares, read_eq_notFound_iff.mpr (.inr ⟨place, hkeeps.locate hslash hlocate, ?_⟩), ?_⟩
  · simp [node?_erase t hplace]
  · intro other hother hread
    rw [read_eq_notFound_iff] at hread ⊢
    rcases hread with hread | ⟨p, hp, hnode⟩
    · refine .inl (locate_eq_notFound_iff.mpr ?_)
      rcases locate_eq_notFound_iff.mp hread with hempty | horigin | ⟨start, horigin, hfollow⟩
      · exact .inl hempty
      · exact .inr (.inl (hkeeps.origin_notFound hnone horigin))
      · exact .inr (.inr ⟨start, hkeeps.origin horigin, hkeeps.follow_notFound hnone hfollow⟩)
    · exact .inr ⟨p, hkeeps.locate hother hp, hnone p hnode⟩

end FileTree

end Runbook
