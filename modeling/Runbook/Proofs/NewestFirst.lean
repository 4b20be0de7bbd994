import Runbook.Proofs.HistoryFiles
import Runbook.Proofs.TimestampText

/-!
The order in which histories are listed. The names of their files begin with the times at which the
runs started, with as many digits each, so that they are in the order of these times whatever ends
them. Main statement: of the histories that were written to a directory, whatever else was done
meanwhile, exactly these are listed, the newest first.
-/

namespace Runbook

/-! ### Times in names -/

namespace Timestamp

variable {a b : Timestamp}

def toSecond (t : Timestamp) : Timestamp :=
  ⟨t.seconds, t.nanosecond / Duration.second * Duration.second⟩

/-- The instant is shown with a year of four digits. -/
structure HasPlainYear (t : Timestamp) : Prop where
  shown : t.IsShown
  first : 0 ≤ t.face.date.year
  last : t.face.date.year ≤ 9999

/-- What a clock shows for the earlier of two seconds of one day comes first. -/
theorem face_lt_of_secondOfDay (ha : a.IsShown) (hb : b.IsShown) (hdays : a.days = b.days)
    (h : a.toSecond.isBefore b.toSecond = true) :
    a.face.hour < b.face.hour ∨ a.face.hour = b.face.hour ∧ (a.face.minute < b.face.minute ∨
      a.face.minute = b.face.minute ∧ a.face.second < b.face.second) := by
  have hleap := ha.nanosecond
  have hleap' := hb.nanosecond
  simp only [isBefore, Bool.or_eq_true, Bool.and_eq_true, decide_eq_true_eq, beq_iff_eq] at h
  simp only [toSecond, face, days, secondOfDay, secondsPerDay, Duration.second] at *
  omega

theorem date_lt_of_days (h : a.days < b.days) :
    a.face.date.year < b.face.date.year ∨ a.face.date.year = b.face.date.year ∧
      (a.face.date.month < b.face.date.month ∨ a.face.date.month = b.face.date.month ∧
        a.face.date.day < b.face.date.day) := by
  refine (CivilDate.toDays_lt_iff (CivilDate.isValid_ofDays a.days)
    (CivilDate.isValid_ofDays b.days)).mp ?_
  rwa [CivilDate.toDays_ofDays, CivilDate.toDays_ofDays]

/-- The numbers that a clock shows have two digits. -/
theorem face_lt (h : a.IsShown) : a.face.date.month < 100 ∧ a.face.date.day < 100 ∧
    a.face.hour < 100 ∧ a.face.minute < 100 ∧ a.face.second < 100 := by
  obtain ⟨hmonth, hday⟩ := CivilDate.lt_of_isValid (CivilDate.isValid_ofDays a.days)
  have hnano := h.nanosecond
  have htime := secondOfDay_lt a
  refine ⟨hmonth, hday, ?_⟩
  simp only [face, Duration.second] at *
  omega

end Timestamp

namespace HistoryStore

open Timestamp (HasPlainYear)

variable {a b : Timestamp}

theorem toList_stampText (h : a.HasPlainYear) : (stampText a).toList =
    (padded 4 a.face.date.year.toNat).toList ++ '-' :: ((padded 2 a.face.date.month).toList ++
      '-' :: ((padded 2 a.face.date.day).toList ++ '_' :: ((padded 2 a.face.hour).toList ++
        '-' :: ((padded 2 a.face.minute).toList ++ '-' :: (padded 2 a.face.second).toList)))) := by
  have hyear : Timestamp.yearText a.face.date.year = padded 4 a.face.date.year.toNat :=
    if_pos ⟨h.first, h.last⟩
  simp [stampText, Timestamp.dateText, Timestamp.clockText, hyear]

/-- Times in names are in the order of the seconds, whatever comes after them. -/
theorem stampText_append_lt (ha : a.HasPlainYear) (hb : b.HasPlainYear)
    (h : a.toSecond.isBefore b.toSecond = true) (s t : List Char) :
    (stampText a).toList ++ s < (stampText b).toList ++ t := by
  obtain ⟨hmonth, hday, hhour, hminute, hsecond⟩ := Timestamp.face_lt ha.shown
  obtain ⟨hmonth', hday', hhour', hminute', hsecond'⟩ := Timestamp.face_lt hb.shown
  have hyear : a.face.date.year.toNat < 10 ^ 4 ∧ b.face.date.year.toNat < 10 ^ 4 := by
    have := ha.last
    have := hb.last
    omega
  rw [toList_stampText ha, toList_stampText hb]
  simp only [List.append_assoc, List.cons_append, List.cons_lt_cons_iff, lt_irrefl, true_and,
    false_or, padded_append_lt_iff (Nat.zero_lt_succ 3) hyear.1 hyear.2,
    padded_append_lt_iff (Nat.zero_lt_succ 1) hmonth hmonth',
    padded_append_lt_iff (Nat.zero_lt_succ 1) hday hday',
    padded_append_lt_iff (Nat.zero_lt_succ 1) hhour hhour',
    padded_append_lt_iff (Nat.zero_lt_succ 1) hminute hminute',
    padded_append_lt_iff (Nat.zero_lt_succ 1) hsecond hsecond']
  have hfirst := ha.first
  have hfirst' := hb.first
  rcases lt_trichotomy a.days b.days with hlt | heq | hgt
  · have hdate := Timestamp.date_lt_of_days hlt
    omega
  · have hclock := Timestamp.face_lt_of_secondOfDay ha.shown hb.shown heq h
    have hdate : a.face.date = b.face.date := congrArg CivilDate.ofDays heq
    simp only [hdate, true_and, lt_irrefl, false_or]
    omega
  · exfalso
    simp only [Timestamp.isBefore, Bool.or_eq_true, Bool.and_eq_true, decide_eq_true_eq,
      beq_iff_eq] at h
    simp only [Timestamp.toSecond, Timestamp.days, Timestamp.secondsPerDay] at h hgt
    omega

/-- Names of files are in the order of the seconds in which the runs started. -/
theorem fileName_lt (ha : a.HasPlainYear) (hb : b.HasPlainYear)
    (h : a.toSecond.isBefore b.toSecond = true) (unique unique' : String) :
    fileName a unique < fileName b unique' := by
  rw [String.lt_iff]
  simp only [fileName, String.toList_append, List.append_assoc]
  exact (append_lt_append_iff rfl _ _).mpr (.inr ⟨rfl, stampText_append_lt ha hb h _ _⟩)

end HistoryStore

/-! ### Writing histories -/

namespace Machine

def naming (unique : String) (m : Machine) : (call : SystemCall) → call.Reply × Machine
  | .freshName => (unique, { m with names := m.names + 1 })
  | c => m.reply c

theorem finish_call_bind {σ α : Type} (host : SystemHost σ) (s : σ) (c : SystemCall)
    (f : c.Reply → Procedure α) : (Procedure.call c >>= f).finish host s =
      (f (host s c).1).finish host (host s c).2 := rfl

end Machine

namespace HistoryStore

open FilePath (IsPlain)

variable {store : HistoryStore} {m next : Machine} {h : History} {unique : String}
  {path : FilePath} {place : Place}

/-- A history is written in two steps: the directory is made, and a file is put into it. -/
theorem exists_of_write
    (hwrite : (store.write h).run.finish (Machine.naming unique) m = some (.ok path, next)) :
    path = store.directory.join (fileName h.start unique) ∧ ∃ made written,
      m.files.makeDirectories m.current m.time store.directory
        (store.directory.names.length + 1) = .ok made ∧
      made.write m.current m.time (store.directory.join (fileName h.start unique))
        (fun _ => h.fileText) = .ok written ∧
      next = { m with files := written, names := m.names + 1 } := by
  rw [write, ExceptT.run_mk, Procedure.makeDirectories, Machine.finish_call_bind] at hwrite
  simp only [Machine.naming, Machine.reply] at hwrite
  cases hmade : m.files.makeDirectories m.current m.time store.directory
      (store.directory.names.length + 1) with
  | error e =>
    rw [hmade] at hwrite
    cases hwrite
  | ok made =>
    rw [hmade] at hwrite
    simp only [Machine.changed] at hwrite
    rw [Procedure.freshName, Machine.finish_call_bind] at hwrite
    simp only [Machine.naming, Procedure.write] at hwrite
    rw [Machine.finish_call_bind] at hwrite
    simp only [Machine.naming, Machine.reply] at hwrite
    cases hwritten : made.write m.current m.time
        (store.directory.join (fileName h.start unique)) (fun _ => h.fileText) with
    | error e =>
      rw [hwritten] at hwrite
      cases hwrite
    | ok written =>
      rw [hwritten] at hwrite
      obtain ⟨hpath, rfl⟩ := Prod.mk.inj (Option.some.inj hwrite)
      exact ⟨(Except.ok.inj hpath).symm, made, written, rfl, hwritten, rfl⟩

/-- The file of a history stands in the directory once it was written, and all that were files stay
files. -/
theorem kind?_of_write (hunique : ∀ c ∈ unique.toList, c.isAlphanum = true)
    (hwrite : (store.write h).run.finish (Machine.naming unique) m = some (.ok path, next))
    (hplace : next.files.locate next.current store.directory = .ok place) :
    next.files.kind? (fileName h.start unique :: place) = some .file ∧
      ∀ p, m.files.kind? p = some .file → next.files.kind? p = some .file := by
  obtain ⟨-, made, written, hmade, hwritten, rfl⟩ := exists_of_write hwrite
  have hname := isPlain_fileName hunique h.start
  have hdir : store.directory ≠ "" := by
    intro heq
    simpa [heq] using (FileTree.locate_eq_ok_iff.mp hplace).1
  obtain ⟨p, htakes⟩ := FileTree.takes_of_write
    (FilePath.leadsTo_join store.directory hname).no_slash hwritten
  obtain rfl := Except.ok.inj ((htakes.write _).symm.trans hwritten)
  obtain ⟨parent, rfl, hparent, hkind⟩ :=
    (FileTree.locate_join_iff hdir hname).mp htakes.located
  have hkeeps := (htakes.spares ⟨some h.fileText, m.time⟩).directories
  obtain rfl : parent = place :=
    Except.ok.inj ((hkeeps.locate_directory hparent hkind).symm.trans hplace)
  dsimp only
  refine ⟨?_, fun p hp => ?_⟩
  · rw [FileTree.kind?_insert _ htakes.ne_nil, if_pos rfl]
    rfl
  · rw [FileTree.kind?_insert _ htakes.ne_nil]
    split
    · rfl
    · rw [FileTree.kind?_eq_file_iff, (FileTree.spares_makeDirectories hmade).texts p (by simp),
        ← FileTree.kind?_eq_file_iff, hp]

theorem isProper_of_write (hproper : m.files.IsProper)
    (hwrite : (store.write h).run.finish (Machine.naming unique) m = some (.ok path, next)) :
    next.files.IsProper := by
  obtain ⟨-, made, written, hmade, hwritten, rfl⟩ := exists_of_write hwrite
  exact (hproper.makeDirectories hmade).write hwritten

/-- Histories that were written to the directory, with the names that made those of their files
unique. Between any two of them the machine may perform any procedure, and anything else may happen
to it that keeps its tree proper, as long as the files of histories stay in the directory. -/
inductive Wrote (store : HistoryStore) (place : Place) : List (History × String) → Machine → Prop
  | start {m : Machine} (proper : m.files.IsProper) : Wrote store place [] m
  | write {written : List (History × String)} {m next : Machine} {h : History} {unique : String}
      {path : FilePath} (before : Wrote store place written m)
      (name : ∀ c ∈ unique.toList, c.isAlphanum = true)
      (wrote : (store.write h).run.finish (Machine.naming unique) m = some (.ok path, next))
      (located : next.files.locate next.current store.directory = .ok place) :
      Wrote store place ((h, unique) :: written) next
  | performed {written : List (History × String)} {m next : Machine} {α : Type} {p : Procedure α}
      {a : α} (before : Wrote store place written m) (perform : m.perform p = some (a, next))
      (files : ∀ name, isHistoryName name = true → m.files.kind? (name :: place) = some .file →
        next.files.kind? (name :: place) = some .file) : Wrote store place written next
  | other {written : List (History × String)} {m next : Machine}
      (before : Wrote store place written m) (proper : next.files.IsProper)
      (files : ∀ name, isHistoryName name = true → m.files.kind? (name :: place) = some .file →
        next.files.kind? (name :: place) = some .file) : Wrote store place written next

def writtenName (w : History × String) : String := fileName w.1.start w.2

namespace Wrote

variable {written : List (History × String)}

theorem isProper (h : Wrote store place written m) : m.files.IsProper := by
  induction h with
  | start proper => exact proper
  | write _ _ wrote _ ih => exact isProper_of_write ih wrote
  | performed _ perform _ ih => exact Machine.isProper_of_perform ih perform
  | other _ proper _ _ => exact proper

theorem kind? (h : Wrote store place written m) {w : History × String} (hw : w ∈ written) :
    m.files.kind? (writtenName w :: place) = some .file := by
  induction h with
  | start => cases hw
  | write _ name wrote located ih =>
    obtain ⟨hfile, hkept⟩ := kind?_of_write name wrote located
    rcases List.mem_cons.mp hw with rfl | hw
    · exact hfile
    · exact hkept _ (ih hw)
  | performed _ _ files ih => exact files _ (isHistoryName_fileName _ _) (ih hw)
  | other _ _ files ih => exact files _ (isHistoryName_fileName _ _) (ih hw)

theorem isSome_node? (h : Wrote store place written m) {w : History × String} (hw : w ∈ written) :
    (m.files.node? (writtenName w :: place)).isSome = true :=
  FileTree.isSome_node?_of_kind? (h.kind? hw)

theorem standsAt (h : Wrote store place written m)
    (hlocated : m.files.locate m.current store.directory = .ok place)
    (hdirectory : m.files.kind? place = some .directory)
    (hothers : ∀ name ∈ m.files.children place, name ∉ written.map writtenName →
      isHistoryName name = false) : store.StandsAt m place := by
  refine ⟨h.isProper, hlocated, hdirectory, fun name hname hnode => ?_⟩
  by_cases hwritten : name ∈ written.map writtenName
  · obtain ⟨w, hw, rfl⟩ := List.mem_map.mp hwritten
    exact h.kind? hw
  · exact absurd hname (by simp [hothers name (FileTree.mem_children.mpr hnode) hwritten])

end Wrote

/-- Of the histories that were written to the directory, whatever else was done meanwhile, exactly
these are listed, and none of them started in a later second than one that is listed before it. The
years of the times have four digits, the names of the files are different, and no other file in the
directory has the name of a history. -/
theorem listed_newest_first {store : HistoryStore} {place : Place}
    {written : List (History × String)} {m : Machine} (h : Wrote store place written m)
    (hlocated : m.files.locate m.current store.directory = .ok place)
    (hdirectory : m.files.kind? place ≠ some .file)
    (hyears : ∀ w ∈ written, w.1.start.HasPlainYear)
    (hnames : (written.map writtenName).Nodup)
    (hothers : ∀ name ∈ m.files.children place, name ∉ written.map writtenName →
      isHistoryName name = false) :
    ∃ order : List (History × String), order.Perm written ∧
      m.perform store.list.run = some (.ok (order.map fun w => store.entry (writtenName w)), m) ∧
      order.Pairwise fun newer older =>
        newer.1.start.toSecond.isBefore older.1.start.toSecond = false := by
  have hperm := List.mergeSort_perm written fun a b => writtenName b ≤ writtenName a
  have hsorted := descending_mergeSort hnames
  refine ⟨_, hperm, ?_, hsorted.imp_of_mem fun {newer older} hnewer holder hlt => ?_⟩
  · cases hkind : m.files.kind? place with
    | none =>
      -- nothing was written, as there would be a directory for it
      have hnone : written = [] := List.eq_nil_iff_forall_not_mem.mpr fun w hw => by
        have hparent := h.isProper.parents _ _ (h.isSome_node? hw)
        rw [hkind] at hparent
        cases hparent
      subst hnone
      rw [List.perm_nil.mp hperm]
      exact perform_list_missing (by simp [FileTree.kindAt?, hlocated, hkind])
    | some kind =>
      have hdir : m.files.kind? place = some .directory := by
        cases kind with
        | file => exact absurd hkind hdirectory
        | directory => exact hkind
      have hstands := h.standsAt hlocated hdir hothers
      have hlisted : (written.mergeSort fun a b => writtenName b ≤ writtenName a).map writtenName =
          listing m.files place := by
        refine eq_of_descending (List.pairwise_map.mpr hsorted)
          (pairwise_listing hstands.proper place) fun name => ?_
        rw [(hperm.map writtenName).mem_iff, mem_listing]
        constructor
        · intro hname
          obtain ⟨w, hw, rfl⟩ := List.mem_map.mp hname
          exact ⟨isHistoryName_fileName _ _, h.isSome_node? hw⟩
        · rintro ⟨hname, hnode⟩
          by_contra hother
          exact absurd hname (by simp [hothers name (FileTree.mem_children.mpr hnode) hother])
      rw [hstands.perform_list, ← hlisted, List.map_map]
      rfl
  · rw [← Bool.not_eq_true]
    intro hbefore
    have hyear := hyears newer (hperm.mem_iff.mp hnewer)
    have hyear' := hyears older (hperm.mem_iff.mp holder)
    exact absurd (String.lt_trans hlt (fileName_lt hyear hyear' hbefore _ _)) Std.lt_irrefl

def afterWrite (store : HistoryStore) (m : Machine) (w : History × String) : Machine :=
  (((store.write w.1).run.finish (Machine.naming w.2) m).map Prod.snd).getD m

theorem finish_afterWrite {r : Except HistoryError FilePath} {w : History × String}
    (hresult : ((store.write w.1).run.finish (Machine.naming w.2) m).map Prod.fst = some r) :
    (store.write w.1).run.finish (Machine.naming w.2) m = some (r, store.afterWrite m w) := by
  obtain ⟨⟨_, next⟩, hfinish, rfl⟩ := Option.map_eq_some_iff.mp hresult
  simp [afterWrite, hfinish]

/-- A leap second at the end of a leap day comes before the second after it, though the file of that
was written first. -/
theorem listed_newest_first_leap :
    let store : HistoryStore := ⟨"/h"⟩
    let run := "0f8fad5b-d9cb-469f-a165-70867728950e"
    let older : History × String := (⟨run, none, ⟨1709251199, 1500000000⟩, []⟩, "ffff")
    let newer : History × String := (⟨run, none, ⟨1709251200, 7⟩, []⟩, "0000")
    ∃ m, Wrote store ["h"] [older, newer] m ∧
      m.perform store.list.run = some (.ok (["workflow-2024-03-01_00-00-00-0000.json",
        "workflow-2024-02-29_23-59-60-ffff.json"].map store.entry), m) := by
  intro store run older newer
  let m : Machine := ⟨⟨[(["h"], ⟨none, ⟨0, 0⟩⟩), (["notes.txt", "h"], ⟨some "", ⟨0, 0⟩⟩)]⟩, "/",
    ⟨0, 0⟩, 1, [], 0⟩
  let next := store.afterWrite (store.afterWrite m newer) older
  have hfirst : (store.write newer.1).run.finish (Machine.naming newer.2) m =
      some (.ok "/h/workflow-2024-03-01_00-00-00-0000.json", store.afterWrite m newer) :=
    finish_afterWrite (by decide +kernel)
  have hsecond : (store.write older.1).run.finish (Machine.naming older.2)
      (store.afterWrite m newer) = some (.ok "/h/workflow-2024-02-29_23-59-60-ffff.json", next) :=
    finish_afterWrite (by decide +kernel)
  have hunique : ∀ c, c ∈ "0000".toList ∨ c ∈ "ffff".toList → c.isAlphanum = true := by
    simp
  have hwrote : Wrote store ["h"] [older, newer] next :=
    .write (.write (.start (by decide +kernel)) (fun c hc => hunique c (.inl hc)) hfirst
      (by decide +kernel)) (fun c hc => hunique c (.inr hc)) hsecond (by decide +kernel)
  have hnodes : ∀ e ∈ next.files.nodes, e.1.tail = ["h"] →
      e.1.headD "" ∉ [older, newer].map writtenName → isHistoryName (e.1.headD "") = false := by
    decide +kernel
  have hyear : older.1.start.HasPlainYear ∧ newer.1.start.HasPlainYear :=
    ⟨⟨⟨by decide +kernel, .inr ⟨by decide, by decide⟩⟩, by decide +kernel, by decide +kernel⟩,
      ⟨⟨by decide +kernel, .inl (by decide)⟩, by decide +kernel, by decide +kernel⟩⟩
  obtain ⟨order, hperm, hlist, hsorted⟩ := listed_newest_first hwrote (by decide +kernel)
    (by decide +kernel) (by simpa using hyear) (by decide +kernel) fun name hname hother => by
      obtain ⟨n, hn⟩ := FileTree.isSome_node?_iff.mp (FileTree.mem_children.mp hname)
      exact hnodes _ hn rfl hother
  have horder : order = [newer, older] := by
    have hmem : ∀ w ∈ order, w = older ∨ w = newer := fun w hw => by
      simpa using hperm.mem_iff.mp hw
    have hdistinct : order.Nodup := hperm.nodup_iff.mpr (by decide +kernel)
    obtain ⟨first, second, rfl⟩ := List.length_eq_two.mp hperm.length_eq
    obtain ⟨hfirst, -⟩ := List.nodup_cons.mp hdistinct
    obtain ⟨hafter, -⟩ := List.pairwise_cons.mp hsorted
    rcases hmem first (by simp) with rfl | rfl <;> rcases hmem second (by simp) with rfl | rfl
    · exact absurd (by simp) hfirst
    · exact absurd (hafter newer (by simp)) (by decide)
    · rfl
    · exact absurd (by simp) hfirst
  refine ⟨next, hwrote, ?_⟩
  rw [hlist, horder]
  have hnames : writtenName newer = "workflow-2024-03-01_00-00-00-0000.json" ∧
      writtenName older = "workflow-2024-02-29_23-59-60-ffff.json" := by decide +kernel
  simp [hnames]

end HistoryStore

end Runbook
