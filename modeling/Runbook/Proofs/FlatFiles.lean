import Runbook.System.Machine
import Runbook.Proofs.StoreThreads

/-!
Flat files: a system whose files stand side by side under their paths and that refuses no request but
those for files that are missing. Main statement: it serves a store whose file has no directory in
its path.
-/

namespace Runbook

/-- Files by their paths, and how many fresh names were given out. -/
structure FlatFiles where
  text? : FilePath → Option String
  names : Nat

namespace FlatFiles

open ScheduleStore

def empty : FlatFiles := ⟨fun _ => none, 0⟩

/-- The same files, where one of them holds a text or is missing. -/
def put (f : FlatFiles) (path : FilePath) (text : Option String) : FlatFiles :=
  { f with text? := Function.update f.text? path text }

theorem put_self (f : FlatFiles) (path : FilePath) (text : Option String) :
    (f.put path text).text? path = text := by
  simp [put]

theorem put_of_ne (f : FlatFiles) {path other : FilePath} (h : path ≠ other)
    (text : Option String) : (f.put other text).text? path = f.text? path :=
  Function.update_of_ne h _ _

def reply? (f : FlatFiles) : (c : SystemCall) → Option (c.Reply × FlatFiles)
  | .read path =>
    match f.text? path with
    | some text => some (.ok text, f)
    | none => some (.error .notFound, f)
  | .write path text => some (.ok (), f.put path text)
  | .rename source target =>
    match f.text? source with
    | some text => some (.ok (), (f.put target text).put source none)
    | none => some (.error .notFound, f)
  | .remove path =>
    match f.text? path with
    | some _ => some (.ok (), f.put path none)
    | none => some (.error .notFound, f)
  | .makeDirectories _ => some (.ok (), f)
  | .processId => some (1, f)
  | .now => some (⟨0, 0⟩, f)
  | .freshName => some (Machine.nameOf f.names, { f with names := f.names + 1 })
  | _ => none

def system : FileSystem where
  State := FlatFiles
  Answers f c reply g := f.reply? c = some (reply, g)
  text? := FlatFiles.text?

def store : ScheduleStore := ⟨"schedules.json"⟩

theorem ne_of_isStaging {IsName : String → Prop} {path : FilePath}
    (h : store.IsStaging IsName path) : store.path ≠ path := by
  obtain ⟨process, unique, -, rfl⟩ := h
  have hname : FilePath.fileName? store.path = some "schedules.json" := by decide
  have hparent : FilePath.parent? store.path = some "" := by decide
  intro heq
  have hhead := congrArg (fun s => s.toList.head?) heq
  simp [FilePath.withFileName, hname, hparent, FilePath.join, stagingName] at hhead
  exact absurd (Option.some.inj (hhead : some 's' = some '.')) (by decide)

theorem read_serves {f g : FlatFiles} {path : FilePath} {reply : Except SystemError String}
    (h : f.reply? (.read path) = some (reply, g)) : g.text? = f.text? ∧
      (∀ text, reply = .ok text → f.text? path = some text) ∧
      (reply = .error .notFound → f.text? path = none) := by
  simp only [reply?] at h
  cases hf : f.text? path with
  | none =>
    rw [hf] at h
    obtain ⟨rfl, rfl⟩ := Prod.mk.inj (Option.some.inj h)
    exact ⟨rfl, fun text ht => (by cases ht), fun _ => rfl⟩
  | some text =>
    rw [hf] at h
    obtain ⟨rfl, rfl⟩ := Prod.mk.inj (Option.some.inj h)
    exact ⟨rfl, fun other ht => congrArg some (Except.ok.inj ht), fun ht => (by cases ht)⟩

theorem rename_serves {f g : FlatFiles} {source target : FilePath}
    {reply : Except SystemError Unit} (hne : target ≠ source)
    (h : f.reply? (.rename source target) = some (reply, g)) :
    (reply = .ok () → g.text? target = f.text? source) ∧
      ∀ e, reply = .error e → g.text? target = f.text? target := by
  simp only [reply?] at h
  cases hf : f.text? source with
  | none =>
    rw [hf] at h
    obtain ⟨rfl, rfl⟩ := Prod.mk.inj (Option.some.inj h)
    exact ⟨fun ht => (by cases ht), fun _ _ => rfl⟩
  | some text =>
    rw [hf] at h
    obtain ⟨rfl, rfl⟩ := Prod.mk.inj (Option.some.inj h)
    exact ⟨fun _ => by rw [put_of_ne _ hne, put_self], fun e ht => (by cases ht)⟩

theorem remove_serves {f g : FlatFiles} {path other : FilePath} {reply : Except SystemError Unit}
    (hne : other ≠ path) (h : f.reply? (.remove path) = some (reply, g)) :
    g.text? other = f.text? other := by
  simp only [reply?] at h
  cases hf : f.text? path with
  | none =>
    rw [hf] at h
    obtain ⟨-, rfl⟩ := Prod.mk.inj (Option.some.inj h)
    rfl
  | some text =>
    rw [hf] at h
    obtain ⟨-, rfl⟩ := Prod.mk.inj (Option.some.inj h)
    exact put_of_ne f hne none

theorem serves : system.Serves store where
  read h := read_serves h
  write {f g path text reply} hpath h := by
    obtain ⟨-, rfl⟩ := Prod.mk.inj (Option.some.inj h)
    exact ⟨put_of_ne f (ne_of_isStaging hpath) _, fun _ => put_self f path _⟩
  rename hpath h := rename_serves (ne_of_isStaging hpath) h
  remove hpath h := remove_serves (ne_of_isStaging hpath) h
  makeDirectories _ h := by
    obtain ⟨-, rfl⟩ := Prod.mk.inj (Option.some.inj h)
    rfl
  processId h := by
    obtain ⟨-, rfl⟩ := Prod.mk.inj (Option.some.inj h)
    rfl
  now h := by
    obtain ⟨rfl, rfl⟩ := Prod.mk.inj (Option.some.inj h)
    exact ⟨⟨by decide, by decide⟩, rfl⟩
  freshName h := by
    obtain ⟨-, rfl⟩ := Prod.mk.inj (Option.some.inj h)
    rfl

end FlatFiles

end Runbook
