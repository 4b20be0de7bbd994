import Runbook.Schedule.Basic
import Runbook.Proofs.HistoryText

/-!
Schedules and the text of the file that keeps them. Main statements: schedules whose times a clock
shows are what the text of their file is read as, and every text that is read keeps such schedules.
-/

namespace Runbook.Schedule

open Record

/-- The times of a schedule are ones that a clock shows. -/
structure IsTimed (s : Schedule) : Prop where
  createdAt : s.createdAt.IsShown
  lastRun : ∀ t ∈ s.lastRun, t.IsShown

/-- The fields of the record of a schedule, those included that are left out. -/
def fields (s : Schedule) : List (String × Option Document) :=
  [("id", some (.text s.id)), ("name", s.name.map .text),
    ("workflowPath", some (.text s.workflowPath)), ("cron", some (.text s.cron)),
    ("enabled", some (.bool s.enabled)), ("createdAt", some (.text s.createdAt.text)),
    ("lastRun", s.lastRun.map fun t => .text t.text), ("timezone", s.timezone.map .text),
    ("silent", s.silent.map .bool), ("profile", s.profile.map .text)]

theorem map_fst_fields (s : Schedule) : s.fields.map Prod.fst = fieldNames := rfl

theorem document_eq (s : Schedule) : s.document = .object (written s.fields) := by
  simp only [document, present_eq_written, fields]
  change Document.object (written [("id", some _)] ++ _ ++ written [("workflowPath", some _),
    ("cron", some _), ("enabled", some _), ("createdAt", some _)] ++ _ ++ _ ++ _ ++ _) = _
  simp only [← written_append]
  rfl

/-! ### Records -/

theorem ofDocument?_document {s : Schedule} (h : s.IsTimed) :
    ofDocument? s.document = some s := by
  have hfields := fields?_written s.fields (by rw [map_fst_fields]; decide) 4
  have hcreated : History.timestamp? (.text s.createdAt.text) = some s.createdAt :=
    History.timestamp?_text h.createdAt
  have hlast : optional? History.timestamp? (s.lastRun.map fun t => .text t.text) =
      some s.lastRun :=
    optional?_map (fun t ht => History.timestamp?_text (h.lastRun t ht)) fun t => by simp
  have htext : ∀ o : Option String, optional? Document.asText? (o.map .text) = some o := fun o =>
    optional?_map (fun _ _ => rfl) fun t => by simp
  have hbool : ∀ o : Option Bool, optional? Document.asBool? (o.map .bool) = some o := fun o =>
    optional?_map (fun _ _ => rfl) fun t => by simp
  rw [map_fst_fields] at hfields
  rw [ofDocument?, document_eq, hfields]
  simp only [fields, List.map_cons, List.map_nil, required?, Option.bind_some, Document.asText?,
    Document.asBool?, htext, hbool, hcreated, hlast, Option.bind_eq_bind, Option.pure_def]

theorem isTimed_of_ofDocument? {d : Document} {s : Schedule} (h : ofDocument? d = some s) :
    s.IsTimed := by
  simp only [ofDocument?, Option.bind_eq_bind, Option.bind_eq_some_iff] at h
  obtain ⟨values, -, h⟩ := h
  split at h
  next =>
    iterate 5 obtain ⟨_, -, h⟩ := Option.bind_eq_some_iff.mp h
    obtain ⟨created, hcreated, h⟩ := Option.bind_eq_some_iff.mp h
    obtain ⟨last, hlast, h⟩ := Option.bind_eq_some_iff.mp h
    iterate 3 obtain ⟨_, -, h⟩ := Option.bind_eq_some_iff.mp h
    obtain rfl := Option.some.inj h
    refine ⟨?_, fun t ht => ?_⟩
    · obtain ⟨d, -, hd⟩ := Option.bind_eq_some_iff.mp hcreated
      exact History.isShown_of_timestamp? hd
    · cases ht
      obtain ⟨d, hd⟩ := exists_of_optional? hlast
      exact History.isShown_of_timestamp? hd
  next => cases h

/-! ### The file -/

theorem isPlain_of_mem_fields {s : Schedule} {f : String × Option Document} (hf : f ∈ s.fields)
    {d : Document} (hd : d ∈ f.2) {n : Nat} : Json.IsPlain n d := by
  have hmap : ∀ {α : Type} {write : α → Document} {o : Option α},
      (∀ a, Json.IsPlain n (write a)) → d ∈ o.map write → Json.IsPlain n d := by
    intro α write o hwrite hd
    obtain ⟨a, -, rfl⟩ := Option.map_eq_some_iff.mp hd
    exact hwrite a
  simp only [fields, List.mem_cons, List.not_mem_nil, or_false] at hf
  rcases hf with rfl | rfl | rfl | rfl | rfl | rfl | rfl | rfl | rfl | rfl
  · exact Option.some.inj hd ▸ .text _
  · exact hmap .text hd
  · exact Option.some.inj hd ▸ .text _
  · exact Option.some.inj hd ▸ .text _
  · exact Option.some.inj hd ▸ .bool _
  · exact Option.some.inj hd ▸ .text _
  · exact hmap (fun t : Timestamp => .text t.text) hd
  · exact hmap .text hd
  · exact hmap .bool hd
  · exact hmap .text hd

theorem isPlain_document (s : Schedule) : Json.IsPlain 1 s.document := by
  rw [document_eq]
  refine .object fun f hf => ?_
  obtain ⟨g, hg, hgf⟩ := List.mem_filterMap.mp hf
  obtain ⟨d, hd, rfl⟩ := Option.map_eq_some_iff.mp hgf
  exact isPlain_of_mem_fields hg hd

def fileDocument (schedules : List Schedule) : Document :=
  .object [("schedules", .list (schedules.map document))]

theorem isPlain_fileDocument (schedules : List Schedule) :
    Json.IsPlain 3 (fileDocument schedules) := by
  refine .object fun f hf => ?_
  rw [List.mem_singleton.mp hf]
  refine .list fun d hd => ?_
  obtain ⟨s, -, rfl⟩ := List.mem_map.mp hd
  exact isPlain_document s

theorem isBlank_fileText (schedules : List Schedule) : isBlank (fileText schedules) = false := by
  have hopen : (fileText schedules).toList.head? = some '\x7b' := by
    simp [fileText, Json.pretty, Json.prettyAt, Json.prettyFields, Json.block, Json.openBrace]
  cases h : (fileText schedules).toList with
  | nil => simp [h] at hopen
  | cons c s =>
    obtain rfl : c = '\x7b' := by simpa [h] using hopen
    rw [isBlank, h, Text.isBlankText, List.all_cons]
    rfl

/-- Schedules are what the text of their file is read as. -/
theorem readFile?_fileText {schedules : List Schedule} (h : ∀ s ∈ schedules, s.IsTimed) :
    readFile? (fileText schedules) = some schedules := by
  have hread : Json.read? (fileText schedules) = some (fileDocument schedules) :=
    Json.read?_pretty (isPlain_fileDocument schedules) (by decide)
  have hfields : fields? ["schedules"] 1 (fileDocument schedules) =
      some [some (.list (schedules.map document))] :=
    fields?_written [("schedules", some _)] (by simp) 1
  rw [readFile?, isBlank_fileText, hread, Option.bind_eq_bind, Option.bind_some, hfields]
  exact listOf?_map fun s hs => ofDocument?_document (h s hs)

theorem isTimed_of_readFile? {text : String} {schedules : List Schedule}
    (h : readFile? text = some schedules) : ∀ s ∈ schedules, s.IsTimed := by
  unfold readFile? at h
  split at h
  · obtain rfl := Option.some.inj h
    simp
  · simp only [Option.bind_eq_bind, Option.bind_eq_some_iff] at h
    obtain ⟨d, -, values, -, h⟩ := h
    split at h
    next list =>
      intro s hs
      obtain ⟨item, hitem⟩ := exists_of_listOf? h s hs
      exact isTimed_of_ofDocument? hitem
    next =>
      obtain rfl := Option.some.inj h
      simp

end Runbook.Schedule
