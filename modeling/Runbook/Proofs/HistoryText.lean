import Runbook.History.Codec
import Runbook.Proofs.JsonText
import Runbook.Proofs.RecordText
import Runbook.Proofs.TimestampText

/-!
Histories and the texts of their files. Main statements: a history whose run has a name, whose times
a clock shows and whose numbers are words is what the text of its file is read as, and every text
that is read holds such a history.
-/

namespace Runbook

open Record

/-! ### Names of runs -/

namespace RunId

/-- A digit as it stands in the name of a run. -/
def IsDigit (c : Char) : Prop := isHexadecimal c = true ∧ c.toLower = c

/-- The name of a run: 32 hexadecimal digits in small letters, in their groups. -/
def IsName (s : String) : Prop :=
  ∃ digits : List Char, digits.length = 32 ∧ (∀ c ∈ digits, IsDigit c) ∧
    s = String.ofList (hyphenated digits groups)

theorem filter_hyphenated {digits : List Char} (hmark : ∀ c ∈ digits, c ≠ '-')
    (groups : List Nat) :
    (hyphenated digits groups).filter (· ≠ '-') = digits.take groups.sum := by
  have hkeep : ∀ (s : List Char) (n : Nat), (∀ c ∈ s, c ≠ '-') →
      (s.take n).filter (· ≠ '-') = s.take n := fun s n hs =>
    List.filter_eq_self.mpr fun c hc => decide_eq_true (hs c (List.mem_of_mem_take hc))
  induction groups generalizing digits with
  | nil => simp [hyphenated]
  | cons n rest ih =>
    cases rest with
    | nil => simpa [hyphenated] using hkeep digits n hmark
    | cons m rest =>
      have htail := @ih (digits.drop n) fun c hc => hmark c (List.mem_of_mem_drop hc)
      rw [hyphenated, List.filter_append, hkeep digits n hmark, List.filter_cons_of_neg (by simp),
        htail]
      · exact List.take_add.symm
      · simp

theorem length_hyphenated {digits : List Char} (h : digits.length = 32) :
    (hyphenated digits groups).length = 36 := by
  simp [groups, hyphenated, h]

theorem ne_mark_of_isHexadecimal {c : Char} (h : isHexadecimal c = true) : c ≠ '-' := by
  rintro rfl
  cases h

theorem isDigit_toLower {c : Char} (h : isHexadecimal c = true) : IsDigit c.toLower := by
  have hrange : 48 ≤ c.toNat ∧ c.toNat ≤ 57 ∨ 97 ≤ c.toNat ∧ c.toNat ≤ 102 ∨
      65 ≤ c.toNat ∧ c.toNat ≤ 70 := by
    unfold isHexadecimal Json.hexDigit? at h
    split at h
    next hc => exact .inl hc
    next =>
      split at h
      next hc => exact .inr (.inl hc)
      next =>
        split at h
        next hc => exact .inr (.inr hc)
        next => cases h
  rw [← Char.ofNat_toNat c, IsDigit]
  rcases hrange with ⟨hlow, hhigh⟩ | ⟨hlow, hhigh⟩ | ⟨hlow, hhigh⟩ <;>
    interval_cases c.toNat <;> decide

theorem read?_of_isName {s : String} (h : IsName s) : read? s = some s := by
  obtain ⟨digits, hlen, hdigits, rfl⟩ := h
  have hmark : ∀ c ∈ digits, c ≠ '-' := fun c hc => ne_mark_of_isHexadecimal (hdigits c hc).1
  have hfilter : (hyphenated digits groups).filter (· ≠ '-') = digits := by
    rw [filter_hyphenated hmark]
    exact List.take_of_length_le (by simp [groups, hlen])
  have hungrouped : ungrouped? (hyphenated digits groups) = some digits := by
    simp only [ungrouped?, hfilter, hlen, and_self, if_true]
  have hall : digits.all isHexadecimal = true := List.all_eq_true.mpr fun c hc => (hdigits c hc).1
  have hlower : digits.map Char.toLower = digits :=
    (List.map_congr_left fun c hc => (hdigits c hc).2).trans (List.map_id' digits)
  simp only [read?, String.toList_ofList, digits?, length_hyphenated hlen, hungrouped,
    Option.bind_some, ofDigits?, hlen, hall, hlower, and_self, if_true, if_false,
    Nat.reduceEqDiff]

theorem isName_of_read? {s name : String} (h : read? s = some name) : IsName name := by
  obtain ⟨digits, -, hname⟩ := Option.bind_eq_some_iff.mp h
  unfold ofDigits? at hname
  split at hname
  next hdigits =>
    refine ⟨digits.map Char.toLower, by simp [hdigits.1], fun c hc => ?_,
      (Option.some.inj hname).symm⟩
    obtain ⟨d, hd, rfl⟩ := List.mem_map.mp hc
    exact isDigit_toLower (List.all_eq_true.mp hdigits.2 d hd)
  next => cases hname

end RunId

/-! ### What can be written -/

/-- The numbers are words: of 64 bits for what is counted and for milliseconds, of 32 bits for an
attempt, and of 32 bits with a sign for the code that a command ends with. -/
def Occurrence.FitsWords : Occurrence → Prop
  | .runStarted _ count => count < Word.count 64
  | .runCompleted ms => ms < Word.count 64
  | .runFailed _ ms => ms < Word.count 64
  | .stepSkipped step branch => step < Word.count 64 ∧ ∀ n ∈ branch, n < Word.count 64
  | .stepCompleted step branch _ _ exitCode ms => step < Word.count 64 ∧
    (∀ n ∈ branch, n < Word.count 64) ∧ (∀ n ∈ exitCode, Word.isSigned 32 n = true) ∧
    ms < Word.count 64
  | .stepFailed step branch _ _ exitCode _ ms => step < Word.count 64 ∧
    (∀ n ∈ branch, n < Word.count 64) ∧ (∀ n ∈ exitCode, Word.isSigned 32 n = true) ∧
    ms < Word.count 64
  | .stepRetried step branch attempt delay => step < Word.count 64 ∧
    (∀ n ∈ branch, n < Word.count 64) ∧ attempt < Word.count 32 ∧ delay < Word.count 64
  | .fallbackStarted step branch level _ => step < Word.count 64 ∧
    (∀ n ∈ branch, n < Word.count 64) ∧ level < Word.count 64
  | .parallelStarted step branches => step < Word.count 64 ∧ branches < Word.count 64
  | .parallelFinished step _ => step < Word.count 64

/-- Its run has a name, a clock shows its time, and its numbers are words. -/
structure Event.IsStorable (e : Event) : Prop where
  runId : RunId.IsName e.runId
  time : e.time.IsShown
  occurrence : e.occurrence.FitsWords

/-- The run has a name, a clock shows when it started, and its events can be written. -/
structure History.IsStorable (h : History) : Prop where
  runId : RunId.IsName h.runId
  start : h.start.IsShown
  events : ∀ e ∈ h.events, e.IsStorable

namespace History

/-! ### Occurrences -/

theorem fieldNames_eq (o : Occurrence) :
    fieldNames (occurrenceFields o).1 = (occurrenceFields o).2.map Prod.fst := by
  cases o <;> rfl

theorem nodup_fieldNames (o : Occurrence) : (fieldNames (occurrenceFields o).1).Nodup := by
  cases o <;> simp [occurrenceFields, fieldNames]

theorem type_not_mem_fieldNames (o : Occurrence) :
    "type" ∉ fieldNames (occurrenceFields o).1 := by
  cases o <;> simp [occurrenceFields, fieldNames]

theorem resolved?_document (v : ResolvedValue) : resolved? (resolvedDocument v) = some v := by
  have hvalues : ∀ kind text : String,
      fields? ["kind", "value"] 0 (.object [("kind", .text kind), ("value", .text text)]) =
        some [some (.text kind), some (.text text)] := fun kind text =>
    @fields?_object [("kind", .text kind), ("value", .text text)] (by simp) 0
  cases v <;> simp [resolved?, resolvedDocument, hvalues, required?, kindName?, Document.asText?]

theorem ofFields?_occurrenceFields {o : Occurrence} (h : o.FitsWords) :
    ofFields? (occurrenceFields o).1 ((occurrenceFields o).2.map fun f => some f.2) = some o := by
  have hword : ∀ n : Nat, n < Word.count 64 → required? word64? (some (natural n)) = some n :=
    fun n hn => by rw [required?, Option.bind_some, word64?_natural hn]
  have htext : ∀ s : String, required? Document.asText? (some (.text s)) = some s := fun s => rfl
  have hname : ∀ o : Option String,
      optional? Document.asText? (some (orNull .text o)) = some o := fun o =>
    optional?_orNull (fun _ _ => rfl) fun s => by simp
  have hbranch : ∀ o : Option Nat, (∀ n ∈ o, n < Word.count 64) →
      optional? word64? (some (orNull natural o)) = some o := fun o ho =>
    optional?_orNull (fun n hn => word64?_natural (ho n hn)) fun n => by simp [natural]
  have hexit : ∀ o : Option Int, (∀ n ∈ o, Word.isSigned 32 n = true) →
      optional? signed32? (some (orNull .integer o)) = some o := fun o ho =>
    optional?_orNull (fun n hn => signed32?_integer (ho n hn)) fun n => by simp
  have hresolved : ∀ o : Option ResolvedValue,
      optional? resolved? (some (orNull resolvedDocument o)) = some o := fun o =>
    optional?_orNull (fun v _ => resolved?_document v) fun v => by
      cases v <;> simp [resolvedDocument]
  cases o with
  | runStarted name count => simp [occurrenceFields, ofFields?, hname, hword count h]
  | runCompleted ms => simp [occurrenceFields, ofFields?, hword ms h]
  | runFailed error ms => simp [occurrenceFields, ofFields?, htext, hword ms h]
  | stepSkipped step branch =>
    simp [occurrenceFields, ofFields?, hword step h.1, hbranch branch h.2]
  | stepCompleted step branch kind resolved exitCode ms =>
    obtain ⟨hstep, hindex, hcode, hms⟩ := h
    simp [occurrenceFields, ofFields?, htext, hword step hstep, hbranch branch hindex,
      hresolved, hexit exitCode hcode, hword ms hms]
  | stepFailed step branch kind resolved exitCode error ms =>
    obtain ⟨hstep, hindex, hcode, hms⟩ := h
    simp [occurrenceFields, ofFields?, htext, hword step hstep, hbranch branch hindex,
      hresolved, hexit exitCode hcode, hword ms hms]
  | stepRetried step branch attempt delay =>
    obtain ⟨hstep, hindex, hattempt, hdelay⟩ := h
    have hretry : required? word32? (some (natural attempt)) = some attempt := by
      rw [required?, Option.bind_some, word32?_natural hattempt]
    simp [occurrenceFields, ofFields?, hword step hstep, hbranch branch hindex, hretry,
      hword delay hdelay]
  | fallbackStarted step branch level command =>
    obtain ⟨hstep, hindex, hlevel⟩ := h
    simp [occurrenceFields, ofFields?, htext, hword step hstep, hbranch branch hindex,
      hword level hlevel]
  | parallelStarted step branches =>
    simp [occurrenceFields, ofFields?, hword step h.1, hword branches h.2]
  | parallelFinished step success =>
    have hsuccess : required? Document.asBool? (some (.bool success)) = some success := rfl
    have hstep : step < Word.count 64 := h
    simp [occurrenceFields, ofFields?, hword step hstep, hsuccess]

theorem occurrence?_document {o : Occurrence} (h : o.FitsWords) :
    occurrence? (occurrenceDocument o) = some o := by
  have htype : "type" ∉ (occurrenceFields o).2.map Prod.fst := by
    rw [← fieldNames_eq]
    exact type_not_mem_fieldNames o
  have hnodup : ((occurrenceFields o).2.map Prod.fst).Nodup := by
    rw [← fieldNames_eq]
    exact nodup_fieldNames o
  have hvalues := fields?_object hnodup 0
  simp only [occurrence?, occurrenceDocument, tagged?_object htype, fieldNames_eq, hvalues,
    Option.bind_eq_bind, Option.bind_some, ofFields?_occurrenceFields h]

theorem fitsWords_of_ofFields? {kind : String} {fields : List (Option Document)} {o : Occurrence}
    (h : ofFields? kind fields = some o) : o.FitsWords := by
  have hword : ∀ {value : Option Document} {n : Nat}, required? word64? value = some n →
      n < Word.count 64 := fun {value n} hn => by
    obtain ⟨d, -, hd⟩ := Option.bind_eq_some_iff.mp hn
    exact lt_of_natural? hd
  have hbranch : ∀ {value : Option Document} {o : Option Nat}, optional? word64? value = some o →
      ∀ n ∈ o, n < Word.count 64 := fun {value o} ho n hn => by
    cases hn
    obtain ⟨d, hd⟩ := exists_of_optional? ho
    exact lt_of_natural? hd
  have hexit : ∀ {value : Option Document} {o : Option Int}, optional? signed32? value = some o →
      ∀ n ∈ o, Word.isSigned 32 n = true := fun {value o} ho n hn => by
    cases hn
    obtain ⟨d, hd⟩ := exists_of_optional? ho
    exact isSigned_of_signed32? hd
  unfold ofFields? at h
  split at h
  all_goals simp only [Option.bind_eq_bind, Option.bind_eq_some_iff, Option.pure_def,
      Option.some.injEq, reduceCtorEq] at h
  · obtain ⟨name, -, count, hcount, rfl⟩ := h
    exact hword hcount
  · obtain ⟨ms, hms, rfl⟩ := h
    exact hword hms
  · obtain ⟨error, -, ms, hms, rfl⟩ := h
    exact hword hms
  · obtain ⟨step, hstep, index, hindex, rfl⟩ := h
    exact ⟨hword hstep, hbranch hindex⟩
  · obtain ⟨step, hstep, index, hindex, kind, -, resolved, -, code, hcode, ms, hms, rfl⟩ := h
    exact ⟨hword hstep, hbranch hindex, hexit hcode, hword hms⟩
  · obtain ⟨step, hstep, index, hindex, kind, -, resolved, -, code, hcode, error, -, ms, hms, rfl⟩ :=
      h
    exact ⟨hword hstep, hbranch hindex, hexit hcode, hword hms⟩
  · obtain ⟨step, hstep, index, hindex, attempt, hattempt, delay, hdelay, rfl⟩ := h
    obtain ⟨d, -, hd⟩ := Option.bind_eq_some_iff.mp hattempt
    exact ⟨hword hstep, hbranch hindex, lt_of_natural? hd, hword hdelay⟩
  · obtain ⟨step, hstep, index, hindex, level, hlevel, command, -, rfl⟩ := h
    exact ⟨hword hstep, hbranch hindex, hword hlevel⟩
  · obtain ⟨step, hstep, branches, hbranches, rfl⟩ := h
    exact ⟨hword hstep, hword hbranches⟩
  · obtain ⟨step, hstep, success, -, rfl⟩ := h
    exact hword hstep

/-! ### Events and histories -/

theorem timestamp?_text {t : Timestamp} (h : t.IsShown) : timestamp? (.text t.text) = some t :=
  Timestamp.read?_text h

theorem event?_document {e : Event} (h : e.IsStorable) : event? (eventDocument e) = some e := by
  have hvalues := @fields?_object [("id", .text e.id), ("run_id", .text e.runId),
    ("timestamp", .text e.time.text), ("event_type", occurrenceDocument e.occurrence)]
    (by simp) 0
  have hrun : runId? (.text e.runId) = some e.runId := RunId.read?_of_isName h.runId
  simp only [List.map_cons, List.map_nil] at hvalues
  simp only [event?, eventDocument, hvalues, required?, Option.bind_eq_bind, Option.bind_some,
    Document.asText?, hrun, timestamp?_text h.time, occurrence?_document h.occurrence,
    Option.pure_def]

theorem ofDocument?_document {h : History} (hstorable : h.IsStorable) :
    ofDocument? h.document = some h := by
  have hvalues := @fields?_object [("run_id", .text h.runId),
    ("workflow_name", orNull .text h.workflowName), ("initial_timestamp", .text h.start.text),
    ("events", .list (h.events.map eventDocument))] (by simp) 0
  have hrun : runId? (.text h.runId) = some h.runId := RunId.read?_of_isName hstorable.runId
  have hname : optional? Document.asText? (some (orNull .text h.workflowName)) =
      some h.workflowName := optional?_orNull (fun _ _ => rfl) fun s => by simp
  have hevents : listOf? event? (.list (h.events.map eventDocument)) = some h.events :=
    listOf?_map fun e he => event?_document (hstorable.events e he)
  simp only [List.map_cons, List.map_nil] at hvalues
  simp only [ofDocument?, document, hvalues, required?, Option.bind_eq_bind, Option.bind_some,
    hrun, hname, timestamp?_text hstorable.start, hevents, Option.pure_def]

theorem isShown_of_timestamp? {d : Document} {t : Timestamp} (h : timestamp? d = some t) :
    t.IsShown := by
  unfold timestamp? at h
  split at h
  · exact Timestamp.isShown_of_read? h
  · cases h

theorem isName_of_runId? {d : Document} {name : String} (h : runId? d = some name) :
    RunId.IsName name := by
  unfold runId? at h
  split at h
  · exact RunId.isName_of_read? h
  · cases h

theorem fitsWords_of_occurrence? {d : Document} {o : Occurrence} (h : occurrence? d = some o) :
    o.FitsWords := by
  simp only [occurrence?, Option.bind_eq_bind, Option.bind_eq_some_iff, Prod.exists] at h
  obtain ⟨kind, rest, -, fields, -, ho⟩ := h
  exact fitsWords_of_ofFields? ho

theorem isStorable_of_event? {d : Document} {e : Event} (h : event? d = some e) :
    e.IsStorable := by
  simp only [event?, Option.bind_eq_bind, Option.bind_eq_some_iff] at h
  obtain ⟨values, -, h⟩ := h
  split at h
  next =>
    simp only [required?, Option.bind_eq_some_iff, Option.pure_def, Option.some.injEq] at h
    obtain ⟨id, -, run, ⟨_, -, hrun⟩, time, ⟨_, -, htime⟩, o, ⟨_, -, ho⟩, rfl⟩ := h
    exact ⟨isName_of_runId? hrun, isShown_of_timestamp? htime, fitsWords_of_occurrence? ho⟩
  next => cases h

theorem isStorable_of_ofDocument? {d : Document} {h : History} (hread : ofDocument? d = some h) :
    h.IsStorable := by
  simp only [ofDocument?, Option.bind_eq_bind, Option.bind_eq_some_iff] at hread
  obtain ⟨values, -, hread⟩ := hread
  split at hread
  next =>
    simp only [required?, Option.bind_eq_some_iff, Option.pure_def, Option.some.injEq] at hread
    obtain ⟨run, ⟨_, -, hrun⟩, name, -, start, ⟨_, -, hstart⟩, events, ⟨_, -, hevents⟩, rfl⟩ :=
      hread
    refine ⟨isName_of_runId? hrun, isShown_of_timestamp? hstart, fun e he => ?_⟩
    obtain ⟨item, hitem⟩ := exists_of_listOf? hevents e he
    exact isStorable_of_event? hitem
  next => cases hread

/-! ### Texts -/

theorem isPlain_integer {n : Int} (hlow : -(Word.count 63 : Int) ≤ n)
    (hhigh : n < (Word.count 64 : Int)) (k : Nat) : Json.IsPlain k (.integer n) := by
  refine .integer (Bool.and_eq_true_iff.mpr ⟨decide_eq_true hlow, decide_eq_true ?_⟩)
  have hlast : Document.greatestInteger = (Word.count 64 : Int) - 1 := rfl
  omega

theorem isPlain_natural {n : Nat} (h : n < Word.count 64) (k : Nat) :
    Json.IsPlain k (natural n) := by
  have hzero : -(Word.count 63 : Int) ≤ 0 := by decide
  exact isPlain_integer (by omega) (by omega) k

theorem isPlain_signed {n : Int} (h : Word.isSigned 32 n = true) (k : Nat) :
    Json.IsPlain k (.integer n) := by
  obtain ⟨hlow, hhigh⟩ := Bool.and_eq_true_iff.mp h
  have hleast : -(Word.count 63 : Int) ≤ -(Word.count 31 : Int) := by decide
  have hgreatest : (Word.count 31 : Int) ≤ (Word.count 64 : Int) := by decide
  exact isPlain_integer (hleast.trans (of_decide_eq_true hlow))
    ((of_decide_eq_true hhigh : n < (Word.count 31 : Int)).trans_le hgreatest) k

theorem isPlain_orNull {α : Type} {write : α → Document} {o : Option α} {k : Nat}
    (h : ∀ a ∈ o, Json.IsPlain k (write a)) : Json.IsPlain k (orNull write o) := by
  cases o with
  | none => exact .null
  | some a => exact h a rfl

theorem isPlain_resolvedDocument (v : ResolvedValue) : Json.IsPlain 1 (resolvedDocument v) := by
  have htexts : ∀ kind text : String,
      Json.IsPlain 1 (.object [("kind", .text kind), ("value", .text text)]) := fun kind text =>
    .object fun f hf => by
      rcases List.mem_pair.mp hf with rfl | rfl <;> exact .text _
  cases v <;> exact htexts _ _

theorem isPlain_occurrenceFields {o : Occurrence} (h : o.FitsWords) :
    ∀ f ∈ (occurrenceFields o).2, Json.IsPlain 1 f.2 := by
  have hword : ∀ n : Nat, n < Word.count 64 → Json.IsPlain 1 (natural n) := fun n hn =>
    isPlain_natural hn 1
  have hname : ∀ o : Option String, Json.IsPlain 1 (orNull .text o) := fun o =>
    isPlain_orNull fun s _ => .text s
  have hbranch : ∀ o : Option Nat, (∀ n ∈ o, n < Word.count 64) →
      Json.IsPlain 1 (orNull natural o) := fun o ho =>
    isPlain_orNull fun n hn => hword n (ho n hn)
  have hexit : ∀ o : Option Int, (∀ n ∈ o, Word.isSigned 32 n = true) →
      Json.IsPlain 1 (orNull .integer o) := fun o ho =>
    isPlain_orNull fun n hn => isPlain_signed (ho n hn) 1
  have hresolved : ∀ o : Option ResolvedValue, Json.IsPlain 1 (orNull resolvedDocument o) :=
    fun o => isPlain_orNull fun v _ => isPlain_resolvedDocument v
  cases o with
  | runStarted name count => simp [occurrenceFields, hname, hword count h]
  | runCompleted ms => simp [occurrenceFields, hword ms h]
  | runFailed error ms => simp [occurrenceFields, Json.IsPlain.text, hword ms h]
  | stepSkipped step branch => simp [occurrenceFields, hword step h.1, hbranch branch h.2]
  | stepCompleted step branch kind resolved exitCode ms =>
    obtain ⟨hstep, hindex, hcode, hms⟩ := h
    simp [occurrenceFields, Json.IsPlain.text, hword step hstep, hbranch branch hindex, hresolved,
      hexit exitCode hcode, hword ms hms]
  | stepFailed step branch kind resolved exitCode error ms =>
    obtain ⟨hstep, hindex, hcode, hms⟩ := h
    simp [occurrenceFields, Json.IsPlain.text, hword step hstep, hbranch branch hindex, hresolved,
      hexit exitCode hcode, hword ms hms]
  | stepRetried step branch attempt delay =>
    obtain ⟨hstep, hindex, hattempt, hdelay⟩ := h
    have hfits : Word.count 32 ≤ Word.count 64 := by decide
    simp [occurrenceFields, hword step hstep, hbranch branch hindex,
      hword attempt (hattempt.trans_le hfits), hword delay hdelay]
  | fallbackStarted step branch level command =>
    obtain ⟨hstep, hindex, hlevel⟩ := h
    simp [occurrenceFields, Json.IsPlain.text, hword step hstep, hbranch branch hindex,
      hword level hlevel]
  | parallelStarted step branches => simp [occurrenceFields, hword step h.1, hword branches h.2]
  | parallelFinished step success =>
    have hstep : step < Word.count 64 := h
    simp [occurrenceFields, Json.IsPlain.bool, hword step hstep]

theorem isPlain_occurrenceDocument {o : Occurrence} (h : o.FitsWords) :
    Json.IsPlain 2 (occurrenceDocument o) :=
  .object (List.forall_mem_cons.mpr ⟨.text _, isPlain_occurrenceFields h⟩)

theorem isPlain_eventDocument {e : Event} (h : e.occurrence.FitsWords) :
    Json.IsPlain 3 (eventDocument e) := by
  refine .object ?_
  simp [Json.IsPlain.text, isPlain_occurrenceDocument h]

theorem isPlain_document {h : History} (hevents : ∀ e ∈ h.events, e.occurrence.FitsWords) :
    Json.IsPlain 5 h.document := by
  have hlist : Json.IsPlain 4 (.list (h.events.map eventDocument)) :=
    .list (List.forall_mem_map.mpr fun e he => isPlain_eventDocument (hevents e he))
  have hname : Json.IsPlain 4 (orNull .text h.workflowName) := isPlain_orNull fun s _ => .text s
  refine .object ?_
  simp [Json.IsPlain.text, hname, hlist]

/-- A history is what the text of its file is read as. -/
theorem read?_fileText {h : History} (hstorable : h.IsStorable) : read? h.fileText = some h := by
  have hjson : Json.read? h.fileText = some h.document :=
    Json.read?_pretty (isPlain_document fun e he => (hstorable.events e he).occurrence) (by decide)
  rw [read?, hjson, Option.bind_some, ofDocument?_document hstorable]

theorem isStorable_of_read? {text : String} {h : History} (hread : read? text = some h) :
    h.IsStorable := by
  obtain ⟨d, -, hd⟩ := Option.bind_eq_some_iff.mp hread
  exact isStorable_of_ofDocument? hd

end History

end Runbook
