import Mathlib.Algebra.Ring.Nat
import Runbook.Proofs.GuardReading

/-!
How the check of a document is made of the checks of its steps. Main statement: the issues of a
document are those of its root and after them those of each step on its own, it is a workflow just
if there are none, and the workflow has as many parts as its document writes.
-/

namespace Runbook

namespace Checked

variable {α β : Type} {places : Location → Prop}

theorem issues_bind {c : Checked α} {f : α → Checked β} {a : α} (h : c.value = some a) :
    (c >>= f).issues = c.issues ++ (f a).issues := by
  change (andThen c f).issues = _
  simp [andThen, h]

@[simp] theorem issues_pure (a : α) : (pure a : Checked α).issues = [] := rfl

@[simp] theorem issues_ofOption (a : Option α) : (ofOption a).issues = [] := rfl

theorem result_of_issues {c : Checked α} (h : c.issues ≠ []) : c.result = .error c.issues := by
  obtain ⟨value, issues⟩ := c
  cases issues with
  | nil => exact absurd rfl h
  | cons first rest => cases value <;> rfl

theorem Reports.exists_ok {c : Checked α} (h : c.Reports places) (hnil : c.issues = []) :
    ∃ a, c.result = .ok a := by
  cases hvalue : c.value with
  | none => exact absurd hnil (h.explained hvalue)
  | some a => exact ⟨a, result_eq_ok.mpr ⟨hvalue, hnil⟩⟩

theorem eq_found {c : Checked α} {a : α} (hvalue : c.value = some a) (hnil : c.issues = []) :
    c = .found a := by
  obtain ⟨value, issues⟩ := c
  obtain rfl : value = some a := hvalue
  obtain rfl : issues = [] := hnil
  rfl

end Checked

/-! ### Issues -/

theorem exists_value_optionalText (d : Option Document) (fault : Fault) (location : Location) :
    ∃ text, (optionalText d fault location).value = some text := by
  unfold optionalText
  split
  · exact ⟨_, rfl⟩
  · exact ⟨_, rfl⟩
  · exact ⟨_, Checked.value_optional _⟩

theorem RunStep.exists_value_shellOf (d : Option Document) (location : Location) :
    ∃ shell, (shellOf d location).value = some shell := by
  unfold shellOf
  split
  · exact ⟨_, rfl⟩
  · exact ⟨_, Checked.value_optional _⟩
  · exact ⟨_, Checked.value_optional _⟩
  · exact ⟨_, Checked.value_optional _⟩

namespace Workflow

def rootIssues (fields : Fields) : List Issue :=
  (optionalText (fields.get? "name") .nameNotText .root).issues ++
    ((optionalText (fields.get? "baseDir") .baseDirNotText .root).issues ++
      ((RunStep.shellOf (fields.get? "shell") .root).issues ++
        (profilesOf (fields.get? "profiles")).issues))

def stepIssues (items : List Document) : List Issue :=
  (items.mapIdx fun i item => (Step.check i item).issues).flatten

theorem issues_stepsOf {items : List Document} (hne : items ≠ []) :
    (stepsOf (some (.list items))).issues = stepIssues items := by
  have hlist : stepsOf (some (.list items)) = .all (items.mapIdx Step.check) := by
    cases items with
    | nil => exact absurd rfl hne
    | cons first rest => rfl
  have hmap : (items.mapIdx Step.check).map Checked.issues =
      items.mapIdx fun i item => (Step.check i item).issues :=
    List.ext_getElem (by simp) (by simp)
  rw [hlist, Checked.issues_all, List.flatMap_def, hmap, stepIssues]

theorem issues_check {fields : Fields} {items : List Document}
    (hsteps : fields.get? "steps" = some (.list items)) (hne : items ≠ []) :
    (check (.object fields)).issues = rootIssues fields ++ stepIssues items := by
  obtain ⟨name, hname⟩ :=
    exists_value_optionalText (fields.get? "name") .nameNotText .root
  obtain ⟨baseDir, hbase⟩ :=
    exists_value_optionalText (fields.get? "baseDir") .baseDirNotText .root
  obtain ⟨shell, hshell⟩ := RunStep.exists_value_shellOf (fields.get? "shell") .root
  unfold check
  rw [Checked.issues_bind hname, Checked.issues_bind hbase, Checked.issues_bind hshell,
    Checked.issues_bind (Checked.value_optional _), Checked.issues_bind (Checked.value_optional _),
    hsteps, Checked.issues_optional, Checked.issues_optional, issues_stepsOf hne]
  -- what is put together of the parts has no issues of its own
  split <;> simp [rootIssues]

end Workflow

/-! ### Parts -/

/-- How many parts a step has; the members of lists of conditions count at every depth. -/
structure Tally where
  branches : Nat
  options : Nat
  captures : Nat
  members : Nat
  deriving DecidableEq, Repr

namespace Condition

mutual

def members : Condition → Nat
  | .all cs => membersOf cs
  | .any cs => membersOf cs
  | .not c => members c
  | _ => 0

def membersOf : List Condition → Nat
  | [] => 0
  | c :: rest => 1 + members c + membersOf rest

end

mutual

/-- The members of all lists that a document writes under the keys that decide. -/
def written : Document → Nat
  | .object fields =>
    match _h : deciding? fields with
    | some (.all, .list items) => writtenOf items
    | some (.any, .list items) => writtenOf items
    | some (.not, d) => written d
    | _ => 0
  | _ => 0
termination_by d => sizeOf d
decreasing_by
  · exact Document.sizeOf_items_lt (carried?_of_deciding _h)
  · exact Document.sizeOf_items_lt (carried?_of_deciding _h)
  · exact Document.sizeOf_field_lt (carried?_of_deciding _h)

def writtenOf : List Document → Nat
  | [] => 0
  | d :: rest => 1 + written d + writtenOf rest
termination_by items => sizeOf items

end

mutual

theorem members_of_reads {d : Document} {c : Condition} : Reads d c → c.members = written d
  | .all hkey h => by
    rw [written, members, hkey]
    exact membersOf_of_reads h
  | .any hkey h => by
    rw [written, members, hkey]
    exact membersOf_of_reads h
  | .not hkey h => by
    rw [written, members, hkey]
    exact members_of_reads h
  | .value hkey h => by
    rw [written, hkey]
    cases h <;> simp [members]

theorem membersOf_of_reads {items : List Document} {cs : List Condition} :
    ReadsMembers items cs → membersOf cs = writtenOf items
  | .nil => by rw [writtenOf, membersOf]
  | .cons h hrest => by
    rw [writtenOf, membersOf, members_of_reads h, membersOf_of_reads hrest]

end

end Condition

def Action.captures : Action → List CaptureRule
  | .run step => step.captures
  | _ => []

def Action.options : Action → List ChoiceOption
  | .choose step => step.options
  | _ => []

def guardMembers (guard : Option Condition) : Nat := guard.elim 0 Condition.members

def Step.tally (step : Step) : Tally :=
  match step.body with
  | .action action =>
    ⟨0, action.options.length, action.captures.length, guardMembers step.guard⟩
  | .parallel branches =>
    ⟨branches.length, 0, (branches.map fun b => b.action.captures.length).sum,
      guardMembers step.guard + (branches.map fun b => guardMembers b.guard).sum⟩

namespace Document

def listed : Option Document → List Document
  | some (.list items) => items
  | _ => []

@[simp] theorem listed_none : listed none = [] := rfl

def guardMembers (item : Document) : Nat := (item.field? "when").elim 0 Condition.written

/-- The captures that an item writes; they belong to a command. -/
def captureCount (item : Document) : Nat :=
  if (item.field? "run").isSome then (listed (item.field? "captures")).length else 0

/-- The parts that an item writes, those of its branches among them. -/
def tally (item : Document) : Tally :=
  let branches := listed (item.field? "parallel")
  ⟨branches.length, (listed ((item.field? "choose").bind (·.field? "options"))).length,
    item.captureCount + (branches.map captureCount).sum,
    item.guardMembers + (branches.map guardMembers).sum⟩

end Document

theorem guardMembers_of_read {item : Document} {guard : Option Condition}
    (h : GuardRead item guard) : guardMembers guard = item.guardMembers := by
  unfold Document.guardMembers
  cases guard with
  | none =>
    cases hwhen : item.field? "when" with
    | none => rfl
    | some d =>
      rw [GuardRead, hwhen] at h
      cases d with
      | null =>
        have hnull : Condition.written .null = 0 := by
          rw [Condition.written]
          simp
        exact hnull.symm
      | _ => simp [Document.present] at h
  | some c =>
    obtain ⟨d, hd, hread⟩ := h
    rw [hd]
    exact Condition.members_of_reads hread

theorem captureCount_of_read {item : Document} {rules : List CaptureRule}
    (h : CapturesRead item rules) :
    rules.length = (Document.listed (item.field? "captures")).length := by
  rcases h with ⟨hnone, rfl⟩ | ⟨items, hitems, hrules⟩
  · cases hfield : item.field? "captures" with
    | none => rfl
    | some d =>
      rw [hfield] at hnone
      cases d with
      | null => rfl
      | _ => simp [Document.present] at hnone
  · rw [hitems]
    exact hrules.length_eq.symm

theorem field?_of_kindOf {fields : Fields} {location : Location} {kind other : String}
    (h : (kindOf fields location).value = some kind) (hother : other ∈ stepKinds)
    (hne : other ≠ kind) : (Document.object fields).field? other = none := by
  cases hget : (Document.object fields).field? other with
  | none => rfl
  | some d => exact absurd (kind_eq_of_has h hother (Option.isSome_of_eq_some hget)) hne

/-- A command counts the captures that stand beside it, anything else none. -/
theorem captureCount_of_kindOf {fields : Fields} {location : Location} {kind : String}
    (h : (kindOf fields location).value = some kind) : (Document.object fields).captureCount =
      if kind = "run" then
        (Document.listed ((Document.object fields).field? "captures")).length
      else 0 := by
  unfold Document.captureCount
  by_cases hrun : kind = "run"
  · have hhas := (mem_stepKinds_of_kindOf h).2
    subst hrun
    exact if_pos hhas
  · have hfield := field?_of_kindOf h (by decide : "run" ∈ stepKinds) (Ne.symm hrun)
    simp [hfield, hrun]

theorem Branch.counts_of_check {step branch : Nat} {d : Document} {b : Branch}
    (h : (check step branch d).value = some b) :
    b.action.captures.length = d.captureCount ∧ Runbook.guardMembers b.guard = d.guardMembers := by
  obtain ⟨hguard, hreads⟩ := Branch.reads_of_check h
  refine ⟨?_, guardMembers_of_read hguard⟩
  obtain ⟨fields, kind, rfl, hkind, _, hfound⟩ := found_of_check h
  rw [captureCount_of_kindOf hkind]
  generalize b.action = action at hfound hreads ⊢
  cases hfound with
  | run _ => exact captureCount_of_read hreads
  | fail _ => rfl

/-- Lists whose members agree in what is counted have the same counts. -/
theorem map_eq_map_of_forall₂ {ι α : Type} {f : ι → Nat} {g : α → Nat} {items : List ι}
    {as : List α} (h : List.Forall₂ (fun i a => g a = f i) items as) : as.map g = items.map f := by
  induction h with
  | nil => rfl
  | cons hfirst _ ih => rw [List.map_cons, List.map_cons, hfirst, ih]

theorem counts_of_branchesOf {d : Option Document} {index : Nat} {branches : List Branch}
    (h : (branchesOf d index).value = some branches) :
    branches.length = (Document.listed d).length ∧
      (branches.map fun b => b.action.captures.length) = (Document.listed d).map Document.captureCount ∧
      (branches.map fun b => guardMembers b.guard) = (Document.listed d).map Document.guardMembers := by
  unfold branchesOf at h
  split at h
  · simp at h
  · rename_i items _
    have hcounts := Checked.forall₂_of_mapIdx
      (P := fun d b => b.action.captures.length = d.captureCount ∧
        guardMembers b.guard = d.guardMembers)
      (fun _ _ _ => Branch.counts_of_check) (Checked.value_all.mp h)
    exact ⟨hcounts.length_eq.symm, map_eq_map_of_forall₂ (hcounts.imp fun _ _ h => h.1),
      map_eq_map_of_forall₂ (hcounts.imp fun _ _ h => h.2)⟩
  · simp at h

theorem ChooseStep.length_options {d : Option Document} {location : Location} {step : ChooseStep}
    (h : (check d location).value = some step) :
    step.options.length = (Document.listed (d.bind (·.field? "options"))).length := by
  have hoptions := (found_of_check h).options
  generalize d.bind (·.field? "options") = written at hoptions ⊢
  unfold optionsOf at hoptions
  split at hoptions
  · simp at hoptions
  · exact (Checked.length_of_value_all hoptions).trans (List.length_mapIdx ..)
  · simp at hoptions

/-- A step that is found has the parts that its item writes. -/
theorem Step.tally_of_check {index : Nat} {d : Document} {step : Step}
    (h : (check index d).value = some step) : step.tally = d.tally := by
  obtain ⟨hguard, hreads⟩ := Step.reads_of_check h
  have hmembers := guardMembers_of_read hguard
  obtain ⟨fields, kind, rfl, hkind, _, hfound⟩ := found_of_check h
  have hcaptures := captureCount_of_kindOf hkind
  have hparallel := field?_of_kindOf hkind (by decide : "parallel" ∈ stepKinds)
  have hchoose := field?_of_kindOf hkind (by decide : "choose" ∈ stepKinds)
  unfold tally Document.tally
  generalize step.body = body at hfound hreads ⊢
  cases hfound with
  | run _ =>
    have hlength := captureCount_of_read hreads
    simp [hparallel, hchoose, hcaptures, hmembers, Action.captures, Action.options, hlength]
  | choose hfound =>
    have hlength := ChooseStep.length_options hfound
    have hfield : Fields.get? fields "choose" = (Document.object fields).field? "choose" := rfl
    rw [hfield] at hlength
    simp [hparallel, hcaptures, hmembers, Action.captures, Action.options, hlength]
  | prompt _ =>
    simp [hparallel, hchoose, hcaptures, hmembers, Action.captures, Action.options]
  | parallel hbranches =>
    obtain ⟨hlength, hcounts, hguards⟩ := counts_of_branchesOf hbranches
    have hfield : Fields.get? fields "parallel" = (Document.object fields).field? "parallel" := rfl
    rw [hfield] at hlength hcounts hguards
    simp [hchoose, hcaptures, hmembers, hlength, hcounts, hguards]
  | fail _ =>
    simp [hparallel, hchoose, hcaptures, hmembers, Action.captures, Action.options]

/-- The key that names a step's kind is the only one of its item that names a kind. -/
theorem Step.kind_of_check {index : Nat} {d : Document} {step : Step}
    (h : (check index d).value = some step) :
    stepKinds.filter (fun kind => (d.field? kind).isSome) = [step.body.kind] := by
  obtain ⟨fields, kind, rfl, hkind, _, hfound⟩ := found_of_check h
  have hbody : kind = step.body.kind := by
    generalize step.body = body at hfound ⊢
    cases hfound <;> rfl
  unfold kindOf at hkind
  split at hkind
  · rename_i only honly
    obtain rfl : only = kind := by simpa using hkind
    exact hbody ▸ honly
  · simp at hkind
  · simp at hkind

/-! ### Workflows -/

theorem Location.text?_of_isIn {index : Nat} {l : Location} (h : l.IsIn index) :
    l.text? = some s!"step {index + 1}" ∨
      ∃ j, l.text? = some s!"step {index + 1} → parallel branch {j + 1}" := by
  rcases h with rfl | ⟨j, rfl⟩
  · exact .inl rfl
  · exact .inr ⟨j, rfl⟩

namespace Workflow

theorem steps_of_result {fields : Fields} {items : List Document} {w : Workflow}
    (hsteps : fields.get? "steps" = some (.list items)) (hne : items ≠ [])
    (h : (check (.object fields)).result = .ok w) : w.steps.length = items.length ∧
      ∀ k item, items[k]? = some item → ∃ step, w.steps[k]? = some step ∧
        Step.check k item = .found step := by
  obtain ⟨hvalue, hissues⟩ := Checked.result_eq_ok.mp h
  obtain ⟨found, _, hfound, hall⟩ := steps_of_check hvalue
  obtain rfl : items = found := by
    simpa using hsteps.symm.trans hfound
  obtain ⟨hlen, hget⟩ := List.forall₂_iff_get.mp hall
  rw [List.length_mapIdx] at hlen
  refine ⟨hlen.symm, fun k item hitem => ?_⟩
  obtain ⟨hk, rfl⟩ := List.getElem?_eq_some_iff.mp hitem
  have hstep := hget k (by simpa using hk) (hlen ▸ hk)
  simp only [List.get_eq_getElem, List.getElem_mapIdx] at hstep
  refine ⟨_, List.getElem?_eq_getElem (hlen ▸ hk), Checked.eq_found hstep ?_⟩
  rw [issues_check hsteps hne, List.append_eq_nil_iff] at hissues
  refine List.flatten_eq_nil_iff.mp hissues.2 _ ?_
  exact List.mem_mapIdx.mpr ⟨k, hk, rfl⟩

/-- The issues of a document with steps are those of its root, and after them those of each step on
its own at its index, all of them at that step; an item that is no step has one. Without issues, and
only then, the document is a workflow, whose steps are what the items are on their own, each of the
kind, with the guards and captures and with as many parts as its item writes. -/
theorem check_composed {fields : Fields} {items : List Document}
    (hsteps : fields.get? "steps" = some (.list items)) (hne : items ≠ []) :
    (check (.object fields)).issues = rootIssues fields ++ stepIssues items ∧
    (∀ i item, ((Step.check i item).value = none → (Step.check i item).issues ≠ []) ∧
      ∀ issue ∈ (Step.check i item).issues,
        issue.location.text? = some s!"step {i + 1}" ∨
          ∃ j, issue.location.text? = some s!"step {i + 1} → parallel branch {j + 1}") ∧
    ((check (.object fields)).issues ≠ [] →
      (check (.object fields)).result = .error (check (.object fields)).issues) ∧
    ((check (.object fields)).issues = [] → ∃ w, (check (.object fields)).result = .ok w ∧
      w.steps.length = items.length ∧ ∀ k item, items[k]? = some item →
        ∃ step, w.steps[k]? = some step ∧ Step.check k item = .found step ∧
          stepKinds.filter (fun kind => (item.field? kind).isSome) = [step.body.kind] ∧
          step.Reads item ∧ step.tally = item.tally) := by
  refine ⟨issues_check hsteps hne, fun i item => ?_, Checked.result_of_issues, fun hnil => ?_⟩
  · have hreports := Step.reports_check i item
    exact ⟨hreports.explained, fun issue hissue =>
      Location.text?_of_isIn (hreports.located issue hissue)⟩
  · obtain ⟨w, hw⟩ := (reports_check _).exists_ok hnil
    obtain ⟨hlen, hfound⟩ := steps_of_result hsteps hne hw
    refine ⟨w, hw, hlen, fun k item hitem => ?_⟩
    obtain ⟨step, hstep, hcheck⟩ := hfound k item hitem
    have hvalue : (Step.check k item).value = some step := by rw [hcheck]; rfl
    exact ⟨step, hstep, hcheck, Step.kind_of_check hvalue, Step.reads_of_check hvalue,
      Step.tally_of_check hvalue⟩

def faultyItems : List Document :=
  [.object [("run", .text " ")],
    .object [("parallel", .list [.object [("fail", .text "over")], .object [("prompt", .null)]])]]

theorem check_composed_faulty :
    Fields.get? [("steps", .list faultyItems)] "steps" = some (.list faultyItems) ∧
    faultyItems ≠ [] ∧
    (check (.object [("steps", .list faultyItems)])).result =
      .error [⟨.commandEmpty "run", .step 0⟩, ⟨.notInParallel "prompt", .branch 1 1⟩] := by
  have hsteps : Fields.get? [("steps", .list faultyItems)] "steps" = some (.list faultyItems) := rfl
  have hne : faultyItems ≠ [] := by simp [faultyItems]
  obtain ⟨hissues, _, herror, _⟩ := check_composed hsteps hne
  have hlist : rootIssues [("steps", .list faultyItems)] ++ stepIssues faultyItems =
      [⟨.commandEmpty "run", .step 0⟩, ⟨.notInParallel "prompt", .branch 1 1⟩] := rfl
  rw [hlist] at hissues
  refine ⟨hsteps, hne, ?_⟩
  rw [herror (by rw [hissues]; simp), hissues]

def twoListsFields : Fields :=
  [("run", .text "x"), ("when", .object [
    ("all", .list [.object [("has", .text "a")]]),
    ("any", .list [.object [("has", .text "b")], .object [("has", .text "c")]])])]

def twoLists : Workflow where
  name := none
  baseDir := none
  shell := none
  profiles := []
  steps := [⟨some (.all [.hasVar "a"]), .action (.run ⟨"x", none, .never, none, false, [], []⟩)⟩]
  source := ⟨none, none, []⟩

/-- The members of one of the two lists are no part of the workflow. -/
theorem second_list_dropped :
    (check (.object [("steps", .list [.object twoListsFields])])).result = .ok twoLists ∧
    twoListsFields.get? "when" = some (.object [
      ("all", .list [.object [("has", .text "a")]]),
      ("any", .list [.object [("has", .text "b")], .object [("has", .text "c")]])]) ∧
    (twoLists.steps.map fun step => step.tally.members) = [1] := by
  have hmember : Condition.check (.step 0) (.object [("has", .text "a")]) =
      .found (.hasVar "a") := by
    rw [Condition.check]
    simp [Bindings.find?, Condition.leaf, Document.present, Condition.ofText, Document.asText?]
  have hmembers : Condition.checkMembers (.step 0) [.object [("has", .text "a")]] =
      .found [.hasVar "a"] := by
    rw [Condition.checkMembers, hmember, Condition.checkMembers]
    rfl
  have hguard : guardOf twoListsFields (.step 0) = .found (some (.all [.hasVar "a"])) := by
    change (do return some (← Condition.check _ _) : Checked _) = _
    rw [Condition.check]
    simp [Bindings.find?, hmembers]
    rfl
  have hstep : Step.check 0 (.object twoListsFields) = .found ⟨some (.all [.hasVar "a"]),
      .action (.run ⟨"x", none, .never, none, false, [], []⟩)⟩ := by
    unfold Step.check
    dsimp only
    rw [hguard]
    rfl
  have hsteps : stepsOf (some (.list [.object twoListsFields])) = .found twoLists.steps := by
    change Checked.all [Step.check 0 _] = _
    rw [hstep]
    rfl
  refine ⟨?_, rfl, by simp [twoLists, Step.tally, guardMembers, Condition.members,
    Condition.membersOf]⟩
  unfold check
  dsimp only
  have hget : Fields.get? [("steps", .list [.object twoListsFields])] "steps" =
    some (.list [.object twoListsFields]) := rfl
  rw [hget, hsteps]
  rfl

end Workflow

end Runbook
