import Runbook.Workflow.Reader

/-!
Where the items of a list begin in a JSON text. A text is read character by character, with the token
that it is inside of and the reader after the tokens before it. Main statement: the brackets that
are counted in the list of steps are the ones that the reader opens and closes.
-/

namespace Runbook.Json

/-! ### What a token can do -/

namespace Token

def isOpening (t : Token) : Bool := t == .openObject || t == .openList

def isClosing (t : Token) : Bool := t == .closeObject || t == .closeList

def isScalar : Token → Bool
  | .null | .bool _ | .number _ => true
  | _ => false

theorem not_closing_of_opening {t : Token} (h : t.isOpening = true) : t.isClosing = false := by
  cases t with
  | openObject | openList => rfl
  | _ => cases h

end Token

theorem asObject?_of_number? {s : List Char} {v : Document} (h : number? s = some v) :
    v.asObject? = none := by
  simp only [number?, bind, Option.bind_eq_some_iff, pure] at h
  obtain ⟨parts, -, h⟩ := h
  split at h
  · obtain rfl := Option.some.inj h
    rfl
  split at h
  · obtain rfl := Option.some.inj h
    rfl
  · obtain ⟨x, -, h⟩ := Option.bind_eq_some_iff.1 h
    obtain rfl := Option.some.inj h
    rfl

def Frame.closed : Frame → Document
  | .list items => .list items.reverse
  | .object fields _ => .object fields.reverse

namespace Reader

/-- What one token does. -/
inductive Takes (r : Reader) : Token → Reader → Prop where
  | scalar {t : Token} (v : Document) (hmode : r.mode = .value ∨ r.mode = .firstItem)
      (hopening : t.isOpening = false) (hclosing : t.isClosing = false) (hv : v.asObject? = none) :
    Takes r t (put v r.frames)
  | opened {t : Token} (frame : Frame) (mode : Mode) (hmode : r.mode = .value ∨ r.mode = .firstItem)
      (hopening : t.isOpening = true) (hdone : ∀ v, mode ≠ .done v)
      (hframe : t = .openList ∧ frame = .list [] ∨ t = .openObject ∧ frame = .object [] "") :
    Takes r t ⟨mode, frame :: r.frames⟩
  | closed {t : Token} (frame : Frame) (rest : List Frame) (hclosing : t.isClosing = true)
      (hframes : r.frames = frame :: rest) : Takes r t (put frame.closed rest)
  | named (name : String) (fields : List (String × Document)) (last : String) (rest : List Frame)
      (hframes : r.frames = .object fields last :: rest) :
    Takes r (.text name) ⟨.colon, .object fields name :: rest⟩
  | between {t : Token} (mode : Mode) (ht : t = .comma ∨ t = .colon) (hdone : ∀ v, mode ≠ .done v) :
    Takes r t ⟨mode, r.frames⟩

section Cases

variable {r next : Reader} {t : Token}

theorem takes_of_value (hmode : r.mode = .value ∨ r.mode = .firstItem)
    (h : value t r.frames = some next) : Takes r t next := by
  cases t with
  | null | bool | text =>
    obtain rfl := Option.some.inj h
    exact .scalar _ hmode rfl rfl rfl
  | number s =>
    obtain ⟨v, hv, rfl⟩ := Option.map_eq_some_iff.1 h
    exact .scalar v hmode rfl rfl (asObject?_of_number? hv)
  | openList =>
    simp only [value, enter] at h
    split at h
    · obtain rfl := Option.some.inj h
      exact .opened _ _ hmode rfl (by simp) (.inl ⟨rfl, rfl⟩)
    · cases h
  | openObject =>
    simp only [value, enter] at h
    split at h
    · obtain rfl := Option.some.inj h
      exact .opened _ _ hmode rfl (by simp) (.inr ⟨rfl, rfl⟩)
    · cases h
  | _ => cases h

theorem takes_of_close (h : close t r.frames = some next) : Takes r t next := by
  cases hframes : r.frames with
  | nil =>
    rw [hframes] at h
    cases h
  | cons frame rest =>
    rw [hframes] at h
    cases frame <;>
    · simp only [close] at h
      split at h
      · rename_i ht
        obtain rfl := Option.some.inj h
        subst ht
        exact .closed _ rest rfl hframes
      · cases h

theorem takes_of_name (h : name t r.frames = some next) : Takes r t next := by
  unfold name at h
  split at h
  · rename_i fields last rest hframes
    split at h
    · obtain rfl := Option.some.inj h
      exact .named _ fields last rest hframes
    · cases h
  · cases h

theorem takes_of_step (h : r.step t = some next) : Takes r t next := by
  unfold step at h
  split at h
  · rename_i hmode
    exact takes_of_value (.inl hmode) h
  · rename_i hmode
    split at h
    · exact takes_of_close h
    · exact takes_of_value (.inr hmode) h
  · split at h
    · exact takes_of_close h
    · exact takes_of_name h
  · exact takes_of_name h
  · split at h
    · rename_i ht
      obtain rfl := Option.some.inj h
      exact .between _ (.inr ht) (by simp)
    · cases h
  · split at h
    · rename_i ht
      split at h
      · obtain rfl := Option.some.inj h
        exact .between _ (.inl ht) (by simp)
      · obtain rfl := Option.some.inj h
        exact .between _ (.inl ht) (by simp)
      · cases h
    · exact takes_of_close h
  · cases h

theorem mode_put (v : Document) (frames : List Frame) :
    (put v frames).mode ≠ .value ∧ (put v frames).mode ≠ .firstItem := by
  cases frames with
  | nil => exact ⟨by simp [put], by simp [put]⟩
  | cons frame rest => cases frame <;> exact ⟨by simp [put], by simp [put]⟩

theorem frames_put_of_done {v w : Document} {frames : List Frame}
    (h : (put v frames).mode = .done w) : (put v frames).frames = [] := by
  cases frames with
  | nil => rfl
  | cons frame rest => cases frame <;> cases h

theorem frames_of_step_done {v : Document} (h : r.step t = some next)
    (hdone : next.mode = .done v) : next.frames = [] := by
  cases takes_of_step h with
  | scalar | closed => exact frames_put_of_done hdone
  | opened _ _ _ _ hmode | between _ _ hmode => exact absurd hdone (hmode v)
  | named => cases hdone

end Cases

theorem run_append (r : Reader) (tokens others : List Token) :
    r.run (tokens ++ others) = (r.run tokens).bind fun next => next.run others := by
  induction tokens generalizing r with
  | nil => rfl
  | cons t rest ih =>
    simp only [List.cons_append, run]
    cases r.step t with
    | none => rfl
    | some next => exact ih next

theorem frames_of_run_done {r final : Reader} {tokens : List Token} {v : Document}
    (h : r.run tokens = some final) (hr : ∀ w, r.mode ≠ .done w) (hdone : final.mode = .done v) :
    final.frames = [] := by
  induction tokens generalizing r with
  | nil =>
    obtain rfl := Option.some.inj h
    exact absurd hdone (hr v)
  | cons t rest ih =>
    obtain ⟨next, hnext, hrest⟩ := Option.bind_eq_some_iff.1 h
    by_cases hmode : ∃ w, next.mode = .done w
    · obtain ⟨w, hw⟩ := hmode
      cases rest with
      | nil =>
        obtain rfl := Option.some.inj hrest
        exact frames_of_step_done hnext hw
      | cons t' rest => simp [run, step, hw] at hrest
    · exact ih hrest fun w hw => hmode ⟨w, hw⟩

end Reader

/-! ### Reading character by character -/

/-- What was read of a text: the token that it ends inside of, and the reader after the tokens
before that one. -/
structure Reading where
  inside : Inside
  reader : Reader

namespace Reading

def start : Reading := ⟨.nothing, .start⟩

def step (r : Reading) (c : Char) : Option Reading :=
  (Json.step r.inside c).bind fun found =>
    (r.reader.run found.1).map fun reader => ⟨found.2, reader⟩

def along (r : Reading) : List Char → Option Reading
  | [] => some r
  | c :: s => (r.step c).bind fun next => along next s

/-- The text can end here, and writes the document. -/
def Ends (r : Reading) (d : Document) : Prop :=
  ∃ tokens, finish r.inside = some tokens ∧ r.reader.run tokens = some ⟨.done d, []⟩

theorem along_append (r : Reading) (s t : List Char) :
    r.along (s ++ t) = (r.along s).bind fun next => next.along t := by
  induction s generalizing r with
  | nil => rfl
  | cons c s ih =>
    simp only [List.cons_append, along]
    cases r.step c with
    | none => rfl
    | some next => exact ih next

theorem exists_along_of_tokensFrom {r : Reading} {s : List Char} {tokens : List Token}
    {final : Reader} (htokens : tokensFrom r.inside s = some tokens)
    (hrun : r.reader.run tokens = some final) :
    ∃ last, r.along s = some last ∧ ∃ tokens, finish last.inside = some tokens ∧
      last.reader.run tokens = some final := by
  induction s generalizing r tokens with
  | nil => exact ⟨r, rfl, tokens, htokens, hrun⟩
  | cons c s ih =>
    simp only [tokensFrom, bind, Option.bind_eq_some_iff, pure, Option.some.injEq] at htokens
    obtain ⟨⟨found, next⟩, hstep, others, hothers, rfl⟩ := htokens
    rw [Reader.run_append, Option.bind_eq_some_iff] at hrun
    obtain ⟨reader, hreader, hrun⟩ := hrun
    obtain ⟨last, halong, hlast⟩ := ih (r := ⟨next, reader⟩) hothers hrun
    refine ⟨last, ?_, hlast⟩
    have hnext : r.step c = some ⟨next, reader⟩ := by simp [step, hstep, hreader]
    rw [along, hnext, Option.bind_some, halong]

theorem exists_along_of_read? {s : String} {d : Document} (h : read? s = some d) :
    ∃ last, start.along s.toList = some last ∧ last.Ends d := by
  simp only [read?, bind, Option.bind_eq_some_iff] at h
  obtain ⟨tokens, htokens, final, hrun, hfinal⟩ := h
  obtain ⟨last, halong, rest, hfinish, hrest⟩ :=
    exists_along_of_tokensFrom (r := start) htokens hrun
  refine ⟨last, halong, rest, hfinish, ?_⟩
  obtain ⟨mode, frames⟩ := final
  split at hfinal
  · rename_i v hdone
    obtain rfl : mode = .done v := hdone
    obtain rfl := Option.some.inj hfinal
    obtain rfl : frames = [] := Reader.frames_of_run_done hrun (by simp [Reader.start]) rfl
    exact hrest
  · cases hfinal

end Reading

/-! ### What open lists and objects become -/

/-- The document is what the frames become with the value as the next one of the innermost frame. -/
def Fits : List Frame → Document → Document → Prop
  | [], v, d => v = d
  | .list items :: rest, v, d => ∃ more, Fits rest (.list (items.reverse ++ v :: more)) d
  | .object fields name :: rest, v, d =>
    ∃ more, Fits rest (.object (fields.reverse ++ (name, v) :: more)) d

/-- The document is what the frames become. -/
def Becomes : List Frame → Document → Prop
  | [], _ => True
  | .list items :: rest, d => ∃ more, Fits rest (.list (items.reverse ++ more)) d
  | .object fields _ :: rest, d => ∃ more, Fits rest (.object (fields.reverse ++ more)) d

theorem becomes_of_fits {frames : List Frame} {v d : Document} (h : Fits frames v d) :
    Becomes frames d := by
  cases frames with
  | nil => trivial
  | cons frame rest =>
    cases frame with
    | list items =>
      obtain ⟨more, hmore⟩ := h
      exact ⟨v :: more, hmore⟩
    | object fields name =>
      obtain ⟨more, hmore⟩ := h
      exact ⟨(name, v) :: more, hmore⟩

theorem exists_fits_of_becomes {frame : Frame} {rest : List Frame} {d : Document}
    (h : Becomes (frame :: rest) d) : ∃ v, Fits rest v d := by
  cases frame with
  | list items =>
    obtain ⟨more, hmore⟩ := h
    exact ⟨_, hmore⟩
  | object fields name =>
    obtain ⟨more, hmore⟩ := h
    exact ⟨_, hmore⟩

theorem becomes_of_fits_closed {frame : Frame} {rest : List Frame} {d : Document}
    (h : Fits rest frame.closed d) : Becomes (frame :: rest) d := by
  cases frame with
  | list items => exact ⟨[], by simpa [Frame.closed] using h⟩
  | object fields name => exact ⟨[], by simpa [Frame.closed] using h⟩

namespace Reader

/-- Whatever is read from here on, the document comes out of it. -/
def Leads (r : Reader) (d : Document) : Prop :=
  match r.mode with
  | .done v => v = d
  | _ => Becomes r.frames d

theorem becomes_of_leads {r : Reader} {d : Document} (h : r.Leads d) (hmode : ∀ v, r.mode ≠ .done v) :
    Becomes r.frames d := by
  obtain ⟨mode, frames⟩ := r
  cases mode with
  | done v => exact absurd rfl (hmode v)
  | _ => exact h

theorem leads_of_becomes {mode : Mode} {frames : List Frame} {d : Document} (h : Becomes frames d)
    (hmode : ∀ v, mode ≠ .done v) : (⟨mode, frames⟩ : Reader).Leads d := by
  cases mode with
  | done v => exact absurd rfl (hmode v)
  | _ => exact h

theorem fits_of_put {v d : Document} {frames : List Frame} (h : (put v frames).Leads d) :
    Fits frames v d := by
  cases frames with
  | nil => exact h
  | cons frame rest =>
    cases frame with
    | list items =>
      obtain ⟨more, hmore⟩ := h
      exact ⟨more, by simpa using hmore⟩
    | object fields name =>
      obtain ⟨more, hmore⟩ := h
      exact ⟨more, by simpa using hmore⟩

theorem leads_of_step {r next : Reader} {t : Token} {d : Document} (h : r.step t = some next)
    (hleads : next.Leads d) : r.Leads d := by
  have hr : ∀ v, r.mode ≠ .done v := by
    intro v hmode
    rw [step, hmode] at h
    cases h
  have hbecomes : Becomes r.frames d := by
    cases takes_of_step h with
    | scalar => exact becomes_of_fits (fits_of_put hleads)
    | opened frame mode _ _ hdone =>
      obtain ⟨v, hv⟩ := exists_fits_of_becomes (becomes_of_leads hleads hdone)
      exact becomes_of_fits hv
    | closed frame rest _ hframes =>
      rw [hframes]
      exact becomes_of_fits_closed (fits_of_put hleads)
    | named name fields last rest hframes =>
      rw [hframes]
      exact hleads
    | between mode _ hdone =>
      have hsame : Becomes (⟨mode, r.frames⟩ : Reader).frames d := becomes_of_leads hleads hdone
      exact hsame
  exact leads_of_becomes hbecomes hr

theorem leads_of_run {r final : Reader} {tokens : List Token} {d : Document}
    (h : r.run tokens = some final) (hleads : final.Leads d) : r.Leads d := by
  induction tokens generalizing r with
  | nil =>
    obtain rfl := Option.some.inj h
    exact hleads
  | cons t rest ih =>
    obtain ⟨next, hnext, hrest⟩ := Option.bind_eq_some_iff.1 h
    exact leads_of_step hnext (ih hrest)

end Reader

namespace Reading

theorem Ends.leads {r : Reading} {d : Document} (h : r.Ends d) : r.reader.Leads d := by
  obtain ⟨tokens, -, hrun⟩ := h
  exact Reader.leads_of_run hrun rfl

theorem leads_of_along {r last : Reading} {s : List Char} {d : Document}
    (h : r.along s = some last) (hleads : last.reader.Leads d) : r.reader.Leads d := by
  induction s generalizing r with
  | nil =>
    obtain rfl := Option.some.inj h
    exact hleads
  | cons c s ih =>
    obtain ⟨next, hnext, hrest⟩ := Option.bind_eq_some_iff.1 h
    obtain ⟨found, -, hfound⟩ := Option.bind_eq_some_iff.1 hnext
    obtain ⟨reader, hrun, rfl⟩ := Option.map_eq_some_iff.1 hfound
    exact Reader.leads_of_run hrun (ih hrest)

end Reading

/-! ### The list of steps -/

/-- The root of the document has the steps as its only value under their key, and they are objects. -/
structure HasSteps (d : Document) (steps : List Document) : Prop where
  root : ∃ fields, d = .object fields ∧ ∀ v, ("steps", v) ∈ fields → v = .list steps
  objects : ∀ v ∈ steps, v.asObject?.isSome = true

/-- The frames inside the list of steps of the root, of which some items have been read. -/
def inSteps (inner : List Frame) (items : List Document) (fields : List (String × Document)) :
    List Frame :=
  inner ++ [.list items, .object fields "steps"]

def begun (inner : List Frame) (items : List Document) : Nat :=
  items.length + if inner = [] then 0 else 1

theorem begun_congr {inner inner' : List Frame} (h : inner'.length = inner.length)
    (items : List Document) : begun inner' items = begun inner items := by
  simp [begun, ← List.length_eq_zero_iff, h]

section Steps

variable {d : Document} {steps items : List Document} {fields : List (String × Document)}
  {inner : List Frame}

theorem HasSteps.exists_more (h : HasSteps d steps) (hd : Becomes (inSteps [] items fields) d) :
    ∃ more, steps = items.reverse ++ more := by
  obtain ⟨root, rfl, hroot⟩ := h.root
  obtain ⟨more, others, hfits⟩ := hd
  have hmem : ("steps", Document.list (items.reverse ++ more)) ∈ root := by
    have hfields : .object (fields.reverse ++ ("steps", .list (items.reverse ++ more)) :: others) =
      Document.object root := hfits
    rw [← Document.object.inj hfields]
    simp
  exact ⟨more, (Document.list.inj (hroot _ hmem)).symm⟩

theorem HasSteps.isObject (h : HasSteps d steps) {v : Document}
    (hd : Becomes (inSteps [] (v :: items) fields) d) : v.asObject?.isSome = true := by
  obtain ⟨more, hmore⟩ := h.exists_more hd
  exact h.objects v (by simp [hmore])

theorem HasSteps.not_list (h : HasSteps d steps)
    (hd : Becomes (inSteps [.list []] items fields) d) : False := by
  obtain ⟨more, others, hfits⟩ := hd
  have hitem : Becomes (inSteps [] (.list ([].reverse ++ more) :: items) fields) d :=
    ⟨others, by simpa using hfits⟩
  cases h.isObject hitem

theorem HasSteps.length_eq (h : HasSteps d steps)
    (hd : Becomes [.object (("steps", .list items.reverse) :: fields) "steps"] d) :
    items.length = steps.length := by
  obtain ⟨root, rfl, hroot⟩ := h.root
  obtain ⟨more, hfits⟩ := hd
  have hfields : .object ((("steps", Document.list items.reverse) :: fields).reverse ++ more) =
    Document.object root := hfits
  have hmem : ("steps", Document.list items.reverse) ∈ root := by
    rw [← Document.object.inj hfields]
    simp
  have hlist := Document.list.inj (hroot _ hmem)
  rw [← hlist, List.length_reverse]

/-- A value after others stands inside the innermost list or object, or is the next item. -/
theorem frames_put (inner : List Frame) (items : List Document)
    (fields : List (String × Document)) (v : Document) : ∃ inner' items',
    (Reader.put v (inSteps inner items fields)).frames = inSteps inner' items' fields ∧
      inner'.length = inner.length ∧
      (inner = [] ∧ items' = v :: items ∨ inner ≠ [] ∧ items' = items) := by
  cases inner with
  | nil => exact ⟨[], v :: items, rfl, rfl, .inl ⟨rfl, rfl⟩⟩
  | cons frame rest =>
    cases frame with
    | list others =>
      exact ⟨.list (v :: others) :: rest, items, rfl, rfl, .inr ⟨List.cons_ne_nil _ _, rfl⟩⟩
    | object others name =>
      exact ⟨.object ((name, v) :: others) name :: rest, items, rfl, rfl,
        .inr ⟨List.cons_ne_nil _ _, rfl⟩⟩

end Steps

/-! ### Tokens inside the list of steps -/

namespace Reader

variable {d : Document} {steps items : List Document} {fields : List (String × Document)}
  {inner : List Frame} {r next : Reader} {t : Token}

/-- A token that opens nothing and closes nothing is part of an item, or stands between two. -/
theorem frames_of_quiet (hr : r.frames = inSteps inner items fields) (h : r.step t = some next)
    (hopening : t.isOpening = false) (hclosing : t.isClosing = false) (hsteps : HasSteps d steps)
    (hleads : next.Leads d) :
    ∃ inner', next.frames = inSteps inner' items fields ∧ inner'.length = inner.length := by
  cases takes_of_step h with
  | scalar v _ _ _ hv =>
    rw [hr] at hleads ⊢
    obtain ⟨inner', items', hframes, hlength, hinner | hinner⟩ :=
      frames_put inner items fields v
    · -- a value that is no object is not an item
      obtain ⟨rfl, -⟩ := hinner
      have hitem : Becomes (inSteps [] (v :: items) fields) d := hleads
      have hobject := hsteps.isObject hitem
      simp [hv] at hobject
    · exact ⟨inner', hinner.2 ▸ hframes, hlength⟩
  | opened _ _ _ hopened => simp [hopening] at hopened
  | closed _ _ hclosed => simp [hclosing] at hclosed
  | named name others last rest hframes =>
    cases inner with
    | nil => cases hr.symm.trans hframes
    | cons frame inner =>
      obtain ⟨-, rfl⟩ := List.cons.inj (hr.symm.trans hframes)
      exact ⟨.object others name :: inner, rfl, rfl⟩
  | between => exact ⟨inner, hr, rfl⟩

theorem frames_of_run_quiet {tokens : List Token}
    (hr : r.frames = inSteps inner items fields) (h : r.run tokens = some next)
    (hquiet : ∀ t ∈ tokens, t.isOpening = false ∧ t.isClosing = false) (hsteps : HasSteps d steps)
    (hleads : next.Leads d) :
    ∃ inner', next.frames = inSteps inner' items fields ∧ inner'.length = inner.length := by
  induction tokens generalizing r inner with
  | nil =>
    obtain rfl := Option.some.inj h
    exact ⟨inner, hr, rfl⟩
  | cons t rest ih =>
    obtain ⟨after, hafter, hrest⟩ := Option.bind_eq_some_iff.1 h
    obtain ⟨hopening, hclosing⟩ := hquiet t List.mem_cons_self
    obtain ⟨inner', hframes, hlength⟩ :=
      frames_of_quiet hr hafter hopening hclosing hsteps (leads_of_run hrest hleads)
    obtain ⟨inner'', hframes', hlength'⟩ :=
      ih hframes hrest fun t ht => hquiet t (List.mem_cons_of_mem _ ht)
    exact ⟨inner'', hframes', hlength'.trans hlength⟩

theorem mode_of_scalar (h : r.step t = some next) (hscalar : t.isScalar = true) :
    next.mode ≠ .value ∧ next.mode ≠ .firstItem := by
  cases takes_of_step h with
  | scalar | closed => exact mode_put _ _
  | opened _ _ _ _ _ ht => obtain ⟨rfl, -⟩ | ⟨rfl, -⟩ := ht <;> cases hscalar
  | named => cases hscalar
  | between _ ht => obtain rfl | rfl := ht <;> cases hscalar

theorem frames_of_opening (h : r.step t = some next) (hopening : t.isOpening = true) :
    (r.mode = .value ∨ r.mode = .firstItem) ∧ (∀ v, next.mode ≠ .done v) ∧
      ∃ frame, next.frames = frame :: r.frames ∧ (t = .openList → frame = .list []) := by
  cases takes_of_step h with
  | scalar _ _ hquiet => simp [hopening] at hquiet
  | opened frame mode hmode _ hdone ht =>
    refine ⟨hmode, hdone, frame, rfl, ?_⟩
    rintro rfl
    obtain ⟨-, hframe⟩ | ⟨ht, -⟩ := ht
    · exact hframe
    · cases ht
  | closed _ _ hclosing =>
    rw [Token.not_closing_of_opening hopening] at hclosing
    cases hclosing
  | named => cases hopening
  | between _ ht => obtain rfl | rfl := ht <;> cases hopening

theorem frames_of_closing (hr : r.frames = inSteps inner items fields) (h : r.step t = some next)
    (hclosing : t.isClosing = true) :
    (inner = [] ∧ next.frames = [.object (("steps", .list items.reverse) :: fields) "steps"] ∧
      next.mode = .separator) ∨
    ∃ inner' items', next.frames = inSteps inner' items' fields ∧
      inner'.length + 1 = inner.length ∧ begun inner' items' = begun inner items := by
  cases takes_of_step h with
  | scalar _ _ _ hquiet => simp [hclosing] at hquiet
  | opened _ _ _ _ _ ht => obtain ⟨rfl, -⟩ | ⟨rfl, -⟩ := ht <;> cases hclosing
  | closed frame rest _ hframes =>
    cases inner with
    | nil =>
      obtain ⟨rfl, rfl⟩ := List.cons.inj (hr.symm.trans hframes)
      exact .inl ⟨rfl, rfl, rfl⟩
    | cons outer inner =>
      obtain ⟨rfl, rfl⟩ := List.cons.inj (hr.symm.trans hframes)
      obtain ⟨inner', items', hput, hlength, hitems⟩ :=
        frames_put inner items fields outer.closed
      refine .inr ⟨inner', items', hput, by simp [hlength], ?_⟩
      rw [begun_congr hlength]
      obtain ⟨rfl, rfl⟩ | ⟨hne, rfl⟩ := hitems
      · simp [begun]
      · simp [begun, hne]
  | named => cases hclosing
  | between _ ht => obtain rfl | rfl := ht <;> cases hclosing

end Reader

end Runbook.Json
