import Runbook.Proofs.JsonPlaces
import Runbook.Proofs.Acceptance
import Runbook.Proofs.RepairFrame

/-!
The lines of steps in a JSON text. The search counts brackets and knows no more of the text than
where its strings end. Main statement: if it starts at the list of steps of the root, it finds the
line of the brace of every step, and nothing else.
-/

namespace Runbook.Json

/-! ### Characters and the tokens that they complete -/

namespace Inside

def inString : Inside → Bool
  | .nothing | .numeral _ | .word _ => false
  | _ => true

/-- Right after a backslash, which takes the next character for itself. -/
def isEscaped : Inside → Bool
  | .escape _ | .lowUnicode .. => true
  | _ => false

end Inside

/-- A character that opens or closes something, or a quote. -/
def isMark (c : Char) : Bool :=
  c == '[' || c == '\x7b' || c == ']' || c == '\x7d' || c == '"'

theorem isMark_of_isNumeral {c : Char} (h : isNumeral c = true) : isMark c = false := by
  by_contra hmark
  simp only [isMark, Bool.not_eq_false, Bool.or_eq_true, beq_iff_eq] at hmark
  rcases hmark with (((rfl | rfl) | rfl) | rfl) | rfl <;> exact absurd h (by decide)

theorem isMark_of_isAlpha {c : Char} (h : c.isAlpha = true) : isMark c = false := by
  by_contra hmark
  simp only [isMark, Bool.not_eq_false, Bool.or_eq_true, beq_iff_eq] at hmark
  rcases hmark with (((rfl | rfl) | rfl) | rfl) | rfl <;> exact absurd h (by decide)

theorem isMark_of_isSpace {c : Char} (h : isSpace c = true) : isMark c = false := by
  by_contra hmark
  simp only [isMark, Bool.not_eq_false, Bool.or_eq_true, beq_iff_eq] at hmark
  rcases hmark with (((rfl | rfl) | rfl) | rfl) | rfl <;> exact absurd h (by decide)

/-- What a character begins outside of any token. -/
inductive Starts : Char → List Token → Inside → Prop where
  | opening {c : Char} {t : Token} (hc : c = '[' ∧ t = .openList ∨ c = '\x7b' ∧ t = .openObject) :
    Starts c [t] .nothing
  | closing {c : Char} {t : Token} (hc : c = ']' ∧ t = .closeList ∨ c = '\x7d' ∧ t = .closeObject) :
    Starts c [t] .nothing
  | quote : Starts '"' [] (.text [])
  | other {c : Char} {tokens : List Token} {next : Inside} (hc : isMark c = false)
      (htokens : ∀ t ∈ tokens, t = .comma ∨ t = .colon) (hnext : next.inString = false) :
    Starts c tokens next

theorem starts_of_start {c : Char} {tokens : List Token} {next : Inside}
    (h : start c = some (tokens, next)) : Starts c tokens next := by
  unfold start at h
  split at h
  · rename_i hspace
    cases h
    exact .other (isMark_of_isSpace hspace) (by simp) rfl
  split at h
  · rename_i hc
    cases h
    exact .opening (.inr ⟨by simpa using hc, rfl⟩)
  split at h
  · rename_i hc
    cases h
    exact .closing (.inr ⟨by simpa using hc, rfl⟩)
  split at h
  · rename_i hc
    cases h
    exact .opening (.inl ⟨by simpa using hc, rfl⟩)
  split at h
  · rename_i hc
    cases h
    exact .closing (.inl ⟨by simpa using hc, rfl⟩)
  split at h
  · rename_i hc
    obtain rfl : c = ',' := by simpa using hc
    cases h
    exact .other rfl (by simp) rfl
  split at h
  · rename_i hc
    obtain rfl : c = ':' := by simpa using hc
    cases h
    exact .other rfl (by simp) rfl
  split at h
  · rename_i hc
    obtain rfl : c = '"' := by simpa using hc
    cases h
    exact .quote
  split at h
  · rename_i hc
    cases h
    refine .other (isMark_of_isNumeral ?_) (by simp) rfl
    rcases Bool.or_eq_true_iff.1 hc with hc | hc <;> simp [isNumeral, hc]
  split at h
  · rename_i hc
    cases h
    exact .other (isMark_of_isAlpha hc) (by simp) rfl
  · cases h

theorem isScalar_of_wordToken? {read : List Char} {t : Token} (h : wordToken? read = some t) :
    t.isScalar = true := by
  unfold wordToken? at h
  split at h
  · cases h
    rfl
  split at h
  · cases h
    rfl
  split at h
  · cases h
    rfl
  · cases h

/-- Outside of strings a character goes on with a number or a word, or it starts something, after the
number or the word before it if there is one. -/
theorem step_outside {inside next : Inside} {c : Char} {tokens : List Token}
    (hinside : inside.inString = false) (h : step inside c = some (tokens, next)) :
    (inside = .nothing ∧ Starts c tokens next) ∨
    (tokens = [] ∧ next.inString = false ∧ isMark c = false) ∨
    ∃ t rest, t.isScalar = true ∧ tokens = t :: rest ∧ Starts c rest next := by
  cases inside with
  | nothing => exact .inl ⟨rfl, starts_of_start h⟩
  | numeral read =>
    simp only [step] at h
    split at h
    · rename_i hc
      cases h
      exact .inr (.inl ⟨rfl, rfl, isMark_of_isNumeral hc⟩)
    · obtain ⟨⟨rest, after⟩, hstart, heq⟩ := Option.map_eq_some_iff.1 h
      cases heq
      exact .inr (.inr ⟨_, rest, rfl, rfl, starts_of_start hstart⟩)
  | word read =>
    simp only [step] at h
    split at h
    · rename_i hc
      cases h
      exact .inr (.inl ⟨rfl, rfl, isMark_of_isAlpha hc⟩)
    · simp only [bind, Option.bind_eq_some_iff, pure, Option.some.injEq] at h
      obtain ⟨t, ht, ⟨rest, after⟩, hstart, heq⟩ := h
      cases heq
      exact .inr (.inr ⟨t, rest, isScalar_of_wordToken? ht, rfl, starts_of_start hstart⟩)
  | _ => cases hinside

theorem ne_of_hexDigit? {c : Char} (h : (hexDigit? c).isSome = true) : c ≠ '"' ∧ c ≠ '\\' := by
  constructor <;>
  · rintro rfl
    exact absurd h (by decide)

theorem isSome_of_hexValue? {digits : List Char} {c : Char} {n : Nat}
    (h : hexValue? (digits ++ [c]) = some n) : (hexDigit? c).isSome = true := by
  unfold hexValue? at h
  rw [List.foldlM_append] at h
  obtain ⟨value, -, hlast⟩ := Option.bind_eq_some_iff.1 h
  cases hc : hexDigit? c with
  | none => simp [hc] at hlast
  | some d => rfl

/-- The digits of a character that is spelled by its number are part of the string. -/
theorem step_unicode {read : List Char} {high : Option Nat} {digits : List Char} {next : Inside}
    {c : Char} {tokens : List Token} (h : step (.unicode read high digits) c = some (tokens, next)) :
    (hexDigit? c).isSome = true ∧ tokens = [] ∧ next.inString = true ∧ next.isEscaped = false := by
  simp only [step] at h
  split at h
  · split at h
    · rename_i hc
      cases h
      exact ⟨hc, rfl, rfl, rfl⟩
    · cases h
  · obtain ⟨unit, hunit, h⟩ := Option.bind_eq_some_iff.1 h
    have hc := isSome_of_hexValue? hunit
    split at h
    · split at h
      · cases h
        exact ⟨hc, rfl, rfl, rfl⟩
      · cases h
    · split at h
      · cases h
        exact ⟨hc, rfl, rfl, rfl⟩
      split at h
      · cases h
      · cases h
        exact ⟨hc, rfl, rfl, rfl⟩

theorem step_inString {inside next : Inside} {c : Char} {tokens : List Token}
    (hinside : inside.inString = true) (h : step inside c = some (tokens, next)) :
    (tokens = [] ∧ next.inString = true ∧
      next.isEscaped = (!inside.isEscaped && c == '\\') ∧ (inside.isEscaped = false → c ≠ '"')) ∨
    (∃ t, tokens = [.text t]) ∧ next = .nothing ∧ inside.isEscaped = false ∧ c = '"' := by
  cases inside with
  | nothing | numeral | word => cases hinside
  | text read =>
    simp only [step] at h
    split at h
    · rename_i hc
      cases h
      exact .inr ⟨⟨_, rfl⟩, rfl, rfl, by simpa using hc⟩
    rename_i hquote
    have hquote : c ≠ '"' := by simpa using hquote
    split at h
    · rename_i hc
      cases h
      exact .inl ⟨rfl, rfl, by simp [Inside.isEscaped, hc], fun _ => hquote⟩
    rename_i hback
    split at h
    · cases h
    · cases h
      exact .inl ⟨rfl, rfl, by simp [Inside.isEscaped, hback], fun _ => hquote⟩
  | escape read =>
    simp only [step] at h
    split at h
    · cases h
      exact .inl ⟨rfl, rfl, rfl, fun hescaped => by cases hescaped⟩
    · obtain ⟨d, -, heq⟩ := Option.map_eq_some_iff.1 h
      cases heq
      exact .inl ⟨rfl, rfl, rfl, fun hescaped => by cases hescaped⟩
  | unicode read high digits =>
    obtain ⟨hc, htokens, hin, hescaped⟩ := step_unicode h
    obtain ⟨hquote, hback⟩ := ne_of_hexDigit? hc
    exact .inl ⟨htokens, hin, by simp [hescaped, hback], fun _ => hquote⟩
  | lowEscape read high =>
    simp only [step] at h
    split at h
    · rename_i hc
      obtain rfl : c = '\\' := by simpa using hc
      cases h
      exact .inl ⟨rfl, rfl, rfl, fun _ => by decide⟩
    · cases h
  | lowUnicode read high =>
    simp only [step] at h
    split at h
    · cases h
      exact .inl ⟨rfl, rfl, rfl, fun hescaped => by cases hescaped⟩
    · cases h

/-! ### One character inside the list of steps -/

/-- What one character does to a reading inside the list of steps, of which some items have begun. -/
inductive Moves (fields : List (String × Document)) (inner : List Frame) (items : List Document)
    (r : Reading) : Char → Reading → Prop where
  | spelled {c : Char} {next : Reading} (hinside : r.inside.inString = true)
      (hquote : r.inside.isEscaped = false → c ≠ '"') (hnext : next.inside.inString = true)
      (hescaped : next.inside.isEscaped = (!r.inside.isEscaped && c == '\\'))
      (hframes : next.reader.frames = inSteps inner items fields) : Moves fields inner items r c next
  | unquoted {next : Reading} {inner' : List Frame} (hinside : r.inside.inString = true)
      (hescaped : r.inside.isEscaped = false) (hnext : next.inside.inString = false)
      (hframes : next.reader.frames = inSteps inner' items fields)
      (hlength : inner'.length = inner.length) : Moves fields inner items r '"' next
  | quoted {next : Reading} {inner' : List Frame} (hinside : r.inside.inString = false)
      (hnext : next.inside = .text []) (hframes : next.reader.frames = inSteps inner' items fields)
      (hlength : inner'.length = inner.length) : Moves fields inner items r '"' next
  | plain {c : Char} {next : Reading} {inner' : List Frame} (hinside : r.inside.inString = false)
      (hc : isMark c = false) (hnext : next.inside.inString = false)
      (hframes : next.reader.frames = inSteps inner' items fields)
      (hlength : inner'.length = inner.length) : Moves fields inner items r c next
  | opened {c : Char} {next : Reading} {frame : Frame} (hinside : r.inside = .nothing)
      (hmode : r.reader.mode = .value ∨ r.reader.mode = .firstItem)
      (hc : c = '[' ∧ frame = .list [] ∨ c = '\x7b') (hnext : next.inside.inString = false)
      (hdone : ∀ v, next.reader.mode ≠ .done v)
      (hframes : next.reader.frames = inSteps (frame :: inner) items fields) :
    Moves fields inner items r c next
  | closed {c : Char} {next : Reading} {inner' : List Frame} {items' : List Document}
      (hinside : r.inside.inString = false) (hc : c = ']' ∨ c = '\x7d')
      (hnext : next.inside.inString = false)
      (hframes : next.reader.frames = inSteps inner' items' fields)
      (hlength : inner'.length + 1 = inner.length) (hbegun : begun inner' items' = begun inner items) :
    Moves fields inner items r c next
  | left {c : Char} {next : Reading} (hinside : r.inside.inString = false)
      (hc : c = ']' ∨ c = '\x7d') (hinner : inner = [])
      (hframes : next.reader.frames = [.object (("steps", .list items.reverse) :: fields) "steps"])
      (hmode : next.reader.mode = .separator) : Moves fields inner items r c next

section Moves

variable {d : Document} {steps items : List Document} {fields : List (String × Document)}
  {inner : List Frame} {r next : Reading} {c : Char}

/-- A character that starts something, where the number or the word before it has been read. -/
theorem moves_of_starts {tokens : List Token} {reader : Reader} {before : List Frame}
    (hinside : r.inside.inString = false) (hframes : r.reader.frames = inSteps inner items fields)
    (hvalue : (reader.mode = .value ∨ reader.mode = .firstItem) →
      r.inside = .nothing ∧ reader = r.reader)
    (hbefore : reader.frames = inSteps before items fields) (hlength : before.length = inner.length)
    (hstarts : Starts c tokens next.inside) (hrun : reader.run tokens = some next.reader)
    (hsteps : HasSteps d steps) (hleads : next.reader.Leads d) :
    Moves fields inner items r c next := by
  obtain ⟨inside, last⟩ := next
  dsimp only at hstarts hrun hleads
  cases hstarts with
  | @opening _ t hc =>
    have hstep : reader.step t = some last := by simpa [Reader.run] using hrun
    have hopening : t.isOpening = true := by
      rcases hc with ⟨-, rfl⟩ | ⟨-, rfl⟩ <;> rfl
    obtain ⟨hmode, hdone, frame, hlast, hlist⟩ := Reader.frames_of_opening hstep hopening
    obtain ⟨hnothing, rfl⟩ := hvalue hmode
    have hnext : last.frames = inSteps (frame :: inner) items fields := by
      rw [hlast, hframes]
      rfl
    refine .opened hnothing hmode ?_ rfl hdone hnext
    exact hc.imp (fun h => ⟨h.1, hlist h.2⟩) And.left
  | @closing _ t hc =>
    have hstep : reader.step t = some last := by simpa [Reader.run] using hrun
    have hclosing : t.isClosing = true := by
      rcases hc with ⟨-, rfl⟩ | ⟨-, rfl⟩ <;> rfl
    have hc : c = ']' ∨ c = '\x7d' := hc.imp And.left And.left
    rcases Reader.frames_of_closing hbefore hstep hclosing with
      ⟨hempty, hlast, hmode⟩ | ⟨inner', items', hlast, hlength', hbegun⟩
    · have hinner : inner = [] := by
        rw [← List.length_eq_zero_iff, ← hlength, hempty]
        rfl
      exact .left hinside hc hinner hlast hmode
    · exact .closed hinside hc rfl hlast (hlength'.trans hlength)
        (hbegun.trans (begun_congr hlength items))
  | quote =>
    obtain rfl : reader = last := Option.some.inj hrun
    exact .quoted hinside rfl hbefore hlength
  | other hc htokens hnext =>
    have hquiet : ∀ t ∈ tokens, t.isOpening = false ∧ t.isClosing = false := by
      intro t ht
      rcases htokens t ht with rfl | rfl <;> exact ⟨rfl, rfl⟩
    obtain ⟨inner', hlast, hlength'⟩ :=
      Reader.frames_of_run_quiet hbefore hrun hquiet hsteps hleads
    exact .plain hinside hc hnext hlast (hlength'.trans hlength)

theorem moves_of_step (hframes : r.reader.frames = inSteps inner items fields)
    (h : r.step c = some next) (hsteps : HasSteps d steps) (hleads : next.reader.Leads d) :
    Moves fields inner items r c next := by
  obtain ⟨⟨tokens, inside⟩, hstep, hnext⟩ := Option.bind_eq_some_iff.1 h
  obtain ⟨last, hrun, rfl⟩ := Option.map_eq_some_iff.1 hnext
  dsimp only at hrun hleads
  cases hinside : r.inside.inString with
  | true =>
    rcases step_inString hinside hstep with
      ⟨rfl, hin, hescaped, hquote⟩ | ⟨⟨text, rfl⟩, rfl, hescaped, rfl⟩
    · obtain rfl : r.reader = last := Option.some.inj hrun
      exact .spelled hinside hquote hin hescaped hframes
    · have hquiet : ∀ t ∈ [Token.text text], t.isOpening = false ∧ t.isClosing = false := by
        intro t ht
        obtain rfl := List.mem_singleton.1 ht
        exact ⟨rfl, rfl⟩
      obtain ⟨inner', hlast, hlength⟩ :=
        Reader.frames_of_run_quiet hframes hrun hquiet hsteps hleads
      exact .unquoted hinside hescaped rfl hlast hlength
  | false =>
    rcases step_outside hinside hstep with
      ⟨hnothing, hstarts⟩ | ⟨rfl, hin, hc⟩ | ⟨t, rest, hscalar, rfl, hstarts⟩
    · exact moves_of_starts hinside hframes (fun _ => ⟨hnothing, rfl⟩) hframes rfl hstarts hrun
        hsteps hleads
    · obtain rfl : r.reader = last := Option.some.inj hrun
      exact .plain hinside hc hin hframes rfl
    · obtain ⟨reader, hreader, hrest⟩ := Option.bind_eq_some_iff.1 hrun
      have hmode := Reader.mode_of_scalar hreader hscalar
      have hquiet : t.isOpening = false ∧ t.isClosing = false := by
        cases t <;> first | exact ⟨rfl, rfl⟩ | cases hscalar
      obtain ⟨before, hbefore, hlength⟩ := Reader.frames_of_quiet hframes hreader hquiet.1 hquiet.2
        hsteps (Reader.leads_of_run hrest hleads)
      exact moves_of_starts hinside hframes (fun hvalue => absurd hvalue (not_or.2 hmode)) hbefore
        hlength hstarts hrest hsteps hleads

end Moves

end Runbook.Json

namespace Runbook.StepLines

/-! ### One character in the search -/

/-- The same place after a character, which is on the next line if it is a line feed. -/
def Place.past (p : Place) (c : Char) : Place :=
  if c == '\n' then { p with line := p.line + 1 } else p

namespace Place

variable (p : Place) (c : Char)

@[simp] theorem past_depth : (p.past c).depth = p.depth := by
  unfold past
  split <;> rfl

@[simp] theorem past_inString : (p.past c).inString = p.inString := by
  unfold past
  split <;> rfl

@[simp] theorem past_escaped : (p.past c).escaped = p.escaped := by
  unfold past
  split <;> rfl

theorem past_line {before : List Char} (h : p.line = before.count '\n' + 1) :
    (p.past c).line = (before ++ [c]).count '\n' + 1 := by
  unfold past
  by_cases hc : c = '\n'
  · simp [hc, h]
  · simp [hc, h]

end Place

section

variable {p : Place} {c : Char} {rest : List Char}

theorem objectLines_cons (p : Place) (c : Char) (rest : List Char) : objectLines p (c :: rest) =
    if p.inString then
      if p.escaped then objectLines { p.past c with escaped := false } rest
      else if c == '\\' then objectLines { p.past c with escaped := true } rest
      else if c == '"' then objectLines { p.past c with inString := false } rest
      else objectLines (p.past c) rest
    else if c == '"' then objectLines { p.past c with inString := true } rest
    else if c == '[' || c == '\x7b' then
      if c == '\x7b' && p.depth == 1 then
        (p.past c).line :: objectLines { p.past c with depth := p.depth + 1 } rest
      else objectLines { p.past c with depth := p.depth + 1 } rest
    else if c == ']' || c == '\x7d' then
      if p.depth ≤ 1 then [] else objectLines { p.past c with depth := p.depth - 1 } rest
    else objectLines (p.past c) rest := by
  rw [objectLines, ← Place.past]
  simp only [Place.past_inString, Place.past_escaped, Place.past_depth]

/-- Inside of a string only a backslash counts, unless one stands right before it. -/
theorem objectLines_spelled (hin : p.inString = true) (hquote : p.escaped = false → c ≠ '"') :
    objectLines p (c :: rest) =
      objectLines { p.past c with escaped := !p.escaped && c == '\\' } rest := by
  rw [objectLines_cons, if_pos hin]
  cases hescaped : p.escaped with
  | true => rfl
  | false =>
    cases hback : c == '\\' with
    | true => rfl
    | false =>
      have hsame : { p.past c with escaped := false } = p.past c := by
        rw [← hescaped, ← p.past_escaped c]
      rw [if_neg Bool.false_ne_true, if_neg Bool.false_ne_true,
        if_neg (by simpa using hquote hescaped)]
      exact congrArg (objectLines · rest) hsame.symm

theorem objectLines_unquoted (hin : p.inString = true) (hescaped : p.escaped = false) :
    objectLines p ('"' :: rest) = objectLines { p.past '"' with inString := false } rest := by
  rw [objectLines_cons, if_pos hin, if_neg (by simp [hescaped]), if_neg (by decide),
    if_pos (by decide)]

theorem objectLines_quoted (hin : p.inString = false) :
    objectLines p ('"' :: rest) = objectLines { p.past '"' with inString := true } rest := by
  rw [objectLines_cons, if_neg (by simp [hin]), if_pos (by decide)]

theorem objectLines_plain (hin : p.inString = false) (hc : Json.isMark c = false) :
    objectLines p (c :: rest) = objectLines (p.past c) rest := by
  simp only [Json.isMark, Bool.or_eq_false_iff] at hc
  obtain ⟨⟨⟨⟨hlist, hobject⟩, hlist'⟩, hobject'⟩, hquote⟩ := hc
  rw [objectLines_cons, if_neg (by simp [hin]), if_neg (by simp [hquote]),
    if_neg (by simp [hlist, hobject]), if_neg (by simp [hlist', hobject'])]

/-- An object directly inside the outermost bracket has a line. -/
theorem objectLines_opened (hin : p.inString = false) (hc : c = '[' ∨ c = '\x7b') :
    objectLines p (c :: rest) =
      if c = '\x7b' ∧ p.depth = 1 then
        (p.past c).line :: objectLines { p.past c with depth := p.depth + 1 } rest
      else objectLines { p.past c with depth := p.depth + 1 } rest := by
  have hquote : ¬ (c == '"') = true := by rcases hc with rfl | rfl <;> decide
  have hopen : (c == '[' || c == '\x7b') = true := by rcases hc with rfl | rfl <;> decide
  rw [objectLines_cons, if_neg (by simp [hin]), if_neg hquote, if_pos hopen]
  simp

theorem objectLines_closed (hin : p.inString = false) (hc : c = ']' ∨ c = '\x7d') :
    objectLines p (c :: rest) =
      if p.depth ≤ 1 then [] else objectLines { p.past c with depth := p.depth - 1 } rest := by
  have hquote : ¬ (c == '"') = true := by rcases hc with rfl | rfl <;> decide
  have hopen : ¬ (c == '[' || c == '\x7b') = true := by rcases hc with rfl | rfl <;> decide
  have hclose : (c == ']' || c == '\x7d') = true := by rcases hc with rfl | rfl <;> decide
  rw [objectLines_cons, if_neg (by simp [hin]), if_neg hquote, if_neg hopen, if_pos hclose]

end

end Runbook.StepLines

namespace Runbook.Json

/-! ### The search -/

/-- The brace of an item of the root's list of steps stands on the line: so many items have been
read before it. -/
def ItemBegins (s : List Char) (index line : Nat) : Prop :=
  ∃ before after reader items fields, s = before ++ '\x7b' :: after ∧
    Reading.start.along before = some ⟨.nothing, reader⟩ ∧
    (reader.mode = .value ∨ reader.mode = .firstItem) ∧
    reader.frames = [.list items, .object fields "steps"] ∧ items.length = index ∧
    line = before.count '\n' + 1

inductive ListsItems (s : List Char) (total : Nat) : Nat → List Nat → Prop where
  | done : ListsItems s total total []
  | item {index line : Nat} {lines : List Nat} (h : ItemBegins s index line)
      (hrest : ListsItems s total (index + 1) lines) : ListsItems s total index (line :: lines)

/-- The search stands where the reading does. -/
structure Follows (p : StepLines.Place) (r : Reading) (before : List Char) (inner : List Frame) :
    Prop where
  line : p.line = before.count '\n' + 1
  depth : p.depth = inner.length + 1
  inString : p.inString = r.inside.inString
  escaped : p.escaped = r.inside.isEscaped

theorem isEscaped_of_not_inString {inside : Inside} (h : inside.inString = false) :
    inside.isEscaped = false := by
  cases inside <;> first | rfl | cases h

section Search

variable {d : Document} {steps items : List Document} {fields : List (String × Document)}
  {inner : List Frame} {s : List Char}

theorem quiet_of_finish {inside : Inside} {tokens : List Token} (h : finish inside = some tokens) :
    ∀ t ∈ tokens, t.isOpening = false ∧ t.isClosing = false := by
  cases inside with
  | nothing =>
    obtain rfl := Option.some.inj h
    simp
  | numeral read =>
    obtain rfl := Option.some.inj h
    simp [Token.isOpening, Token.isClosing]
  | word read =>
    obtain ⟨t, ht, rfl⟩ := Option.map_eq_some_iff.1 h
    have hscalar := isScalar_of_wordToken? ht
    intro t' ht'
    obtain rfl := List.mem_singleton.1 ht'
    cases t' <;> first | exact ⟨rfl, rfl⟩ | cases hscalar
  | _ => cases h

/-- Where an item begins, so does a line of the search; anything that opens deeper inside has none. -/
theorem listsItems_of_opened (hsteps : HasSteps d steps) {rest before : List Char} {r next : Reading}
    {p : StepLines.Place} {c : Char} {frame : Frame} (hs : s = before ++ c :: rest)
    (hbefore : Reading.start.along before = some r)
    (hframes : r.reader.frames = inSteps inner items fields) (hp : Follows p r before inner)
    (hinside : r.inside = .nothing) (hmode : r.reader.mode = .value ∨ r.reader.mode = .firstItem)
    (hc : c = '[' ∧ frame = .list [] ∨ c = '\x7b') (hdone : ∀ v, next.reader.mode ≠ .done v)
    (hframes' : next.reader.frames = inSteps (frame :: inner) items fields)
    (hleads : next.reader.Leads d)
    (hlines : ListsItems s steps.length (begun (frame :: inner) items)
      (StepLines.objectLines { p.past c with depth := p.depth + 1 } rest)) :
    ListsItems s steps.length (begun inner items) (StepLines.objectLines p (c :: rest)) := by
  have hout : p.inString = false := by rw [hp.inString, hinside]; rfl
  rw [StepLines.objectLines_opened hout (hc.imp_left And.left), hp.depth]
  rw [hp.depth] at hlines
  by_cases hinner : inner = []
  · subst hinner
    rcases hc with ⟨-, rfl⟩ | rfl
    · -- a list is no item
      have hbecomes : Becomes (inSteps [.list []] items fields) d :=
        hframes' ▸ Reader.becomes_of_leads hleads hdone
      exact (hsteps.not_list hbecomes).elim
    · have hbegins : ItemBegins s (begun [] items) (p.past '\x7b').line := by
        obtain ⟨inside, reader⟩ := r
        obtain rfl : inside = .nothing := hinside
        exact ⟨before, rest, reader, items, fields, hs, hbefore, hmode, hframes, rfl,
          by simpa using p.past_line '\x7b' hp.line⟩
      rw [if_pos ⟨rfl, rfl⟩]
      exact .item hbegins hlines
  · have hdeep : inner.length + 1 ≠ 1 := by simpa using hinner
    have hsame : begun (frame :: inner) items = begun inner items := by simp [begun, hinner]
    rw [if_neg fun h => hdeep h.2, ← hsame]
    exact hlines

theorem listsItems_objectLines (hsteps : HasSteps d steps) {rest before : List Char} {r last : Reading}
    {p : StepLines.Place} (hs : s = before ++ rest) (hbefore : Reading.start.along before = some r)
    (hrest : r.along rest = some last) (hlast : last.Ends d)
    (hframes : r.reader.frames = inSteps inner items fields) (hp : Follows p r before inner) :
    ListsItems s steps.length (begun inner items) (StepLines.objectLines p rest) := by
  induction rest generalizing before r p inner items with
  | nil =>
    obtain rfl := Option.some.inj hrest
    obtain ⟨tokens, hfinish, hrun⟩ := hlast
    obtain ⟨inner', hdone, -⟩ := Reader.frames_of_run_quiet hframes hrun (quiet_of_finish hfinish)
      hsteps rfl
    simp [inSteps] at hdone
  | cons c rest ih =>
    obtain ⟨next, hnext, hover⟩ := Option.bind_eq_some_iff.1 hrest
    have hleads : next.reader.Leads d := Reading.leads_of_along hover hlast.leads
    have hs' : s = (before ++ [c]) ++ rest := by simp [hs]
    have hbefore' : Reading.start.along (before ++ [c]) = some next := by
      rw [Reading.along_append, hbefore, Option.bind_some, Reading.along, hnext]
      rfl
    have hgo : ∀ {p' : StepLines.Place} {inner' : List Frame} {items' : List Document},
        next.reader.frames = inSteps inner' items' fields → Follows p' next (before ++ [c]) inner' →
        ListsItems s steps.length (begun inner' items') (StepLines.objectLines p' rest) :=
      fun hframes' hp' => ih hs' hbefore' hover hframes' hp'
    have hline := p.past_line c hp.line
    have hout (h : r.inside.inString = false) : p.inString = false := hp.inString.trans h
    have hplain (h : r.inside.inString = false) : p.escaped = false :=
      hp.escaped.trans (isEscaped_of_not_inString h)
    cases moves_of_step hframes hnext hsteps hleads with
    | spelled hinside hquote hnext hesc hframes' =>
      have hin := hp.inString.trans hinside
      rw [StepLines.objectLines_spelled hin fun h => hquote (hp.escaped.symm.trans h)]
      exact hgo hframes' ⟨hline, by simp [hp.depth], by simp [hin, hnext], by rw [hp.escaped, hesc]⟩
    | unquoted hinside hesc hnext hframes' hlength =>
      rw [StepLines.objectLines_unquoted (hp.inString.trans hinside) (hp.escaped.trans hesc),
        ← begun_congr hlength]
      exact hgo hframes' ⟨hline, by simp [hp.depth, hlength], hnext.symm,
        by simp [hp.escaped, hesc, isEscaped_of_not_inString hnext]⟩
    | quoted hinside hnext hframes' hlength =>
      rw [StepLines.objectLines_quoted (hout hinside), ← begun_congr hlength]
      exact hgo hframes' ⟨hline, by simp [hp.depth, hlength], by rw [hnext]; rfl,
        by simp [hnext, hplain hinside, Inside.isEscaped]⟩
    | plain hinside hc hnext hframes' hlength =>
      rw [StepLines.objectLines_plain (hout hinside) hc, ← begun_congr hlength]
      exact hgo hframes' ⟨hline, by simp [hp.depth, hlength], by simp [hout hinside, hnext],
        by simp [hplain hinside, isEscaped_of_not_inString hnext]⟩
    | opened hinside hmode hc hnext hdone hframes' =>
      have hinside' : r.inside.inString = false := by rw [hinside]; rfl
      refine listsItems_of_opened hsteps hs hbefore hframes hp hinside hmode hc hdone hframes' hleads
        (hgo hframes' ⟨hline, by simp [hp.depth], ?_, ?_⟩)
      · simp [hout hinside', hnext]
      · simp [hplain hinside', isEscaped_of_not_inString hnext]
    | closed hinside hc hnext hframes' hlength hbegun =>
      have hdeep : ¬ p.depth ≤ 1 := by rw [hp.depth]; omega
      rw [StepLines.objectLines_closed (hout hinside) hc, if_neg hdeep, ← hbegun]
      refine hgo hframes' ⟨hline, ?_, by simp [hout hinside, hnext],
        by simp [hplain hinside, isEscaped_of_not_inString hnext]⟩
      change p.depth - 1 = _
      rw [hp.depth]
      omega
    | left hinside hc hinner hframes' hmode =>
      have hflat : p.depth ≤ 1 := by simp [hp.depth, hinner]
      have hbecomes : Becomes next.reader.frames d := Reader.becomes_of_leads hleads (by simp [hmode])
      rw [hframes'] at hbecomes
      have htotal : begun inner items = steps.length := by
        rw [← hsteps.length_eq hbecomes, hinner]
        rfl
      rw [StepLines.objectLines_closed (hout hinside) hc, if_pos hflat, htotal]
      exact .done

end Search

/-! ### Where the search starts -/

/-- The first bracket after the first mention of the key opens the list of steps of the root. -/
def FindsSteps (s : List Char) : Prop :=
  ∃ before after fields, Text.cut "\"steps\"".toList s = some (before, after) ∧
    Reading.start.along (before ++ "\"steps\"".toList ++ after.takeWhile (· ≠ '[')) =
      some ⟨.nothing, ⟨.value, [.object fields "steps"]⟩⟩

theorem listsItems_ofJson {s : List Char} {d : Document} {steps : List Document} {last : Reading}
    (hsteps : HasSteps d steps) (hover : Reading.start.along s = some last) (hlast : last.Ends d)
    (h : FindsSteps s) : ListsItems s steps.length 0 (StepLines.ofJson s) := by
  obtain ⟨before, after, fields, hcut, hreading⟩ := h
  have hsplit : s = before ++ "\"steps\"".toList ++ after.takeWhile (· ≠ '[') ++
      after.dropWhile (· ≠ '[') := by
    rw [List.append_assoc, List.takeWhile_append_dropWhile]
    exact Text.append_of_cut hcut
  have hrest : (⟨.nothing, ⟨.value, [.object fields "steps"]⟩⟩ : Reading).along
      (after.dropWhile (· ≠ '[')) = some last := by
    rw [hsplit, Reading.along_append, hreading] at hover
    exact hover
  unfold StepLines.ofJson
  rw [hcut]
  dsimp only
  cases hafter : after.dropWhile (· ≠ '[') with
  | nil =>
    -- the object of the root is still open
    rw [hafter] at hrest
    obtain rfl := Option.some.inj hrest
    obtain ⟨tokens, hfinish, hrun⟩ := hlast
    obtain rfl := Option.some.inj hfinish
    cases hrun
  | cons c rest =>
    have hc : c = '[' := by
      have hne : after.dropWhile (· ≠ '[') ≠ [] := by
        rw [hafter]
        exact List.cons_ne_nil c rest
      have hhead := List.head_dropWhile_not (· ≠ '[') hne
      simp only [hafter, List.head_cons] at hhead
      simpa using hhead
    subst hc
    rw [hafter] at hrest hsplit
    obtain ⟨next, hnext, hnextOver⟩ := Option.bind_eq_some_iff.1 hrest
    have hopened : next = ⟨.nothing, ⟨.firstItem, inSteps [] [] fields⟩⟩ :=
      (Option.some.inj hnext).symm
    subst hopened
    have hbefore : Reading.start.along (before ++ "\"steps\"".toList ++
        after.takeWhile (· ≠ '[') ++ ['[']) =
          some ⟨.nothing, ⟨.firstItem, inSteps [] [] fields⟩⟩ := by
      rw [Reading.along_append, hreading, Option.bind_some, Reading.along, hnext]
      rfl
    have hdeeper : ∀ line, StepLines.objectLines ⟨line, 0, false, false⟩ ('[' :: rest) =
        StepLines.objectLines ⟨line, 1, false, false⟩ rest := by
      intro line
      simp [StepLines.objectLines]
    rw [hdeeper]
    have hsplit' : s = before ++ "\"steps\"".toList ++ after.takeWhile (· ≠ '[') ++ ['['] ++ rest := by
      rw [hsplit, List.append_assoc _ ['[']]
      rfl
    have hframes : inSteps [] [] fields = inSteps [] [] fields := rfl
    refine listsItems_objectLines hsteps hsplit' hbefore hnextOver hlast hframes ⟨?_, rfl, rfl, rfl⟩
    simp only [List.count_append]
    simp
    omega

end Runbook.Json

namespace Runbook.Workflow

/-! ### Workflows -/

/-- A step is read from an object, also after it was repaired and its fields were sorted. -/
theorem isObject_of_check {index : Nat} {d : Document} {s : Step}
    (h : (Step.check index (Repair.step d.settled)).value = some s) : d.asObject?.isSome = true := by
  obtain ⟨fields, -, hfields, -⟩ := Step.found_of_check h
  cases d with
  | object => rfl
  | _ => simp [Document.settled, Repair.step] at hfields

theorem find?_settledFields (fields : List (String × Document)) (name : String) :
    Bindings.find? (Document.settledFields fields) name =
      (Bindings.find? fields name).map Document.settled := by
  induction fields with
  | nil => rfl
  | cons field rest ih =>
    obtain ⟨k, d⟩ := field
    by_cases h : k = name
    · simp [Document.settledFields, Bindings.find?, h]
    · simp [Document.settledFields, Bindings.find?, h, ih]

theorem lastField?_settled (fields : List (String × Document)) (name : String) :
    (Document.settled (.object fields)).field? name =
      (Document.lastField? fields name).map Document.settled := by
  have hreverse : (Document.settledFields fields).reverse =
      Document.settledFields fields.reverse := by
    simp [Document.settledFields_eq_map]
  rw [Document.settled, Document.field?, Bindings.find?_ofPairs, hreverse, find?_settledFields]
  rfl

/-- The steps of a workflow are read from the list under the last `steps` key of the root, object by
object. -/
theorem exists_steps_of_ofDocument {d : Document} {w : Workflow}
    (h : ofDocument d.settled = .ok w) : ∃ fields steps, d = .object fields ∧
      Document.lastField? fields "steps" = some (.list steps) ∧ steps.length = w.steps.length ∧
      ∀ v ∈ steps, v.asObject?.isSome = true := by
  obtain ⟨items, -, hitems, hall⟩ := steps_of_check (check_of_ofDocument h).1
  obtain ⟨original, horiginal, rfl⟩ := Repair.steps_of_document hitems
  cases d with
  | object fields =>
    rw [lastField?_settled, Option.map_eq_some_iff] at horiginal
    obtain ⟨v, hv, hsettled⟩ := horiginal
    cases v with
    | list steps =>
      obtain rfl : Document.settledItems steps = original := by
        simpa [Document.settled] using hsettled
      have hlength := hall.length_eq
      rw [List.length_mapIdx, List.length_map, Document.settledItems_eq_map,
        List.length_map] at hlength
      refine ⟨fields, steps, rfl, hv, hlength, fun v hv => ?_⟩
      obtain ⟨i, hi, rfl⟩ := List.getElem_of_mem hv
      have hchecked := (List.forall₂_iff_get.1 hall).2 i (by simpa [Document.settledItems_eq_map])
        (hlength ▸ hi)
      simp only [List.get_eq_getElem, List.getElem_mapIdx, List.getElem_map,
        Document.settledItems_eq_map] at hchecked
      exact isObject_of_check hchecked
    | _ => simp [Document.settled] at hsettled
  | _ => simp [Document.settled, Document.field?] at horiginal

theorem exists_of_read_json {content : String} {w : Workflow} (h : read .json content = .ok w) :
    ∃ d, Json.read? content = some d ∧ ∃ r, ofDocument d.settled = .ok r ∧
      r.steps = w.steps ∧ w.source.stepLines = stepLines .json content := by
  obtain ⟨settled, r, hread, hr, rfl⟩ := exists_of_read h
  cases hd : Json.read? content with
  | none => simp [readDocument, hd] at hread
  | some d =>
    obtain rfl : d.settled = settled := by simpa [readDocument, hd] using hread
    exact ⟨d, rfl, r, hr, rfl, rfl⟩

/-- What the search finds in the text of a workflow are the lines of its steps, as long as it starts
at their list and no other list of steps follows. -/
theorem lines_of_json {content : String} {w : Workflow} (h : read .json content = .ok w)
    (hfinds : Json.FindsSteps content.toList) (honce : ∀ fields,
      Json.read? content = some (.object fields) → (Bindings.names fields).count "steps" ≤ 1) :
    Json.ListsItems content.toList w.steps.length 0 (StepLines.ofJson content.toList) := by
  obtain ⟨d, hd, r, hr, hw, -⟩ := exists_of_read_json h
  obtain ⟨fields, steps, rfl, hlast, hlength, hobjects⟩ := exists_steps_of_ofDocument hr
  have hmem : ("steps", Document.list steps) ∈ fields :=
    List.mem_reverse.1 (Bindings.mem_of_find? hlast)
  have hsteps : Json.HasSteps (.object fields) steps :=
    ⟨⟨fields, rfl, fun v hv => Bindings.eq_of_count_names (honce fields hd) hv hmem⟩, hobjects⟩
  obtain ⟨last, hover, hends⟩ := Json.Reading.exists_along_of_read? hd
  rw [← hw, ← hlength]
  exact Json.listsItems_ofJson hsteps hover hends hfinds

theorem getElem?_of_listsItems {s : List Char} {total first : Nat} {lines : List Nat}
    (h : Json.ListsItems s total first lines) : first + lines.length = total ∧
      ∀ i line, lines[i]? = some line → Json.ItemBegins s (first + i) line := by
  induction h with
  | done => exact ⟨rfl, fun i line hline => by cases hline⟩
  | @item index line lines hbegins hrest ih =>
    obtain ⟨hlength, hlines⟩ := ih
    refine ⟨by simpa [Nat.add_right_comm, Nat.add_assoc] using hlength, fun i line hline => ?_⟩
    cases i with
    | zero =>
      obtain rfl := Option.some.inj hline
      exact hbegins
    | succ i =>
      have hlater := hlines i line (by simpa using hline)
      rwa [Nat.add_right_comm, Nat.add_assoc] at hlater

theorem mem_indexed {lines : List Nat} {i line : Nat} :
    (i, line) ∈ StepLines.indexed lines ↔ lines[i]? = some line := by
  unfold StepLines.indexed
  rw [List.mem_iff_getElem?]
  constructor
  · rintro ⟨j, hj⟩
    rw [List.getElem?_mapIdx, Option.map_eq_some_iff] at hj
    obtain ⟨other, hother, heq⟩ := hj
    obtain ⟨rfl, rfl⟩ := Prod.mk.inj heq
    exact hother
  · intro h
    exact ⟨i, by rw [List.getElem?_mapIdx, h]; rfl⟩

theorem step_lines_of_json {content : String} {w : Workflow} (h : read .json content = .ok w)
    (hfinds : Json.FindsSteps content.toList) (honce : ∀ fields,
      Json.read? content = some (.object fields) → (Bindings.names fields).count "steps" ≤ 1) :
    (∀ i line, (i, line) ∈ w.source.stepLines → Json.ItemBegins content.toList i line) ∧
      ∀ i < w.steps.length, ∃ line, (i, line) ∈ w.source.stepLines := by
  obtain ⟨-, -, -, -, -, hlines⟩ := exists_of_read_json h
  obtain ⟨hlength, hbegins⟩ := getElem?_of_listsItems (lines_of_json h hfinds honce)
  rw [hlines]
  constructor
  · intro i line hi
    have hbegin := hbegins i line (mem_indexed.1 hi)
    rwa [Nat.zero_add] at hbegin
  · intro i hi
    rw [Nat.zero_add] at hlength
    have hi' : i < (StepLines.ofJson content.toList).length := by omega
    exact ⟨_, mem_indexed.2 (List.getElem?_eq_getElem hi')⟩

def twoSteps : String :=
  "\x7b\"name\":\"[\",\n\"steps\":[\x7b\"run\":\"a\"\x7d,\n\x7b\"run\":\"b\"\x7d]\x7d"

def twoStepsDocument : Document := .object [("name", .text "["),
  ("steps", .list [.object [("run", .text "a")], .object [("run", .text "b")]])]

theorem read?_twoSteps : Json.read? twoSteps = some twoStepsDocument := by
  have htokens : Json.tokens? twoSteps.toList = some [.openObject, .text "name", .colon, .text "[",
      .comma, .text "steps", .colon, .openList, .openObject, .text "run", .colon, .text "a",
      .closeObject, .comma, .openObject, .text "run", .colon, .text "b", .closeObject, .closeList,
      .closeObject] := by
    decide
  rw [Json.read?, htokens]
  rfl

theorem exists_read_of_read? {content : String} {d : Document} {r : Workflow}
    {lines : List (Nat × Nat)} (hd : Json.read? content = some d) (hr : ofDocument d.settled = .ok r)
    (hlines : stepLines .json content = lines) :
    read .json content = .ok { r with source := { r.source with stepLines := lines } } := by
  have hread : readDocument .json content = .ok d.settled := by simp [readDocument, hd]
  unfold read
  rw [hread, hlines]
  simp [bind, Except.bind, hr, pure, Except.pure]

theorem exists_read_twoSteps : ∃ w, read .json twoSteps = .ok w ∧ w.steps.length = 2 ∧
    Json.FindsSteps twoSteps.toList ∧ ∀ fields, Json.read? twoSteps = some (.object fields) →
      (Bindings.names fields).count "steps" ≤ 1 := by
  have hlines : stepLines .json twoSteps = [(0, 2), (1, 3)] := by decide +kernel
  have hfinds : Json.FindsSteps twoSteps.toList :=
    ⟨twoSteps.toList.take 13, twoSteps.toList.drop 20, [("name", .text "[")],
      by decide +kernel, rfl⟩
  refine ⟨_, exists_read_of_read? read?_twoSteps rfl hlines, rfl, hfinds, fun fields hfields => ?_⟩
  obtain rfl : [("name", .text "["), ("steps", .list [.object [("run", .text "a")],
      .object [("run", .text "b")]])] = fields := by
    simpa [read?_twoSteps, twoStepsDocument] using hfields
  decide

/-- A workflow in JSON whose name is the key of the steps, and a profile before the only step. -/
def namedSteps : String :=
  "\x7b\"name\":\"steps\",\"profiles\":[\x7b\"name\":\"p\"\x7d],\n\"steps\":[\x7b\"run\":\"a\"\x7d]\x7d"

def namedStepsDocument : Document := .object [("name", .text "steps"),
  ("profiles", .list [.object [("name", .text "p")]]),
  ("steps", .list [.object [("run", .text "a")]])]

theorem read?_namedSteps : Json.read? namedSteps = some namedStepsDocument := by
  have htokens : Json.tokens? namedSteps.toList = some [.openObject, .text "name", .colon,
      .text "steps", .comma, .text "profiles", .colon, .openList, .openObject, .text "name", .colon,
      .text "p", .closeObject, .closeList, .comma, .text "steps", .colon, .openList, .openObject,
      .text "run", .colon, .text "a", .closeObject, .closeList, .closeObject] := by
    decide +kernel
  rw [Json.read?, htokens]
  rfl

def openNames (r : Option Json.Reading) : List String :=
  match r with
  | some r => r.reader.frames.map fun
    | .list _ => ""
    | .object _ name => name
  | none => []

theorem not_itemBegins_namedSteps : ¬ Json.ItemBegins namedSteps.toList 0 1 := by
  rintro ⟨before, after, reader, items, fields, hs, hover, -, hframes, -, hline⟩
  have hcount : before.count '\n' = 0 := by omega
  -- the first line has 42 characters, and the list of steps opens on none of them
  have hshort : before.length < 43 := by
    by_contra hlong
    have htake : namedSteps.toList.take 43 = before.take 43 := by
      rw [hs, List.take_append_of_le_length (by omega)]
    have hbreak : (namedSteps.toList.take 43).count '\n' = 1 := by decide
    have hle : (before.take 43).count '\n' ≤ before.count '\n' := (List.take_sublist _ _).count_le _
    rw [← htake, hbreak, hcount] at hle
    omega
  have hnames : ∀ n < 43, openNames (Json.Reading.start.along (namedSteps.toList.take n)) ≠
      ["", "steps"] := by
    decide
  have hbefore : namedSteps.toList.take before.length = before := by
    rw [hs, List.take_left]
  apply hnames before.length hshort
  rw [hbefore, hover]
  simp [openNames, hframes]

/-- The step begins on the second line, and the line that is found is the one of the profile. -/
theorem step_line_of_profile : ∃ w, read .json namedSteps = .ok w ∧ w.steps.length = 1 ∧
    Json.ItemBegins namedSteps.toList 0 2 ∧ w.source.stepLines = [(0, 1)] ∧
    ¬ Json.ItemBegins namedSteps.toList 0 1 := by
  have hlines : stepLines .json namedSteps = [(0, 1)] := by decide +kernel
  have hread := exists_read_of_read? read?_namedSteps rfl hlines
  have hsplit : namedSteps.toList =
      namedSteps.toList.take 52 ++ '\x7b' :: namedSteps.toList.drop 53 := by decide +kernel
  have hline : 2 = (namedSteps.toList.take 52).count '\n' + 1 := by decide +kernel
  exact ⟨_, hread, rfl, ⟨_, _, _, [], _, hsplit, rfl, .inr rfl, rfl, rfl, hline⟩, rfl,
    not_itemBegins_namedSteps⟩

end Runbook.Workflow
