import Runbook.Text.Blank
import Runbook.Text.Category
import Runbook.Workspace

/-!
Templates: texts with names in double braces that stand for values of the workspace. A text falls
into characters of its own and placeholders in one pass from left to right; written one after
the other, these pieces are the text.
-/

namespace Runbook.Template

/-- A character of the text itself, or a placeholder with its spelling and its name. -/
inductive Piece where
  | character (c : Char)
  | placeholder (spelling : List Char) (name : String)
  deriving DecidableEq, Repr

def Piece.spelling : Piece → List Char
  | .character c => [c]
  | .placeholder s _ => s

/-- The placeholder at the head of a text, its name between blanks in double braces, and the text
after it. -/
def placeholderAt? : List Char → Option (String × List Char)
  | '\x7b' :: '\x7b' :: s =>
    let s := Text.trimStart s
    let name := s.takeWhile Text.isWord
    match name, Text.trimStart (s.dropWhile Text.isWord) with
    | _ :: _, '\x7d' :: '\x7d' :: rest => some (String.ofList name, rest)
    | _, _ => none
  | _ => none

theorem length_dropWhile_le {α : Type} (p : α → Bool) (s : List α) :
    (s.dropWhile p).length ≤ s.length := by
  induction s with
  | nil => simp
  | cons a s ih =>
    simp only [List.dropWhile_cons]
    split
    · simp only [List.length_cons]
      omega
    · simp

theorem length_of_placeholderAt? {s rest : List Char} {name : String}
    (h : placeholderAt? s = some (name, rest)) : rest.length < s.length := by
  unfold placeholderAt? at h
  split at h
  · rename_i s
    dsimp only at h
    split at h
    · rename_i hrest
      simp only [Option.some.injEq, Prod.mk.injEq] at h
      have h1 := length_dropWhile_le Text.isBlank ((Text.trimStart s).dropWhile Text.isWord)
      have h2 := length_dropWhile_le Text.isWord (Text.trimStart s)
      have h3 := length_dropWhile_le Text.isBlank s
      have h4 := congrArg List.length hrest
      simp only [List.length_cons] at h4
      rw [← h.2]
      simp only [Text.trimStart, List.length_cons] at *
      omega
    · simp at h
  · simp at h

def pieces : List Char → List Piece
  | [] => []
  | c :: s =>
    match _h : placeholderAt? (c :: s) with
    | some (name, rest) =>
      .placeholder ((c :: s).take ((c :: s).length - rest.length)) name :: pieces rest
    | none => .character c :: pieces s
termination_by s => s.length
decreasing_by
  · exact length_of_placeholderAt? _h
  · simp

/-- What a piece becomes in a workspace: a placeholder without a value stays as it is written. -/
def Piece.fill (w : Workspace) : Piece → List Char
  | .character c => [c]
  | .placeholder spelling name =>
    match w.binding? name with
    | some value => value.toList
    | none => spelling

def substitute (w : Workspace) (text : String) : String :=
  String.ofList ((pieces text.toList).flatMap (Piece.fill w))

def Piece.name? : Piece → Option String
  | .character _ => none
  | .placeholder _ name => some name

/-- The names of the placeholders, sorted, each once. -/
def parameters (text : String) : List String :=
  Bindings.names (Bindings.ofPairs (((pieces text.toList).filterMap Piece.name?).map (·, ())))

/-- The names of the placeholders that no variable, fact or choice has. -/
def unresolved (w : Workspace) (text : String) : List String :=
  (parameters text).filter fun name => !w.isBound name && !w.choices.isBound name

end Runbook.Template
