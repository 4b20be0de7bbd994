/-!
Scripts of the command shell: words that are expanded before use, and the commands made of them.
-/

namespace Runbook.Shell

/-- What a parameter with a word stands for: the word if the parameter has no value, which may also
be bound to it or be an error, or the word if it has one. -/
inductive Substitute where
  | fallback | assigned | error | replacement
  deriving DecidableEq, Repr

/-- Which part of a value is cut off where it matches a pattern. -/
structure Cut where
  fromEnd : Bool
  longest : Bool
  deriving DecidableEq, Repr

/-- How a stream is led elsewhere; a file that is there may be kept from being written anew. -/
inductive RedirectionMode where
  | read | write | overwrite | append | duplicate
  deriving DecidableEq, Repr

mutual

/-- A part of a word. The result of a quoted part is not taken apart any more. -/
inductive Piece where
  | text (s : String) (quoted : Bool)
  | parameter (name : String) (quoted : Bool)
  | length (name : String) (quoted : Bool)
  | substitute (name : String) (kind : Substitute) (orEmpty : Bool) (word : List Piece)
      (quoted : Bool)
  | cut (name : String) (kind : Cut) (pattern : List Piece) (quoted : Bool)
  | output (commands : List Command) (quoted : Bool)
  | arithmetic (expression : List Piece) (quoted : Bool)
  /-- A parameter with something that cannot follow it, which shows when it is expanded. -/
  | invalid

inductive Command where
  | simple (line : Nat) (assignments : List (String × List Piece)) (words : List (List Piece))
      (redirections : List Redirection)
  | pipeline (negated : Bool) (commands : List Command)
  | both (first second : Command)
  | either (first second : Command)
  | background (command : Command)
  | group (commands : List Command) (redirections : List Redirection)
  | subshell (commands : List Command) (redirections : List Redirection)
  | choice (condition body otherwise : List Command) (redirections : List Redirection)
  | loop (untilTrue : Bool) (condition body : List Command) (redirections : List Redirection)
  | each (name : String) (words : Option (List (List Piece))) (body : List Command)
      (redirections : List Redirection)
  | cases (word : List Piece) (arms : List (List (List Piece) × List Command))
      (redirections : List Redirection)
  | define (name : String) (body : Command)

/-- Where a numbered stream of a command goes to or comes from: a file, another stream, or a text
that stands in the script. -/
inductive Redirection where
  | file (stream : Nat) (mode : RedirectionMode) (target : List Piece)
  | here (stream : Nat) (text : List Piece)

end

instance : Inhabited Piece := ⟨.text "" false⟩

instance : Inhabited Command := ⟨.group [] []⟩

abbrev Word := List Piece

abbrev Script := List Command

end Runbook.Shell
