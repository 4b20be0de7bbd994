import Runbook.Shell.Expansion

/-!
Calls of commands: the words that are left of one when it is known what is called, and whether that
may be a function.
-/

namespace Runbook.Shell

structure Call where
  words : List String
  takesFunction : Bool
  deriving DecidableEq, Repr

namespace Call

/-- What is called where a command asks for one that is no function; nothing if it asks for
something else. -/
def asked? : List String → Option (List String)
  | [] => none
  | a :: rest =>
    match a.toList with
    | ['-', '-'] => if rest.isEmpty then none else some rest
    | '-' :: c :: letters => if (c :: letters).all (· == 'p') then asked? rest else none
    | _ => some (a :: rest)

/-- The call that words make; `fuel` bounds their number. -/
def ofWords (isFunction : String → Bool) : Nat → List String → Call
  | 0, words => ⟨words, true⟩
  | fuel + 1, words =>
    match words with
    | "command" :: rest =>
      if isFunction "command" then ⟨words, true⟩
      else match asked? rest with
        | some inner => ⟨(ofWords isFunction fuel inner).words, false⟩
        | none => ⟨words, true⟩
    | _ => ⟨words, true⟩

def isAssignment : Word → Bool
  | .text t false :: _ =>
    let name := t.toList.takeWhile (· ≠ '=')
    name.length < t.length && Lexicon.isName (String.ofList name)
  | _ => false

def declaring : List String := ["export", "local", "readonly"]

/-- The expanded words of a call, after those that are given. What a command declares is not taken
apart. -/
def expand (capture : Expansion.Capturing) (fuel : Nat) (given : List String) :
    List Word → Eval (List String)
  | [] => return given
  | word :: rest => do
    let called := (ofWords (fun _ => false) given.length given).words
    let isDeclared := called.head?.any declaring.contains && isAssignment word
    let found ← if isDeclared then do
        pure [← Expansion.assigned capture fuel word]
      else Expansion.fields capture fuel [word]
    expand capture fuel (given ++ found) rest

end Call

end Runbook.Shell
