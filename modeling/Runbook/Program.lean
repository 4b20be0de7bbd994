import Runbook.Word

/-!
Programs as trees of calls: each call stands with the programs that follow its possible replies. A
program says nothing on how its calls fall between those of other programs, so the same tree is
driven alone, or together with others, one call of one of them at a time.
-/

namespace Runbook

/-- What programs may ask of their host: the calls, and the type of the replies to each. -/
structure Interface where
  Call : Type
  Reply : Call → Type

/-- Why a program has no result: it would go on beyond the bound set to it, or an overflow stops
it. -/
inductive Halt where
  | bound
  | overflow
  deriving DecidableEq, Repr

/-- A tree of calls; at each leaf there is a result, or the reason why there is none. -/
inductive Program (I : Interface) (α : Type) where
  | done (result : α)
  | halted (why : Halt)
  | perform (call : I.Call) (next : I.Reply call → Program I α)

namespace Program

variable {I : Interface} {α β : Type}

@[match_pattern] abbrev unbounded : Program I α := .halted .bound

def computed : Computed α → Program I α
  | .ok a => .done a
  | .error .overflow => .halted .overflow

def andThen (f : α → Program I β) : Program I α → Program I β
  | .done a => f a
  | .halted why => .halted why
  | .perform c next => .perform c fun reply => andThen f (next reply)

instance : Monad (Program I) where
  pure := .done
  bind p f := andThen f p

def call (c : I.Call) : Program I (I.Reply c) := .perform c .done

def result? : Program I α → Option α
  | .done a => some a
  | _ => none

def halt? : Program I α → Option Halt
  | .halted why => some why
  | _ => none

def interpret {J : Interface} (f : (c : I.Call) → Program J (I.Reply c)) :
    Program I α → Program J α
  | .done a => .done a
  | .halted why => .halted why
  | .perform c next => (f c).andThen fun reply => interpret f (next reply)

end Program

/-- A call with the reply to it. -/
structure Exchange (I : Interface) where
  call : I.Call
  reply : I.Reply call

namespace Program

variable {I : Interface} {α : Type}

def traced : Program I α → Program I (α × List (Exchange I))
  | .done a => .done (a, [])
  | .halted why => .halted why
  | .perform c next => .perform c fun reply =>
    andThen (fun (a, exchanges) => .done (a, ⟨c, reply⟩ :: exchanges)) (traced (next reply))

end Program

/-! ### Programs together -/

namespace Pool

variable {I : Interface} {α : Type}

def waiting (programs : List (Program I α)) : List Nat :=
  (programs.zipIdx.filter fun (p, _) => p.result?.isNone).map Prod.snd

/-- Runs programs together, one call of one of them at a time, to their results. `pick` gives the
place of the one that goes on, of those that are not done; if it gives none of these, the first goes
on. One that is halted halts them all. `turns` bounds the calls. -/
def join (pick : List Nat → Program I Nat) (programs : List (Program I α)) :
    Nat → Program I (List α)
  | 0 => .unbounded
  | turns + 1 =>
    match programs.findSome? Program.halt? with
    | some why => .halted why
    | none =>
      match waiting programs with
      | [] => .done (programs.filterMap Program.result?)
      | first :: others => do
        let picked ← pick (first :: others)
        let place := if (first :: others).contains picked then picked else first
        match programs[place]? with
        | some (.perform c next) =>
          .perform c fun reply => join pick (programs.set place (next reply)) turns
        | _ => .unbounded

end Pool

/-! ### Hosts -/

/-- What answers the calls of programs; its state changes with each call. -/
abbrev Host (I : Interface) (σ : Type) := σ → (call : I.Call) → I.Reply call × σ

/-- What a program came to: its result, the state of the host, and the exchanges with it. -/
structure Driven (I : Interface) (σ α : Type) where
  result : α
  state : σ
  exchanges : List (Exchange I)

namespace Driven

variable {I : Interface} {σ α : Type}

def after (d : Driven I σ α) (earlier : List (Exchange I)) : Driven I σ α :=
  { d with exchanges := earlier ++ d.exchanges }

end Driven

namespace Program

variable {I : Interface} {σ α : Type}

/-- Drives a program to its leaf. -/
def ended (h : Host I σ) (s : σ) : Program I α → Driven I σ (Except Halt α)
  | .done a => ⟨.ok a, s, []⟩
  | .halted why => ⟨.error why, s, []⟩
  | .perform c next =>
    let (reply, s) := h s c
    (ended h s (next reply)).after [⟨c, reply⟩]

def drive (h : Host I σ) (s : σ) : Program I α → Option (Driven I σ α)
  | .done a => some ⟨a, s, []⟩
  | .halted _ => none
  | .perform c next =>
    let (reply, s) := h s c
    (drive h s (next reply)).map (·.after [⟨c, reply⟩])

/-- Drives a program to its result, without an account of its exchanges. -/
def finish (h : Host I σ) (s : σ) : Program I α → Option (α × σ)
  | .done a => some (a, s)
  | .halted _ => none
  | .perform c next =>
    let (reply, s) := h s c
    finish h s (next reply)

/-- Drives a program in a monad that makes its calls, to its result or to why it has none. -/
def runIn {m : Type → Type} [Monad m] (make : (c : I.Call) → m (I.Reply c)) :
    Program I α → m (Except Halt α)
  | .done a => return .ok a
  | .halted why => return .error why
  | .perform c next => do runIn make (next (← make c))

end Program

end Runbook
