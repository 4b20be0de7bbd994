import Runbook.Shell.Octets

/-!
The replacement of octets: sets of octets as they are written, and what is deleted, replaced or
taken only once by them.
-/

namespace Runbook.Shell.OctetMap

/-! ### Sets -/

/-- An octet of a set as it is written, and whether a backslash stands before it. -/
abbrev Written := UInt8 × Bool

/-- The octets of a text with its escapes. `fuel` bounds its length. -/
def written : Nat → List Char → List Written
  | 0, _ => []
  | _, [] => []
  | fuel + 1, '\\' :: c :: rest =>
    let digits := Escape.octalDigits 3 (c :: rest)
    let digits := if 255 < Escape.octalValue digits then digits.take 2 else digits
    if !digits.isEmpty then
      (UInt8.ofNat (Escape.octalValue digits), true) ::
        written fuel ((c :: rest).drop digits.length)
    else
      let octet := if c == 'e' then c.toNat else (Escape.control? c).getD c.toNat
      (UInt8.ofNat octet, true) :: written fuel rest
  | fuel + 1, c :: rest => (UInt8.ofNat c.toNat, false) :: written fuel rest

/-- A part of a set: octets, or one octet a number of times or as often as is needed. -/
inductive Part where
  | octets (octets : List UInt8)
  | times (octet : UInt8) (count : Nat)
  deriving DecidableEq, Repr

def allOctets : List UInt8 := (List.range 256).map UInt8.ofNat

def isMark (c : Char) (w : Written) : Bool := w == (UInt8.ofNat c.toNat, false)

/-- What stands in brackets up to a mark and the closing bracket, and what follows. -/
def bracketed? (c : Char) : List Written → Option (List UInt8 × List Written)
  | a :: b :: rest =>
    if isMark c a && isMark ']' b then some ([], rest)
    else (bracketed? c (b :: rest)).map fun (inside, left) => (a.1 :: inside, left)
  | _ => none

/-- How often an octet is repeated: a number that is octal after a zero, or nothing. -/
def countOf (digits : List UInt8) : Nat :=
  let value := fun base : Nat => digits.foldl (fun n b => n * base + (b.toNat - 48)) 0
  if digits.head? == some 48 then value 8 else value 10

def reversedRange (first last : UInt8) : String :=
  let range := Octets.text [first] ++ "-" ++ Octets.text [last]
  s!"range-endpoints of '{range}' are in reverse collating sequence order"

/-- The part of a set that stands in brackets, and what follows. -/
def special? (s : List Written) : Except String (Option (Part × List Written)) :=
  match s with
  | a :: b :: rest =>
    if isMark ':' a && (bracketed? ':' (b :: rest)).isSome then
      match bracketed? ':' (b :: rest) with
      | none => return none
      | some (octets, left) =>
        let name := Octets.text octets
        match OctetClass.find? name with
        | some p => return some (.octets (allOctets.filter p), left)
        | none => throw s!"invalid character class '{name}'"
    else if isMark '=' a && (bracketed? '=' (b :: rest)).isSome then
      match bracketed? '=' (b :: rest) with
      | some ([octet], left) => return some (.octets [octet], left)
      | some (octets, _) =>
        throw s!"{Octets.text octets}: equivalence class operand must be a single character"
      | none => return none
    else if isMark '*' b then
      let digits := rest.takeWhile fun w => OctetClass.isDigit w.1 && !w.2
      match rest.drop digits.length with
      | close :: left =>
        return if isMark ']' close then some (.times a.1 (countOf (digits.map Prod.fst)), left)
          else none
      | [] => return none
    else return none
  | _ => return none

/-- The parts of a set; `fuel` bounds its length. -/
def parts : Nat → List Written → Except String (List Part)
  | 0, _ => return []
  | _, [] => return []
  | fuel + 1, a :: rest => do
    match ← if isMark '[' a then special? rest else pure none with
    | some (part, left) => return part :: (← parts fuel left)
    | none =>
      match rest with
      | dash :: b :: left =>
        if isMark '-' dash then
          if b.1 < a.1 then throw (reversedRange a.1 b.1)
          else
            let range := allOctets.filter fun c => a.1 ≤ c && c ≤ b.1
            return .octets range :: (← parts fuel left)
        else return .octets [a.1] :: (← parts fuel rest)
      | _ => return .octets [a.1] :: (← parts fuel rest)

def read (text : String) : Except String (List Part) :=
  let s := written (text.length + 1) text.toList
  parts (s.length + 1) s

def Part.length : Part → Nat
  | .octets l => l.length
  | .times _ n => n

/-- The octets of parts; one that is repeated as often as is needed fills them up to a length. -/
def spread (length : Nat) (parts : List Part) : List UInt8 :=
  let missing := length - parts.foldl (fun n p => n + p.length) 0
  parts.flatMap fun
    | .octets l => l
    | .times octet 0 => List.replicate missing octet
    | .times octet n => List.replicate n octet

/-! ### Requests -/

/-- What octets are replaced by: each one of the first list by that in its place of the second,
whose last one goes on. A later place wins. -/
def replaced (first second : List UInt8) (b : UInt8) : UInt8 :=
  let pairs := first.zip (second ++ List.replicate (first.length - second.length)
    (second.getLast?.getD 0))
  ((pairs.reverse).lookup b).getD b

/-- Of the octets of a set that stand next to each other and are the same, only one is kept. -/
def squeezed (set octets : List UInt8) : List UInt8 :=
  (octets.splitBy fun a b => a == b && set.contains a).flatMap fun g =>
    if g.head?.any set.contains then g.take 1 else g

/-- What is asked for: to delete, to squeeze, and to take the first set for all but its octets. -/
structure Request where
  deletes : Bool
  squeezes : Bool
  complements : Bool
  truncates : Bool
  deriving DecidableEq, Repr

/-- What is wrong with the number of sets; there may be none. -/
def Request.fault? (r : Request) (operands : List String) : Option (List String) :=
  let more := "Try 'tr --help' for more information."
  match operands with
  | [] => some ["missing operand", more]
  | [one] =>
    if r.deletes == r.squeezes && r.deletes then
      some [s!"missing operand after '{one}'",
        "Two strings must be given when both deleting and squeezing repeats.", more]
    else if r.deletes || r.squeezes then none
    else some
      [s!"missing operand after '{one}'", "Two strings must be given when translating.", more]
  | [_, two] =>
    if r.deletes && !r.squeezes then
      some [s!"extra operand '{two}'",
        "Only one string may be given when deleting without squeezing repeats.", more]
    else none
  | _ :: _ :: three :: _ => some [s!"extra operand '{three}'", more]

def Request.apply (r : Request) (operands : List String) (octets : List UInt8) :
    Except String (List UInt8) := do
  let sets ← operands.mapM read
  let written := spread 0 (sets.headD [])
  let first := if r.complements then allOctets.filter fun b => !written.contains b else written
  match sets[1]? with
  | none =>
    let set := allOctets.filter first.contains
    return if r.deletes then octets.filter fun b => !set.contains b else squeezed set octets
  | some parts =>
    let second := spread first.length parts
    if r.deletes then
      return squeezed second (octets.filter fun b => !first.contains b)
    else if second.isEmpty && !r.truncates then
      throw "when not truncating set1, string2 must be non-empty"
    else
      let first := if r.truncates then first.take second.length else first
      let result := octets.map (replaced first second)
      return if r.squeezes then squeezed second result else result

end Runbook.Shell.OctetMap
