import TableFilter.Pattern.Reading

/-!
# Searching text for a regular expression

An expression becomes a program of numbered steps. A text is read once, and all places in the
program that can be reached are followed at the same time, in the order in which they are
preferred.

## Main definitions

* `Step`, `Program`, `Program.ofRegex`: programs
* `Program.follow`: the steps that wait for a character, reached without taking one
* `Program.find?`: the first match, and of those that start there the preferred one
* `Regex.find?`, `Regex.occursIn`: the same for an expression
-/

namespace TableFilter.Pattern

/-- One step of a program. -/
inductive Step where
  /-- Takes a character of a set and goes on. -/
  | take (s : CharSet) (next : Nat)
  /-- Goes on where a condition holds. -/
  | check (l : Look) (next : Nat)
  /-- Goes on at either of two steps, the first being preferred. -/
  | fork (first second : Nat)
  /-- The end of a match. -/
  | done

/-- The steps of a program by number. -/
abbrev Program := Array Step

namespace Program

/-! ### From expressions to programs -/

/-- A fork between a turn of a repetition and what follows it. -/
def turnFork (greedy : Bool) (turn next : Nat) : Step :=
  if greedy then .fork turn next else .fork next turn

/-- Adds a step and gives its number. -/
def push (p : Program) (s : Step) : Nat × Program := (p.size, Array.push p s)

/-- Adds steps some times over, each time in front of what was added before. -/
def times (build : Nat → Program → Nat × Program) : Nat → Nat → Program → Nat × Program
  | 0, next, p => (next, p)
  | n + 1, next, p =>
    let (next, p) := build next p
    times build n next p

/-- Adds optional turns, nested in one another, in front of `next`. `exit` is where to go without
a further turn. -/
def optional (build : Nat → Program → Nat × Program) (greedy : Bool) (exit : Nat) :
    Nat → Nat → Program → Nat × Program
  | 0, next, p => (next, p)
  | n + 1, next, p =>
    let (turn, p) := build next p
    let (next, p) := p.push (turnFork greedy turn exit)
    optional build greedy exit n next p

/-- Adds a turn that can be taken again, and gives the start of the turn and the fork after it. -/
def loop (build : Nat → Program → Nat × Program) (greedy : Bool) (next : Nat) (p : Program) :
    (Nat × Nat) × Program :=
  let (fork, p) := p.push .done
  let (turn, p) := build fork p
  ((turn, fork), Array.set! p fork (turnFork greedy turn next))

/-- Adds the steps of an expression in front of the step `next`, and gives the first of them. A
repetition that may take no turn starts at its fork, unless a turn can be empty: then it is an
optional repetition of one turn or more, which keeps the order of preference. -/
def compile : Regex → Nat → Program → Nat × Program
  | .empty, next, p => (next, p)
  | .set s, next, p => p.push (.take s next)
  | .look l, next, p => p.push (.check l next)
  | .seq a b, next, p =>
    let (next, p) := compile b next p
    compile a next p
  | .choice a b, next, p =>
    let (second, p) := compile b next p
    let (first, p) := compile a next p
    p.push (.fork first second)
  | .repetition body greedy least (some most), next, p =>
    let (next, p) := optional (compile body) greedy next (most - least) next p
    times (compile body) least next p
  | .repetition body greedy least none, next, p =>
    let ((turn, fork), p) := loop (compile body) greedy next p
    if least == 0 then
      if body.nullable then p.push (turnFork greedy turn next) else (fork, p)
    else times (compile body) (least - 1) turn p

/-- The program of an expression and its first step. -/
def ofRegex (r : Regex) : Nat × Program := compile r 0 #[.done]

/-! ### Running programs -/

/-- A place that a run has reached: a step, and where the match has started. -/
structure Thread where
  step : Nat
  start : Nat

/-- The threads of a run at one place, last first, and the steps already visited, as bits. -/
structure Front where
  threads : List Thread
  visited : Nat

/-- Follows steps that take no character, in order of preference, visiting each step once. `todo`
holds the steps still to be followed. -/
def follow (p : Program) (before after : Option Char) (start : Nat) (fuel : Nat)
    (todo : List Nat) (front : Front) : Front :=
  match fuel, todo with
  | fuel + 1, k :: todo =>
    if front.visited.testBit k then follow p before after start fuel todo front
    else
      let visited := front.visited ||| (1 <<< k)
      match p[k]? with
      | some (.fork a b) => follow p before after start fuel (a :: b :: todo) { front with visited }
      | some (.check l next) =>
        if l.holds before after then
          follow p before after start fuel (next :: todo) { front with visited }
        else follow p before after start fuel todo { front with visited }
      | some _ =>
        follow p before after start fuel todo
          { threads := ⟨k, start⟩ :: front.threads, visited }
      | none => follow p before after start fuel todo front
  | _, _ => front

/-- Adds what can be reached from a step to a front. -/
def reach (p : Program) (before after : Option Char) (start step : Nat) (front : Front) :
    Front :=
  follow p before after start (2 * p.size + 2) [step] front

/-- Lets the threads take a character, in order of preference. The first thread that is done gives
a match that ends here, and those after it are dropped. -/
def advance (p : Program) (c after : Option Char) (position : Nat) :
    List Thread → Option (Nat × Nat) → Front → Option (Nat × Nat) × Front
  | [], found, front => (found, front)
  | t :: threads, found, front =>
    match p[t.step]? with
    | some .done => (some (t.start, position), front)
    | some (.take s next) =>
      match c with
      | some d =>
        advance p c after position threads found
          (if s.contains d then p.reach c after t.start next front else front)
      | none => advance p c after position threads found front
    | _ => advance p c after position threads found front

/-- Runs a program over what is left of a text. A thread that starts here joins the others while
there is no match. -/
def run (p : Program) (entry : Nat) (before : Option Char) (position : Nat)
    (threads : List Thread) (found : Option (Nat × Nat)) : List Char → Option (Nat × Nat)
  | [] =>
    let front : Front := ⟨threads.reverse, threads.foldl (fun v t => v ||| (1 <<< t.step)) 0⟩
    let front := if found.isNone then p.reach before none position entry front else front
    (p.advance none none position front.threads.reverse found ⟨[], 0⟩).1
  | c :: cs =>
    let front : Front := ⟨threads.reverse, threads.foldl (fun v t => v ||| (1 <<< t.step)) 0⟩
    let front :=
      if found.isNone then p.reach before (some c) position entry front else front
    let (found, next) :=
      p.advance (some c) cs.head? position front.threads.reverse found ⟨[], 0⟩
    if found.isSome && next.threads.isEmpty then found
    else run p entry (some c) (position + 1) next.threads.reverse found cs

/-- Start and end of the first match in a text. -/
def find? (p : Program) (entry : Nat) (text : List Char) : Option (Nat × Nat) :=
  p.run entry none 0 [] none text

end Program

namespace Regex

/-- Start and end of the first match of an expression in a text. -/
def find? (r : Regex) (text : List Char) : Option (Nat × Nat) :=
  let (entry, p) := Program.ofRegex r
  p.find? entry text

/-- The part of a text that an expression matches first. -/
def firstMatch? (r : Regex) (text : List Char) : Option (List Char) :=
  (r.find? text).map fun (start, stop) => (text.take stop).drop start

/-- Whether an expression matches a part of a text. -/
def occursIn (r : Regex) (text : List Char) : Bool := (r.find? text).isSome

end Regex

end TableFilter.Pattern
