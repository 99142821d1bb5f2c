/-!
# Patterns

A pattern describes texts: characters of a set, conditions on the surroundings,
one pattern after another, either of two, and repetition. What is asked of a
pattern in this library is only whether a match begins where a text begins. For
that question it is immaterial how greedy a repetition is and what a group
captures, so patterns hold neither.

A place in a text is what lies before it, as far as conditions look, and what
lies after it. Matching maps a place to the places where a match from there can
end. A repetition collects places until no new one turns up, which takes no more
rounds than the text has places. For the rounds that it has to make at least,
the same number is enough: in more rounds than there are places one of them
stays where it is, and may be left out or made again.
-/

namespace TableVerbs

/-- A set of characters. -/
abbrev CharSet := Char → Bool

/-- A place between two characters of a text. -/
structure Place where
  /-- The character before the place, unless the text begins here. -/
  before : Option Char
  /-- The characters after the place. -/
  rest : List Char
deriving DecidableEq

/-- A condition on a place. -/
inductive Condition where
  /-- The text begins here. -/
  | textStart
  /-- The text ends here. -/
  | textEnd
  /-- A line begins here, lines being ended by a line feed. -/
  | lineStart
  /-- A line ends here, lines being ended by a line feed. -/
  | lineEnd
  /-- A line begins here, lines being ended by a line feed, a carriage return or both. -/
  | anyLineStart
  /-- A line ends here, lines being ended by a line feed, a carriage return or both. -/
  | anyLineEnd
  /-- Just one of the neighbours is a word character. -/
  | boundary (word : CharSet)
  /-- Both neighbours are word characters or neither is. -/
  | noBoundary (word : CharSet)
  /-- A word begins here. -/
  | wordStart (word : CharSet)
  /-- A word ends here. -/
  | wordEnd (word : CharSet)
  /-- No word character stands before the place. -/
  | halfStart (word : CharSet)
  /-- No word character stands after the place. -/
  | halfEnd (word : CharSet)

/-- Whether a condition holds at a place. -/
def Condition.holds (c : Condition) (p : Place) : Bool :=
  let before (s : CharSet) : Bool := p.before.any s
  let after (s : CharSet) : Bool := p.rest.head?.any s
  let is (c : Char) : CharSet := fun d => c == d
  match c with
  | .textStart => p.before.isNone
  | .textEnd => p.rest.isEmpty
  | .lineStart => p.before.isNone || before (is '\n')
  | .lineEnd => p.rest.isEmpty || after (is '\n')
  | .anyLineStart =>
    p.before.isNone || before (is '\n') || (before (is '\r') && !after (is '\n'))
  | .anyLineEnd =>
    p.rest.isEmpty || after (is '\r') || (after (is '\n') && !before (is '\r'))
  | .boundary word => before word != after word
  | .noBoundary word => before word == after word
  | .wordStart word => !before word && after word
  | .wordEnd word => before word && !after word
  | .halfStart word => !before word
  | .halfEnd word => !after word

/-- A pattern. -/
inductive Pattern where
  /-- Matches nothing but the empty text. -/
  | empty
  /-- Matches one character of a set. -/
  | one (set : CharSet)
  /-- Matches the empty text where a condition holds. -/
  | check (condition : Condition)
  /-- Matches one pattern, then the other. -/
  | seq (first second : Pattern)
  /-- Matches either pattern. -/
  | alt (left right : Pattern)
  /-- Matches a pattern at least `least` times and at most `most` times. -/
  | many (body : Pattern) (least : Nat) (most : Option Nat)

namespace Pattern

/-- The places reached from some places by exactly `n` rounds. -/
def inRounds (round : List Place → List Place) : Nat → List Place → List Place
  | 0, places => places
  | _ + 1, [] => []
  | n + 1, places => inRounds round n (round places)

/-- The places reached by at most `n` rounds: those reached so far, and what the
latest of them lead to. -/
def withinRounds (round : List Place → List Place) :
    Nat → List Place → List Place → List Place
  | 0, reached, _ => reached
  | _ + 1, reached, [] => reached
  | n + 1, reached, latest =>
    let new := (round latest).filter fun p => !reached.contains p
    withinRounds round n (reached ++ new) new

/-- The places where a match from a place can end, each once. -/
def ends : Pattern → Place → List Place
  | .empty, p => [p]
  | .one set, p =>
    match p.rest with
    | c :: rest => if set c then [⟨some c, rest⟩] else []
    | [] => []
  | .check condition, p => if condition.holds p then [p] else []
  | .seq first second, p => ((ends first p).flatMap (ends second)).eraseDups
  | .alt left right, p => (ends left p ++ ends right p).eraseDups
  | .many body least most, p =>
    let round (places : List Place) : List Place := (places.flatMap (ends body)).eraseDups
    let enough := p.rest.length + 1
    let first := inRounds round (min least enough) [p]
    let further := (most.map fun m => min (m - least) enough).getD enough
    withinRounds round further first first

/-- Whether a match begins where a text begins. -/
def startsOn (pattern : Pattern) (text : String) : Bool :=
  !(pattern.ends ⟨none, text.toList⟩).isEmpty

/-- Whether a pattern takes no character, whatever it matches. -/
def takesNothing : Pattern → Bool
  | .empty => true
  | .one _ => false
  | .check _ => true
  | .seq first second => first.takesNothing && second.takesNothing
  | .alt left right => left.takesNothing && right.takesNothing
  | .many body _ most => body.takesNothing || most == some 0

/-- How many steps a matching machine for the pattern would have, a repetition
being written out as often as it says, or once where it takes nothing. -/
def size : Pattern → Nat
  | .empty => 0
  | .one _ => 1
  | .check _ => 1
  | .seq first second => first.size + second.size
  | .alt left right => left.size + right.size + 1
  | .many body least most =>
    if body.takesNothing then body.size + 1
    else
      match most with
      | some m => least * body.size + (m - least) * (body.size + 1)
      | none => max 1 least * body.size + 1

end Pattern

end TableVerbs
