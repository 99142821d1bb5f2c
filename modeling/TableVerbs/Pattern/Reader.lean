import TableVerbs.Pattern.Named

/-!
# Reading patterns

The written form of patterns: characters stand for themselves; `.`, `[...]` and
escapes for sets; `^`, `$` and escapes for conditions; `?`, `*`, `+` and
`{n,m}` repeat what comes before them; parentheses group, and `|` separates
alternatives. Flags in a group change how the rest of it is read: `i` folds case,
`m` makes lines of the text, `s` lets the dot match the end of a line, `R` counts
a carriage return as one, `x` ignores blanks and comments, `u` turned off means
ASCII, and `U`, which swaps greed, changes nothing here.

Anything else is no pattern, and it is not said why.

The reader keeps a stack of open groups and takes at least one character at each
step, so the length of the text bounds its steps.
-/

namespace TableVerbs.Pattern

open Text (isBlank)

/-- How the next part of a pattern is read. -/
structure Flags where
  /-- Case is folded. -/
  fold : Bool
  /-- Line ends count for `^` and `$`. -/
  lines : Bool
  /-- The dot matches the end of a line. -/
  dotAll : Bool
  /-- Named sets are those of Unicode. -/
  unicode : Bool
  /-- A carriage return ends a line as well. -/
  returns : Bool
  /-- Blanks and comments do not count. -/
  spaced : Bool
deriving DecidableEq

/-- The flags at the start. -/
def Flags.initial : Flags := ⟨false, false, false, true, false, false⟩

/-- The flags with one of them set or cleared. -/
def Flags.set? (f : Flags) (name : Char) (value : Bool) : Option Flags :=
  match name with
  | 'i' => some { f with fold := value }
  | 'm' => some { f with lines := value }
  | 's' => some { f with dotAll := value }
  | 'u' => some { f with unicode := value }
  | 'R' => some { f with returns := value }
  | 'x' => some { f with spaced := value }
  | 'U' => some f
  | _ => none

/-- Drops blanks and comments, the latter up to the end of their line. -/
def dropSpaced (inComment : Bool) : List Char → List Char
  | [] => []
  | c :: rest =>
    if inComment then dropSpaced (c != '\n') rest
    else if c = '#' then dropSpaced true rest
    else if isBlank c then dropSpaced false rest
    else c :: rest

/-- What is left to read under the flags. -/
def Flags.skip (f : Flags) (cs : List Char) : List Char :=
  if f.spaced then dropSpaced false cs else cs

/-! ## Characters and sets -/

/-- The set of one character. -/
def Flags.only (f : Flags) (c : Char) : CharSet :=
  if !f.fold then fun d => d == c
  else if f.unicode then foldSet fun d => d == c
  else fun d => d.toLower == c.toLower

/-- A set as the flags read it. -/
def Flags.folded (f : Flags) (set : CharSet) : CharSet :=
  if !f.fold then set
  else if f.unicode then foldSet set
  else fun c => set c || set c.toLower || set c.toUpper

/-- The complement of a set. -/
def complement (set : CharSet) : CharSet := fun c => !set c

/-- The word characters under the flags. -/
def Flags.word (f : Flags) : CharSet := if f.unicode then wordChars else asciiWordChars

/-- What a backslash and the characters after it stand for. -/
inductive Escape where
  | char (c : Char)
  | set (set : CharSet)
  | condition (condition : Condition)

/-- The value of a hexadecimal digit. -/
def hexValue? (c : Char) : Option Nat :=
  if c.isDigit then some (c.toNat - 48)
  else if between 97 102 c then some (c.toNat - 87)
  else if between 65 70 c then some (c.toNat - 55)
  else none

/-- The character of a code point in hexadecimal. -/
def hexChar? (digits : List Char) : Option Char :=
  match digits.mapM hexValue? with
  | some (d :: ds) =>
    let n := ds.foldl (fun n d => 16 * n + d) d
    if n.isValidChar then some (Char.ofNat n) else none
  | _ => none

/-- A character by its code point: so many digits, or any number in braces. -/
def readHex (f : Flags) (width : Nat) : List Char → Option (Escape × List Char)
  | '\x7b' :: rest =>
    match rest.dropWhile (· != '\x7d') with
    | _ :: more => (hexChar? (rest.takeWhile (· != '\x7d'))).map fun c => (.char c, more)
    | [] => none
  | cs =>
    if cs.length < width then none
    else
      match hexChar? (cs.take width) with
      | some c =>
        if width = 2 ∧ !f.unicode ∧ 128 ≤ c.toNat then none
        else some (.char c, cs.drop width)
      | none => none

/-- The set that the text between braces names. -/
def readProperty (body : List Char) : Option CharSet :=
  let value (c : Char) : Option (String × String) :=
    match body.dropWhile (· != c) with
    | _ :: after => some (String.ofList (body.takeWhile (· != c)), String.ofList after)
    | [] => none
  match (String.ofList body).splitOn "!=" with
  | name :: v :: more => (withValue? name ("!=".intercalate (v :: more))).map complement
  | _ =>
    match (value ':').or (value '=') with
    | some (name, v) => withValue? name v
    | none => named? (String.ofList body)

/-- A property by one letter or between braces. -/
def readNamed (f : Flags) (negated : Bool) (cs : List Char) : Option (Escape × List Char) :=
  let close (set : CharSet) : Escape :=
    .set (if negated then complement (f.folded set) else f.folded set)
  if !f.unicode then none
  else
    match cs with
    | '\x7b' :: rest =>
      match rest.dropWhile (· != '\x7d') with
      | _ :: more =>
        (readProperty (rest.takeWhile (· != '\x7d'))).map fun set => (close set, more)
      | [] => none
    | c :: rest => (generalCategory? (looseName c.toString)).map fun set => (close set, rest)
    | [] => none

/-- The kinds of word boundaries that are named in braces. -/
def readBoundary (f : Flags) (cs : List Char) : Option (Escape × List Char) :=
  let plain : Option (Escape × List Char) := some (.condition (.boundary f.word), cs)
  let isNameChar (c : Char) : Bool := c.isAlpha || c == '-'
  match cs with
  | '\x7b' :: rest =>
    match f.skip rest with
    | [] => none
    | c :: more =>
      if !isNameChar c then plain
      else
        match (c :: more).dropWhile isNameChar with
        | '\x7d' :: after =>
          match String.ofList ((c :: more).takeWhile isNameChar) with
          | "start" => some (.condition (.wordStart f.word), after)
          | "end" => some (.condition (.wordEnd f.word), after)
          | "start-half" => some (.condition (.halfStart f.word), after)
          | "end-half" => some (.condition (.halfEnd f.word), after)
          | _ => none
        | _ => none
  | _ => plain

/-- A named set by one letter. Its complement would match half characters where
characters are bytes, so there it does not exist. -/
def perlSet (f : Flags) (unicode ascii : CharSet) (negated : Bool) (rest : List Char) :
    Option (Escape × List Char) :=
  let set := if f.unicode then unicode else ascii
  if !negated then some (.set set, rest)
  else if f.unicode then some (.set (complement set), rest)
  else none

/-- Whether a character may follow a backslash to stand for itself. -/
def standsForItself (c : Char) : Bool :=
  c.toNat < 128 && !c.isAlphanum && c != '<' && c != '>'

/-- Reads what follows a backslash. -/
def readEscape (f : Flags) : List Char → Option (Escape × List Char)
  | [] => none
  | c :: rest =>
    match c with
    | 'x' => readHex f 2 rest
    | 'u' => readHex f 4 rest
    | 'U' => readHex f 8 rest
    | 'p' => readNamed f false rest
    | 'P' => readNamed f true rest
    | 'd' => perlSet f digits Char.isDigit false rest
    | 'D' => perlSet f digits Char.isDigit true rest
    | 's' => perlSet f isBlank asciiBlanks false rest
    | 'S' => perlSet f isBlank asciiBlanks true rest
    | 'w' => perlSet f wordChars asciiWordChars false rest
    | 'W' => perlSet f wordChars asciiWordChars true rest
    | 'a' => some (.char '\x07', rest)
    | 'f' => some (.char '\x0c', rest)
    | 't' => some (.char '\t', rest)
    | 'r' => some (.char '\r', rest)
    | 'n' => some (.char '\n', rest)
    | 'v' => some (.char '\x0b', rest)
    | 'A' => some (.condition .textStart, rest)
    | 'z' => some (.condition .textEnd, rest)
    | 'b' => readBoundary f rest
    | 'B' => some (.condition (.noBoundary f.word), rest)
    | '<' => some (.condition (.wordStart f.word), rest)
    | '>' => some (.condition (.wordEnd f.word), rest)
    | c => if standsForItself c then some (.char c, rest) else none

/-! ## Sets in brackets -/

/-- How two sets are combined. -/
inductive SetOp where
  | intersection
  | difference
  | symmetricDifference

/-- Combines two sets. -/
def SetOp.apply (op : SetOp) (a b : CharSet) : CharSet :=
  match op with
  | .intersection => fun c => a c && b c
  | .difference => fun c => a c && !b c
  | .symmetricDifference => fun c => a c != b c

/-- The set of either set's characters. -/
def union (a b : CharSet) : CharSet := fun c => a c || b c

/-- A set under way inside brackets: what came before the last operation, and
what has been listed since. -/
structure Bracket where
  /-- Whether the complement is meant. -/
  negated : Bool
  /-- The operation to do and its first set. -/
  pending : Option (SetOp × CharSet)
  /-- The characters listed. -/
  listed : CharSet

/-- The set of a bracket so far. -/
def Bracket.value (f : Flags) (b : Bracket) : CharSet :=
  match b.pending with
  | some (op, first) => op.apply (f.folded first) (f.folded b.listed)
  | none => b.listed

/-- The set of a closed bracket. -/
def Bracket.close (f : Flags) (b : Bracket) : CharSet :=
  let set := f.folded (b.value f)
  if b.negated then complement set else set

/-- The bracket with more characters listed. -/
def Bracket.list (b : Bracket) (set : CharSet) : Bracket :=
  { b with listed := union b.listed set }

/-- The bracket with a further operation to do. -/
def Bracket.operate (f : Flags) (b : Bracket) (op : SetOp) : Bracket :=
  { b with pending := some (op, b.value f), listed := fun _ => false }

/-- Lists hyphens for as long as they come. -/
def listHyphens (f : Flags) (b : Bracket) : Nat → List Char → Bracket × List Char
  | fuel + 1, '-' :: rest => listHyphens f (b.list fun c => c == '-') fuel (f.skip rest)
  | _, cs => (b, cs)

/-- Reads the start of a bracket: whether it is negated, hyphens, and a closing
bracket that is listed because nothing was before it. -/
def openBracket (f : Flags) (cs : List Char) : Bracket × List Char :=
  let (negated, cs) :=
    match f.skip cs with
    | '^' :: rest => (true, f.skip rest)
    | cs => (false, cs)
  let (b, cs') := listHyphens f ⟨negated, none, fun _ => false⟩ cs.length cs
  match cs' with
  | ']' :: rest =>
    if cs'.length = cs.length then (b.list fun c => c == ']', f.skip rest) else (b, cs')
  | _ => (b, cs')

/-- Reads the name of a classic set, such as `[:alpha:]`. -/
def readClassic (f : Flags) : List Char → Option (CharSet × List Char)
  | ':' :: rest =>
    let (negated, body) :=
      match rest with
      | '^' :: more => (true, more)
      | _ => (false, rest)
    match body.dropWhile (· != ':') with
    | ':' :: ']' :: after =>
      (asciiClass? (String.ofList (body.takeWhile (· != ':')))).map fun set =>
        (if negated then complement (f.folded set) else f.folded set, after)
    | _ => none
  | _ => none

/-- Reads one member of a bracket: a character, or a set by an escape. -/
def readMember (f : Flags) : List Char → Option (Escape × List Char)
  | '\\' :: rest => readEscape f rest
  | c :: rest => some (.char c, rest)
  | [] => none

/-- Reads a member of a bracket or a range of characters. -/
def readRange (f : Flags) (cs : List Char) : Option (CharSet × List Char) :=
  match readMember f cs with
  | none => none
  | some (first, rest) =>
    let single : Option (CharSet × List Char) :=
      match first with
      | .char c => some (fun d => d == c, rest)
      | .set set => some (set, rest)
      | .condition _ => none
    match f.skip rest with
    | '-' :: more =>
      match f.skip more with
      | ']' :: _ => single
      | '-' :: _ => single
      | more =>
        match first, readMember f more with
        | .char low, some (.char high, after) =>
          if low ≤ high then some (between low.toNat high.toNat, after) else none
        | _, _ => none
    | _ => single

/-- Reads brackets up to the close of the outermost; the innermost comes first. -/
def readBrackets (f : Flags) : Nat → Bracket → List Bracket → List Char →
    Option (CharSet × List Char)
  | 0, _, _, _ => none
  | fuel + 1, b, outer, cs =>
    match f.skip cs with
    | [] => none
    | '[' :: rest =>
      match readClassic f rest with
      | some (set, after) => readBrackets f fuel (b.list set) outer after
      | none =>
        let (inner, after) := openBracket f rest
        readBrackets f fuel inner (b :: outer) after
    | ']' :: rest =>
      match outer with
      | [] => some (b.close f, rest)
      | o :: outer => readBrackets f fuel (o.list (b.close f)) outer rest
    | '&' :: '&' :: rest => readBrackets f fuel (b.operate f .intersection) outer rest
    | '-' :: '-' :: rest => readBrackets f fuel (b.operate f .difference) outer rest
    | '~' :: '~' :: rest => readBrackets f fuel (b.operate f .symmetricDifference) outer rest
    | cs =>
      match readRange f cs with
      | some (set, rest) => readBrackets f fuel (b.list set) outer rest
      | none => none

/-- Whether a set leaves ASCII, as far as its first character outside shows. -/
def leavesAscii (set : CharSet) : Bool :=
  (List.range 256).any fun n => 128 ≤ n && set (Char.ofNat n)

/-- Reads a set after its opening bracket. Without Unicode a set may hold ASCII
only. -/
def readSet (f : Flags) (cs : List Char) : Option (CharSet × List Char) :=
  let (b, rest) := openBracket f cs
  match readBrackets f (cs.length + 1) b [] rest with
  | some (set, after) =>
    if !f.unicode && leavesAscii set then none else some (set, after)
  | none => none

/-! ## Repetition -/

/-- The greatest number that a repetition can be given. -/
def maxCount : Nat := 4294967295

/-- Reads a number between blanks. -/
def readCount (cs : List Char) : Option (Nat × List Char) :=
  let cs := cs.dropWhile isBlank
  let ds := cs.takeWhile Char.isDigit
  let n := ds.foldl (fun n d => 10 * n + (d.toNat - 48)) 0
  if ds.isEmpty || maxCount < n then none
  else some (n, (cs.dropWhile Char.isDigit).dropWhile isBlank)

/-- Reads a counted repetition after its opening brace. -/
def readCounts (f : Flags) (cs : List Char) : Option (Nat × Option Nat × List Char) :=
  match readCount (f.skip cs) with
  | none => none
  | some (least, '\x7d' :: rest) => some (least, some least, rest)
  | some (least, ',' :: rest) =>
    match f.skip rest with
    | '\x7d' :: more => some (least, none, more)
    | rest =>
      match readCount rest with
      | some (most, '\x7d' :: more) => if least ≤ most then some (least, some most, more) else none
      | _ => none
  | some _ => none

/-- Drops the mark that makes a repetition lazy. -/
def dropLazy (f : Flags) (cs : List Char) : List Char :=
  match f.skip cs with
  | '?' :: rest => rest
  | _ => cs

/-! ## Groups -/

/-- A group under way. -/
structure Group where
  /-- The flags outside of it. -/
  outside : Flags
  /-- The alternatives before the last bar. -/
  branches : List Pattern
  /-- The parts since, the last one first; `none` is a change of flags, which
  cannot be repeated. -/
  parts : List (Option Pattern)

/-- The parts of a group as one pattern. -/
def Group.sequence (g : Group) : Pattern :=
  g.parts.reverse.foldl (fun p q => match q with
    | some q => .seq p q
    | none => p) .empty

/-- The group as one pattern. -/
def Group.pattern (g : Group) : Pattern :=
  g.branches.foldl (fun p branch => .alt branch p) g.sequence

/-- The group with one more part. -/
def Group.push (g : Group) (p : Pattern) : Group := { g with parts := some p :: g.parts }

/-- The group with its last part repeated. -/
def Group.repeatLast? (g : Group) (least : Nat) (most : Option Nat) : Option Group :=
  match g.parts with
  | some p :: rest => some { g with parts := some (.many p least most) :: rest }
  | _ => none

/-- Reads flags up to a colon or a closing parenthesis: the flags, whether there
were any, the mark that ended them, and the rest. -/
def readFlags (seen : List Char) (negated dangling : Bool) (f : Flags) :
    List Char → Option (Flags × Bool × Char × List Char)
  | [] => none
  | c :: rest =>
    if c = ':' ∨ c = ')' then if dangling then none else some (f, !seen.isEmpty, c, rest)
    else if c = '-' then if negated then none else readFlags (c :: seen) true true f rest
    else if seen.contains c then none
    else
      match f.set? c (!negated) with
      | some f => readFlags (c :: seen) negated false f rest
      | none => none

/-- Whether a name may be given to a group. -/
def isGroupName : List Char → Bool
  | [] => false
  | c :: rest =>
    (c == '_' || Text.isLetter c) &&
      rest.all fun c => Text.isLetterOrNumeral c || "_.[]".toList.contains c

/-- What an opening parenthesis begins. -/
inductive Opening where
  /-- A group, perhaps with a name, read under these flags. -/
  | group (name : Option (List Char)) (flags : Flags)
  /-- A change of flags for the rest of the group around. -/
  | change (flags : Flags)

/-- Reads what follows an opening parenthesis. Conditions on a context that is
not part of the match do not exist. -/
def readOpening (f : Flags) (cs : List Char) : Option (Opening × List Char) :=
  let named (rest : List Char) : Option (Opening × List Char) :=
    match rest.dropWhile (· != '>') with
    | _ :: after =>
      let name := rest.takeWhile (· != '>')
      if isGroupName name then some (.group (some name) f, after) else none
    | [] => none
  match f.skip cs with
  | '?' :: '=' :: _ => none
  | '?' :: '!' :: _ => none
  | '?' :: '<' :: '=' :: _ => none
  | '?' :: '<' :: '!' :: _ => none
  | '?' :: 'P' :: '<' :: rest => named rest
  | '?' :: '<' :: rest => named rest
  | '?' :: rest =>
    match readFlags [] false false f rest with
    | some (g, _, ':', more) => some (.group none g, more)
    | some (g, true, _, more) => some (.change g, more)
    | _ => none
  | cs => some (.group none f, cs)

/-- The dot under the flags. Where characters are bytes it does not exist. -/
def dot? (f : Flags) : Option Pattern :=
  if !f.unicode then none
  else if f.dotAll then some (.one fun _ => true)
  else if f.returns then some (.one fun c => c != '\n' && c != '\r')
  else some (.one fun c => c != '\n')

/-- The condition of `^` under the flags. -/
def atStart (f : Flags) : Condition :=
  if !f.lines then .textStart else if f.returns then .anyLineStart else .lineStart

/-- The condition of `$` under the flags. -/
def atEnd (f : Flags) : Condition :=
  if !f.lines then .textEnd else if f.returns then .anyLineEnd else .lineEnd

/-- Reads a pattern to its end: the flags in force, the innermost open group, the
groups around it, and the names given so far. -/
def readParts : Nat → Flags → Group → List Group → List (List Char) → List Char → Option Pattern
  | 0, _, _, _, _, _ => none
  | fuel + 1, f, g, outer, names, cs =>
    let go (g : Group) (rest : List Char) : Option Pattern :=
      readParts fuel f g outer names rest
    let again (least : Nat) (most : Option Nat) (rest : List Char) : Option Pattern :=
      (g.repeatLast? least most).bind fun g => go g (dropLazy f rest)
    match f.skip cs with
    | [] => if outer.isEmpty then some g.pattern else none
    | '(' :: rest =>
      match readOpening f rest with
      | some (.change flags, after) =>
        readParts fuel flags { g with parts := none :: g.parts } outer names after
      | some (.group name flags, after) =>
        if name.any names.contains then none
        else readParts fuel flags ⟨f, [], []⟩ (g :: outer) (name.toList ++ names) after
      | none => none
    | ')' :: rest =>
      match outer with
      | o :: outer => readParts fuel g.outside (o.push g.pattern) outer names rest
      | [] => none
    | '|' :: rest => go { g with branches := g.sequence :: g.branches, parts := [] } rest
    | '[' :: rest => (readSet f rest).bind fun (set, after) => go (g.push (.one set)) after
    | '?' :: rest => again 0 (some 1) rest
    | '*' :: rest => again 0 none rest
    | '+' :: rest => again 1 none rest
    | '\x7b' :: rest =>
      (readCounts f rest).bind fun (least, most, after) => again least most after
    | '.' :: rest => (dot? f).bind fun p => go (g.push p) rest
    | '^' :: rest => go (g.push (.check (atStart f))) rest
    | '$' :: rest => go (g.push (.check (atEnd f))) rest
    | '\\' :: rest =>
      match readEscape f rest with
      | some (.char c, after) => go (g.push (.one (f.only c))) after
      | some (.set set, after) => go (g.push (.one set)) after
      | some (.condition c, after) => go (g.push (.check c)) after
      | none => none
    | c :: rest => go (g.push (.one (f.only c))) rest

/-- The size from which a pattern is refused. -/
def maxSize : Nat := 327680

/-- Reads a pattern. -/
def read? (text : String) : Option Pattern :=
  let cs := text.toList
  match readParts (cs.length + 1) .initial ⟨.initial, [], []⟩ [] [] cs with
  | some p => if p.size < maxSize then some p else none
  | none => none

end TableVerbs.Pattern
