import TableVerbs.Decimal.Reading
import TableVerbs.Error
import TableVerbs.Text.Blank
import TableVerbs.Text.Letter

/-!
# Splitting an expression into tokens

Blanks separate tokens and are dropped; otherwise the first character of what is
left decides the class of the next token, symbols first, and the class decides
how far the token reaches. Every class takes at least the character that chose
it, so the text gets shorter with each token.

A sign is never part of a number here: `-1` is two tokens, and what the minus
means is a question of grammar.
-/

namespace TableVerbs.Lexer

/-- The symbols, by their first character and what follows; `none` if a token
cannot start like this with a symbol. The longer of two spellings wins. -/
def symbol? : Char → List Char → Option (Except Error (Token × List Char))
  | '+', rest => some (.ok (.plus, rest))
  | '-', rest => some (.ok (.minus, rest))
  | '%', rest => some (.ok (.percent, rest))
  | '&', rest => some (.ok (.and, rest))
  | '|', rest => some (.ok (.or, rest))
  | '~', rest => some (.ok (.not, rest))
  | '(', rest => some (.ok (.leftParen, rest))
  | ')', rest => some (.ok (.rightParen, rest))
  | ',', rest => some (.ok (.comma, rest))
  | '*', '*' :: rest => some (.ok (.power, rest))
  | '*', rest => some (.ok (.star, rest))
  | '/', '/' :: rest => some (.ok (.doubleSlash, rest))
  | '/', rest => some (.ok (.slash, rest))
  | '=', '=' :: rest => some (.ok (.equal, rest))
  | '=', _ => some (.error .assignment)
  | '!', '=' :: rest => some (.ok (.notEqual, rest))
  | '!', _ => some (.error .loneBang)
  | '>', '=' :: rest => some (.ok (.greaterEqual, rest))
  | '>', rest => some (.ok (.greater, rest))
  | '<', '=' :: rest => some (.ok (.lessEqual, rest))
  | '<', rest => some (.ok (.less, rest))
  | _, _ => none

/-- What a character means after a backslash. -/
def unescape : Char → Char
  | 'n' => '\n'
  | 't' => '\t'
  | c => c

/-- The content of a string up to its closing quote, and what follows; `none` if
the quote never comes. -/
def stringBody? (quote : Char) : List Char → Option (List Char × List Char)
  | [] => none
  | c :: rest =>
    if c = quote then some ([], rest)
    else if c = '\\' then
      match rest with
      | [] => none
      | e :: more => (stringBody? quote more).map fun (s, r) => (unescape e :: s, r)
    else (stringBody? quote rest).map fun (s, r) => (c :: s, r)

/-- How far a number has been read. -/
inductive NumberState where
  /-- Only digits so far. -/
  | whole
  /-- A point or an exponent has been seen. -/
  | float
  /-- Right after an `e`, where a sign belongs to the number. -/
  | exponent
deriving DecidableEq

/-- The state after a character of a number, or `none` if the number ends before
it. A point is taken once and not after an exponent; an `e` is always taken, with
the sign after it, so that a malformed number is reported whole. -/
def NumberState.after? (state : NumberState) (c : Char) : Option NumberState :=
  if c.isDigit ∨ c = '_' then some (if state = .whole then .whole else .float)
  else if c = '.' then (if state = .whole then some .float else none)
  else if c = 'e' ∨ c = 'E' then some .exponent
  else if (c = '+' ∨ c = '-') ∧ state = .exponent then some .float
  else none

/-- The characters of a number without its underscores, whether it is a float,
and what follows. -/
def numberBody (state : NumberState) : List Char → List Char × Bool × List Char
  | [] => ([], state != .whole, [])
  | c :: rest =>
    match state.after? c with
    | none => ([], state != .whole, c :: rest)
    | some next =>
      let (body, isFloat, r) := numberBody next rest
      (if c = '_' then body else c :: body, isFloat, r)

/-- The token of a number's characters. -/
def numberToken (isFloat : Bool) (body : List Char) : Except Error Token :=
  if isFloat then
    match Decimal.readFloat? body with
    | some x => .ok (.float x)
    | none => .error (.badFloat (String.ofList body))
  else
    match Decimal.readInt? body with
    | some n => .ok (.int n)
    | none => .error (.badInt (String.ofList body))

/-- A character that can start a name. -/
def startsWord (c : Char) : Bool := Text.isLetter c || c == '_'

/-- A character that can stand inside a name. -/
def continuesWord (c : Char) : Bool := Text.isLetterOrNumeral c || c == '_'

/-- A word is a keyword or a name. -/
def wordToken (word : String) : Token :=
  match word with
  | "True" => .bool true
  | "true" => .bool true
  | "False" => .bool false
  | "false" => .bool false
  | "and" => .and
  | "or" => .or
  | "not" => .not
  | _ => .name word

/-- The token that starts with `c`, and what follows it. -/
def next (c : Char) (rest : List Char) : Except Error (Token × List Char) :=
  match symbol? c rest with
  | some result => result
  | none =>
    if c = '\x22' ∨ c = '\x27' then
      match stringBody? c rest with
      | some (s, r) => .ok (.str (String.ofList s), r)
      | none => .error .openString
    else if c.isDigit ∨ c = '.' then
      let (body, isFloat, r) := numberBody .whole (c :: rest)
      (numberToken isFloat body).map (·, r)
    else if startsWord c then
      .ok (wordToken (String.ofList ((c :: rest).takeWhile continuesWord)),
        (c :: rest).dropWhile continuesWord)
    else .error (.badCharacter c)

/-! ## Every token takes a character -/

theorem symbol?_length {c : Char} {rest r : List Char} {t : Token}
    (h : symbol? c rest = some (.ok (t, r))) : r.length ≤ rest.length := by
  unfold symbol? at h
  split at h <;>
    first
    | (simp only [Option.some.injEq, Except.ok.injEq, Prod.mk.injEq] at h
       obtain ⟨_, rfl⟩ := h
       simp)
    | simp at h

theorem stringBody?_length {quote : Char} {cs s r : List Char}
    (h : stringBody? quote cs = some (s, r)) : r.length ≤ cs.length := by
  fun_induction stringBody? quote cs generalizing s r with
  | case1 => simp at h
  | case2 => simp_all
  | case3 => simp at h
  | case4 e more _ ih =>
      obtain ⟨⟨s', r'⟩, hb, he⟩ := Option.map_eq_some_iff.1 h
      have := ih hb
      simp only [Prod.mk.injEq] at he
      simp only [List.length_cons]
      rw [← he.2]
      omega
  | case5 c rest _ _ ih =>
      obtain ⟨⟨s', r'⟩, hb, he⟩ := Option.map_eq_some_iff.1 h
      have := ih hb
      simp only [Prod.mk.injEq] at he
      simp only [List.length_cons]
      rw [← he.2]
      omega

theorem numberBody_length (state : NumberState) (cs : List Char) :
    (numberBody state cs).2.2.length ≤ cs.length := by
  fun_induction numberBody state cs
  all_goals simp_all
  all_goals omega

/-- A number takes its first character. -/
theorem numberBody_cons_length {c : Char} {rest : List Char} (h : c.isDigit ∨ c = '.') :
    (numberBody .whole (c :: rest)).2.2.length ≤ rest.length := by
  have hs : ∃ next, NumberState.after? .whole c = some next := by
    rcases h with h | rfl
    · exact ⟨.whole, by simp [NumberState.after?, h]⟩
    · exact ⟨.float, by decide⟩
  obtain ⟨next, hs⟩ := hs
  simpa [numberBody, hs] using numberBody_length next rest

theorem next_length {c : Char} {rest r : List Char} {t : Token}
    (h : next c rest = .ok (t, r)) : r.length ≤ rest.length := by
  unfold next at h
  split at h
  · next hs => exact symbol?_length (h ▸ hs)
  · split at h
    · split at h
      · next hb =>
          simp only [Except.ok.injEq, Prod.mk.injEq] at h
          exact h.2 ▸ stringBody?_length hb
      · simp at h
    · split at h
      · next hn =>
          have hl : (numberBody .whole (c :: rest)).2.2.length ≤ rest.length :=
            numberBody_cons_length hn
          cases hk : numberToken (numberBody .whole (c :: rest)).2.1
              (numberBody .whole (c :: rest)).1 with
          | error e => simp [hk, Except.map] at h
          | ok k =>
              simp only [hk, Except.map, Except.ok.injEq, Prod.mk.injEq] at h
              exact h.2 ▸ hl
      · split at h
        · next hw =>
            simp only [Except.ok.injEq, Prod.mk.injEq] at h
            have hc : continuesWord c = true := by
              simp only [startsWord, Bool.or_eq_true] at hw
              simp only [continuesWord, Text.isLetterOrNumeral, Bool.or_eq_true]
              exact hw.imp Or.inl id
            rw [← h.2, List.dropWhile_cons_of_pos hc]
            exact (List.dropWhile_suffix _).length_le
        · simp at h

/-- All tokens of a text, or the first thing in it that is none. -/
def tokens (cs : List Char) : Except Error (List Token) :=
  match cs with
  | [] => .ok []
  | c :: rest =>
    if Text.isBlank c then tokens rest
    else
      match _h : next c rest with
      | .error e => .error e
      | .ok (t, r) =>
        match tokens r with
        | .error e => .error e
        | .ok ts => .ok (t :: ts)
termination_by cs.length
decreasing_by
  · simp
  · have := next_length _h
    simp only [List.length_cons]
    omega

end TableVerbs.Lexer

namespace TableVerbs

/-- The tokens of an expression. -/
def tokenize (text : String) : Except Error (List Token) := Lexer.tokens text.toList

end TableVerbs
