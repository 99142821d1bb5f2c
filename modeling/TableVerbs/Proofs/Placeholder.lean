import Mathlib.Algebra.Group.Nat.Defs
import TableVerbs.Expr.Eval
import TableVerbs.Proofs.ReadingComplete

/-!
# The place-holder of the number of rows

The place-holder is rewritten in the text, before anything is known of the words
in it, and what it is rewritten to is the call of a name like others. So there are
two places where it does not stand for the number of rows. A column of that name
hides the function, as it does any other, whatever functions are in scope. And in
a string the call is not read as one: its text is put into the string.

Rewriting and quoting do not get into each other's way otherwise, because neither
the place-holder nor its call has a character that is quoted.
-/

namespace TableVerbs

/-! ## The number of rows -/

theorem Lexer.tokens_cons {c : Char} {rest r : List Char} {t : Token} {ts : List Token}
    (hblank : Text.isBlank c = false) (hnext : next c rest = .ok (t, r))
    (hts : tokens r = .ok ts) : tokens (c :: rest) = .ok (t :: ts) := by
  rw [tokens, if_neg (by rw [hblank]; exact Bool.false_ne_true)]
  split
  · next h =>
      rw [hnext] at h
      cases h
  · next h =>
      rw [hnext] at h
      cases h
      rw [hts]

theorem Lexer.tokens_nil : tokens [] = .ok [] := by rw [tokens]

/-- The place-holder of the number of rows is read as the call that stands for it. -/
theorem parse_rowCount :
    Expr.parse (String.ofList (fillRowCount "\x7bn\x7d".toList)) =
      .ok (.call rowCountName []) := by
  have hfilled : fillRowCount "\x7bn\x7d".toList = '_' :: "_n__()".toList := by decide
  have hname : Lexer.next '_' "_n__()".toList = .ok (.name rowCountName, "()".toList) := rfl
  have hparens : Lexer.tokens "()".toList = .ok [.leftParen, .rightParen] := by
    have hclose : Lexer.tokens [')'] = .ok [.rightParen] :=
      Lexer.tokens_cons (by decide) rfl Lexer.tokens_nil
    exact @Lexer.tokens_cons '(' [')'] _ _ _ (by decide) rfl hclose
  have htokens : tokenize (String.ofList ('_' :: "_n__()".toList)) =
      .ok [.name rowCountName, .leftParen, .rightParen] := by
    rw [tokenize, String.toList_ofList]
    exact Lexer.tokens_cons (by decide) hname hparens
  have hrendering : (Expr.call rowCountName []).Rendering
      [.name rowCountName, .leftParen, .rightParen] :=
    .bare (by decide) (.call rowCountName .none)
  -- that the tokens are read as the call is what reading every rendering back says
  rw [hfilled, Expr.parse, htokens]
  exact Parser.expression_iff_rendering.mpr hrendering

/-- The number of rows, unless a column of the name that is set aside for it hides
it. -/
theorem Scope.eval_rowCount (scope : Scope) (t : Table) :
    scope.eval "\x7bn\x7d" t =
      if t.has rowCountName then .error (.notCallable rowCountName)
      else .ok (.cell (.int (Int64.ofNat t.rows))) := by
  rw [Scope.eval, parse_rowCount]
  simp only [Expr.eval, Expr.evalAll]
  rfl

/-! ## Texts in quotes -/

namespace Lexer

/-- A text with a backslash before each backslash and each quote. -/
def escaped (quote : Char) : List Char → List Char
  | [] => []
  | c :: rest =>
    if c = quote ∨ c = '\\' then '\\' :: c :: escaped quote rest else c :: escaped quote rest

/-- A text written as a string. -/
def literal (quote : Char) (s : String) : String :=
  String.ofList (quote :: (escaped quote s.toList ++ [quote]))

variable {quote : Char}

theorem stringBody?_plain {c : Char} {rest : List Char} (hquote : c ≠ quote) (hslash : c ≠ '\\') :
    stringBody? quote (c :: rest) = (stringBody? quote rest).map fun (s, r) => (c :: s, r) := by
  rw [stringBody?.eq_def]
  simp [hquote, hslash]

theorem stringBody?_escaped (hquote : quote = '\x22' ∨ quote = '\x27') (cs rest : List Char) :
    stringBody? quote (escaped quote cs ++ quote :: rest) = some (cs, rest) := by
  have hslash : '\\' ≠ quote := by rcases hquote with rfl | rfl <;> decide
  have hplain : unescape quote = quote := by rcases hquote with rfl | rfl <;> decide
  induction cs with
  | nil =>
      rw [escaped, List.nil_append, stringBody?.eq_def]
      simp
  | cons c cs ih =>
      by_cases hc : c = quote ∨ c = '\\'
      · have hback : unescape c = c := by
          rcases hc with rfl | rfl
          · exact hplain
          · decide
        simp [escaped, stringBody?, hc, hslash, hback, ih]
      · obtain ⟨hcq, hcs⟩ := not_or.mp hc
        rw [escaped, if_neg hc, List.cons_append, stringBody?_plain hcq hcs, ih]
        rfl

theorem tokenize_literal (hquote : quote = '\x22' ∨ quote = '\x27') (s : String) :
    tokenize (literal quote s) = .ok [.str s] := by
  have hblank : Text.isBlank quote = false := by rcases hquote with rfl | rfl <;> decide
  have hnext : next quote (escaped quote s.toList ++ [quote]) = .ok (.str s, []) := by
    have hsymbol : symbol? quote (escaped quote s.toList ++ [quote]) = none := by
      rcases hquote with rfl | rfl <;> rfl
    simp [next, hsymbol, hquote, stringBody?_escaped hquote]
  rw [tokenize, literal, String.toList_ofList]
  exact tokens_cons hblank hnext tokens_nil

end Lexer

/-- A string is read as its text. -/
theorem parse_literal {quote : Char} (hquote : quote = '\x22' ∨ quote = '\x27') (s : String) :
    Expr.parse (Lexer.literal quote s) = .ok (.lit (.str s)) := by
  rw [Expr.parse, Lexer.tokenize_literal hquote]
  exact Parser.expression_iff_rendering.mpr (.bare (Nat.zero_le _) (.lit (.str s)))

/-! ## Rewriting in quotes -/

theorem length_le_fillRowCount (cs : List Char) : cs.length ≤ (fillRowCount cs).length := by
  have hname : rowCountName.toList.length = 5 := by decide
  fun_induction fillRowCount cs with
  | case1 rest ih =>
      simp only [List.length_cons, List.length_append, hname]
      omega
  | case2 c rest _ ih =>
      simp only [List.length_cons]
      omega
  | case3 => simp

/-- A text without the place-holder stays as it is, and no other does. -/
theorem fillRowCount_eq_self {cs : List Char} :
    fillRowCount cs = cs ↔ ¬ ['\x7b', 'n', '\x7d'] <:+: cs := by
  fun_induction fillRowCount cs with
  | case1 rest ih =>
      have hoccurs : ['\x7b', 'n', '\x7d'] <:+: '\x7b' :: 'n' :: '\x7d' :: rest :=
        (List.prefix_append _ rest).isInfix
      have hname : rowCountName.toList.length = 5 := by decide
      have hlonger := length_le_fillRowCount rest
      simp only [hoccurs, not_true, iff_false]
      intro hsame
      have hlengths := congrArg List.length hsame
      simp only [List.length_cons, List.length_append, hname] at hlengths
      omega
  | case2 c rest hother ih =>
      have hfirst : ¬ ['\x7b', 'n', '\x7d'] <+: c :: rest := by
        rintro ⟨more, hmore⟩
        cases hmore
        exact hother more rfl rfl
      rw [List.infix_cons_iff, not_or, List.cons.injEq, ih]
      simp [hfirst]
  | case3 => simp

theorem fillRowCount_cons {c : Char} (h : c ≠ '\x7b') (rest : List Char) :
    fillRowCount (c :: rest) = c :: fillRowCount rest := by
  rw [fillRowCount.eq_def]
  split
  · next heq =>
      cases heq
      exact absurd rfl h
  · next heq =>
      cases heq
      rfl
  · next heq => cases heq

section

variable {quote : Char}

theorem Lexer.escaped_cons {c : Char} {cs rest more : List Char}
    (h : escaped quote cs ++ quote :: rest = c :: more) (hquote : c ≠ quote) (hslash : c ≠ '\\') :
    ∃ cs', cs = c :: cs' ∧ more = escaped quote cs' ++ quote :: rest := by
  cases cs with
  | nil =>
      cases h
      exact absurd rfl hquote
  | cons d cs =>
      rw [escaped] at h
      split at h
      · cases h
        exact absurd rfl hslash
      · cases h
        exact ⟨cs, rfl, rfl⟩

theorem fillRowCount_escaped (hquote : quote = '\x22' ∨ quote = '\x27') (cs : List Char) :
    fillRowCount (Lexer.escaped quote cs ++ [quote]) =
      Lexer.escaped quote (fillRowCount cs) ++ [quote] := by
  have hbrace : quote ≠ '\x7b' := by rcases hquote with rfl | rfl <;> decide
  fun_induction fillRowCount cs with
  | case1 rest ih =>
      have hopen : Lexer.escaped quote ('\x7b' :: 'n' :: '\x7d' :: rest) =
          '\x7b' :: 'n' :: '\x7d' :: Lexer.escaped quote rest := by
        rcases hquote with rfl | rfl <;> rfl
      have hcall : Lexer.escaped quote (rowCountName.toList ++ '(' :: ')' :: fillRowCount rest) =
          rowCountName.toList ++ '(' :: ')' :: Lexer.escaped quote (fillRowCount rest) := by
        rcases hquote with rfl | rfl <;> rfl
      rw [hopen, hcall]
      simp [fillRowCount, ih]
  | case2 c rest hother ih =>
      rw [Lexer.escaped, Lexer.escaped]
      split
      · next hc =>
          have hplain : c ≠ '\x7b' := by
            rcases hc with rfl | rfl
            · exact hbrace
            · decide
          rw [List.cons_append, List.cons_append, fillRowCount_cons (by decide),
            fillRowCount_cons hplain, ih]
          rfl
      · rw [List.cons_append, fillRowCount, ih]
        · rfl
        -- quoting puts nothing between the characters of a place-holder
        · intro more hc hmore
          have hn : 'n' ≠ quote := by rcases hquote with rfl | rfl <;> decide
          have hclose : '\x7d' ≠ quote := by rcases hquote with rfl | rfl <;> decide
          obtain ⟨cs, rfl, hcs⟩ := Lexer.escaped_cons hmore hn (by decide)
          obtain ⟨cs', rfl, _⟩ := Lexer.escaped_cons hcs.symm hclose (by decide)
          exact hother cs' hc rfl
  | case3 =>
      rw [Lexer.escaped, List.nil_append, fillRowCount_cons hbrace]
      rfl

end

/-! ## What the two stand for -/

/-- A text with the call in place of the place-holder. -/
def filled (s : String) : String := String.ofList (fillRowCount s.toList)

theorem Scope.eval_literal (scope : Scope) (t : Table) {quote : Char}
    (hquote : quote = '\x22' ∨ quote = '\x27') (s : String) :
    scope.eval (Lexer.literal quote s) t = .ok (.cell (.str (filled s))) := by
  have hbrace : quote ≠ '\x7b' := by rcases hquote with rfl | rfl <;> decide
  have hfilled : String.ofList (fillRowCount (Lexer.literal quote s).toList) =
      Lexer.literal quote (filled s) := by
    rw [Lexer.literal, Lexer.literal, filled, String.toList_ofList, String.toList_ofList,
      fillRowCount_cons hbrace, fillRowCount_escaped hquote]
  rw [Scope.eval, hfilled, parse_literal hquote]
  simp only [Expr.eval]

/-- On a table of fewer rows than there are positive integers, the place-holder is the
number of rows, unless a column hides it; and a string is its text, with the call in
place of the place-holder, so that exactly the texts without it are as they were. -/
theorem Scope.eval_placeholder (scope : Scope) (t : Table) (hrows : t.rows < 2 ^ 63) :
    (t.has rowCountName = true →
      scope.eval "\x7bn\x7d" t = .error (.notCallable rowCountName)) ∧
    (t.has rowCountName = false →
      ∃ k : Int64, k.toInt = t.rows ∧ scope.eval "\x7bn\x7d" t = .ok (.cell (.int k))) ∧
    ∀ quote, quote = '\x22' ∨ quote = '\x27' → ∀ s,
      scope.eval (Lexer.literal quote s) t = .ok (.cell (.str (filled s))) ∧
        (filled s = s ↔ ¬ ['\x7b', 'n', '\x7d'] <:+: s.toList) := by
  refine ⟨fun hhas => ?_, fun hhas => ?_, fun quote hquote s => ⟨?_, ?_⟩⟩
  · rw [Scope.eval_rowCount, if_pos hhas]
  · refine ⟨Int64.ofNat t.rows, Int64.toInt_ofNat_of_lt hrows, ?_⟩
    rw [Scope.eval_rowCount, hhas]
    rfl
  · exact scope.eval_literal t hquote s
  · rw [← fillRowCount_eq_self, filled, ← String.toList_inj, String.toList_ofList]

/-- A function of the name that is set aside is not called, and a quote in a string does
not end it. -/
theorem Scope.eval_placeholder_defined :
    (∃ k : Int64, k.toInt = 2 ∧
      (Scope.empty.define "__n__" fun _ => .ok (.cell (.int 7))).eval "\x7bn\x7d"
        ⟨[("n", .ints [5, 6])], [0, 1]⟩ = .ok (.cell (.int k))) ∧
      Scope.empty.eval (Lexer.literal '\x27' "it\x27s") ⟨[], []⟩ =
        .ok (.cell (.str "it\x27s")) := by
  constructor
  · exact (eval_placeholder (Scope.empty.define "__n__" fun _ => .ok (.cell (.int 7)))
      ⟨[("n", .ints [5, 6])], [0, 1]⟩ (by decide)).2.1 (by decide)
  · obtain ⟨heval, hsame⟩ := (eval_placeholder Scope.empty ⟨[], []⟩ (by decide)).2.2 '\x27'
      (.inr rfl) "it\x27s"
    rw [heval, hsame.mpr (by decide)]

/-- The two places where the place-holder does not stand for the number of rows. -/
theorem Scope.placeholder_captured :
    Scope.empty.eval "\x7bn\x7d" ⟨[("__n__", .ints [1, 2])], [0, 1]⟩ =
        .error (.notCallable "__n__") ∧
      Scope.empty.eval (Lexer.literal '\x27' "\x7bn\x7d") ⟨[("x", .ints [1])], [0]⟩ =
        .ok (.cell (.str "__n__()")) := by
  constructor
  · rw [eval_rowCount, if_pos (by decide)]
    rfl
  · rw [eval_literal _ _ (.inr rfl)]
    rfl

end TableVerbs
