import Mathlib.Data.List.TakeWhile
import TableVerbs.Proofs.NumberTexts
import TableVerbs.Proofs.TokenBoundaries

/-!
# Ways to write tokens

Symbols and keywords have one spelling or two, a name is written as it is, and a
string stands between quotes of either kind with a backslash before each quote of
that kind and each backslash. An integer is a run of digits. A float has a point
between digits, and which float it is is a question of reading its text as a
number.

Any of these alone is read as its token. Tokens in a row are kept apart by
blanks, and since no token goes on with a blank, reading the row is reading its
members.
-/

namespace TableVerbs

/-! ## The spellings -/

/-- The spellings of symbols and keywords; other tokens have none of this kind. -/
def Token.fixed : Token → List String
  | .plus => ["+"]
  | .minus => ["-"]
  | .star => ["*"]
  | .slash => ["/"]
  | .doubleSlash => ["//"]
  | .percent => ["%"]
  | .power => ["**"]
  | .equal => ["=="]
  | .notEqual => ["!="]
  | .greater => [">"]
  | .less => ["<"]
  | .greaterEqual => [">="]
  | .lessEqual => ["<="]
  | .and => ["&", "and"]
  | .or => ["|", "or"]
  | .not => ["~", "not"]
  | .leftParen => ["("]
  | .rightParen => [")"]
  | .comma => [","]
  | .bool true => ["True", "true"]
  | .bool false => ["False", "false"]
  | .int _ | .float _ | .str _ | .name _ => []

/-- The words that are no names. -/
def Lexer.keywords : List String := ["True", "true", "False", "false", "and", "or", "not"]

/-- A letter or an underscore, then letters, numerals and underscores, and no keyword. -/
def Lexer.IsName (s : String) : Prop :=
  (∃ c rest, s.toList = c :: rest ∧ startsWord c = true ∧ ∀ d ∈ rest, continuesWord d = true) ∧
    s ∉ keywords

/-- The ways to write a token. -/
inductive Token.Spelling : Token → List Char → Prop
  | fixed {t : Token} {s : String} : s ∈ t.fixed → Spelling t s.toList
  | int {n : Int64} {ds : List Char} :
      Decimal.Run ds → (Decimal.digitsValue ds : Int) = n.toInt → Spelling (.int n) ds
  | float {x : Float} {cs : List Char} :
      Decimal.Pointed cs → Decimal.readFloat? cs = some x → Spelling (.float x) cs
  | str {quote : Char} (s : String) :
      quote = '\x22' ∨ quote = '\x27' → Spelling (.str s) (Lexer.literal quote s).toList
  | name {s : String} : Lexer.IsName s → Spelling (.name s) s.toList

/-- Texts of tokens with blanks between them, and perhaps before and after. -/
inductive Token.Spaced : List Token → List Char → Prop
  | nil : Spaced [] []
  | blank {c : Char} {ts : List Token} {cs : List Char} :
      Text.isBlank c = true → Spaced ts cs → Spaced ts (c :: cs)
  | token {t : Token} {ts : List Token} {w cs : List Char} :
      t.Spelling w → (∀ c ∈ cs.head?, Text.isBlank c = true) → Spaced ts cs →
      Spaced (t :: ts) (w ++ cs)

theorem Token.Spaced.token_blank {t : Token} {ts : List Token} {w cs : List Char} {c : Char}
    (hspelling : t.Spelling w) (hblank : Text.isBlank c = true) (hrest : Token.Spaced ts cs) :
    Token.Spaced (t :: ts) (w ++ c :: cs) := by
  refine .token hspelling ?_ (.blank hblank hrest)
  rintro _ ⟨⟩
  exact hblank

namespace Lexer

/-! ## Reading one token -/

theorem tokens_single {c : Char} {rest : List Char} {t : Token} (hblank : Text.isBlank c = false)
    (hnext : next c rest = .ok (t, [])) : tokens (c :: rest) = .ok [t] :=
  tokens_cons hblank hnext tokens_nil

theorem isBlank_of_word {c : Char} (h : continuesWord c = true) : Text.isBlank c = false := by
  rw [Bool.eq_false_iff]
  intro hblank
  rw [not_continuesWord (separates_of_isBlank hblank)] at h
  cases h

theorem tokens_fixed {t : Token} {s : String} (h : s ∈ t.fixed) :
    tokens s.toList = .ok [t] := by
  have hone : ∀ c rest, s.toList = c :: rest → Text.isBlank c = false →
      next c rest = .ok (t, []) → tokens s.toList = .ok [t] :=
    fun c rest hs hblank hnext => hs ▸ tokens_single hblank hnext
  unfold Token.fixed at h
  split at h <;> simp only [List.mem_cons, List.not_mem_nil, or_false] at h
  case h_14 | h_15 | h_16 | h_20 | h_21 =>
    rcases h with rfl | rfl <;> exact hone _ _ rfl (by decide) rfl
  all_goals
    subst h
    exact hone _ _ rfl (by decide) rfl

theorem continuesWord_of_isDigit {c : Char} (h : c.isDigit = true) : continuesWord c = true := by
  rw [continuesWord, Text.isLetterOrNumeral, Text.isNumeral_of_isDigit h, Bool.or_true,
    Bool.true_or]

/-- Neither a digit nor the start of a word is a symbol or a quote. -/
theorem symbol?_of_word {c : Char} (h : continuesWord c = true) (rest : List Char) :
    symbol? c rest = none := by
  unfold symbol?
  split <;> first | rfl | exact absurd h (by decide)

theorem not_quote_of_word {c : Char} (h : continuesWord c = true) :
    ¬(c = '\x22' ∨ c = '\x27') := by
  rintro (rfl | rfl) <;> exact absurd h (by decide)

/-! ### Numbers -/

/-- Digits go on with a number, and leave its state as it is. -/
theorem numberBody_digits (state : NumberState) (hstate : state ≠ .exponent) {ds : List Char}
    (hds : ∀ c ∈ ds, c.isDigit = true) (rest : List Char) :
    numberBody state (ds ++ rest) =
      (ds ++ (numberBody state rest).1, (numberBody state rest).2) := by
  induction ds with
  | nil => rfl
  | cons d ds ih =>
      obtain ⟨hd, hds⟩ := List.forall_mem_cons.mp hds
      have hafter : state.after? d = some state := by
        rw [NumberState.after?, if_pos (.inl hd)]
        cases state with
        | whole => rfl
        | float => rfl
        | exponent => exact absurd rfl hstate
      have hunderscore : d ≠ '_' := by
        rintro rfl
        cases hd
      rw [List.cons_append, numberBody, hafter]
      simp only [ih hds, if_neg hunderscore, List.cons_append]

theorem numberBody_run (state : NumberState) (hstate : state ≠ .exponent) {ds : List Char}
    (hds : ∀ c ∈ ds, c.isDigit = true) :
    numberBody state ds = (ds, state != .whole, []) := by
  have hbody := numberBody_digits state hstate hds []
  rw [List.append_nil] at hbody
  rw [hbody, numberBody, List.append_nil]

/-- A power of ten belongs to the number. -/
theorem numberBody_power {cs : List Char} (h : Decimal.Power cs) :
    numberBody .float cs = (cs, true, []) := by
  cases h with
  | none => rfl
  | @some e sign ds he hsign hds =>
      have hexponent : NumberState.float.after? e = some .exponent := by
        rcases he with rfl | rfl <;> rfl
      have hunderscore : e ≠ '_' := by rcases he with rfl | rfl <;> decide
      have hdigits : numberBody .float ds = (ds, true, []) := numberBody_run _ (by decide) hds.2
      have hsigned : numberBody .exponent (sign ++ ds) = (sign ++ ds, true, []) := by
        simp only [List.mem_cons, List.not_mem_nil, or_false] at hsign
        rcases hsign with rfl | rfl | rfl
        · -- without a sign the first digit leaves the state that a sign leaves
          cases ds with
          | nil => exact absurd rfl hds.1
          | cons d ds =>
              have hd := hds.2 d List.mem_cons_self
              have hfirst : NumberState.exponent.after? d = NumberState.float.after? d := by
                rw [NumberState.after?, NumberState.after?, if_pos (Or.inl hd),
                  if_pos (Or.inl hd)]
                rfl
              refine Eq.trans ?_ hdigits
              rw [List.nil_append, numberBody, numberBody, hfirst, NumberState.after?,
                if_pos (Or.inl hd)]
        · rw [List.singleton_append, numberBody]
          simp only [show NumberState.exponent.after? '+' = some .float from rfl, hdigits]
          rfl
        · rw [List.singleton_append, numberBody]
          simp only [show NumberState.exponent.after? '-' = some .float from rfl, hdigits]
          rfl
      rw [numberBody, hexponent]
      simp only [hsigned, if_neg hunderscore]

/-- A number that the whole text belongs to. -/
theorem tokens_number {cs : List Char} {t : Token} {isFloat : Bool}
    (hcs : ∃ d ds, cs = d :: ds ∧ d.isDigit = true)
    (hbody : numberBody .whole cs = (cs, isFloat, []))
    (ht : numberToken isFloat cs = .ok t) : tokens cs = .ok [t] := by
  obtain ⟨d, ds, rfl, hd⟩ := hcs
  have hword := continuesWord_of_isDigit hd
  refine tokens_single (isBlank_of_word hword) ?_
  rw [next, symbol?_of_word hword]
  simp only [if_neg (not_quote_of_word hword), if_pos (Or.inl hd)]
  rw [hbody]
  simp only [ht]
  rfl

theorem tokens_int {n : Int64} {ds : List Char} (hds : Decimal.Run ds)
    (hn : (Decimal.digitsValue ds : Int) = n.toInt) : tokens ds = .ok [.int n] := by
  have htoken : numberToken false ds = .ok (.int n) := by
    have hread : Decimal.readInt? ds = some n := by
      rw [Decimal.readInt?_run hds, Number.narrow?_eq_some, hn]
    rw [numberToken, if_neg Bool.false_ne_true, hread]
  have hhead := hds.exists_cons []
  rw [List.append_nil] at hhead
  exact tokens_number hhead (numberBody_run _ (by decide) hds.2) htoken

theorem tokens_float {x : Float} {cs : List Char} (h : Decimal.Pointed cs)
    (hx : Decimal.readFloat? cs = some x) : tokens cs = .ok [.float x] := by
  obtain ⟨whole, places, power, hwhole, hplaces, hpower, rfl⟩ := h
  have hbody : numberBody .whole (whole ++ '.' :: (places ++ power)) =
      (whole ++ '.' :: (places ++ power), true, []) := by
    rw [numberBody_digits _ (by decide) hwhole.2]
    have hpoint : NumberState.whole.after? '.' = some .float := rfl
    rw [numberBody, hpoint]
    simp only [numberBody_digits .float (by decide) hplaces.2,
      numberBody_power hpower]
    rfl
  refine tokens_number (hwhole.exists_cons _) hbody ?_
  rw [numberToken, if_pos rfl, hx]

/-! ### Names and strings -/

theorem wordToken_of_not_keyword {s : String} (h : s ∉ keywords) : wordToken s = .name s := by
  unfold wordToken
  split <;> first | rfl | exact absurd (by decide) h

theorem not_startsWord_of_isDigit {c : Char} (h : c.isDigit = true) : startsWord c = false := by
  have hascii : ∀ n < 128, (Char.ofNat n).isDigit = true → startsWord (Char.ofNat n) = false := by
    decide +kernel
  have hc := hascii c.toNat (Text.toNat_of_isDigit h)
  rw [Char.ofNat_toNat] at hc
  exact hc h

theorem tokens_name {s : String} (h : IsName s) : tokens s.toList = .ok [.name s] := by
  obtain ⟨⟨c, rest, hs, hc, hrest⟩, hkeyword⟩ := h
  have hword : continuesWord c = true := by
    simp only [startsWord, Bool.or_eq_true] at hc
    simp only [continuesWord, Text.isLetterOrNumeral, Bool.or_eq_true]
    exact hc.imp Or.inl id
  have hall : ∀ d ∈ c :: rest, continuesWord d = true := List.forall_mem_cons.mpr ⟨hword, hrest⟩
  have hnumber : ¬(c.isDigit ∨ c = '.') := by
    rintro (hdigit | rfl)
    · rw [not_startsWord_of_isDigit hdigit] at hc
      cases hc
    · cases hc
  have htoken : wordToken (String.ofList (c :: rest)) = .name s := by
    rw [← hs, String.ofList_toList, wordToken_of_not_keyword hkeyword]
  rw [hs]
  refine tokens_single (isBlank_of_word hword) ?_
  rw [next, symbol?_of_word hword]
  simp only [if_neg (not_quote_of_word hword), if_neg hnumber, if_pos hc]
  rw [List.takeWhile_eq_self_iff.mpr hall, List.dropWhile_eq_nil_iff.mpr hall, htoken]

/-- Every spelling of a token is read as the token. -/
theorem tokens_spelling {t : Token} {w : List Char} (h : t.Spelling w) : tokens w = .ok [t] := by
  cases h with
  | fixed hs => exact tokens_fixed hs
  | int hds hn => exact tokens_int hds hn
  | float hpointed hx => exact tokens_float hpointed hx
  | str s hquote => exact tokenize_literal hquote s
  | name hs => exact tokens_name hs

/-! ## Reading tokens in a row -/

theorem apart_of_blank {cs : List Char} (h : ∀ c ∈ cs.head?, Text.isBlank c = true) : Apart cs :=
  fun c hc => separates_of_isBlank (h c hc)

theorem tokens_spaced {ts : List Token} {cs : List Char} (h : Token.Spaced ts cs) :
    tokens cs = .ok ts := by
  induction h with
  | nil => exact tokens_nil
  | blank hblank _ ih => rw [tokens_blank hblank, ih]
  | token hspelling hblank _ ih =>
      rw [tokens_append (apart_of_blank hblank) (tokens_spelling hspelling), ih]
      rfl

end Lexer

theorem Token.spelling_ofNat {n : Nat} (h : n < 2 ^ 63) :
    (Token.int (Int64.ofNat n)).Spelling (toString n).toList := by
  rw [Nat.toString_eq_ofList_toDigits, String.toList_ofList]
  refine .int (Decimal.run_digitChars n) ?_
  rw [← Decimal.digitChars, Decimal.digitsValue_digitChars, Int64.toInt_ofNat_of_lt h]

/-- Reading tokens undoes writing them. Tokens that are written in any of their spellings,
with blanks between them, are read as these tokens. Among the spellings of integers are
the texts of all that are not negative, and every number with a point spells the float
that it is read as. -/
theorem tokenize_spaced :
    (∀ {ts : List Token} {cs : List Char}, Token.Spaced ts cs →
      tokenize (String.ofList cs) = .ok ts) ∧
    (∀ n < 2 ^ 63, (Token.int (Int64.ofNat n)).Spelling (toString n).toList) ∧
    ∀ w, Decimal.Pointed w →
      ∃ x, Decimal.readFloat? w = some x ∧ (Token.float x).Spelling w := by
  refine ⟨fun {ts cs} h => ?_, fun n hn => Token.spelling_ofNat hn, fun w hw => ?_⟩
  · rw [tokenize, String.toList_ofList]
    exact Lexer.tokens_spaced h
  · obtain ⟨x, hx⟩ := Decimal.readFloat?_pointed hw
    exact ⟨x, hx, .float hw hx⟩

/-- A name, a comparison, a quarter and a quoted quote. -/
theorem tokenize_spaced_quarter :
    tokenize "x1 <= 2.5e-1\tand \x27it\\\x27s\x27" =
      .ok [.name "x1", .lessEqual, .float 0.25, .and, .str "it\x27s"] := by
  have hstr : Token.Spaced [.str "it\x27s"]
      ((Lexer.literal '\x27' "it\x27s").toList ++ []) :=
    .token (.str "it\x27s" (.inr rfl)) (fun _ h => by cases h) .nil
  have hand : Token.Spaced [.and, .str "it\x27s"] ("and".toList ++ ' ' :: _) :=
    .token_blank (.fixed (by decide)) (by decide) hstr
  have hquarter : Decimal.Pointed "2.5e-1".toList :=
    ⟨['2'], ['5'], ['e', '-', '1'], by decide, by decide,
      @Decimal.Power.some 'e' ['-'] ['1'] (.inl rfl) (by decide) (by decide), rfl⟩
  have hfloat : Token.Spaced [.float 0.25, .and, .str "it\x27s"]
      ("2.5e-1".toList ++ '\t' :: _) :=
    .token_blank (.float hquarter (by decide +kernel)) (by decide) hand
  have hless : Token.Spaced [.lessEqual, .float 0.25, .and, .str "it\x27s"]
      ("<=".toList ++ ' ' :: _) :=
    .token_blank (.fixed (by decide)) (by decide) hfloat
  have hx1 : Lexer.IsName "x1" :=
    ⟨⟨'x', ['1'], rfl, by decide, List.forall_mem_singleton.mpr (by decide)⟩, by decide⟩
  have hname : Token.Spaced [.name "x1", .lessEqual, .float 0.25, .and, .str "it\x27s"]
      ("x1".toList ++ ' ' :: _) :=
    .token_blank (.name hx1) (by decide) hless
  exact tokenize_spaced.1 hname

end TableVerbs
