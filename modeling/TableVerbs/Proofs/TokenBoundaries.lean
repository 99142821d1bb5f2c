import Mathlib.Data.List.Basic
import TableVerbs.Proofs.Placeholder
import TableVerbs.Proofs.Success

/-!
# Where a token has to end

The reader of tokens takes as much as it can, so what a text is read as may
change when something is written behind it: `1` and `2` side by side are one
number, `<` and `=` one symbol. There are characters that no token goes on with,
among them the blanks and the closing parenthesis. Behind a text that is read
completely, a rest that begins with such a character changes nothing: the tokens
of the whole are those of the text and then those of the rest.

Strings are no exception, although they may hold any character, because a string
that has been read is closed.
-/

namespace TableVerbs

/-! ## Blanks are no letters -/

/-- Whether two lists of ranges have no code point in common. -/
def Text.Ranges.disjoint (rs ss : Text.Ranges) : Bool :=
  rs.all fun r => ss.all fun s => r.2 < s.1 || s.2 < r.1

theorem Text.Ranges.has_of_disjoint {rs ss : Text.Ranges} (h : rs.disjoint ss = true) {c : Char}
    (hc : rs.has c = true) : ss.has c = false := by
  rw [Bool.eq_false_iff]
  intro hs
  obtain ⟨r, hr, hcr⟩ := List.any_eq_true.mp hc
  obtain ⟨s, hs, hcs⟩ := List.any_eq_true.mp hs
  have hapart := List.all_eq_true.mp (List.all_eq_true.mp h r hr) s hs
  simp only [Bool.and_eq_true, Bool.or_eq_true, decide_eq_true_eq] at hcr hcs hapart
  omega

/-- A blank is neither a letter nor a numeral. -/
theorem Text.isLetterOrNumeral_of_isBlank {c : Char} (hc : isBlank c = true) :
    isLetterOrNumeral c = false := by
  by_cases h : c.toNat < 128
  · have hascii : ∀ n < 128, isBlank (Char.ofNat n) = true →
        isLetterOrNumeral (Char.ofNat n) = false := by decide +kernel
    have := hascii c.toNat h
    rw [Char.ofNat_toNat] at this
    exact this hc
  · have hletters : letterRanges.has c = false :=
      Ranges.has_of_disjoint (by decide +kernel) hc
    have hnumerals : numeralRanges.has c = false :=
      Ranges.has_of_disjoint (by decide +kernel) hc
    simp [isLetterOrNumeral, isLetter, isNumeral, h, hletters, hnumerals]

theorem Text.toNat_of_isDigit {c : Char} (h : c.isDigit = true) : c.toNat < 128 := by
  simp only [Char.isDigit, Bool.and_eq_true, decide_eq_true_eq, UInt32.le_iff_toNat_le] at h
  exact Nat.lt_of_le_of_lt h.2 (by decide)

theorem Text.isNumeral_of_isDigit {c : Char} (h : c.isDigit = true) : isNumeral c = true := by
  rw [isNumeral, if_pos (toNat_of_isDigit h), h]

namespace Lexer

/-! ## Characters that no token goes on with -/

/-- Whether a character that is part of no word goes on with a number or a symbol. -/
def joins (c : Char) : Bool := ['.', '+', '-', '*', '/', '='].contains c

/-- Whether a character ends every token before it. -/
def separates (c : Char) : Bool := !continuesWord c && !joins c

/-- Whether a text can be written behind another one without touching it. -/
def Apart (rest : List Char) : Prop := ∀ c ∈ rest.head?, separates c = true

theorem apart_cons {c : Char} {rest : List Char} (h : separates c = true) :
    Apart (c :: rest) := by
  rintro _ ⟨⟩
  exact h

theorem separates_of_isBlank {c : Char} (h : Text.isBlank c = true) : separates c = true := by
  have hword : continuesWord c = false := by
    rw [continuesWord, Text.isLetterOrNumeral_of_isBlank h, Bool.false_or, beq_eq_false_iff_ne]
    rintro rfl
    cases h
  have hjoins : joins c = false := by
    rw [joins, Bool.eq_false_iff, ne_eq, List.contains_iff_mem]
    intro hmem
    have hall : (['.', '+', '-', '*', '/', '='].all fun d => !Text.isBlank d) = true := by decide
    have hc := List.all_eq_true.mp hall c hmem
    rw [h] at hc
    cases hc
  rw [separates, hword, hjoins]
  rfl

theorem separates_ne {c d : Char} (h : separates c = true) (hd : separates d = false) : c ≠ d := by
  rintro rfl
  rw [h] at hd
  cases hd

theorem not_continuesWord {c : Char} (h : separates c = true) : continuesWord c = false := by
  simp only [separates, Bool.and_eq_true, Bool.not_eq_true'] at h
  exact h.1

/-! ## Each class of tokens -/

variable {c : Char} {rest r more : List Char} {t : Token}

/-- A rest does not get a first character that goes on with a token. -/
theorem append_ne_cons {d : Char} (hmore : Apart more) (hd : separates d = false)
    (h : ∀ tail, rest = d :: tail → False) : ∀ tail, rest ++ more = d :: tail → False := by
  intro tail heq
  cases rest with
  | nil =>
      rw [List.nil_append] at heq
      subst heq
      exact separates_ne (hmore d rfl) hd rfl
  | cons e rest =>
      cases heq
      exact h rest rfl

/-- The longer spelling of a symbol is not completed by what is written behind. -/
theorem symbol?_append (hmore : Apart more) (h : symbol? c rest = some (.ok (t, r))) :
    symbol? c (rest ++ more) = some (.ok (t, r ++ more)) := by
  unfold symbol? at h
  split at h <;> cases h
  all_goals first
  | rfl
  | next hshort =>
      rw [symbol?]
      exact append_ne_cons hmore (by decide) hshort

theorem symbol?_append_none (h : symbol? c rest = none) : symbol? c (rest ++ more) = none := by
  unfold symbol? at h
  split at h <;> cases h
  unfold symbol?
  split <;> simp_all

/-- A string is closed by its own quote. -/
theorem stringBody?_append {quote : Char} {cs s : List Char}
    (h : stringBody? quote cs = some (s, r)) :
    stringBody? quote (cs ++ more) = some (s, r ++ more) := by
  fun_induction stringBody? quote cs generalizing s r with
  | case1 => cases h
  | case2 rest =>
      cases h
      rw [List.cons_append, stringBody?.eq_def]
      exact if_pos rfl
  | case3 => cases h
  | case4 e rest hquote ih =>
      obtain ⟨⟨s', r'⟩, hbody, hs⟩ := Option.map_eq_some_iff.mp h
      cases hs
      rw [List.cons_append, List.cons_append, stringBody?.eq_def]
      simp only [if_neg hquote, if_true, ih hbody, Option.map_some]
  | case5 c rest hquote hslash ih =>
      obtain ⟨⟨s', r'⟩, hbody, hs⟩ := Option.map_eq_some_iff.mp h
      cases hs
      rw [List.cons_append, stringBody?_plain hquote hslash, ih hbody]
      rfl

/-- No number goes on with a character that separates. -/
theorem after?_of_separates {state : NumberState} (h : separates c = true) :
    state.after? c = none := by
  have hdigit : ¬(c.isDigit ∨ c = '_') := by
    rintro (hdigit | rfl)
    · have hword := not_continuesWord h
      rw [continuesWord, Bool.or_eq_false_iff, Text.isLetterOrNumeral, Bool.or_eq_false_iff,
        Text.isNumeral_of_isDigit hdigit] at hword
      cases hword.1.2
    · cases h
  have hpower : ¬(c = 'e' ∨ c = 'E') := by
    rintro (rfl | rfl) <;> cases h
  have hsign : ¬((c = '+' ∨ c = '-') ∧ state = .exponent) := by
    rintro ⟨rfl | rfl, _⟩ <;> cases h
  rw [NumberState.after?, if_neg hdigit, if_neg (separates_ne h (by decide)), if_neg hpower,
    if_neg hsign]

theorem numberBody_append {state : NumberState} (hmore : Apart more) (cs : List Char) :
    numberBody state (cs ++ more) =
      ((numberBody state cs).1, (numberBody state cs).2.1, (numberBody state cs).2.2 ++ more) := by
  fun_induction numberBody state cs with
  | case1 state =>
      cases more with
      | nil => rfl
      | cons c more => rw [List.nil_append, numberBody, after?_of_separates (hmore c rfl)]
  | case2 state c rest hstop => rw [List.cons_append, numberBody, hstop]
  | case3 state c rest state' hnext body isFloat r hbody ih =>
      rw [hbody] at ih
      rw [List.cons_append, numberBody, hnext]
      simp only [ih]

theorem takeWhile_word_append (hmore : Apart more) (cs : List Char) :
    (cs ++ more).takeWhile continuesWord = cs.takeWhile continuesWord := by
  induction cs with
  | nil =>
      cases more with
      | nil => rfl
      | cons c more =>
          have hc := not_continuesWord (hmore c rfl)
          rw [List.nil_append, List.takeWhile_cons_of_neg (by rw [hc]; exact Bool.false_ne_true)]
          rfl
  | cons d cs ih =>
      rw [List.cons_append, List.takeWhile_cons, List.takeWhile_cons, ih]

theorem dropWhile_word_append (hmore : Apart more) (cs : List Char) :
    (cs ++ more).dropWhile continuesWord = cs.dropWhile continuesWord ++ more := by
  induction cs with
  | nil =>
      cases more with
      | nil => rfl
      | cons c more =>
          have hc := not_continuesWord (hmore c rfl)
          rw [List.nil_append, List.dropWhile_cons_of_neg (by rw [hc]; exact Bool.false_ne_true)]
          rfl
  | cons d cs ih =>
      rw [List.cons_append, List.dropWhile_cons, List.dropWhile_cons, ih]
      split <;> rfl

/-- A token reaches as far as before, whatever is written behind the text. -/
theorem next_append (hmore : Apart more) (h : next c rest = .ok (t, r)) :
    next c (rest ++ more) = .ok (t, r ++ more) := by
  rw [next] at h
  split at h
  next result hsymbol =>
    subst h
    rw [next, symbol?_append hmore hsymbol]
  next hsymbol =>
    rw [next, symbol?_append_none hsymbol]
    simp only
    split at h
    · next hquote =>
        rw [if_pos hquote]
        split at h <;> cases h
        next s hbody => rw [stringBody?_append hbody]
    next hquote =>
      rw [if_neg hquote]
      split at h
      · next hnumber =>
          rw [if_pos hnumber, ← List.cons_append, numberBody_append hmore]
          generalize numberBody .whole (c :: rest) = number at h ⊢
          obtain ⟨k, hk, heq⟩ := map_eq_ok.mp h
          cases heq
          exact map_eq_ok.mpr ⟨t, hk, rfl⟩
      next hnumber =>
        rw [if_neg hnumber]
        split at h <;> cases h
        next hword =>
          rw [if_pos hword, ← List.cons_append, takeWhile_word_append hmore,
            dropWhile_word_append hmore]

theorem tokens_blank (h : Text.isBlank c = true) : tokens (c :: rest) = tokens rest := by
  rw [tokens, if_pos h]

/-- The tokens of a text and then those of what is written behind it. -/
theorem tokens_append {cs : List Char} {ts : List Token} (hmore : Apart more)
    (h : tokens cs = .ok ts) : tokens (cs ++ more) = (tokens more).map (ts ++ ·) := by
  fun_induction tokens cs generalizing ts with
  | case1 =>
      cases h
      rw [List.nil_append]
      cases tokens more <;> rfl
  | case2 c rest hblank ih =>
      rw [List.cons_append, tokens_blank hblank]
      exact ih h
  | case3 => cases h
  | case4 => cases h
  | case5 c rest hblank t r hnext us hus ih =>
      cases h
      rw [List.cons_append, tokens, if_neg hblank]
      split
      next hnext' =>
        rw [next_append hmore hnext] at hnext'
        cases hnext'
      next hnext' =>
        rw [next_append hmore hnext] at hnext'
        cases hnext'
        rw [ih hus]
        cases tokens more <;> rfl

end Lexer

end TableVerbs
