import TableVerbs.Pattern.Fold
import TableVerbs.Pattern.Script
import TableVerbs.Text.Blank
import TableVerbs.Text.Category
import TableVerbs.Text.Letter

/-!
# Named sets of characters

A pattern can name a set instead of listing it: digits, blanks and word
characters by one letter; the classic sets of ASCII by a word; and general
categories, scripts and a few more properties of the Unicode standard by name.
Names of properties are read loosely: case, blanks, hyphens and underscores do
not count, nor does `is` in front.
-/

namespace TableVerbs.Pattern

/-- Decimal digits of any script. -/
def digits : CharSet := fun c =>
  if c.toNat < 128 then c.isDigit else Text.category c == "Nd"

/-- The characters of words: letters, marks, decimal digits, connecting
punctuation and the two joining controls. -/
def wordChars : CharSet := fun c =>
  if c.toNat < 128 then c.isAlphanum || c == '_'
  else
    Text.isLetter c || ["Mn", "Mc", "Me", "Nd", "Pc"].contains (Text.category c) ||
      c.toNat == 0x200C || c.toNat == 0x200D

/-- The characters of words in ASCII. -/
def asciiWordChars : CharSet := fun c => c.isAlphanum || c == '_'

/-- Blanks in ASCII. -/
def asciiBlanks : CharSet := fun c => c == ' ' || (9 ≤ c.toNat && c.toNat ≤ 13)

/-- Whether a character lies between two code points. -/
def between (low high : Nat) : CharSet := fun c => low ≤ c.toNat && c.toNat ≤ high

/-- The set of ASCII characters of a classic name. -/
def asciiClass? (name : String) : Option CharSet :=
  match name with
  | "alnum" => some Char.isAlphanum
  | "alpha" => some Char.isAlpha
  | "ascii" => some (between 0 127)
  | "blank" => some fun c => c == ' ' || c == '\t'
  | "cntrl" => some fun c => between 0 31 c || c.toNat == 127
  | "digit" => some Char.isDigit
  | "graph" => some (between 33 126)
  | "lower" => some Char.isLower
  | "print" => some (between 32 126)
  | "punct" => some fun c => between 33 126 c && !c.isAlphanum
  | "space" => some asciiBlanks
  | "upper" => some Char.isUpper
  | "word" => some asciiWordChars
  | "xdigit" => some fun c => c.isDigit || between 65 70 c || between 97 102 c
  | _ => none

/-- The general categories that a name stands for. -/
def categoriesOf? (name : String) : Option (List String) :=
  match name with
  | "c" | "other" => some ["Cc", "Cf", "Cn", "Co", "Cs"]
  | "cc" | "control" | "cntrl" => some ["Cc"]
  | "cf" | "format" => some ["Cf"]
  | "cn" | "unassigned" => some ["Cn"]
  | "co" | "privateuse" => some ["Co"]
  | "cs" | "surrogate" => some ["Cs"]
  | "l" | "letter" => some ["Lu", "Ll", "Lt", "Lm", "Lo"]
  | "lc" | "casedletter" => some ["Lu", "Ll", "Lt"]
  | "ll" | "lowercaseletter" => some ["Ll"]
  | "lm" | "modifierletter" => some ["Lm"]
  | "lo" | "otherletter" => some ["Lo"]
  | "lt" | "titlecaseletter" => some ["Lt"]
  | "lu" | "uppercaseletter" => some ["Lu"]
  | "m" | "mark" | "combiningmark" => some ["Mn", "Mc", "Me"]
  | "mc" | "spacingmark" => some ["Mc"]
  | "me" | "enclosingmark" => some ["Me"]
  | "mn" | "nonspacingmark" => some ["Mn"]
  | "n" | "number" => some ["Nd", "Nl", "No"]
  | "nd" | "decimalnumber" | "digit" => some ["Nd"]
  | "nl" | "letternumber" => some ["Nl"]
  | "no" | "othernumber" => some ["No"]
  | "p" | "punctuation" | "punct" => some ["Pc", "Pd", "Ps", "Pe", "Pi", "Pf", "Po"]
  | "pc" | "connectorpunctuation" => some ["Pc"]
  | "pd" | "dashpunctuation" => some ["Pd"]
  | "pe" | "closepunctuation" => some ["Pe"]
  | "pf" | "finalpunctuation" => some ["Pf"]
  | "pi" | "initialpunctuation" => some ["Pi"]
  | "po" | "otherpunctuation" => some ["Po"]
  | "ps" | "openpunctuation" => some ["Ps"]
  | "s" | "symbol" => some ["Sm", "Sc", "Sk", "So"]
  | "sc" | "currencysymbol" => some ["Sc"]
  | "sk" | "modifiersymbol" => some ["Sk"]
  | "sm" | "mathsymbol" => some ["Sm"]
  | "so" | "othersymbol" => some ["So"]
  | "z" | "separator" => some ["Zs", "Zl", "Zp"]
  | "zl" | "lineseparator" => some ["Zl"]
  | "zp" | "paragraphseparator" => some ["Zp"]
  | "zs" | "spaceseparator" => some ["Zs"]
  | _ => none

/-- The characters of a general category, or of one of the three sets that are
named alongside. -/
def generalCategory? (name : String) : Option CharSet :=
  match name with
  | "any" => some fun _ => true
  | "assigned" => some fun c => Text.category c != "Cn"
  | "ascii" => some (between 0 127)
  | _ => (categoriesOf? name).map fun names c => names.contains (Text.category c)

/-- Lower-case characters that are not lower-case letters. -/
def otherLowercase : String :=
  "170 1 15 1 501 9 7 2 30 5 96 1 52 1 3457 1 3119 63 13 1 34 37 689 1 13 1 16 13 211 " ++
  "16 848 26 1938 2 31262 2 210 1 128 4 3 2 866 4 9 1 23574 1 2 3 1 42 1 9 55413 62"

/-- Upper-case characters that are not upper-case letters. -/
def otherUppercase : String := "8544 16 838 26 117856 26 6 26 6 26"

/-- Further properties: their names and their characters. -/
def properties : List (List String × String) :=
  [(["cased"],
    "65 26 6 26 47 1 10 1 4 1 5 23 1 31 1 195 1 4 4 208 2 35 7 2 30 5 96 1 42 4 2 2 2 4 1 " ++
    "1 6 1 1 3 1 1 1 20 1 83 1 139 8 166 1 38 9 41 2839 38 1 1 5 1 2 43 1 4 672 86 2 6 " ++
    "2178 11 5 43 2 3 64 192 64 278 2 6 2 38 2 6 2 8 1 1 1 1 1 1 1 31 2 53 1 7 1 1 3 3 1 " ++
    "7 3 4 2 6 4 13 5 3 1 7 116 1 13 1 16 13 101 1 4 1 2 10 1 1 3 5 6 1 1 1 1 1 1 4 1 6 4 " ++
    "1 2 4 5 5 4 1 17 32 3 2 817 52 1814 229 6 4 3 2 12 38 1 1 5 1 30994 46 18 30 132 102 " ++
    "3 4 1 77 20 6 1 3 821 43 1 14 6 80 20288 7 12 5 1033 26 6 26 1189 80 96 36 4 36 116 " ++
    "11 1 15 1 7 1 2 1 11 1 15 1 7 1 2 451 1 2 3 1 42 1 9 1221 51 13 51 93 22 10 22 2842 " ++
    "64 21856 64 32 25 2 25 25900 85 1 71 1 2 2 1 2 2 2 4 1 12 1 1 1 7 1 65 1 4 2 8 1 7 1 " ++
    "28 1 4 1 5 1 1 3 7 1 340 2 25 1 25 1 31 1 25 1 31 1 25 1 31 1 25 1 31 1 25 1 8 1844 " ++
    "10 1 20 6 6 261 62 2194 68 2028 26 6 26 6 26"),
   (["math"],
    "43 1 16 3 31 1 29 1 1 1 45 1 4 1 37 1 31 1 728 3 2 1 26 2 2 3 527 3 6669 1 27 3 11 1 " ++
    "3 1 13 1 14 4 21 5 11 5 65 13 4 1 3 2 4 5 18 1 4 1 2 10 1 1 2 6 6 1 3 2 2 2 1 3 1 6 " ++
    "3 14 1 1 68 24 1 6 1 2 4 2 4 32 1 1 6 2 14 268 8 4 20 2 90 1 30 27 1 1 24 1 11 7 445 " ++
    "2 12 10 4 6 4 2 2 2 3 5 14 1 1 1 2 6 11 8 5 2 57 1 1 1 29 4 9 3 336 64 256 512 48 21 " ++
    "2 6 53212 1 823 6 1 1 162 1 16 3 29 1 1 1 29 1 1 1 131 1 6 4 3489 2 49504 1 1295 85 " ++
    "1 71 1 2 2 1 2 2 2 4 1 12 1 1 1 7 1 65 1 4 2 8 1 7 1 28 1 4 1 5 1 1 3 7 1 340 2 292 " ++
    "2 50 5632 4 1 27 1 2 1 1 2 1 1 10 1 4 1 1 1 1 6 1 4 1 1 1 1 1 1 3 1 2 1 1 2 1 1 1 1 " ++
    "1 1 1 1 1 1 2 1 1 2 4 1 7 1 4 1 4 1 1 1 10 1 17 5 3 1 5 1 17 52 2 2526 9"),
   (["emoji"],
    "35 1 6 1 5 10 111 1 4 1 8077 1 12 1 216 1 22 1 90 6 15 2 367 2 12 1 166 1 25 11 4 3 " ++
    "199 1 231 2 10 1 9 1 58 4 1 5 9 1 2 1 2 2 2 1 4 1 2 1 1 2 2 1 3 1 3 2 8 3 5 1 1 1 5 " ++
    "12 11 2 2 1 1 2 1 1 18 1 2 2 18 6 1 1 1 2 3 2 5 1 2 2 4 2 11 2 5 2 2 1 5 2 1 1 1 2 " ++
    "20 2 5 6 1 4 2 1 4 1 2 1 2 6 1 1 2 1 1 1 1 1 6 1 3 1 6 1 10 2 15 1 2 1 4 1 1 1 4 3 1 " ++
    "1 11 2 48 3 9 1 14 1 14 1 372 2 463 3 19 2 51 1 4 1 1242 1 12 1 601 1 1 1 114026 1 " ++
    "202 1 160 2 12 2 14 1 2 10 75 26 1 2 23 1 20 1 2 9 21 2 174 34 2 112 2 2 1 3 2 83 2 " ++
    "3 1 263 1 63 11 6 1 24 7 2 2 8 12 1 2 4 2 1 4 2 13 2 2 1 8 2 9 1 5 3 12 3 8 3 2 1 1 " ++
    "1 4 1 6 1 3 1 6 86 48 70 5 8 2 4 3 10 3 1 1 2 3 1 2 10 227 12 4 1 283 47 1 10 1 185 " ++
    "112 13 3 11 3 57 1 1 4 16 2 12 4 10"),
   (["dash"],
    "45 1 1372 1 51 1 3649 1 1029 1 2057 6 61 1 39 1 15 1 390 1 3076 1 2 1 31 2 4 1 28 1 " ++
    "446 1 19 1 111 1 52624 2 37 1 10 1 169 1 3680 1 318 1"),
   (["hexdigit", "hex"],
    "48 10 7 6 26 6 65193 10 7 6 26 6"),
   (["ideographic", "ideo"],
    "12294 2 25 9 14 3 965 6592 64 20992 22784 366 2 106 29962 1 13 5 9 7382 41 32 97 115 " ++
    "9085 396 19716 42720 32 4382 2 5774 2 7473 15 622 2466 542 1506 4939 5 8490"),
   (["diacritic", "dia"],
    "94 1 1 1 71 1 6 1 4 1 2 2 503 159 1 8 5 6 17 2 4 1 9 2 253 5 209 1 55 45 1 1 1 2 1 2 " ++
    "1 1 131 8 4 2 134 2 4 2 3 3 67 27 91 11 58 11 34 2 126 8 41 10 16 28 61 1 16 1 3 4 " ++
    "28 1 74 1 16 1 110 1 16 1 110 1 16 1 47 3 60 1 16 1 7 1 119 1 110 1 16 1 110 1 16 1 " ++
    "109 2 16 1 124 1 111 1 12 6 1 1 107 1 13 5 75 2 27 1 1 1 1 1 4 2 66 3 1 2 62 1 112 1 " ++
    "1 2 40 2 4 5 25 7 1 1 10 2 705 3 948 2 30 1 148 11 9 1 347 3 292 1 20 8 2 1 48 15 2 " ++
    "11 3 15 2 12 72 1 15 1 38 9 54 2 58 1 11 2 66 2 64 6 82 25 4 1 6 1 2 3 50 63 48 36 5 " ++
    "12 37 11 445 1 1 3 11 3 13 3 13 3 13 2 3312 3 317 1 506 6 105 4 95 1 30066 1 12 2 1 " ++
    "1 28 2 82 2 14 34 102 3 102 1 6 2 12 1 37 1 151 1 27 18 57 4 36 1 95 1 12 1 36 1 149 " ++
    "3 65 4 51 1 100 5 9 3 128 2 20272 1 769 16 270 1 1 1 47 1 45 2 67 1 764 1 1183 6 1 " ++
    "42 1 9 637 3 4 1 165 2 571 6 38 1 26 5 396 1 2 3 70 11 49 4 192 1 41 1 72 2 120 2 62 " ++
    "1 76 1 9 3 104 2 178 2 80 2 16 1 24 7 3 5 89 3 1 2 13 2 95 1 3 1 123 2 251 2 126 1 " ++
    "118 2 115 1 269 2 258 2 4 1 156 1 83 1 18 1 81 1 421 1 258 1 1 2 81 1 65 1 359 2 23 " ++
    "1 5356 15 11481 1 2496 5 59 7 564 2 546 17 80 2 16382 4 1 7 1 2 7937 46 2 23 544 3 3 " ++
    "6 8 8 2 7 30 4 3714 62 194 7 375 1 61 4 766 2 736 7 109 3 1 3"),
   (["extender", "ext"],
    "183 1 536 2 878 1 441 1 630 1 137 1 89 1 752 1 127 1 2371 1 56 1 611 1 398 1 68 1 " ++
    "5001 1 43 5 103 2 93 3 28438 1 1526 1 962 1 22 1 137 1 108 1 21 2 21627 1 2064 2 " ++
    "1483 1 27 1 4 1 1223 1 293 1 116 2 498 3 1231 1 832 1 19816 2 1180 2 1 1 14 2 29000 " ++
    "2 1201 1 852 3")]

/-- The characters of a property that holds or does not. -/
def property? (name : String) : Option CharSet :=
  match name with
  | "alphabetic" | "alpha" => some Text.isLetter
  | "whitespace" | "space" | "wspace" => some Text.isBlank
  | "lowercase" | "lower" =>
    some fun c => Text.category c == "Ll" || (rangesOf otherLowercase).has c
  | "uppercase" | "upper" =>
    some fun c => Text.category c == "Lu" || (rangesOf otherUppercase).has c
  | "asciihexdigit" | "ahex" => asciiClass? "xdigit"
  | _ =>
    (properties.find? fun p => p.1.contains name).map fun p => (rangesOf p.2).has

/-- A name as it is compared. -/
def looseName (name : String) : String :=
  let plain := name.toList.filter fun c => c != ' ' && c != '_' && c != '-' && c.toNat < 128
  match plain.map Char.toLower with
  | ['i', 's', 'c'] => "isc"
  | 'i' :: 's' :: rest => String.ofList rest
  | cs => String.ofList cs

/-- The characters of a property given by its name alone. -/
def named? (name : String) : Option CharSet :=
  let name := looseName name
  let asProperty := if ["cf", "sc", "lc"].contains name then none else property? name
  (asProperty.or (generalCategory? name)).or ((script? name).map fun r => r.has)

/-- The characters for which a property has a value. -/
def withValue? (name value : String) : Option CharSet :=
  let value := looseName value
  match looseName name with
  | "gc" | "generalcategory" => generalCategory? value
  | "sc" | "script" | "scx" | "scriptextensions" => (script? value).map fun r => r.has
  | _ => none

end TableVerbs.Pattern
