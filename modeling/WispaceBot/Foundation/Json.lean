import Mathlib

/-!
# JSON texts

Documents whose numbers are integers, the text that `JSON.stringify` writes for them, and a reader
of such texts.  `parse_write` is the round trip.  The reader is a recursive descent with fuel, where
every call consumes a character.
-/

inductive Json
  | null
  | bool (b : Bool)
  | num (n : ℤ)
  | str (s : String)
  | arr (elems : List Json)
  | obj (fields : List (String × Json))

namespace Json

open List

/-! ## Characters -/

def quote : Char := Char.ofNat 34
def backslash : Char := Char.ofNat 92

/-- The brackets and separators of arrays and objects. -/
def openBracket : Char := Char.ofNat 91
def closeBracket : Char := Char.ofNat 93
def openBrace : Char := Char.ofNat 123
def closeBrace : Char := Char.ofNat 125
def comma : Char := Char.ofNat 44
def colon : Char := Char.ofNat 58

def shortEscapes : List (Char × Char) :=
  [(Char.ofNat 8, 'b'), (Char.ofNat 9, 't'), (Char.ofNat 10, 'n'), (Char.ofNat 12, 'f'),
    (Char.ofNat 13, 'r')]

def escape (c : Char) : List Char :=
  if c = quote ∨ c = backslash then [backslash, c]
  else
    match shortEscapes.lookup c with
    | some letter => [backslash, letter]
    | none =>
      if c.toNat < 32 then
        [backslash, 'u', '0', '0', Nat.digitChar (c.toNat / 16), Nat.digitChar (c.toNat % 16)]
      else [c]

def hexValue (c : Char) : Option ℕ :=
  if 48 ≤ c.toNat ∧ c.toNat ≤ 57 then some (c.toNat - 48)
  else if 97 ≤ c.toNat ∧ c.toNat ≤ 102 then some (c.toNat - 87)
  else if 65 ≤ c.toNat ∧ c.toNat ≤ 70 then some (c.toNat - 55)
  else none

/-- The character of four hexadecimal digits, if they are not half of a surrogate pair. -/
def hexChar (a b x y : Char) : Option Char :=
  match hexValue a, hexValue b, hexValue x, hexValue y with
  | some a, some b, some x, some y =>
    let code := 4096 * a + 256 * b + 16 * x + y
    if 0xD800 ≤ code ∧ code ≤ 0xDFFF then none else some (Char.ofNat code)
  | _, _, _, _ => none

def unescape (letter : Char) : Option Char :=
  if letter = quote ∨ letter = backslash ∨ letter = '/' then some letter
  else (shortEscapes.find? fun entry => entry.2 = letter).map Prod.fst

/-- The rest of a string, up to its quotation mark, and what follows. -/
def parseChars : List Char → Option (List Char × List Char)
  | [] => none
  | c :: rest =>
    if c = quote then some ([], rest)
    else if c = backslash then
      match rest with
      | [] => none
      | letter :: rest =>
        if letter = 'u' then
          match rest with
          | a :: b :: x :: y :: rest =>
            match hexChar a b x y with
            | none => none
            | some d => (parseChars rest).map fun p => (d :: p.1, p.2)
          | _ => none
        else
          match unescape letter with
          | none => none
          | some d => (parseChars rest).map fun p => (d :: p.1, p.2)
    else if c.toNat < 32 then none
    else (parseChars rest).map fun p => (c :: p.1, p.2)

/-! ## Writing -/

def writeString (s : String) : List Char :=
  quote :: (s.toList.flatMap escape ++ [quote])

def writeInt : ℤ → List Char
  | .ofNat n => Nat.toDigits 10 n
  | .negSucc n => '-' :: Nat.toDigits 10 (n + 1)

mutual

/-- `JSON.stringify`. -/
def write : Json → List Char
  | .null => ['n', 'u', 'l', 'l']
  | .bool true => ['t', 'r', 'u', 'e']
  | .bool false => ['f', 'a', 'l', 's', 'e']
  | .num n => writeInt n
  | .str s => writeString s
  | .arr [] => [openBracket, closeBracket]
  | .arr (v :: vs) => openBracket :: (write v ++ writeElems vs)
  | .obj [] => [openBrace, closeBrace]
  | .obj ((key, v) :: fields) =>
    openBrace :: (writeString key ++ colon :: (write v ++ writeFields fields))

def writeElems : List Json → List Char
  | [] => [closeBracket]
  | v :: vs => comma :: (write v ++ writeElems vs)

def writeFields : List (String × Json) → List Char
  | [] => [closeBrace]
  | (key, v) :: fields =>
    comma :: (writeString key ++ colon :: (write v ++ writeFields fields))

end

/-! ## Reading -/

def isBlank (c : Char) : Bool :=
  [9, 10, 13, 32].contains c.toNat

def skipBlanks (text : List Char) : List Char :=
  text.dropWhile isBlank

/-- The rest of a text that begins with the given letters. -/
def expect : List Char → List Char → Option (List Char)
  | [], text => some text
  | _ :: _, [] => none
  | a :: letters, c :: text => if a = c then expect letters text else none

/-- A natural number in decimal, without superfluous zeros. -/
def parseNat (text : List Char) : Option (ℕ × List Char) :=
  let digits := text.takeWhile Char.isDigit
  if digits = [] ∨ (digits.head? = some '0' ∧ digits ≠ ['0']) then none
  else some (Nat.ofDigitChars 10 digits 0, text.dropWhile Char.isDigit)

def parseInt : List Char → Option (ℤ × List Char)
  | [] => none
  | c :: text =>
    if c = '-' then (parseNat text).map fun p => (-(p.1 : ℤ), p.2)
    else (parseNat (c :: text)).map fun p => ((p.1 : ℤ), p.2)

def parseString : List Char → Option (String × List Char)
  | [] => none
  | c :: text =>
    if c = quote then (parseChars text).map fun p => (String.ofList p.1, p.2) else none

mutual

/-- A value at the beginning of a text, and what follows. -/
def parseValue : ℕ → List Char → Option (Json × List Char)
  | 0, _ => none
  | fuel + 1, text =>
    match skipBlanks text with
    | [] => none
    | c :: rest =>
      if c = 'n' then (expect ['u', 'l', 'l'] rest).map fun r => (.null, r)
      else if c = 't' then (expect ['r', 'u', 'e'] rest).map fun r => (.bool true, r)
      else if c = 'f' then (expect ['a', 'l', 's', 'e'] rest).map fun r => (.bool false, r)
      else if c = quote then (parseString (c :: rest)).map fun p => (.str p.1, p.2)
      else if c = openBracket then
        match expect [closeBracket] (skipBlanks rest) with
        | some r => some (.arr [], r)
        | none => (parseElems fuel rest).map fun p => (.arr p.1, p.2)
      else if c = openBrace then
        match expect [closeBrace] (skipBlanks rest) with
        | some r => some (.obj [], r)
        | none => (parseFields fuel rest).map fun p => (.obj p.1, p.2)
      else (parseInt (c :: rest)).map fun p => (.num p.1, p.2)

def parseElems : ℕ → List Char → Option (List Json × List Char)
  | 0, _ => none
  | fuel + 1, text =>
    match parseValue fuel text with
    | none => none
    | some (v, rest) =>
      match skipBlanks rest with
      | [] => none
      | c :: rest =>
        if c = closeBracket then some ([v], rest)
        else if c = comma then (parseElems fuel rest).map fun p => (v :: p.1, p.2)
        else none

def parseFields : ℕ → List Char → Option (List (String × Json) × List Char)
  | 0, _ => none
  | fuel + 1, text =>
    match parseString (skipBlanks text) with
    | none => none
    | some (key, rest) =>
      match expect [colon] (skipBlanks rest) with
      | none => none
      | some rest =>
        match parseValue fuel rest with
        | none => none
        | some (v, rest) =>
          match skipBlanks rest with
          | [] => none
          | c :: rest =>
            if c = closeBrace then some ([(key, v)], rest)
            else if c = comma then
              (parseFields fuel rest).map fun p => ((key, v) :: p.1, p.2)
            else none

end

/-- `JSON.parse`, for texts whose numbers are integers. -/
def parse (text : List Char) : Option Json :=
  match parseValue text.length text with
  | some (v, rest) => if skipBlanks rest = [] then some v else none
  | none => none

/-! ## Strings are read back -/

lemma hexValue_digitChar : ∀ d, d < 16 → hexValue (Nat.digitChar d) = some d := by
  decide

variable {c letter d a : Char}

lemma hexChar_control (h : c.toNat < 32) :
    hexChar '0' '0' (Nat.digitChar (c.toNat / 16)) (Nat.digitChar (c.toNat % 16)) = some c := by
  have hzero : hexValue '0' = some 0 := by decide
  have hcode : 4096 * 0 + 256 * 0 + 16 * (c.toNat / 16) + c.toNat % 16 = c.toNat := by omega
  unfold hexChar
  rw [hzero, hexValue_digitChar _ (by omega), hexValue_digitChar _ (by omega)]
  dsimp only
  rw [hcode, if_neg (by omega), Char.ofNat_toNat]

lemma mem_of_lookup_eq_some {entries : List (Char × Char)} (h : entries.lookup c = some letter) :
    (c, letter) ∈ entries := by
  obtain ⟨before, _, heq, _⟩ := lookup_eq_some_iff.mp h
  rw [heq]
  exact mem_append_right before mem_cons_self

lemma unescape_shortEscapes : ∀ entry ∈ shortEscapes,
    unescape entry.2 = some entry.1 ∧ entry.2 ≠ 'u' := by
  decide

lemma backslash_ne_quote : backslash ≠ quote := by
  decide

lemma parseChars_quote (rest : List Char) : parseChars (quote :: rest) = some ([], rest) := by
  rw [parseChars.eq_def]
  exact if_pos rfl

lemma parseChars_letter (hletter : unescape letter = some d) (hu : letter ≠ 'u')
    (rest : List Char) :
    parseChars (backslash :: letter :: rest) = (parseChars rest).map fun p => (d :: p.1, p.2) := by
  rw [parseChars.eq_def]
  simp [backslash_ne_quote, hu, hletter]

lemma parseChars_hex {b x y : Char} (hd : hexChar a b x y = some d) (rest : List Char) :
    parseChars (backslash :: 'u' :: a :: b :: x :: y :: rest) =
      (parseChars rest).map fun p => (d :: p.1, p.2) := by
  rw [parseChars.eq_def]
  simp [backslash_ne_quote, hd]

lemma parseChars_plain (hquote : c ≠ quote) (hbackslash : c ≠ backslash) (hplain : ¬ c.toNat < 32)
    (rest : List Char) :
    parseChars (c :: rest) = (parseChars rest).map fun p => (c :: p.1, p.2) := by
  rw [parseChars.eq_def]
  simp [hquote, hbackslash, hplain]

lemma parseChars_escape (c : Char) (rest : List Char) :
    parseChars (escape c ++ rest) = (parseChars rest).map fun p => (c :: p.1, p.2) := by
  unfold escape
  split
  next hspecial =>
    have hletter : unescape c = some c := by
      unfold unescape
      rw [if_pos (by tauto)]
    have hu : c ≠ 'u' := by
      rintro rfl
      revert hspecial
      decide
    exact parseChars_letter hletter hu rest
  next hspecial =>
    obtain ⟨hquote, hbackslash⟩ := not_or.mp hspecial
    split
    next letter hlookup =>
      obtain ⟨hletter, hu⟩ := unescape_shortEscapes (c, letter) (mem_of_lookup_eq_some hlookup)
      exact parseChars_letter hletter hu rest
    · split
      next hcontrol =>
        exact parseChars_hex (hexChar_control hcontrol) rest
      next hplain =>
        exact parseChars_plain hquote hbackslash hplain rest

lemma parseChars_flatMap (cs rest : List Char) :
    parseChars (cs.flatMap escape ++ quote :: rest) = some (cs, rest) := by
  induction cs with
  | nil => exact parseChars_quote rest
  | cons _ _ ih =>
    rw [flatMap_cons, append_assoc, parseChars_escape, ih]
    rfl

lemma parseString_write (s : String) (rest : List Char) :
    parseString (writeString s ++ rest) = some (s, rest) := by
  simp [parseString, writeString, parseChars_flatMap]

/-! ## Numbers are read back -/

def NoDigit (text : List Char) : Prop :=
  ∀ c, text.head? = some c → c.isDigit = false

lemma takeWhile_digits {digits rest : List Char} (hdigs : ∀ c ∈ digits, c.isDigit = true)
    (hrest : NoDigit rest) :
    (digits ++ rest).takeWhile Char.isDigit = digits ∧
      (digits ++ rest).dropWhile Char.isDigit = rest := by
  have hnone : rest.takeWhile Char.isDigit = [] ∧ rest.dropWhile Char.isDigit = rest := by
    cases rest with
    | nil => exact ⟨rfl, rfl⟩
    | cons c => simp [hrest c rfl]
  rw [takeWhile_append_of_pos hdigs, dropWhile_append_of_pos hdigs, hnone.1, hnone.2, append_nil]
  exact ⟨rfl, rfl⟩

lemma head_toDigits {n : ℕ} (hn : 0 < n) : (Nat.toDigits 10 n).head? ≠ some '0' := by
  induction n using Nat.strong_induction_on with
  | _ n ih =>
    rw [Nat.toDigits_eq_if (by omega)]
    split
    next hlt =>
      have hdigit : ∀ d, d < 10 → 0 < d → Nat.digitChar d ≠ '0' := by decide
      simpa using hdigit n hlt hn
    next _ =>
      have hhead := ih (n / 10) (by omega) (by omega)
      cases hdigs : Nat.toDigits 10 (n / 10) with
      | nil => exact absurd hdigs Nat.toDigits_ne_nil
      | cons =>
        rw [hdigs] at hhead
        simpa using hhead

lemma parseNat_toDigits (n : ℕ) {rest : List Char} (hrest : NoDigit rest) :
    parseNat (Nat.toDigits 10 n ++ rest) = some (n, rest) := by
  have hdigs : ∀ c ∈ Nat.toDigits 10 n, c.isDigit = true := fun c hc =>
    Nat.isDigit_of_mem_toDigits (by omega) (by omega) hc
  obtain ⟨htake, hdrop⟩ := takeWhile_digits hdigs hrest
  have hzero : ¬ (Nat.toDigits 10 n = [] ∨
      ((Nat.toDigits 10 n).head? = some '0' ∧ Nat.toDigits 10 n ≠ ['0'])) := by
    rintro (hnil | ⟨hhead, hne⟩)
    · exact Nat.toDigits_ne_nil hnil
    · rcases Nat.eq_zero_or_pos n with rfl | hpos
      · exact hne rfl
      · exact head_toDigits hpos hhead
  unfold parseNat
  rw [htake, hdrop, if_neg hzero, Nat.ofDigitChars_ten_toDigits]

lemma writeInt_eq_cons (n : ℤ) :
    ∃ c text, writeInt n = c :: text ∧ (c = '-' ∨ c.isDigit = true) := by
  cases n with
  | negSucc => exact ⟨'-', _, rfl, .inl rfl⟩
  | ofNat n =>
    cases hdigs : Nat.toDigits 10 n with
    | nil => exact absurd hdigs Nat.toDigits_ne_nil
    | cons c text =>
      refine ⟨c, text, hdigs, .inr ?_⟩
      exact Nat.isDigit_of_mem_toDigits (by omega) (by omega) (hdigs ▸ mem_cons_self)

lemma parseInt_write (n : ℤ) {rest : List Char} (hrest : NoDigit rest) :
    parseInt (writeInt n ++ rest) = some (n, rest) := by
  cases n with
  | negSucc n =>
    have hnat := parseNat_toDigits (n + 1) hrest
    simp [writeInt, parseInt, hnat, Int.negSucc_eq]
  | ofNat n =>
    have hnat := parseNat_toDigits n hrest
    cases hdigs : Nat.toDigits 10 n with
    | nil => exact absurd hdigs Nat.toDigits_ne_nil
    | cons c =>
      have hc : c.isDigit = true :=
        Nat.isDigit_of_mem_toDigits (by omega) (by omega) (hdigs ▸ mem_cons_self)
      have hminus : c ≠ '-' := by
        rintro rfl
        revert hc
        decide
      rw [hdigs] at hnat
      simp only [writeInt, hdigs, cons_append, parseInt, if_neg hminus]
      rw [← cons_append, hnat]
      rfl

/-! ## Documents are read back -/

lemma skipBlanks_cons (h : isBlank c = false) (text : List Char) :
    skipBlanks (c :: text) = c :: text := by
  simp [skipBlanks, h]

structure BeginsValue (c : Char) : Prop where
  blank : isBlank c = false
  bracket : c ≠ closeBracket
  brace : c ≠ closeBrace

/-- A sign or a digit begins a number and nothing else. -/
structure BeginsNumber (c : Char) : Prop extends BeginsValue c where
  null : c ≠ 'n'
  tru : c ≠ 't'
  fls : c ≠ 'f'
  quote : c ≠ Json.quote
  openBracket : c ≠ Json.openBracket
  openBrace : c ≠ Json.openBrace

lemma beginsNumber (h : c = '-' ∨ c.isDigit = true) : BeginsNumber c := by
  rcases h with rfl | hdigit
  · exact ⟨⟨by decide, by decide, by decide⟩, by decide, by decide, by decide, by decide,
      by decide, by decide⟩
  · refine ⟨⟨?_, ?_, ?_⟩, ?_, ?_, ?_, ?_, ?_, ?_⟩
    · refine Bool.eq_false_iff.mpr fun hblank => ?_
      have hcode : c.toNat = 9 ∨ c.toNat = 10 ∨ c.toNat = 13 ∨ c.toNat = 32 := by
        simpa [isBlank] using hblank
      rcases hcode with h | h | h | h
      all_goals
        have hchar := Char.ofNat_toNat c
        rw [h] at hchar
        subst hchar
        revert hdigit
        decide
    all_goals
      rintro rfl
      revert hdigit
      decide

lemma write_eq_cons (v : Json) : ∃ c text, write v = c :: text ∧ BeginsValue c := by
  cases v with
  | null => exact ⟨'n', _, by rw [write], by decide, by decide, by decide⟩
  | bool b => cases b <;> exact ⟨_, _, by rw [write], by decide, by decide, by decide⟩
  | num n =>
    obtain ⟨c, text, hwrite, hc⟩ := writeInt_eq_cons n
    exact ⟨c, text, by rw [write, hwrite], (beginsNumber hc).toBeginsValue⟩
  | str => exact ⟨quote, _, by rw [write, writeString], by decide, by decide, by decide⟩
  | arr elems =>
    cases elems <;> exact ⟨openBracket, _, by rw [write], by decide, by decide, by decide⟩
  | obj fields =>
    rcases fields with _ | ⟨⟨_, _⟩, _⟩
    · exact ⟨openBrace, _, by rw [write], by decide, by decide, by decide⟩
    · exact ⟨openBrace, _, by rw [write], by decide, by decide, by decide⟩

lemma noDigit_cons (h : c.isDigit = false) (text : List Char) : NoDigit (c :: text) := by
  intro d hd
  obtain rfl : c = d := by simpa using hd
  exact h

lemma noDigit_writeElems (vs : List Json) (rest : List Char) : NoDigit (writeElems vs ++ rest) := by
  cases vs with
  | nil | cons =>
    exact noDigit_cons (by decide) _

lemma noDigit_writeFields (fields : List (String × Json)) (rest : List Char) :
    NoDigit (writeFields fields ++ rest) := by
  rcases fields with _ | ⟨⟨_, _⟩, _⟩
  · rw [writeFields]
    exact noDigit_cons (by decide) _
  · rw [writeFields]
    exact noDigit_cons (by decide) _

lemma parseValue_number (hc : BeginsNumber c) (fuel : ℕ) (text : List Char) :
    parseValue (fuel + 1) (c :: text) = (parseInt (c :: text)).map fun p => (.num p.1, p.2) := by
  rw [parseValue, skipBlanks_cons hc.blank]
  simp [hc.null, hc.tru, hc.fls, hc.quote, hc.openBracket, hc.openBrace]

lemma parseValue_quote (fuel : ℕ) (text : List Char) :
    parseValue (fuel + 1) (quote :: text) =
      (parseString (quote :: text)).map fun p => (.str p.1, p.2) := by
  rw [parseValue, skipBlanks_cons (by decide)]
  dsimp only
  rw [if_neg (by decide), if_neg (by decide), if_neg (by decide), if_pos rfl]

lemma parseValue_openBracket (fuel : ℕ) (text : List Char) :
    parseValue (fuel + 1) (openBracket :: text) =
      match expect [closeBracket] (skipBlanks text) with
      | some r => some (.arr [], r)
      | none => (parseElems fuel text).map fun p => (.arr p.1, p.2) := by
  rw [parseValue, skipBlanks_cons (by decide)]
  dsimp only
  rw [if_neg (by decide), if_neg (by decide), if_neg (by decide), if_neg (by decide), if_pos rfl]

lemma parseValue_openBrace (fuel : ℕ) (text : List Char) :
    parseValue (fuel + 1) (openBrace :: text) =
      match expect [closeBrace] (skipBlanks text) with
      | some r => some (.obj [], r)
      | none => (parseFields fuel text).map fun p => (.obj p.1, p.2) := by
  rw [parseValue, skipBlanks_cons (by decide)]
  dsimp only
  rw [if_neg (by decide), if_neg (by decide), if_neg (by decide), if_neg (by decide),
    if_neg (by decide), if_pos rfl]

lemma expect_cons_of_ne (hblank : isBlank c = false) (hne : c ≠ a) (text : List Char) :
    expect [a] (skipBlanks (c :: text)) = none := by
  rw [skipBlanks_cons hblank]
  exact if_neg hne.symm

lemma skipBlanks_writeString (s : String) (rest : List Char) :
    skipBlanks (writeString s ++ rest) = writeString s ++ rest :=
  skipBlanks_cons (by decide) _

mutual

lemma parseValue_write : ∀ (v : Json) {fuel : ℕ} (rest : List Char),
    (write v).length ≤ fuel → NoDigit rest → parseValue fuel (write v ++ rest) = some (v, rest)
  | v, 0, rest, hfuel, _ => by
    obtain ⟨c, text, hwrite, _⟩ := write_eq_cons v
    rw [hwrite] at hfuel
    simp at hfuel
  | .null, fuel + 1, rest, _, _ => by
    rw [write, parseValue]
    simp [skipBlanks_cons (show isBlank 'n' = false by decide), expect]
  | .bool b, fuel + 1, rest, _, _ => by
    cases b
    · rw [write, parseValue]
      simp [skipBlanks_cons (show isBlank 'f' = false by decide), expect]
    · rw [write, parseValue]
      simp [skipBlanks_cons (show isBlank 't' = false by decide), expect]
  | .num n, fuel + 1, rest, _, hrest => by
    obtain ⟨c, text, hwrite, hc⟩ := writeInt_eq_cons n
    have hparse := parseInt_write n hrest
    rw [write]
    rw [hwrite, cons_append] at hparse ⊢
    rw [parseValue_number (beginsNumber hc), hparse]
    rfl
  | .str s, fuel + 1, rest, _, _ => by
    have hparse := parseString_write s rest
    rw [write]
    rw [writeString, cons_append] at hparse ⊢
    rw [parseValue_quote, hparse]
    rfl
  | .arr [], fuel + 1, rest, _, _ => by
    rw [write, cons_append, parseValue_openBracket]
    simp [skipBlanks_cons (show isBlank closeBracket = false by decide), expect]
  | .arr (v :: vs), fuel + 1, rest, hfuel, _ => by
    have hlen : (write v).length + (writeElems vs).length ≤ fuel := by
      rw [write] at hfuel
      simpa using hfuel
    have hparse := parseElems_write v vs rest hlen
    obtain ⟨_, _, hwrite, hc⟩ := write_eq_cons v
    rw [write, cons_append, append_assoc, parseValue_openBracket, hparse]
    rw [hwrite, cons_append, expect_cons_of_ne hc.blank hc.bracket]
    rfl
  | .obj [], fuel + 1, rest, _, _ => by
    rw [write, cons_append, parseValue_openBrace]
    simp [skipBlanks_cons (show isBlank closeBrace = false by decide), expect]
  | .obj ((key, v) :: fields), fuel + 1, rest, hfuel, _ => by
    have hlen : (writeString key).length + 1 + (write v).length +
        (writeFields fields).length ≤ fuel := by
      rw [write] at hfuel
      simp only [length_cons, length_append] at hfuel
      omega
    have hparse := parseFields_write key v fields rest hlen
    rw [write, cons_append, append_assoc, cons_append, append_assoc, parseValue_openBrace, hparse]
    rw [writeString, cons_append, expect_cons_of_ne (by decide) (by decide)]
    rfl

lemma parseElems_write : ∀ (v : Json) (vs : List Json) {fuel : ℕ} (rest : List Char),
    (write v).length + (writeElems vs).length ≤ fuel →
      parseElems fuel (write v ++ (writeElems vs ++ rest)) = some (v :: vs, rest)
  | v, vs, 0, rest, hfuel => by
    obtain ⟨_, _, hwrite, _⟩ := write_eq_cons v
    rw [hwrite] at hfuel
    simp at hfuel
  | v, [], fuel + 1, rest, hfuel => by
    have hlen : (write v).length ≤ fuel := by
      rw [writeElems] at hfuel
      simpa using hfuel
    rw [parseElems, parseValue_write v _ hlen (noDigit_writeElems [] rest), writeElems]
    simp [skipBlanks_cons (show isBlank closeBracket = false by decide)]
  | v, w :: ws, fuel + 1, rest, hfuel => by
    have hlen : (write v).length ≤ fuel ∧
        (write w).length + (writeElems ws).length ≤ fuel := by
      rw [writeElems] at hfuel
      simp only [length_cons, length_append] at hfuel
      omega
    have hparse := parseElems_write w ws rest hlen.2
    rw [parseElems, parseValue_write v _ hlen.1 (noDigit_writeElems (w :: ws) rest), writeElems]
    simp [skipBlanks_cons (show isBlank comma = false by decide),
      show comma ≠ closeBracket by decide, hparse]

lemma parseFields_write : ∀ (key : String) (v : Json) (fields : List (String × Json))
    {fuel : ℕ} (rest : List Char),
    (writeString key).length + 1 + (write v).length + (writeFields fields).length ≤ fuel →
      parseFields fuel (writeString key ++ colon :: (write v ++ (writeFields fields ++ rest))) =
        some ((key, v) :: fields, rest)
  | key, v, fields, 0, rest, hfuel => by
    omega
  | key, v, [], fuel + 1, rest, hfuel => by
    have hlen : (write v).length ≤ fuel := by omega
    rw [parseFields, skipBlanks_writeString, parseString_write]
    simp only [skipBlanks_cons (show isBlank colon = false by decide), expect, if_true]
    rw [parseValue_write v _ hlen (noDigit_writeFields [] rest), writeFields]
    simp [skipBlanks_cons (show isBlank closeBrace = false by decide)]
  | key, v, (key', w) :: fields, fuel + 1, rest, hfuel => by
    have hlen : (write v).length ≤ fuel ∧
        (writeString key').length + 1 + (write w).length + (writeFields fields).length ≤ fuel := by
      rw [writeFields] at hfuel
      simp only [length_cons, length_append] at hfuel
      omega
    have hparse := parseFields_write key' w fields rest hlen.2
    rw [parseFields, skipBlanks_writeString, parseString_write]
    simp only [skipBlanks_cons (show isBlank colon = false by decide), expect, if_true]
    rw [parseValue_write v _ hlen.1 (noDigit_writeFields ((key', w) :: fields) rest), writeFields]
    simp [skipBlanks_cons (show isBlank comma = false by decide),
      show comma ≠ closeBrace by decide, hparse]

end

lemma parse_write (v : Json) : parse (write v) = some v := by
  have hvalue := parseValue_write v [] (Nat.le_refl _) fun _ h => by simp at h
  rw [append_nil] at hvalue
  unfold parse
  rw [hvalue]
  rfl

/-! ## Objects of the host language -/

def property (key : String) : Json → Option Json
  | .obj fields => fields.reverse.lookup key
  | _ => none

def ofProperties (properties : List (String × Option Json)) : Json :=
  .obj (properties.filterMap fun entry => entry.2.map fun v => (entry.1, v))

lemma property_ofProperties {properties : List (String × Option Json)}
    (hnodup : (properties.map Prod.fst).Nodup) (key : String) :
    property key (ofProperties properties) = (properties.lookup key).join := by
  unfold property ofProperties
  induction properties with
  | nil => rfl
  | cons entry properties ih =>
    obtain ⟨k, v⟩ := entry
    obtain ⟨hnot, hnodup'⟩ := nodup_cons.mp hnodup
    have hrest := ih hnodup'
    rw [lookup_cons]
    cases hkey : key == k with
    | false =>
      cases v with
      | none => simpa using hrest
      | some => simpa [lookup_append, lookup_cons, hkey] using hrest
    | true =>
      -- the key does not occur again
      have habsent : properties.lookup key = none := by
        rw [lookup_eq_none_iff]
        intro p hp
        rw [bne_iff_ne]
        rintro rfl
        have hmem : p.1 ∈ properties.map Prod.fst := mem_map_of_mem hp
        rw [eq_of_beq hkey] at hmem
        exact hnot hmem
      rw [habsent] at hrest
      cases v with
      | none => simpa using hrest
      | some => simp [lookup_append, lookup_cons, hkey, hrest]

end Json
