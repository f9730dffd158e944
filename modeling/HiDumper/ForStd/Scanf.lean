import Mathlib.Data.List.Basic

/-!
# Reading a text with scanf

The conversions of `sscanf` that read numbers and words, as functions from the text that is
left to the text after the conversion, `none` where the conversion fails. `Numeral`,
`HexNumeral` and `Word` are texts that are made for one conversion each; what a conversion
does with such a text and something else behind it is said once.
-/

namespace Scanf

/-- `isspace`. -/
def isSpace (c : Char) : Bool := c.toNat = 32 || (9 ≤ c.toNat && c.toNat ≤ 13)

/-- `isxdigit`. -/
def isHexDigit (c : Char) : Bool :=
  c.isDigit || ('a'.toNat ≤ c.toNat && c.toNat ≤ 'f'.toNat) ||
    ('A'.toNat ≤ c.toNat && c.toNat ≤ 'F'.toNat)

/-! ## Conversions -/

/-- White space in a format. -/
def space (s : List Char) : List Char := s.dropWhile isSpace

/-- A character in a format. -/
def char (c : Char) : List Char → Option (List Char)
  | [] => none
  | d :: s => if d = c then some s else none

/-- A longest part of characters of one kind that is not empty. -/
def run (p : Char → Bool) (s : List Char) : Option (List Char × List Char) :=
  if s.takeWhile p = [] then none else some (s.takeWhile p, s.dropWhile p)

/-- The sign in front of a number: whether it is a minus. -/
def sign : List Char → Bool × List Char
  | [] => (false, [])
  | c :: s => if c = '-' then (true, s) else if c = '+' then (false, s) else (false, c :: s)

/-- The value of decimal digits. -/
def decimal (digits : List Char) : Nat :=
  digits.foldl (fun n c => 10 * n + (c.toNat - '0'.toNat)) 0

/-- `%llu`: a value out of range is the largest one. -/
def unsigned (s : List Char) : Option (UInt64 × List Char) :=
  let (negative, s) := sign (space s)
  (run Char.isDigit s).map fun (digits, s) =>
    let value := UInt64.ofNat (min (decimal digits) (UInt64.size - 1))
    (if negative then 0 - value else value, s)

/-- The `0x` in front of a hexadecimal number. -/
def hexPrefix : List Char → List Char
  | c :: x :: s => if c = '0' && (x = 'x' || x = 'X') then s else c :: x :: s
  | s => s

/-- `%*llx`. -/
def skipHex (s : List Char) : Option (List Char) :=
  (run isHexDigit (hexPrefix (sign (space s)).2)).map (·.2)

/-- `%s`. -/
def word (s : List Char) : Option (List Char × List Char) := run (fun c => !isSpace c) (space s)

/-- `%<width>s`. -/
def wordUpTo (width : Nat) (s : List Char) : Option (List Char × List Char) :=
  (word s).map fun (text, s) => (text.take width, text.drop width ++ s)

/-! ## Texts for one conversion -/

/-- Decimal digits of a 64-bit value. -/
structure Numeral where
  digits : List Char
  ne_nil : digits ≠ []
  isDigit : ∀ c ∈ digits, c.isDigit = true
  lt : decimal digits < UInt64.size

def Numeral.value (numeral : Numeral) : UInt64 := .ofNat (decimal numeral.digits)

/-- The numeral of digits that are checked one by one. -/
def Numeral.of (digits : List Char)
    (h : digits ≠ [] ∧ digits.all Char.isDigit = true ∧ decimal digits < UInt64.size) : Numeral where
  digits := digits
  ne_nil := h.1
  isDigit := List.all_eq_true.mp h.2.1
  lt := h.2.2

/-- A numeral is read back as its number. -/
theorem decimal_toDigits (n : Nat) : decimal (Nat.toDigits 10 n) = n := by
  rw [decimal, ← Nat.ofDigitChars_eq_foldl, Nat.ofDigitChars_ten_toDigits]

/-- The decimal digits of a number, without leading zeros. -/
def Numeral.ofUInt64 (value : UInt64) : Numeral where
  digits := Nat.toDigits 10 value.toNat
  ne_nil := Nat.toDigits_ne_nil
  isDigit := fun _ hc => Nat.isDigit_of_mem_toDigits (by decide) (by decide) hc
  lt := by
    rw [decimal_toDigits]
    exact value.toNat_lt_size

/-- Hexadecimal digits. -/
structure HexNumeral where
  digits : List Char
  ne_nil : digits ≠ []
  isHexDigit : ∀ c ∈ digits, isHexDigit c = true

def HexNumeral.of (digits : List Char)
    (h : digits ≠ [] ∧ digits.all Scanf.isHexDigit = true) : HexNumeral where
  digits := digits
  ne_nil := h.1
  isHexDigit := List.all_eq_true.mp h.2

/-- A text without white space. -/
structure Word where
  text : List Char
  ne_nil : text ≠ []
  notSpace : ∀ c ∈ text, isSpace c = false

def Word.of (text : List Char) (h : text ≠ [] ∧ text.any isSpace = false) : Word where
  text := text
  ne_nil := h.1
  notSpace := fun c hc => by simpa using List.any_eq_false.mp h.2 c hc

/-- White space between two conversions. -/
structure Gap where
  text : List Char
  ne_nil : text ≠ []
  isSpace : ∀ c ∈ text, Scanf.isSpace c = true

def Gap.of (text : List Char) (h : text ≠ [] ∧ text.all Scanf.isSpace = true) : Gap where
  text := text
  ne_nil := h.1
  isSpace := List.all_eq_true.mp h.2

/-- What follows a conversion begins with the white space of the gap. -/
theorem Gap.head_isSpace (gap : Gap) {rest : List Char} {c : Char}
    (h : (gap.text ++ rest).head? = some c) : Scanf.isSpace c = true := by
  have hne := gap.ne_nil
  have hspace := gap.isSpace
  obtain ⟨text, _, _⟩ := gap
  cases text with
  | nil => exact absurd rfl hne
  | cons d text =>
    rw [List.cons_append, List.head?_cons, Option.some.injEq] at h
    exact h ▸ hspace d List.mem_cons_self

/-- A run ends where the rest begins with a character of another kind. -/
theorem run_append {p : Char → Bool} {body rest : List Char} (hne : body ≠ [])
    (hbody : ∀ c ∈ body, p c = true) (hrest : ∀ c, rest.head? = some c → p c = false) :
    run p (body ++ rest) = some (body, rest) := by
  have htake : rest.takeWhile p = [] := by
    cases rest with
    | nil => rfl
    | cons c rest => rw [List.takeWhile_cons_of_neg (by simp [hrest c rfl])]
  have hdrop : rest.dropWhile p = rest := by
    cases rest with
    | nil => rfl
    | cons c rest => rw [List.dropWhile_cons_of_neg (by simp [hrest c rfl])]
  have htext : (body ++ rest).takeWhile p = body := by
    rw [List.takeWhile_append_of_pos hbody, htake, List.append_nil]
  rw [run, htext, if_neg hne, List.dropWhile_append_of_pos hbody, hdrop]

/-- White space before a text that does not begin with it. -/
theorem space_append {blanks text : List Char} (hblanks : ∀ c ∈ blanks, isSpace c = true)
    (htext : ∀ c, text.head? = some c → isSpace c = false) : space (blanks ++ text) = text := by
  rw [space, List.dropWhile_append_of_pos hblanks]
  cases text with
  | nil => rfl
  | cons c text => rw [List.dropWhile_cons_of_neg (by simp [htext c rfl])]

/-- A digit is neither white space nor a sign. -/
theorem isHexDigit_bounds {c : Char} (h : isHexDigit c = true) :
    48 ≤ c.toNat ∧ c.toNat ≤ 102 := by
  simp only [isHexDigit, Bool.or_eq_true, Bool.and_eq_true, decide_eq_true_eq,
    Char.isDigit_iff_toNat, Char.reduceToNat] at h
  omega

/-- A hexadecimal digit is no white space. -/
theorem isSpace_of_isHexDigit {c : Char} (h : isHexDigit c = true) : isSpace c = false := by
  have hbounds := isHexDigit_bounds h
  simp only [isSpace, Bool.or_eq_false_iff, decide_eq_false_iff_not, Bool.and_eq_false_iff]
  omega

/-- A digit is no sign. -/
theorem sign_of_isHexDigit {c : Char} (h : isHexDigit c = true) (s : List Char) :
    sign (c :: s) = (false, c :: s) := by
  have hbounds := isHexDigit_bounds h
  have hminus : c ≠ '-' := by
    rintro rfl
    exact absurd hbounds (by decide)
  have hplus : c ≠ '+' := by
    rintro rfl
    exact absurd hbounds (by decide)
  rw [sign, if_neg hminus, if_neg hplus]

/-- Blanks are white space. -/
theorem isSpace_of_mem_replicate (n : Nat) :
    ∀ c ∈ List.replicate n ' ', isSpace c = true := by
  intro c hc
  rw [List.eq_of_mem_replicate hc]
  decide

/-- A decimal digit is a hexadecimal one. -/
theorem isHexDigit_of_isDigit {c : Char} (h : c.isDigit = true) : isHexDigit c = true := by
  simp [isHexDigit, h]

/-- White space is no digit. -/
theorem isDigit_of_isSpace {c : Char} (h : isSpace c = true) : c.isDigit = false := by
  cases hdigit : c.isDigit with
  | false => rfl
  | true =>
    rw [isSpace_of_isHexDigit (isHexDigit_of_isDigit hdigit)] at h
    exact Bool.noConfusion h

/-- White space is skipped in front of a digit, and there is no sign. -/
theorem sign_space_append {blanks : List Char} (hblanks : ∀ c ∈ blanks, isSpace c = true)
    {c : Char} (hc : isHexDigit c = true) (rest : List Char) :
    sign (space (blanks ++ c :: rest)) = (false, c :: rest) := by
  have hspace : space (blanks ++ c :: rest) = c :: rest := by
    apply space_append hblanks
    intro d hd
    rw [List.head?_cons, Option.some.injEq] at hd
    exact hd ▸ isSpace_of_isHexDigit hc
  rw [hspace]
  exact sign_of_isHexDigit hc rest

/-- `%llu` of a numeral with white space in front. -/
theorem unsigned_numeral (blanks : List Char) (hblanks : ∀ c ∈ blanks, isSpace c = true)
    (numeral : Numeral) {rest : List Char}
    (hrest : ∀ c, rest.head? = some c → c.isDigit = false) :
    unsigned (blanks ++ (numeral.digits ++ rest)) = some (numeral.value, rest) := by
  have hne := numeral.ne_nil
  have hdigits := numeral.isDigit
  have hlt := numeral.lt
  have hrun := run_append hne hdigits hrest
  obtain ⟨digits, _, _, _⟩ := numeral
  cases digits with
  | nil => exact absurd rfl hne
  | cons c digits =>
    have hc := isHexDigit_of_isDigit (hdigits c List.mem_cons_self)
    have hsign : sign (space (blanks ++ (c :: digits ++ rest))) = (false, c :: digits ++ rest) :=
      sign_space_append hblanks hc (digits ++ rest)
    unfold unsigned
    rw [hsign]
    simp only [hrun, Option.map_some, Bool.false_eq_true, if_false, Numeral.value]
    rw [Nat.min_eq_left (by omega)]

/-- `%*llx` of a numeral with white space in front. -/
theorem skipHex_numeral (blanks : List Char) (hblanks : ∀ c ∈ blanks, isSpace c = true)
    (numeral : HexNumeral) {rest : List Char}
    (hrest : ∀ c, rest.head? = some c → isHexDigit c = false ∧ c ≠ 'x' ∧ c ≠ 'X') :
    skipHex (blanks ++ (numeral.digits ++ rest)) = some rest := by
  have hne := numeral.ne_nil
  have hdigits := numeral.isHexDigit
  have hrun := run_append hne hdigits fun c hc => (hrest c hc).1
  obtain ⟨digits, _, _⟩ := numeral
  cases digits with
  | nil => exact absurd rfl hne
  | cons c digits =>
    have hc := hdigits c List.mem_cons_self
    have hsign : sign (space (blanks ++ (c :: digits ++ rest))) = (false, c :: digits ++ rest) :=
      sign_space_append hblanks hc (digits ++ rest)
    -- No `x` follows: the next character is a digit or what stands behind the numeral.
    have hnext : ∀ x s, digits ++ rest = x :: s → x ≠ 'x' ∧ x ≠ 'X' := by
      intro x s hx
      cases digits with
      | nil => exact (hrest x (by rw [List.nil_append] at hx; rw [hx]; rfl)).2
      | cons d digits =>
        rw [List.cons_append, List.cons.injEq] at hx
        have hd := isHexDigit_bounds (hdigits d (List.mem_cons_of_mem c List.mem_cons_self))
        have hd' := hdigits d (List.mem_cons_of_mem c List.mem_cons_self)
        rw [← hx.1]
        constructor
        · rintro rfl
          exact absurd hd (by decide)
        · rintro rfl
          exact absurd hd' (by decide)
    have hbare : hexPrefix (c :: digits ++ rest) = c :: digits ++ rest := by
      rw [List.cons_append]
      cases htail : digits ++ rest with
      | nil => rfl
      | cons x s =>
        have hx := hnext x s htail
        simp [hexPrefix, hx]
    unfold skipHex
    rw [hsign]
    simp only [hbare, hrun, Option.map_some]

/-- `%s` of a word with white space in front. -/
theorem word_append (blanks : List Char) (hblanks : ∀ c ∈ blanks, isSpace c = true) (w : Word)
    {rest : List Char} (hrest : ∀ c, rest.head? = some c → isSpace c = true) :
    word (blanks ++ (w.text ++ rest)) = some (w.text, rest) := by
  have hspace : space (blanks ++ (w.text ++ rest)) = w.text ++ rest := by
    apply space_append hblanks
    intro c hc
    cases htext : w.text with
    | nil => exact absurd htext w.ne_nil
    | cons d text =>
      rw [htext, List.cons_append, List.head?_cons, Option.some.injEq] at hc
      exact hc ▸ w.notSpace d (htext ▸ List.mem_cons_self)
  rw [word, hspace]
  apply run_append w.ne_nil
  · exact fun c hc => by simp [w.notSpace c hc]
  · exact fun c hc => by simp [hrest c hc]

end Scanf
