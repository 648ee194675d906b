import EchoBench.Json.Fault
import EchoBench.Text.Numeral

/-!
# `EchoBench.Json.Quoted`: texts between quotes

Writing escapes the quote, the backslash and the control characters below U+0020, and nothing else.
Reading accepts every escape of the grammar; a character outside the basic plane may be given by
two escapes, a leading and a trailing surrogate, and a surrogate without its partner is refused.
`unquote_quote` says that reading takes back what writing gives.

The reader looks at one character at a time and remembers in an `Escape` how far into an escape it
is. Four hexadecimal digits are one unit: where fewer than four bytes are left, the text ends too
early, whatever those bytes are.
-/

set_option autoImplicit false

namespace EchoBench.Json

open EchoBench.Text

/-- The characters that have an escape of two characters: the letter after the backslash, and the
character that it stands for. -/
def shortEscapes : List (Char × Char) :=
  [('"', '"'), ('\\', '\\'), ('b', '\x08'), ('f', '\x0c'), ('n', '\n'), ('r', '\r'), ('t', '\t')]

/-- The character that a letter after a backslash stands for. A slash may be escaped, although it
is never written so. -/
def unescape? (letter : Char) : Option Char :=
  if letter = '/' then some '/' else (shortEscapes.find? (·.1 = letter)).map (·.2)

/-- A character as it stands between quotes. -/
def escape (c : Char) : List Char :=
  match shortEscapes.find? (·.2 = c) with
  | some (letter, _) => ['\\', letter]
  | none => if c.toNat < 0x20 then ['\\', 'u'] ++ hexPlaces 4 c.toNat else [c]

/-- A text between quotes. -/
def quote (s : List Char) : List Char :=
  '"' :: s.flatMap escape ++ ['"']

/-- How far the reader is into an escape. -/
inductive Escape
  /-- Outside any escape. -/
  | none
  /-- After a backslash. -/
  | backslash
  /-- After some of four hexadecimal digits, with the leading surrogate that came before. -/
  | digits (leading : Option Nat) (count value : Nat)
  /-- After a leading surrogate, where a second escape has to follow. -/
  | afterLeading (value : Nat)
  /-- After the backslash of that second escape. -/
  | afterLeadingBackslash (value : Nat)
  deriving DecidableEq, Repr

/-- The number of bytes that a text takes. -/
def byteCount : List Char → Nat
  | [] => 0
  | c :: s => c.utf8Size + byteCount s

/-- The fault at a character that is no hexadecimal digit, after `count` digits. -/
def digitFault (count : Nat) (s : List Char) : Fault :=
  if count + byteCount s < 4 then .truncated else .malformed

/-- A code unit that begins a pair. -/
def isLeading (n : Nat) : Bool :=
  0xD800 ≤ n && n ≤ 0xDBFF

/-- A code unit that ends a pair. -/
def isTrailing (n : Nat) : Bool :=
  0xDC00 ≤ n && n ≤ 0xDFFF

/-- The character that a pair of code units stands for. -/
def ofPair (leading trailing : Nat) : Char :=
  Char.ofNat (0x10000 + (leading - 0xD800) * 0x400 + (trailing - 0xDC00))

/-- Adds a character in front of the text read after it. -/
def prepend (c : Char) (r : Except Fault (List Char × List Char)) :
    Except Fault (List Char × List Char) :=
  r.map fun p => (c :: p.1, p.2)

/-- Reads up to the closing quote, from within an escape or outside one. -/
def unquoteFrom : Escape → List Char → Except Fault (List Char × List Char)
  | _, [] => .error .truncated
  | .none, c :: rest =>
    if c = '"' then .ok ([], rest)
    else if c = '\\' then unquoteFrom .backslash rest
    else if c.toNat < 0x20 then .error .malformed
    else prepend c (unquoteFrom .none rest)
  | .backslash, c :: rest =>
    if c = 'u' then unquoteFrom (.digits .none 0 0) rest
    else match unescape? c with
      | some d => prepend d (unquoteFrom .none rest)
      | .none => .error .malformed
  | .digits leading count value, c :: rest =>
    match hexValue? c with
    | .none => .error (digitFault count (c :: rest))
    | some d =>
      let unit := 16 * value + d
      if count < 3 then unquoteFrom (.digits leading (count + 1) unit) rest
      else match leading with
        | .none =>
          if isTrailing unit then .error .malformed
          else if isLeading unit then unquoteFrom (.afterLeading unit) rest
          else prepend (Char.ofNat unit) (unquoteFrom .none rest)
        | some first =>
          if isTrailing unit then prepend (ofPair first unit) (unquoteFrom .none rest)
          else .error .malformed
  | .afterLeading value, c :: rest =>
    if c = '\\' then unquoteFrom (.afterLeadingBackslash value) rest else .error .malformed
  | .afterLeadingBackslash value, c :: rest =>
    if c = 'u' then unquoteFrom (.digits (some value) 0 0) rest else .error .malformed

/-- Reads a text of which the opening quote has been read already. -/
def unquote (s : List Char) : Except Fault (List Char × List Char) :=
  unquoteFrom .none s

/-- Skips a text of which the opening quote has been read already. Its escapes have to be well
formed one by one; whether they pair up is not asked. -/
def skipQuotedFrom : Escape → List Char → Except Fault (List Char)
  | _, [] => .error .truncated
  | .none, c :: rest =>
    if c = '"' then .ok rest
    else if c = '\\' then skipQuotedFrom .backslash rest
    else if c.toNat < 0x20 then .error .malformed
    else skipQuotedFrom .none rest
  | .digits leading count value, c :: rest =>
    match hexValue? c with
    | .none => .error (digitFault count (c :: rest))
    | some _ =>
      if count < 3 then skipQuotedFrom (.digits leading (count + 1) value) rest
      else skipQuotedFrom .none rest
  | _, c :: rest =>
    if c = 'u' then skipQuotedFrom (.digits .none 0 0) rest
    else match unescape? c with
      | some _ => skipQuotedFrom .none rest
      | .none => .error .malformed

/-- Skips a text of which the opening quote has been read already. -/
def skipQuoted (s : List Char) : Except Fault (List Char) :=
  skipQuotedFrom .none s

/-- Four hexadecimal digits of a code unit that is no surrogate give its character. -/
theorem unquoteFrom_hexPlaces (n : Nat) (rest : List Char) (h : n < 0xD800) :
    unquoteFrom (.digits .none 0 0) (hexPlaces 4 n ++ rest) =
      prepend (Char.ofNat n) (unquoteFrom .none rest) := by
  have value : ∀ k, hexValue? (hexDigit (k % 16)) = some (k % 16) := fun k =>
    hexValue?_hexDigit _ (Nat.mod_lt _ (by decide))
  have unit : 16 * (16 * (16 * (16 * 0 + n / 16 / 16 / 16 % 16) + n / 16 / 16 % 16) + n / 16 % 16)
      + n % 16 = n := by omega
  have trailing : isTrailing n = false := by simp [isTrailing]; omega
  have leading : isLeading n = false := by simp [isLeading]; omega
  simp only [hexPlaces, List.nil_append, List.cons_append, unquoteFrom, value]
  rw [unit]
  simp [trailing, leading]

/-- Reading takes back the written form of one character. -/
theorem unquoteFrom_escape (c : Char) (rest : List Char) :
    unquoteFrom .none (escape c ++ rest) = prepend c (unquoteFrom .none rest) := by
  unfold escape
  split
  · rename_i letter d h
    have hc := List.find?_some h
    have hmem := List.mem_of_find?_eq_some h
    simp only [decide_eq_true_eq] at hc
    subst hc
    simp only [shortEscapes, List.mem_cons, List.not_mem_nil, or_false, Prod.mk.injEq] at hmem
    rcases hmem with h | h | h | h | h | h | h <;> obtain ⟨rfl, rfl⟩ := h <;> rfl
  · rename_i h
    have hquote : c ≠ '"' := by rintro rfl; simp [shortEscapes] at h
    have hslash : c ≠ '\\' := by rintro rfl; simp [shortEscapes] at h
    split
    · rename_i hlow
      have step : ∀ t, unquoteFrom .none ('\\' :: 'u' :: t) = unquoteFrom (.digits .none 0 0) t :=
        fun _ => rfl
      simp only [List.cons_append, List.nil_append, step]
      rw [unquoteFrom_hexPlaces _ _ (by omega), Char.ofNat_toNat]
    · rename_i hhigh
      simp [unquoteFrom, hquote, hslash, hhigh]

/-- Reading takes back what writing gives, whatever follows it. -/
theorem unquote_quote (s rest : List Char) :
    unquote (s.flatMap escape ++ '"' :: rest) = .ok (s, rest) := by
  induction s with
  | nil => rfl
  | cons c s ih =>
    rw [unquote] at ih ⊢
    simp only [List.flatMap_cons, List.append_assoc, unquoteFrom_escape, ih]
    rfl

end EchoBench.Json
