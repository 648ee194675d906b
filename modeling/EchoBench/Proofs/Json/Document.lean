import EchoBench.Json.Quoted
import EchoBench.Proofs.Json.NumberText

/-!
# `EchoBench.Proofs.Json.Document`: documents and how they may be spelled

A JSON document is a tree of values. Numbers are kept as they are written, and the names in an
object as the texts that they stand for; a name may come more than once.

One document has many spellings: between its tokens there may be space, a character between quotes
may be escaped in several ways, and the exponent of a number has some freedom. `Spells` is the
relation between a document and its spellings, by the grammar, and `IsText` that of whole texts.
Space stands in front of a token here, so only a whole text has some at its end. A surrogate is
always one of a pair.

What a reader finds when it comes to a document is said here too. Its first character belongs to its
kind (`SpellsBare.begins`), and a text between quotes is read as what it stands for
(`unquote_append`). The first item of a list, or the first member of an object, stands behind the
space in front of it (`SpellsItems.dropSpace_append`, `SpellsMembers.dropSpace_append`).
-/

set_option autoImplicit false

namespace EchoBench.Proofs.Json

open EchoBench.Json
open EchoBench.Text

/-! ### Documents -/

/-- A JSON document as a tree. A number keeps its text and not its value, since readers of different
types make different things of one text; members keep their order, and a name may stand twice. -/
inductive Document
  | null
  | flag (value : Bool)
  /-- A number, and whether a minus sign stands in front of it. -/
  | number (negative : Bool) (text : NumberText)
  | text (value : String)
  | list (items : List Document)
  | object (members : List (String × Document))

/-- Space between tokens. -/
def IsSpace (s : List Char) : Prop :=
  ∀ c ∈ s, c = ' ' ∨ c = '\n' ∨ c = '\t' ∨ c = '\r'

/-- The ways to spell a unit of sixteen bits: by four hexadecimal digits of either case. -/
inductive SpellsUnit : Nat → List Char → Prop
  | intro {a b c d : Char} {i j k l : Nat} (ha : hexValue? a = some i) (hb : hexValue? b = some j)
    (hc : hexValue? c = some k) (hd : hexValue? d = some l) :
    SpellsUnit (16 * (16 * (16 * i + j) + k) + l) [a, b, c, d]

/-- The ways to spell a character between quotes: as itself, by its short escape, by one hexadecimal
escape, or beyond the basic plane by two. Digits of an escape may be of either case. -/
inductive SpellsChar : Char → List Char → Prop
  | plain {c : Char} (hcontrol : 0x20 ≤ c.toNat) (hquote : c ≠ '"') (hslash : c ≠ '\\') :
    SpellsChar c [c]
  | short {letter c : Char} (h : (letter, c) ∈ ('/', '/') :: shortEscapes) :
    SpellsChar c ['\\', letter]
  | unit {c : Char} {digits : List Char} (h : SpellsUnit c.toNat digits) :
    SpellsChar c ('\\' :: 'u' :: digits)
  /-- A character outside the basic plane is a pair of surrogates. -/
  | pair {c : Char} {leading trailing : Nat} {first second : List Char}
    (hfirst : SpellsUnit leading first) (hsecond : SpellsUnit trailing second)
    (hleading : 0xD800 ≤ leading ∧ leading ≤ 0xDBFF)
    (htrailing : 0xDC00 ≤ trailing ∧ trailing ≤ 0xDFFF)
    (hvalue : c.toNat = 0x10000 + (leading - 0xD800) * 0x400 + (trailing - 0xDC00)) :
    SpellsChar c ('\\' :: 'u' :: (first ++ '\\' :: 'u' :: second))

/-- The ways to spell a text between quotes. -/
inductive SpellsText : List Char → List Char → Prop
  | nil : SpellsText [] []
  | cons {c : Char} {s spelled rest : List Char} (hc : SpellsChar c spelled)
    (hs : SpellsText s rest) : SpellsText (c :: s) (spelled ++ rest)

mutual

/-- The ways to spell a document with no space around it, which the relations for items and members
call again for what is inside. -/
inductive SpellsBare : Document → List Char → Prop
  | null : SpellsBare .null ['n', 'u', 'l', 'l']
  | yes : SpellsBare (.flag true) ['t', 'r', 'u', 'e']
  | no : SpellsBare (.flag false) ['f', 'a', 'l', 's', 'e']
  | number {t : NumberText} {s : List Char} (h : SpellsNumber t s) :
    SpellsBare (.number false t) s
  | negative {t : NumberText} {s : List Char} (h : SpellsNumber t s) :
    SpellsBare (.number true t) ('-' :: s)
  | text {value : String} {s : List Char} (h : SpellsText value.toList s) :
    SpellsBare (.text value) ('"' :: (s ++ ['"']))
  | emptyList {space : List Char} (hspace : IsSpace space) :
    SpellsBare (.list []) ('[' :: (space ++ [']']))
  | list {items : List Document} {s space : List Char} (h : SpellsItems items s)
    (hspace : IsSpace space) : SpellsBare (.list items) ('[' :: (s ++ (space ++ [']'])))
  | emptyObject {space : List Char} (hspace : IsSpace space) :
    SpellsBare (.object []) ('{' :: (space ++ ['}']))
  | object {members : List (String × Document)} {s space : List Char} (h : SpellsMembers members s)
    (hspace : IsSpace space) : SpellsBare (.object members) ('{' :: (s ++ (space ++ ['}'])))

/-- The ways to spell a document, with any amount of white space in front of it. The space behind it
belongs to what follows, be it a comma, a bracket or the end of the text. -/
inductive Spells : Document → List Char → Prop
  | spaced {document : Document} {space s : List Char} (hspace : IsSpace space)
    (h : SpellsBare document s) : Spells document (space ++ s)

/-- The ways to spell the items of a list, with a comma between each two, and none behind the last.
-/
inductive SpellsItems : List Document → List Char → Prop
  | one {item : Document} {s : List Char} (h : Spells item s) : SpellsItems [item] s
  | more {item : Document} {items : List Document} {s space rest : List Char} (h : Spells item s)
    (hspace : IsSpace space) (hrest : SpellsItems items rest) :
    SpellsItems (item :: items) (s ++ (space ++ ',' :: rest))

/-- The ways to spell a member of an object: its name between quotes, a colon, and its document,
with space wherever the grammar has it. -/
inductive SpellsMember : String × Document → List Char → Prop
  | intro {name : String} {value : Document} {before spelled space s : List Char}
    (hbefore : IsSpace before) (hname : SpellsText name.toList spelled) (hspace : IsSpace space)
    (h : Spells value s) :
    SpellsMember (name, value) (before ++ '"' :: (spelled ++ '"' :: (space ++ ':' :: s)))

/-- The ways to spell the members of an object, with a comma between each two. Nothing is asked of
the names, which may stand twice or be nobody's. -/
inductive SpellsMembers : List (String × Document) → List Char → Prop
  | one {member : String × Document} {s : List Char} (h : SpellsMember member s) :
    SpellsMembers [member] s
  | more {member : String × Document} {members : List (String × Document)}
    {s space rest : List Char} (h : SpellsMember member s) (hspace : IsSpace space)
    (hrest : SpellsMembers members rest) :
    SpellsMembers (member :: members) (s ++ (space ++ ',' :: rest))

end

/-- A text is a document, with space around it. This is the notion that the acceptance of records is
stated with, and it says nothing of any reader. -/
def IsText (document : Document) (text : String) : Prop :=
  ∃ s space, text.toList = s ++ space ∧ Spells document s ∧ IsSpace space

/-! ### Space -/

section Space

variable {space rest : List Char}

/-- There need not be any space, which is how the compact texts that the program writes are
spellings too. -/
theorem isSpace_nil : IsSpace [] := nofun

/-- Space in front of a token is skipped. Every reader begins with this, so the space of a spelling
is gone before its characters are looked at. -/
theorem dropSpace_append (hspace : IsSpace space) (rest : List Char) :
    dropSpace (space ++ rest) = dropSpace rest := by
  induction space with
  | nil => rfl
  | cons c space ih =>
    rw [List.cons_append, dropSpace, if_pos (hspace c List.mem_cons_self)]
    exact ih fun d hd => hspace d (List.mem_cons_of_mem c hd)

/-- Behind space a reader comes to the next token, if that does not begin with space itself. -/
theorem dropSpace_append_cons (hspace : IsSpace space) {c : Char}
    (hc : ¬(c = ' ' ∨ c = '\n' ∨ c = '\t' ∨ c = '\r')) (rest : List Char) :
    dropSpace (space ++ c :: rest) = c :: rest := by
  rw [dropSpace_append hspace, dropSpace, if_neg hc]

/-- Space does not go on with a number, and neither does what closes a value. -/
theorem endsNumber_space_append (hspace : IsSpace space) {c : Char}
    (hc : c = ',' ∨ c = ']' ∨ c = '}') (tail : List Char) :
    EndsNumber (space ++ c :: tail) := by
  intro d hd
  cases space with
  | nil =>
    obtain rfl : c = d := by simpa using hd
    rcases hc with rfl | rfl | rfl <;> decide
  | cons e space =>
    obtain rfl : e = d := by simpa using hd
    rcases hspace e List.mem_cons_self with rfl | rfl | rfl | rfl <;> decide

end Space

/-! ### Texts between quotes -/

section Quoted

variable {n : Nat} {c : Char} {s spelled digits : List Char}

/-- A unit that no surrogate came before is a character, or a leading surrogate. -/
theorem unquoteFrom_unit (h : SpellsUnit n digits) (rest : List Char) :
    unquoteFrom (.digits none 0 0) (digits ++ rest)
      = if isTrailing n then .error .malformed
        else if isLeading n then unquoteFrom (.afterLeading n) rest
        else prepend (Char.ofNat n) (unquoteFrom .none rest) := by
  cases h with
  | intro ha hb hc hd => simp [unquoteFrom, ha, hb, hc, hd]

/-- A unit behind a leading surrogate is the other one of the pair. -/
theorem unquoteFrom_unit_afterLeading (h : SpellsUnit n digits) (leading : Nat)
    (rest : List Char) :
    unquoteFrom (.digits (some leading) 0 0) (digits ++ rest)
      = if isTrailing n then prepend (ofPair leading n) (unquoteFrom .none rest)
        else .error .malformed := by
  cases h with
  | intro ha hb hc hd => simp [unquoteFrom, ha, hb, hc, hd]

/-- Four hexadecimal digits are skipped as one unit, whatever character they name; unlike reading,
skipping never asks whether a surrogate has its partner. -/
theorem skipQuotedFrom_unit (h : SpellsUnit n digits) (rest : List Char) :
    skipQuotedFrom (.digits none 0 0) (digits ++ rest) = skipQuotedFrom .none rest := by
  cases h with
  | intro ha hb hc hd => simp [skipQuotedFrom, ha, hb, hc, hd]

/-- No character is a surrogate. The code points of surrogates are no characters, so a unit of an
escape is one half of a pair or a character, and never both. -/
theorem not_surrogate (c : Char) : isTrailing c.toNat = false ∧ isLeading c.toNat = false := by
  have hvalid : c.toNat < 0xD800 ∨ 0xDFFF < c.toNat ∧ c.toNat < 0x110000 := c.valid
  simp only [isTrailing, isLeading, Bool.and_eq_false_iff, decide_eq_false_iff_not]
  omega

/-- Every short escape of the grammar is known to the reader and is told apart from the long one,
which begins with a `u`. The solidus is in the list by itself, since it may be escaped and never has
to be. -/
theorem unescape?_of_mem {letter : Char} (h : (letter, c) ∈ ('/', '/') :: shortEscapes) :
    letter ≠ 'u' ∧ unescape? letter = some c := by
  simp only [shortEscapes, List.mem_cons, List.not_mem_nil, or_false, Prod.mk.injEq] at h
  rcases h with h | h | h | h | h | h | h | h <;> obtain ⟨rfl, rfl⟩ := h <;> decide

/-- However a character is spelled, it is read as itself. The cases are those of the four ways to
spell it; the pair of escapes is put together by its arithmetic. -/
theorem unquoteFrom_char (h : SpellsChar c spelled) (rest : List Char) :
    unquoteFrom .none (spelled ++ rest) = prepend c (unquoteFrom .none rest) := by
  cases h with
  | plain hcontrol hquote hslash =>
    simp [unquoteFrom, hquote, hslash, Nat.not_lt.mpr hcontrol]
  | @short letter _ h =>
    obtain ⟨hletter, hunescape⟩ := unescape?_of_mem h
    simp [unquoteFrom, hletter, hunescape]
  | @unit _ digits h =>
    -- A character that is one unit: it is neither half of a pair, so the reader takes it at once.
    have hread : unquoteFrom .none ('\\' :: 'u' :: digits ++ rest)
        = unquoteFrom (.digits none 0 0) (digits ++ rest) := rfl
    obtain ⟨htrailing, hleading⟩ := not_surrogate c
    rw [hread, unquoteFrom_unit h]
    simp [htrailing, hleading, Char.ofNat_toNat]
  | @pair _ leading trailing first second hfirst hsecond hleading htrailing hvalue =>
    -- A pair: the first unit makes the reader wait for the second, and the two give the character.
    have hread : unquoteFrom .none ('\\' :: 'u' :: (first ++ '\\' :: 'u' :: second) ++ rest)
        = unquoteFrom (.digits none 0 0) (first ++ '\\' :: 'u' :: (second ++ rest)) := by
      simp [unquoteFrom]
    have hnext : unquoteFrom (.afterLeading leading) ('\\' :: 'u' :: (second ++ rest))
        = unquoteFrom (.digits (some leading) 0 0) (second ++ rest) := by simp [unquoteFrom]
    have hnotTrailing : ¬isTrailing leading = true := by
      simp [isTrailing]
      omega
    have hisLeading : isLeading leading = true := by simpa [isLeading] using hleading
    have hisTrailing : isTrailing trailing = true := by simpa [isTrailing] using htrailing
    have hchar : ofPair leading trailing = c := by rw [ofPair, ← hvalue, Char.ofNat_toNat]
    rw [hread, unquoteFrom_unit hfirst, if_neg hnotTrailing, if_pos hisLeading, hnext,
      unquoteFrom_unit_afterLeading hsecond, if_pos hisTrailing, hchar]

/-- However a character is spelled, by itself or by an escape of either length, it is skipped. -/
theorem skipQuotedFrom_char (h : SpellsChar c spelled) (rest : List Char) :
    skipQuotedFrom .none (spelled ++ rest) = skipQuotedFrom .none rest := by
  cases h with
  | plain hcontrol hquote hslash =>
    simp [skipQuotedFrom, hquote, hslash, Nat.not_lt.mpr hcontrol]
  | @short letter _ h =>
    obtain ⟨hletter, hunescape⟩ := unescape?_of_mem h
    simp [skipQuotedFrom, hletter, hunescape]
  | @unit _ digits h => exact skipQuotedFrom_unit h rest
  | @pair _ leading trailing first second hfirst hsecond =>
    have hread : skipQuotedFrom .none ('\\' :: 'u' :: (first ++ '\\' :: 'u' :: second) ++ rest)
        = skipQuotedFrom (.digits none 0 0) (first ++ '\\' :: 'u' :: (second ++ rest)) := by
      simp [skipQuotedFrom]
    have hnext : skipQuotedFrom .none ('\\' :: 'u' :: (second ++ rest))
        = skipQuotedFrom (.digits none 0 0) (second ++ rest) := by simp [skipQuotedFrom]
    rw [hread, skipQuotedFrom_unit hfirst, hnext, skipQuotedFrom_unit hsecond]

/-- However a text is spelled, it is read as itself, up to its closing quote and with what follows
left over, so names and values of members are told alike. -/
theorem unquote_append (h : SpellsText s spelled) (rest : List Char) :
    unquote (spelled ++ '"' :: rest) = .ok (s, rest) := by
  rw [unquote]
  induction h with
  | nil => rfl
  | cons hc hs ih =>
    rw [List.append_assoc, unquoteFrom_char hc, ih]
    rfl

/-- However a text is spelled, it is skipped up to its closing quote; the induction is on the
spelling, character by character. -/
theorem skipQuoted_append (h : SpellsText s spelled) (rest : List Char) :
    skipQuoted (spelled ++ '"' :: rest) = .ok rest := by
  rw [skipQuoted]
  induction h with
  | nil => rfl
  | cons hc hs ih => rw [List.append_assoc, skipQuotedFrom_char hc, ih]

/-- Texts are spelled piece by piece, so a spelling of a long text is put together from those of its
parts. -/
theorem SpellsText.append {t spelled' : List Char} (hs : SpellsText s spelled)
    (ht : SpellsText t spelled') : SpellsText (s ++ t) (spelled ++ spelled') := by
  induction hs with
  | nil => exact ht
  | cons hc hs ih =>
    rw [List.cons_append, List.append_assoc]
    exact .cons hc ih

/-- A text that needs no escape is spelled by itself, which spares the examples an escape for each
character. -/
theorem spellsText_self (h : ∀ c ∈ s, 0x20 ≤ c.toNat ∧ c ≠ '"' ∧ c ≠ '\\') : SpellsText s s := by
  induction s with
  | nil => exact .nil
  | cons c s ih =>
    obtain ⟨hcontrol, hquote, hslash⟩ := h c List.mem_cons_self
    exact .cons (.plain hcontrol hquote hslash) (ih fun d hd => h d (List.mem_cons_of_mem c hd))

end Quoted

/-! ### First characters -/

/-- The characters that a document of some kind begins with. No two kinds share one, so a reader
that looks at the first character knows which kind it has before it. -/
def Begins : Document → Char → Prop
  | .null, c => c = 'n'
  | .flag true, c => c = 't'
  | .flag false, c => c = 'f'
  | .number false _, c => c.isDigit = true
  | .number true _, c => c = '-'
  | .text _, c => c = '"'
  | .list _, c => c = '['
  | .object _, c => c = '{'

section Begins

variable {document : Document} {c : Char} {s : List Char}

/-- A document begins with no space, and not with what closes a value. -/
theorem Begins.ne (h : Begins document c) :
    c ≠ ' ' ∧ c ≠ '\n' ∧ c ≠ '\t' ∧ c ≠ '\r' ∧ c ≠ ',' ∧ c ≠ ']' ∧ c ≠ '}' := by
  cases document with
  | number negative t =>
    cases negative with
    | false => refine ⟨?_, ?_, ?_, ?_, ?_, ?_, ?_⟩ <;> rintro rfl <;> cases h
    | true =>
      obtain rfl := h
      decide
  | flag value =>
    cases value <;> obtain rfl := h <;> decide
  | null | text value | list items | object members =>
    obtain rfl := h
    decide

/-- No value begins with a space, so skipping stops in front of it. -/
theorem Begins.dropSpace_cons (h : Begins document c) (tail : List Char) :
    dropSpace (c :: tail) = c :: tail := by
  obtain ⟨hspace, hline, htab, hreturn, -⟩ := h.ne
  rw [dropSpace, if_neg (by simp [hspace, hline, htab, hreturn])]

/-- A number without its sign begins with a digit. The readers choose what to read by the first
character, and this is what they see of a number. -/
theorem SpellsNumber.begins {t : NumberText} (h : SpellsNumber t s) :
    ∃ c tail, s = c :: tail ∧ c.isDigit = true := by
  obtain @⟨exponent, hwell, -⟩ := h
  obtain ⟨c, digits, hwhole⟩ := List.exists_cons_of_ne_nil hwell.whole.1
  refine ⟨c, digits ++ (pointed t.fraction ++ exponent), by rw [hwhole]; rfl, ?_⟩
  exact hwell.whole.2 c (hwhole ▸ List.mem_cons_self)

/-- A number is told from everything that begins with another character, so a reader that expects a
bracket or a quote is not deceived by one. -/
theorem SpellsNumber.append_ne {t : NumberText} (h : SpellsNumber t s) (hc : c.isDigit = false)
    (rest tail : List Char) : s ++ rest ≠ c :: tail := by
  obtain ⟨d, digits, rfl, hdigit⟩ := h.begins
  rintro heq
  obtain ⟨rfl, -⟩ := List.cons.inj heq
  rw [hc] at hdigit
  cases hdigit

/-- A value without space around it begins with the character by which the readers know its kind
(`Begins`). -/
theorem SpellsBare.begins (h : SpellsBare document s) :
    ∃ c tail, s = c :: tail ∧ Begins document c := by
  cases h with
  | number h => exact h.begins
  | null | yes | no | negative | text | emptyList | list | emptyObject | object =>
    exact ⟨_, _, rfl, rfl⟩

/-- Skipping space leaves a bare value as it is, with whatever follows it. -/
theorem SpellsBare.dropSpace_append (h : SpellsBare document s) (rest : List Char) :
    dropSpace (s ++ rest) = s ++ rest := by
  obtain ⟨c, tail, rfl, hbegins⟩ := h.begins
  exact hbegins.dropSpace_cons (tail ++ rest)

/-- Behind the space in front of a document stands the document, bare, and what followed it. All
readers drop that space first, so this is the step by which a spelling meets a reader. -/
theorem Spells.dropSpace_append (h : Spells document s) :
    ∃ bare, SpellsBare document bare ∧ bare.length ≤ s.length ∧
      ∀ rest, dropSpace (s ++ rest) = bare ++ rest := by
  obtain @⟨_, space, bare, hspace, hbare⟩ := h
  refine ⟨bare, hbare, by simp, fun rest => ?_⟩
  rw [List.append_assoc, Json.dropSpace_append hspace, hbare.dropSpace_append]

/-- A bare value is spelled with no space around it; by this the compact form is a case of the loose
one. -/
theorem SpellsBare.spells (h : SpellsBare document s) : Spells document s :=
  .spaced isSpace_nil h

/-- Behind the space in front of the items of a list stand the items. -/
theorem SpellsItems.dropSpace_append {items : List Document} (h : SpellsItems items s) :
    ∃ c tail, SpellsItems items (c :: tail) ∧ c ≠ ']' ∧ (c :: tail).length ≤ s.length ∧
      ∀ rest, dropSpace (s ++ rest) = c :: (tail ++ rest) := by
  cases h with
  | one h =>
    obtain ⟨bare, hbare, hlength, hdrop⟩ := h.dropSpace_append
    obtain ⟨c, tail, rfl, hbegins⟩ := hbare.begins
    exact ⟨c, tail, .one hbare.spells, hbegins.ne.2.2.2.2.2.1, hlength, hdrop⟩
  | @more _ _ s space more h hspace hrest =>
    obtain ⟨bare, hbare, hlength, hdrop⟩ := h.dropSpace_append
    obtain ⟨c, tail, rfl, hbegins⟩ := hbare.begins
    refine ⟨c, tail ++ (space ++ ',' :: more), .more hbare.spells hspace hrest,
      hbegins.ne.2.2.2.2.2.1, ?_, fun rest => ?_⟩
    · simp only [List.length_cons, List.length_append] at hlength ⊢
      omega
    · simp [hdrop]

/-- Behind the space in front of a member stands the quote that opens its name. -/
theorem SpellsMember.dropSpace_append {member : String × Document} (h : SpellsMember member s) :
    ∃ tail, SpellsMember member ('"' :: tail) ∧ ('"' :: tail).length ≤ s.length ∧
      ∀ rest, dropSpace (s ++ rest) = '"' :: (tail ++ rest) := by
  obtain @⟨name, value, before, spelled, space, s, hbefore, hname, hspace, hvalue⟩ := h
  refine ⟨spelled ++ '"' :: (space ++ ':' :: s), ?_, by simp, fun rest => ?_⟩
  · exact .intro isSpace_nil hname hspace hvalue
  · rw [List.append_assoc, Json.dropSpace_append hbefore]
    rfl

/-- The members of an object begin with the quote of a name once the space in front is skipped, and
what is left spells them still and is not longer. The bound on the length is what the fuel of
`skipMembers` is measured against. -/
theorem SpellsMembers.dropSpace_append {members : List (String × Document)}
    (h : SpellsMembers members s) :
    ∃ tail, SpellsMembers members ('"' :: tail) ∧ ('"' :: tail).length ≤ s.length ∧
      ∀ rest, dropSpace (s ++ rest) = '"' :: (tail ++ rest) := by
  cases h with
  | one h =>
    obtain ⟨tail, hmember, hlength, hdrop⟩ := h.dropSpace_append
    exact ⟨tail, .one hmember, hlength, hdrop⟩
  | @more _ _ s space more h hspace hrest =>
    obtain ⟨tail, hmember, hlength, hdrop⟩ := h.dropSpace_append
    refine ⟨tail ++ (space ++ ',' :: more), .more hmember hspace hrest, ?_, fun rest => ?_⟩
    · simp only [List.length_cons, List.length_append] at hlength ⊢
      omega
    · simp [hdrop]

end Begins

end EchoBench.Proofs.Json
