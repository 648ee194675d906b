import EchoBench.Json.Value
import EchoBench.Proofs.Json.Document
import EchoBench.Proofs.Json.Number
import EchoBench.Proofs.Json.NumberText

/-!
# `EchoBench.Proofs.Json.Typed`: documents of a type that was asked for

A reader that asks for a type gets a value from the documents of that type and from no others. Which
documents those are, and what value each has, is said here for documents alone (`Document.text?`,
`Document.bounded?`, `Document.float?`, `Document.flag?`, `Document.texts?`), and each reader is
shown to give that value for whatever spells the document, or to find some fault.

A number is a whole number if it is written with digits alone and fits sixty-four bits, and a float
otherwise (`Document.number?`). The two readers of numbers take it from there. A whole number within
its limit is one that is written so (`bounded?_eq`); and any number is a float, unless the
arithmetic of the reader has no value for it. That value is the decimal of the number only up to
rounding, and a decimal near the greatest float may have none.
-/

set_option autoImplicit false

namespace EchoBench.Proofs.Json

open EchoBench.Json

namespace Document

/-- The text that a document is, if it is one. Like the four below it is what a field of that type
accepts, told of the tree and not of characters. -/
def text? : Document → Option String
  | .text value => some value
  | .null | .flag _ | .number _ _ | .list _ | .object _ => none

/-- The whole number from zero up to a limit that a document is: one that is written with digits
alone. -/
def bounded? (greatest : Nat) : Document → Option Nat
  | .number false t =>
    if t.isPlain = true ∧ digitsValue t.whole ≤ greatest then some (digitsValue t.whole) else none
  | .number true _ | .null | .flag _ | .text _ | .list _ | .object _ => none

/-- The number that a document is, as it is read: whole where it has neither fraction nor exponent
and fits, and otherwise the float that the reader scales to. -/
def number? : Document → Option Number
  | .number negative t => t.value? negative
  | .null | .flag _ | .text _ | .list _ | .object _ => none

/-- The float that a document is: any number that has a value, whole numbers with those that do not
fit a word included. -/
def float? (document : Document) : Option Float :=
  document.number?.map Number.toFloat

/-- Whether a document is `true` or `false`, and nothing where it is neither. No other value is
taken for one of the two. -/
def flag? : Document → Option Bool
  | .flag value => some value
  | .null | .number _ _ | .text _ | .list _ | .object _ => none

/-- The texts that a document is a list of, which it is only where every one of its items is a text.
-/
def texts? : Document → Option (List String)
  | .list items => items.mapM text?
  | .null | .flag _ | .number _ _ | .text _ | .object _ => none

end Document

section Readers

variable {document : Document} {s rest : List Char}

/-! ### Texts -/

/-- A text is read from a document that is one, whatever space stands in front of it. -/
theorem toOption_readText (h : Spells document s) (rest : List Char) :
    (readText (s ++ rest)).toOption = document.text?.map (·, rest) := by
  obtain ⟨bare, hbare, -, hdrop⟩ := h.dropSpace_append
  rw [readText, hdrop]
  cases hbare with
  | text hvalue =>
    have hread := unquote_append hvalue rest
    simp [hread, Except.map, Except.toOption, Document.text?]
  | number ht =>
    split
    · next heq => exact absurd heq (ht.append_ne rfl _ _)
    · rfl
  | null | yes | no | negative | emptyList | list | emptyObject | object => rfl

/-! ### Flags -/

/-- A flag is read from `true` and from `false`, and from no other word. -/
theorem toOption_readFlag (h : Spells document s) (rest : List Char) :
    (readFlag (s ++ rest)).toOption = document.flag?.map (·, rest) := by
  obtain ⟨bare, hbare, -, hdrop⟩ := h.dropSpace_append
  rw [readFlag, hdrop]
  cases hbare with
  | number ht =>
    split
    · next heq => exact absurd heq (ht.append_ne rfl _ _)
    · next heq => exact absurd heq (ht.append_ne rfl _ _)
    · rfl
  | yes | no | null | negative | text | emptyList | list | emptyObject | object => rfl

/-! ### Numbers -/

/-- Digits are read as the value of their number text, if it has one. -/
theorem toOption_readNumber {t : NumberText} (h : SpellsNumber t s) (hrest : EndsNumber rest)
    (negative : Bool) :
    (readNumber negative (s ++ rest)).toOption = (t.value? negative).map (·, rest) := by
  rw [readNumber, readNumberText_append h hrest]
  simp only [bind, Except.bind]
  cases t.value? negative <;> rfl

/-- A number is read from a document that is one, with or without a minus sign. Feeds both readers
of numbers, which differ only in what they accept. -/
theorem toOption_readAnyNumber (h : Spells document s) (hrest : EndsNumber rest)
    (expected : Expected) :
    (readAnyNumber expected (s ++ rest)).toOption = document.number?.map (·, rest) := by
  obtain ⟨bare, hbare, -, hdrop⟩ := h.dropSpace_append
  rw [readAnyNumber, hdrop]
  cases hbare with
  | number ht =>
    -- The first digit has not been taken yet when the number is read.
    rw [Document.number?, ← toOption_readNumber ht hrest]
    obtain ⟨c, tail, rfl, hdigit⟩ := ht.begins
    split
    · next heq =>
      obtain ⟨rfl, -⟩ := List.cons.inj heq
      cases hdigit
    · simp [hdigit]
  | negative ht => exact toOption_readNumber ht hrest true
  | null | yes | no | text | emptyList | list | emptyObject | object => rfl

/-- A number is read as a whole number if it is written so and fits, and else as a float. Zero with
a minus sign is a float, and so is a number below the least whole number of sixty-four bits. -/
theorem value?_cases (negative : Bool) (t : NumberText) :
    (t.isPlain = true ∧ negative = false ∧
      t.value? negative = some (.whole (digitsValue t.whole))) ∨
    (negative = true ∧ 0 < digitsValue t.whole ∧
      t.value? negative = some (.whole (-(digitsValue t.whole : Int)))) ∨
    ((t.isPlain = true → negative = false → UInt64.size ≤ digitsValue t.whole) ∧
      t.value? negative = t.magnitude?.map fun x => .float (if negative then -x else x)) := by
  unfold NumberText.value?
  dsimp only
  -- Three ways, in the order in which the reader tries them.
  split
  · next hfits =>
    simp only [Bool.and_eq_true, Bool.not_eq_true', decide_eq_true_eq] at hfits
    exact .inl ⟨hfits.1.1, hfits.1.2, rfl⟩
  · next hbeyond =>
    simp only [Bool.and_eq_true, Bool.not_eq_true', decide_eq_true_eq] at hbeyond
    split
    · next hfits =>
      simp only [Bool.and_eq_true, decide_eq_true_eq] at hfits
      exact .inr (.inl ⟨hfits.1.1.2, hfits.1.2, rfl⟩)
    · refine .inr (.inr ⟨fun hplain hsign => ?_, rfl⟩)
      exact Nat.le_of_not_lt fun hlt => hbeyond ⟨⟨hplain, hsign⟩, hlt⟩

/-- Whether a number that was read is a whole number from zero up to a limit. -/
def within (greatest : Nat) : Number → Option Nat
  | .whole n => if 0 ≤ n ∧ n.toNat ≤ greatest then some n.toNat else none
  | .float _ => none

/-- A document is a whole number up to a limit exactly if it is read as one. Beyond sixty-four bits
digits alone are read as a float, which is why the limit has to be within them. -/
theorem bounded?_eq {greatest : Nat} (hlimit : greatest < UInt64.size) (document : Document) :
    document.bounded? greatest = document.number?.bind (within greatest) := by
  cases document with
  | number negative t =>
    rw [Document.number?]
    rcases value?_cases negative t with
      ⟨hplain, rfl, hvalue⟩ | ⟨rfl, hpos, hvalue⟩ | ⟨hbeyond, hvalue⟩
    · simp [hvalue, Document.bounded?, within, hplain]
    · have hneg : ¬(0 ≤ -(digitsValue t.whole : Int) ∧
          (-(digitsValue t.whole : Int)).toNat ≤ greatest) := by omega
      rw [hvalue, Option.bind_some, within, if_neg hneg, Document.bounded?]
    · have hfloat : (t.value? negative).bind (within greatest) = none := by
        rw [hvalue]
        cases t.magnitude? <;> rfl
      rw [hfloat]
      cases negative with
      | true => rfl
      | false =>
        -- With digits alone and within the limit it would have been read as a whole number.
        refine if_neg fun h => ?_
        have hsize := hbeyond h.1 rfl
        omega
  | null | flag _ | text _ | list _ | object _ => rfl

/-! ### Whole numbers and floats -/

/-- A whole number is read from digits alone, without a sign and within the limit. -/
theorem toOption_readBounded (h : Spells document s) (hrest : EndsNumber rest)
    (expected : Expected) {greatest : Nat} (hlimit : greatest < UInt64.size) :
    (readBounded expected greatest (s ++ rest)).toOption
      = (document.bounded? greatest).map (·, rest) := by
  have hread := toOption_readAnyNumber h hrest expected
  have hcases : (readBounded expected greatest (s ++ rest)).toOption
      = (readAnyNumber expected (s ++ rest)).toOption.bind fun p =>
        (within greatest p.1).map (·, p.2) := by
    rw [readBounded]
    cases readAnyNumber expected (s ++ rest) with
    | error fault => rfl
    | ok p =>
      obtain ⟨n, rest⟩ := p
      cases n with
      | float x => rfl
      | whole n =>
        show Except.toOption (if _ then _ else _) = Option.map _ (if _ then _ else _)
        split <;> rfl
  rw [hcases, hread, bounded?_eq hlimit]
  cases document.number? <;> rfl

/-- A float is read from any number that has a value, and from nothing else. Both directions are
needed, since the acceptance of records is an equivalence. -/
theorem toOption_readFloat (h : Spells document s) (hrest : EndsNumber rest) :
    (readFloat (s ++ rest)).toOption = document.float?.map (·, rest) := by
  have hread := toOption_readAnyNumber h hrest .number
  have hcases : (readFloat (s ++ rest)).toOption
      = (readAnyNumber .number (s ++ rest)).toOption.map fun p => (p.1.toFloat, p.2) := by
    rw [readFloat]
    cases readAnyNumber .number (s ++ rest) <;> rfl
  rw [hcases, hread, Document.float?]
  cases document.number? <;> rfl

/-! ### Lists of texts -/

/-- The items of a list of texts are read up to the closing bracket, if each of them is a text. The
fuel goes down by one for each item, and each takes a character at least. -/
theorem toOption_readTextItems {items : List Document} (h : SpellsItems items s)
    {space : List Char} (hspace : IsSpace space) {fuel : Nat} (hfuel : s.length < fuel)
    (rest : List Char) :
    (readTextItems fuel (s ++ (space ++ ']' :: rest))).toOption
      = (items.mapM Document.text?).map (·, rest) := by
  induction items generalizing s fuel with
  | nil => cases h
  | cons item items ih =>
    obtain ⟨fuel, rfl⟩ : ∃ n, fuel = n + 1 := ⟨fuel - 1, by omega⟩
    cases h with
    | one hitem =>
      have hclose := dropSpace_append_cons hspace (c := ']') (by simp) rest
      rw [readTextItems, toOption_bind, toOption_readText hitem, List.mapM_cons]
      cases item.text? <;> simp [hclose, Except.toOption]
    | @more _ _ s between more hitem hbetween hmore =>
      -- The comma behind the item takes a character, so what is left is shorter.
      simp only [List.length_append, List.length_cons] at hfuel
      have hcomma := dropSpace_append_cons hbetween (c := ',') (by simp)
        (more ++ (space ++ ']' :: rest))
      have hmoreFuel : more.length < fuel := by omega
      have hrest := ih hmore hmoreFuel
      simp only [List.append_assoc, List.cons_append]
      rw [readTextItems, toOption_bind, toOption_readText hitem, List.mapM_cons]
      cases item.text? with
      | none => rfl
      | some text =>
        simp only [Option.map_some, Option.bind_some, hcomma, toOption_bind, hrest]
        cases items.mapM Document.text? <;> rfl

/-- A list of texts is read from a list whose items are texts, which may be empty. -/
theorem toOption_readTexts (h : Spells document s) (rest : List Char) :
    (readTexts (s ++ rest)).toOption = document.texts?.map (·, rest) := by
  obtain ⟨bare, hbare, -, hdrop⟩ := h.dropSpace_append
  rw [readTexts, hdrop]
  -- Only a list is asked for its items; any other kind is refused by its first character.
  cases hbare with
  | number ht =>
    split
    · next heq => exact absurd heq (ht.append_ne rfl _ _)
    · rfl
  | emptyList hspace =>
    have hclose := dropSpace_append_cons hspace (c := ']') (by simp) rest
    simp [hclose, Document.texts?, Except.toOption]
  | @list items s space hitems hspace =>
    obtain ⟨c, tail, hitems, hc, -, hdrop⟩ := hitems.dropSpace_append
    simp only [List.cons_append, List.append_assoc, List.nil_append, hdrop]
    split
    · next heq => exact absurd (List.cons.inj heq).1 hc
    · have hfuel : (c :: tail).length < (c :: (tail ++ (space ++ ']' :: rest))).length + 1 := by
        simp
      exact toOption_readTextItems hitems hspace hfuel rest
  | null | yes | no | negative | text | emptyObject | object => rfl

end Readers

end EchoBench.Proofs.Json
