import EchoBench.Json.Value
import EchoBench.Proofs.Json.Document

/-!
# `EchoBench.Proofs.Json.Skip`: every document can be skipped

A value that nobody asked for is skipped by its grammar alone. Whatever spells a document is skipped
to its end (`skipValue_append`), if there are two units of fuel for each of its characters.

A list is skipped by its items and an object by its members, one after the other, and those are
documents themselves. So `Skips` says the three things together, for so much fuel, and `skips` shows
them by induction on the fuel: each call has one unit less for what is in it.
-/

set_option autoImplicit false

namespace EchoBench.Proofs.Json

open EchoBench.Json

/-- With so much fuel documents are skipped to their ends, and items and members to the bracket that
closes them. -/
structure Skips (fuel : Nat) : Prop where
  value : ∀ {document s rest}, Spells document s → EndsNumber rest → 2 * s.length ≤ fuel →
    skipValue fuel (s ++ rest) = .ok rest
  items : ∀ {items s space}, SpellsItems items s → IsSpace space → 2 * s.length + 1 ≤ fuel →
    ∀ rest, skipItems fuel (s ++ (space ++ ']' :: rest)) = .ok rest
  members : ∀ {members s space}, SpellsMembers members s → IsSpace space →
    2 * s.length + 1 ≤ fuel →
    ∀ rest, skipMembers fuel (s ++ (space ++ '}' :: rest)) = .ok rest

section Skip

variable {fuel : Nat} {s space rest : List Char}

/-- A number that nobody asked for is skipped to its end. Its value is not asked for, so there is no
condition on its size. -/
theorem skipNumber_append {t : NumberText} (h : SpellsNumber t s) (hrest : EndsNumber rest) :
    skipNumber (s ++ rest) = .ok rest := by
  rw [skipNumber, readNumberText_append h hrest]

/-- The text of a number is skipped as a number, from its first digit on. -/
theorem skipValue_number {t : NumberText} (h : SpellsNumber t s) (hrest : EndsNumber rest) :
    skipValue (fuel + 1) (s ++ rest) = .ok rest := by
  obtain ⟨c, tail, rfl, hdigit⟩ := h.begins
  have hne : c ≠ '"' ∧ c ≠ '[' ∧ c ≠ '{' ∧ c ≠ 'n' ∧ c ≠ 't' ∧ c ≠ 'f' ∧ c ≠ '-' := by
    refine ⟨?_, ?_, ?_, ?_, ?_, ?_, ?_⟩ <;> rintro rfl <;> cases hdigit
  have hdrop := (SpellsBare.number h).dropSpace_append rest
  obtain ⟨h₁, h₂, h₃, h₄, h₅, h₆, h₇⟩ := hne
  rw [skipValue, hdrop, List.cons_append]
  simp only [h₁, h₂, h₃, h₄, h₅, h₆, h₇, hdigit, if_true, if_false]
  exact skipNumber_append h hrest

/-- A list with items in it is skipped by its items. The fuel goes down by one for the bracket,
which is how the induction over nested values gets on. -/
theorem skipValue_list {items : List Document} (h : SpellsItems items s) (fuel : Nat) :
    ∃ s', SpellsItems items s' ∧ s'.length ≤ s.length ∧
      ∀ rest, skipValue (fuel + 1) ('[' :: (s ++ rest)) = skipItems fuel (s' ++ rest) := by
  obtain ⟨c, tail, hitems, hc, hlength, hdrop⟩ := h.dropSpace_append
  refine ⟨c :: tail, hitems, hlength, fun rest => ?_⟩
  have hbegins : dropSpace ('[' :: (s ++ rest)) = '[' :: (s ++ rest) := by simp [dropSpace]
  rw [skipValue, hbegins]
  simp only [hdrop, List.cons_append, Char.reduceEq, if_true, if_false]
  -- The closing bracket would be that of a list without items.
  split
  · next heq => exact absurd (List.cons.inj heq).1 hc
  · rfl

/-- An object with members in it is skipped by its members, again with one less of fuel. -/
theorem skipValue_object {members : List (String × Document)} (h : SpellsMembers members s)
    (fuel : Nat) :
    ∃ s', SpellsMembers members s' ∧ s'.length ≤ s.length ∧
      ∀ rest, skipValue (fuel + 1) ('{' :: (s ++ rest)) = skipMembers fuel (s' ++ rest) := by
  obtain ⟨tail, hmembers, hlength, hdrop⟩ := h.dropSpace_append
  refine ⟨'"' :: tail, hmembers, hlength, fun rest => ?_⟩
  have hbegins : dropSpace ('{' :: (s ++ rest)) = '{' :: (s ++ rest) := by simp [dropSpace]
  rw [skipValue, hbegins]
  simp only [hdrop, List.cons_append, Char.reduceEq, if_true, if_false]
  rfl

/-- A document is skipped with one unit more than what is in it, which is the step from items and
members to the value around them. -/
theorem Skips.value_succ (h : Skips fuel) {document : Document} (hs : SpellsBare document s)
    (hrest : EndsNumber rest) (hfuel : 2 * s.length ≤ fuel + 1) :
    skipValue (fuel + 1) (s ++ rest) = .ok rest := by
  have hdrop := hs.dropSpace_append rest
  cases hs with
  | null | yes | no => rfl
  | number ht => exact skipValue_number ht hrest
  | negative ht =>
    rw [skipValue, hdrop]
    exact skipNumber_append ht hrest
  | text hvalue =>
    rw [skipValue, hdrop]
    simpa using skipQuoted_append hvalue rest
  | emptyList hspace =>
    have hclose := dropSpace_append_cons hspace (c := ']') (by simp) rest
    rw [skipValue, hdrop]
    simp [hclose]
  | emptyObject hspace =>
    have hclose := dropSpace_append_cons hspace (c := '}') (by simp) rest
    rw [skipValue, hdrop]
    simp [hclose]
  | @list items s space hitems hspace =>
    -- The opening bracket takes one character, and so two units of fuel: one for this call and one
    -- more for the list than for a value.
    obtain ⟨s', hitems', hlength, hskip⟩ := skipValue_list hitems fuel
    have henough : 2 * s'.length + 1 ≤ fuel := by
      simp only [List.length_cons, List.length_append] at hfuel
      omega
    have hrest := h.items hitems' hspace henough rest
    rw [← hskip] at hrest
    simpa using hrest
  | @object members s space hmembers hspace =>
    obtain ⟨s', hmembers', hlength, hskip⟩ := skipValue_object hmembers fuel
    have henough : 2 * s'.length + 1 ≤ fuel := by
      simp only [List.length_cons, List.length_append] at hfuel
      omega
    have hrest := h.members hmembers' hspace henough rest
    rw [← hskip] at hrest
    simpa using hrest

/-- Space in front of a document is skipped with it, so that the spellings with space follow from
the bare ones. -/
theorem skipValue_dropSpace (fuel : Nat) (s : List Char) :
    skipValue fuel s = skipValue fuel (dropSpace s) := by
  cases fuel with
  | zero => rfl
  | succ fuel => rw [skipValue, skipValue, dropSpace_dropSpace]

/-- If values are skipped with so much fuel, lists are with one unit more: each item is a value, and
after each comma the rest of the list is a shorter list. The induction is on the items. -/
theorem Skips.items_succ (h : Skips fuel) {items : List Document} (hs : SpellsItems items s)
    (hspace : IsSpace space) (hfuel : 2 * s.length + 1 ≤ fuel + 1) (rest : List Char) :
    skipItems (fuel + 1) (s ++ (space ++ ']' :: rest)) = .ok rest := by
  cases hs with
  | one hitem =>
    have hvalue := h.value hitem
      (endsNumber_space_append hspace (.inr (.inl rfl)) rest) (by omega)
    have hclose := dropSpace_append_cons hspace (c := ']') (by simp) rest
    rw [skipItems, hvalue]
    simp [bind, Except.bind, hclose]
  | @more _ _ s between more hitem hbetween hmore =>
    simp only [List.length_append, List.length_cons] at hfuel
    have hvalue := h.value hitem
      (endsNumber_space_append hbetween (.inl rfl) (more ++ (space ++ ']' :: rest))) (by omega)
    have hcomma := dropSpace_append_cons hbetween (c := ',') (by simp)
      (more ++ (space ++ ']' :: rest))
    have hrest := h.items hmore hspace (by omega) rest
    simp only [List.append_assoc, List.cons_append]
    rw [skipItems, hvalue]
    simp [bind, Except.bind, hcomma, hrest]

/-- A member is skipped to the comma or the brace behind it. Its name is scanned and not decoded, so
escapes that stand for no character are let pass, as they are in any skipped text. -/
theorem Skips.member (h : Skips fuel) {member : String × Document} (hs : SpellsMember member s)
    (hrest : EndsNumber rest) (hfuel : 2 * s.length ≤ fuel) :
    (∀ more, dropSpace rest = ',' :: more →
      skipMembers (fuel + 1) (s ++ rest) = skipMembers fuel more) ∧
    ∀ more, dropSpace rest = '}' :: more → skipMembers (fuel + 1) (s ++ rest) = .ok more := by
  obtain @⟨name, value, before, spelled, space, s, hbefore, hname, hspace, hvalue⟩ := hs
  simp only [List.length_append, List.length_cons] at hfuel
  have hopen := dropSpace_append_cons hbefore (c := '"') (by simp)
    (spelled ++ '"' :: (space ++ ':' :: (s ++ rest)))
  have hquoted := skipQuoted_append hname (space ++ ':' :: (s ++ rest))
  have hcolon := dropSpace_append_cons hspace (c := ':') (by simp) (s ++ rest)
  have hskip := h.value hvalue hrest (by omega)
  simp only [List.append_assoc, List.cons_append]
  rw [skipMembers, hopen]
  constructor
  · intro more hcomma
    simp only [hquoted, bind, Except.bind, hcolon, hskip, hcomma]
  · intro more hclose
    simp only [hquoted, bind, Except.bind, hcolon, hskip, hclose]

/-- If values are skipped with so much fuel, so are the members of an object with one unit more. The
name is skipped as a text and the value behind it as a value; the induction is on the members. -/
theorem Skips.members_succ (h : Skips fuel) {members : List (String × Document)}
    (hs : SpellsMembers members s) (hspace : IsSpace space)
    (hfuel : 2 * s.length + 1 ≤ fuel + 1) (rest : List Char) :
    skipMembers (fuel + 1) (s ++ (space ++ '}' :: rest)) = .ok rest := by
  cases hs with
  | one hmember =>
    have hends := endsNumber_space_append hspace (c := '}') (.inr (.inr rfl)) rest
    have hclose := dropSpace_append_cons hspace (c := '}') (by simp) rest
    exact (h.member hmember hends (by omega)).2 rest hclose
  | @more _ _ s between more hmember hbetween hmore =>
    simp only [List.length_append, List.length_cons] at hfuel
    have hends := endsNumber_space_append hbetween (c := ',') (.inl rfl)
      (more ++ (space ++ '}' :: rest))
    have hcomma := dropSpace_append_cons hbetween (c := ',') (by simp)
      (more ++ (space ++ '}' :: rest))
    have hrest := h.members hmore hspace (by omega) rest
    simp only [List.append_assoc, List.cons_append]
    rw [(h.member hmember hends (by omega)).1 _ hcomma]
    exact hrest

/-- A list that has an item takes at least one character, so two units of fuel are left for it. -/
theorem SpellsItems.length_pos {items : List Document} (h : SpellsItems items s) :
    0 < s.length := by
  obtain ⟨c, tail, -, -, hlength, -⟩ := h.dropSpace_append
  exact Nat.lt_of_lt_of_le (Nat.succ_pos _) hlength

/-- Whatever fuel there is, it is enough for what has so few characters. The induction is on the
fuel, for values, items and members at once, since each is made of the others. -/
theorem skips (fuel : Nat) : Skips fuel := by
  induction fuel with
  | zero =>
    refine ⟨fun {document s rest} hs hrest hfuel => ?_, fun _ _ hfuel => ?_, fun _ _ hfuel => ?_⟩
    · -- A document has at least one character.
      have hpos := (SpellsItems.one hs).length_pos
      omega
    · omega
    · omega
  | succ fuel ih =>
    refine ⟨fun {document s rest} hs hrest hfuel => ?_, ih.items_succ, ih.members_succ⟩
    obtain ⟨bare, hbare, hlength, hdrop⟩ := hs.dropSpace_append
    rw [skipValue_dropSpace, hdrop]
    exact ih.value_succ hbare hrest (by omega)

/-- Whatever spells a document is skipped, up to what follows it, however deep it is nested. So
members with names that are nobody's never keep a record from being read. -/
theorem skipValue_append {document : Document} (hs : Spells document s) (hrest : EndsNumber rest)
    (hfuel : 2 * s.length ≤ fuel) : skipValue fuel (s ++ rest) = .ok rest :=
  (skips fuel).value hs hrest hfuel

end Skip

end EchoBench.Proofs.Json
