import EchoBench.Proofs.Json.Skip
import EchoBench.Proofs.Json.Typed
import EchoBench.Proofs.Record.Codec

/-!
# `EchoBench.Proofs.Record.Document`: which documents are records

`IsRecord` says which JSON documents are a record, and which record they are: an object in which
every field of the record has its name once, whatever other members there are and in whatever order,
or a list of the values in the order of the fields. `ofText_eq_ok_iff` says that a text is read as a
record exactly if it is such a document, however the document is spelled.

A time is any number that has a value, which not every number in the range of floats has: its digits
may make up a product that is infinite although the number is not beyond the greatest float
(`refused_in_range`). A number of no field needs no value.

The reader gathers the values in a draft. What it does with a member, and with the items of a list,
is said for documents alone (`addMember?`, `assign?`), and so is what comes out in the end
(`record?`). One half of the proof takes the reader from the spelling to the document
(`toOption_readMembers`, `toOption_readItems`), and the other half shows that what is gathered is
what `IsRecord` asks for (`foldlM_addMember?_eq_some_iff`, `assign?_eq_some_iff`).
-/

set_option autoImplicit false

namespace EchoBench.Proofs.Record

open EchoBench.Json
open EchoBench.Text
open EchoBench.Proofs.Json

/-! ### Records -/

/-- The value that a document is for a field, by the type of that field. This and `IsRecord` are the
specification of a record; the functions below are only the way to it. -/
def valueOf? : (f : Field) → Document → Option f.Value
  | .taskId, document | .host, document => document.text?
  | .port, document => (document.bounded? (UInt16.size - 1)).map .ofNat
  | .sent, document | .received, document => (document.bounded? (UInt64.size - 1)).map .ofNat
  | .connected, document => document.flag?
  | .totalMs, document | .averageMs, document => document.float?
  | .errors, document => document.texts?

/-- The values of the members with a name, in order. A record wants exactly one of them for each of
its fields, and does not ask for names that are nobody's. -/
def valuesOf (name : String) (members : List (String × Document)) : List Document :=
  (members.filter (·.1 = name)).map (·.2)

/-- A document is a record: an object with one value for each field, or a list of the values. -/
def IsRecord : Document → TaskRecord → Prop
  | .object members, r => ∀ f : Field, ∃ document,
    valuesOf f.name members = [document] ∧ valueOf? f document = some (r.get f)
  | .list items, r =>
    List.Forall₂ (fun (f : Field) document => valueOf? f document = some (r.get f)) Field.all items
  | .null, _ | .flag _, _ | .number _ _, _ | .text _, _ => False

/-! ### Drafts -/

/-- A draft with a member of an object. A name that is nobody's changes nothing, and a field that
has a value already, or is given one of another type, spoils the draft. -/
def addMember? (d : Draft) (member : String × Document) : Option Draft :=
  match Field.ofName? member.1 with
  | some f => if (d f).isSome then none else (valueOf? f member.2).map (d.set f)
  | none => some d

/-- A draft with the items of a list for some fields, each for the field at its place, and nothing
where there are too many or too few. -/
def assign? : Draft → List Field → List Document → Option Draft
  | d, [], [] => some d
  | d, f :: fields, item :: items =>
    (valueOf? f item).bind fun v => assign? (d.set f v) fields items
  | _, [], _ :: _ | _, _ :: _, [] => none

/-- The record that a document is, as it is put together member by member or item by item. It is
what the reader computes without the characters, and `record?_eq_some_iff` ties it to `IsRecord`. -/
def record? : Document → Option TaskRecord
  | .object members => (members.foldlM addMember? .empty).bind (·.record.toOption)
  | .list items => (assign? .empty Field.all items).bind (·.record.toOption)
  | .null | .flag _ | .number _ _ | .text _ => none

section Drafts

variable {d d' : Draft} {r : TaskRecord}

/-- A draft gives a record if and only if it has all nine values, and they are those of the record.
-/
theorem record_eq_some_iff : d.record.toOption = some r ↔ ∀ f, d f = some (r.get f) := by
  rw [toOption_eq_some_iff]
  exact ⟨get_of_record, record_of_get⟩

/-- The value of a field with a document more under its name: the step of `addMember?` seen from one
field, since fields do not mind each other. -/
def addValue? (f : Field) : Option f.Value → Document → Option (Option f.Value)
  | none, document => (valueOf? f document).map some
  | some _, _ => none

/-- The values of a name are gathered member by member, in the order of the object. -/
theorem valuesOf_cons (name : String) (member : String × Document)
    (members : List (String × Document)) :
    valuesOf name (member :: members)
      = if member.1 = name then member.2 :: valuesOf name members else valuesOf name members := by
  rw [valuesOf, List.filter_cons]
  split
  · next h => rw [if_pos (of_decide_eq_true h), List.map_cons, valuesOf]
  · next h => rw [if_neg fun hname => h (decide_eq_true hname), valuesOf]

/-- No two fields have one name, since every field is found under its own. -/
theorem name_injective {f g : Field} (h : f.name = g.name) : f = g := by
  have hf := Field.ofName?_name f
  rw [h, Field.ofName?_name] at hf
  exact (Option.some.inj hf).symm

/-- A member adds to the values of the field whose name it has, and to no others. -/
theorem addMember?_eq_some_iff (member : String × Document) (members : List (String × Document)) :
    (∃ d₁, addMember? d member = some d₁ ∧
      ∀ f : Field, (valuesOf f.name members).foldlM (addValue? f) (d₁ f) = some (d' f)) ↔
    ∀ f : Field, (valuesOf f.name (member :: members)).foldlM (addValue? f) (d f) = some (d' f) := by
  obtain ⟨name, document⟩ := member
  simp only [addMember?, valuesOf_cons]
  cases hname : Field.ofName? name with
  | none =>
    have hne : ∀ f : Field, name ≠ f.name := by
      rintro f rfl
      rw [Field.ofName?_name] at hname
      cases hname
    simp [hne]
  | some g =>
    obtain rfl := Field.name_of_ofName? hname
    dsimp only
    constructor
    · rintro ⟨d₁, hd₁, h⟩ f
      -- The field was free, or there would be no draft with the member.
      split at hd₁
      · cases hd₁
      · next hfree =>
        obtain ⟨v, hv, rfl⟩ := Option.map_eq_some_iff.mp hd₁
        have hnone : d g = none := Option.not_isSome_iff_eq_none.mp hfree
        by_cases hf : f = g
        · subst hf
          have hrest := h f
          rw [Draft.set_self] at hrest
          rw [if_pos rfl, List.foldlM_cons, hnone, addValue?, hv]
          exact hrest
        · rw [if_neg fun hsame => hf (name_injective hsame.symm), ← h f, Draft.set_of_ne d v hf]
    · intro h
      have hg := h g
      rw [if_pos rfl, List.foldlM_cons] at hg
      -- The field had no value yet, or it could not get this one.
      cases hnone : d g with
      | some v =>
        rw [hnone] at hg
        cases hg
      | none =>
        rw [hnone, addValue?] at hg
        cases hv : valueOf? g document with
        | none =>
          rw [hv] at hg
          cases hg
        | some v =>
          rw [hv] at hg
          refine ⟨d.set g v, by simp, fun f => ?_⟩
          by_cases hf : f = g
          · subst hf
            rw [Draft.set_self]
            exact hg
          · have hrest := h f
            rwa [if_neg fun hsame => hf (name_injective hsame.symm), ← Draft.set_of_ne d v hf]
              at hrest

/-- The values of a field come from the members that have its name, and from no others. -/
theorem foldlM_addMember?_eq_some_iff (members : List (String × Document)) :
    members.foldlM addMember? d = some d' ↔
      ∀ f : Field, (valuesOf f.name members).foldlM (addValue? f) (d f) = some (d' f) := by
  induction members generalizing d with
  | nil =>
    simp only [List.foldlM_nil, valuesOf, List.filter_nil, List.map_nil]
    exact ⟨fun h f => congrArg _ (congrFun (Option.some.inj h) f),
      fun h => congrArg some (funext fun f => Option.some.inj (h f))⟩
  | cons member members ih =>
    rw [← addMember?_eq_some_iff, List.foldlM_cons]
    simp only [← ih]
    exact Option.bind_eq_some_iff

/-- A field gets its value from the one member that has its name. With none there is no value, and a
second one spoils it, whatever the two are. -/
theorem foldlM_addValue?_eq_some_iff {f : Field} {v : f.Value} (documents : List Document) :
    documents.foldlM (addValue? f) none = some (some v) ↔
      ∃ document, documents = [document] ∧ valueOf? f document = some v := by
  match documents with
  | [] => simp
  | [document] => simp [addValue?]
  | first :: second :: documents =>
    -- The second value is refused, whatever it is.
    cases hfirst : valueOf? f first <;> simp [addValue?, hfirst]

/-- Items that are assigned to other fields leave a field as it was. -/
theorem assign?_of_not_mem {fields : List Field} {items : List Document} {f : Field}
    (h : assign? d fields items = some d') (hf : f ∉ fields) : d' f = d f := by
  induction fields generalizing d items with
  | nil =>
    cases items with
    | nil => cases h; rfl
    | cons item items => cases h
  | cons g fields ih =>
    cases items with
    | nil => cases h
    | cons item items =>
      obtain ⟨v, -, h⟩ := Option.bind_eq_some_iff.mp h
      rw [ih h fun hmem => hf (List.mem_cons_of_mem g hmem)]
      exact Draft.set_of_ne d v fun hsame => hf (hsame ▸ List.mem_cons_self)

/-- The items of a list are the values of the fields in order. The fields are told apart by `nodup`,
so a later item never touches an earlier field. -/
theorem assign?_eq_some_iff {fields : List Field} (hnodup : fields.Nodup) (items : List Document) :
    (∃ d', assign? d fields items = some d' ∧ ∀ f ∈ fields, d' f = some (r.get f)) ↔
      List.Forall₂ (fun (f : Field) document => valueOf? f document = some (r.get f)) fields
        items := by
  induction fields generalizing d items with
  | nil => cases items <;> simp [assign?]
  | cons f fields ih =>
    obtain ⟨hf, hnodup⟩ := List.nodup_cons.mp hnodup
    cases items with
    | nil => simp [assign?]
    | cons item items =>
      rw [List.forall₂_cons, ← ih hnodup (d := d.set f (r.get f)), assign?]
      constructor
      · rintro ⟨d', h, hvalues⟩
        obtain ⟨v, hv, h⟩ := Option.bind_eq_some_iff.mp h
        -- What comes later is for other fields, so this value is the one that is kept.
        have hkept := assign?_of_not_mem h hf
        rw [Draft.set_self, hvalues f List.mem_cons_self] at hkept
        obtain rfl := Option.some.inj hkept
        exact ⟨hv, d', h, fun g hg => hvalues g (List.mem_cons_of_mem f hg)⟩
      · rintro ⟨hv, d', h, hvalues⟩
        refine ⟨d', Option.bind_eq_some_iff.mpr ⟨_, hv, h⟩, fun g hg => ?_⟩
        rcases List.mem_cons.mp hg with rfl | hg
        · rw [assign?_of_not_mem h hf, Draft.set_self]
        · exact hvalues g hg

/-- What comes out in the end is the record that the document is: the computation and the
specification `IsRecord` agree on every document, in both directions. -/
theorem record?_eq_some_iff (document : Document) :
    record? document = some r ↔ IsRecord document r := by
  cases document with
  | object members =>
    simp only [record?, IsRecord, Option.bind_eq_some_iff, record_eq_some_iff,
      foldlM_addMember?_eq_some_iff, ← foldlM_addValue?_eq_some_iff]
    constructor
    · rintro ⟨d, hfold, hd⟩ f
      rw [← hd f]
      exact hfold f
    · intro h
      exact ⟨fun f => some (r.get f), h, fun f => rfl⟩
  | list items =>
    rw [record?, IsRecord, ← assign?_eq_some_iff Field.nodup_all (d := .empty)]
    simp [Option.bind_eq_some_iff, record_eq_some_iff, Field.mem_all]
  | null | flag _ | number _ _ | text _ => simp [record?, IsRecord]

end Drafts

/-! ### Objects -/

section Readers

variable {d : Draft} {document : Document} {s space rest : List Char}

/-- A field is read from the documents that are values of it, one type after the other; the types
are those of `Json/Typed`. -/
theorem toOption_read (f : Field) (h : Spells document s) (hrest : EndsNumber rest) :
    (f.read (s ++ rest)).toOption = (valueOf? f document).map (·, rest) := by
  cases f with
  | taskId | host => exact toOption_readText h rest
  | port =>
    rw [Field.read, toOption_map, toOption_readBounded h hrest .bits16 (by decide), valueOf?,
      Option.map_map, Option.map_map]
    rfl
  | sent | received =>
    rw [Field.read, toOption_map, toOption_readBounded h hrest .bits64 (by decide), valueOf?,
      Option.map_map, Option.map_map]
    rfl
  | connected => exact toOption_readFlag h rest
  | totalMs | averageMs => exact toOption_readFloat h hrest
  | errors => exact toOption_readTexts h rest

/-- The colon between a name and its value may have space in front of it. -/
theorem readColon_append (hspace : IsSpace space) (rest : List Char) :
    readColon (space ++ ':' :: rest) = .ok rest := by
  rw [readColon, dropSpace_append_cons hspace (by simp)]
  rfl

/-- What follows a name is read up to what follows its value: as the value of a field, or as one
that nobody asked for. -/
theorem toOption_readNamed (d : Draft) (name : String) (hspace : IsSpace space)
    (h : Spells document s) (hrest : EndsNumber rest) {fuel : Nat} (hfuel : 2 * s.length ≤ fuel) :
    (readNamed fuel name d (space ++ ':' :: (s ++ rest))).toOption
      = (addMember? d (name, document)).map (·, rest) := by
  rw [readNamed, addMember?]
  cases Field.ofName? name with
  | none =>
    simp only [readColon_append hspace, bind, Except.bind, skipValue_append h hrest hfuel]
    rfl
  | some f =>
    dsimp only
    split
    · rfl
    · have hread := toOption_read f h hrest
      rw [readColon_append hspace]
      show (f.read (s ++ rest) >>= fun p => .ok (d.set f p.1, p.2)).toOption = _
      rw [toOption_bind, hread]
      cases valueOf? f document <;> rfl

/-- A member is read up to what follows it. If its name is that of a field, its value has to have
the type of that field and to be the first one; any other member is skipped. -/
theorem toOption_readMembers_member {member : String × Document} {t : List Char}
    (h : SpellsMember member s) (ht : dropSpace (s ++ rest) = '"' :: t)
    (hrest : EndsNumber rest) {fuel : Nat} (hfuel : 2 * s.length ≤ fuel) :
    (readMembers (fuel + 1) d t).toOption = (addMember? d member).bind fun d =>
      Except.toOption <| match dropSpace rest with
        | [] => .error .truncated
        | '}' :: rest => .ok (d, rest)
        | ',' :: rest =>
          match dropSpace rest with
          | [] => .error .truncated
          | '"' :: rest => readMembers fuel d rest
          | _ => .error .malformed
        | _ => .error .malformed := by
  obtain @⟨name, value, before, spelled, space, s, hbefore, hname, hspace, hvalue⟩ := h
  simp only [List.length_append, List.length_cons] at hfuel
  -- Behind the opening quote stand the name, the colon and the value.
  obtain rfl : t = spelled ++ '"' :: (space ++ ':' :: (s ++ rest)) := by
    rw [List.append_assoc, List.cons_append, dropSpace_append_cons hbefore (by simp)] at ht
    simpa using ht.symm
  have hvalueFuel : 2 * s.length ≤ fuel := by omega
  have hnamed := toOption_readNamed d name hspace hvalue hrest hvalueFuel
  rw [readMembers, unquote_append hname]
  show (readNamed fuel (String.ofList name.toList) d _ >>= _).toOption = _
  rw [String.ofList_toList, toOption_bind, hnamed]
  cases addMember? d (name, value) <;> rfl

/-- The members of an object are read up to the closing brace. Each goes into the draft as
`addMember?` says, and the first one that spoils it ends the reading. -/
theorem toOption_readMembers (d : Draft) {members : List (String × Document)} {t : List Char}
    (h : SpellsMembers members s) (hspace : IsSpace space)
    (ht : dropSpace (s ++ (space ++ '}' :: rest)) = '"' :: t) {fuel : Nat}
    (hfuel : 2 * s.length < fuel) :
    (readMembers fuel d t).toOption = (members.foldlM addMember? d).map (·, rest) := by
  induction members generalizing s d t fuel with
  | nil => cases h
  | cons member members ih =>
    obtain ⟨fuel, rfl⟩ : ∃ n, fuel = n + 1 := ⟨fuel - 1, by omega⟩
    rw [List.foldlM_cons]
    -- What follows the member ends the object or goes on with the next one.
    cases h with
    | one hmember =>
      have hends := endsNumber_space_append hspace (c := '}') (.inr (.inr rfl)) rest
      have hclose := dropSpace_append_cons hspace (c := '}') (by simp) rest
      rw [toOption_readMembers_member hmember ht hends (by omega), hclose]
      cases addMember? d member <;> rfl
    | @more _ _ s between more hmember hbetween hmore =>
      simp only [List.length_append, List.length_cons] at hfuel
      have hends := endsNumber_space_append hbetween (c := ',') (.inl rfl)
        (more ++ (space ++ '}' :: rest))
      have hcomma := dropSpace_append_cons hbetween (c := ',') (by simp)
        (more ++ (space ++ '}' :: rest))
      obtain ⟨tail, -, -, hdrop⟩ := hmore.dropSpace_append
      simp only [List.append_assoc, List.cons_append] at ht
      rw [toOption_readMembers_member hmember ht hends (by omega), hcomma]
      cases addMember? d member with
      | none => rfl
      | some d =>
        -- The next member is read with a unit of fuel less, and it has two characters less at least.
        have hmoreFuel : 2 * more.length < fuel := by omega
        have hrest := ih d hmore (hdrop (space ++ '}' :: rest)) hmoreFuel
        simp only [Option.bind_some, hdrop]
        exact hrest

/-- An object is read as the record that its members make, up to its closing brace, and refused if
they make none. -/
theorem toOption_readObject {members : List (String × Document)} (h : SpellsMembers members s)
    (hspace : IsSpace space) (rest : List Char) :
    (readObject (s ++ (space ++ '}' :: rest))).toOption
      = (record? (.object members)).map (·, rest) := by
  obtain ⟨tail, hmembers, -, hdrop⟩ := h.dropSpace_append
  have hopen : dropSpace ('"' :: tail ++ (space ++ '}' :: rest))
      = '"' :: (tail ++ (space ++ '}' :: rest)) :=
    dropSpace_append_cons isSpace_nil (by simp) _
  have hfuel : 2 * ('"' :: tail).length < skipFuel (tail ++ (space ++ '}' :: rest)) := by
    simp only [skipFuel, List.length_append, List.length_cons]
    omega
  have hread := toOption_readMembers .empty hmembers hspace hopen hfuel
  rw [readObject, hdrop]
  show (readMembers _ _ _ >>= fun p => p.1.record >>= fun r => .ok (r, p.2)).toOption = _
  rw [toOption_bind, hread, record?]
  -- Either some member is refused, or the draft of all of them is asked for its nine values.
  cases members.foldlM addMember? .empty with
  | none => rfl
  | some d =>
    show (d.record >>= fun r => .ok (r, rest)).toOption = _
    cases hrecord : d.record with
    | error fault => simp [hrecord, bind, Except.bind, Except.toOption]
    | ok r => simp [hrecord, bind, Except.bind, Except.toOption]

/-! ### Lists -/

/-- What stands behind an item of a list, up to the closing bracket: space, or a comma and the other
items. -/
inductive Behind : List Document → List Char → Prop
  | last {space : List Char} (hspace : IsSpace space) : Behind [] space
  | more {items : List Document} {between s space : List Char} (hbetween : IsSpace between)
    (h : SpellsItems items s) (hspace : IsSpace space) :
    Behind items (between ++ ',' :: (s ++ space))

/-- The items of a list are the first one and what stands behind it. -/
theorem exists_behind {item : Document} {items : List Document} (h : SpellsItems (item :: items) s)
    (hspace : IsSpace space) :
    ∃ s₁ s₂, Spells item s₁ ∧ Behind items s₂ ∧ s ++ space = s₁ ++ s₂ := by
  cases h with
  | one hitem => exact ⟨s, space, hitem, .last hspace, rfl⟩
  | @more _ _ s between more hitem hbetween hmore =>
    exact ⟨s, between ++ ',' :: (more ++ space), hitem, .more hbetween hmore hspace, by simp⟩

/-- What comes behind an item of a list goes on with no number, so an item that is a number ends
there. -/
theorem Behind.endsNumber {items : List Document} (h : Behind items s) (rest : List Char) :
    EndsNumber (s ++ ']' :: rest) := by
  cases h with
  | last hspace => exact endsNumber_space_append hspace (.inr (.inl rfl)) rest
  | more hbetween h hspace =>
    rw [List.append_assoc]
    exact endsNumber_space_append hbetween (.inl rfl) _

/-- What follows the closing bracket of a list, where that bracket comes next. -/
def closed? (s : List Char) : Option (List Char) :=
  match dropSpace s with
  | ']' :: rest => some rest
  | _ => none

/-- In a list the fields take their values in turn: the first item is read by the type of the first
field, and the rest of the list belongs to the other fields. -/
theorem readItems_cons {count : Nat} {t : List Char} (hnext : nextItem count s = .ok t) (f : Field)
    (fields : List Field) :
    readItems (f :: fields) count d s
      = f.read t >>= fun p => readItems fields (count + 1) (d.set f p.1) p.2 := by
  rw [readItems, hnext]
  rfl

/-- The items of a list are read up to the closing bracket, if there are as many as fields. -/
theorem toOption_readItems {items : List Document} (h : Behind items s) (fields : List Field)
    (count : Nat) (rest : List Char) :
    ((readItems fields (count + 1) d (s ++ ']' :: rest)).toOption.bind fun p =>
        (closed? p.2).map (p.1, ·))
      = (assign? d fields items).map (·, rest) := by
  induction fields generalizing d s items count with
  | nil =>
    cases h with
    | last hspace =>
      have hclose := dropSpace_append_cons hspace (c := ']') (by simp) rest
      simp [readItems, closed?, hclose, assign?, Except.toOption]
    | @more _ between s space hbetween h hspace =>
      have hcomma := dropSpace_append_cons hbetween (c := ',') (by simp) (s ++ space ++ ']' :: rest)
      cases items with
      | nil => cases h
      | cons item items =>
        -- There are more items than fields, and a comma stands where the list should end.
        show (closed? (between ++ ',' :: (s ++ space) ++ ']' :: rest)).map (d, ·) = none
        rw [List.append_assoc, List.cons_append, closed?, hcomma]
        rfl
  | cons f fields ih =>
    cases h with
    | last hspace =>
      -- There are fewer items than fields.
      have hclose := dropSpace_append_cons hspace (c := ']') (by simp) rest
      simp [readItems, nextItem, hclose, assign?, Except.toOption, bind, Except.bind]
    | @more _ between s space hbetween h hspace =>
      have hcomma := dropSpace_append_cons hbetween (c := ',') (by simp) (s ++ space ++ ']' :: rest)
      cases items with
      | nil => cases h
      | cons item items =>
        obtain ⟨s₁, s₂, hitem, hbehind, hs⟩ := exists_behind h hspace
        have hnext : nextItem (count + 1) (between ++ ',' :: (s ++ space) ++ ']' :: rest)
            = .ok (s₁ ++ (s₂ ++ ']' :: rest)) := by
          rw [← List.append_assoc, ← hs, List.append_assoc, List.cons_append, nextItem, hcomma]
          rfl
        rw [readItems_cons hnext, toOption_bind, toOption_read f hitem (hbehind.endsNumber rest),
          assign?]
        cases valueOf? f item with
        | none => rfl
        | some v => exact ih hbehind (count + 1)

/-- Behind the items of a list stands its closing bracket, and anything else there is a fault. -/
theorem toOption_close (r : TaskRecord) (s : List Char) :
    (match dropSpace s with
      | [] => Except.error Fault.truncated
      | ']' :: rest => .ok (r, rest)
      | _ => .error .malformed).toOption = (closed? s).map (r, ·) := by
  rw [closed?]
  split
  · next hnil => rw [hnil]; rfl
  · next hclose => rw [hclose]; rfl
  · next hnil hopen =>
    split
    · next hclose => exact absurd hclose (hopen _)
    · rfl

/-- A list is a record if it has all its values and ends behind them. The reader asks for the record
before it looks for the end, and that makes no difference here. -/
theorem toOption_readList_eq (s : List Char) :
    (readList s).toOption = ((readItems Field.all 0 .empty s).toOption.bind fun p =>
      (closed? p.2).map (p.1, ·)).bind fun p => p.1.record.toOption.map (·, p.2) := by
  rw [readList, toOption_bind]
  cases (readItems Field.all 0 .empty s).toOption with
  | none => rfl
  | some p =>
    obtain ⟨d, rest⟩ := p
    simp only [Option.bind_some, toOption_bind]
    cases hrecord : d.record.toOption with
    | none => cases closed? rest <;> simp [hrecord]
    | some r =>
      refine (toOption_close r rest).trans ?_
      cases closed? rest <;> simp [hrecord]

/-- A list is read as a record up to its closing bracket, if it has as many items as there are
fields, each of them a value of the field at its place. -/
theorem toOption_readList {items : List Document} (h : SpellsItems items s)
    (hspace : IsSpace space) (rest : List Char) :
    (readList (s ++ (space ++ ']' :: rest))).toOption
      = (record? (.list items)).map (·, rest) := by
  obtain ⟨c, tail, hitems, hc, -, hdrop⟩ := h.dropSpace_append
  cases items with
  | nil => cases h
  | cons item items =>
    obtain ⟨s₁, s₂, hitem, hbehind, hs⟩ := exists_behind hitems hspace
    have hnext : nextItem 0 (s ++ (space ++ ']' :: rest)) = .ok (s₁ ++ (s₂ ++ ']' :: rest)) := by
      rw [nextItem, hdrop, ← List.append_assoc s₁, ← hs]
      split
      · next heq => cases heq
      · next heq => exact absurd (List.cons.inj heq).1 hc
      · next heq =>
        -- No comma stands in front of the first item.
        obtain ⟨rfl, rfl⟩ := List.cons.inj heq
        simp
    have hread : (readItems Field.all 0 .empty (s ++ (space ++ ']' :: rest))).toOption.bind
        (fun p => (closed? p.2).map (p.1, ·))
          = (assign? .empty Field.all (item :: items)).map (·, rest) := by
      rw [Field.all, readItems_cons hnext, toOption_bind,
        toOption_read _ hitem (hbehind.endsNumber rest), assign?]
      cases valueOf? .taskId item with
      | none => rfl
      | some v => exact toOption_readItems hbehind _ 0 rest
    rw [toOption_readList_eq, hread, record?]
    cases assign? .empty Field.all (item :: items) <;> rfl

/-! ### Texts -/

/-- A document is read as the record that it is, be it an object or a list, and refused if it is
none. All that the reader of records does is in this equation; `ofText_eq_ok_iff` adds the space
around it and the end of the text. -/
theorem toOption_readRecord (h : Spells document s) (rest : List Char) :
    (readRecord (s ++ rest)).toOption = (record? document).map (·, rest) := by
  obtain ⟨bare, hbare, -, hdrop⟩ := h.dropSpace_append
  rw [readRecord, hdrop]
  -- A record is an object or a list. Any other kind is refused by its first character.
  cases hbare with
  | number ht =>
    split
    · next heq => exact absurd heq (ht.append_ne rfl _ _)
    · next heq => exact absurd heq (ht.append_ne rfl _ _)
    · rfl
  | emptyList hspace =>
    have hclose := dropSpace_append_cons hspace (c := ']') (by simp) rest
    simp [readList, readItems, Field.all, nextItem, hclose, record?, assign?, bind, Except.bind,
      Except.toOption]
  | list hitems hspace => simpa using toOption_readList hitems hspace rest
  | emptyObject hspace =>
    have hclose := dropSpace_append_cons hspace (c := '}') (by simp) rest
    simp [readObject, hclose, record?, toOption_map]
  | object hmembers hspace => simpa using toOption_readObject hmembers hspace rest
  | null | yes | no | negative | text => rfl

/-- A text is read as a record exactly if it is a document that is this record. -/
theorem ofText_eq_ok_iff {text : String} (h : IsText document text) (r : TaskRecord) :
    TaskRecord.ofText text = .ok r ↔ IsRecord document r := by
  obtain ⟨s, space, htext, hs, hspace⟩ := h
  -- Nothing but space stands behind the document.
  have hend : dropSpace space = [] := by
    have hnil := dropSpace_append hspace []
    rwa [List.append_nil] at hnil
  rw [← toOption_eq_some_iff, ← record?_eq_some_iff, TaskRecord.ofText, htext, toOption_bind,
    toOption_readRecord hs]
  cases record? document with
  | none => simp
  | some r' => simp [hend, Except.toOption]

end Readers

/-! ### An object -/

/-- A text of characters that need no escape is spelled by itself. -/
theorem spellsText_plain (s : String)
    (h : s.toList.all (fun c => 0x20 ≤ c.toNat && c != '"' && c != '\\') = true) :
    SpellsText s.toList s.toList := by
  refine spellsText_self fun c hc => ?_
  simpa [and_assoc] using List.all_eq_true.mp h c hc

/-- A text is spelled between quotes, however its characters are spelled; the bare form has no space
around it. -/
theorem spells_text {s : String} {spelled : List Char} (h : SpellsText s.toList spelled) :
    Spells (.text s) ('"' :: (spelled ++ ['"'])) :=
  (SpellsBare.text h).spells

/-- A whole number is spelled by its digits, so the numbers of a given document are spelled by
computing them. -/
theorem spells_number (n : Nat) : Spells (.number false (wholeText n)) (decimal n) :=
  (SpellsBare.number (spellsNumber_decimal n)).spells

/-- A record with its members in another order and with one that no record has. -/
def scattered : Document :=
  .object [("errors", .list [.text "a/b"]), ("server_port", .number false (wholeText 80)),
    ("note", .list [.list [.null]]), ("server_ip", .text "h"), ("client_full_id", .text "p"),
    ("messages_sent", .number false (wholeText 2)),
    ("messages_received", .number false (wholeText 1)), ("connection_success", .flag true),
    ("average_latency_ms", .number true (wholeText 2)),
    ("total_latency_ms", .number false ⟨decimal 15, none, some (true, decimal 1)⟩)]

/-- A spelling of `scattered`, with an escape in a name and one in a text. -/
def scatteredText : String :=
  " \x7b\"errors\":[\"a\\/b\"] ,\"server\\u005Fport\":80,\"note\":[ [null]],\"server_ip\":\"h\"," ++
    "\"client_full_id\":\"p\",\"messages_sent\":2,\"messages_received\":1," ++
    "\"connection_success\":true,\"average_latency_ms\":-2,\"total_latency_ms\":15E-1 \x7d\n"

/-- The record that `scattered` is: its members are out of order and among others, and nothing of
that is left in it. -/
def scatteredRecord : TaskRecord where
  taskId := "p"
  host := "h"
  port := 80
  sent := 2
  received := 1
  connected := true
  totalMs := 1.5
  errors := ["a/b"]
  averageMs := -2.0

/-- The text spells the document. The spelling is put together member by member, since no evaluation
can find a derivation. -/
theorem isText_scattered : IsText scattered scatteredText := by
  have hmember : ∀ (name : String) {value : Document} {spelled s : List Char},
      SpellsText name.toList spelled → Spells value s →
      SpellsMember (name, value) ('"' :: (spelled ++ '"' :: ':' :: s)) :=
    fun name _ _ _ hname h => .intro isSpace_nil hname isSpace_nil h
  -- A slash may be escaped, and so may any character.
  have hslash : SpellsText "a/b".toList "a\\/b".toList :=
    (spellsText_plain "a" rfl).append (.cons (.short List.mem_cons_self) (spellsText_plain "b" rfl))
  have hunder : SpellsUnit '_'.toNat ['0', '0', '5', 'F'] :=
    @SpellsUnit.intro _ _ _ _ 0 0 5 15 rfl rfl rfl rfl
  have hport : SpellsText "server_port".toList "server\\u005Fport".toList :=
    (spellsText_plain "server" rfl).append (.cons (.unit hunder) (spellsText_plain "port" rfl))
  have herrors : Spells (.list [.text "a/b"]) ("[\"a\\/b\"]").toList :=
    (SpellsBare.list (.one (spells_text hslash)) isSpace_nil).spells
  have hblank : IsSpace [' '] := by simp [IsSpace]
  have hnote : Spells (.list [.list [.null]]) "[ [null]]".toList :=
    (SpellsBare.list (.one (.spaced hblank
      (.list (.one SpellsBare.null.spells) isSpace_nil))) isSpace_nil).spells
  have hflag : Spells (.flag true) "true".toList := SpellsBare.yes.spells
  have haverage : Spells (.number true (wholeText 2)) "-2".toList :=
    (SpellsBare.negative (spellsNumber_decimal 2)).spells
  have hwell : WellFormed ⟨decimal 15, none, some (true, decimal 1)⟩ :=
    { whole := isRun_decimal 15
      no_zero := (wellFormed_wholeText 15).no_zero
      fraction := nofun
      exponent := by
        rintro p ⟨⟩
        exact isRun_decimal 1 }
  have htotal : Spells (.number false ⟨decimal 15, none, some (true, decimal 1)⟩) "15E-1".toList :=
    (SpellsBare.number (.intro hwell (.signed (.inr rfl) (isRun_decimal 1)))).spells
  have hmembers := SpellsMembers.more (hmember "errors" (spellsText_plain _ rfl) herrors) hblank <|
    .more (hmember "server_port" hport (spells_number 80)) isSpace_nil <|
    .more (hmember "note" (spellsText_plain _ rfl) hnote) isSpace_nil <|
    .more (hmember "server_ip" (spellsText_plain _ rfl) (spells_text (spellsText_plain "h" rfl))) isSpace_nil <|
    .more (hmember "client_full_id" (spellsText_plain _ rfl) (spells_text (spellsText_plain "p" rfl))) isSpace_nil <|
    .more (hmember "messages_sent" (spellsText_plain _ rfl) (spells_number 2)) isSpace_nil <|
    .more (hmember "messages_received" (spellsText_plain _ rfl) (spells_number 1)) isSpace_nil <|
    .more (hmember "connection_success" (spellsText_plain _ rfl) hflag) isSpace_nil <|
    .more (hmember "average_latency_ms" (spellsText_plain _ rfl) haverage) isSpace_nil <|
    .one (hmember "total_latency_ms" (spellsText_plain _ rfl) htotal)
  exact ⟨_, ['\n'], by decide +kernel, .spaced hblank (.object hmembers hblank), by simp [IsSpace]⟩

/-- The document is the record, whatever its other members are. Each of the fields has one value,
found by evaluation. -/
theorem isRecord_scattered : IsRecord scattered scatteredRecord := by
  intro f
  cases f with
  | totalMs | averageMs => exact ⟨_, rfl, by decide +kernel⟩
  | taskId | host | port | sent | received | connected | errors => exact ⟨_, rfl, rfl⟩

/-- An object with its members out of order, one that is unknown, space between the tokens and an
escaped name is read as its record. -/
theorem ofText_scattered :
    IsText scattered scatteredText ∧ IsRecord scattered scatteredRecord ∧
      TaskRecord.ofText scatteredText = .ok scatteredRecord :=
  ⟨isText_scattered, isRecord_scattered,
    (ofText_eq_ok_iff isText_scattered scatteredRecord).mpr isRecord_scattered⟩

/-! ### A number in the range of floats that has no value -/

/-- The greatest finite float, as a whole number. A decimal that is not above it may be refused all
the same, where the product that the reader computes for it is infinite. -/
def greatestFloat : Nat :=
  (2 ^ 53 - 1) * 2 ^ 971

/-- A number that is not beyond the greatest float. With two digits less it would be the same
number, and be read as the greatest float. -/
def overscaled : NumberText :=
  ⟨['1'], some "797693134862315700".toList, some (false, decimal 308)⟩

/-- The values of a record in the order of its fields, with `overscaled` for its first time. -/
def overscaledItems : List Document :=
  [.text "p", .text "h", .number false (wholeText 80), .number false (wholeText 1),
    .number false (wholeText 1), .flag true, .number false overscaled, .list [],
    .number false (wholeText 0)]

/-- The spelling of `overscaledItems`, with no space in it. -/
def overscaledText : String :=
  "[\"p\",\"h\",80,1,1,true,1.797693134862315700e308,[],0]"

/-- A list of nine values that have the types of their fields, all of them in the range of floats,
and yet no record: the digits of the first time are one more than are exact as a float, and scaled
by their power of ten they are infinite. -/
theorem refused_in_range :
    IsText (.list overscaledItems) overscaledText ∧
      List.Forall₂ (fun (f : Field) document =>
        document = .number false overscaled ∧ f = .totalMs ∨ (valueOf? f document).isSome = true)
        Field.all overscaledItems ∧
      decimalValue overscaled = (1797693134862315700, 290) ∧
      1797693134862315700 * 10 ^ 290 ≤ greatestFloat ∧
      TaskRecord.ofText overscaledText = .error .malformed := by
  have hwell : WellFormed overscaled :=
    { whole := isRun_decimal 1
      no_zero := (wellFormed_wholeText 1).no_zero
      fraction := by
        rintro digits ⟨⟩
        exact isRun_decimal 797693134862315700
      exponent := by
        rintro p ⟨⟩
        exact isRun_decimal 308 }
  have htime : Spells (.number false overscaled) "1.797693134862315700e308".toList :=
    (SpellsBare.number (.intro hwell (.unsigned (.inl rfl) (isRun_decimal 308)))).spells
  have hitems := SpellsItems.more (spells_text (spellsText_plain "p" rfl)) isSpace_nil <|
    .more (spells_text (spellsText_plain "h" rfl)) isSpace_nil <|
    .more (spells_number 80) isSpace_nil <|
    .more (spells_number 1) isSpace_nil <|
    .more (spells_number 1) isSpace_nil <|
    .more SpellsBare.yes.spells isSpace_nil <|
    .more htime isSpace_nil <|
    .more (SpellsBare.emptyList isSpace_nil).spells isSpace_nil <|
    .one (spells_number 0)
  -- All values but the first time are there, and that one is only said to be in its place.
  have hvalues : List.Forall₂ (fun (f : Field) document =>
      document = .number false overscaled ∧ f = .totalMs ∨ (valueOf? f document).isSome = true)
      Field.all overscaledItems :=
    .cons (.inr rfl) <| .cons (.inr rfl) <| .cons (.inr (by decide +kernel)) <|
    .cons (.inr (by decide +kernel)) <| .cons (.inr (by decide +kernel)) <| .cons (.inr rfl) <|
    .cons (.inl ⟨rfl, rfl⟩) <| .cons (.inr rfl) <| .cons (.inr (by decide +kernel)) .nil
  exact ⟨⟨_, [], by decide +kernel, (SpellsBare.list hitems isSpace_nil).spells, isSpace_nil⟩,
    hvalues, by decide +kernel, by decide +kernel, by decide +kernel⟩

end EchoBench.Proofs.Record
