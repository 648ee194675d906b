import EchoBench.Proofs.Json.Number
import EchoBench.Proofs.Json.NumberText
import EchoBench.Proofs.Record.Line
import EchoBench.Record.Reader

/-!
# `EchoBench.Proofs.Record.Codec`: a record is read back from its line

`ofText_line`: the line of a record is read back as that record if both its times are finite, and is
refused as a word in the place of a number if one of them is not; and the line break at its end is
the only one in it. A time is written as a text that names it, and the reader of numbers rounds
twice on the way back, so that a finite time is read back is assumed (`TimesReadBack`). It can be
decided for a given record, and `timesReadBack_of_isShort` proves it for times of few digits.

Reading goes through the object member by member. Every value is read up to the comma or the bracket
behind it (`Closes`, `read_write`), whatever its characters or digits are, and a member is read up
to what follows its value (`readMembers_step`). So a run over the members gathers the values in the
order of the fields (`readMembers_memberText`), or stops at the first that is no number
(`readMembers_memberText_error`). A draft that has a value for every field is completed to the
record (`record_of_get`).
-/

set_option autoImplicit false

namespace EchoBench.Proofs.Record

open EchoBench.Json
open EchoBench.Text
open EchoBench.Proofs.Json

/-! ### Values -/

/-- What follows a value that stands in a list or an object: a comma or a closing bracket. -/
def Closes (rest : List Char) : Prop :=
  ∃ c tail, rest = c :: tail ∧ (c = ',' ∨ c = ']' ∨ c = '}')

section Values

variable {rest : List Char}

/-- A comma or a closing bracket closes a value, whatever comes behind it. -/
theorem closes_cons {c : Char} (hc : c = ',' ∨ c = ']' ∨ c = '}') (tail : List Char) :
    Closes (c :: tail) :=
  ⟨c, tail, rfl, hc⟩

/-- Neither a comma nor a bracket goes on with a number, so a number in front of it ends there. -/
theorem Closes.endsNumber (h : Closes rest) : EndsNumber rest := by
  obtain ⟨c, tail, rfl, hc⟩ := h
  intro d hd
  obtain rfl : c = d := by simpa using hd
  rcases hc with rfl | rfl | rfl <;> decide

/-- A text in quotes is read back with what follows it, whatever its characters are, because the
closing quote is the first that is not escaped (`unquote_quote`). -/
theorem readText_quote (s : String) (rest : List Char) :
    readText (quote s.toList ++ rest) = .ok (s, rest) := by
  have hunquote := unquote_quote s.toList rest
  have hspace : dropSpace (quote s.toList ++ rest)
      = '"' :: (s.toList.flatMap escape ++ '"' :: rest) := by
    simp [quote, dropSpace]
  simp only [readText, hspace, hunquote, Except.map, String.ofList_toList]

/-- A whole number within its limit is read back. Its text has digits only, so it is read as a whole
number, and the limit is checked after that. -/
theorem readBounded_decimal {n greatest : Nat} (hn : n ≤ greatest) (hlimit : greatest < UInt64.size)
    (expected : Expected) (hrest : Closes rest) :
    readBounded expected greatest (decimal n ++ rest) = .ok (n, rest) := by
  have hread := readNumber_decimal (Nat.lt_of_le_of_lt hn hlimit) hrest.endsNumber
  simp [readBounded, readAnyNumber_append (isRun_decimal n), hread, hn]

/-- Both words are read back. Nothing has to be known of what follows, since a word has a fixed
length. -/
theorem readFlag_write (b : Bool) (rest : List Char) :
    readFlag (Field.write .connected b ++ rest) = .ok (b, rest) := by
  cases b <;> rfl

end Values

/-! ### Lists of texts -/

section Items

/-- Between two items stands a comma. With the next lemma this is how the proofs about lists go from
item to item. -/
theorem commaSeparated_cons_cons (a b : List Char) (items : List (List Char)) :
    commaSeparated (a :: b :: items) = a ++ ',' :: commaSeparated (b :: items) := by
  simp [commaSeparated, List.intercalate]

/-- A single item has no comma. -/
theorem commaSeparated_singleton (a : List Char) : commaSeparated [a] = a := by
  simp [commaSeparated, List.intercalate]

/-- Items that are not empty take a character each, so the length of a list bounds the number of its
items. This is what makes the fuel of the reader enough. -/
theorem length_le_commaSeparated (items : List (List Char)) (h : ∀ item ∈ items, item ≠ []) :
    items.length ≤ (commaSeparated items).length := by
  induction items with
  | nil => exact Nat.zero_le _
  | cons item items ih =>
    have hitem : 0 < item.length := List.length_pos_iff.mpr (h item List.mem_cons_self)
    have hrest := ih fun i hi => h i (List.mem_cons_of_mem _ hi)
    cases items with
    | nil =>
      rw [commaSeparated_singleton]
      exact hitem
    | cons next items =>
      rw [commaSeparated_cons_cons, List.length_append, List.length_cons, List.length_cons]
      rw [List.length_cons] at hrest ⊢
      omega

/-- The items of a list are read back one by one up to the closing bracket. There is one unit of
fuel for each and one more, so it is not used up; the induction is on the items. -/
theorem readTextItems_commaSeparated (item : String) (items : List String) (fuel : Nat)
    (hfuel : items.length < fuel) (rest : List Char) :
    readTextItems fuel
        (commaSeparated ((item :: items).map fun s => quote s.toList) ++ ']' :: rest)
      = .ok (item :: items, rest) := by
  induction items generalizing item fuel with
  | nil =>
    obtain ⟨fuel, rfl⟩ : ∃ n, fuel = n + 1 := ⟨fuel - 1, by omega⟩
    rw [List.map_singleton, commaSeparated_singleton, readTextItems, readText_quote]
    rfl
  | cons next items ih =>
    obtain ⟨fuel, rfl⟩ : ∃ n, fuel = n + 1 := ⟨fuel - 1, by omega⟩
    have hnext := ih next fuel (by simpa using hfuel)
    rw [List.map_cons, List.map_cons, commaSeparated_cons_cons, List.append_assoc, readTextItems,
      readText_quote]
    show (readTextItems fuel (commaSeparated ((next :: items).map fun s => quote s.toList)
      ++ ']' :: rest) >>= fun p => .ok (item :: p.1, p.2)) = _
    rw [hnext]
    rfl

/-- The items of a list of texts begin with a quote. -/
theorem exists_quote_cons (item : String) (items : List String) :
    ∃ more, commaSeparated ((item :: items).map fun s => quote s.toList) = '"' :: more := by
  cases items with
  | nil => exact ⟨_, commaSeparated_singleton _⟩
  | cons next items => exact ⟨_, commaSeparated_cons_cons _ _ _⟩

/-- A list of texts is read back. The empty list is read by itself, and for any other the length of
its text is fuel enough. -/
theorem readTexts_write (items : List String) (rest : List Char) :
    readTexts (Field.write .errors items ++ rest) = .ok (items, rest) := by
  cases items with
  | nil => rfl
  | cons item items =>
    have hlength : (item :: items).length
        ≤ (commaSeparated ((item :: items).map fun s => quote s.toList)).length := by
      have h := length_le_commaSeparated ((item :: items).map fun s => quote s.toList)
        (by simp [quote])
      rwa [List.length_map] at h
    have hitems := fun fuel hfuel => readTextItems_commaSeparated item items fuel hfuel rest
    obtain ⟨more, hmore⟩ := exists_quote_cons item items
    simp only [hmore, List.length_cons] at hlength hitems
    have hwrite : Field.write .errors (item :: items) ++ rest
        = '[' :: ('"' :: more ++ ']' :: rest) := by
      rw [Field.write, hmore]
      simp
    -- Behind the bracket there is a quote, so the list has an item.
    have hread : readTexts (Field.write .errors (item :: items) ++ rest)
        = readTextItems (('"' :: more ++ ']' :: rest).length + 1) ('"' :: more ++ ']' :: rest) := by
      rw [hwrite]
      rfl
    rw [hread]
    refine hitems _ ?_
    rw [List.length_append, List.length_cons]
    omega

end Items

/-! ### Members -/

/-- A value that is written as one of its type: any but a float that is not finite. -/
def IsWritable : (f : Field) → f.Value → Prop
  | .totalMs, v | .averageMs, v => v.isFinite = true
  | .taskId, _ | .host, _ | .port, _ | .sent, _ | .received, _ | .connected, _ | .errors, _ => True

/-- A value that is read back from its text: any but a float that the reader of numbers misses. -/
def IsReadable : (f : Field) → f.Value → Prop
  | .totalMs, v | .averageMs, v => ReadsBack v
  | .taskId, _ | .host, _ | .port, _ | .sent, _ | .received, _ | .connected, _ | .errors, _ => True

/-- The times of a record are read back from their texts, if they are finite. -/
def TimesReadBack (r : TaskRecord) : Prop :=
  (r.totalMs.isFinite = true → ReadsBack r.totalMs) ∧
    (r.averageMs.isFinite = true → ReadsBack r.averageMs)

/-- Whether the times of a record are read back can be decided. -/
instance (r : TaskRecord) : Decidable (TimesReadBack r) :=
  inferInstanceAs (Decidable (_ ∧ _))

/-- Times of few digits are read back: the reader rounds once for such a text, and to the float that
the text names. So the records that a short run writes need no assumption. -/
theorem timesReadBack_of_isShort {r : TaskRecord} (htotal : IsShort (magnitudeText r.totalMs))
    (haverage : IsShort (magnitudeText r.averageMs)) : TimesReadBack r :=
  ⟨fun hfinite => readsBack_of_isShort hfinite htotal,
    fun hfinite => readsBack_of_isShort hfinite haverage⟩

section Members

/-- The value of a field is read back, one case for each type of value. Whatever closes the value is
left for the reader of members. -/
theorem read_write (f : Field) (v : f.Value) (hv : IsReadable f v) {rest : List Char}
    (hrest : Closes rest) : f.read (f.write v ++ rest) = .ok (v, rest) := by
  cases f with
  | taskId | host => exact readText_quote v rest
  | port =>
    have hle : v.toNat ≤ UInt16.size - 1 := Nat.le_sub_one_of_lt v.toNat_lt
    rw [Field.read, Field.write, readBounded_decimal hle (by decide) .bits16 hrest]
    simp [Except.map]
  | sent | received =>
    have hle : v.toNat ≤ UInt64.size - 1 := Nat.le_sub_one_of_lt v.toNat_lt
    rw [Field.read, Field.write, readBounded_decimal hle (by decide) .bits64 hrest]
    simp [Except.map]
  | connected => exact readFlag_write v rest
  | totalMs | averageMs => exact ReadsBack.append hv hrest.endsNumber
  | errors => exact readTexts_write v rest

/-- A value that is not written as one of its type is found to be no number. Only a time can be one.
-/
theorem read_write_of_not_isWritable {f : Field} {v : f.Value} (hv : ¬IsWritable f v)
    (rest : List Char) :
    f.read (f.write v ++ rest) = .error (.mismatch (.wrongType .null .number)) := by
  cases f with
  | totalMs | averageMs =>
    have hnot : Float.isFinite v = false := Bool.eq_false_iff.mpr hv
    exact readFloat_writeFloat_of_not_isFinite hnot rest
  | taskId | host | port | sent | received | connected | errors => exact absurd trivial hv

/-- The draft with the values of a record for some more fields. Reading the members one after the
other goes through such drafts, from the empty one to the whole record. -/
def setAll (r : TaskRecord) (d : Draft) (fields : List Field) : Draft :=
  fields.foldl (fun d f => d.set f (r.get f)) d

/-- A draft holds the value of every field that has been read, and keeps those that it had before.
-/
theorem setAll_of_mem {r : TaskRecord} {d : Draft} {fields : List Field} {f : Field}
    (h : f ∈ fields ∨ d f = some (r.get f)) : setAll r d fields f = some (r.get f) := by
  induction fields generalizing d with
  | nil => exact h.resolve_left List.not_mem_nil
  | cons g fields ih =>
    refine ih ?_
    show f ∈ fields ∨ d.set g (r.get g) f = some (r.get f)
    by_cases hfg : f = g
    · subst hfg
      exact .inr (Draft.set_self d f (r.get f))
    · rw [Draft.set_of_ne d (r.get g) hfg]
      exact h.imp_left fun hmem => (List.mem_cons.mp hmem).resolve_left hfg

/-- A draft that has the values of a record is completed to the record. -/
theorem record_of_get {r : TaskRecord} {d : Draft} (h : ∀ f, d f = some (r.get f)) :
    d.record = .ok r := by
  simp only [Draft.record, Draft.require, h]
  rfl

/-- A field that is required is given if and only if the draft has it. -/
theorem require_eq_ok_iff {d : Draft} {f : Field} {v : f.Value} :
    d.require f = .ok v ↔ d f = some v := by
  rw [Draft.require]
  cases d f <;> simp

/-- A draft is completed to a record only if it has all its values. -/
theorem get_of_record {r : TaskRecord} {d : Draft} (h : d.record = .ok r) (f : Field) :
    d f = some (r.get f) := by
  simp only [Draft.record, bind_eq_ok_iff] at h
  obtain ⟨_, h₁, _, h₂, _, h₃, _, h₄, _, h₅, _, h₆, _, h₇, _, h₈, _, h₉, h⟩ := h
  cases h
  cases f <;> exact require_eq_ok_iff.mp (by assumption)

/-- A member is read up to what follows its value, provided that its field has no value yet; a
second value for one field would be refused. -/
theorem readNamed_member {r : TaskRecord} {d : Draft} {f : Field} (hd : d f = none) (fuel : Nat)
    (rest : List Char) :
    readNamed fuel f.name d (':' :: (f.write (r.get f) ++ rest))
      = (f.read (f.write (r.get f) ++ rest)).map fun p => (d.set f p.1, p.2) := by
  rw [readNamed, Field.ofName?_name]
  simp only [hd, Option.isSome_none]
  show (f.read (f.write (r.get f) ++ rest) >>= fun p => .ok (d.set f p.1, p.2)) = _
  cases f.read (f.write (r.get f) ++ rest) <;> rfl

end Members

/-! ### Objects -/

/-- A member from behind the quote that opens its name, and what follows it. -/
def memberText (r : TaskRecord) (f : Field) (next : List Char) : List Char :=
  f.name.toList.flatMap escape ++ '"' :: ':' :: (f.write (r.get f) ++ next)

/-- What follows a value: the closing brace, or more members. Both end a number, and so each value
is read without knowing which it is. -/
def following (r : TaskRecord) (rest : List Char) : List Field → List Char
  | [] => '}' :: rest
  | f :: fields => ',' :: '"' :: memberText r f (following r rest fields)

section Objects

variable {r : TaskRecord} {rest : List Char} {f : Field} {fields : List Field} {d : Draft}

/-- Behind every value of a record stands a comma, or the brace that closes the record. -/
theorem closes_following (r : TaskRecord) (rest : List Char) (fields : List Field) :
    Closes (following r rest fields) := by
  cases fields with
  | nil => exact closes_cons (.inr (.inr rfl)) rest
  | cons f fields => exact closes_cons (.inl rfl) _

/-- The members of a record, one after the other, are the first member with what follows it; so a
run over the members can be followed from one to the next. -/
theorem commaSeparated_member (r : TaskRecord) (rest : List Char) (f : Field)
    (fields : List Field) :
    commaSeparated ((f :: fields).map r.member) ++ '}' :: rest
      = '"' :: memberText r f (following r rest fields) := by
  induction fields generalizing f with
  | nil =>
    rw [List.map_singleton, commaSeparated_singleton]
    simp [TaskRecord.member, memberText, following, quote]
  | cons g fields ih =>
    rw [List.map_cons, List.map_cons, commaSeparated_cons_cons, List.append_assoc, List.cons_append,
      ← List.map_cons, ih g]
    simp [TaskRecord.member, memberText, following, quote]

/-- The written form of a record is a brace and its members, in the form in which the induction over
the members needs them. -/
theorem json_append (r : TaskRecord) (rest : List Char) :
    r.json ++ rest = '{' :: '"' :: memberText r .taskId (following r rest Field.all.tail) := by
  have hmembers := commaSeparated_member r rest .taskId Field.all.tail
  rw [← hmembers, TaskRecord.json]
  simp [Field.all]

/-- A member is read up to what follows it, if its value is. -/
theorem readMembers_step (fuel : Nat) (hd : d f = none) (next : List Char) :
    readMembers (fuel + 1) d (memberText r f next)
      = (f.read (f.write (r.get f) ++ next)) >>= fun p =>
        match dropSpace p.2 with
        | [] => .error .truncated
        | '}' :: rest => .ok (d.set f p.1, rest)
        | ',' :: rest =>
          match dropSpace rest with
          | [] => .error .truncated
          | '"' :: rest => readMembers fuel (d.set f p.1) rest
          | _ => .error .malformed
        | _ => .error .malformed := by
  rw [memberText, readMembers, unquote_quote]
  show (readNamed fuel (String.ofList f.name.toList) d (':' :: (f.write (r.get f) ++ next)) >>= _)
    = _
  rw [String.ofList_toList, readNamed_member hd]
  cases f.read (f.write (r.get f) ++ next) <;> rfl

/-- After a value that is read, the object ends or goes on with the next member. -/
theorem readMembers_of_isReadable (fuel : Nat) (hd : d f = none) (hv : IsReadable f (r.get f)) :
    readMembers (fuel + 1) d (memberText r f (following r rest fields))
      = match fields with
        | [] => .ok (d.set f (r.get f), rest)
        | g :: fields =>
          readMembers fuel (d.set f (r.get f)) (memberText r g (following r rest fields)) := by
  have hcloses := closes_following r rest fields
  rw [readMembers_step fuel hd, read_write f (r.get f) hv hcloses]
  cases fields <;> rfl

/-- A value that is not written as one of its type is the fault of the object, whatever follows it.
-/
theorem readMembers_of_not_isWritable (fuel : Nat) (hd : d f = none)
    (hv : ¬IsWritable f (r.get f)) (next : List Char) :
    readMembers (fuel + 1) d (memberText r f next)
      = .error (.mismatch (.wrongType .null .number)) := by
  rw [readMembers_step fuel hd, read_write_of_not_isWritable hv]
  rfl

/-- A field that has no value yet has none after another has got its own. -/
theorem set_eq_none {g : Field} (hnodup : (f :: fields).Nodup) (hd : ∀ g ∈ f :: fields, d g = none)
    (hg : g ∈ fields) : d.set f (r.get f) g = none := by
  have hne : g ≠ f := by
    rintro rfl
    exact (List.nodup_cons.mp hnodup).1 hg
  rw [Draft.set_of_ne d (r.get f) hne]
  exact hd g (List.mem_cons_of_mem f hg)

/-- The members of an object are read one after the other, if all their values are. -/
theorem readMembers_memberText (rest : List Char) (fuel : Nat) (hfuel : fields.length < fuel)
    (hnodup : (f :: fields).Nodup) (hd : ∀ g ∈ f :: fields, d g = none)
    (hv : ∀ g ∈ f :: fields, IsReadable g (r.get g)) :
    readMembers fuel d (memberText r f (following r rest fields))
      = .ok (setAll r d (f :: fields), rest) := by
  -- The draft grows by the member that is read, so the induction is for every draft and every fuel.
  induction fields generalizing f d fuel with
  | nil =>
    obtain ⟨fuel, rfl⟩ : ∃ n, fuel = n + 1 := ⟨fuel - 1, by omega⟩
    exact readMembers_of_isReadable fuel (hd f List.mem_cons_self) (hv f List.mem_cons_self)
  | cons g fields ih =>
    obtain ⟨fuel, rfl⟩ : ∃ n, fuel = n + 1 := ⟨fuel - 1, by omega⟩
    rw [readMembers_of_isReadable fuel (hd f List.mem_cons_self) (hv f List.mem_cons_self)]
    exact ih fuel (by simpa using hfuel) (List.nodup_cons.mp hnodup).2
      (fun _ hg => set_eq_none hnodup hd hg) fun g' hg' => hv g' (List.mem_cons_of_mem f hg')

/-- The first value that is not written as one of its type is the fault of the object, if those in
front of it are read back. -/
theorem readMembers_memberText_error (rest : List Char) (fuel : Nat) (hfuel : fields.length < fuel)
    (hnodup : (f :: fields).Nodup) (hd : ∀ g ∈ f :: fields, d g = none)
    (hback : ∀ g, IsWritable g (r.get g) → IsReadable g (r.get g))
    (hv : ∃ g ∈ f :: fields, ¬IsWritable g (r.get g)) :
    readMembers fuel d (memberText r f (following r rest fields))
      = .error (.mismatch (.wrongType .null .number)) := by
  induction fields generalizing f d fuel with
  | nil =>
    obtain ⟨fuel, rfl⟩ : ∃ n, fuel = n + 1 := ⟨fuel - 1, by omega⟩
    obtain ⟨g, hg, hnot⟩ := hv
    -- This is the last member, so the fault is its own.
    obtain rfl : g = f := List.mem_singleton.mp hg
    exact readMembers_of_not_isWritable fuel (hd g List.mem_cons_self) hnot _
  | cons g fields ih =>
    obtain ⟨fuel, rfl⟩ : ∃ n, fuel = n + 1 := ⟨fuel - 1, by omega⟩
    by_cases hf : IsWritable f (r.get f)
    · -- The fault is further on.
      have hrest : ∃ g' ∈ g :: fields, ¬IsWritable g' (r.get g') := by
        obtain ⟨g', hg', hnot⟩ := hv
        rcases List.mem_cons.mp hg' with rfl | hmem
        · exact absurd hf hnot
        · exact ⟨g', hmem, hnot⟩
      rw [readMembers_of_isReadable fuel (hd f List.mem_cons_self) (hback f hf)]
      exact ih fuel (by simpa using hfuel) (List.nodup_cons.mp hnodup).2
        (fun _ hg => set_eq_none hnodup hd hg) hrest
    · exact readMembers_of_not_isWritable fuel (hd f List.mem_cons_self) hf _

/-- The fuel for the members of a record is enough for its nine fields. -/
theorem length_lt_skipFuel (r : TaskRecord) (next : List Char) :
    Field.all.tail.length < skipFuel (memberText r .taskId next) := by
  have hfields : Field.all.tail.length = 8 := rfl
  have hname : (Field.name .taskId).toList.flatMap escape = (Field.name .taskId).toList := by decide
  have hlength : (Field.name .taskId).toList.length = 14 := by decide
  rw [hfields, skipFuel, memberText, hname, List.length_append, hlength]
  omega

/-- A record with nothing but space behind it is read as its members are. -/
theorem ofText_json_of_readMembers (hrest : dropSpace rest = []) (result : Except Fault Draft)
    (h : readMembers (skipFuel (memberText r .taskId (following r rest Field.all.tail))) .empty
      (memberText r .taskId (following r rest Field.all.tail)) = result.map fun d => (d, rest)) :
    TaskRecord.ofText (String.ofList (r.json ++ rest)) = result >>= Draft.record := by
  have hobject : readRecord (String.ofList (r.json ++ rest)).toList
      = result >>= fun d => d.record >>= fun r => .ok (r, rest) := by
    rw [String.toList_ofList, json_append]
    show (readMembers _ .empty _ >>= fun p => p.1.record >>= fun r => .ok (r, p.2)) = _
    rw [h]
    cases result <;> rfl
  rw [TaskRecord.ofText, hobject]
  cases result with
  | error fault => rfl
  | ok d =>
    show ((d.record >>= fun r => .ok (r, rest)) >>= _) = d.record
    cases d.record with
    | error fault => rfl
    | ok r =>
      -- Nothing is left behind the record once the space is dropped.
      simp only [bind, Except.bind, hrest]

end Objects

/-- Whether the values of a record are read back is up to its two times. -/
theorem isReadable_of_times {r : TaskRecord} (h : ReadsBack r.totalMs ∧ ReadsBack r.averageMs)
    (f : Field) : IsReadable f (r.get f) := by
  cases f with
  | totalMs => exact h.1
  | averageMs => exact h.2
  | taskId | host | port | sent | received | connected | errors => trivial

/-- A value that is written as one of its type is read back, if this is so for the two times. -/
theorem TimesReadBack.isReadable {r : TaskRecord} (h : TimesReadBack r) (f : Field)
    (hv : IsWritable f (r.get f)) : IsReadable f (r.get f) := by
  cases f with
  | totalMs => exact h.1 hv
  | averageMs => exact h.2 hv
  | taskId | host | port | sent | received | connected | errors => trivial

/-- Whether the values of a record are written as those of their types is up to its two times. -/
theorem forall_isWritable_iff (r : TaskRecord) :
    (∀ f ∈ Field.all, IsWritable f (r.get f)) ↔
      r.totalMs.isFinite = true ∧ r.averageMs.isFinite = true := by
  simp [Field.all, IsWritable, TaskRecord.get]

/-- No field has a value before the first member has been read, so no member of a written record is
met as a second one. -/
theorem empty_eq_none : ∀ f ∈ Field.taskId :: Field.all.tail, Draft.empty f = none :=
  fun _ _ => rfl

/-- A record whose times are read back is read back from its written form, with any space behind it.
-/
theorem ofText_json_of_readsBack {r : TaskRecord} {rest : List Char} (hrest : dropSpace rest = [])
    (h : ReadsBack r.totalMs ∧ ReadsBack r.averageMs) :
    TaskRecord.ofText (String.ofList (r.json ++ rest)) = .ok r := by
  have hfuel := length_lt_skipFuel r (following r rest Field.all.tail)
  have hread := readMembers_memberText rest _ hfuel Field.nodup_all empty_eq_none
    fun f _ => isReadable_of_times h f
  have hset : ∀ f, setAll r .empty Field.all f = some (r.get f) :=
    fun f => setAll_of_mem (.inl (Field.mem_all f))
  rw [ofText_json_of_readMembers hrest (.ok (setAll r .empty Field.all)) hread]
  exact record_of_get hset

/-- A record whose times are read back is read back from its line. -/
theorem ofText_line_of_readsBack {r : TaskRecord}
    (h : ReadsBack r.totalMs ∧ ReadsBack r.averageMs) : TaskRecord.ofText r.line = .ok r :=
  ofText_json_of_readsBack (by decide) h

/-- The line of a record with a time that is not finite is refused. The time in front of it has to
be read back, or it might be the one at fault. -/
theorem ofText_line_of_not_finite {r : TaskRecord} (hback : TimesReadBack r)
    (h : ¬(r.totalMs.isFinite = true ∧ r.averageMs.isFinite = true)) :
    TaskRecord.ofText r.line = .error (.mismatch (.wrongType .null .number)) := by
  have hfuel := length_lt_skipFuel r (following r ['\n'] Field.all.tail)
  have hfault : ∃ f ∈ Field.all, ¬IsWritable f (r.get f) := by
    rw [← forall_isWritable_iff] at h
    simpa using h
  have hread := readMembers_memberText_error ['\n'] _ hfuel Field.nodup_all empty_eq_none
    hback.isReadable hfault
  rw [TaskRecord.line,
    ofText_json_of_readMembers (by decide) (.error (.mismatch (.wrongType .null .number))) hread]
  rfl

/-- A record is read back from its line if both its times are finite; and if one of them is not, the
line is refused, since a word stands where a number is due. This is so if a finite time is read back
from its text. The line break at the end is the only one in the line of any record. -/
theorem ofText_line (r : TaskRecord) :
    (TimesReadBack r → TaskRecord.ofText r.line
      = if r.totalMs.isFinite = true ∧ r.averageMs.isFinite = true then .ok r
        else .error (.mismatch (.wrongType .null .number))) ∧
    ∃ body, r.line.toList = body ++ ['\n'] ∧ '\n' ∉ body := by
  constructor
  · intro hback
    split
    · next h => exact ofText_line_of_readsBack ⟨hback.1 h.1, hback.2 h.2⟩
    · next h => exact ofText_line_of_not_finite hback h
  · exact ⟨r.json, by rw [TaskRecord.line, String.toList_ofList], newline_notMem_json r⟩

/-- A record with quotes, a backslash and a line break in its texts. -/
def quoted : TaskRecord where
  taskId := "pod \"a\""
  host := "h\\"
  port := 65535
  sent := 3
  received := 2
  connected := true
  totalMs := 0.75
  errors := ["one\ntwo"]
  averageMs := 0.375

/-- The record with quotes and a line break in its texts is read back. Its times are short, so the
assumption is decided by running the reader. -/
theorem ofText_line_quoted :
    TimesReadBack quoted ∧ TaskRecord.ofText quoted.line = .ok quoted := by
  have hback : TimesReadBack quoted := by decide +kernel
  have hfinite : quoted.totalMs.isFinite = true ∧ quoted.averageMs.isFinite = true := by
    decide +kernel
  exact ⟨hback, ((ofText_line quoted).1 hback).trans (if_pos hfinite)⟩

end EchoBench.Proofs.Record
