import EchoBench.Proofs.Config.Leniency
import EchoBench.Text.Character

/-!
# `EchoBench.Proofs.Config.Bytes`: settings whose bytes are no text

The values of an environment are bytes. They are decoded before they are read, and a value that is
no text in UTF-8 counts as none (`Environment.lookup`). So there are two kinds of values that should
be numbers and are not. Of one that is a text, there is a warning. One that is no text is passed
over in silence, though the default takes its place as well.

`MalformedIn` takes both kinds together: it looks at the bytes, and not at what is made of them.
`speaks_of_environment` says for every environment of which settings there is a warning. A program
warns of all that are malformed (`Outspoken`) exactly where the values of all its numbers are texts,
and `undecoded_in_silence` is an environment where it does not.

The two programs have the same laws (`NumberReader.Lawful`), and what they say follows from these.
-/

set_option autoImplicit false

namespace EchoBench.Proofs.Config

open EchoBench.Config
open EchoBench.Text
open EchoBench.Proofs.Text

/-! ### Values as bytes -/

/-- The bytes are those of a text of some kind. Decoding does not enter: the text comes first and
the bytes are its encoding, so nothing here is read off the reader. -/
def Spells (kind : String → Prop) (bytes : ByteArray) : Prop :=
  ∃ value : String, value.toByteArray = bytes ∧ kind value

/-- A setting has a value in an environment that is neither empty nor all white space, and not a
number within limits. -/
def MalformedIn (e : Environment) (s : NumberSetting) : Prop :=
  ∃ bytes, e s.name = some bytes ∧ ¬Spells Blank bytes ∧
    ¬Spells (fun value => IsNumeral s.limits (trim value.toList)) bytes

/-- The value of a setting in an environment is a text, if there is one. -/
def IsTextIn (e : Environment) (name : String) : Prop :=
  ∀ bytes, e name = some bytes → bytes.IsValidUTF8

section Values

variable {e : Environment} {name value : String} {s : NumberSetting}

/-- Bytes spell one text at most, because decoding them gives the text back. So what is asked of the
bytes of a text is asked of the text. -/
theorem spells_toByteArray_iff {kind : String → Prop} :
    Spells kind value.toByteArray ↔ kind value := by
  constructor
  · rintro ⟨other, hbytes, hkind⟩
    exact String.toByteArray_inj.mp hbytes ▸ hkind
  · exact fun hkind => ⟨value, rfl, hkind⟩

/-- A lookup gives the text that the bytes of a value spell, and nothing where they spell none. -/
theorem lookup_eq_some_iff : e.lookup name = some value ↔ e name = some value.toByteArray := by
  rw [Environment.lookup, Option.bind_eq_some_iff]
  simp only [fromUTF8?_eq_some_iff, exists_eq_right]

/-- Of a text it does not matter whether its bytes are looked at: what is malformed in the
environment is what is malformed in the lookup that the program reads. -/
theorem malformedIn_iff_of_lookup (hvalue : e.lookup s.name = some value) :
    MalformedIn e s ↔ Malformed s.limits value := by
  rw [MalformedIn, lookup_eq_some_iff.mp hvalue]
  simp only [Malformed, Option.some.injEq, exists_eq_left', spells_toByteArray_iff]

/-- What the lookup finds is text in the environment. This is the half of decoding that never goes
wrong; the other half is where a value is lost. -/
theorem isTextIn_of_lookup (hvalue : e.lookup name = some value) : IsTextIn e name := by
  intro bytes hbytes
  obtain rfl := Option.some.inj (hbytes.symm.trans (lookup_eq_some_iff.mp hvalue))
  exact value.isValidUTF8

/-- A value that is no text is malformed: there is no text of which it could be the bytes, and so
none that is a number. It is the case in which a program says nothing. -/
theorem malformedIn_of_not_isTextIn (htext : ¬IsTextIn e s.name) : MalformedIn e s := by
  simp only [IsTextIn, not_forall] at htext
  obtain ⟨bytes, hbytes, hinvalid⟩ := htext
  have hnone : ∀ kind, ¬Spells kind bytes := by
    rintro kind ⟨value, rfl, -⟩
    exact hinvalid value.isValidUTF8
  exact ⟨bytes, hbytes, hnone _, hnone _⟩

/-- There is something to say of a malformed setting exactly where its value is a text. -/
theorem isSome_complaint?_lookup_iff :
    (complaint? e.lookup s).isSome = true ↔ MalformedIn e s ∧ IsTextIn e s.name := by
  rw [complaint?]
  cases hvalue : e.lookup s.name with
  | some value =>
    rw [malformedIn_iff_of_lookup hvalue]
    have htext := isTextIn_of_lookup hvalue
    by_cases hbad : Malformed s.limits value <;> simp [hbad, htext]
  | none =>
    -- A malformed value that is a text would be found.
    refine iff_of_false (by simp) ?_
    rintro ⟨⟨bytes, hbytes, -⟩, htext⟩
    have hfound : e.lookup s.name = some (String.fromUTF8 bytes (htext bytes hbytes)) :=
      lookup_eq_some_iff.mpr hbytes
    cases hvalue.symm.trans hfound

/-- No number is given by a malformed setting, whether its value is a text or not. -/
theorem given?_lookup_eq_none (hbad : MalformedIn e s) : given? e.lookup s = none := by
  rw [given?, text?]
  cases hvalue : e.lookup s.name with
  | none => rfl
  | some value =>
    have hmalformed := (malformedIn_iff_of_lookup hvalue).mp hbad
    simp [Option.filter_some, hmalformed.1, hmalformed]

end Values

/-! ### The numbers of a program -/

/-- A program, by the settings that it reads as numbers. What is said of warnings is the same for
both programs, so it is proved once over this structure and applied to each. -/
structure NumberReader (α : Type) where
  /-- What the program makes of a lookup. -/
  ofLookup : Lookup → Reported α
  /-- Its settings where it is asked for nothing in particular. -/
  default : α
  /-- The settings that are numbers, in order. -/
  settings : List NumberSetting
  /-- The number that one of these comes to, by its name. -/
  number : α → String → Option Nat

/-- The numbers of a load run. -/
def loadReader : NumberReader LoadSettings where
  ofLookup := LoadSettings.ofLookup
  default := .default
  settings := loadNumbers
  number v
    | "SERVER_PORT" => some v.port.toNat
    | "NUM_MESSAGES_PER_CLIENT" => some v.messages.toNat
    | "NUM_CONCURRENT_CLIENTS" => some v.clients.toNat
    | "DIAL_TIMEOUT_SECS" => some v.dialTimeout.seconds
    | "IO_DEADLINE_SECS" => some v.ioDeadline.seconds
    | "BUFFER_SIZE" => some v.bufferSize.toNat
    | _ => none

/-- The numbers of a server by their names. An idle limit that is not set comes to no number, and so
it needs no default. -/
def serverReader : NumberReader ServerSettings where
  ofLookup := ServerSettings.ofLookup
  default := .default
  settings := serverNumbers
  number v
    | "PORT" => some v.port.toNat
    | "BUFFER_SIZE" => some v.bufferSize.toNat
    | "IDLE_TIMEOUT_SECS" => v.idleTimeout.map Span.seconds
    | _ => none

namespace NumberReader

variable {α : Type}

/-- The names of the settings of which a program warns in an environment, in the order of the
warnings. The silence that is to be shown is that some names are not among these. -/
def warned (r : NumberReader α) (e : Environment) : List String :=
  (r.ofLookup e.lookup).warnings.map Warning.name

/-- The number that a setting comes to in an environment, as the program goes on to use it, default
or not. -/
def used (r : NumberReader α) (e : Environment) (s : NumberSetting) : Option Nat :=
  r.number (r.ofLookup e.lookup).value s.name

/-- The number that a setting comes to where nothing is asked for. It is read off the program's own
default settings and not written down here a second time. -/
def usual (r : NumberReader α) (s : NumberSetting) : Option Nat :=
  r.number r.default s.name

/-- What the two programs have in common: no name stands twice, there is a complaint for each
malformed value, and a setting comes to the number that is given, or else to its default. `speaks`
needs no more of a program than this. -/
structure Lawful (r : NumberReader α) : Prop where
  /-- A name stands for one setting. -/
  nodup : (r.settings.map NumberSetting.name).Nodup
  /-- There is a warning for each malformed value. -/
  complaints : ∀ l, (r.ofLookup l).warnings.map complaint = r.settings.filterMap (complaint? l)
  /-- A setting comes to the number that a lookup gives, or else to its default. -/
  number : ∀ l, ∀ s ∈ r.settings,
    r.number (r.ofLookup l).value s.name = (given? l s).or s.fallback
  default : ∀ s ∈ r.settings, r.number r.default s.name = s.fallback

end NumberReader

section Words

variable {l : Lookup} {s : NumberSetting} {fallback : Nat}

/-- A number of sixteen bits is used as it is given. -/
theorem some_toNat_ofNat16 (hs : s.limits.greatest = UInt16.size - 1)
    (hfallback : s.limits.Admits fallback) :
    some (UInt16.ofNat ((given? l s).getD fallback)).toNat = (given? l s).or (some fallback) := by
  have hle := (admits_getD_given? (l := l) hfallback).1
  rw [hs] at hle
  rw [UInt16.toNat_ofNat_of_lt' (Nat.lt_of_le_pred (by decide) hle), Option.or_some]

/-- A number of sixty-four bits is used as it is given. The limits keep it within its word, so the
conversion to the word and back loses nothing; the same lemma serves all such settings. -/
theorem some_toNat_ofNat64 (hs : s.limits.greatest = UInt64.size - 1)
    (hfallback : s.limits.Admits fallback) :
    some (UInt64.ofNat ((given? l s).getD fallback)).toNat = (given? l s).or (some fallback) := by
  have hle := (admits_getD_given? (l := l) hfallback).1
  rw [hs] at hle
  rw [UInt64.toNat_ofNat_of_lt' (Nat.lt_of_le_pred (by decide) hle), Option.or_some]

/-- A number of seconds is used as it is given, since a span of whole seconds has no part that could
be cut off. -/
theorem some_seconds_ofSeconds :
    some (Span.ofSeconds ((given? l s).getD fallback)).seconds = (given? l s).or (some fallback) := by
  rw [Span.seconds_ofSeconds, Option.or_some]

end Words

/-- The settings of a load run are lawful: no two of them share a name, and each is read by the
reader of numbers with its own limits and default. So what is proved of any lawful reader holds of
this program. -/
theorem lawful_loadReader : loadReader.Lawful where
  nodup := by decide
  complaints l := complaints_loadSettings l
  number l := by
    simp only [loadReader, loadNumbers, List.forall_mem_cons, value_loadSettings]
    exact ⟨some_toNat_ofNat16 rfl (by decide), some_toNat_ofNat64 rfl (by decide),
      some_toNat_ofNat64 rfl (by decide), some_seconds_ofSeconds, some_seconds_ofSeconds,
      some_toNat_ofNat64 rfl (by decide), List.forall_mem_nil _⟩
  default := by decide

/-- The settings of a server are lawful as well, its one optional setting included. -/
theorem lawful_serverReader : serverReader.Lawful where
  nodup := by decide
  complaints l := complaints_serverSettings l
  number l := by
    simp only [serverReader, serverNumbers, List.forall_mem_cons, value_serverSettings]
    refine ⟨some_toNat_ofNat16 rfl (by decide), some_toNat_ofNat64 rfl (by decide), ?_,
      List.forall_mem_nil _⟩
    -- A limit on silence has no default: without a number there is none.
    simp only [Option.map_map, Function.comp_def, Span.seconds_ofSeconds, Option.map_id',
      Option.or_none]
  default := by decide

/-! ### What a program says -/

/-- A program says all that there is to say of its settings in an environment. It warns once of
every number that is malformed, and uses its default; and it warns of nothing else. -/
structure Outspoken {α : Type} (r : NumberReader α) (e : Environment) : Prop where
  warns : ∀ s ∈ r.settings, MalformedIn e s → (r.warned e).count s.name = 1
  falls_back : ∀ s ∈ r.settings, MalformedIn e s → r.used e s = r.usual s
  silent : ∀ name, (∀ s ∈ r.settings, s.name = name → ¬MalformedIn e s) → name ∉ r.warned e

/-- What a program says of its settings in an environment, and what it passes over. -/
structure Speaks {α : Type} (r : NumberReader α) (e : Environment) : Prop where
  /-- There are no two warnings of one setting. -/
  once : (r.warned e).Nodup
  /-- There is a warning of the malformed numbers whose values are texts. -/
  mem_warned_iff : ∀ name, name ∈ r.warned e ↔
    ∃ s ∈ r.settings, s.name = name ∧ MalformedIn e s ∧ IsTextIn e name
  /-- A warning has the value as it was given, and the number that is used in its place. -/
  quotes : ∀ w ∈ (r.ofLookup e.lookup).warnings, ∃ s ∈ r.settings,
    w.name = s.name ∧ e s.name = some w.value.toByteArray ∧ w.fallback = r.usual s
  /-- The default is used for every malformed number, whether its value is a text or not. -/
  falls_back : ∀ s ∈ r.settings, MalformedIn e s → r.used e s = r.usual s
  /-- Nothing is passed over in silence exactly where the values of all numbers are texts. -/
  outspoken_iff : Outspoken r e ↔ ∀ s ∈ r.settings, IsTextIn e s.name

/-- What is said of some settings is said once of each, in their order. -/
theorem map_fst_complaints (l : Lookup) (settings : List NumberSetting) :
    (settings.filterMap (complaint? l)).map Prod.fst
      = (settings.filter fun s => (complaint? l s).isSome).map NumberSetting.name := by
  induction settings with
  | nil => rfl
  | cons s settings ih =>
    cases hsaid : complaint? l s with
    | none => simp [hsaid, ih]
    | some c =>
      obtain ⟨value, -, -, rfl⟩ := complaint?_eq_some_iff.mp hsaid
      simp [hsaid, ih]

namespace NumberReader.Lawful

variable {α : Type} {r : NumberReader α} {e : Environment} {s : NumberSetting} (hr : r.Lawful)

include hr

/-- The names that a program warns of are those of the settings with a complaint, in the order of
the settings. Everything else that is said of `warned` is read off this list. -/
theorem warned_eq (e : Environment) :
    r.warned e
      = (r.settings.filter fun s => (complaint? e.lookup s).isSome).map NumberSetting.name := by
  rw [← map_fst_complaints, ← hr.complaints, List.map_map]
  rfl

/-- A program warns of a setting at most once, since its settings have names of their own. -/
theorem nodup_warned (e : Environment) : (r.warned e).Nodup := by
  rw [hr.warned_eq]
  exact hr.nodup.sublist (List.filter_sublist.map _)

/-- A program warns of a name if and only if one of its settings has that name, what the environment
holds under it is malformed, and it can be decoded at all. The last part is what sets apart the
values that are passed over in silence. -/
theorem mem_warned_iff (name : String) :
    name ∈ r.warned e ↔ ∃ s ∈ r.settings, s.name = name ∧ MalformedIn e s ∧ IsTextIn e name := by
  simp only [hr.warned_eq, List.mem_map, List.mem_filter, isSome_complaint?_lookup_iff]
  constructor
  · rintro ⟨s, ⟨hs, hbad, htext⟩, rfl⟩
    exact ⟨s, hs, rfl, hbad, htext⟩
  · rintro ⟨s, hs, rfl, hbad, htext⟩
    exact ⟨s, ⟨hs, hbad, htext⟩, rfl⟩

/-- A warning is about a setting of the program. It quotes the bytes that the environment holds for
it, and names the default that is used in their place. -/
theorem exists_of_mem_warnings {w : Warning} (hw : w ∈ (r.ofLookup e.lookup).warnings) :
    ∃ s ∈ r.settings,
      w.name = s.name ∧ e s.name = some w.value.toByteArray ∧ w.fallback = r.usual s := by
  have hsaid := List.mem_map_of_mem (f := complaint) hw
  rw [hr.complaints, List.mem_filterMap] at hsaid
  obtain ⟨s, hs, hsaid⟩ := hsaid
  obtain ⟨value, hvalue, -, hw⟩ := complaint?_eq_some_iff.mp hsaid
  obtain ⟨hname, rfl, hfallback⟩ : w.name = s.name ∧ w.value = value ∧ w.fallback = s.fallback := by
    simpa [complaint] using hw
  exact ⟨s, hs, hname, lookup_eq_some_iff.mp hvalue, hfallback.trans (hr.default s hs).symm⟩

/-- A malformed value is never used: the program goes on with the default, whether or not it warned.
-/
theorem used_eq_usual (hs : s ∈ r.settings) (hbad : MalformedIn e s) : r.used e s = r.usual s := by
  rw [used, usual, hr.number _ s hs, given?_lookup_eq_none hbad, hr.default s hs, Option.none_or]

/-- A program is outspoken in an environment exactly where the values of its numbers are texts. -/
theorem outspoken_iff : Outspoken r e ↔ ∀ s ∈ r.settings, IsTextIn e s.name := by
  constructor
  · intro hsays s hs
    by_contra htext
    -- A value that is no text is malformed, and there is no warning of it.
    have hcount := hsays.warns s hs (malformedIn_of_not_isTextIn htext)
    have hmem : s.name ∈ r.warned e := List.count_pos_iff.mp (by omega)
    obtain ⟨-, -, -, -, htext'⟩ := (hr.mem_warned_iff s.name).mp hmem
    exact htext htext'
  · intro htexts
    refine ⟨fun s hs hbad => ?_, fun s hs hbad => hr.used_eq_usual hs hbad,
      fun name hwell hmem => ?_⟩
    · have hmem := (hr.mem_warned_iff s.name).mpr ⟨s, hs, rfl, hbad, htexts s hs⟩
      rw [(hr.nodup_warned e).count, if_pos hmem]
    · obtain ⟨s, hs, hname, hbad, -⟩ := (hr.mem_warned_iff name).mp hmem
      exact hwell s hs hname hbad

/-- What the five facts before this one say together of a lawful reader, for every environment.
`speaks_of_environment` is this for the two programs. -/
theorem speaks (e : Environment) : Speaks r e where
  once := hr.nodup_warned e
  mem_warned_iff := hr.mem_warned_iff
  quotes _ hw := hr.exists_of_mem_warnings hw
  falls_back _ hs hbad := hr.used_eq_usual hs hbad
  outspoken_iff := hr.outspoken_iff

end NumberReader.Lawful

/-- Both programs, in every environment. They warn of the malformed numbers whose values are texts,
once of each, and of nothing else, and they use the default of every malformed number. So each of
them says all that there is to say exactly where the values of its numbers are texts. -/
theorem speaks_of_environment (e : Environment) : Speaks loadReader e ∧ Speaks serverReader e :=
  ⟨lawful_loadReader.speaks e, lawful_serverReader.speaks e⟩

/-- An environment with a port whose bytes are no text: an eight, and a byte that is in no text. -/
def undecoded : Environment := fun name =>
  if name = "SERVER_PORT" then some ⟨#[0x38, 0xff]⟩ else none

/-- The port is malformed there, and a load run uses its default without a warning. -/
theorem undecoded_in_silence :
    MalformedIn undecoded ⟨"SERVER_PORT", .bits16, some 8080⟩ ∧
    LoadSettings.ofLookup undecoded.lookup = .quiet .default ∧
    ¬Outspoken loadReader undecoded := by
  have htext : ¬IsTextIn undecoded "SERVER_PORT" := fun htext =>
    absurd (htext ⟨#[0x38, 0xff]⟩ (by simp [undecoded])) (by decide)
  have hlookup : undecoded.lookup = fun _ => none := by
    funext name
    unfold Environment.lookup undecoded
    split
    · rw [Option.bind_some, String.fromUTF8?, dif_neg (by decide)]
    · rfl
  refine ⟨malformedIn_of_not_isTextIn htext, ?_, fun hsays => ?_⟩
  · rw [hlookup]
    rfl
  · exact htext (lawful_loadReader.outspoken_iff.mp hsays _ (.head _))

end EchoBench.Proofs.Config
