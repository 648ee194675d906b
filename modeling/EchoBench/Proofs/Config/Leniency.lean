import EchoBench.Config.LoadSettings
import EchoBench.Config.ServerSettings
import EchoBench.Proofs.Text.Numeral
import Mathlib.Data.List.Basic

/-!
# `EchoBench.Proofs.Config.Leniency`: bad settings behave as unset ones

A lookup may give blank values, and values that are no numbers where numbers are asked for.
`passOver` takes both out of a lookup. `ofLookup_passOver` says that this changes no setting of
either program, and that nothing is left to warn of; the warnings about the lookup itself are one
for each value that is no number, in the order of the settings.

The settings that are numbers are listed with their limits and with what is used in their place
(`loadNumbers`, `serverNumbers`). What a lookup gives for one of them is `given?`, and what there is
to say of it is `complaint?`. The first is not changed by `passOver` (`given?_passOver`), the second
is not there any more (`complaint?_passOver`); a name with different limits in the two lists would
break both, and there is none (`limits_eq_of_name_eq`).
-/

set_option autoImplicit false

namespace EchoBench.Proofs.Config

open EchoBench.Config
open EchoBench.Text
open EchoBench.Proofs.Text

/-- A setting that is a number: its name, the numbers that it may be, and what stands in for it.
Both programs are lists of these, and one specification serves all of them. -/
structure NumberSetting where
  name : String
  /-- Which numbers are accepted. -/
  limits : Limits
  /-- The number that is used where the value is none, if one is used at all. -/
  fallback : Option Nat
  deriving DecidableEq, Repr

/-- The numbers among the settings of a load run, in order. -/
def loadNumbers : List NumberSetting :=
  [⟨"SERVER_PORT", .bits16, some 8080⟩, ⟨"NUM_MESSAGES_PER_CLIENT", .bits64, some 1⟩,
    ⟨"NUM_CONCURRENT_CLIENTS", .bits64, some 1⟩, ⟨"DIAL_TIMEOUT_SECS", .positive64, some 10⟩,
    ⟨"IO_DEADLINE_SECS", .positive64, some 60⟩, ⟨"BUFFER_SIZE", .positive64, some 1024⟩]

/-- The numbers among the settings of a server, in the order in which they are read, which is also
the order of the complaints about them. -/
def serverNumbers : List NumberSetting :=
  [⟨"PORT", .bits16, some 8080⟩, ⟨"BUFFER_SIZE", .positive64, some 1024⟩,
    ⟨"IDLE_TIMEOUT_SECS", .positive64, none⟩]

/-- All settings that are numbers, of either program. A lookup that passes over bad values looks a
name up here to know what a good value would be. -/
def numbers : List NumberSetting :=
  loadNumbers ++ serverNumbers

/-- A value that is nothing but white space. Such a value counts as none at all, so there is neither
a number nor a complaint. -/
def Blank (value : String) : Prop :=
  ∀ c ∈ value.toList, isBlank c = true

-- The characters of the value are looked at, and not all that there are.
/-- Whether a value is padding only can be decided, so the complaints of a given lookup can be
computed. -/
instance (value : String) : Decidable (Blank value) :=
  List.decidableBAll _ value.toList

/-- A value that is not blank, and no number within limits once it is trimmed. -/
def Malformed (limits : Limits) (value : String) : Prop :=
  ¬Blank value ∧ ¬IsNumeral limits (trim value.toList)

/-- Whether a value is malformed can be decided by reading it. -/
instance (limits : Limits) (value : String) : Decidable (Malformed limits value) :=
  inferInstanceAs (Decidable (_ ∧ _))

/-- The value of a setting, unless it is blank, with the white space at its ends still there. The
complaint quotes this text, while the number is read from what trimming leaves of it. -/
def text? (l : Lookup) (name : String) : Option String :=
  (l name).filter fun value => ¬Blank value

/-- A lookup without the values that are blank, and without those that should be numbers and are
not. -/
def passOver (l : Lookup) : Lookup := fun name =>
  (text? l name).filter fun value => ∀ s ∈ numbers, s.name = name → ¬Malformed s.limits value

/-- The number that a lookup gives for a setting, or none where nothing is given, or nothing but
what is malformed. This is the specification of a number: it is told by digits and does not go
through the reader. -/
def given? (l : Lookup) (s : NumberSetting) : Option Nat :=
  (text? l s.name).bind fun value =>
    if Malformed s.limits value then none else some (numeralValue (trim value.toList))

/-- What there is to say of a setting: its name and its value where that is malformed, and what is
used in its place. -/
def complaint? (l : Lookup) (s : NumberSetting) : Option (String × String × Option Nat) :=
  (l s.name).bind fun value =>
    if Malformed s.limits value then some (s.name, value, s.fallback) else none

/-- What a warning says of a setting: its name, the value word for word, and the number that is used
in its place. -/
def complaint (w : Warning) : String × String × Option Nat :=
  (w.name, w.value, w.fallback)

/-! ### One setting -/

section Setting

variable {l : Lookup} {name : String} {s : NumberSetting}

/-- The values that are trimmed to nothing are the blank ones, so what the lookup of the program
gives is what the specification reads. Every later case analysis starts from this equation. -/
theorem get?_eq_text? (l : Lookup) (name : String) : l.get? name = text? l name := by
  have hblank : ∀ value : String, (!(trim value.toList).isEmpty) = decide ¬Blank value := by
    intro value
    rw [Bool.eq_iff_iff, Bool.not_eq_true', List.isEmpty_eq_false_iff, decide_eq_true_iff, Blank,
      ← trim_eq_nil_iff]
  simp only [Lookup.get?, text?, hblank]

/-- A value that is not blank is malformed if it is not read. By this the specification, which goes
by digits, and the reader, which goes from left to right, speak of the same values. -/
theorem malformed_iff {value : String} (hvalue : text? l name = some value) :
    Malformed s.limits value ↔ ∀ n, readNumeral s.limits (trim value.toList) ≠ .ok n := by
  have hblank : ¬Blank value := by simpa using Option.filter_eq_some_iff.mp hvalue |>.2
  simp [Malformed, hblank, readNumeral_eq_ok_iff]

/-- What there is to say of a setting is about a value that is not blank. -/
theorem complaint?_eq (l : Lookup) (s : NumberSetting) :
    complaint? l s = (text? l s.name).bind fun value =>
      if Malformed s.limits value then some (s.name, value, s.fallback) else none := by
  rw [complaint?, text?]
  cases l s.name with
  | none => rfl
  | some value => by_cases hblank : Blank value <;> simp [Option.filter_some, Malformed, hblank]

/-- What there is to say of a setting, word for word, and when there is anything to say: a value has
been given, it is not blank, and it is malformed. -/
theorem complaint?_eq_some_iff {c : String × String × Option Nat} :
    complaint? l s = some c ↔
      ∃ value, l s.name = some value ∧ Malformed s.limits value ∧ c = (s.name, value, s.fallback) := by
  rw [complaint?, Option.bind_eq_some_iff]
  refine exists_congr fun value => and_congr_right fun _ => ?_
  split
  · next hbad => simp [hbad, eq_comm]
  · next hwell => simp [hwell]

/-- A setting has no value, or a number, or a value that is malformed. -/
theorem setting_cases (l : Lookup) (s : NumberSetting) :
    (l.get? s.name = none ∧ given? l s = none ∧ complaint? l s = none) ∨
    (∃ value n, l.get? s.name = some value ∧ readNumeral s.limits (trim value.toList) = .ok n ∧
      given? l s = some n ∧ complaint? l s = none) ∨
    ∃ value fault, l.get? s.name = some value ∧
      readNumeral s.limits (trim value.toList) = .error fault ∧
      given? l s = none ∧ complaint? l s = some (s.name, value, s.fallback) := by
  rw [get?_eq_text?, complaint?_eq, given?]
  cases htext : text? l s.name with
  | none => exact .inl ⟨rfl, rfl, rfl⟩
  | some value =>
    have hmalformed := malformed_iff (s := s) htext
    cases hread : readNumeral s.limits (trim value.toList) with
    | ok n =>
      have hn : n = numeralValue (trim value.toList) := (readNumeral_eq_ok_iff.mp hread).2
      have hwell : ¬Malformed s.limits value := fun h => hmalformed.mp h n hread
      exact .inr (.inl ⟨value, n, rfl, hread, by simp [hwell, hn], by simp [hwell]⟩)
    | error fault =>
      have hbad : Malformed s.limits value := hmalformed.mpr (by simp [hread])
      exact .inr (.inr ⟨value, fault, rfl, hread, by simp [hbad], by simp [hbad]⟩)

/-- A number with a default: what the lookup gives or the default, and one warning where there is
something to say. -/
theorem numberOr_spec (l : Lookup) (limits : Limits) (name : String) (fallback : Nat) :
    (l.numberOr limits name fallback).value
        = (given? l ⟨name, limits, some fallback⟩).getD fallback ∧
      (l.numberOr limits name fallback).warnings.map complaint
        = (complaint? l ⟨name, limits, some fallback⟩).toList := by
  rcases setting_cases l ⟨name, limits, some fallback⟩ with
    ⟨hget, hgiven, hcomplaint⟩ | ⟨value, n, hget, hread, hgiven, hcomplaint⟩ |
    ⟨value, fault, hget, hread, hgiven, hcomplaint⟩
  · simp [Lookup.numberOr, hget, hgiven, hcomplaint, Reported.quiet]
  · simp [Lookup.numberOr, hget, hread, hgiven, hcomplaint, Reported.quiet]
  · simp [Lookup.numberOr, hget, hread, hgiven, hcomplaint, complaint]

/-- A number without a default: it is the number that the lookup gives, if it gives one, and the
warnings are the complaint about the value, if there is one. A setting with a default
(`numberOr_spec`) differs in what it falls back to only. -/
theorem number?_spec (l : Lookup) (limits : Limits) (name : String) :
    (l.number? limits name).value = given? l ⟨name, limits, none⟩ ∧
      (l.number? limits name).warnings.map complaint
        = (complaint? l ⟨name, limits, none⟩).toList := by
  rcases setting_cases l ⟨name, limits, none⟩ with
    ⟨hget, hgiven, hcomplaint⟩ | ⟨value, n, hget, hread, hgiven, hcomplaint⟩ |
    ⟨value, fault, hget, hread, hgiven, hcomplaint⟩
  · simp [Lookup.number?, hget, hgiven, hcomplaint, Reported.quiet]
  · simp [Lookup.number?, hget, hread, hgiven, hcomplaint, Reported.quiet]
  · simp [Lookup.number?, hget, hread, hgiven, hcomplaint, complaint]

/-- A number that is given is within its limits, since the reader accepts no other. The bounds on
the settings follow from this and from those of the defaults. -/
theorem admits_of_given? {n : Nat} (h : given? l s = some n) : s.limits.Admits n := by
  rcases setting_cases l s with
    ⟨-, hgiven, -⟩ | ⟨value, m, -, hread, hgiven, -⟩ | ⟨-, -, -, -, hgiven, -⟩
  · cases hgiven.symm.trans h
  · cases hgiven.symm.trans h
    obtain ⟨hnumeral, rfl⟩ := readNumeral_eq_ok_iff.mp hread
    exact hnumeral.2.2
  · cases hgiven.symm.trans h

/-- The number that is used is within limits, if the default is: a number that is given is within
them since it has been accepted. Bounds on settings need nothing but this. -/
theorem admits_getD_given? {fallback : Nat} (hfallback : s.limits.Admits fallback) :
    s.limits.Admits ((given? l s).getD fallback) := by
  cases hgiven : given? l s with
  | none => exact hfallback
  | some n => exact admits_of_given? hgiven

end Setting

/-! ### A lookup without its bad values -/

section PassOver

variable {l : Lookup} {name : String} {s : NumberSetting}

/-- A name stands for one kind of number, also where both programs read it. -/
theorem limits_eq_of_name_eq :
    ∀ s ∈ numbers, ∀ t ∈ numbers, s.name = t.name → s.limits = t.limits := by
  decide

/-- No value that is left is blank, so a text is found in the reduced lookup exactly where the full
one gives a text that is more than padding. -/
theorem text?_passOver (l : Lookup) (name : String) :
    text? (passOver l) name = passOver l name := by
  rw [text?, passOver, text?]
  cases l name with
  | none => rfl
  | some value =>
    by_cases hblank : Blank value
    · simp [Option.filter_some, hblank]
    · simp only [Option.filter_some, hblank, not_false_eq_true, decide_true, if_true]
      split <;> simp [Option.filter_some, hblank]

/-- Of a number, what is left is not malformed: its value stays if it can be read, and otherwise the
name counts as unset. -/
theorem passOver_of_mem (hs : s ∈ numbers) :
    passOver l s.name = (text? l s.name).filter fun value => ¬Malformed s.limits value := by
  have hsame : ∀ value, (∀ t ∈ numbers, t.name = s.name → ¬Malformed t.limits value) ↔
      ¬Malformed s.limits value := by
    intro value
    refine ⟨fun h => h s hs rfl, fun h t ht hname => ?_⟩
    rwa [limits_eq_of_name_eq t ht s hs hname]
  simp only [passOver, hsame]

/-- Of a text, what is left is what there was, unless that is blank. -/
theorem passOver_of_notMem (hname : ∀ s ∈ numbers, s.name ≠ name) :
    passOver l name = text? l name := by
  have hkept : ∀ value, (∀ s ∈ numbers, s.name = name → ¬Malformed s.limits value) ↔ True :=
    fun value => iff_true_intro fun s hs h => absurd h (hname s hs)
  simp only [passOver, hkept]
  cases text? l name <;> rfl

/-- The numbers that are given are not changed by passing over the values that give none. This is
half of why both lookups come to the same settings; the texts are the other half (`text?_passOver`).
-/
theorem given?_passOver (hs : s ∈ numbers) : given? (passOver l) s = given? l s := by
  rw [given?, given?, text?_passOver, passOver_of_mem hs]
  cases text? l s.name with
  | none => rfl
  | some value => by_cases hbad : Malformed s.limits value <;> simp [Option.filter_some, hbad]

/-- There is nothing left to say once the values with a complaint are passed over, so a program is
silent on the reduced lookup. -/
theorem complaint?_passOver (hs : s ∈ numbers) : complaint? (passOver l) s = none := by
  rw [complaint?, passOver_of_mem hs]
  cases text? l s.name with
  | none => rfl
  | some value => by_cases hbad : Malformed s.limits value <;> simp [Option.filter_some, hbad]

end PassOver

/-! ### The settings of a program -/

section Programs

variable {l : Lookup}

/-- What a lookup gives for the settings of a load run, field by field in terms of `given?` and
`text?`. Two lookups that agree on these two give the same run, which is how bad values are passed
over. -/
theorem value_loadSettings (l : Lookup) :
    (LoadSettings.ofLookup l).value = {
      host := (text? l "SERVER_IP").getD "localhost"
      port := .ofNat ((given? l ⟨"SERVER_PORT", .bits16, some 8080⟩).getD 8080)
      clientId := (text? l "CLIENT_ID").getD "default_client_pod"
      messages := .ofNat ((given? l ⟨"NUM_MESSAGES_PER_CLIENT", .bits64, some 1⟩).getD 1)
      clients := .ofNat ((given? l ⟨"NUM_CONCURRENT_CLIENTS", .bits64, some 1⟩).getD 1)
      opening := text? l "MESSAGE_PREFIX" <|> text? l "MESSAGE"
      dialTimeout := .ofSeconds ((given? l ⟨"DIAL_TIMEOUT_SECS", .positive64, some 10⟩).getD 10)
      ioDeadline := .ofSeconds ((given? l ⟨"IO_DEADLINE_SECS", .positive64, some 60⟩).getD 60)
      bufferSize := .ofNat ((given? l ⟨"BUFFER_SIZE", .positive64, some 1024⟩).getD 1024) } := by
  simp only [LoadSettings.ofLookup, Reported.value_bind, Reported.value_pure, Lookup.textOr,
    get?_eq_text?, (numberOr_spec l _ _ _).1, LoadSettings.default]
  rfl

/-- What a lookup gives for the settings of a server, field by field in terms of `given?` and
`text?`, as for a load run. -/
theorem value_serverSettings (l : Lookup) :
    (ServerSettings.ofLookup l).value = {
      ip := .unspecified
      port := .ofNat ((given? l ⟨"PORT", .bits16, some 8080⟩).getD 8080)
      bufferSize := .ofNat ((given? l ⟨"BUFFER_SIZE", .positive64, some 1024⟩).getD 1024)
      idleTimeout := (given? l ⟨"IDLE_TIMEOUT_SECS", .positive64, none⟩).map .ofSeconds } := by
  simp only [ServerSettings.ofLookup, Reported.value_bind, Reported.value_pure,
    (numberOr_spec l _ _ _).1, (number?_spec l _ _).1, ServerSettings.default]
  rfl

/-- What is said of the settings of a load run: one complaint for each malformed number, in the
order of the settings, and nothing else. -/
theorem complaints_loadSettings (l : Lookup) :
    (LoadSettings.ofLookup l).warnings.map complaint = loadNumbers.filterMap (complaint? l) := by
  simp only [LoadSettings.ofLookup, Reported.warnings_bind, Reported.warnings_pure,
    List.map_append, (numberOr_spec l _ _ _).2, List.filterMap_eq_flatMap_toList]
  rfl

/-- What is said of the settings of a server, in the order in which it reads them. The optional
limit on idle time is the last. -/
theorem complaints_serverSettings (l : Lookup) :
    (ServerSettings.ofLookup l).warnings.map complaint
      = serverNumbers.filterMap (complaint? l) := by
  simp only [ServerSettings.ofLookup, Reported.warnings_bind, Reported.warnings_pure,
    List.map_append, (numberOr_spec l _ _ _).2, (number?_spec l _ _).2,
    List.filterMap_eq_flatMap_toList]
  rfl

/-- The settings that are given are the same without the bad values, because a bad value gives no
number, and a value that is missing does not either. -/
theorem value_passOver (l : Lookup) :
    (LoadSettings.ofLookup (passOver l)).value = (LoadSettings.ofLookup l).value ∧
      (ServerSettings.ofLookup (passOver l)).value = (ServerSettings.ofLookup l).value := by
  have hgiven : ∀ s ∈ numbers, given? (passOver l) s = given? l s := fun _ => given?_passOver
  have htext : ∀ name ∈ ["SERVER_IP", "CLIENT_ID", "MESSAGE_PREFIX", "MESSAGE"],
      text? (passOver l) name = text? l name := by
    intro name hname
    have hother : ∀ s ∈ numbers, s.name ≠ name := by
      revert name
      decide
    rw [text?_passOver, passOver_of_notMem hother]
  simp only [numbers, loadNumbers, serverNumbers, List.cons_append, List.nil_append,
    List.forall_mem_cons] at hgiven htext
  simp [value_loadSettings, value_serverSettings, hgiven, htext]

/-- Without the bad values there is nothing to warn of: what is left of the numbers is well formed.
So the second run of a program on the reduced lookup is silent. -/
theorem warnings_passOver (l : Lookup) :
    (LoadSettings.ofLookup (passOver l)).warnings = [] ∧
      (ServerSettings.ofLookup (passOver l)).warnings = [] := by
  have hnone : ∀ settings ⊆ numbers, settings.filterMap (complaint? (passOver l)) = [] := by
    intro settings hsubset
    rw [List.filterMap_eq_nil_iff]
    exact fun s hs => complaint?_passOver (hsubset hs)
  constructor
  · apply List.map_eq_nil_iff.mp
    rw [complaints_loadSettings]
    exact hnone _ (List.subset_append_left _ _)
  · apply List.map_eq_nil_iff.mp
    rw [complaints_serverSettings]
    exact hnone _ (List.subset_append_right _ _)

/-- A positive number, or its default, is positive and fits its word. The bounds of the sizes and of
the numbers of clients and messages are instances of it. -/
theorem getD_given?_bounds {s : NumberSetting} (hs : s.limits = .positive64) {fallback : Nat}
    (hfallback : Limits.positive64.Admits fallback) :
    1 ≤ (given? l s).getD fallback ∧ (given? l s).getD fallback < UInt64.size := by
  rw [← hs] at hfallback
  have hadmits := admits_getD_given? (l := l) hfallback
  rw [hs] at hadmits
  obtain ⟨hle, hpos⟩ := hadmits
  have hne : (given? l s).getD fallback ≠ 0 := hpos.resolve_left nofun
  have hlast : Limits.positive64.greatest = UInt64.size - 1 := rfl
  have hsize : 0 < UInt64.size := by decide
  omega

/-- A positive number is positive in its word, if it fits: nothing wraps around to zero. -/
theorem one_le_ofNat {n : Nat} (h : 1 ≤ n ∧ n < UInt64.size) : 1 ≤ UInt64.ofNat n := by
  rw [UInt64.le_iff_toNat_le, UInt64.toNat_ofNat_of_lt' h.2]
  exact h.1

/-- A lookup with bad values gives the settings that it gives without them, and without them there
is nothing to warn of. A warning of the lookup itself is about a value that should be a number and
is not: it names the setting and the value as it was given, and what is used in its place. There is
one for each such value, in the order of the settings. Sizes and spans of time are positive, and a
span is of whole seconds. The opening of messages is the first of two texts that is not blank. -/
theorem ofLookup_passOver (l : Lookup) :
    let load := LoadSettings.ofLookup l
    let server := ServerSettings.ofLookup l
    LoadSettings.ofLookup (passOver l) = .quiet load.value ∧
    ServerSettings.ofLookup (passOver l) = .quiet server.value ∧
    load.warnings.map complaint = loadNumbers.filterMap (complaint? l) ∧
    server.warnings.map complaint = serverNumbers.filterMap (complaint? l) ∧
    1 ≤ load.value.bufferSize ∧
    1 ≤ server.value.bufferSize ∧
    (∃ n, 1 ≤ n ∧ load.value.dialTimeout = .ofSeconds n) ∧
    (∃ n, 1 ≤ n ∧ load.value.ioDeadline = .ofSeconds n) ∧
    (∀ limit ∈ server.value.idleTimeout, ∃ n, 1 ≤ n ∧ limit = .ofSeconds n) ∧
    load.value.opening = (text? l "MESSAGE_PREFIX" <|> text? l "MESSAGE") := by
  intro load server
  obtain ⟨hload, hserver⟩ := value_passOver l
  obtain ⟨hloadQuiet, hserverQuiet⟩ := warnings_passOver l
  -- All positive numbers have the same bounds, be they given or defaults.
  have hbounds : ∀ name fallback, Limits.positive64.Admits fallback →
      1 ≤ (given? l ⟨name, .positive64, some fallback⟩).getD fallback ∧
        (given? l ⟨name, .positive64, some fallback⟩).getD fallback < UInt64.size :=
    fun name fallback hfallback => getD_given?_bounds rfl hfallback
  refine ⟨?_, ?_, complaints_loadSettings l, complaints_serverSettings l, ?_, ?_, ?_, ?_, ?_, ?_⟩
  · exact congrArg₂ Reported.mk hload hloadQuiet
  · exact congrArg₂ Reported.mk hserver hserverQuiet
  · rw [value_loadSettings]
    exact one_le_ofNat (hbounds "BUFFER_SIZE" 1024 (by decide))
  · rw [value_serverSettings]
    exact one_le_ofNat (hbounds "BUFFER_SIZE" 1024 (by decide))
  · rw [value_loadSettings]
    exact ⟨_, (hbounds "DIAL_TIMEOUT_SECS" 10 (by decide)).1, rfl⟩
  · rw [value_loadSettings]
    exact ⟨_, (hbounds "IO_DEADLINE_SECS" 60 (by decide)).1, rfl⟩
  · -- The idle limit has no default, so it is a number that was given.
    rw [value_serverSettings]
    intro limit hlimit
    obtain ⟨n, hgiven, rfl⟩ := Option.map_eq_some_iff.mp hlimit
    have hpos : n ≠ 0 := (admits_of_given? hgiven).2.resolve_left nofun
    exact ⟨n, Nat.pos_of_ne_zero hpos, rfl⟩
  · rw [value_loadSettings]

end Programs

end EchoBench.Proofs.Config
