import EchoBench.Load.Client
import EchoBench.Proofs.Config.Leniency
import EchoBench.Proofs.Load.Ending
import EchoBench.Rehearsal.Peer
import EchoBench.Serve.Server

/-!
# `EchoBench.Proofs.Config.Buffer`: the settings that crash a program

The settings admit every positive number of sixty-four bits. As a span of time each of them can be
used, for a deadline that no clock tells is moved (`deadline_le_last`). As the size of a buffer half
of them cannot: nothing stands between `BUFFER_SIZE` and the memory that is asked for. `AsksTooMuch`
are the lookups with such a size, and `crashed_iff_asksTooMuch` says that they are all that crash a
client or a handler, whoever is at the other end.

A client asks for its buffer once it is connected. A handler asks for it first, so whether it
crashes is settled before anything happens on its stream (`crashed_step_iff`, `crashed_play_iff`).
-/

set_option autoImplicit false

namespace EchoBench.Proofs.Config

open EchoBench.Config
open EchoBench.Load
open EchoBench.Net
open EchoBench.Serve
open EchoBench.Text
open EchoBench.Proofs.Load
open EchoBench.Proofs.Text

/-! ### The size of the buffers -/

/-- The size of the buffers, which both programs read under one name, with the same limits and the
same default, so one lemma says for both which sizes reach a client or a handler. -/
def bufferSetting : NumberSetting :=
  ⟨"BUFFER_SIZE", .positive64, some 1024⟩

/-- A lookup asks for a buffer that cannot be had: the size that it gives is a number, is accepted
as one, and is too large for the memory. -/
def AsksTooMuch (l : Lookup) : Prop :=
  ∃ value, l "BUFFER_SIZE" = some value ∧ IsNumeral .positive64 (trim value.toList) ∧
    greatestBuffer < numeralValue (trim value.toList)

section Size

variable {l : Lookup}

/-- What a lookup gives for a number: its own value, where that is a numeral within limits. -/
theorem given?_eq_some_iff {s : NumberSetting} {n : Nat} :
    given? l s = some n ↔
      ∃ value, l s.name = some value ∧ IsNumeral s.limits (trim value.toList) ∧
        numeralValue (trim value.toList) = n := by
  constructor
  · intro hgiven
    rcases setting_cases l s with
      ⟨-, hnone, -⟩ | ⟨value, m, hget, hread, hsome, -⟩ | ⟨-, -, -, -, hnone, -⟩
    · cases hnone.symm.trans hgiven
    · cases hsome.symm.trans hgiven
      obtain ⟨hnumeral, hvalue⟩ := readNumeral_eq_ok_iff.mp hread
      exact ⟨value, (Option.filter_eq_some_iff.mp hget).1, hnumeral, hvalue.symm⟩
    · cases hnone.symm.trans hgiven
  · rintro ⟨value, hvalue, hnumeral, rfl⟩
    -- A numeral has digits, so its value is not blank.
    have hblank : ¬Blank value := by
      intro hblank
      rw [Blank, ← trim_eq_nil_iff] at hblank
      rw [hblank] at hnumeral
      exact hnumeral.1 rfl
    simp [given?, text?, hvalue, Option.filter_some, hblank, Malformed, hnumeral]

/-- The size that is used is too large exactly where the lookup asks for it. -/
theorem greatestBuffer_lt_getD_iff :
    greatestBuffer < (given? l bufferSetting).getD 1024 ↔ AsksTooMuch l := by
  constructor
  · intro hlarge
    cases hgiven : given? l bufferSetting with
    | none =>
      -- The default is not too large.
      rw [hgiven] at hlarge
      exact absurd hlarge (by decide)
    | some n =>
      obtain ⟨value, hvalue, hnumeral, rfl⟩ := given?_eq_some_iff.mp hgiven
      rw [hgiven] at hlarge
      exact ⟨value, hvalue, hnumeral, hlarge⟩
  · rintro ⟨value, hvalue, hnumeral, hlarge⟩
    have hgiven : given? l bufferSetting = some (numeralValue (trim value.toList)) :=
      given?_eq_some_iff.mpr ⟨value, hvalue, hnumeral, rfl⟩
    rw [hgiven]
    exact hlarge

/-- The size of both programs is what the lookup gives, without loss in a word of the machine. -/
theorem toNat_bufferSize (l : Lookup) :
    (LoadSettings.ofLookup l).value.bufferSize.toNat = (given? l bufferSetting).getD 1024 ∧
      (ServerSettings.ofLookup l).value.bufferSize.toNat = (given? l bufferSetting).getD 1024 := by
  have hlt : (given? l bufferSetting).getD 1024 < UInt64.size :=
    (getD_given?_bounds rfl (by decide)).2
  rw [value_loadSettings, value_serverSettings]
  exact ⟨UInt64.toNat_ofNat_of_lt' hlt, UInt64.toNat_ofNat_of_lt' hlt⟩

end Size

/-! ### A handler -/

/-- Nothing that happens on its stream crashes a handler, or saves it. The only crash is at the
start, where the buffer is made, and a crashed handler takes no event any more. -/
theorem crashed_step_iff (h : Handler) (event : Handler.Event) (text : String) :
    (h.step event).stage = .crashed text ↔ h.stage = .crashed text := by
  -- An event either does not belong to the stage and changes nothing, or leads to a stage that is
  -- no crash.
  cases event with
  | read answer =>
    cases hstage : h.stage with
    | reading =>
      simp only [Handler.step, hstage]
      cases answer with
      | data bytes => cases bytes <;> simp [Handler.received, Handler.goTo]
      | failed cause => simp [Handler.received, Handler.goTo]
      | expired =>
        cases hlimit : h.settings.idleTimeout with
        | none => simp [Handler.received, hlimit, hstage]
        | some limit => simp [Handler.received, hlimit, Handler.goTo]
    | writing size | ended | failed error | crashed text' => simp [Handler.step, hstage]
  | write answer =>
    cases hstage : h.stage with
    | writing size =>
      simp only [Handler.step, hstage]
      cases answer with
      | done | failed written cause => simp [Handler.wrote, Handler.goTo]
      | expired written => simp [Handler.wrote, hstage]
    | reading | ended | failed error | crashed text' => simp [Handler.step, hstage]

/-- A handler crashes exactly where it cannot have its buffer: by the start it has or has not, and
no event after it changes that. -/
theorem crashed_play_iff (settings : HandlerSettings) (events : List Handler.Event) (text : String) :
    ((Handler.start settings).play events).stage = .crashed text ↔
      text = bufferCrash ∧ greatestBuffer < settings.bufferSize := by
  -- The events change nothing, so the start decides.
  have hplay : ∀ h : Handler, (h.play events).stage = .crashed text ↔ h.stage = .crashed text := by
    induction events with
    | nil => exact fun _ => Iff.rfl
    | cons event events ih => exact fun h => (ih (h.step event)).trans (crashed_step_iff h event text)
  rw [hplay]
  unfold Handler.start
  split
  · next hle => simp [Nat.not_lt.mpr hle]
  · next hgreat => simp [Nat.lt_of_not_le hgreat, eq_comm]

/-! ### Both programs -/

/-- When the programs crash, for every lookup. A client that is connected and a handler crash where
the lookup asks for a buffer that cannot be had, whatever the other end does; in all other cases a
client finishes with its record, and a handler never crashes. No other setting can be too large: the
clock can tell the deadline of every client, if it goes on for thirty years at all. -/
theorem crashed_iff_asksTooMuch {σ : Type} (l : Lookup) (link : Link σ) (index : Nat) (s : σ)
    (events : List Handler.Event) :
    let load := (LoadSettings.ofLookup l).value
    let server := Server.handlerSettings (ServerSettings.ofLookup l).value
    let c := (Client.run link load index s).1
    let h := (Handler.start server).play events
    (∀ text, c.stage = .crashed text ↔
      text = bufferCrash ∧ (link.dial s).1 = .connected ∧ AsksTooMuch l) ∧
    (¬((link.dial s).1 = .connected ∧ AsksTooMuch l) → c.stage = .finished) ∧
    (∀ text, h.stage = .crashed text ↔ text = bufferCrash ∧ AsksTooMuch l) ∧
    ∀ (clock : Clock) (begun : Nat), begun + farFuture.nanoseconds ≤ clock.last →
      deadline clock begun load.ioDeadline ≤ clock.last := by
  intro load server c h
  obtain ⟨hloadSize, hserverSize⟩ := toNat_bufferSize l
  -- Both programs take their size from the same name, so one condition on the lookup decides for
  -- both.
  have hload : greatestBuffer < load.bufferSize.toNat ↔ AsksTooMuch l := by
    rw [hloadSize]
    exact greatestBuffer_lt_getD_iff
  have hserver : greatestBuffer < server.bufferSize ↔ AsksTooMuch l := by
    show greatestBuffer < (ServerSettings.ofLookup l).value.bufferSize.toNat ↔ _
    rw [hserverSize]
    exact greatestBuffer_lt_getD_iff
  -- A client that does not ask for too much finishes, with or without a connection.
  have hfinished : ¬((link.dial s).1 = .connected ∧ AsksTooMuch l) → c.stage = .finished := by
    intro hfine
    by_cases hdial : (link.dial s).1 = .connected
    · have hle := Nat.le_of_not_lt fun hlarge => hfine ⟨hdial, hload.mp hlarge⟩
      exact (talking_run link load index s hdial hle).1
    · exact (dialFailed_run link load index s hdial).1
  refine ⟨fun text => ?_, hfinished, fun text => ?_, fun clock begun htold => ?_⟩
  · by_cases hcrash : (link.dial s).1 = .connected ∧ AsksTooMuch l
    · have hstage : c.stage = .crashed bufferCrash :=
        crashed_run link load index s hcrash.1 (hload.mpr hcrash.2)
      simp [hstage, hcrash, eq_comm]
    · simp [hfinished hcrash, hcrash]
  · rw [crashed_play_iff, hserver]
  · exact deadline_le_last htold _

/-- The variables of a program whose buffers are to be of one byte more than can be had. -/
def oversized : Lookup := fun name =>
  if name = "BUFFER_SIZE" then some "9223372036854775808" else none

/-- Both programs take that size without a warning. With it a client crashes that is connected, and
a handler crashes before it has read anything. -/
theorem oversized_crashes :
    (LoadSettings.ofLookup oversized).warnings = [] ∧
    (ServerSettings.ofLookup oversized).warnings = [] ∧
    Rehearsal.rehearseClient .loopback .serving (LoadSettings.ofLookup oversized).value 0 []
      = .crashed "capacity overflow" ∧
    (Handler.start (Server.handlerSettings (ServerSettings.ofLookup oversized).value)).stage
      = .crashed "capacity overflow" := by
  refine ⟨by decide +kernel, by decide +kernel, ?_, by decide +kernel⟩
  rfl

end EchoBench.Proofs.Config
