import EchoBench.Text.Character
import EchoBench.Text.Numeral

/-!
# `EchoBench.Config.Lookup`: settings by name

Settings come from a lookup by name. A blank value counts as none. A text is taken as it is; a
number is trimmed first, and a value that is no number within the limits gives a `Warning` and the
default. Nothing here fails: every setting has a value, and the warnings come beside it, in the
order in which the settings were read (`Reported`).
-/

set_option autoImplicit false

namespace EchoBench.Config

open EchoBench.Text

/-- The value of each setting, where it has one. -/
abbrev Lookup : Type :=
  String → Option String

/-- The values that a process was started with, as bytes. -/
abbrev Environment : Type :=
  String → Option ByteArray

/-- The settings in an environment. Bytes that are no text in UTF-8 count as no value. -/
def Environment.lookup (e : Environment) : Lookup := fun name =>
  (e name).bind String.fromUTF8?

/-- A value that was passed over. -/
structure Warning where
  /-- The name of the setting. -/
  name : String
  /-- The value as it was given. -/
  value : String
  /-- The number that is used in its place, where there is one. -/
  fallback : Option Nat
  /-- Why the value is no number within the limits. -/
  fault : NumeralFault
  deriving DecidableEq, Repr

/-- The wording of a warning. -/
def Warning.message (w : Warning) : String :=
  if w.fallback.isSome then "Invalid environment variable, using default"
  else "Invalid environment variable, ignoring"

/-- A value, and the warnings that came up while it was found. -/
structure Reported (α : Type) where
  value : α
  warnings : List Warning
  deriving Repr

namespace Reported

/-- A value without a warning. -/
def quiet {α : Type} (a : α) : Reported α := ⟨a, []⟩

instance : Monad Reported where
  pure := quiet
  bind r f := ⟨(f r.value).value, r.warnings ++ (f r.value).warnings⟩

variable {α β : Type}

@[simp] theorem value_pure (a : α) : (pure a : Reported α).value = a := rfl

@[simp] theorem warnings_pure (a : α) : (pure a : Reported α).warnings = [] := rfl

@[simp] theorem value_bind (r : Reported α) (f : α → Reported β) :
    (r >>= f).value = (f r.value).value := rfl

@[simp] theorem warnings_bind (r : Reported α) (f : α → Reported β) :
    (r >>= f).warnings = r.warnings ++ (f r.value).warnings := rfl

end Reported

namespace Lookup

/-- The value of a setting, unless it is blank. -/
def get? (l : Lookup) (name : String) : Option String :=
  (l name).filter fun value => !(trim value.toList).isEmpty

/-- The value of a setting as it is, or a default. -/
def textOr (l : Lookup) (name fallback : String) : String :=
  (l.get? name).getD fallback

/-- The number that a setting gives, or a default. -/
def numberOr (l : Lookup) (limits : Limits) (name : String) (fallback : Nat) : Reported Nat :=
  match l.get? name with
  | none => .quiet fallback
  | some value =>
    match readNumeral limits (trim value.toList) with
    | .ok n => .quiet n
    | .error fault => ⟨fallback, [⟨name, value, some fallback, fault⟩]⟩

/-- The number that a setting gives, if it gives one. -/
def number? (l : Lookup) (limits : Limits) (name : String) : Reported (Option Nat) :=
  match l.get? name with
  | none => .quiet none
  | some value =>
    match readNumeral limits (trim value.toList) with
    | .ok n => .quiet (some n)
    | .error fault => ⟨none, [⟨name, value, none, fault⟩]⟩

end Lookup

end EchoBench.Config
