import EchoBench.Load.Client
import EchoBench.Record
import EchoBench.Text.Numeral
import Mathlib.Data.List.TakeWhile
import Mathlib.Logic.Function.Basic

/-!
# `EchoBench.Proofs.Load.Sender`: a message tells who sent it

The name of a run is any text. It may end in a dash and digits, as the names of clients do, or hold
the words that stand around a name in a message. Still the name of a client tells the run and the
number of the client (`taskId_eq_iff`), and a message tells these and its own number
(`payload_injective`).

What makes the parts of a text unique is that the digits of a number go as far as they can. A number
is read off from the left where a character that is no digit stands behind it
(`decimal_append_inj`), and off from the right where one stands in front of it
(`append_decimal_inj`). A message without an opening has its number in front of the name and is read
from the left; one with an opening has it behind the name and is read from the right. The number of
a client comes last in its name, so that is read from the right.
-/

set_option autoImplicit false

namespace EchoBench.Proofs.Load

open EchoBench.Load
open EchoBench.Text

/-! ### Numbers in a text -/

section Numbers

variable {a b s t : List Char} {c : Char} {m n : Nat}

/-- Two runs of digits in front of the same character that is no digit are the same, and so is what
stands behind that. -/
theorem digits_append_inj (ha : ∀ x ∈ a, x.isDigit = true) (hb : ∀ x ∈ b, x.isDigit = true)
    (hc : c.isDigit = false) (h : a ++ c :: s = b ++ c :: t) : a = b ∧ s = t := by
  have hrun : a = b := by
    have hfront := congrArg (List.takeWhile Char.isDigit) h
    rw [List.takeWhile_append_of_pos ha, List.takeWhile_append_of_pos hb] at hfront
    simpa [hc] using hfront
  subst hrun
  exact ⟨rfl, (List.cons.inj (List.append_cancel_left h)).2⟩

/-- Different numbers have different texts, because the digits of a text give the number back. -/
theorem decimal_injective : Function.Injective decimal := by
  intro m n h
  calc m = Nat.ofDigitChars 10 (decimal m) 0 := Nat.ofDigitChars_ten_toDigits.symm
    _ = Nat.ofDigitChars 10 (decimal n) 0 := by rw [h]
    _ = n := Nat.ofDigitChars_ten_toDigits

/-- A number is read off from the left: its digits end at the first character that is none. What
stands behind may be anything. -/
theorem decimal_append_inj (hc : c.isDigit = false) (h : decimal m ++ c :: s = decimal n ++ c :: t) :
    m = n ∧ s = t := by
  obtain ⟨hdigits, hrest⟩ := digits_append_inj isDigit_decimal isDigit_decimal hc h
  exact ⟨decimal_injective hdigits, hrest⟩

/-- A number is read off from the right: its digits begin behind the last character that is none.
What stands in front may be anything, digits included. -/
theorem append_decimal_inj (hc : c.isDigit = false) (h : s ++ c :: decimal m = t ++ c :: decimal n) :
    s = t ∧ m = n := by
  have hreversed : ∀ k, ∀ x ∈ (decimal k).reverse, x.isDigit = true :=
    fun k x hx => isDigit_decimal x (List.mem_reverse.mp hx)
  have hback : (decimal m).reverse ++ c :: s.reverse = (decimal n).reverse ++ c :: t.reverse := by
    simpa using congrArg List.reverse h
  obtain ⟨hdigits, hrest⟩ := digits_append_inj (hreversed m) (hreversed n) hc hback
  exact ⟨List.reverse_inj.mp hrest, decimal_injective (List.reverse_inj.mp hdigits)⟩

end Numbers

/-! ### Names and messages -/

section Names

variable {run run' : String} {index index' seq seq' : Nat}

/-- A client's name is the name of the run, a dash and its number. The number stands at the end and
has no dash, so it can be told from the name of the run, whatever that is. -/
theorem toList_taskId (run : String) (index : Nat) :
    (taskId run index).toList = run.toList ++ '-' :: decimal index := by
  simp [taskId, String.toList_append, decimal]

/-- The name of a client tells the run and the number of the client. -/
theorem taskId_eq_iff : taskId run index = taskId run' index' ↔ run = run' ∧ index = index' := by
  constructor
  · intro h
    have hchars : run.toList ++ '-' :: decimal index = run'.toList ++ '-' :: decimal index' := by
      rw [← toList_taskId, h, toList_taskId]
    obtain ⟨hrun, hindex⟩ := append_decimal_inj (by decide) hchars
    exact ⟨String.toList_inj.mp hrun, hindex⟩
  · rintro ⟨rfl, rfl⟩
    rfl

/-- A message without an opening: its number stands behind a fixed text and ends at a blank, so it
is found from the left. -/
theorem toList_payload_none (name : String) (seq : Nat) :
    (payload name seq none).toList
      = "msg ".toList ++ (decimal seq ++ ' ' :: ("from ".toList ++ name.toList)) := by
  simp [payload, String.toList_append, decimal]

/-- A message with an opening: the opening may be anything, so the number is found from the right,
in front of the closing bracket. -/
theorem toList_payload_some (name : String) (seq : Nat) (opening : String) :
    (payload name seq (some opening)).toList
      = opening.toList ++ (" (from ".toList ++
          ((name.toList ++ " - msg".toList ++ ' ' :: decimal seq) ++ [')'])) := by
  simp [payload, String.toList_append, decimal]

/-- A message tells the name of its client and its own number. Without an opening the number is read
from the left, up to the blank behind it. An opening may be anything, digits included, so there the
number is read from the right. -/
theorem payload_eq_iff {name name' : String} (opening : Option String) :
    payload name seq opening = payload name' seq' opening ↔ name = name' ∧ seq = seq' := by
  constructor
  · intro h
    have hchars := congrArg String.toList h
    cases opening with
    | none =>
      rw [toList_payload_none, toList_payload_none] at hchars
      obtain ⟨hseq, hrest⟩ := decimal_append_inj (by decide) (List.append_cancel_left hchars)
      exact ⟨String.toList_inj.mp (List.append_cancel_left hrest), hseq⟩
    | some opening =>
      rw [toList_payload_some, toList_payload_some] at hchars
      -- The opening and what follows it are the same on both sides, and so is the last character.
      have hmiddle := List.append_cancel_right
        (List.append_cancel_left (List.append_cancel_left hchars))
      obtain ⟨hrest, hseq⟩ := append_decimal_inj (by decide) hmiddle
      exact ⟨String.toList_inj.mp (List.append_cancel_right hrest), hseq⟩
  · rintro ⟨rfl, rfl⟩
    rfl

/-- Every message tells who sent it, with any opening or none: two messages that are the same come
from the same run, the same client in it and the same place among the messages of that client. So
does the name of a client tell the run and the client, and clients of runs with different names
never share one. -/
theorem payload_injective (opening : Option String) :
    (Function.Injective fun m : String × Nat × Nat =>
      payload (taskId m.1 m.2.1) m.2.2 opening) ∧
    (Function.Injective fun c : String × Nat => taskId c.1 c.2) ∧
    ∀ run run' : String, run ≠ run' → ∀ index index' : Nat,
      taskId run index ≠ taskId run' index' := by
  refine ⟨?_, ?_, ?_⟩
  · rintro ⟨run, index, seq⟩ ⟨run', index', seq'⟩ h
    obtain ⟨hname, rfl⟩ := (payload_eq_iff opening).mp h
    obtain ⟨rfl, rfl⟩ := taskId_eq_iff.mp hname
    rfl
  · rintro ⟨run, index⟩ ⟨run', index'⟩ h
    obtain ⟨rfl, rfl⟩ := taskId_eq_iff.mp h
    rfl
  · intro run run' hne index index' h
    exact hne (taskId_eq_iff.mp h).1

end Names

end EchoBench.Proofs.Load
