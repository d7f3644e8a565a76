import Mathlib.Tactic.SplitIfs
import QueryGateway.Json.Printer
import QueryGateway.Proofs.Json.Reading

/-!
# Escaped strings

Every escape of the printer is undone by the reader of strings: the short ones, and
the code point of a control character in hexadecimal digits.
-/

namespace QueryGateway.Json

open Document

/-- The digits of a number below sixteen have its value. -/
theorem hexValue?_hexDigit {n : Nat} (hn : n < 16) : Text.hexValue? (hexDigit n) = some n := by
  have hall : ∀ k : Fin 16, Text.hexValue? (hexDigit k) = some k.val := by decide
  exact hall ⟨n, hn⟩

/-- A control character by its code point. -/
theorem readChar?_control {c : Char} (hc : c.toNat < 32) (rest : List Char) :
    readChar? (['\\', 'u', '0', '0', hexDigit (c.toNat / 16), hexDigit (c.toNat % 16)] ++ rest) =
      some (c, rest) := by
  have hhex : readHex? ('0' :: '0' :: hexDigit (c.toNat / 16) :: hexDigit (c.toNat % 16) :: rest) =
      some (c.toNat, rest) := by
    have hzero : Text.hexValue? '0' = some 0 := by decide
    rw [readHex?, hzero, hexValue?_hexDigit (by omega), hexValue?_hexDigit (by omega)]
    simp only [bind, Option.bind, Option.some.injEq, Prod.mk.injEq, and_true]
    omega
  have hunicode : readUnicode? ('0' :: '0' :: hexDigit (c.toNat / 16) :: hexDigit (c.toNat % 16) ::
      rest) = some (c, rest) := by
    rw [readUnicode?, hhex]
    simp only [bind, Option.bind]
    rw [if_neg (by omega), if_neg (by omega), Char.ofNat_toNat]
  simpa [readChar?, readEscape?] using hunicode

/-- A character that needs no escape. -/
theorem readChar?_plain {c : Char} (hquote : c ≠ '"') (hslash : c ≠ '\\') (hc : ¬ c.toNat < 32)
    (rest : List Char) : readChar? (c :: rest) = some (c, rest) := by
  rw [readChar?, if_neg hquote, if_neg hslash, if_neg hc]

/-- The reader undoes the escapes of the printer. -/
theorem escapes_escapeChar : Escapes escapeChar := by
  intro c rest
  unfold escapeChar
  simp only [beq_iff_eq]
  split_ifs with hquote hslash hnewline hreturn htab hback hfeed hcontrol
  · subst hquote; rfl
  · subst hslash; rfl
  · subst hnewline; rfl
  · subst hreturn; rfl
  · subst htab; rfl
  · rw [← Char.ofNat_toNat c, hback]; rfl
  · rw [← Char.ofNat_toNat c, hfeed]; rfl
  · exact readChar?_control hcontrol rest
  · exact readChar?_plain hquote hslash hcontrol rest

end QueryGateway.Json
