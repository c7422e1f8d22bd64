import Mathlib.Data.List.DropRight
import Provision.Argument

/-!
# Trimmed arguments

Trimming a text that is trimmed already changes nothing, so it makes no
difference how many of the functions that an argument passes through trim it.
-/

namespace Provision

namespace Text

variable {text : List Char}

theorem trimChars_eq (text : List Char) :
    trimChars text = (text.dropWhile isBlank).rdropWhile isBlank := rfl

/-- What is left by both cuts begins like what is left by the first one. -/
theorem dropWhile_trimChars (text : List Char) :
    (trimChars text).dropWhile isBlank = trimChars text := by
  rw [List.dropWhile_eq_self_iff]
  intro nonempty
  have isPrefix : trimChars text <+: text.dropWhile isBlank := List.rdropWhile_prefix _ _
  rw [isPrefix.getElem nonempty]
  exact List.dropWhile_get_zero_not isBlank text (nonempty.trans_le isPrefix.length_le)

theorem trimChars_trimChars (text : List Char) : trimChars (trimChars text) = trimChars text := by
  rw [trimChars_eq (trimChars text), dropWhile_trimChars, trimChars_eq, List.rdropWhile_idempotent]

theorem trim_trim (text : String) : trim (trim text) = trim text := by
  simp [trim, trimChars_trimChars]

end Text

namespace Argument

variable {field other value trimmed : String}

theorem eq_trim_of_required (accepted : required field value = .ok trimmed) :
    trimmed = Text.trim value ∧ trimmed ≠ "" := by
  by_cases blank : Text.trim value = ""
  · simp [required, blank] at accepted
  · simp only [required, blank, if_false, Except.ok.injEq] at accepted
    exact ⟨accepted.symm, accepted ▸ blank⟩

theorem required_of_trim_ne (notBlank : Text.trim value ≠ "") :
    required field value = .ok (Text.trim value) := by
  simp [required, notBlank]

theorem required_of_trim_eq (blank : Text.trim value = "") :
    required field value = .error (.missing field) := by
  simp [required, blank]

end Argument

end Provision
