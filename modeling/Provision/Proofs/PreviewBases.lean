import Mathlib.Data.List.DropRight
import Provision.Directory.Basic
import Provision.Proofs.KnownTokens
import Provision.Proofs.NarrowedLists

/-!
# Base URLs of the directory

The base URL of the directory can be written with the stable version, with the preview
version or with none, and with any number of slashes behind it.  It is brought into one form,
which ends in the preview version.  That form is not changed when it is brought into form
again, and all ways to write one base lead to the same form, so that the URLs that are made
from it are the same.

This holds for roots that do not themselves look as if a version or a slash were written
behind them: of `https://host/v1.0/v1.0` only one version is taken off.
-/

namespace Provision

namespace Text

variable {ending text kept : String} {unwanted : Char}

/-- A run of one character. -/
def run (char : Char) (count : Nat) : String := String.ofList (List.replicate count char)

theorem endsWith_iff : endsWith ending text ↔ ending.toList <:+ text.toList := by
  rw [endsWith, isSome_dropStart?_iff, List.reverse_prefix]

theorem stripEnd?_eq_some_iff : stripEnd? ending text = some kept ↔ text = kept ++ ending := by
  constructor
  · intro stripped
    obtain ⟨rest, dropped, rfl⟩ := Option.map_eq_some_iff.mp stripped
    have reversed := eq_append_of_dropStart? dropped
    rw [List.reverse_eq_iff] at reversed
    simp [← String.toList_inj, reversed]
  · rintro rfl
    simp [stripEnd?, dropStart?_self_append]

theorem dropTrailing_eq_rdropWhile :
    dropTrailing unwanted text = String.ofList (text.toList.rdropWhile (· = unwanted)) := rfl

theorem dropTrailing_of_not_suffix (whole : ¬[unwanted] <:+ text.toList) :
    dropTrailing unwanted text = text := by
  have kept : text.toList.rdropWhile (· = unwanted) = text.toList := by
    rw [List.rdropWhile_eq_self_iff]
    intro notEmpty isUnwanted
    apply whole
    rw [← of_decide_eq_true isUnwanted]
    exact ⟨text.toList.dropLast, List.dropLast_append_getLast notEmpty⟩
  rw [dropTrailing_eq_rdropWhile, kept, String.ofList_toList]

theorem dropTrailing_append_run (count : Nat) :
    dropTrailing unwanted (text ++ run unwanted count) = dropTrailing unwanted text := by
  simp only [dropTrailing_eq_rdropWhile, run, String.toList_append, String.toList_ofList]
  induction count with
  | zero => rw [List.replicate_zero, List.append_nil]
  | succ count ih =>
      rw [List.replicate_succ', ← List.append_assoc,
        List.rdropWhile_concat_pos _ _ _ (by simp), ih]

/-- The last character of a text is that of what is written last. -/
theorem not_suffix_append {added : String} (given : added.toList ≠ [])
    (whole : ¬[unwanted] <:+ added.toList) : ¬[unwanted] <:+ (text ++ added).toList := by
  intro ends
  apply whole
  rw [String.toList_append] at ends
  rcases List.suffix_or_suffix_of_suffix ends (List.suffix_append _ added.toList) with
    inside | longer
  · exact inside
  · have short := longer.length_le
    have long := List.length_pos_iff.mpr given
    have same : added.toList = [unwanted] := by
      apply longer.eq_of_length
      rw [List.length_singleton] at short ⊢
      omega
    exact same ▸ List.suffix_rfl

theorem dropLeading_run_append (whole : ¬[unwanted] <+: text.toList) (count : Nat) :
    dropLeading unwanted (run unwanted count ++ text) = text := by
  rw [dropLeading, ← String.toList_inj, String.toList_ofList, String.toList_append, run,
    String.toList_ofList]
  induction count with
  | zero =>
      cases letters : text.toList with
      | nil => rfl
      | cons first rest =>
          have differs : first ≠ unwanted := by
            rintro rfl
            exact whole (by simp [letters])
          simp [differs]
  | succ count ih => simpa [List.replicate_succ] using ih

end Text

namespace Config

variable {base root : String}

/-- A root of base URLs: no version and no slash is written behind it. -/
structure IsRoot (root : String) : Prop where
  noSlash : ¬['/'] <:+ root.toList
  noPreview : ¬"/beta".toList <:+ root.toList
  noStable : ¬"/v1.0".toList <:+ root.toList

/-- The ways to write the base URL with a root: with or without a version, and with slashes behind
it. -/
inductive Spells (root : String) : String → Prop
  | bare (slashes : Nat) : Spells root (root ++ Text.run '/' slashes)
  | stable (slashes : Nat) : Spells root (root ++ "/v1.0" ++ Text.run '/' slashes)
  | preview (slashes : Nat) : Spells root (root ++ "/beta" ++ Text.run '/' slashes)

theorem previewBase_of_preview (trimmed : Text.dropTrailing '/' base = root ++ "/beta") :
    previewBase (some base) = root ++ "/beta" := by
  have preview : Text.endsWith "/beta" (root ++ "/beta") = true := by
    rw [Text.endsWith_iff, String.toList_append]
    exact List.suffix_append _ _
  simp only [previewBase, trimmed, preview, if_true]

theorem previewBase_of_stable (trimmed : Text.dropTrailing '/' base = root ++ "/v1.0") :
    previewBase (some base) = root ++ "/beta" := by
  have notPreview : ¬Text.endsWith "/beta" (root ++ "/v1.0") = true := by
    rw [Text.endsWith_iff]
    rintro ⟨before, same⟩
    rw [String.toList_append] at same
    exact absurd (List.append_inj' same (by decide)).2 (by decide)
  have stable : Text.stripEnd? "/v1.0" (root ++ "/v1.0") = some root :=
    Text.stripEnd?_eq_some_iff.mpr rfl
  simp only [previewBase, trimmed, notPreview, stable]
  simp

theorem previewBase_of_root (isRoot : IsRoot root) (trimmed : Text.dropTrailing '/' base = root) :
    previewBase (some base) = root ++ "/beta" := by
  have notPreview : ¬Text.endsWith "/beta" root = true := by
    rw [Text.endsWith_iff]
    exact isRoot.noPreview
  have notStable : Text.stripEnd? "/v1.0" root = none := by
    rw [Option.eq_none_iff_forall_ne_some]
    intro kept stripped
    apply isRoot.noStable
    rw [Text.stripEnd?_eq_some_iff.mp stripped]
    simp
  simp only [previewBase, trimmed, notPreview, notStable]
  simp

/-- Whatever is given, the form that it is brought into is a root with the preview version. -/
theorem exists_previewBase_eq (base : Option String) :
    ∃ root, previewBase base = root ++ "/beta" := by
  cases base with
  | none => exact ⟨"https://graph.microsoft.com", by decide⟩
  | some base =>
      simp only [previewBase]
      split
      next preview =>
        obtain ⟨before, same⟩ := Text.endsWith_iff.mp preview
        exact ⟨String.ofList before, by simp [← String.toList_inj, ← same]⟩
      next => split <;> exact ⟨_, rfl⟩

theorem noSlash_preview (root : String) : ¬['/'] <:+ (root ++ "/beta").toList :=
  Text.not_suffix_append (by decide) (by decide)

theorem noSlash_stable (root : String) : ¬['/'] <:+ (root ++ "/v1.0").toList :=
  Text.not_suffix_append (by decide) (by decide)

theorem Spells.previewBase_eq (spells : Spells root base) (isRoot : IsRoot root) :
    previewBase (some base) = root ++ "/beta" := by
  cases spells with
  | bare slashes =>
      apply previewBase_of_root isRoot
      rw [Text.dropTrailing_append_run, Text.dropTrailing_of_not_suffix isRoot.noSlash]
  | stable slashes =>
      apply previewBase_of_stable
      rw [Text.dropTrailing_append_run, Text.dropTrailing_of_not_suffix (noSlash_stable root)]
  | preview slashes =>
      apply previewBase_of_preview
      rw [Text.dropTrailing_append_run, Text.dropTrailing_of_not_suffix (noSlash_preview root)]

/-- A base URL in the form that others are brought into. -/
structure IsCanonicalBase (base : String) : Prop where
  preview : "/beta".toList <:+ base.toList
  noSlash : ¬['/'] <:+ base.toList
  settled : previewBase (some base) = base

theorem isCanonicalBase_previewBase (base : Option String) :
    IsCanonicalBase (previewBase base) := by
  obtain ⟨root, base_eq⟩ := exists_previewBase_eq base
  rw [base_eq]
  refine ⟨?_, noSlash_preview root, ?_⟩
  · rw [String.toList_append]
    exact List.suffix_append _ _
  · apply previewBase_of_preview
    rw [Text.dropTrailing_of_not_suffix (noSlash_preview root)]

/-- Slashes behind the base and in front of the path do not show in a URL. -/
theorem url_ofBase {path : String} (whole : ¬['/'] <:+ base.toList)
    (relative : ¬['/'] <+: path.toList) (pageLimit slashes : Nat) :
    (Directory.ofBase base pageLimit).url (Text.run '/' slashes ++ path) = base ++ "/" ++ path := by
  rw [Directory.url, Directory.ofBase, Text.dropTrailing_of_not_suffix whole,
    Text.dropLeading_run_append relative]

/-- Every base is brought into a form that ends in the preview version and stays as it is, and all
ways to write a base lead to the same form and to the same URLs. -/
theorem previewBase_canonical :
    (∀ base, IsCanonicalBase (previewBase base)) ∧
      ∀ root base, IsRoot root → Spells root base →
        previewBase (some base) = root ++ "/beta" ∧
          ∀ pageLimit slashes path, ¬['/'] <+: path.toList →
            (Directory.ofBase (previewBase (some base)) pageLimit).url
              (Text.run '/' slashes ++ path) = root ++ "/beta/" ++ path := by
  refine ⟨isCanonicalBase_previewBase, ?_⟩
  intro root base isRoot spells
  have base_eq := spells.previewBase_eq isRoot
  refine ⟨base_eq, ?_⟩
  intro pageLimit slashes path relative
  rw [base_eq, url_ofBase (noSlash_preview root) relative]
  simp [← String.toList_inj]

theorem previewBase_canonical_sample :
    IsRoot "https://host" ∧ Spells "https://host" "https://host/v1.0//" ∧
      previewBase (some "https://host/v1.0//") = "https://host/beta" ∧
      ¬['/'] <+: "users/u1".toList ∧
      (Directory.ofBase (previewBase (some "https://host/v1.0//")) 1).url "///users/u1" =
        "https://host/beta/users/u1" := by
  have isRoot : IsRoot "https://host" := ⟨by decide, by decide, by decide⟩
  have spells : Spells "https://host" "https://host/v1.0//" := .stable 2
  have relative : ¬['/'] <+: "users/u1".toList := by decide
  obtain ⟨base_eq, urls⟩ := previewBase_canonical.2 _ _ isRoot spells
  exact ⟨isRoot, spells, base_eq, relative, urls 1 3 "users/u1" relative⟩

end Config

end Provision
