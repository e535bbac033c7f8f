import Mathlib.Data.List.Nodup
import Mathlib.Data.List.Perm.Subperm
import ProgramConnector.Proofs.Naming.IdentifierChars
import ProgramConnector.TypeScript.Declaration

/-!
# Names that are not in use

The candidates for a name are all different, and there is one more of them than there are names in
use, so one of them is free. It is made of identifier characters when the base is.
-/

namespace ProgramConnector.TypeScript

/-- A base name with a number is never the base name. -/
theorem append_number_ne (base : String) (k : Nat) : base ++ toString k ≠ base := by
  intro h
  have hlen : (base ++ toString k).length = base.length := by rw [h]
  have hpos : 0 < (toString k).length := by
    rw [Nat.toString_eq_repr]
    exact Nat.length_repr_pos
  rw [String.length_append] at hlen
  omega

/-- Different numbers make different names. -/
theorem append_number_injective (base : String) {j k : Nat}
    (h : base ++ toString j = base ++ toString k) : j = k := by
  have hr : Nat.repr j = Nat.repr k := (String.append_right_inj base).1 h
  have hd : Nat.toDigits 10 j = Nat.toDigits 10 k := by
    rw [← Nat.toList_repr, ← Nat.toList_repr, hr]
  calc j = Nat.ofDigitChars 10 (Nat.toDigits 10 j) 0 :=
        (Nat.ofDigitChars_toDigits (by decide) (by decide)).symm
    _ = k := by rw [hd, Nat.ofDigitChars_toDigits (by decide) (by decide)]

/-- No candidate is repeated. -/
theorem nodup_nameCandidates (base : String) (count : Nat) :
    (nameCandidates base count).Nodup := by
  unfold nameCandidates
  refine List.nodup_cons.2 ⟨?_, ?_⟩
  · intro h
    obtain ⟨k, -, hk⟩ := List.mem_map.1 h
    exact append_number_ne base (k + 1) hk
  · refine List.nodup_range.map_on fun j _ k _ h => ?_
    have hjk := append_number_injective base h
    omega

/-- One of the candidates is not in use. -/
theorem exists_free_candidate (used : List String) (base : String) :
    ∃ name ∈ nameCandidates base used.length, name ∉ used := by
  by_contra hn
  push Not at hn
  have hs : (nameCandidates base used.length).length ≤ used.length :=
    (List.subperm_of_subset (nodup_nameCandidates base used.length) hn).length_le
  simp only [nameCandidates, List.length_cons, List.length_map, List.length_range] at hs
  omega

/-- The name that is taken is the first free candidate. -/
theorem uniqueName_eq_some (used : List String) (base : String) :
    (nameCandidates (if base.isEmpty then "Type" else base) used.length).find?
      (fun name => !used.contains name) = some (uniqueName used base) := by
  obtain ⟨name, hm, hf⟩ := exists_free_candidate used (if base.isEmpty then "Type" else base)
  have hs : ((nameCandidates (if base.isEmpty then "Type" else base) used.length).find?
      fun name => !used.contains name).isSome := by
    rw [List.find?_isSome]
    exact ⟨name, hm, by simpa using hf⟩
  obtain ⟨found, hfound⟩ := Option.isSome_iff_exists.1 hs
  unfold uniqueName
  dsimp only
  rw [hfound]
  rfl

/-- The name that is taken was not in use. -/
theorem uniqueName_not_mem (used : List String) (base : String) : uniqueName used base ∉ used := by
  have h := List.find?_some (uniqueName_eq_some used base)
  simpa using h

/-- The name that is taken is the base or the base with a number. -/
theorem uniqueName_mem (used : List String) (base : String) :
    uniqueName used base ∈ nameCandidates (if base.isEmpty then "Type" else base) used.length :=
  List.mem_of_find?_eq_some (uniqueName_eq_some used base)

/-- A plain base makes plain names. -/
theorem isPlain_uniqueName (used : List String) {base : String} (h : Naming.IsPlain base.toList) :
    Naming.IsPlain (uniqueName used base).toList := by
  have hbase : Naming.IsPlain (if base.isEmpty then "Type" else base).toList := by
    split
    · exact List.all_eq_true.1 (by decide : "Type".toList.all Naming.isIdentifierChar = true)
    · exact h
  rcases List.mem_cons.1 (uniqueName_mem used base) with he | he
  · rw [he]
    exact hbase
  · obtain ⟨k, -, hk⟩ := List.mem_map.1 he
    rw [← hk, String.toList_append]
    intro c hc
    rcases List.mem_append.1 hc with hc | hc
    · exact hbase c hc
    · rw [Nat.toString_eq_repr, Nat.toList_repr] at hc
      have hd := Nat.isDigit_of_mem_toDigits (by decide) (by decide) hc
      simp [Naming.isIdentifierChar, Char.isAlphanum, hd]

end ProgramConnector.TypeScript
