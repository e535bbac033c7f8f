import ProgramConnector.Proofs.Catalog.Acceptance
import ProgramConnector.Proofs.Naming.FunctionNames

/-!
# Which function names can be bound

Accepted programs with titles of ASCII have functions whose names are made of letters and digits and
start with a small letter. A module can bind such a name unless it is a reserved word, and it is
reserved exactly when the title is a single word that is.
-/

namespace ProgramConnector.Catalog

open Naming Text

/-- The name of a function starts with a small letter when it comes from a title of ASCII. -/
theorem functionName_of_isFunctionName {title : String} (h : ∀ c ∈ title.toList, c.toNat < 128)
    (hname : isFunctionName (functionName title) = true) :
    ∃ first rest, (functionName title).toList = first :: rest ∧ first.isLower = true ∧
      ∀ c ∈ rest, c.isAlphanum = true := by
  have hchars : (functionName title).toList = camelChars title.toList := by
    rw [functionName, camelCase, String.toList_ofList]
  have halnum := isAlphanum_of_mem_camelChars h
  rw [isFunctionName, hchars] at hname
  rw [hchars]
  cases hwords : words title.toList with
  | nil =>
    rw [camelChars, hwords] at hname
    exact absurd hname Bool.false_ne_true
  | cons word others =>
    have hword : word ∈ words title.toList := by
      rw [hwords]
      exact List.mem_cons_self
    obtain ⟨hne, hletters⟩ := mem_words_of_ascii h hword
    cases word with
    | nil => exact absurd rfl hne
    | cons c more =>
      rw [camelChars_of_ascii h hwords] at hname halnum ⊢
      rw [List.map_cons, List.cons_append] at hname halnum ⊢
      obtain ⟨hfirst, hrest⟩ := List.forall_mem_cons.1 halnum
      refine ⟨_, _, rfl, ?_, hrest⟩
      rcases toLower_of_isAlphanum (hletters c List.mem_cons_self) with hlower | hdigit
      · exact hlower
      · dsimp only at hname
        rw [isNumeric_of_ascii (toNat_lt_of_isAlphanum hfirst), hdigit] at hname
        exact absurd hname Bool.false_ne_true

/-- A small letter with letters and digits behind it is an identifier. -/
theorem isIdentifier_of_isLower {first : Char} {rest : List Char} (h : first.isLower = true)
    (hrest : ∀ c ∈ rest, c.isAlphanum = true) : isIdentifier (first :: rest) = true := by
  have hall : rest.all isIdentifierChar = true :=
    List.all_eq_true.2 fun c hc => by simp [isIdentifierChar, hrest c hc]
  simp [isIdentifier, isIdentifierStart, isAlpha_of_isLower h, hall]

/-- Whenever programs with titles of ASCII are loaded, every function has a name of letters and
digits that starts with a small letter, and a module can bind that name unless the title is a single
word that is reserved in lowercase. -/
theorem isBindable_iff_of_load {files : FileSystem} {directory : String}
    {configuration : Option String} {programs : List Program}
    (h : load files directory configuration = .ok programs)
    (hascii : ∀ program ∈ programs, ∀ c ∈ program.title.toList, c.toNat < 128) :
    ∀ program ∈ programs,
      (∃ first rest, program.names.function.toList = first :: rest ∧ first.isLower = true ∧
        ∀ c ∈ rest, c.isAlphanum = true) ∧
      (isBindable program.names.function = true ↔ ¬ ∃ word, words program.title.toList = [word] ∧
        String.ofList (word.map Char.toLower) ∈ reservedWords) := by
  intro program hp
  obtain ⟨-, -, haccepted⟩ := load_eq_ok_iff.1 h
  have htitle := hascii program hp
  have hname : isFunctionName (functionName program.title) = true := haccepted.named program hp
  obtain ⟨first, rest, hchars, hfirst, hrest⟩ := functionName_of_isFunctionName htitle hname
  refine ⟨⟨first, rest, hchars, hfirst, hrest⟩, ?_⟩
  rw [← functionName_mem_reservedWords_iff htitle]
  change isBindable (functionName program.title) = true ↔ _
  rw [isBindable, hchars, isIdentifier_of_isLower hfirst hrest]
  simp

/-- Of two titles with a single word one is reserved: its program is loaded, but a module cannot
bind the name of its function. -/
theorem isBindable_iff_of_load_wordFiles : ∃ first second,
    load wordFiles "programs" none = .ok [first, second] ∧
    first.names.function = "delete" ∧ isBindable first.names.function = false ∧
    second.names.function = "sdk" ∧ isBindable second.names.function = true := by
  obtain ⟨first, second, hload, ⟨hfirst, hsecond⟩, hdeleteName, hsdkName⟩ := exists_load_wordFiles
  have hascii : ∀ program ∈ [first, second], ∀ c ∈ program.title.toList, c.toNat < 128 := by
    rw [List.forall_mem_cons, List.forall_mem_singleton, hfirst, hsecond]
    exact ⟨by simp, by simp⟩
  obtain ⟨hdelete, hsdk⟩ := List.forall_mem_cons.1 (isBindable_iff_of_load hload hascii)
  replace hsdk := (List.forall_mem_singleton.1 hsdk).2
  replace hdelete := hdelete.2
  rw [hfirst] at hdelete
  rw [hsecond] at hsdk
  refine ⟨first, second, hload, hdeleteName, ?_, hsdkName, hsdk.2 ?_⟩
  · refine Bool.eq_false_iff.2 fun hbind => hdelete.1 hbind ⟨"Delete".toList, ?_, ?_⟩
    · decide
    · decide
  · rintro ⟨word, hword, hreserved⟩
    have hwords : words "SDK".toList = ["SDK".toList] := by decide
    rw [hwords] at hword
    rw [← List.singleton_inj.1 hword] at hreserved
    exact absurd hreserved (by decide)

end ProgramConnector.Catalog
