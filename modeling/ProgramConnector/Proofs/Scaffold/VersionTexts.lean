import ProgramConnector.Proofs.Numeric.Digits
import ProgramConnector.Proofs.Text.Pieces
import ProgramConnector.Scaffold.Upgrade

/-!
# Texts of versions

Every valid version has one text: three numbers with points between them, the pre-release behind a
hyphen and the build behind a plus sign. A text names a version exactly when it is the text of this
version, and the version is valid. So two requirements that name the same version are the same text
behind their signs, and asking for the same version is an equivalence between requirements.
-/

namespace ProgramConnector.Scaffold

open Text

namespace Version

/-! ## What a version looks like -/

/-- A label: letters, digits and hyphens. -/
structure IsLabel (label : List Char) : Prop where
  /-- There is a character. -/
  ne_nil : label ≠ []
  /-- No other characters are there. -/
  chars : ∀ c ∈ label, isLabelChar c = true

/-- A label of a pre-release: a number has no zero in front. -/
structure IsOrderedLabel (label : List Char) : Prop extends IsLabel label where
  /-- Digits alone are a numeral. -/
  isDecimal : (∀ c ∈ label, c.isDigit = true) → IsDecimal label

/-- Labels with points between them. -/
def IsDotted (admits : List Char → Prop) (text : List Char) : Prop :=
  ∃ labels, labels ≠ [] ∧ (∀ label ∈ labels, admits label) ∧ text = List.intercalate ['.'] labels

/-- A version that can be written: its numbers have 64 bits, and its texts are made of labels. -/
structure IsValid (version : Version) : Prop where
  /-- The first number. -/
  major_lt : version.major < wordLimit
  /-- The second number. -/
  minor_lt : version.minor < wordLimit
  /-- The third number. -/
  patch_lt : version.patch < wordLimit
  /-- The text behind the hyphen. -/
  preRelease : version.preRelease ≠ [] → IsDotted IsOrderedLabel version.preRelease
  /-- The text behind the plus sign. -/
  build : version.build ≠ [] → IsDotted IsLabel version.build

/-- A part that is left out when it is empty. -/
def part? (text : List Char) : Option (List Char) := if text.isEmpty then none else some text

/-- A part behind its mark. -/
def marked (mark : Char) : Option (List Char) → List Char
  | none => []
  | some text => mark :: text

/-- The three numbers of a version. -/
def coreText (version : Version) : List Char :=
  List.intercalate ['.'] [Nat.toDigits 10 version.major, Nat.toDigits 10 version.minor,
    Nat.toDigits 10 version.patch]

/-- The text of a version. -/
def render (version : Version) : List Char :=
  version.coreText ++ marked '-' (part? version.preRelease) ++ marked '+' (part? version.build)

/-! ## Numbers -/

/-- A text passes the checks of a number when it is a numeral. -/
theorem isDecimal_iff {digits : List Char} :
    (digits.isEmpty || !digits.all Char.isDigit || hasLeadingZero digits) = false ↔
      IsDecimal digits := by
  rw [Bool.or_eq_false_iff, Bool.or_eq_false_iff, List.isEmpty_eq_false_iff, Bool.not_eq_false',
    List.all_eq_true, hasLeadingZero, Bool.and_eq_false_iff, beq_eq_false_iff_ne,
    decide_eq_false_iff_not]
  constructor
  · rintro ⟨⟨hne, hdigits⟩, hzero⟩
    refine ⟨hne, hdigits, fun hhead => ?_⟩
    obtain ⟨rest, rfl⟩ : ∃ rest, digits = '0' :: rest := List.head?_eq_some_iff.1 hhead
    have hlength := hzero.resolve_left (not_not.2 hhead)
    rw [List.length_cons] at hlength
    rw [List.length_eq_zero_iff.1 (show rest.length = 0 by omega)]
  · intro h
    refine ⟨⟨h.ne_nil, h.isDigit⟩, ?_⟩
    by_cases hhead : digits.head? = some '0'
    · rw [h.eq_zero hhead]
      exact .inr (by decide)
    · exact .inl hhead

/-- A number of a version is read from what is printed for it, and from nothing else. -/
theorem number?_eq_some_iff {digits : List Char} {n : Nat} :
    number? digits = some n ↔ n < wordLimit ∧ digits = Nat.toDigits 10 n := by
  have hvalue : digits.foldl (fun n c => n * 10 + (c.toNat - 48)) 0 =
      Nat.ofDigitChars 10 digits 0 := by
    rw [Nat.ofDigitChars]
    congr 1
    funext n c
    rw [Nat.mul_comm]
    rfl
  unfold number?
  rw [hvalue]
  cases hchecks : digits.isEmpty || !digits.all Char.isDigit || hasLeadingZero digits with
  | true =>
    rw [if_pos rfl]
    refine ⟨nofun, fun ⟨_, hdigits⟩ => ?_⟩
    rw [isDecimal_iff.2 (hdigits ▸ isDecimal_toDigits n)] at hchecks
    exact nomatch hchecks
  | false =>
    have hdecimal := isDecimal_iff.1 hchecks
    rw [if_neg Bool.false_ne_true]
    dsimp only
    constructor
    · intro h
      split at h
      · rename_i hlt
        cases h
        exact ⟨hlt, hdecimal.toDigits.symm⟩
      · exact nomatch h
    · rintro ⟨hlt, rfl⟩
      rw [Nat.ofDigitChars_ten_toDigits, if_pos hlt]

/-! ## Labels -/

/-- All pieces of a text between points pass a check when it is made of labels that do. -/
theorem all_pieces_iff {check : List Char → Bool} {admits : List Char → Prop}
    (hcheck : ∀ label, '.' ∉ label → (check label = true ↔ admits label))
    (hpoint : ∀ label, admits label → '.' ∉ label) {text : List Char} :
    (splitAt '.' text).all check = true ↔ IsDotted admits text := by
  rw [List.all_eq_true]
  constructor
  · intro h
    exact ⟨splitAt '.' text, splitAt_ne_nil '.' text,
      fun label hl => (hcheck label (not_mem_of_mem_splitAt hl)).1 (h label hl),
      (intercalate_splitAt '.' text).symm⟩
  · rintro ⟨labels, hne, hlabels, rfl⟩
    rw [splitAt_intercalate hne fun label hl => hpoint label (hlabels label hl)]
    exact fun label hl => (hcheck label (hpoint label (hlabels label hl))).2 (hlabels label hl)

/-- A label has no point. -/
theorem IsLabel.not_mem {label : List Char} (h : IsLabel label) : '.' ∉ label :=
  fun hp => absurd (h.chars '.' hp) (by decide)

/-- The check of a build text. -/
theorem areLabels_iff {text : List Char} : areLabels text = true ↔ IsDotted IsLabel text := by
  refine all_pieces_iff (fun label _ => ?_) fun label => IsLabel.not_mem
  rw [Bool.and_eq_true, Bool.not_eq_true', List.isEmpty_eq_false_iff, List.all_eq_true]
  exact ⟨fun ⟨hne, hchars⟩ => ⟨hne, hchars⟩, fun h => ⟨h.ne_nil, h.chars⟩⟩

/-- A label of digits is a numeral unless a zero stands in front. -/
theorem isOrderedLabel_iff {label : List Char} : IsOrderedLabel label ↔
    IsLabel label ∧ (label.all Char.isDigit && hasLeadingZero label) = false := by
  have hdecimal := @isDecimal_iff label
  constructor
  · intro h
    refine ⟨h.toIsLabel, ?_⟩
    cases hdigits : label.all Char.isDigit with
    | false => rfl
    | true =>
      have hpassed := hdecimal.2 (h.isDecimal (List.all_eq_true.1 hdigits))
      rw [Bool.or_eq_false_iff] at hpassed
      rw [hpassed.2, Bool.and_false]
  · rintro ⟨hlabel, hzero⟩
    refine ⟨hlabel, fun hdigits => hdecimal.1 ?_⟩
    rw [List.all_eq_true.2 hdigits, Bool.true_and] at hzero
    rw [List.isEmpty_eq_false_iff.2 hlabel.ne_nil, List.all_eq_true.2 hdigits, hzero]
    rfl

/-- The checks of a pre-release text. -/
theorem areOrderedLabels_iff {text : List Char} :
    (areLabels text && areOrdered text) = true ↔ IsDotted IsOrderedLabel text := by
  have hboth : (areLabels text && areOrdered text) = true ↔ ((splitAt '.' text).all fun label =>
      (!label.isEmpty && label.all isLabelChar) &&
        !(label.all Char.isDigit && hasLeadingZero label)) = true := by
    simp only [Bool.and_eq_true, areLabels, areOrdered, List.all_eq_true]
    exact ⟨fun h label hl => ⟨h.1 label hl, h.2 label hl⟩,
      fun h => ⟨fun label hl => (h label hl).1, fun label hl => (h label hl).2⟩⟩
  rw [hboth]
  refine all_pieces_iff (fun label _ => ?_) fun label h => h.not_mem
  rw [isOrderedLabel_iff, Bool.and_eq_true, Bool.and_eq_true, Bool.not_eq_true', Bool.not_eq_true',
    List.isEmpty_eq_false_iff, List.all_eq_true]
  exact ⟨fun ⟨⟨hne, hchars⟩, hzero⟩ => ⟨⟨hne, hchars⟩, hzero⟩,
    fun ⟨hlabel, hzero⟩ => ⟨⟨hlabel.ne_nil, hlabel.chars⟩, hzero⟩⟩

/-- A text made of labels is not empty. -/
theorem IsDotted.ne_nil {admits : List Char → Prop} (h : ∀ label, admits label → label ≠ [])
    {text : List Char} (ht : IsDotted admits text) : text ≠ [] := by
  obtain ⟨labels, hne, hlabels, rfl⟩ := ht
  cases labels with
  | nil => exact absurd rfl hne
  | cons label rest =>
    have hlabel := h label (hlabels label List.mem_cons_self)
    cases rest with
    | nil => rwa [List.intercalate_singleton]
    | cons next more =>
      rw [List.intercalate_cons_cons, List.append_assoc]
      exact List.append_ne_nil_of_left_ne_nil hlabel _

/-- A text made of labels has label characters and points only. -/
theorem IsDotted.chars {admits : List Char → Prop} (h : ∀ label, admits label → IsLabel label)
    {text : List Char} (ht : IsDotted admits text) :
    ∀ c ∈ text, c = '.' ∨ isLabelChar c = true := by
  obtain ⟨labels, -, hlabels, rfl⟩ := ht
  intro c hc
  rcases mem_of_mem_intercalate hc with hpoint | ⟨label, hl, hm⟩
  · exact .inl (List.mem_singleton.1 hpoint)
  · exact .inr ((h label (hlabels label hl)).chars c hm)

/-- A text is left out exactly when it is empty. -/
theorem part?_eq_none_iff {text : List Char} : part? text = none ↔ text = [] := by
  cases text with
  | nil => exact ⟨fun _ => rfl, fun _ => rfl⟩
  | cons c rest => exact ⟨nofun, nofun⟩

/-- A part that passes a check where it stands is the text of a part. -/
theorem part_eq_some_iff {admits : List Char → Prop} {check : List Char → Bool}
    (h : ∀ label, admits label → label ≠ [])
    (hcheck : ∀ text, check text = true ↔ IsDotted admits text) {behind : Option (List Char)}
    {text : List Char} :
    behind.elim (some []) (fun part => if check part then some part else none) = some text ↔
      behind = part? text ∧ (text ≠ [] → IsDotted admits text) := by
  cases behind with
  | none =>
    rw [Option.elim_none, Option.some.injEq, eq_comm, eq_comm (a := none), part?_eq_none_iff]
    exact ⟨fun hnil => ⟨hnil, fun hne => absurd hnil hne⟩, And.left⟩
  | some part =>
    rw [Option.elim_some]
    constructor
    · intro hpart
      split at hpart
      · rename_i hc
        cases hpart
        have hdotted := (hcheck text).1 hc
        refine ⟨?_, fun _ => hdotted⟩
        rw [part?, List.isEmpty_eq_false_iff.2 (hdotted.ne_nil h), if_neg Bool.false_ne_true]
      · exact nomatch hpart
    · rintro ⟨hpart, hdotted⟩
      have hne : text ≠ [] := fun hnil => nomatch hpart.trans (part?_eq_none_iff.2 hnil)
      rw [part?, List.isEmpty_eq_false_iff.2 hne, if_neg Bool.false_ne_true,
        Option.some.injEq] at hpart
      subst hpart
      rw [if_pos ((hcheck _).2 (hdotted hne))]

/-- The pre-release of a version. -/
theorem preRelease?_eq_some_iff {behind : Option (List Char)} {text : List Char} :
    preRelease? behind = some text ↔
      behind = part? text ∧ (text ≠ [] → IsDotted IsOrderedLabel text) := by
  rw [← part_eq_some_iff (fun label h => h.ne_nil) fun text => areOrderedLabels_iff]
  cases behind <;> rfl

/-- The build of a version. -/
theorem build?_eq_some_iff {behind : Option (List Char)} {text : List Char} :
    build? behind = some text ↔ behind = part? text ∧ (text ≠ [] → IsDotted IsLabel text) := by
  rw [← part_eq_some_iff (fun label h => h.ne_nil) fun text => areLabels_iff]
  cases behind <;> rfl

/-! ## Whole texts -/

/-- The parts of a text make the text again, and the mark is not in the first of them. -/
theorem cutAt_spec (mark : Char) (text : List Char) : mark ∉ (cutAt mark text).1 ∧
    text = (cutAt mark text).1 ++ marked mark (cutAt mark text).2 := by
  induction text with
  | nil => exact ⟨List.not_mem_nil, rfl⟩
  | cons c rest ih =>
    rw [cutAt]
    by_cases hc : c = mark
    · subst hc
      rw [if_pos (beq_self_eq_true c)]
      exact ⟨List.not_mem_nil, rfl⟩
    · rw [if_neg (by simpa using hc)]
      refine ⟨?_, congrArg (c :: ·) ih.2⟩
      rw [List.mem_cons, not_or]
      exact ⟨Ne.symm hc, ih.1⟩

/-- A text without the mark is the first part of what it is the front of. -/
theorem cutAt_append {mark : Char} {before : List Char} (h : mark ∉ before)
    (behind : Option (List Char)) :
    cutAt mark (before ++ marked mark behind) = (before, behind) := by
  induction before with
  | nil =>
    cases behind with
    | none => rfl
    | some part => rw [List.nil_append, marked, cutAt, if_pos (beq_self_eq_true mark)]
  | cons c rest ih =>
    obtain ⟨hc, hrest⟩ := not_or.1 (List.mem_cons.not.1 h)
    rw [List.cons_append, cutAt, if_neg (by simpa using Ne.symm hc), ih hrest]

/-- A version is read from the three numbers of its core and from its two texts. -/
theorem ofText?_eq_some_of_parts {text main core major minor patch : List Char}
    {preRelease build : Option (List Char)} (hbuild : cutAt '+' text = (main, build))
    (hpre : cutAt '-' main = (core, preRelease)) (hcore : splitAt '.' core = [major, minor, patch])
    {version : Version} : ofText? text = some version ↔
      number? major = some version.major ∧ number? minor = some version.minor ∧
        number? patch = some version.patch ∧ preRelease? preRelease = some version.preRelease ∧
        build? build = some version.build := by
  unfold ofText?
  rw [hbuild]
  dsimp only
  rw [hpre]
  dsimp only
  rw [hcore]
  dsimp only
  constructor
  · intro h
    obtain ⟨a, ha, h⟩ := Option.bind_eq_some_iff.1 h
    obtain ⟨b, hb, h⟩ := Option.bind_eq_some_iff.1 h
    obtain ⟨c, hc, h⟩ := Option.bind_eq_some_iff.1 h
    obtain ⟨d, hd, h⟩ := Option.bind_eq_some_iff.1 h
    obtain ⟨e, he, h⟩ := Option.bind_eq_some_iff.1 h
    cases h
    exact ⟨ha, hb, hc, hd, he⟩
  · rintro ⟨ha, hb, hc, hd, he⟩
    rw [ha, hb, hc, hd, he]
    rfl

/-- The core of what is read as a version has three parts. -/
theorem exists_parts_of_ofText? {text : List Char} {version : Version}
    (h : ofText? text = some version) : ∃ major minor patch,
      splitAt '.' (cutAt '-' (cutAt '+' text).1).1 = [major, minor, patch] := by
  unfold ofText? at h
  dsimp only at h
  split at h
  · rename_i hcore
    exact ⟨_, _, _, hcore⟩
  · exact nomatch h

/-- A numeral has digits only. -/
theorem not_mem_toDigits {c : Char} (h : c.isDigit = false) (n : Nat) : c ∉ Nat.toDigits 10 n := by
  intro hc
  rw [(isDecimal_toDigits n).isDigit c hc] at h
  exact nomatch h

/-- The numbers of a version are digits and points. -/
theorem not_mem_coreText {c : Char} (hdigit : c.isDigit = false) (hpoint : c ≠ '.')
    (version : Version) : c ∉ version.coreText := by
  intro hc
  rcases mem_of_mem_intercalate hc with hm | ⟨piece, hp, hm⟩
  · exact hpoint (List.mem_singleton.1 hm)
  · have hall : ∀ piece ∈ [Nat.toDigits 10 version.major, Nat.toDigits 10 version.minor,
        Nat.toDigits 10 version.patch], c ∉ piece := by
      simp [not_mem_toDigits hdigit]
    exact hall piece hp hm

/-- The three numbers of a version are split apart again. -/
theorem splitAt_coreText (version : Version) : splitAt '.' version.coreText =
    [Nat.toDigits 10 version.major, Nat.toDigits 10 version.minor,
      Nat.toDigits 10 version.patch] := by
  refine splitAt_intercalate (List.cons_ne_nil _ _) ?_
  simp [not_mem_toDigits (show '.'.isDigit = false by decide)]

/-- The pre-release of a valid version has no plus sign. -/
theorem IsValid.not_mem_preRelease {version : Version} (h : version.IsValid) :
    '+' ∉ marked '-' (part? version.preRelease) := by
  intro hplus
  by_cases hnil : version.preRelease = []
  · rw [part?_eq_none_iff.2 hnil] at hplus
    exact absurd hplus List.not_mem_nil
  · rw [part?, List.isEmpty_eq_false_iff.2 hnil, if_neg Bool.false_ne_true, marked,
      List.mem_cons] at hplus
    have hchars := (h.preRelease hnil).chars (fun _ hl => hl.toIsLabel) '+'
      (hplus.resolve_left (by decide))
    exact absurd hchars (by decide)

/-- A text names a version exactly when the version is valid and this is its text. -/
theorem ofText?_eq_some_iff {text : List Char} {version : Version} :
    ofText? text = some version ↔ version.IsValid ∧ text = version.render := by
  constructor
  · intro h
    obtain ⟨major, minor, patch, hcore⟩ := exists_parts_of_ofText? h
    obtain ⟨hmajor, hminor, hpatch, hpre, hbuild⟩ := (ofText?_eq_some_of_parts rfl rfl hcore).1 h
    obtain ⟨hmajor_lt, rfl⟩ := number?_eq_some_iff.1 hmajor
    obtain ⟨hminor_lt, rfl⟩ := number?_eq_some_iff.1 hminor
    obtain ⟨hpatch_lt, rfl⟩ := number?_eq_some_iff.1 hpatch
    obtain ⟨hpart, hvalid⟩ := preRelease?_eq_some_iff.1 hpre
    obtain ⟨hbuildPart, hbuildValid⟩ := build?_eq_some_iff.1 hbuild
    refine ⟨⟨hmajor_lt, hminor_lt, hpatch_lt, hvalid, hbuildValid⟩, ?_⟩
    have hcoreText : (cutAt '-' (cutAt '+' text).1).1 = version.coreText := by
      rw [← intercalate_splitAt '.' (cutAt '-' (cutAt '+' text).1).1, hcore]
      rfl
    have hmain : (cutAt '+' text).1 =
        version.coreText ++ marked '-' (part? version.preRelease) := by
      rw [← hcoreText, ← hpart]
      exact (cutAt_spec '-' _).2
    calc text = (cutAt '+' text).1 ++ marked '+' (cutAt '+' text).2 := (cutAt_spec '+' text).2
      _ = version.render := by rw [hmain, hbuildPart, render]
  · rintro ⟨h, rfl⟩
    have hplus : '+' ∉ version.coreText ++ marked '-' (part? version.preRelease) := by
      rw [List.mem_append, not_or]
      exact ⟨not_mem_coreText (by decide) (by decide) version, h.not_mem_preRelease⟩
    have hhyphen : '-' ∉ version.coreText := not_mem_coreText (by decide) (by decide) version
    refine (ofText?_eq_some_of_parts (cutAt_append hplus _) (cutAt_append hhyphen _)
      (splitAt_coreText version)).2 ?_
    exact ⟨number?_eq_some_iff.2 ⟨h.major_lt, rfl⟩, number?_eq_some_iff.2 ⟨h.minor_lt, rfl⟩,
      number?_eq_some_iff.2 ⟨h.patch_lt, rfl⟩, preRelease?_eq_some_iff.2 ⟨rfl, h.preRelease⟩,
      build?_eq_some_iff.2 ⟨rfl, h.build⟩⟩

/-- The text of a requirement behind its signs. -/
def unsigned (requirement : String) : List Char := requirement.toList.dropWhile isSign

/-- A requirement names a version exactly when the version is valid and its text stands behind the
signs. -/
theorem ofRequirement?_eq_some_iff {requirement : String} {version : Version} :
    ofRequirement? requirement = some version ↔
      version.IsValid ∧ unsigned requirement = version.render := ofText?_eq_some_iff

end Version

/-! ## Requirements -/

/-- Requirements ask alike when they are the same text, or when behind their signs both are the text
of the same valid version. -/
def AskAlike (target current : String) : Prop :=
  target = current ∨ ∃ version : Version, version.IsValid ∧
    Version.unsigned target = version.render ∧ Version.unsigned current = version.render

/-- Requirements do not differ when they ask alike. -/
theorem differ_eq_false_iff {target current : String} :
    differ target current = false ↔ AskAlike target current := by
  have hnamed : (∃ version : Version, version.IsValid ∧ Version.unsigned target = version.render ∧
      Version.unsigned current = version.render) ↔ ∃ version,
      Version.ofRequirement? target = some version ∧
        Version.ofRequirement? current = some version := by
    simp only [Version.ofRequirement?_eq_some_iff]
    exact exists_congr fun version =>
      ⟨fun ⟨h, ht, hc⟩ => ⟨⟨h, ht⟩, h, hc⟩, fun ⟨⟨h, ht⟩, _, hc⟩ => ⟨h, ht, hc⟩⟩
  rw [AskAlike, hnamed, differ]
  cases ht : Version.ofRequirement? target with
  | none => simp
  | some a =>
    cases hc : Version.ofRequirement? current with
    | none => simp
    | some b =>
      -- Texts that are equal name equal versions, so the first case adds nothing here.
      have hsame : target = current → a = b := by
        rintro rfl
        exact Option.some.inj (ht.symm.trans hc)
      simp only [bne_eq_false_iff_eq, Option.some.injEq, exists_eq_left', eq_comm (a := b)]
      exact ⟨.inr, fun h => h.elim hsame id⟩

/-- Asking alike is an equivalence: a version has one text, so what names it on one side names it on
the other. -/
theorem askAlike_equivalence : Equivalence AskAlike where
  refl _ := .inl rfl
  symm h := h.imp Eq.symm fun ⟨version, hv, ht, hc⟩ => ⟨version, hv, hc, ht⟩
  trans := by
    rintro first second third (rfl | ⟨version, hv, hfirst, hsecond⟩) h
    · exact h
    rcases h with rfl | ⟨other, ho, hsecond', hthird⟩
    · exact .inr ⟨version, hv, hfirst, hsecond⟩
    · exact .inr ⟨version, hv, hfirst, hthird.trans (hsecond'.symm.trans hsecond)⟩

/-- No upgrade is required exactly when the two requirements are the same text, or when behind their
signs both are the text of the same valid version. Hence requiring no upgrade is an equivalence
between requirements. -/
theorem upgradeRequired_eq_false_iff :
    (∀ report : UpgradeReport, report.upgradeRequired = false ↔
      report.target = report.current ∨ ∃ version : Version, version.IsValid ∧
        Version.unsigned report.target = version.render ∧
        Version.unsigned report.current = version.render) ∧
    ∀ files, Equivalence fun target current =>
      (UpgradeReport.mk target current files).upgradeRequired = false := by
  refine ⟨fun report => differ_eq_false_iff, fun files => ?_⟩
  have hrelation : (fun target current =>
      (UpgradeReport.mk target current files).upgradeRequired = false) = AskAlike := by
    funext target current
    exact propext differ_eq_false_iff
  rw [hrelation]
  exact askAlike_equivalence

example : differ "^1.13.1-rc.1+7" "v1.13.1-rc.1+7" = false ∧ differ "1.0" "=1.0" = true := by decide

end ProgramConnector.Scaffold
