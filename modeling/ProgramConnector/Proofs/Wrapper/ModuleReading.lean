import ProgramConnector.Proofs.Naming.SolidNames

/-!
# Reading a module

A module is read one character at a time. Comments, quotes and templates are passed over, and the
words outside of all brackets are kept. The names that the module binds at its top level are the
words behind the ones that bind. Reading gets lost where a slash starts no comment, a line ends
inside of quotes, a template has a substitution, or more brackets close than were opened.
-/

namespace ProgramConnector.Wrapper

open Naming

/-- Where in a module a character is read. -/
inductive Position where
  /-- In code. -/
  | code
  /-- Behind a slash in code. -/
  | slash
  /-- In a comment that ends with its line. -/
  | lineComment
  /-- In a comment that ends with a star and a slash, maybe behind a star. -/
  | comment (star : Bool)
  /-- Inside of quotes. -/
  | quoted (mark : Char)
  /-- Behind a backslash inside of quotes. -/
  | escaped (mark : Char)
  /-- In a template. -/
  | template
  /-- Behind a backslash in a template. -/
  | templateEscaped
  /-- Behind a dollar sign in a template. -/
  | templateDollar
  /-- Nowhere that is known. -/
  | lost
deriving DecidableEq

namespace Position

/-- The position behind a character of a template. -/
def inTemplate (c : Char) : Position :=
  if c == '\\' then .templateEscaped
  else if c == '\x60' then .code
  else if c == '$' then .templateDollar
  else .template

/-- The position behind a character that is no code. -/
def next : Position → Char → Position
  | .code, _ => .code
  | .slash, c => if c == '/' then .lineComment else if c == '*' then .comment false else .lost
  | .lineComment, c => if c == '\n' then .code else .lineComment
  | .comment star, c => if star && c == '/' then .code else .comment (c == '*')
  | .quoted mark, c =>
    if c == '\\' then .escaped mark
    else if c == mark then .code
    else if c == '\n' then .lost
    else .quoted mark
  | .escaped mark, _ => .quoted mark
  | .template, c => inTemplate c
  | .templateEscaped, _ => .template
  | .templateDollar, c => if c == '\x7b' then .lost else inTemplate c
  | .lost, _ => .lost

end Position

/-- A module that is being read. -/
structure ModuleScan where
  /-- Where the next character is read. -/
  position : Position := .code
  /-- How many brackets are open. -/
  depth : Nat := 0
  /-- The word at hand, last character first. -/
  word : List Char := []
  /-- The complete words outside of brackets. -/
  words : List String := []
deriving DecidableEq

namespace ModuleScan

/-- The word at hand is complete, and kept outside of brackets. -/
def flush (scan : ModuleScan) : ModuleScan :=
  if scan.word.isEmpty then scan
  else if scan.depth == 0 then
    { scan with word := [], words := scan.words ++ [String.ofList scan.word.reverse] }
  else { scan with word := [] }

/-- A character between the words of the code. -/
def punctuate (scan : ModuleScan) (c : Char) : ModuleScan :=
  if c == '"' || c == '\'' then { scan with position := .quoted c }
  else if c == '\x60' then { scan with position := .template }
  else if c == '/' then { scan with position := .slash }
  else if c == '(' || c == '[' || c == '\x7b' then { scan with depth := scan.depth + 1 }
  else if c == ')' || c == ']' || c == '\x7d' then
    if scan.depth == 0 then { scan with position := .lost }
    else { scan with depth := scan.depth - 1 }
  else scan

/-- One character is read. -/
def step (scan : ModuleScan) (c : Char) : ModuleScan :=
  match scan.position with
  | .code =>
    if separates c then scan.flush.punctuate c else { scan with word := c :: scan.word }
  | position => { scan with position := position.next c }

/-- A text is read. -/
def after (scan : ModuleScan) (text : List Char) : ModuleScan := text.foldl step scan

/-- Other words in front of the complete ones. -/
def behind (earlier : List String) (scan : ModuleScan) : ModuleScan :=
  { scan with words := earlier ++ scan.words }

end ModuleScan

/-- Words behind which a name is bound. -/
def binders : List String := ["as", "class", "const", "function", "let", "var"]

/-- Whether a word binds the next one; an import does so unless it names a whole module. -/
def binds (word name : String) : Bool :=
  binders.contains word || (word == "import" && name != "as")

/-- The names that are bound among words. -/
def boundNames : List String → List String
  | [] => []
  | [_] => []
  | word :: name :: rest =>
    if binds word name then name :: boundNames rest else boundNames (name :: rest)

/-- The names that a module binds at its top level, in order, or nothing where reading gets lost or
the module is not complete. -/
def topLevelNames? (text : String) : Option (List String) :=
  let scan := (ModuleScan.after {} text.toList).flush
  if scan.position == .code && scan.depth == 0 then some (boundNames scan.words) else none

/-! ## Complete words -/

namespace ModuleScan

/-- A word is completed once. -/
theorem flush_flush (scan : ModuleScan) : scan.flush.flush = scan.flush := by
  obtain ⟨position, depth, word, words⟩ := scan
  cases word with
  | nil => rfl
  | cons c rest => cases depth <;> rfl

/-- Completing a word leaves the position. -/
theorem flush_position (scan : ModuleScan) : scan.flush.position = scan.position := by
  obtain ⟨position, depth, word, words⟩ := scan
  cases word with
  | nil => rfl
  | cons c rest => cases depth <;> rfl

/-- A character that separates completes the word before it. -/
theorem step_flush {scan : ModuleScan} {c : Char} (hcode : scan.position = .code)
    (hc : separates c = true) : scan.flush.step c = scan.step c := by
  have hflush : scan.flush.position = .code := (flush_position scan).trans hcode
  simp only [step, hflush, hcode, hc, if_true, flush_flush]

end ModuleScan

/-! ## Words in front -/

namespace ModuleScan

variable {scan : ModuleScan} {earlier : List String}

/-- A complete word stands behind other words. -/
theorem flush_behind : (scan.behind earlier).flush = scan.flush.behind earlier := by
  unfold flush behind
  dsimp only
  split
  · rfl
  split
  · rw [List.append_assoc]
  · rfl

/-- Other words stand in front whatever is read between words. -/
theorem punctuate_behind (c : Char) :
    (scan.behind earlier).punctuate c = (scan.punctuate c).behind earlier := by
  unfold punctuate
  split
  · rfl
  split
  · rfl
  split
  · rfl
  split
  · rfl
  split
  · change (if scan.depth == 0 then _ else _) = _
    split <;> rfl
  · rfl

/-- Other words stand in front whatever character is read. -/
theorem step_behind (c : Char) : (scan.behind earlier).step c = (scan.step c).behind earlier := by
  obtain ⟨position, depth, word, words⟩ := scan
  cases position with
  | code =>
    change (if separates c then
      ((ModuleScan.mk .code depth word words).behind earlier).flush.punctuate c else _) = _
    rw [flush_behind, punctuate_behind]
    unfold step
    dsimp only
    split <;> rfl
  | _ => rfl

/-- Other words stand in front whatever is read. -/
theorem after_behind (text : List Char) :
    (scan.behind earlier).after text = (scan.after text).behind earlier := by
  induction text generalizing scan with
  | nil => rfl
  | cons c rest ih =>
    change ((scan.behind earlier).step c).after rest = ((scan.step c).after rest).behind earlier
    rw [step_behind, ih]

/-- Words in front of words. -/
theorem behind_behind (more : List String) :
    (scan.behind earlier).behind more = scan.behind (more ++ earlier) := by
  simp [behind, List.append_assoc]

end ModuleScan

/-! ## Reading piece by piece -/

/-- Reading a text leads from one state to another, whatever words are in front. -/
def Reads (scan : ModuleScan) (text : List Char) (next : ModuleScan) : Prop :=
  ∀ earlier, (scan.behind earlier).after text = next.behind earlier

section Reads

variable {scan middle next : ModuleScan} {text more : List Char}

/-- One reading with nothing in front shows all. -/
theorem reads_of_after (h : scan.after text = next) : Reads scan text next := by
  intro earlier
  rw [ModuleScan.after_behind, h]

/-- Reading two texts. -/
theorem Reads.append (h : Reads scan text middle) (h' : Reads middle more next) :
    Reads scan (text ++ more) next := by
  intro earlier
  rw [ModuleScan.after, List.foldl_append]
  have hfirst := h earlier
  rw [ModuleScan.after] at hfirst
  rw [hfirst]
  exact h' earlier

/-- Reading with words in front. -/
theorem Reads.behind (h : Reads scan text next) (words : List String) :
    Reads (scan.behind words) text (next.behind words) := by
  intro earlier
  rw [ModuleScan.behind_behind, ModuleScan.behind_behind]
  exact h (earlier ++ words)

/-- Reading parts that lead back to where they started. -/
theorem reads_flatten {parts : List (List Char)} (h : ∀ part ∈ parts, Reads scan part scan) :
    Reads scan parts.flatten scan := by
  induction parts with
  | nil => exact fun earlier => rfl
  | cons part rest ih =>
    obtain ⟨hpart, hrest⟩ := List.forall_mem_cons.1 h
    rw [List.flatten_cons]
    exact hpart.append (ih hrest)

/-- Reading a text that is spelled out. -/
theorem reads_literal {literal : String} {chars : List Char} (h : literal = String.ofList chars) :
    Reads scan literal.toList (scan.after chars) := by
  rw [h, String.toList_ofList]
  exact reads_of_after rfl

/-- Reading a text that is spelled out behind another one. -/
theorem Reads.literal {literal : String} {chars : List Char} (h : Reads scan text middle)
    (hliteral : literal = String.ofList chars) :
    Reads scan (text ++ literal.toList) (middle.after chars) :=
  h.append (reads_literal hliteral)

/-- Reading leads to a state that is known. -/
theorem Reads.of_eq (h : Reads scan text middle) (heq : middle = next) : Reads scan text next :=
  heq ▸ h

variable {depth : Nat} {word : List Char} {words : List String}

/-- A text that no character separates is part of a word. -/
theorem reads_solid (h : IsSolid text) :
    Reads ⟨.code, depth, word, words⟩ text ⟨.code, depth, text.reverse ++ word, words⟩ := by
  refine reads_of_after ?_
  induction text generalizing word with
  | nil => rfl
  | cons c rest ih =>
    obtain ⟨hc, hrest⟩ := List.forall_mem_cons.1 h
    have hstep : (ModuleScan.mk .code depth word words).step c =
        ⟨.code, depth, c :: word, words⟩ := by
      simp only [ModuleScan.step, hc, Bool.false_eq_true, if_false]
    change ((ModuleScan.mk .code depth word words).step c).after rest = _
    rw [hstep, ih hrest, List.reverse_cons, List.append_assoc]
    rfl

/-- A word is complete in front of a text that starts with a separator. -/
theorem Reads.of_flush (hc : text.head?.any separates = true)
    (h : Reads (ModuleScan.mk .code depth word words).flush text next) :
    Reads ⟨.code, depth, word, words⟩ text next := by
  cases text with
  | nil => exact nomatch hc
  | cons c rest =>
    intro earlier
    rw [← h earlier]
    change (((ModuleScan.mk .code depth word words).behind earlier).step c).after rest =
      ((((ModuleScan.mk .code depth word words).flush).behind earlier).step c).after rest
    rw [ModuleScan.step_behind, ModuleScan.step_behind, ModuleScan.step_flush rfl hc]

/-- A name outside of brackets is kept. -/
theorem reads_name_outside {name : String} (h : IsSolid name.toList) (hne : name.toList ≠ [])
    (hc : text.head?.any separates = true) (ht : Reads {} text next) :
    Reads ⟨.code, 0, [], words⟩ (name.toList ++ text) (next.behind (words ++ [name])) := by
  have hflush : (ModuleScan.mk .code 0 (name.toList.reverse ++ []) words).flush =
      ModuleScan.behind (words ++ [name]) {} := by
    simp [ModuleScan.flush, ModuleScan.behind, hne]
  refine (reads_solid h).append (Reads.of_flush hc ?_)
  rw [hflush]
  exact ht.behind (words ++ [name])

/-- A name inside of brackets is passed over. -/
theorem reads_name_inside {name : String} (h : IsSolid name.toList)
    (hc : text.head?.any separates = true) (ht : Reads ⟨.code, depth + 1, [], words⟩ text next) :
    Reads ⟨.code, depth + 1, [], words⟩ (name.toList ++ text) next := by
  have hflush : (ModuleScan.mk .code (depth + 1) (name.toList.reverse ++ []) words).flush =
      ⟨.code, depth + 1, [], words⟩ := by
    unfold ModuleScan.flush
    cases hword : name.toList.reverse with
    | nil => rfl
    | cons c rest => rfl
  refine (reads_solid h).append (Reads.of_flush hc ?_)
  rw [hflush]
  exact ht

end Reads

end ProgramConnector.Wrapper
