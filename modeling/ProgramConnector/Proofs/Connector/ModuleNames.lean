import ProgramConnector.Proofs.TypeScript.ClosedBlock
import ProgramConnector.Connector

/-!
# Names in the types module

The types module has a block for the input and one for the output of every program, and each block
takes its names without regard to the others. The roots of all blocks are told apart by the names of
the programs. What the schemas name inside may meet, within one program as well as between two.
-/

namespace ProgramConnector

open TypeScript

/-- The schemas of a program, with the names under which they are declared. -/
def Program.typeSchemas (program : Program) : List (String × Option Schema) :=
  [(program.names.inputType, program.artifact.body.inputSchema),
    (program.names.outputType, program.artifact.body.outputSchema)]

/-- The names of the types of programs. -/
def typeNames (programs : List Program) : List String :=
  (programs.flatMap Program.typeSchemas).map Prod.fst

/-- The names that a block has from titled schemas and references, and not from its root. -/
def TypeScript.Block.innerNames (block : Block) : List String := block.names.tail

/-- No name that one of the blocks has from a titled schema or a reference is declared in the other
one. -/
def TypeScript.Block.Apart (block other : Block) : Prop :=
  List.Disjoint block.innerNames other.names ∧ List.Disjoint block.names other.innerNames

namespace Connector

variable {profile : Profile} {programs : List Program} {text : String}

/-- The block of a schema under its name. -/
def IsBlockOf (profile : Profile) (entry : String × Option Schema) (block : Block) : Prop :=
  ∃ schema, entry.2 = some schema ∧ blockOf (schema.titled entry.1) entry.1 profile = .ok block

/-- A block as it stands in the module. -/
def blockText (profile : Profile) (block : Block) : String :=
  renderBlock profile.bannerComment block.declarations

/-- A schema that has to be present is there when the check succeeds. -/
theorem presentSchema_eq_ok {field file : String} {schema? : Option Schema} {schema : Schema}
    (h : presentSchema field file schema? = .ok schema) : schema? = some schema := by
  cases schema? with
  | none => exact nomatch h
  | some other => rw [Except.ok.inj h]

/-- The text of one schema is that of its block. -/
theorem typeBlock_eq_ok {file typeName : String} {schema : Schema}
    (h : typeBlock profile file schema typeName = .ok text) :
    ∃ block, blockOf (schema.titled typeName) typeName profile = .ok block ∧
      text = blockText profile block := by
  unfold typeBlock at h
  cases hc : compile (schema.titled typeName) typeName profile with
  | error error =>
    rw [hc] at h
    exact nomatch h
  | ok compiled =>
    rw [hc] at h
    obtain ⟨block, hb, ht⟩ := compile_eq_ok hc
    exact ⟨block, hb, (Except.ok.inj h).symm.trans ht⟩

/-- The texts of a program are those of its two blocks. -/
theorem programBlocks_eq_ok {program : Program} {texts : List String}
    (h : programBlocks profile program = .ok texts) :
    ∃ blocks, List.Forall₂ (IsBlockOf profile) program.typeSchemas blocks ∧
      texts = blocks.map (blockText profile) := by
  unfold programBlocks at h
  obtain ⟨input, hinput, h⟩ := bind_eq_ok h
  obtain ⟨output, houtput, h⟩ := bind_eq_ok h
  obtain ⟨inputText, hi, h⟩ := bind_eq_ok h
  obtain ⟨outputText, ho, h⟩ := bind_eq_ok h
  obtain ⟨inputBlock, hib, rfl⟩ := typeBlock_eq_ok hi
  obtain ⟨outputBlock, hob, rfl⟩ := typeBlock_eq_ok ho
  refine ⟨[inputBlock, outputBlock], ?_, (Except.ok.inj h).symm⟩
  exact .cons ⟨input, presentSchema_eq_ok hinput, hib⟩
    (.cons ⟨output, presentSchema_eq_ok houtput, hob⟩ .nil)

/-- The texts of programs are those of their blocks. -/
theorem mapM_programBlocks_eq_ok {texts : List (List String)}
    (h : programs.mapM (programBlocks profile) = .ok texts) :
    ∃ blocks, List.Forall₂ (IsBlockOf profile) (programs.flatMap Program.typeSchemas) blocks ∧
      texts.flatten = blocks.map (blockText profile) := by
  induction programs generalizing texts with
  | nil =>
    cases h
    exact ⟨[], .nil, rfl⟩
  | cons program rest ih =>
    rw [List.mapM_cons] at h
    obtain ⟨first, hfirst, h⟩ := bind_eq_ok h
    obtain ⟨others, hothers, h⟩ := bind_eq_ok h
    cases h
    obtain ⟨blocks, hb, rfl⟩ := programBlocks_eq_ok hfirst
    obtain ⟨more, hm, ht⟩ := ih hothers
    refine ⟨blocks ++ more, ?_, ?_⟩
    · rw [List.flatMap_cons]
      exact List.rel_append hb hm
    · rw [List.flatten_cons, ht, List.map_append]

/-- The module is made of the blocks of its programs, in order. -/
theorem typesModule_eq_ok (h : typesModule profile programs = .ok text) :
    ∃ blocks, List.Forall₂ (IsBlockOf profile) (programs.flatMap Program.typeSchemas) blocks ∧
      text = "\n".intercalate (blocks.map (blockText profile)) := by
  unfold typesModule at h
  obtain ⟨texts, ht, h⟩ := bind_eq_ok h
  obtain ⟨blocks, hb, hflat⟩ := mapM_programBlocks_eq_ok ht
  cases h
  exact ⟨blocks, hb, by rw [hflat]⟩

/-! ## Where names meet -/

/-- The block of a schema starts with the name of the schema, and repeats no name. -/
theorem IsBlockOf.names {entry : String × Option Schema} {block : Block}
    (h : IsBlockOf profile entry block) :
    block.names = entry.1 :: block.innerNames ∧ block.names.Nodup := by
  obtain ⟨schema, -, hb⟩ := h
  have hc := isClosed_of_blockOf hb
  obtain ⟨declaration, rest, -, hd, hn, -⟩ := hc.root
  refine ⟨?_, hc.nodup⟩
  unfold Block.innerNames Block.names
  rw [hd, List.map_cons, hn, List.tail_cons]

/-- The blocks of a module start with the names of its types. -/
theorem roots_eq {entries : List (String × Option Schema)} {blocks : List Block}
    (h : List.Forall₂ (IsBlockOf profile) entries blocks) :
    blocks.map (fun block => block.names.head?) = (entries.map Prod.fst).map some := by
  induction h with
  | nil => rfl
  | cons hb _ ih =>
    rw [List.map_cons, List.map_cons, List.map_cons, ih, hb.names.1]
    rfl

/-- Blocks with different roots share a name when one of them has it from a titled schema or a
reference. -/
theorem disjoint_names_iff {block other : Block} {root root' : String}
    (hb : block.names = root :: block.innerNames) (ho : other.names = root' :: other.innerNames)
    (hne : root ≠ root') : List.Disjoint block.names other.names ↔ block.Apart other := by
  have hsub : ∀ name ∈ block.innerNames, name ∈ block.names := by
    intro name hn
    rw [hb]
    exact List.mem_cons_of_mem _ hn
  have hsub' : ∀ name ∈ other.innerNames, name ∈ other.names := by
    intro name hn
    rw [ho]
    exact List.mem_cons_of_mem _ hn
  constructor
  · intro hd
    exact ⟨fun name hn hn' => hd (hsub name hn) hn', fun name hn hn' => hd hn (hsub' name hn')⟩
  · rintro ⟨hinner, hinner'⟩ name hn hn'
    rw [hb] at hn
    rcases List.mem_cons.1 hn with rfl | hn
    · rw [ho] at hn'
      rcases List.mem_cons.1 hn' with rfl | hn'
      · exact hne rfl
      · exact hinner' (hb ▸ List.mem_cons_self) hn'
    · exact hinner hn hn'

/-- Where the roots are told apart, the names of blocks are distinct when every two blocks are
apart. -/
theorem nodup_flatMap_names {entries : List (String × Option Schema)} {blocks : List Block}
    (h : List.Forall₂ (IsBlockOf profile) entries blocks) (hroots : (entries.map Prod.fst).Nodup) :
    (blocks.flatMap Block.names).Nodup ↔ blocks.Pairwise Block.Apart := by
  induction h with
  | nil => simp
  | @cons entry block entries blocks hb hrest ih =>
    rw [List.map_cons, List.nodup_cons] at hroots
    obtain ⟨hn, hnodup⟩ := hb.names
    have hapart : ∀ other ∈ blocks, List.Disjoint block.names other.names ↔ block.Apart other := by
      intro other ho
      obtain ⟨place, hplace, rfl⟩ := List.mem_iff_getElem.1 ho
      have hlength : place < entries.length := hrest.length_eq ▸ hplace
      have hother := hrest.get hlength hplace
      refine disjoint_names_iff hn hother.names.1 fun he => hroots.1 ?_
      rw [he]
      exact List.mem_map_of_mem (List.getElem_mem hlength)
    have hdisjoint : List.Disjoint block.names (blocks.flatMap Block.names) ↔
        ∀ other ∈ blocks, List.Disjoint block.names other.names := by
      constructor
      · intro hd other ho name hn hn'
        exact hd hn (List.mem_flatMap.2 ⟨other, ho, hn'⟩)
      · intro hd name hn hn'
        obtain ⟨other, ho, hn'⟩ := List.mem_flatMap.1 hn'
        exact hd other ho hn hn'
    rw [List.flatMap_cons, List.nodup_append', List.pairwise_cons, ih hroots.2, hdisjoint]
    constructor
    · rintro ⟨-, hpairs, hfirst⟩
      exact ⟨fun other ho => (hapart other ho).1 (hfirst other ho), hpairs⟩
    · rintro ⟨hfirst, hpairs⟩
      exact ⟨hnodup, hpairs, fun other ho => (hapart other ho).2 (hfirst other ho)⟩

/-- Whenever the types module is made and the types of the programs have different names, the module
is made of one block for each type, the blocks start with these names, and none repeats a name. The
names of the whole module are distinct exactly when no block declares a name that another one has
from a titled schema or a reference. -/
theorem typesModule_names (h : typesModule profile programs = .ok text)
    (hroots : (typeNames programs).Nodup) :
    ∃ blocks, List.Forall₂ (IsBlockOf profile) (programs.flatMap Program.typeSchemas) blocks ∧
      text = "\n".intercalate (blocks.map (blockText profile)) ∧
      blocks.map (fun block => block.names.head?) = (typeNames programs).map some ∧
      (∀ block ∈ blocks, block.names.Nodup) ∧
      ((blocks.flatMap Block.names).Nodup ↔ blocks.Pairwise Block.Apart) := by
  obtain ⟨blocks, hb, ht⟩ := typesModule_eq_ok h
  refine ⟨blocks, hb, ht, roots_eq hb, fun block hm => ?_, nodup_flatMap_names hb hroots⟩
  obtain ⟨place, hplace, rfl⟩ := List.mem_iff_getElem.1 hm
  exact (hb.get (hb.length_eq ▸ hplace) hplace).names.2

/-- An object without properties. -/
def emptyPart (title : String) : Schema :=
  .object ⟨some (.one "object"), some title, []⟩ (.listed []) .absent .absent

/-- An object with a titled part. -/
def partSchema (title : String) : Schema :=
  .object ⟨some (.one "object"), none, []⟩ (.listed [("part", emptyPart title)]) .absent .absent

/-- The block of an object with a titled part. -/
def partBlock (root title : String) : Block where
  declarations := [⟨root, none, some (.interface ("  part?: " ++ title ++ ";\n"))⟩,
    ⟨title, none, some (.interface "")⟩]
  used := [title, root]
  titled := [(emptyPart title, title)]
  references := []

/-- A program with such an object as its input and another one as its output. -/
def partProgram (inputPart outputPart : String) : Program where
  file := "a.json"
  artifact := {
    identifier := "p"
    title := "pair"
    artifactType := "automation"
    body := ⟨"return 1;", some (partSchema inputPart), some (partSchema outputPart)⟩ }

/-- Parts of the input and of the output with different titles keep the names of the module
distinct. -/
theorem typesModule_names_parts : ∃ text blocks,
    typesModule {} [partProgram "Source" "Target"] = .ok text ∧
    List.Forall₂ (IsBlockOf {}) ([partProgram "Source" "Target"].flatMap Program.typeSchemas)
      blocks ∧
    text = "\n".intercalate (blocks.map (blockText {})) ∧
    blocks.map (fun block => block.names.head?) = [some "PairInput", some "PairOutput"] ∧
    (∀ block ∈ blocks, block.names.Nodup) ∧
    ((blocks.flatMap Block.names).Nodup ↔ blocks.Pairwise Block.Apart) := by
  have h : typesModule {} [partProgram "Source" "Target"] =
      .ok ("\n".intercalate ([partBlock "PairInput" "Source", partBlock "PairOutput" "Target"].map
        (blockText {}))) := by
    rfl
  have hroots : typeNames [partProgram "Source" "Target"] = ["PairInput", "PairOutput"] := by
    rfl
  obtain ⟨blocks, hb, ht, hn, hnodup, hiff⟩ := typesModule_names h (by rw [hroots]; decide)
  rw [hroots] at hn
  exact ⟨_, blocks, h, hb, ht, hn, hnodup, hiff⟩

/-- Parts of the input and of the output with the same title are both declared under it: the types
of the programs have different names, and still a name of the module is repeated. -/
theorem names_repeated_parts :
    (typeNames [partProgram "Part" "Part"]).Nodup ∧
    typesModule {} [partProgram "Part" "Part"] =
      .ok ("\n".intercalate ([partBlock "PairInput" "Part", partBlock "PairOutput" "Part"].map
        (blockText {}))) ∧
    List.Forall₂ (IsBlockOf {}) ([partProgram "Part" "Part"].flatMap Program.typeSchemas)
      [partBlock "PairInput" "Part", partBlock "PairOutput" "Part"] ∧
    ¬([partBlock "PairInput" "Part", partBlock "PairOutput" "Part"].flatMap Block.names).Nodup := by
  have hroots : typeNames [partProgram "Part" "Part"] = ["PairInput", "PairOutput"] := by
    rfl
  refine ⟨?_, rfl, .cons ⟨partSchema "Part", rfl, rfl⟩ (.cons ⟨partSchema "Part", rfl, rfl⟩ .nil), ?_⟩
  · rw [hroots]
    decide
  · decide

end Connector

end ProgramConnector
