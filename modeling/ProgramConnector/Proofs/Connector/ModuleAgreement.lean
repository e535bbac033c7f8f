import ProgramConnector.Proofs.Connector.ModuleNames
import ProgramConnector.Proofs.Wrapper.TypeMentions

/-!
# Agreement of the two modules

A connector is put together from parts: every program has two blocks of types and a wrapper
function, which it has as well when it is generated alone. So the types module declares all types
that the functions module mentions. Where there is no connector, the first program that has none
alone is the one to blame. Of such a program, both schemas have to be present before either of them
is compiled.
-/

namespace ProgramConnector.Connector

open TypeScript

variable {profile : Profile} {options : Wrapper.Options}

/-- A block whose first declaration is that of a name, and is written. -/
def StartsWith (block : Block) (name : String) : Prop :=
  ∃ declaration rest text, block.declarations = declaration :: rest ∧ declaration.name = name ∧
    declaration.render = some text

/-- What is generated for one program. -/
structure Part where
  /-- The block of its input schema. -/
  input : Block
  /-- The block of its output schema. -/
  output : Block
  /-- Its function with its comment. -/
  wrapper : String

/-- The blocks of a part, in the order of the types module. -/
def Part.blocks (part : Part) : List Block := [part.input, part.output]

/-- The part of a program. -/
structure IsPartOf (profile : Profile) (options : Wrapper.Options) (program : Program)
    (part : Part) : Prop where
  /-- The block of its input schema. -/
  input : IsBlockOf profile (program.names.inputType, program.artifact.body.inputSchema) part.input
  /-- The block of its output schema. -/
  output :
    IsBlockOf profile (program.names.outputType, program.artifact.body.outputSchema) part.output
  /-- The function of the program. -/
  wrapper : part.wrapper = Wrapper.render program options

/-- The connector that is put together from parts. -/
def ofParts (profile : Profile) (parts : List Part) : Connector where
  types := "\n".intercalate ((parts.flatMap Part.blocks).map (blockText profile))
  functions := Wrapper.header ++ "\n".intercalate (parts.map Part.wrapper)
  programCount := parts.length

/-! ## Blocks of programs -/

section Blocks

variable {program : Program} {programs : List Program}

/-- A schema with a block is compiled to its text. -/
theorem compile_of_blockOf {schema : Schema} {root : String} {block : Block}
    (h : blockOf schema root profile = .ok block) :
    compile schema root profile = .ok (blockText profile block) := by
  unfold compile declarations
  rw [h]
  rfl

/-- A schema that compiles has its text. -/
theorem typeBlock_of_compile {file root text : String} {schema : Schema}
    (h : compile (schema.titled root) root profile = .ok text) :
    typeBlock profile file schema root = .ok text := by
  unfold typeBlock
  rw [h]

/-- A schema that does not compile has a failure. -/
theorem typeBlock_of_compile_error {file root : String} {schema : Schema} {error : CompileError}
    (h : compile (schema.titled root) root profile = .error error) :
    typeBlock profile file schema root = .error (.typeCompile root file error.message) := by
  unfold typeBlock
  rw [h]

/-- A program with both schemas has the two texts of them. -/
theorem programBlocks_of_schemas {input output : Schema}
    (hinput : program.artifact.body.inputSchema = some input)
    (houtput : program.artifact.body.outputSchema = some output) :
    programBlocks profile program =
      typeBlock profile program.file input program.names.inputType >>= fun inputText =>
      typeBlock profile program.file output program.names.outputType >>= fun outputText =>
        .ok [inputText, outputText] := by
  unfold programBlocks
  dsimp only
  rw [hinput, houtput]
  rfl

/-- The two blocks of a program. -/
theorem forall₂_typeSchemas_iff {blocks : List Block} :
    List.Forall₂ (IsBlockOf profile) program.typeSchemas blocks ↔ ∃ input output,
      IsBlockOf profile (program.names.inputType, program.artifact.body.inputSchema) input ∧
      IsBlockOf profile (program.names.outputType, program.artifact.body.outputSchema) output ∧
      blocks = [input, output] := by
  unfold Program.typeSchemas
  simp only [List.forall₂_cons_left_iff, List.forall₂_nil_left_iff]
  constructor
  · rintro ⟨input, rest, hinput, ⟨output, none, houtput, rfl, rfl⟩, rfl⟩
    exact ⟨input, output, hinput, houtput, rfl⟩
  · rintro ⟨input, output, hinput, houtput, rfl⟩
    exact ⟨input, [output], hinput, ⟨output, [], houtput, rfl, rfl⟩, rfl⟩

/-- A part of a program has its two blocks. -/
theorem IsPartOf.blocks {part : Part} (h : IsPartOf profile options program part) :
    List.Forall₂ (IsBlockOf profile) program.typeSchemas part.blocks :=
  forall₂_typeSchemas_iff.2 ⟨part.input, part.output, h.input, h.output, rfl⟩

/-- A program has the texts of its two blocks, and no others. -/
theorem programBlocks_eq_ok_iff {texts : List String} :
    programBlocks profile program = .ok texts ↔
      ∃ part, IsPartOf profile options program part ∧
        texts = part.blocks.map (blockText profile) := by
  constructor
  · intro h
    obtain ⟨blocks, hblocks, rfl⟩ := programBlocks_eq_ok h
    obtain ⟨input, output, hinput, houtput, rfl⟩ := forall₂_typeSchemas_iff.1 hblocks
    exact ⟨⟨input, output, Wrapper.render program options⟩, ⟨hinput, houtput, rfl⟩, rfl⟩
  · rintro ⟨part, ⟨⟨input, hinput, hi⟩, ⟨output, houtput, ho⟩, -⟩, rfl⟩
    have hinput : program.artifact.body.inputSchema = some input := hinput
    have houtput : program.artifact.body.outputSchema = some output := houtput
    have hinputText : typeBlock profile program.file input program.names.inputType =
        .ok (blockText profile part.input) := typeBlock_of_compile (compile_of_blockOf hi)
    have houtputText : typeBlock profile program.file output program.names.outputType =
        .ok (blockText profile part.output) := typeBlock_of_compile (compile_of_blockOf ho)
    rw [programBlocks_of_schemas hinput houtput, hinputText, houtputText]
    rfl

/-- Programs have the texts of their blocks, and no others. -/
theorem mapM_programBlocks_of_parts {parts : List Part}
    (h : List.Forall₂ (IsPartOf profile options) programs parts) :
    programs.mapM (programBlocks profile) =
      .ok (parts.map fun part => part.blocks.map (blockText profile)) := by
  rw [mapM_eq_ok_iff, List.forall₂_map_right_iff]
  exact h.imp fun program part hpart => programBlocks_eq_ok_iff.2 ⟨part, hpart, rfl⟩

/-- The functions of programs are those of their parts. -/
theorem map_wrapper {parts : List Part}
    (h : List.Forall₂ (IsPartOf profile options) programs parts) :
    parts.map Part.wrapper = programs.map fun program => Wrapper.render program options := by
  induction h with
  | nil => rfl
  | cons hpart _ ih => rw [List.map_cons, List.map_cons, hpart.wrapper, ih]

/-- Programs with parts have the connector that is put together from them. -/
theorem ofPrograms_of_parts {parts : List Part}
    (h : List.Forall₂ (IsPartOf profile options) programs parts) :
    ofPrograms profile options programs = .ok (ofParts profile parts) := by
  have htexts : (parts.map fun part => part.blocks.map (blockText profile)).flatten =
      (parts.flatMap Part.blocks).map (blockText profile) := by
    rw [List.map_flatMap, List.flatMap_def]
  have htypes : typesModule profile programs =
      .ok ("\n".intercalate ((parts.flatMap Part.blocks).map (blockText profile))) := by
    unfold typesModule
    rw [mapM_programBlocks_of_parts h, ← htexts]
    rfl
  have hfunctions : Wrapper.renderModule programs options =
      Wrapper.header ++ "\n".intercalate (parts.map Part.wrapper) := by
    rw [Wrapper.renderModule, map_wrapper h]
  unfold ofPrograms ofParts
  rw [htypes, hfunctions, h.length_eq]
  rfl

/-- Programs with texts have parts. -/
theorem exists_parts_of_texts {texts : List (List String)}
    (h : List.Forall₂ (fun program texts => programBlocks profile program = .ok texts)
      programs texts) :
    ∃ parts, List.Forall₂ (IsPartOf profile options) programs parts := by
  induction h with
  | nil => exact ⟨[], .nil⟩
  | @cons program texts _ _ hprogram _ ih =>
    obtain ⟨part, hpart, -⟩ : ∃ part, IsPartOf profile options program part ∧
        texts = part.blocks.map (blockText profile) := programBlocks_eq_ok_iff.1 hprogram
    obtain ⟨parts, hparts⟩ := ih
    exact ⟨part :: parts, .cons hpart hparts⟩

/-- The connector of programs is put together from their parts. -/
theorem ofPrograms_eq_ok_iff {connector : Connector} :
    ofPrograms profile options programs = .ok connector ↔
      ∃ parts, List.Forall₂ (IsPartOf profile options) programs parts ∧
        connector = ofParts profile parts := by
  constructor
  · intro h
    obtain ⟨types, htypes, -⟩ := bind_eq_ok h
    obtain ⟨texts, htexts, -⟩ := bind_eq_ok htypes
    rw [mapM_eq_ok_iff] at htexts
    obtain ⟨parts, hparts⟩ :
        ∃ parts, List.Forall₂ (IsPartOf profile options) programs parts :=
      exists_parts_of_texts htexts
    exact ⟨parts, hparts, Except.ok.inj (h.symm.trans (ofPrograms_of_parts hparts))⟩
  · rintro ⟨parts, hparts, rfl⟩
    exact ofPrograms_of_parts hparts

end Blocks

/-! ## Failures -/

/-- Why a program has no blocks of types. -/
inductive BlocksFailure (profile : Profile) (program : Program) : Failure → Prop
  /-- There is no input schema. -/
  | inputMissing (hinput : program.artifact.body.inputSchema = none) :
    BlocksFailure profile program (.missingField "input_schema" program.file)
  /-- There is an input schema, but no output schema. -/
  | outputMissing {input : Schema} (hinput : program.artifact.body.inputSchema = some input)
    (houtput : program.artifact.body.outputSchema = none) :
    BlocksFailure profile program (.missingField "output_schema" program.file)
  /-- There are both schemas, and the input schema does not compile. -/
  | input {input output : Schema} {error : CompileError}
    (hinput : program.artifact.body.inputSchema = some input)
    (houtput : program.artifact.body.outputSchema = some output)
    (herror : compile (input.titled program.names.inputType) program.names.inputType profile =
      .error error) :
    BlocksFailure profile program
      (.typeCompile program.names.inputType program.file error.message)
  /-- The input schema compiles, and the output schema does not. -/
  | output {input output : Schema} {text : String} {error : CompileError}
    (hinput : program.artifact.body.inputSchema = some input)
    (houtput : program.artifact.body.outputSchema = some output)
    (htext : compile (input.titled program.names.inputType) program.names.inputType profile =
      .ok text)
    (herror : compile (output.titled program.names.outputType) program.names.outputType profile =
      .error error) :
    BlocksFailure profile program
      (.typeCompile program.names.outputType program.file error.message)

section Failures

variable {program : Program} {programs : List Program} {failure : Failure}

/-- A program without an input schema has no blocks. -/
theorem programBlocks_of_inputMissing (h : program.artifact.body.inputSchema = none) :
    programBlocks profile program = .error (.missingField "input_schema" program.file) := by
  unfold programBlocks
  dsimp only
  rw [h]
  rfl

/-- A program with an input schema and without an output schema has no blocks, whether or not the
input schema compiles. -/
theorem programBlocks_of_outputMissing {input : Schema}
    (hinput : program.artifact.body.inputSchema = some input)
    (houtput : program.artifact.body.outputSchema = none) :
    programBlocks profile program = .error (.missingField "output_schema" program.file) := by
  unfold programBlocks
  dsimp only
  rw [hinput, houtput]
  rfl

/-- A program without blocks fails for one of the four reasons. -/
theorem programBlocks_eq_error_iff :
    programBlocks profile program = .error failure ↔ BlocksFailure profile program failure := by
  constructor
  · intro h
    cases hinput : program.artifact.body.inputSchema with
    | none =>
      cases (programBlocks_of_inputMissing hinput).symm.trans h
      exact .inputMissing hinput
    | some input =>
      cases houtput : program.artifact.body.outputSchema with
      | none =>
        cases (programBlocks_of_outputMissing hinput houtput).symm.trans h
        exact .outputMissing hinput houtput
      | some output =>
        rw [programBlocks_of_schemas hinput houtput] at h
        cases hi : compile (input.titled program.names.inputType) program.names.inputType
            profile with
        | error error =>
          rw [typeBlock_of_compile_error hi] at h
          cases h
          exact .input hinput houtput hi
        | ok text =>
          rw [typeBlock_of_compile hi] at h
          cases ho : compile (output.titled program.names.outputType) program.names.outputType
              profile with
          | error error =>
            rw [typeBlock_of_compile_error ho] at h
            cases h
            exact .output hinput houtput hi ho
          | ok text =>
            rw [typeBlock_of_compile ho] at h
            exact nomatch h
  · rintro (hinput | ⟨hinput, houtput⟩ | ⟨hinput, houtput, hi⟩ | ⟨hinput, houtput, hi, ho⟩)
    · exact programBlocks_of_inputMissing hinput
    · exact programBlocks_of_outputMissing hinput houtput
    · rw [programBlocks_of_schemas hinput houtput, typeBlock_of_compile_error hi]
      rfl
    · rw [programBlocks_of_schemas hinput houtput, typeBlock_of_compile hi,
        typeBlock_of_compile_error ho]
      rfl

/-- A program has a connector of its own when it has blocks. -/
theorem exists_ofPrograms_singleton_iff :
    (∃ single, ofPrograms profile options [program] = .ok single) ↔
      ∃ texts, programBlocks profile program = .ok texts := by
  constructor
  · rintro ⟨single, hsingle⟩
    obtain ⟨parts, hparts, -⟩ := ofPrograms_eq_ok_iff.1 hsingle
    obtain ⟨part, -, hpart⟩ := exists_right_of_forall₂ hparts List.mem_cons_self
    exact ⟨_, programBlocks_eq_ok_iff.2 ⟨part, hpart, rfl⟩⟩
  · rintro ⟨texts, htexts⟩
    obtain ⟨part, hpart, -⟩ : ∃ part, IsPartOf profile options program part ∧
        texts = part.blocks.map (blockText profile) := programBlocks_eq_ok_iff.1 htexts
    exact ⟨ofParts profile [part], ofPrograms_of_parts (.cons hpart .nil)⟩

/-- There is no connector where the blocks of programs cannot be collected. -/
theorem ofPrograms_of_mapM_error
    (h : programs.mapM (programBlocks profile) = .error failure) :
    ofPrograms profile options programs = .error failure := by
  unfold ofPrograms typesModule
  rw [h]
  rfl

/-- Where there is no connector, the failure is that of the first program that has none of its
own. -/
theorem ofPrograms_eq_error_iff :
    ofPrograms profile options programs = .error failure ↔
      ∃ front program behind, programs = front ++ program :: behind ∧
        (∀ other ∈ front, ∃ single, ofPrograms profile options [other] = .ok single) ∧
        BlocksFailure profile program failure := by
  simp only [exists_ofPrograms_singleton_iff]
  constructor
  · intro h
    rcases all_ok_or_first_error (programBlocks profile) programs with
      hall | ⟨front, program, behind, first, rfl, hfront, hfirst⟩
    · obtain ⟨texts, htexts⟩ := exists_mapM_eq_ok hall
      obtain ⟨parts, hparts⟩ : ∃ parts, List.Forall₂ (IsPartOf profile options) programs parts :=
        exists_parts_of_texts (mapM_eq_ok_iff.1 htexts)
      exact nomatch h.symm.trans (ofPrograms_of_parts hparts)
    · have herror : ofPrograms profile options (front ++ program :: behind) = .error first :=
        ofPrograms_of_mapM_error (mapM_eq_error hfront hfirst)
      cases herror.symm.trans h
      exact ⟨front, program, behind, rfl, hfront, programBlocks_eq_error_iff.1 hfirst⟩
  · rintro ⟨front, program, behind, rfl, hfront, hfailure⟩
    exact ofPrograms_of_mapM_error
      (mapM_eq_error hfront (programBlocks_eq_error_iff.2 hfailure))

end Failures

/-! ## Agreement -/

/-- A connector of programs whose modules agree, with the parts of the programs. -/
structure IsAgreed (profile : Profile) (options : Wrapper.Options) (programs : List Program)
    (connector : Connector) (parts : List Part) : Prop where
  /-- Every program has its two blocks and its function, in order. -/
  places : List.Forall₂ (IsPartOf profile options) programs parts
  /-- The types module is made of all blocks. -/
  types : connector.types = "\n".intercalate ((parts.flatMap Part.blocks).map (blockText profile))
  /-- The functions module is made of all functions behind the header. -/
  functions :
    connector.functions = Wrapper.header ++ "\n".intercalate (parts.map Part.wrapper)
  /-- The programs are counted. -/
  count : connector.programCount = programs.length
  /-- The blocks start with the types of the programs, under their names. -/
  roots : List.Forall₂ StartsWith (parts.flatMap Part.blocks) (typeNames programs)
  /-- The functions module mentions these types, each two times. -/
  mentioned : Wrapper.mentionedTypes connector.functions = programs.flatMap Wrapper.mentionedBy
  /-- Every type that the functions module mentions is declared. -/
  declared : ∀ name ∈ Wrapper.mentionedTypes connector.functions,
    ∃ block ∈ parts.flatMap Part.blocks, StartsWith block name
  /-- Every program has the same blocks and the same function when it is generated alone. -/
  alone : List.Forall₂
    (fun program part => ofPrograms profile options [program] = .ok (ofParts profile [part]))
    programs parts

/-- All blocks of parts are those of the schemas of the programs. -/
theorem forall₂_blocks {programs : List Program} {parts : List Part}
    (h : List.Forall₂ (IsPartOf profile options) programs parts) :
    List.Forall₂ (IsBlockOf profile) (programs.flatMap Program.typeSchemas)
      (parts.flatMap Part.blocks) := by
  induction h with
  | nil => exact .nil
  | cons hpart _ ih =>
    rw [List.flatMap_cons, List.flatMap_cons]
    exact List.rel_append hpart.blocks ih

/-- The block of a schema starts with the name of the schema. -/
theorem IsBlockOf.startsWith {entry : String × Option Schema} {block : Block}
    (h : IsBlockOf profile entry block) : StartsWith block entry.1 := by
  obtain ⟨schema, -, hblock⟩ := h
  have hclosed := isClosed_of_blockOf hblock
  obtain ⟨declaration, rest, -, hdeclarations, hname, -⟩ := hclosed.root
  have hfirst : declaration ∈ block.declarations := by
    rw [hdeclarations]
    exact List.mem_cons_self
  obtain ⟨text, htext⟩ := Option.isSome_iff_exists.1 (hclosed.rendered declaration hfirst)
  exact ⟨declaration, rest, text, hdeclarations, hname, htext⟩

/-- A function mentions the names of types of its program alone. -/
theorem mem_typeNames_of_mem_mentionedBy {programs : List Program} {name : String}
    (h : name ∈ programs.flatMap Wrapper.mentionedBy) : name ∈ typeNames programs := by
  obtain ⟨program, hprogram, hname⟩ := List.mem_flatMap.1 h
  have htwice : Wrapper.mentionedBy program =
      program.typeSchemas.map Prod.fst ++ program.typeSchemas.map Prod.fst := rfl
  rw [htwice, List.mem_append, or_self] at hname
  unfold typeNames
  rw [List.map_flatMap]
  exact List.mem_flatMap.2 ⟨program, hprogram, hname⟩

/-- The two modules that are put together from the parts of programs agree. -/
theorem isAgreed_ofParts {programs : List Program} {parts : List Part}
    (h : List.Forall₂ (IsPartOf profile options) programs parts) :
    IsAgreed profile options programs (ofParts profile parts) parts := by
  have hroots : List.Forall₂ StartsWith (parts.flatMap Part.blocks) (typeNames programs) := by
    unfold typeNames
    rw [List.forall₂_map_right_iff]
    exact (forall₂_blocks h).flip.imp fun block entry hblock => IsBlockOf.startsWith hblock
  have hfunctions : (ofParts profile parts).functions = Wrapper.renderModule programs options := by
    rw [Wrapper.renderModule, ← map_wrapper h]
    rfl
  have hmentioned : Wrapper.mentionedTypes (ofParts profile parts).functions =
      programs.flatMap Wrapper.mentionedBy := by
    rw [hfunctions, Wrapper.mentionedTypes_renderModule]
  refine ⟨h, rfl, rfl, h.length_eq.symm, hroots, hmentioned, fun name hname => ?_,
    h.imp fun program part hpart => ofPrograms_of_parts (.cons hpart .nil)⟩
  rw [hmentioned] at hname
  exact exists_left_of_forall₂ hroots (mem_typeNames_of_mem_mentionedBy hname)

/-- There is a connector of programs exactly when the programs have parts from which its two modules
are put together and on which they agree. Where there is none, the failure is that of the first
program that has no connector of its own: a schema of it is missing, or both are there and its input
schema, or else its output schema, does not compile. -/
theorem ofPrograms_outcome (profile : Profile) (options : Wrapper.Options)
    (programs : List Program) :
    (∀ connector, ofPrograms profile options programs = .ok connector ↔
      ∃ parts, IsAgreed profile options programs connector parts) ∧
    ∀ failure, ofPrograms profile options programs = .error failure ↔
      ∃ front program behind, programs = front ++ program :: behind ∧
        (∀ other ∈ front, ∃ single, ofPrograms profile options [other] = .ok single) ∧
        BlocksFailure profile program failure := by
  refine ⟨fun connector => ⟨fun h => ?_, ?_⟩, fun failure => ofPrograms_eq_error_iff⟩
  · obtain ⟨parts, hparts, rfl⟩ := ofPrograms_eq_ok_iff.1 h
    exact ⟨parts, isAgreed_ofParts hparts⟩
  · rintro ⟨parts, hagreed⟩
    have hconnector : connector = ofParts profile parts := by
      cases connector
      have htypes := hagreed.types
      have hfunctions := hagreed.functions
      have hcount := hagreed.count.trans hagreed.places.length_eq
      dsimp only at htypes hfunctions hcount
      rw [htypes, hfunctions, hcount]
      rfl
    rw [hconnector]
    exact ofPrograms_of_parts hagreed.places

/-- A schema that refers to what its document does not have. -/
def danglingSchema : Schema :=
  .object ⟨none, none, [("$ref", .str "#/definitions/missing")]⟩ .absent .absent .absent

/-- A program whose input schema does not compile, and that has no output schema. -/
def halfProgram : Program where
  file := "a.json"
  artifact := {
    identifier := "p"
    title := "pair"
    artifactType := "automation"
    body := ⟨"return 1;", some danglingSchema, none⟩ }

/-- The input schema of a program fails to compile, and still the failure of the program is that of
its output schema, which is missing. -/
theorem missing_output_before_input : ∃ message,
    typeBlock {} halfProgram.file danglingSchema halfProgram.names.inputType =
      .error (.typeCompile "PairInput" "a.json" message) ∧
    halfProgram.artifact.body.inputSchema = some danglingSchema ∧
    ofPrograms {} {} [halfProgram] = .error (.missingField "output_schema" "a.json") ∧
    ofPrograms {} {} [halfProgram] ≠ .error (.typeCompile "PairInput" "a.json" message) := by
  have hmissing : ofPrograms {} {} [halfProgram] =
      .error (.missingField "output_schema" "a.json") := by
    rfl
  refine ⟨"cannot resolve $ref '#/definitions/missing'", ?_, rfl, hmissing, ?_⟩
  · rfl
  · rw [hmissing]
    exact fun h => nomatch h

end ProgramConnector.Connector
