/-!
# Bundled files

The files of a connector project that are bundled with the program: the runtime helpers of the
generated functions, the configuration file with its schema, and the package description.
-/

namespace ProgramConnector.Scaffold

/-- The runtime helpers of the generated functions. -/
def runtimeHelpers : String := String.join [
  "import * as sdk from \"@hasura/ndc-lambda-sdk\";\n",
  "import axios, \x7b AxiosError \x7d from \"axios\";\n",
  "\n",
  "const DEFAULT_TIMEOUT_MS = 600000;\n",
  "\n",
  "// Read once at module load; every request and error message uses this value.\n",
  "const programExecutionTimeout = readTimeout();\n",
  "\n",
  "export function mustEnv(name: string): string \x7b\n",
  "  const value = process.env[name];\n",
  "  if (!value) \x7b\n",
  "    throw new Error(\x60Missing required environment variable: $\x7bname\x7d\x60);\n",
  "  \x7d\n",
  "  return value;\n",
  "\x7d\n",
  "\n",
  "export function prepareExecuteProgramBody<I>(\n",
  "  headers: sdk.JSONValue,\n",
  "  input: I,\n",
  "  code: string,\n",
  "  buildVersion?: string\n",
  "): ExecuteProgramBody<I> \x7b\n",
  "  const headerValues = headers?.value as Record<string, any> | undefined;\n",
  "  const body: ExecuteProgramBody<I> = \x7b\n",
  "    version: \"v2\",\n",
  "    code,\n",
  "    artifacts: [\n",
  "      \x7b\n",
  "        identifier: \"input\",\n",
  "        title: \"Input\",\n",
  "        artifact_type: \"table\",\n",
  "        data: input,\n",
  "      \x7d,\n",
  "    ],\n",
  "  \x7d;\n",
  "  if (buildVersion || headerValues) \x7b\n",
  "    body.ddn = \x7b\n",
  "      ...(buildVersion ? \x7b build_version: buildVersion \x7d : \x7b\x7d),\n",
  "      ...(headerValues ? \x7b headers: headerValues \x7d : \x7b\x7d),\n",
  "    \x7d;\n",
  "  \x7d\n",
  "  return body;\n",
  "\x7d\n",
  "\n",
  "export async function makeExecuteProgramRequest<I, O>(\n",
  "  body: ExecuteProgramBody<I>,\n",
  "  apiKey: string,\n",
  "  executeProgramEndpoint: string\n",
  "): Promise<ProgramOutput<O>> \x7b\n",
  "  let data: ProgramOutput<O>;\n",
  "  try \x7b\n",
  "    const response = await axios.post<ProgramOutput<O>>(\n",
  "      executeProgramEndpoint,\n",
  "      body,\n",
  "      \x7b\n",
  "        headers: \x7b\n",
  "          \"Content-Type\": \"application/json\",\n",
  "          Authorization: \x60Bearer $\x7bapiKey\x7d\x60,\n",
  "        \x7d,\n",
  "        timeout: programExecutionTimeout,\n",
  "        maxRedirects: 0,\n",
  "        validateStatus: () => true,\n",
  "      \x7d\n",
  "    );\n",
  "    if (response.status !== 200) \x7b\n",
  "      throw new sdk.UnprocessableContent(\"Program execution failed upstream\", \x7b\n",
  "        kind: \"upstream_error\",\n",
  "        status: response.status,\n",
  "        data: response.data,\n",
  "      \x7d);\n",
  "    \x7d\n",
  "    data = response.data;\n",
  "  \x7d catch (e) \x7b\n",
  "    throw categorizeError(e);\n",
  "  \x7d\n",
  "\n",
  "  if (data.error !== undefined && data.error !== null) \x7b\n",
  "    throw new sdk.UnprocessableContent(\"Program execution returned an error\", \x7b\n",
  "      kind: \"execution_error\",\n",
  "      error: data.error,\n",
  "      output: data.output,\n",
  "    \x7d);\n",
  "  \x7d\n",
  "  return data;\n",
  "\x7d\n",
  "\n",
  "function categorizeError(e: unknown): Error \x7b\n",
  "  if (e instanceof sdk.UnprocessableContent) \x7b\n",
  "    return e;\n",
  "  \x7d\n",
  "  if (axios.isAxiosError(e)) \x7b\n",
  "    const error = e as AxiosError;\n",
  "    if (error.code === \"ECONNABORTED\" || error.code === \"ETIMEDOUT\") \x7b\n",
  "      return new sdk.UnprocessableContent(\"Program execution timed out\", \x7b\n",
  "        kind: \"timeout\",\n",
  "        timeout_ms: programExecutionTimeout,\n",
  "        message: error.message,\n",
  "      \x7d);\n",
  "    \x7d\n",
  "    return new sdk.UnprocessableContent(\"Program execution request failed\", \x7b\n",
  "      kind: \"network_error\",\n",
  "      code: error.code ?? null,\n",
  "      message: error.message,\n",
  "    \x7d);\n",
  "  \x7d\n",
  "  return new sdk.UnprocessableContent(\"Unexpected program execution error\", \x7b\n",
  "    kind: \"unexpected_error\",\n",
  "    message: e instanceof Error ? e.message : String(e),\n",
  "  \x7d);\n",
  "\x7d\n",
  "\n",
  "function readTimeout(): number \x7b\n",
  "  const raw = process.env[\"PROGRAM_EXECUTION_TIMEOUT\"];\n",
  "  if (raw) \x7b\n",
  "    const parsed = parseInt(raw, 10);\n",
  "    if (Number.isFinite(parsed) && parsed > 0) \x7b\n",
  "      return parsed;\n",
  "    \x7d\n",
  "  \x7d\n",
  "  return DEFAULT_TIMEOUT_MS;\n",
  "\x7d\n",
  "\n",
  "export type ExecuteProgramBody<T> = \x7b\n",
  "  version: \"v2\";\n",
  "  code: string;\n",
  "  ddn?: \x7b\n",
  "    build_version?: string;\n",
  "    headers?: Record<string, any>;\n",
  "  \x7d;\n",
  "  artifacts: Artifact<T>[];\n",
  "\x7d;\n",
  "\n",
  "export type Artifact<T> = \x7b\n",
  "  identifier: string;\n",
  "  title: string;\n",
  "  artifact_type: string;\n",
  "  data: T;\n",
  "\x7d;\n",
  "\n",
  "export type ProgramOutput<T> = \x7b\n",
  "  output: string;\n",
  "  error?: string | null;\n",
  "  accessed_artifact_ids: string[];\n",
  "  modified_artifacts: Artifact<T>[];\n",
  "  llm_usages: LlmUsage[];\n",
  "\x7d;\n",
  "\n",
  "export type LlmUsage = \x7b\n",
  "  provider: string;\n",
  "  model: string;\n",
  "  input_tokens: number;\n",
  "  output_tokens: number;\n",
  "\x7d;\n"]

/-- The schema of the configuration file. -/
def configurationSchema : String := String.join [
  "\x7b\n",
  "  \"$schema\": \"http://json-schema.org/draft-07/schema#\",\n",
  "  \"title\": \"ProgramConfigs\",\n",
  "  \"type\": \"object\",\n",
  "  \"properties\": \x7b\n",
  "    \"$schema\": \x7b\n",
  "      \"type\": \"string\"\n",
  "    \x7d,\n",
  "    \"programs\": \x7b\n",
  "      \"description\": \"Program Configuration. Program identifier is the key for each config.\",\n",
  "      \"type\": \"object\",\n",
  "      \"additionalProperties\": \x7b\n",
  "        \"$ref\": \"#/definitions/ProgramConfiguration\"\n",
  "      \x7d\n",
  "    \x7d\n",
  "  \x7d,\n",
  "  \"additionalProperties\": false,\n",
  "  \"definitions\": \x7b\n",
  "    \"ProgramConfiguration\": \x7b\n",
  "      \"description\": \"Configuration for generating the function for the program.\",\n",
  "      \"type\": \"object\",\n",
  "      \"properties\": \x7b\n",
  "        \"readonly\": \x7b\n",
  "          \"description\": \"Mark the function as readonly.\",\n",
  "          \"type\": \"boolean\"\n",
  "        \x7d,\n",
  "        \"description\": \x7b\n",
  "          \"description\": \"Description of the function.\",\n",
  "          \"type\": \"string\"\n",
  "        \x7d\n",
  "      \x7d,\n",
  "      \"additionalProperties\": false\n",
  "    \x7d\n",
  "  \x7d\n",
  "\x7d\n"]

/-- A configuration file without entries. -/
def emptyConfiguration : String := String.join [
  "\x7b\n",
  "  \"$schema\": \"configuration.schema.json\",\n",
  "  \"programs\": \x7b\x7d\n",
  "\x7d\n"]

/-- The package description. -/
def packageDescription : String := String.join [
  "\x7b\n",
  "  \"name\": \"promptql-programs-connector\",\n",
  "  \"version\": \"0.1.0\",\n",
  "  \"private\": true,\n",
  "  \"engines\": \x7b\n",
  "    \"node\": \">=20\"\n",
  "  \x7d,\n",
  "  \"scripts\": \x7b\n",
  "    \"start\": \"ndc-lambda-sdk host -f functions.ts serve --configuration ./\",\n",
  "    \"watch\": \"ndc-lambda-sdk host -f functions.ts --watch serve --configuration ./ --pretty-print-logs\"\n",
  "  \x7d,\n",
  "  \"dependencies\": \x7b\n",
  "    \"@hasura/ndc-lambda-sdk\": \"1.13.1\",\n",
  "    \"axios\": \"^1.7.9\"\n",
  "  \x7d\n",
  "\x7d\n"]

end ProgramConnector.Scaffold
