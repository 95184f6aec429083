import CodeTwins.Embedding.Embedder
import CodeTwins.Numeral
import CodeTwins.Text.Quoted
import CodeTwins.Text.Trim
import CodeTwins.Unicode.LetterCase

/-!
# Settings of the service

The service is set up from named texts of its environment. A text that is empty counts as absent where
a number or an address is wanted. Numbers are checked in a fixed order, and only when all are numbers
are they checked for their range.
-/
namespace CodeTwins

abbrev Environment := List (String × String)

namespace Environment

def text? (env : Environment) (name : String) : Option String :=
  (env.find? (·.1 == name)).map (·.2)

/-- The text of a name, unless it is empty. -/
def given? (env : Environment) (name : String) : Option String :=
  (env.text? name).filter (!·.isEmpty)

end Environment

/-- Settings of the service. -/
structure Settings where
  endpoint : Option String := some "http://embeddinggemma:8080/v1/embeddings"
  apiKey : String := ""
  chunkSize : Int := 1000
  timeout : Float := 30
  concurrency : Int := 5
  database : String := "./.dry_cache/vectors.db"
  host : String := "0.0.0.0"
  port : Int := 3000
  logLevel : String := "INFO"

namespace Settings

/-- Why the environment gives no settings. -/
inductive Invalid where
  | notANumber (name text : String)
  | timeoutNotPositive
  | noWorkers
  | portOutOfRange (port : Int)
deriving DecidableEq, Repr

def Invalid.message : Invalid → String
  | notANumber name text => name ++ " must be a number, got " ++ Text.quoted text
  | timeoutNotPositive => "EMBEDDING_TIMEOUT must be positive"
  | noWorkers => "EMBEDDING_CONCURRENCY must be at least 1"
  | portOutOfRange port => "PORT out of range: " ++ toString port

/-- The endpoint: the one given, or one below the address of the model's own server, or the default. -/
def endpointOf (env : Environment) : String :=
  match env.given? "EMBEDDING_API_URL", env.given? "EMBEDDINGGEMMA_URL" with
  | some url, _ => url
  | none, some base =>
    String.ofList (Text.trimEnd (· == '/') base.toList) ++ "/embeddings"
  | none, none => "http://embeddinggemma:8080/v1/embeddings"

def modelOf (env : Environment) : String :=
  ((env.given? "EMBEDDING_MODEL").or (env.given? "EMBEDDINGGEMMA_MODEL")).getD
    "text-embedding-3-small"

/-- The number of a name, or a default if there is none. -/
def numberOf {β : Type} (env : Environment) (name : String) (default : β)
    (read : String → Option β) : Except Invalid β :=
  match env.given? name with
  | none => .ok default
  | some text =>
    match read text with
    | some n => .ok n
    | none => .error (.notANumber name text)

def validate (s : Settings) : Except Invalid Settings :=
  if s.timeout ≤ 0 then .error .timeoutNotPositive
  else if s.concurrency < 1 then .error .noWorkers
  else if ¬(0 < s.port ∧ s.port < 65536) then .error (.portOutOfRange s.port)
  else .ok s

def ofEnvironment (env : Environment) : Except Invalid Settings := do
  let chunkSize ← numberOf env "EMBEDDING_CHUNK_SIZE" 1000 Numeral.int?
  let timeout ← numberOf env "EMBEDDING_TIMEOUT" 30 Numeral.float?
  let concurrency ← numberOf env "EMBEDDING_CONCURRENCY" 5 Numeral.int?
  let port ← numberOf env "PORT" 3000 Numeral.int?
  validate {
    endpoint := some (endpointOf env)
    apiKey := (env.text? "EMBEDDING_API_KEY").getD ""
    chunkSize, timeout, concurrency, port
    database := (env.text? "DRY_DB_PATH").getD "./.dry_cache/vectors.db"
    host := (env.text? "HOST").getD "0.0.0.0"
    logLevel := Unicode.upper ((env.text? "LOG_LEVEL").getD "INFO") }

def chunkLimit (s : Settings) : Nat :=
  Embedding.chunkLimit s.chunkSize

def workers (s : Settings) : Nat :=
  (max 1 s.concurrency).toNat

def authorization (s : Settings) : Option String :=
  if s.apiKey.isEmpty then none else some ("Bearer " ++ s.apiKey)

/-- The embedder with a provider that answers if there is an endpoint. -/
def embedder {α : Type} (s : Settings) (provider : Embedding.Provider α) : Embedding.Embedder α where
  provider := if (s.endpoint.getD "").isEmpty then none else some provider
  chunkLimit := s.chunkLimit

end Settings
end CodeTwins
