-- The settings of a container. They can be given as a document, in which every setting
-- may be left out. Requests keep the settings that were in force when they came in.
import WebRequest.Document

namespace WebRequest

/-- What becomes of a parameter that cannot be decoded. -/
inductive FailurePolicy where
  | fail
  | skip
  deriving DecidableEq, Repr

namespace FailurePolicy

/-- The policies by name. -/
def variants : List (String × FailurePolicy) := [("fail", .fail), ("skip", .skip)]

def name : FailurePolicy → String
  | .fail => "fail"
  | .skip => "skip"

end FailurePolicy

/-- The settings of a container. -/
structure Settings where
  containerEncoding : Option String := none
  contextEncoding : Option String := none
  defaultLocale : Locale := .standard
  /-- The most values that the parameters of a request may have. -/
  maxParameterCount : Nat := 10000
  /-- The most bytes of a body that is read for its parameters. -/
  maxPostSize : Nat := 2 * 1024 * 1024
  /-- The time that a suspended request may take, in milliseconds; zero is no limit. -/
  asyncTimeout : Nat := 30000
  failurePolicy : FailurePolicy := .fail
  deriving DecidableEq, Repr

namespace Settings

/-- The fields of a document, in the order of their declaration. -/
def fields : List (Document.Field Settings) :=
  [⟨"container_encoding", fun d s =>
      (Document.readOptional Document.readText d).map fun v => { s with containerEncoding := v }⟩,
   ⟨"context_encoding", fun d s =>
      (Document.readOptional Document.readText d).map fun v => { s with contextEncoding := v }⟩,
   ⟨"default_locale", fun d s =>
      (Document.readLocale d).map fun v => { s with defaultLocale := v }⟩,
   ⟨"max_parameter_count", fun d s =>
      (Document.readNatural "usize" d).map fun v => { s with maxParameterCount := v }⟩,
   ⟨"max_post_size", fun d s =>
      (Document.readNatural "u64" d).map fun v => { s with maxPostSize := v }⟩,
   ⟨"async_timeout_ms", fun d s =>
      (Document.readNatural "u64" d).map fun v => { s with asyncTimeout := v }⟩,
   ⟨"failure_policy", fun d s =>
      (Document.readVariant FailurePolicy.variants d).map fun v =>
        { s with failurePolicy := v }⟩]

def ofDocument : Document → Except DocumentFault Settings :=
  Document.readRecord "FacadeConfig" fields {}

end Settings

end WebRequest
