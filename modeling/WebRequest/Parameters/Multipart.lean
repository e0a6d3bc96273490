-- Multipart bodies. An endpoint brings its own splitter; what is decided here is which
-- of the parts it returns are accepted. Too many parts are refused first, then the first
-- file that is too large.
import WebRequest.Document
import WebRequest.Effect

namespace WebRequest.Parameters

structure FilePart where
  name : String
  fileName : Option String := none
  contentType : Option String := none
  data : Bytes
  deriving DecidableEq, Repr

def FilePart.size (f : FilePart) : Nat := f.data.length

inductive Part where
  | field (name value : String)
  | file (file : FilePart)
  deriving DecidableEq, Repr

/-- Splits a body along a boundary, decoding the fields with a charset. -/
abbrev Splitter := String → Bytes → Charset → Except ParameterFault (List Part)

/-- The limits on the multipart requests of an endpoint; `none` is no limit. -/
structure MultipartLimits where
  maxFileSize : Option Nat := none
  maxRequestSize : Option Nat := none
  maxPartCount : Option Nat := none
  deriving DecidableEq, Repr

namespace MultipartLimits

/-- The fields of a document, in the order of their declaration. -/
def fields : List (Document.Field MultipartLimits) :=
  [⟨"max_file_size", fun d l =>
      (Document.readOptional (Document.readNatural "u64") d).map fun v =>
        { l with maxFileSize := v }⟩,
   ⟨"max_request_size", fun d l =>
      (Document.readOptional (Document.readNatural "u64") d).map fun v =>
        { l with maxRequestSize := v }⟩,
   ⟨"max_part_count", fun d l =>
      (Document.readOptional (Document.readNatural "usize") d).map fun v =>
        { l with maxPartCount := v }⟩]

def ofDocument : Document → Except DocumentFault MultipartLimits :=
  Document.readRecord "MultipartConfig" fields {}

def describeLimit : Option Nat → String
  | none => "None"
  | some n => "Some(" ++ toString n ++ ")"

def describe (l : MultipartLimits) : String :=
  "MultipartConfig \x7b max_file_size: " ++ describeLimit l.maxFileSize ++
    ", max_request_size: " ++ describeLimit l.maxRequestSize ++
    ", max_part_count: " ++ describeLimit l.maxPartCount ++ " \x7d"

/-- The fault of a file that is larger than allowed. -/
def fileFault? (l : MultipartLimits) (f : FilePart) : Option ParameterFault :=
  match l.maxFileSize with
  | none => none
  | some limit => if limit < f.size then some (.fileTooLarge f.name f.size limit) else none

/-- The fault of a list of parts that exceeds the limits. -/
def fault? (l : MultipartLimits) (parts : List Part) : Option ParameterFault :=
  match l.maxPartCount with
  | some limit =>
    if limit < parts.length then some (.tooManyParts limit) else largeFile parts
  | none => largeFile parts
where
  /-- The first file that is too large. -/
  largeFile (parts : List Part) : Option ParameterFault :=
    parts.findSome? fun
      | .field .. => none
      | .file f => l.fileFault? f

end MultipartLimits

/-- The names and values of the fields. -/
def fieldsOf (parts : List Part) : List (String × String) :=
  parts.filterMap fun
    | .field name value => some (name, value)
    | .file _ => none

def filesOf (parts : List Part) : List FilePart :=
  parts.filterMap fun
    | .field .. => none
    | .file f => some f

end WebRequest.Parameters
