-- Media types: a type and a subtype, with named parameters. Type, subtype, names and the
-- values of `charset` are written small; every other value keeps its case. The text is
-- otherwise kept as it was sent.
import WebRequest.Text.Ascii

namespace WebRequest

/-- A parameter as it is written: blanks, name, equals sign, value, and blanks behind a closing
quote. -/
structure WrittenParameter where
  lead : Nat
  name : List Char
  quoted : Bool
  value : List Char
  trail : Nat
  deriving DecidableEq, Repr

structure MediaType where
  type : String
  /-- The subtype with its suffix. -/
  fullSubtype : String
  /-- The parameters, names and charsets written small. -/
  parameters : List (String × String)
  /-- The whole text. -/
  text : String
  deriving DecidableEq, Repr

namespace MediaType

/-- A character that may stand in quotes: no control. -/
def isQuotable (c : Char) : Bool := 31 < c.toNat && c.toNat ≠ 127

/-- How many blanks lead a text. -/
def leadingBlanks (cs : List Char) : Nat := (cs.takeWhile (· = ' ')).length

/-! ## Reading -/

/-- A value in quotes, behind the opening one. Its first character is taken as it is, even a
quote, and the next quote closes it; only blanks may follow up to a semicolon or the end. -/
def readQuoted? (lead : Nat) (name : List Char) :
    List Char → Option (WrittenParameter × List Char)
  | [] => none
  | first :: more =>
    let value := first :: more.takeWhile (· ≠ '"')
    match more.dropWhile (· ≠ '"') with
    | [] => none
    | _ :: behind =>
      let rest := behind.dropWhile (· = ' ')
      if value.all isQuotable && (rest.isEmpty || rest.head? == some ';') then
        some ({ lead, name, quoted := true, value, trail := leadingBlanks behind }, rest)
      else none

/-- A value without quotes. It may be empty at the end of the text only. -/
def readBare? (lead : Nat) (name cs : List Char) : Option (WrittenParameter × List Char) :=
  let value := cs.takeWhile Text.isTokenChar
  let rest := cs.dropWhile Text.isTokenChar
  if rest.isEmpty || (rest.head? == some ';' && !value.isEmpty) then
    some ({ lead, name, quoted := false, value, trail := 0 }, rest)
  else none

/-- A parameter and what follows it: nothing, or a semicolon and more. -/
def readParameter? (cs : List Char) : Option (WrittenParameter × List Char) :=
  let body := cs.dropWhile (· = ' ')
  let name := body.takeWhile Text.isTokenChar
  if name.isEmpty then none
  else
    match body.dropWhile Text.isTokenChar with
    | '=' :: '"' :: rest => readQuoted? (leadingBlanks cs) name rest
    | '=' :: rest => readBare? (leadingBlanks cs) name rest
    | _ => none

theorem length_dropWhile_le {α : Type} (p : α → Bool) (xs : List α) :
    (xs.dropWhile p).length ≤ xs.length := (List.dropWhile_sublist p).length_le

/-- What follows a parameter is shorter. -/
theorem readParameter?_length {cs rest : List Char} {p : WrittenParameter}
    (h : readParameter? cs = some (p, rest)) : rest.length < cs.length := by
  have h1 := length_dropWhile_le (· = ' ') cs
  have h2 := length_dropWhile_le Text.isTokenChar (cs.dropWhile (· = ' '))
  unfold readParameter? at h
  simp only at h
  split at h
  · cases h
  · split at h
    · rename_i after he
      rw [he] at h2
      simp only [List.length_cons] at h2
      cases after with
      | nil => simp [readQuoted?] at h
      | cons first more =>
        have h3 := length_dropWhile_le (· ≠ '"') more
        simp only [readQuoted?] at h
        split at h
        · cases h
        · rename_i q behind hb
          rw [hb] at h3
          have h4 := length_dropWhile_le (· = ' ') behind
          split at h
          · simp only [Option.some.injEq, Prod.mk.injEq] at h
            obtain ⟨_, rfl⟩ := h
            simp only [List.length_cons] at h2 h3
            omega
          · cases h
    · rename_i after _ he
      rw [he] at h2
      have h3 := length_dropWhile_le Text.isTokenChar after
      simp only [readBare?] at h
      split at h
      · simp only [Option.some.injEq, Prod.mk.injEq] at h
        obtain ⟨_, rfl⟩ := h
        simp only [List.length_cons] at h2
        omega
      · cases h
    · cases h

/-- The parameters behind type and subtype, each after a semicolon, and the text behind the last
one: nothing, or a semicolon and blanks. -/
def readParameters? (cs : List Char) : Option (List WrittenParameter × List Char) :=
  match cs with
  | [] => some ([], [])
  | c :: rest =>
    if c ≠ ';' then none
    else if rest.all (· = ' ') then some ([], cs)
    else
      match _read : readParameter? rest with
      | none => none
      | some (p, after) => (readParameters? after).map fun (ps, ending) => (p :: ps, ending)
termination_by cs.length
decreasing_by
  have := readParameter?_length _read
  simp only [List.length_cons]
  omega

/-! ## Writing -/

/-- A list with its capital letters made small. -/
def lowered (cs : List Char) : List Char := cs.map Char.toLower

/-- The value as it is recorded: that of a charset is written small. -/
def WrittenParameter.recordedValue (p : WrittenParameter) : List Char :=
  if lowered p.name = "charset".toList then lowered p.value else p.value

/-- The parameter as text, behind its semicolon. -/
def WrittenParameter.text (p : WrittenParameter) : List Char :=
  let quote := if p.quoted then ['"'] else []
  [';'] ++ List.replicate p.lead ' ' ++ lowered p.name ++ ['='] ++ quote ++
    recordedValue p ++ quote ++ List.replicate p.trail ' '

/-- A declaration of UTF-8 in its usual place: one blank behind the semicolon. -/
def WrittenParameter.isUsualUtf8 (p : WrittenParameter) : Bool :=
  p.lead == 1 && lowered p.name == "charset".toList && lowered p.value == "utf-8".toList

/-- What a parameter is recorded as. A first declaration of UTF-8 in its usual place that has
other parameters behind it is recorded as the five characters behind its equals sign, an
opening quote among them. -/
def record : List WrittenParameter → List (List Char × List Char)
  | p :: q :: rest =>
    let value :=
      if WrittenParameter.isUsualUtf8 p && p.quoted then '"' :: "utf-".toList
      else WrittenParameter.recordedValue p
    (lowered p.name, value) ::
      (q :: rest).map fun p => (lowered p.name, WrittenParameter.recordedValue p)
  | ps => ps.map fun p => (lowered p.name, WrittenParameter.recordedValue p)

def ofChars? (cs : List Char) : Option MediaType :=
  let type := cs.takeWhile Text.isTokenChar
  match cs.dropWhile Text.isTokenChar with
  | '/' :: rest =>
    let subtype := rest.takeWhile Text.isTokenChar
    let list := rest.dropWhile Text.isTokenChar
    if type.isEmpty || (subtype.isEmpty && !list.isEmpty) then none
    else
      (readParameters? list).map fun (parameters, ending) =>
        let essence := lowered type ++ ['/'] ++ lowered subtype
        { type := String.ofList (lowered type),
          fullSubtype := String.ofList (lowered subtype),
          parameters := (record parameters).map fun (n, v) =>
            (String.ofList n, String.ofList v),
          text := String.ofList <|
            if parameters.isEmpty then essence
            else essence ++ parameters.flatMap WrittenParameter.text ++ ending }
  | _ => none

def ofText? (s : String) : Option MediaType := ofChars? s.toList

/-! ## Derived parts -/

/-- Type and full subtype. -/
def essence (m : MediaType) : String := m.type ++ "/" ++ m.fullSubtype

/-- The subtype and its suffix, parted at the last plus sign that does not lead. -/
def splitSuffix (cs : List Char) : List Char × Option (List Char) :=
  match cs with
  | [] => ([], none)
  | first :: rest =>
    if rest.contains '+' then
      let suffix := (rest.reverse.takeWhile (· ≠ '+')).reverse
      (first :: rest.take (rest.length - suffix.length - 1), some suffix)
    else (cs, none)

/-- The subtype without its suffix. -/
def subtype (m : MediaType) : String := String.ofList (splitSuffix m.fullSubtype.toList).1

def suffix (m : MediaType) : Option String :=
  (splitSuffix m.fullSubtype.toList).2.map String.ofList

/-- The first parameter of a name. -/
def parameter? (m : MediaType) (name : String) : Option String := m.parameters.lookup name

end MediaType

end WebRequest
