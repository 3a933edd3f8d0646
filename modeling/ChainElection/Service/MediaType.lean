/-!
Media types, as far as it matters whether one stands for JSON.

A media type is a type, a slash and a subtype, and may have parameters behind
semicolons. It stands for JSON if its type is `application` and its subtype, or
the suffix of it behind a plus sign, is `json`, in letters of either case.

* `MediaType.isJson` is the whole test.
-/

namespace ChainElection.MediaType

/-- May the character stand in a name? -/
def isToken (c : Char) : Bool :=
  c.isAlphanum || "!#$%&'*+-.^_`|~".toList.contains c

/-- May the character stand between quotes? -/
def isQuotable (c : Char) : Bool := 31 < c.toNat && c.toNat ≠ 127

/-- What stands behind a quoted value that has begun. The first character is never the closing quote. -/
def afterQuoted : List Char → Option (List Char)
  | [] => none
  | c :: r =>
    if isQuotable c then
      let r := r.dropWhile fun c => isQuotable c && c ≠ '"'
      match r with
      | '"' :: r =>
        match r.dropWhile (· == ' ') with
        | [] => some []
        | ';' :: r => some r
        | _ => none
      | _ => none
    else none

/-- What stands behind a value without quotes. -/
def afterPlain (s : List Char) : Option (List Char) :=
  match s.dropWhile isToken with
  | [] => some []
  | ';' :: r => if s.head? = some ';' then none else some r
  | _ => none

/-- What stands behind one parameter. -/
def afterParameter (s : List Char) : Option (List Char) :=
  match s.dropWhile isToken with
  | '=' :: r =>
    if s.head? = some '=' then none
    else
      match r with
      | '"' :: q => afterQuoted q
      | r => afterPlain r
  | _ => none

/-- Are these parameters? There are at most `n` of them. -/
def areParameters (n : Nat) (s : List Char) : Bool :=
  match s.dropWhile (· == ' '), n with
  | [], _ => true
  | _, 0 => false
  | s, n + 1 =>
    match afterParameter s with
    | some r => areParameters n r
    | none => false

/-- The type and the subtype, if the text is a media type. -/
def parts (s : List Char) : Option (List Char × List Char) :=
  let type := s.takeWhile isToken
  match s.dropWhile isToken with
  | '/' :: r =>
    let subtype := r.takeWhile isToken
    let rest := r.dropWhile isToken
    if type = [] then none
    else
      match rest with
      | [] => some (type, subtype)
      | ';' :: p => if subtype ≠ [] ∧ areParameters p.length p then some (type, subtype) else none
      | _ => none
  | _ => none

/-- What stands before and behind the last plus sign, which is not the first character. -/
def splitSuffix (s : List Char) : List Char × Option (List Char) :=
  let suffix := (s.reverse.takeWhile (· ≠ '+')).reverse
  let stem := s.take (s.length - suffix.length - 1)
  if stem = [] ∨ suffix.length = s.length then (s, none) else (stem, some suffix)

/-- Is this a name, in letters of either case? -/
def isNamed (name : String) (s : List Char) : Bool := s.map Char.toLower == name.toList

/-- Does the media type stand for JSON? -/
def isJson (s : List Char) : Bool :=
  match parts s with
  | none => false
  | some (type, subtype) =>
    let (stem, suffix) := splitSuffix subtype
    isNamed "application" type && (isNamed "json" stem || suffix.any (isNamed "json"))

end ChainElection.MediaType
