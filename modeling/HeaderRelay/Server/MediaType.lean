set_option autoImplicit false

namespace HeaderRelay.Server.MediaType

/-- Whether a character may stand in a type, a subtype or a parameter. -/
def isToken (c : Char) : Bool :=
  let n := c.toNat
  33 ≤ n && n ≤ 126 && !"\"(),/:;<=>?@[\\]\x7b\x7d".toList.contains c

/-- Whether a character may stand in a quoted parameter. -/
def isQuotable (c : Char) : Bool := 32 ≤ c.toNat && c.toNat ≤ 126

/-- The part before the last `+` of a subtype, and the suffix after it. -/
def splitSuffix (subtype : List Char) : List Char × Option (List Char) :=
  let tail := (subtype.reverse.takeWhile (· != '+')).reverse
  let front := subtype.take (subtype.length - tail.length - 1)
  if front.isEmpty then (subtype, none) else (front, some tail)

/-- What follows a value behind its opening quote. The value has at least one character, which may
be a quote as well. -/
def afterQuoted? : List Char → Option (List Char)
  | [] => none
  | c :: rest =>
      let value := rest.takeWhile (· != '"')
      match rest.drop value.length with
      | [] => none
      | _ :: after => if isQuotable c && value.all isQuotable then some after else none

/-- Whether parameters, each after a semicolon, are well formed. The last value may be left out. -/
def parametersOk : Nat → List Char → Bool
  | 0, _ => false
  | fuel + 1, cs =>
      match cs.dropWhile (· == ' ') with
      | [] => true
      | cs =>
          let name := cs.takeWhile isToken
          !name.isEmpty && match cs.drop name.length with
          | '=' :: '"' :: rest =>
              match (afterQuoted? rest).map (·.dropWhile (· == ' ')) with
              | some [] => true
              | some (';' :: rest) => parametersOk fuel rest
              | _ => false
          | '=' :: rest =>
              let value := rest.takeWhile isToken
              match rest.drop value.length with
              | [] => true
              | ';' :: rest => !value.isEmpty && parametersOk fuel rest
              | _ => false
          | _ => false

def lower (cs : List Char) : String := String.ofList (cs.map Char.toLower)

/-- Whether a content type announces JSON: `application/json` or a type with the suffix
`+json`, with any parameters. -/
def isJson (contentType : String) : Bool :=
  let isSpace := fun c : Char => c == ' ' || c == '\t'
  let cs := contentType.toList.dropWhile isSpace
  let cs := (cs.reverse.dropWhile isSpace).reverse
  let type := cs.takeWhile isToken
  match cs.dropWhile isToken with
  | '/' :: rest =>
      let (subtype, suffix) := splitSuffix (rest.takeWhile isToken)
      let parameters := match rest.dropWhile isToken with
        | [] => true
        | ';' :: rest => parametersOk (rest.length + 1) rest
        | _ => false
      lower type == "application" && parameters &&
        (lower subtype == "json" || (suffix.map lower) == some "json")
  | _ => false

end HeaderRelay.Server.MediaType
