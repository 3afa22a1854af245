import HeaderRelay.Yaml.Token

set_option autoImplicit false

namespace HeaderRelay.Yaml

/-- What is said of a node in front of it. -/
structure Properties (α : Type) where
  anchor : Option α
  /-- The bytes of the tag, which need not be a text. -/
  tag : Option Bytes
  deriving Repr

def Properties.none {α : Type} : Properties α := ⟨Option.none, Option.none⟩

inductive Node (α : Type)
  | scalar (properties : Properties α) (style : Style) (text : String)
  | sequence (properties : Properties α) (items : List (Node α))
  | mapping (properties : Properties α) (members : List (Node α × Node α))
  /-- A node that stands elsewhere. -/
  | alias (anchor : α)
  deriving Repr

namespace Node

def empty {α : Type} (p : Properties α) : Node α := .scalar p .plain ""

inductive Place
  /-- Between brackets. -/
  | flow
  | block
  /-- In a mapping, where the entries of a sequence may begin at the column of the keys. -/
  | member
  deriving DecidableEq

/-- What is read, and the tokens behind it. -/
abbrev Found (α : Type) := α × List Token

/-- What handles stand for unless a document says otherwise. -/
def defaultHandles : List (String × Bytes) :=
  [("!", Utf8.encode "!"), ("!!", Utf8.encode "tag:yaml.org,2002:")]

/-- The bytes before the first that is zero; what follows it is not part of a tag. -/
def untilZero (bytes : Bytes) : Bytes := bytes.takeWhile (· != 0)

def tag? (handles : List (String × Bytes)) (handle : String) (suffix : Bytes) : Option Bytes :=
  if handle.isEmpty then some (untilZero suffix)
  else
    ((handles ++ defaultHandles).lookup handle).map fun meaning =>
      untilZero meaning ++ untilZero suffix

/-- Reads what is said of a node, in either order. -/
def properties? (handles : List (String × Bytes)) :
    List Token → Option (Found (Properties String))
  | .anchor name :: .tag handle suffix :: rest
  | .tag handle suffix :: .anchor name :: rest =>
      (tag? handles handle suffix).map fun tag => (⟨some name, some tag⟩, rest)
  | .anchor name :: rest => some (⟨some name, none⟩, rest)
  | .tag handle suffix :: rest =>
      (tag? handles handle suffix).map fun tag => (⟨none, some tag⟩, rest)
  | tokens => some (Properties.none, tokens)

/-- A node of which nothing but its properties is written. -/
def bare? (p : Properties String) (tokens : List Token) : Option (Found (Node String)) :=
  if p.anchor.isSome || p.tag.isSome then some (empty p, tokens) else none

/-- Reads a node, or leaves it out before one of the given tokens. -/
def orEmpty? (ends : List Token) (read : List Token → Option (Found (Node String))) :
    List Token → Option (Found (Node String))
  | [] => none
  | token :: rest =>
      if ends.contains token then some (empty Properties.none, token :: rest)
      else read (token :: rest)

/-- Reads the value of a member, if there is one. -/
def value? (ends : List Token) (read : List Token → Option (Found (Node String))) :
    List Token → Option (Found (Node String))
  | .value :: rest => orEmpty? ends read rest
  | tokens => some (empty Properties.none, tokens)

/-- Skips the comma in front of every entry but the first. -/
def comma? (first : Bool) : List Token → Option (List Token)
  | .flowEntry :: rest => if first then some (.flowEntry :: rest) else some rest
  | tokens => if first then some tokens else none

/-- Reads the key behind a question mark in a sequence. If it is left out, the mark behind it
is passed over. -/
def pairKey? (read : List Token → Option (Found (Node String))) :
    List Token → Option (Found (Node String))
  | .value :: rest | .flowEntry :: rest | .flowSequenceEnd :: rest =>
      some (empty Properties.none, rest)
  | tokens => read tokens

section Reading

variable (handles : List (String × Bytes))

mutual

def read? : Nat → Place → List Token → Option (Found (Node String))
  | 0, _, _ => none
  | _, _, .alias name :: rest => some (.alias name, rest)
  | fuel + 1, place, tokens => do
      let (p, tokens) ← properties? handles tokens
      match tokens with
      | .scalar style text :: rest => some (.scalar p style text, rest)
      | .flowSequenceStart :: rest =>
          (flowItems? fuel true rest).map fun (items, rest) => (.sequence p items, rest)
      | .flowMappingStart :: rest =>
          (flowMembers? fuel true rest).map fun (members, rest) => (.mapping p members, rest)
      | .blockSequenceStart :: rest =>
          if place = .flow then bare? p tokens
          else (blockItems? fuel rest).map fun (items, rest) => (.sequence p items, rest)
      | .blockMappingStart :: rest =>
          if place = .flow then bare? p tokens
          else (blockMembers? fuel rest).map fun (members, rest) => (.mapping p members, rest)
      | .blockEntry :: _ =>
          if place = .member then
            (entries? fuel tokens).map fun (items, rest) => (.sequence p items, rest)
          else bare? p tokens
      | _ => bare? p tokens

def blockItems? : Nat → List Token → Option (Found (List (Node String)))
  | fuel + 1, .blockEntry :: rest => do
      let (item, rest) ← orEmpty? [.blockEntry, .blockEnd] (read? fuel .block) rest
      let (items, rest) ← blockItems? fuel rest
      return (item :: items, rest)
  | _, .blockEnd :: rest => some ([], rest)
  | _, _ => none

def entries? : Nat → List Token → Option (Found (List (Node String)))
  | fuel + 1, .blockEntry :: rest => do
      let (item, rest) ←
        orEmpty? [.blockEntry, .key, .value, .blockEnd] (read? fuel .block) rest
      let (items, rest) ← entries? fuel rest
      return (item :: items, rest)
  | _, tokens => some ([], tokens)

def blockMembers? : Nat → List Token → Option (Found (List (Node String × Node String)))
  | fuel + 1, .key :: rest => do
      let ends := [.key, .value, .blockEnd]
      let (key, rest) ← orEmpty? ends (read? fuel .member) rest
      let (value, rest) ← value? ends (read? fuel .member) rest
      let (members, rest) ← blockMembers? fuel rest
      return ((key, value) :: members, rest)
  | _, .blockEnd :: rest => some ([], rest)
  | _, _ => none

/-- Reads items up to their bracket. A member by itself is a mapping. -/
def flowItems? : Nat → Bool → List Token → Option (Found (List (Node String)))
  | _, _, .flowSequenceEnd :: rest => some ([], rest)
  | 0, _, _ => none
  | fuel + 1, first, tokens =>
      match comma? first tokens with
      | none => none
      | some (.flowSequenceEnd :: rest) => some ([], rest)
      | some (.key :: rest) => do
          let (key, rest) ← pairKey? (read? fuel .flow) rest
          let (value, rest) ← value? [.flowEntry, .flowSequenceEnd] (read? fuel .flow) rest
          let (items, rest) ← flowItems? fuel false rest
          return (.mapping Properties.none [(key, value)] :: items, rest)
      | some tokens => do
          let (item, rest) ← read? fuel .flow tokens
          let (items, rest) ← flowItems? fuel false rest
          return (item :: items, rest)

def flowMembers? : Nat → Bool → List Token → Option (Found (List (Node String × Node String)))
  | _, _, .flowMappingEnd :: rest => some ([], rest)
  | 0, _, _ => none
  | fuel + 1, first, tokens =>
      match comma? first tokens with
      | none => none
      | some (.flowMappingEnd :: rest) => some ([], rest)
      | some (.key :: rest) => do
          let (key, rest) ←
            orEmpty? [.value, .flowEntry, .flowMappingEnd] (read? fuel .flow) rest
          let (value, rest) ← value? [.flowEntry, .flowMappingEnd] (read? fuel .flow) rest
          let (members, rest) ← flowMembers? fuel false rest
          return ((key, value) :: members, rest)
      | some tokens => do
          let (key, rest) ← read? fuel .flow tokens
          let (members, rest) ← flowMembers? fuel false rest
          return ((key, empty Properties.none) :: members, rest)

end

end Reading

def directives : List Token → List Token × List Token
  | .version major minor :: rest =>
      let (ds, rest) := directives rest
      (.version major minor :: ds, rest)
  | .handle name meaning :: rest =>
      let (ds, rest) := directives rest
      (.handle name meaning :: ds, rest)
  | tokens => ([], tokens)

def versions (ds : List Token) : List (Nat × Nat) :=
  ds.filterMap fun
    | .version major minor => some (major, minor)
    | _ => none

def handles (ds : List Token) : List (String × Bytes) :=
  ds.filterMap fun
    | .handle name meaning => some (name, meaning)
    | _ => none

/-- Whether at most one version is said, and one that is known, and no handle is said twice. -/
def areSound (ds : List Token) : Bool :=
  (versions ds == [] || versions ds == [(1, 1)] || versions ds == [(1, 2)]) &&
    decide ((handles ds).map (·.1)).Nodup

/-- Whether a document has no content before these tokens. -/
def endsContent : List Token → Bool
  | [] => true
  | .version _ _ :: _ => true
  | .handle _ _ :: _ => true
  | .documentStart :: _ => true
  | .documentEnd :: _ => true
  | _ => false

def document? (tokens : List Token) : Option (Found (Node String)) :=
  let fuel := 2 * tokens.length + 2
  match directives tokens with
  | ([], .documentStart :: rest) =>
      if endsContent rest then some (empty Properties.none, rest) else read? [] fuel .block rest
  | ([], _) => read? [] fuel .block tokens
  | (ds, .documentStart :: rest) =>
      if !areSound ds then none
      else if endsContent rest then some (empty Properties.none, rest)
      else read? (handles ds) fuel .block rest
  | _ => none

/-- Whether nothing but the end of a document follows. -/
def isEnd : List Token → Bool
  | [] => true
  | .documentEnd :: rest => isEnd rest
  | _ => false

/-- The node of the only document that tokens make up; none of nothing. -/
def ofTokens? (tokens : List Token) : Option (Option (Node String)) :=
  if tokens.isEmpty then some none
  else
    match document? tokens with
    | some (node, rest) => if isEnd rest then some (some node) else none
    | none => none

end Node

end HeaderRelay.Yaml
