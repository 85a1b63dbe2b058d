import TopicRouting.Yaml.Tag
import TopicRouting.Yaml.Token

/-! A document as a tree. What is left out between two marks is an empty word; a list under a key
may stand as far out as the key. A node may be given a name, under which it can stand in other
places of the document too. -/
namespace TopicRouting.Yaml

inductive Node where
  | scalar (tag : Tag) (text : Text)
  | list (tag : Tag) (items : List Node)
  | mapping (tag : Tag) (entries : List (Node × Node))
  | endless

namespace Node

def empty : Node := scalar .null []

def deepest : Nat := 488

structure Context where
  cut : Fault
  starts : List (Text × Text)
  room : Nat := deepest

structure Rest where
  tokens : List Token
  named : List (Text × Node) := []

namespace Rest

def name (anchor : Option Text) (node : Node) (r : Rest) : Except Fault Rest :=
  match anchor with
  | none => .ok r
  | some given =>
      if r.named.any (·.1 == given) then .error .namedTwice
      else .ok { r with named := (given, node) :: r.named }

def complete (anchor : Option Text) (node : Node) (r : Rest) : Node × Rest :=
  match anchor with
  | none => (node, r)
  | some given => (node, { r with named := (given, node) :: r.named })

end Rest

structure Properties where
  anchor : Option Text := none
  tag : Option Text := none

def Context.resolve (c : Context) (name : TagName) : Except Fault Text :=
  match name.handle with
  | none => .ok name.suffix
  | some handle =>
      match c.starts.lookup handle with
      | some start => .ok (start ++ name.suffix)
      | none => .error .badOrder

def Context.properties (c : Context) : List Token → Except Fault (Properties × List Token)
  | [] | [.anchor _] | [.tag _] => .error c.cut
  | .anchor name :: .tag tag :: rest | .tag tag :: .anchor name :: rest => do
      .ok (⟨some name, some (← c.resolve tag)⟩, rest)
  | .anchor name :: rest => .ok (⟨some name, none⟩, rest)
  | .tag tag :: rest => do .ok (⟨none, some (← c.resolve tag)⟩, rest)
  | tokens => .ok ({}, tokens)

namespace Properties

def isOpen (p : Properties) : Bool := p.tag.all (· == ['!'])

/-- The tag of a text. One with a mark alone as its tag is taken as if it had none around it. -/
def tagOf (p : Properties) (isPlain : Bool) (text : Text) : Tag :=
  match p.tag with
  | none => if isPlain then .ofWord text else .string
  | some tag => if p.isOpen then .ofWord text else .ofName tag

def tagOr (p : Properties) (usual : Tag) : Tag :=
  if p.isOpen then usual else .ofName (p.tag.getD [])

end Properties

def Context.enter (c : Context) (p : Properties) (r : Rest) : Except Fault (Context × Rest) := do
  let r ← r.name p.anchor endless
  match c.room with
  | 0 => .error .tooDeep
  | room + 1 => .ok ({ c with room := room }, r)

mutual

def read (c : Context) (inBlock onKey : Bool) : Nat → Rest → Except Fault (Node × Rest)
  | 0, _ => .error c.cut
  | fuel + 1, r =>
      match r.tokens with
      | .alias name :: rest =>
          match r.named.lookup name with
          | some node => .ok (node, { r with tokens := rest })
          | none => .error .unknownAlias
      | tokens => do
          let (p, tokens) ← c.properties tokens
          match tokens with
          | [] => .error c.cut
          | .scalar text isPlain :: rest => do
              let node := scalar (p.tagOf isPlain text) text
              .ok (node, ← { r with tokens := rest }.name p.anchor node)
          | .openList :: rest => do
              let (inner, r) ← c.enter p { r with tokens := rest }
              let (items, r) ← readFlowItems inner true fuel r
              .ok (r.complete p.anchor (.list (p.tagOr .list) items))
          | .openMapping :: rest => do
              let (inner, r) ← c.enter p { r with tokens := rest }
              let (entries, r) ← readFlowEntries inner true fuel r
              .ok (r.complete p.anchor (.mapping (p.tagOr .mapping) entries))
          | token :: rest =>
              if onKey && token = .item then do
                let (inner, r) ← c.enter p { r with tokens := token :: rest }
                let (items, r) ← readOuterItems inner fuel r
                .ok (r.complete p.anchor (.list (p.tagOr .list) items))
              else if inBlock && token = .listBlock then do
                let (inner, r) ← c.enter p { r with tokens := rest }
                let (items, r) ← readItems inner fuel r
                .ok (r.complete p.anchor (.list (p.tagOr .list) items))
              else if inBlock && token = .mappingBlock then do
                let (inner, r) ← c.enter p { r with tokens := rest }
                let (entries, r) ← readEntries inner fuel r
                .ok (r.complete p.anchor (.mapping (p.tagOr .mapping) entries))
              else if p.anchor.isSome || p.tag.isSome then do
                let node := scalar (p.tagOr .null) []
                .ok (node, ← { r with tokens := token :: rest }.name p.anchor node)
              else .error .badOrder

def readUnless (c : Context) (inBlock onKey : Bool) (ends : List Token) :
    Nat → Rest → Except Fault (Node × Rest)
  | 0, _ => .error c.cut
  | fuel + 1, r =>
      match r.tokens with
      | [] => .error c.cut
      | token :: _ =>
          if ends.contains token then .ok (empty, r) else read c inBlock onKey fuel r

def readValue (c : Context) (inBlock onKey : Bool) (ends : List Token) :
    Nat → Rest → Except Fault (Node × Rest)
  | 0, _ => .error c.cut
  | fuel + 1, r =>
      match r.tokens with
      | [] => .error c.cut
      | .value :: rest => readUnless c inBlock onKey ends fuel { r with tokens := rest }
      | _ => .ok (empty, r)

def readItems (c : Context) : Nat → Rest → Except Fault (List Node × Rest)
  | 0, _ => .error c.cut
  | fuel + 1, r =>
      match r.tokens with
      | [] => .error c.cut
      | .item :: rest => do
          let (item, r) ←
            readUnless c true false [.item, .blockEnd] fuel { r with tokens := rest }
          let (items, r) ← readItems c fuel r
          .ok (item :: items, r)
      | .blockEnd :: rest => .ok ([], { r with tokens := rest })
      | _ => .error .badOrder

def readOuterItems (c : Context) : Nat → Rest → Except Fault (List Node × Rest)
  | 0, _ => .error c.cut
  | fuel + 1, r =>
      match r.tokens with
      | [] => .error c.cut
      | .item :: rest => do
          let ends : List Token := [.item, .key, .value, .blockEnd]
          let (item, r) ← readUnless c true false ends fuel { r with tokens := rest }
          let (items, r) ← readOuterItems c fuel r
          .ok (item :: items, r)
      | _ => .ok ([], r)

def readEntries (c : Context) : Nat → Rest → Except Fault (List (Node × Node) × Rest)
  | 0, _ => .error c.cut
  | fuel + 1, r =>
      match r.tokens with
      | [] => .error c.cut
      | .key :: rest => do
          let ends : List Token := [.key, .value, .blockEnd]
          let (name, r) ← readUnless c true true ends fuel { r with tokens := rest }
          let (item, r) ← readValue c true true ends fuel r
          let (entries, r) ← readEntries c fuel r
          .ok ((name, item) :: entries, r)
      | .blockEnd :: rest => .ok ([], { r with tokens := rest })
      | _ => .error .badOrder

def readFlowItems (c : Context) (isFirst : Bool) :
    Nat → Rest → Except Fault (List Node × Rest)
  | 0, _ => .error c.cut
  | fuel + 1, r =>
      match r.tokens, isFirst with
      | [], _ => .error c.cut
      | .closeList :: rest, _ => .ok ([], { r with tokens := rest })
      | .comma :: .closeList :: rest, false => .ok ([], { r with tokens := rest })
      | .comma :: rest, false => do
          let (item, r) ← readFlowItem c fuel { r with tokens := rest }
          let (items, r) ← readFlowItems c false fuel r
          .ok (item :: items, r)
      | _, true => do
          let (item, r) ← readFlowItem c fuel r
          let (items, r) ← readFlowItems c false fuel r
          .ok (item :: items, r)
      | _, false => .error .badOrder

def readFlowItem (c : Context) : Nat → Rest → Except Fault (Node × Rest)
  | 0, _ => .error c.cut
  | fuel + 1, r =>
      match r.tokens with
      | .key :: rest => do
          let (inner, r) ← c.enter {} { r with tokens := rest }
          let ends : List Token := [.comma, .closeList]
          let (name, r) ← readUnless inner false false (.value :: ends) fuel r
          let (item, r) ← readValue inner false false ends fuel r
          .ok (.mapping .mapping [(name, item)], r)
      | _ => read c false false fuel r

def readFlowEntries (c : Context) (isFirst : Bool) :
    Nat → Rest → Except Fault (List (Node × Node) × Rest)
  | 0, _ => .error c.cut
  | fuel + 1, r =>
      match r.tokens, isFirst with
      | [], _ => .error c.cut
      | .closeMapping :: rest, _ => .ok ([], { r with tokens := rest })
      | .comma :: .closeMapping :: rest, false => .ok ([], { r with tokens := rest })
      | .comma :: rest, false => do
          let (entry, r) ← readFlowEntry c fuel { r with tokens := rest }
          let (entries, r) ← readFlowEntries c false fuel r
          .ok (entry :: entries, r)
      | _, true => do
          let (entry, r) ← readFlowEntry c fuel r
          let (entries, r) ← readFlowEntries c false fuel r
          .ok (entry :: entries, r)
      | _, false => .error .badOrder

def readFlowEntry (c : Context) : Nat → Rest → Except Fault ((Node × Node) × Rest)
  | 0, _ => .error c.cut
  | fuel + 1, r =>
      match r.tokens with
      | .key :: rest => do
          let ends : List Token := [.comma, .closeMapping]
          let (name, r) ←
            readUnless c false false (.value :: ends) fuel { r with tokens := rest }
          let (item, r) ← readValue c false false ends fuel r
          .ok ((name, item), r)
      | _ => do
          let (name, r) ← read c false false fuel r
          .ok ((name, empty), r)

end

def usualStarts : List (Text × Text) := [("!", "!"), ("!!", Tag.start)]

def readDirectives (cut : Fault) (isVersioned : Bool) (starts : List (Text × Text)) :
    List Token → Except Fault (List (Text × Text) × List Token)
  | [] => .error cut
  | .directive (.version major) :: rest =>
      if isVersioned || major ≠ 1 then .error .badOrder
      else readDirectives cut true starts rest
  | .directive (.tagStart handle start) :: rest =>
      if starts.any (·.1 == handle) then .error .badOrder
      else readDirectives cut isVersioned ((handle, start) :: starts) rest
  | .directive .other :: rest => readDirectives cut isVersioned starts rest
  | tokens => .ok (starts, tokens)

def checkEnd (cut : Fault) (tokens : List Token) : Except Fault Unit :=
  match tokens.dropWhile (· = .documentEnd) with
  | [] => .error cut
  | .streamEnd :: _ => .ok ()
  | tokens => do
      match ← readDirectives cut false [] tokens with
      | (_, []) => .error cut
      | (_, .documentStart :: _) => .error .secondDocument
      | _ => .error .badOrder

def readContent (c : Context) (fuel : Nat) (tokens : List Token) :
    Except Fault (Node × Rest) :=
  match tokens with
  | .directive _ :: _ => .ok (empty, { tokens := tokens })
  | tokens =>
      readUnless c true false [.documentStart, .documentEnd, .streamEnd] fuel { tokens := tokens }

def ofTokens (tokens : List Token) (cut : Fault) : Except Fault (Option Node) := do
  let fuel := 4 * tokens.length + 4
  match tokens with
  | [] => .error cut
  | .streamEnd :: _ => .ok none
  | .documentStart :: _ | .directive _ :: _ => do
      let (starts, tokens) ← readDirectives cut false [] tokens
      match tokens with
      | [] => .error cut
      | .documentStart :: tokens => do
          let (node, r) ← readContent { cut := cut, starts := starts ++ usualStarts } fuel tokens
          checkEnd cut r.tokens
          .ok (some node)
      | _ => .error .badOrder
  | tokens => do
      let (node, r) ←
        read { cut := cut, starts := usualStarts } true false fuel { tokens := tokens }
      checkEnd cut r.tokens
      .ok (some node)

end Node
end TopicRouting.Yaml
